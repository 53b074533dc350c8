import FluentQuery.CommandLine.Invocation
import FluentQuery.Config.Reader
import FluentQuery.Json.Reader
import FluentQuery.Program

/-!
# Running a command

What a command prints and how it exits, given the contents of the files it names. The configuration
is read first, the flags are applied on top of it, and then the program is read.
-/

namespace FluentQuery.CommandLine

/-! ## Files -/

/-- Why a file cannot be read. -/
inductive FileFault where
  | notFound
  | isDirectory
  | notText
  /-- Any other reason, in the words of the system. -/
  | other (reason : String)
deriving DecidableEq, Repr

/-- The wording of a file that cannot be read. -/
def FileFault.message : FileFault → String
  | .notFound => "No such file or directory (os error 2)"
  | .isDirectory => "Is a directory (os error 21)"
  | .notText => "stream did not contain valid UTF-8"
  | .other reason => reason

/-- The contents of the files that an invocation names. -/
structure Contents where
  /-- The file with the configuration; not looked at if none is named. -/
  config : Except FileFault String
  /-- The file with the program. -/
  program : Except FileFault String

/-- Why the files do not give a program and a configuration. -/
inductive LoadFault where
  | unreadable (path : String) (fault : FileFault)
  | notJson (path : String) (fault : Json.Fault)
  | badConfig (path : String) (fault : Config.Fault)

/-- The name of a file in messages; `-` is the standard input. -/
def displayPath (path : String) : String := if path = "-" then "<stdin>" else path

/-- The wording of files that do not give a program and a configuration. -/
def LoadFault.message : LoadFault → String
  | .unreadable path fault => "failed to read '" ++ displayPath path ++ "': " ++ fault.message
  | .notJson path fault => "'" ++ displayPath path ++ "' is not valid JSON: " ++ fault.message
  | .badConfig path fault => "'" ++ path ++ "': " ++ (Failure.invalidConfig fault).message

/-- The text of a file. -/
def readText (path : String) (content : Except FileFault String) : Except LoadFault String :=
  content.mapError (.unreadable path)

/-- A configuration with flags applied on top of it. -/
def Settings.applyTo (settings : Settings) (config : Config) : Config where
  roots := config.roots ++ settings.roots
  database := settings.database.or config.database
  connectors := config.connectors ++ settings.connectors
  recursionLimit := settings.recursionLimit.getD config.recursionLimit

/-- The configuration of an invocation. -/
def loadConfig (settings : Settings) (content : Except FileFault String) :
    Except LoadFault Config := do
  match settings.file with
  | none => return settings.applyTo {}
  | some path =>
    let text ← readText path content
    let config ← (Config.read text).mapError (.badConfig path)
    return settings.applyTo config

/-- The program of an invocation. -/
def loadProgram (path : String) (content : Except FileFault String) : Except LoadFault Json := do
  let text ← readText path content
  (Json.read text).mapError (.notJson path)

/-- The configuration and the program of an invocation. -/
def load (invocation : Invocation) (contents : Contents) : Except LoadFault (Config × Json) := do
  let config ← loadConfig invocation.settings contents.config
  let program ← loadProgram invocation.input contents.program
  return (config, program)

/-! ## Reports -/

/-- What a command prints, and how it exits. -/
structure Report where
  exitCode : Nat
  out : String
  err : String
deriving DecidableEq, Repr

/-- A line about an error. -/
def errorLine (message : String) : String := "error: " ++ message ++ "\n"

/-- The report of a command that fails, after what it has printed about errors before. -/
def Report.failed (before message : String) : Report := ⟨1, "", before ++ errorLine message⟩

/-- Sites as JSON. -/
def sitesText (compact : Bool) (sites : List Site) : String :=
  let json := Json.array (sites.map Site.toJson)
  (if compact then json.compact else json.pretty) ++ "\n"

/-- The text of a trace, if one is asked for. -/
def traceText (verbosity : Option Verbosity) (events : List Event) : String :=
  match verbosity with
  | none => ""
  | some v => linesText (traceLines v events)

/-- Analyze a program and print its sites. -/
def analyze (request : AnalyzeRequest) (config : Config) (program : Json) : Report :=
  let traced := Program.analyze config program
  let trace := traceText request.verbosity? traced.events
  match traced.result with
  | .ok sites => ⟨0, sitesText request.compact sites, trace⟩
  | .error failure => .failed trace failure.message

/-- The wording of a failure with its position, if it has one. -/
def locatedMessage (failure : Failure) : String :=
  match failure.operation? with
  | some (_, some span) => failure.message ++ s!" (at {span.start}..{span.stop})"
  | _ => failure.message

/-- Check a program and print nothing if it is fine. -/
def check (config : Config) (program : Json) : Report :=
  match (Program.analyze config program).result with
  | .ok _ => ⟨0, "", ""⟩
  | .error failure => .failed "" (locatedMessage failure)

/-- Run a command. -/
def run (invocation : Invocation) (contents : Contents) : Report :=
  match load invocation contents with
  | .error fault => .failed "" fault.message
  | .ok (config, program) =>
    match invocation with
    | .analyze request => analyze request config program
    | .check _ => check config program

end FluentQuery.CommandLine
