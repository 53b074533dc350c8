import FluentQuery.Trace

/-!
# Invocations

What a command line asks for. There are two commands: `analyze` prints the sites of a program, and
`check` only reports what is wrong with it.
-/

namespace FluentQuery.CommandLine

/-- The settings given as flags, and the file with the others. -/
structure Settings where
  /-- The file to read the configuration from. -/
  file : Option String := none
  roots : List String := []
  database : Option String := none
  connectors : List String := []
  recursionLimit : Option Nat := none
deriving DecidableEq, Repr

/-- What `analyze` is asked for. -/
structure AnalyzeRequest where
  /-- The file with the program, `-` for the standard input. -/
  input : String
  settings : Settings
  /-- Print the sites in one line. -/
  compact : Bool
  /-- Print a trace. -/
  trace : Bool
  /-- How often the trace is asked to be more verbose; any number asks for a trace. -/
  verbose : Nat
deriving DecidableEq, Repr

/-- What `check` is asked for. -/
structure CheckRequest where
  /-- The file with the program, `-` for the standard input. -/
  input : String
  settings : Settings
deriving DecidableEq, Repr

/-- What a command line asks for. -/
inductive Invocation where
  | analyze (request : AnalyzeRequest)
  | check (request : CheckRequest)
deriving DecidableEq, Repr

/-- How much of the trace is shown, if any. -/
def AnalyzeRequest.verbosity? (request : AnalyzeRequest) : Option Verbosity :=
  match request.verbose with
  | 0 => if request.trace then some .normal else none
  | 1 => some .verbose
  | _ + 2 => some .veryVerbose

namespace Invocation

/-- The file with the program. -/
def input : Invocation → String
  | .analyze request => request.input
  | .check request => request.input

/-- The settings given as flags. -/
def settings : Invocation → Settings
  | .analyze request => request.settings
  | .check request => request.settings

end Invocation

/-- Why a command line asks for nothing that can be done. -/
inductive UsageFault where
  /-- Help is asked for. -/
  | help
  /-- There is no command. -/
  | noCommand
  /-- There is no such command. -/
  | unknownCommand
  /-- There is no such flag, or no place for another argument. -/
  | unknownArgument
  /-- The file with the program is missing. -/
  | missingInput
  /-- A flag lacks its value, or a file name is empty. -/
  | missingValue
  /-- The recursion limit is not a number of 32 bits. -/
  | badNumber
  /-- A flag is given twice. -/
  | repeated
  /-- A switch is given a value. -/
  | unwantedValue
deriving DecidableEq, Repr

namespace UsageFault

/-- The exit code. -/
def exitCode : UsageFault → Nat
  | .help => 0
  | _ => 2

end UsageFault

end FluentQuery.CommandLine
