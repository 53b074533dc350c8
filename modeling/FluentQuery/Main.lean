import FluentQuery.CommandLine.Parser
import FluentQuery.CommandLine.Run

/-!
# The command line program

Reads the files that the arguments name, runs the command and prints its report.
-/

namespace FluentQuery.CommandLine

/-- How the program is used. -/
def usage : String :=
  "Usage: fluentquery analyze <TREE> [--compact] [--trace] [-v] [SETTINGS]\n" ++
  "       fluentquery check <TREE> [SETTINGS]\n\n" ++
  "TREE is an ESTree document in JSON, or - for the standard input.\n\n" ++
  "Settings:\n" ++
  "  -r, --root <IDENT>         identifier that denotes a database\n" ++
  "  -d, --database <NAME>      name of the database of the roots\n" ++
  "  -c, --connector <IDENT>    function whose call in a declaration binds a root\n" ++
  "      --config <FILE>        configuration in JSON; flags are applied on top\n" ++
  "      --recursion-limit <N>  greatest number of operations in a chain\n"

/-- The wording of a command line that cannot be followed. -/
def UsageFault.message : UsageFault → String
  | .help => ""
  | .noCommand => "a command is required"
  | .unknownCommand => "there is no such command"
  | .unknownArgument => "unexpected argument"
  | .missingInput => "the argument <TREE> is missing"
  | .missingValue => "a value is missing"
  | .badNumber => "the recursion limit is not a number of 32 bits"
  | .repeated => "a flag is given more than once"
  | .unwantedValue => "a switch takes no value"

/-- Bytes as text. -/
def textOfBytes (bytes : ByteArray) : Except FileFault String :=
  match String.fromUTF8? bytes with
  | some text => .ok text
  | none => .error .notText

/-- Everything that is left on the standard input. -/
partial def readStandardInput (input : IO.FS.Stream) (before : ByteArray) : IO ByteArray := do
  let chunk ← input.read 65536
  if chunk.isEmpty then return before else readStandardInput input (before ++ chunk)

/-- Why the system could not read a file. -/
def faultOfError : IO.Error → FileFault
  | .noFileOrDirectory _ _ _ => .notFound
  | .inappropriateType _ _ _ => .isDirectory
  | other => .other (toString other)

/-- The content of a file; `-` is the standard input. -/
def readFile (path : String) : IO (Except FileFault String) :=
  try
    if path = "-" then
      return textOfBytes (← readStandardInput (← IO.getStdin) .empty)
    else
      return textOfBytes (← IO.FS.readBinFile path)
  catch e => return .error (faultOfError e)

end FluentQuery.CommandLine

open FluentQuery.CommandLine in
/-- Run the command that the arguments ask for. -/
def main (args : List String) : IO UInt32 := do
  match parse args with
  | .error .help =>
    IO.print usage
    return 0
  | .error fault =>
    IO.eprint (errorLine fault.message ++ "\n" ++ usage)
    return UInt32.ofNat fault.exitCode
  | .ok invocation =>
    let config ← match invocation.settings.file with
      | some path => readFile path
      | none => pure (.ok "")
    let report := run invocation ⟨config, ← readFile invocation.input⟩
    IO.eprint report.err
    IO.print report.out
    return UInt32.ofNat report.exitCode
