import FluentQuery.Json.Token
import FluentQuery.Json.Writer
import FluentQuery.Text.Basic

/-!
# Configuration

Which identifiers denote databases, and how deep a chain may nest. Databases come from identifiers
that are named outright, the roots, and from declarations that call a connector function.
-/

namespace FluentQuery

/-- The settings of an analysis. -/
structure Config where
  /-- Identifiers that always denote a database. -/
  roots : List String := []
  /-- The name of the database that the roots denote; each denotes one of its own name without it. -/
  database : Option String := none
  /-- Functions whose call in a declaration gives a database or a collection. -/
  connectors : List String := []
  /-- The greatest number of operations in a chain. -/
  recursionLimit : Nat := 256
deriving DecidableEq, Repr

namespace Config

/-! ## Faults -/

/-- What a setting must be. -/
inductive Expected where
  | settings
  | sequence
  | text
  | limit
deriving DecidableEq, Repr

/-- The wording of an expectation. -/
def Expected.wording : Expected → String
  | .settings => "struct Config"
  | .sequence => "a sequence"
  | .text => "a string"
  | .limit => "u32"

/-- Why a text gives no configuration. -/
inductive ReadFault where
  /-- The text is not JSON. -/
  | json (fault : Json.Fault)
  | unknownField (name : String)
  | duplicateField (name : String)
  /-- A value that starts with the given token is of the wrong type. -/
  | wrongType (found : Json.Token) (expected : Expected)
  /-- A value is of the right type and out of range. -/
  | wrongValue (found : Json.Token) (expected : Expected)
deriving DecidableEq, Repr

/-- Why a configuration is not usable. -/
inductive Fault where
  | unreadable (cause : ReadFault)
  | noSource
  | notIdentifier (name : String)
  | emptyDatabase
  | zeroLimit
deriving DecidableEq, Repr

/-- A value by its first token. -/
def foundText : Json.Token → String
  | .null => "null"
  | .bool b => if b then "boolean `true`" else "boolean `false`"
  | .number (.int n) => s!"integer `{n}`"
  | .number (.real x) => "floating point `" ++ Json.realLayout.write x ++ "`"
  | .text s => "string " ++ Text.quoted s
  | .openArray => "sequence"
  | .openObject => "map"
  | .closeArray | .closeObject | .comma | .colon | .brokenText _ | .broken _ | .stray => "nothing"

/-- The wording of a fault in reading. As in `Json.Fault.message`, the ending
` at line L column C` is left out. -/
def ReadFault.message : ReadFault → String
  | .json fault => fault.message
  | .unknownField name =>
    s!"unknown field `{name}`, expected one of `roots`, `database`, `connectors`, `recursionLimit`"
  | .duplicateField name => s!"duplicate field `{name}`"
  | .wrongType found expected =>
    "invalid type: " ++ foundText found ++ ", expected " ++ expected.wording
  | .wrongValue found expected =>
    "invalid value: " ++ foundText found ++ ", expected " ++ expected.wording

/-- The wording of a fault. -/
def Fault.message : Fault → String
  | .unreadable cause => cause.message
  | .noSource => "either root identifiers or connector functions must be configured"
  | .notIdentifier name => s!"`{name}` is not an identifier"
  | .emptyDatabase => "database name is empty"
  | .zeroLimit => "recursion limit must be positive"

/-! ## Building and checking -/

/-- One more root. -/
def addRoot (config : Config) (name : String) : Config :=
  { config with roots := config.roots ++ [name] }

/-- Name the database of the roots. -/
def setDatabase (config : Config) (name : String) : Config :=
  { config with database := some name }

/-- One more connector. -/
def addConnector (config : Config) (name : String) : Config :=
  { config with connectors := config.connectors ++ [name] }

/-- Set the recursion limit. -/
def setLimit (config : Config) (limit : Nat) : Config :=
  { config with recursionLimit := limit }

/-- Whether a configuration can identify a database at all, and is well formed. -/
def validate (config : Config) : Except Fault Unit :=
  if config.roots = [] ∧ config.connectors = [] then .error .noSource
  else match (config.roots ++ config.connectors).find? fun name ↦ !Text.isIdentifier name with
    | some name => .error (.notIdentifier name)
    | none =>
      if config.database = some "" then .error .emptyDatabase
      else if config.recursionLimit = 0 then .error .zeroLimit
      else .ok ()

end Config

end FluentQuery
