import FluentQuery.CommandLine.Invocation

/-!
# Reading a command line

Arguments are read from left to right. A flag that takes a value waits for it in the next argument,
and a value is not looked at before the argument after it: an unknown flag further on is reported
first, any other flag only afterwards. After `--` there are no more flags.
-/

namespace FluentQuery.CommandLine

/-- The two commands. -/
inductive CommandName where
  | analyze
  | check
deriving DecidableEq, Repr

/-- The command of a name. -/
def CommandName.ofText? (name : String) : Option CommandName :=
  if name = "analyze" then some .analyze
  else if name = "check" then some .check
  else none

/-! ## Flags -/

/-- A flag that takes a value. -/
inductive ValueFlag where
  | root
  | database
  | connector
  | config
  | recursionLimit
deriving DecidableEq, Repr

/-- A flag without a value. -/
inductive Switch where
  | compact
  | trace
  | verbose
  | help
deriving DecidableEq, Repr

/-- A flag. -/
inductive Flag where
  | valued (flag : ValueFlag)
  | switch (flag : Switch)
deriving DecidableEq, Repr

namespace Flag

/-- The long names of flags, with the commands that do not have them left out. -/
def ofLong? (command : CommandName) (name : String) : Option Flag :=
  if name = "help" then some (.switch .help)
  else if name = "root" then some (.valued .root)
  else if name = "database" then some (.valued .database)
  else if name = "connector" then some (.valued .connector)
  else if name = "config" then some (.valued .config)
  else if name = "recursion-limit" then some (.valued .recursionLimit)
  else if command = .analyze ∧ name = "compact" then some (.switch .compact)
  else if command = .analyze ∧ name = "trace" then some (.switch .trace)
  else none

/-- The short names of flags. -/
def ofShort? (command : CommandName) (name : Char) : Option Flag :=
  if name = 'h' then some (.switch .help)
  else if name = 'r' then some (.valued .root)
  else if name = 'd' then some (.valued .database)
  else if name = 'c' then some (.valued .connector)
  else if command = .analyze ∧ name = 'v' then some (.switch .verbose)
  else none

end Flag

/-! ## What has been read -/

/-- An argument that has been read and not yet looked at. -/
inductive Pending where
  | nothing
  /-- A flag that waits for its value. -/
  | awaiting (flag : ValueFlag)
  /-- A flag and its value. -/
  | valued (flag : ValueFlag) (v : String)
  /-- The file with the program. -/
  | input (path : String)
deriving DecidableEq, Repr

/-- What has been read of a command line. -/
structure Draft where
  input : Option String := none
  settings : Settings := {}
  compact : Bool := false
  trace : Bool := false
  verbose : Nat := 0
  pending : Pending := .nothing
  /-- Whether there has been an argument that is no flag and no value. -/
  hasInput : Bool := false
deriving DecidableEq, Repr

namespace Draft

/-- The digits of a signed number, and whether it is negative. -/
def splitSign : List Char → Bool × List Char
  | '+' :: rest => (false, rest)
  | '-' :: rest => (true, rest)
  | cs => (false, cs)

/-- A number of 32 bits. -/
def limit? (text : String) : Option Nat :=
  let (negative, digits) := splitSign text.toList
  if digits.isEmpty || !digits.all Char.isDigit then none
  else
    let n := digits.foldl (fun n c ↦ 10 * n + (c.toNat - '0'.toNat)) 0
    if n < .pow 2 32 && (!negative || n == 0) then some n else none

/-- Set a flag. Only roots and connectors can be given more than once. -/
def store (draft : Draft) (flag : ValueFlag) (v : String) : Except UsageFault Draft :=
  let s := draft.settings
  match flag with
  | .root => .ok { draft with settings := { s with roots := s.roots ++ [v] } }
  | .connector => .ok { draft with settings := { s with connectors := s.connectors ++ [v] } }
  | .database =>
    if s.database.isSome then .error .repeated
    else .ok { draft with settings := { s with database := some v } }
  | .config =>
    if s.file.isSome then .error .repeated
    else if v.isEmpty then .error .missingValue
    else .ok { draft with settings := { s with file := some v } }
  | .recursionLimit =>
    if s.recursionLimit.isSome then .error .repeated
    else match limit? v with
      | none => .error .badNumber
      | some n => .ok { draft with settings := { s with recursionLimit := some n } }

/-- Look at the argument that was read last. -/
def settle (draft : Draft) : Except UsageFault Draft :=
  let settled := { draft with pending := .nothing }
  match draft.pending with
  | .nothing => .ok settled
  | .awaiting _ => .error .missingValue
  | .valued flag v => settled.store flag v
  | .input path =>
    if path.isEmpty then .error .missingValue else .ok { settled with input := some path }

/-- Turn on a switch. -/
def turnOn (draft : Draft) (flag : Switch) : Except UsageFault Draft := do
  let draft ← draft.settle
  match flag with
  | .help => throw .help
  | .compact => if draft.compact then throw .repeated else return { draft with compact := true }
  | .trace => if draft.trace then throw .repeated else return { draft with trace := true }
  | .verbose => return { draft with verbose := min 255 (draft.verbose + 1) }

/-- A flag that takes a value, with the value if it is attached. -/
def takeValue (draft : Draft) (flag : ValueFlag) (attached : Option String) :
    Except UsageFault Draft := do
  let draft ← draft.settle
  match attached with
  | some v => draft.store flag v
  | none => return { draft with pending := .awaiting flag }

/-! ## Arguments -/

/-- A long flag, with what stands behind an equals sign. -/
def readLong (draft : Draft) (command : CommandName) (name : String) (attached : Option String) :
    Except UsageFault Draft :=
  match Flag.ofLong? command name, attached with
  | none, _ => .error .unknownArgument
  | some (.valued flag), attached => draft.takeValue flag attached
  | some (.switch _), some _ => .error .unwantedValue
  | some (.switch flag), none => draft.turnOn flag

/-- The value attached to a short flag, without an equals sign before it. -/
def attachedValue? : List Char → Option String
  | [] => none
  | '=' :: rest => some (String.ofList rest)
  | cs => some (String.ofList cs)

/-- Short flags in one argument. The first that takes a value takes the rest. -/
def readShort (draft : Draft) (command : CommandName) : List Char → Except UsageFault Draft
  | [] => .ok draft
  | c :: rest =>
    match Flag.ofShort? command c with
    | none => .error .unknownArgument
    | some (.valued flag) => draft.takeValue flag (attachedValue? rest)
    | some (.switch flag) => do (← draft.turnOn flag).readShort command rest

/-- An argument that is no flag and no value. -/
def readPlain (draft : Draft) (arg : String) : Except UsageFault Draft :=
  if draft.hasInput then .error .unknownArgument
  else do
    let draft ← draft.settle
    return { draft with pending := .input arg, hasInput := true }

end Draft

/-- The form of an argument before `--`. -/
inductive ArgForm where
  /-- `--` -/
  | divider
  /-- `--name` or `--name=value` -/
  | long (name : String) (attached : Option String)
  /-- `-abc` -/
  | short (names : List Char)
  | plain
deriving DecidableEq, Repr

/-- The form of an argument. -/
def ArgForm.ofText (arg : String) : ArgForm :=
  match arg.toList with
  | ['-', '-'] => .divider
  | '-' :: '-' :: rest =>
    let name := String.ofList (rest.takeWhile (· != '='))
    match rest.dropWhile (· != '=') with
    | [] => .long name none
    | _ :: v => .long name (some (String.ofList v))
  | ['-'] => .plain
  | '-' :: names => .short names
  | _ => .plain

namespace Draft

/-- One argument where flags may stand. -/
def readArg (draft : Draft) (command : CommandName) (arg : String) : Except UsageFault Draft :=
  match ArgForm.ofText arg with
  | .divider => .ok draft
  | .long name attached => draft.readLong command name attached
  | .short names => draft.readShort command names
  | .plain =>
    match draft.pending with
    | .awaiting flag => .ok { draft with pending := .valued flag arg }
    | _ => draft.readPlain arg

/-- The arguments of a command. -/
def readArgs (command : CommandName) (draft : Draft) : List String → Except UsageFault Draft
  | [] => draft.settle
  | arg :: rest =>
    if arg = "--" then do (← rest.foldlM readPlain draft).settle
    else do (← draft.readArg command arg).readArgs command rest

/-- What has been read, as an invocation. -/
def finish (command : CommandName) (draft : Draft) : Except UsageFault Invocation :=
  match draft.input, command with
  | none, _ => .error .missingInput
  | some input, .analyze =>
    .ok (.analyze ⟨input, draft.settings, draft.compact, draft.trace, draft.verbose⟩)
  | some input, .check => .ok (.check ⟨input, draft.settings⟩)

end Draft

/-! ## Commands -/

/-- Whether a name is that of a command, or of the help. -/
def isCommand (name : String) : Bool := (CommandName.ofText? name).isSome || name == "help"

/-- What stands behind the request for help: nothing, or one command. -/
def readHelp : List String → UsageFault
  | [] => .help
  | name :: rest => if isCommand name && rest.isEmpty then .help else .unknownCommand

/-- What stands behind `--` in place of a command. -/
def readDivided : List String → UsageFault
  | [] => .noCommand
  | name :: _ => if isCommand name then .unknownArgument else .unknownCommand

/-- The invocation that a list of arguments asks for. -/
def parse : List String → Except UsageFault Invocation
  | [] => .error .noCommand
  | arg :: rest =>
    match CommandName.ofText? arg with
    | some command => do (← Draft.readArgs command {} rest).finish command
    | none =>
      if arg = "help" then .error (readHelp rest)
      else match ArgForm.ofText arg with
        | .divider => .error (readDivided rest)
        | .long "help" none => .error .help
        | .long "help" (some _) => .error .unwantedValue
        | .long _ _ => .error .unknownArgument
        | .short ('h' :: _) => .error .help
        | .short _ => .error .unknownArgument
        | .plain => .error .unknownCommand

end FluentQuery.CommandLine
