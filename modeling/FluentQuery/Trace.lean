import FluentQuery.Command.Dump
import FluentQuery.Failure
import FluentQuery.Roots

/-!
# Traces

What happens during an analysis is recorded as a list of events beside its result. How much of it is
shown, and how, is decided afterwards: a verbosity selects events, and each becomes one line.
-/

namespace FluentQuery

/-- Something that happens during an analysis. -/
inductive Event where
  /-- An operation is tried on a node. -/
  | candidate (op : OpId) (node : Json)
  /-- Something did not match a node. -/
  | skipped (site : String) (node : Json) (why : Skip)
  /-- An operation may not follow the one before it. -/
  | rejected (op predecessor : OpId) (node : Json)
  /-- A command was built from a node. -/
  | built (command : Command) (node : Json)
  /-- A declaration bound a name. -/
  | root (name : String) (binding : RootBinding)

/-- How much of a trace is shown. -/
inductive Verbosity where
  /-- Commands, rejections and roots. -/
  | normal
  /-- Also what did not match. -/
  | verbose
  /-- Also what was tried. -/
  | veryVerbose
deriving DecidableEq, Repr

namespace Event

/-- Whether an event is shown. -/
def shownAt : Verbosity → Event → Bool
  | .veryVerbose, _ => true
  | .verbose, .candidate _ _ => false
  | .verbose, _ => true
  | .normal, .candidate _ _ => false
  | .normal, .skipped _ _ _ => false
  | .normal, _ => true

/-- A line about a node, after its position. -/
def lineAt (node : Json) (text : String) : String :=
  match node.span? with
  | some span => s!"{span.start}..{span.stop} {text}"
  | none => text

/-- What a name is bound to. -/
def bindingText (binding : RootBinding) : String :=
  match binding.collection with
  | some collection => binding.db ++ "." ++ collection
  | none => binding.db

/-- The line of an event. -/
def line : Event → String
  | .candidate op node => lineAt node ("try " ++ op.text ++ " on " ++ node.kind?.getD "?")
  | .skipped site node why => lineAt node ("skip " ++ site ++ ": " ++ why.reason)
  | .rejected op predecessor node =>
    lineAt node ("reject " ++ op.text ++ ": cannot follow " ++ predecessor.text)
  | .built command node => lineAt node ("built " ++ command.firstLine)
  | .root name binding => "root " ++ name ++ " -> " ++ bindingText binding

end Event

/-- The lines of a trace. -/
def traceLines (verbosity : Verbosity) (events : List Event) : List String :=
  (events.filter (Event.shownAt verbosity)).map Event.line

/-- Lines as one text; a text that is not empty ends its last line. -/
def linesText (lines : List String) : String :=
  let text := "\n".intercalate lines
  if text.isEmpty then "" else text ++ "\n"

/-! ## Traced results -/

/-- The result of an analysis, and the events before it. -/
structure Traced (α : Type) where
  events : List Event
  result : Except Failure α

namespace Traced

variable {α β : Type}

/-- A result without events. -/
protected def pure (a : α) : Traced α := ⟨[], .ok a⟩

/-- Go on with the result; the events follow each other. -/
protected def bind (t : Traced α) (f : α → Traced β) : Traced β :=
  match t.result with
  | .ok a => ⟨t.events ++ (f a).events, (f a).result⟩
  | .error failure => ⟨t.events, .error failure⟩

instance : Monad Traced where
  pure := Traced.pure
  bind := Traced.bind

/-- An event. -/
def emit (event : Event) : Traced Unit := ⟨[event], .ok ()⟩

/-- A failure. -/
def fail (failure : Failure) : Traced α := ⟨[], .error failure⟩

end Traced

end FluentQuery
