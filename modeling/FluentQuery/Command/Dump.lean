import FluentQuery.Command.Basic
import FluentQuery.Node.Basic

/-!
# Commands as text

A pipeline with one command a line, the last first, each line two blanks further in. Expressions
are shown by their kind only.
-/

namespace FluentQuery

/-- An expression by its kind. -/
def fragmentText (v : Json) : String := "<" ++ v.kind?.getD "?" ++ ">"

/-- What a read does, in short. -/
def QueryOp.detail : QueryOp → String
  | .filter predicate => fragmentText predicate
  | .map fields => ", ".intercalate (fields.map fun p ↦ p.name ++ "=" ++ p.field)
  | .slice start none => s!"{start}.."
  | .slice start (some stop) => s!"{start}..{stop}"
  | .sort keys =>
    ", ".intercalate (keys.map fun k ↦ k.field ++ (if k.ascending then " asc" else " desc"))

/-- The properties that a change sets. -/
def changesText (changes : List (String × Json)) : String :=
  ", ".intercalate (changes.map fun c ↦ c.1 ++ "=" ++ fragmentText c.2)

/-- What a change does, in short. -/
def ModOp.detail : ModOp → String
  | .insert values => s!"{values.length} value(s)"
  | .update changes none => changesText changes
  | .update changes (some predicate) =>
    changesText changes ++ " where " ++ fragmentText predicate
  | .remove predicate => "where " ++ fragmentText predicate

namespace Command

/-- One command in a line. -/
def headline : Command → String
  | .collection ref => "CollectionRef " ++ ref.db ++ "." ++ ref.collection
  | .query op _ => "Query " ++ op.method ++ " " ++ op.detail
  | .value property _ => "Value " ++ property
  | .modification op _ => "Modification " ++ op.method ++ " " ++ op.detail

/-- A line at some distance from the margin. -/
def dumpLine (indent : Nat) (text : String) : String :=
  String.ofList (List.replicate indent ' ') ++ text ++ "\n"

/-- The lines of a pipeline, from some distance from the margin on. -/
def dumpFrom (indent : Nat) : Command → String
  | .collection ref => dumpLine indent (collection ref).headline
  | .query op source => dumpLine indent (query op source).headline ++ source.dumpFrom (indent + 2)
  | .value property source =>
    dumpLine indent (value property source).headline ++ source.dumpFrom (indent + 2)
  | .modification op source =>
    dumpLine indent (modification op source).headline ++ source.dumpFrom (indent + 2)

/-- The text of a pipeline. -/
def dump (c : Command) : String := c.dumpFrom 0

/-- The first line of the text of a pipeline, without a carriage return at its end. -/
def firstLine (c : Command) : String :=
  let line := c.dump.toList.takeWhile (· != '\n')
  String.ofList (if line.getLast? = some '\r' then line.dropLast else line)

end Command

end FluentQuery
