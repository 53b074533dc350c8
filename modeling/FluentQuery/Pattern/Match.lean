import FluentQuery.Json.Writer
import FluentQuery.Pattern.Basic

/-!
# Matching

What a pattern matches, and the bindings that a match makes. Parentheses around nodes and their
children do not matter, a missing child counts as `null`, and the bindings of the parts of a pattern
are merged from left to right.
-/

namespace FluentQuery

/-- How a value falls short of a pattern. -/
inductive Mismatch where
  | differs (expected found : Json)
  | notNode (found : Json)
  | notSequence (found : Json)
  | tooFew (missing : Nat)
  | tooMany (surplus : Nat)

namespace Mismatch

/-- A short description of a value. -/
def brief (v : Json) : String :=
  match v.kind? with
  | some kind =>
    match v.identName? with
    | some name => s!"{kind} `{name}`"
    | none => kind
  | none =>
    match v with
    | .null => "nothing"
    | .array items => s!"{items.length} element(s)"
    | .object _ => "an object"
    | other => other.compact

/-- The wording of a mismatch. -/
def message : Mismatch → String
  | .differs expected found => "expected " ++ brief expected ++ ", found " ++ brief found
  | .notNode found => "expected a node, found " ++ brief found
  | .notSequence found => "expected a sequence, found " ++ brief found
  | .tooFew missing => s!"expected {missing} more element(s)"
  | .tooMany surplus => s!"{surplus} unexpected trailing element(s)"

/-- A mismatch as an outcome. -/
def toOutcome {α : Type} (m : Mismatch) : Outcome α := .refuse m.message

end Mismatch

namespace Pattern

/-- A child without parentheses, or `null` if there is none. -/
def child (entries : List (String × Json)) (name : String) : Json :=
  .orNull ((Json.find? name entries).map Json.unparen)

/-- The first of some items on which a test skips, with its place. -/
def firstSkip? {α : Type} (test : Json → Outcome α) (place : Nat) : List Json → Option Skip
  | [] => none
  | v :: rest =>
    match test v with
    | .skip why => some (.within s!"element {place}" why)
    | .matched _ => firstSkip? test (place + 1) rest

/-- The value that a capture binds. -/
def captureValue (compute : Option (Json → Json)) (v : Json) : Json :=
  match compute with
  | some f => f v
  | none => v.unparen

/-- Bindings with the items that a rest slot has taken. -/
def bindRest (capture : Option String) (taken : List Json) (bindings : Bindings) :
    Outcome Bindings :=
  match capture with
  | some name => bindings.insert name (.array taken)
  | none => .matched bindings

mutual

/-- The bindings that a pattern makes on a value. -/
def bindings : Pattern → Json → Outcome Bindings
  | .any, _ => .matched []
  | .literal expected, v =>
    if Json.sameNode expected v then .matched [] else (Mismatch.differs expected v).toOutcome
  | .shape fields, v =>
    match v.unparen with
    | .object entries => bindFields fields entries []
    | found => (Mismatch.notNode found).toOutcome
  | .seq slots, v =>
    match v with
    | .array items => bindSlots slots items []
    | found => (Mismatch.notSequence found).toOutcome
  | .oneOf branches, v => bindFirst branches v []
  | .all parts, v => bindAll parts v []
  | .capture name none compute, v => .matched [(name, captureValue compute v)]
  | .capture name (some inner) compute, v => do
    (← inner.bindings v).insert name (captureValue compute v)
  | .satisfies reason test, v => if test v then .matched [] else .refuse reason

/-- Children one after the other, given the bindings of those before. -/
def bindFields :
    List (String × Pattern) → List (String × Json) → Bindings → Outcome Bindings
  | [], _, before => .matched before
  | (name, p) :: rest, entries, before => do
    let own ← (p.bindings (child entries name)).mapSkip (.within s!"in `{name}`")
    bindFields rest entries (← before.merge own)

/-- The first branch that matches, given the reasons of those before, the newest first. -/
def bindFirst : List Pattern → Json → List Skip → Outcome Bindings
  | [], _, refused => .skip (.noneOf "alternative" refused.reverse)
  | p :: rest, v, refused =>
    match p.bindings v with
    | .matched own => .matched own
    | .skip why => bindFirst rest v (why :: refused)

/-- Parts one after the other on one value, given the bindings of those before. -/
def bindAll : List Pattern → Json → Bindings → Outcome Bindings
  | [], _, before => .matched before
  | p :: rest, v, before => do
    let own ← p.bindings v
    bindAll rest v (← before.merge own)

/-- Places one after the other on a list of items, given the bindings of those before. An optional
place takes an item whenever the places after it can then match the rest. -/
def bindSlots : List (Slot Pattern) → List Json → Bindings → Outcome Bindings
  | [], [], before => .matched before
  | [], items, _ => (Mismatch.tooMany items.length).toOutcome
  | .one _ :: rest, [], _ => (Mismatch.tooFew (1 + Slot.required rest)).toOutcome
  | .one p :: rest, v :: items, before => do
    let own ← p.bindings v
    bindSlots rest items (← before.merge own)
  | .optional _ :: rest, [], before => bindSlots rest [] before
  | .optional p :: rest, v :: items, before =>
    match p.bindings v >>= before.merge >>= bindSlots rest items with
    | .matched done => .matched done
    | .skip _ => bindSlots rest (v :: items) before
  | .rest each kept :: rest, items, before =>
    let taken := items.take (items.length - Slot.required rest)
    let left := items.drop (items.length - Slot.required rest)
    match firstSkip? each.bindings 0 taken with
    | some why => .skip why
    | none => do bindSlots rest left (← bindRest kept taken before)

end

end Pattern

/-- A match: its bindings, and the value that matched. -/
structure Matched where
  bindings : Bindings
  value : Json

/-- Match a pattern against a value. -/
def Pattern.matched (p : Pattern) (v : Json) : Outcome Matched :=
  (p.bindings v).map fun bindings ↦ ⟨bindings, v⟩

end FluentQuery
