import FluentQuery.Node.Build
import FluentQuery.Operation.Reads

/-!
# Writes

The assignments that change a collection. Each gives the collection a value made from itself:
`c = [...c, item]` inserts, `c = c.map(x => test ? {...x, f: v} : x)` updates, and
`c = c.filter(x => keep)` removes what is not kept. The collection must be the same expression on
both sides.
-/

namespace FluentQuery

open Pattern Shapes

/-! ## Shapes of assignments -/

/-- `target = right`. Binds `target`. -/
def assigned (right : Pattern) : Pattern :=
  node Kind.assignment
    [("operator", .literal (.string "=")), ("left", bound "target"), ("right", right)]

/-- `target = target.method(...)` -/
def reassignedVia (method : String) : Pattern :=
  assigned (node Kind.call [("callee", memberNamed (bound "target") method)])

/-- `target = source.method(...)`. Binds `source` and `method` as well. -/
def reassignedFrom : Pattern :=
  assigned (node Kind.call [("callee", memberAs (bound "source") "method")])

/-- `target = [...target, values]`. Binds `values`. -/
def appended : Pattern :=
  assigned (node Kind.array
    [("elements", .seq
      [.one (node Kind.spread [("argument", bound "target")]), .rest .any (some "values")])])

/-- A test of a node against a pattern. -/
def shapeOf (pattern : Pattern) : ShapeTest := fun node _ ↦ (pattern.bindings node).map fun _ ↦ ()

/-! ## Inserts -/

/-- Whether a value can be inserted: it is neither a hole nor a spread. -/
def isPlainValue (v : Json) : Bool := v != .null && !v.isKind Kind.spread

/-- An insert adds at least one value. -/
def insertArguments : Extractor := fun node _ ↦ do
  let m ← appended.bindings node
  let values := ((m.get? "values").bind Json.asArray?).getD []
  if values.isEmpty then .refuse "nothing to insert"
  else if values.all isPlainValue then return .modification (.insert values)
  else .refuse "inserted values must be plain expressions"

/-! ## Removals -/

/-- The negation of a test; a test that is a negation loses it. -/
def negate (test : Json) : Json :=
  let plain := test.unparen
  let operand :=
    if plain.isKind Kind.unary && (plain.get? "operator").bind Json.asString? == some "!" then
      plain.field? "argument"
    else none
  operand.getD (Tree.unary "!" plain)

/-- A removal takes out what its callback does not keep. -/
def removeArguments : Extractor := fun node _ ↦ do
  let call ← .ofOption "assignment has no value" (node.field? "right")
  let m ← expect callback call "expected a one-parameter predicate function"
  let keep ← .ofOption "predicate body missing" (m.get? "body")
  return .modification (.remove (negate keep))

/-! ## Updates -/

/-- `{...object, overrides}`. Binds `object` and `overrides`. -/
def updatedObject : Pattern :=
  node Kind.object
    [("properties", .seq
      [.one (node Kind.spread [("argument", identifierAs "object")]),
        .rest .any (some "overrides")])]

/-- One property that an update sets. -/
def change (property : Json) : Outcome (String × Json) :=
  match property.staticProperty?, property.isKind Kind.property with
  | some name, true =>
    match property.field? "value" with
    | some v => .matched (name, v)
    | none => .refuse s!"`{name}` has no value"
  | _, _ => .refuse "overridden fields must be `name: value` pairs"

/-- The properties that an update sets, in order. -/
def changes : List Json → Outcome (List (String × Json))
  | [] => .matched []
  | property :: rest => do
    let first ← change property
    return first :: (← changes rest)

/-- An update of the parameter that sets at least one property. -/
def updateOf (param : String) (m : Bindings) (predicate : Option Json) : Outcome ModOp :=
  if m.string? "object" = some param then do
    let pairs ← changes (((m.get? "overrides").bind Json.asArray?).getD [])
    if pairs.isEmpty then .refuse "update sets no fields"
    else return .update pairs predicate
  else .refuse s!"updated object must be `{param}`"

/-- `test ? {...object, overrides} : object` -/
def conditionalUpdate : Rule String ModOp where
  name := "conditional"
  pattern := node Kind.conditional
    [("test", bound "test"), ("consequent", updatedObject), ("alternate", identifierAs "object")]
  build := fun param m ↦ updateOf param m.bindings (m.bindings.get? "test")

/-- `test ? object : {...object, overrides}` -/
def inverseUpdate : Rule String ModOp where
  name := "inverse conditional"
  pattern := node Kind.conditional
    [("test", bound "test"), ("consequent", identifierAs "object"), ("alternate", updatedObject)]
  build := fun param m ↦ updateOf param m.bindings ((m.bindings.get? "test").map negate)

/-- `{...object, overrides}` -/
def plainUpdate : Rule String ModOp where
  name := "unconditional"
  pattern := updatedObject
  build := fun param m ↦ updateOf param m.bindings none

/-- The forms of updates, in the order in which they are tried. -/
def updateForms : List (Rule String ModOp) := [conditionalUpdate, inverseUpdate, plainUpdate]

/-- An update is what the callback of a map makes of its parameter. -/
def updateArguments : Extractor := fun node _ ↦ do
  let call ← .ofOption "assignment has no value" (node.field? "right")
  let m ← expect callback call "expected a one-parameter function"
  let body ← .ofOption "update body missing" (m.get? "body")
  let op ← Rule.firstOf updateForms ((m.string? "param").getD "") body
  return .modification op

/-! ## Writes that miss their collection -/

/-- Whether a node denotes a collection. -/
def isCollection (node : Json) (roots : Roots) : Bool :=
  if node.isKind Kind.identifier then (collectionIdentifier node roots).isMatch
  else (databaseMember node roots).isMatch

/-- Whether a callback has the body of a write by the given method. -/
def isWriteBody (method : Option String) (body : Option Json) : Bool :=
  if method = some "filter" then true
  else if method = some "map" then
    body.any fun v ↦ updateForms.any fun form ↦ (form.pattern.bindings v).isMatch
  else false

/-- Whether an assignment has the form of an update or a removal, but gives a collection a value made
from something else. It is no write, and its right side is no read either. -/
def isMisdirectedWrite (node : Json) (roots : Roots) : Bool :=
  match reassignedFrom.bindings node with
  | .skip _ => false
  | .matched m =>
    match m.get? "target", m.get? "source", node.field? "right" with
    | some target, some source, some right =>
      if Json.sameNode target source || !isCollection target.unparen roots then false
      else match callback.bindings right with
        | .skip _ => false
        | .matched c => isWriteBody (m.string? "method") (c.get? "body")
    | _, _, _ => false

end FluentQuery
