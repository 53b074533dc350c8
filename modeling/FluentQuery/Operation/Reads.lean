import FluentQuery.Comparator
import FluentQuery.Decimal.Layout
import FluentQuery.Operation.Basic

/-!
# Collections and reads

The operations that name a collection and read from it: a member of a database or an identifier
bound to a collection, then `filter`, `map`, `slice`, `sort` and `length`. Each has a test or an
extractor here.
-/

namespace FluentQuery

open Pattern Shapes

/-! ## Collections -/

/-- `db.todos` or `db["todos"]`, where `db` denotes a database. -/
def databaseMember : ShapeTest := fun node roots ↦
  match (node.field? "object").bind Json.identName? with
  | none => .refuse "object is not an identifier"
  | some object =>
    match roots.get? object with
    | none => .refuse s!"`{object}` is not a root"
    | some binding =>
      if binding.collection.isSome then .refuse s!"`{object}` is bound to a collection"
      else if node.staticProperty?.isNone then .refuse "collection name is not static"
      else .matched ()

/-- The collection that a member of a database denotes. -/
def databaseMemberArguments : Extractor := fun node roots ↦
  match ((node.field? "object").bind Json.identName?).bind roots.get?, node.staticProperty? with
  | some binding, some collection => .matched (.collection ⟨binding.db, collection⟩)
  | _, _ => .refuse "expected `<root>.<collection>`"

/-- An identifier that denotes a collection. -/
def collectionIdentifier : ShapeTest := fun node roots ↦
  match node.identName? with
  | none => .refuse "expected an identifier"
  | some name =>
    match roots.get? name with
    | none => .refuse s!"`{name}` is not a root"
    | some binding =>
      if binding.collection.isSome then .matched ()
      else .refuse s!"`{name}` is bound to a database"

/-- The collection that an identifier denotes. -/
def collectionIdentifierArguments : Extractor := fun node roots ↦
  match node.identName?.bind roots.get? with
  | none => .refuse "identifier is not a root"
  | some binding =>
    match binding.collection with
    | none => .refuse "identifier is bound to a database"
    | some collection => .matched (.collection ⟨binding.db, collection⟩)

/-! ## Calls -/

/-- Match a pattern, and name the expectation if it does not match. -/
def expect (pattern : Pattern) (node : Json) (expectation : String) : Outcome Bindings :=
  (pattern.bindings node).mapSkip (.unmet expectation)

/-- A call with the given arguments. -/
def argumentsPattern (slots : List (Slot Pattern)) : Pattern :=
  node Kind.call [("arguments", .seq slots)]

/-- A call whose only argument is a function of one parameter with the given result. Binds
`param`. -/
def callbackOf (body : Pattern) : Pattern :=
  argumentsPattern [.one (function (oneParam "param") body)]

/-- A call whose only argument is a function of one parameter. Binds `param` and `body`. -/
def callback : Pattern := callbackOf (bound "body")

/-! ## Filters -/

/-- The predicate of a filter is what its callback gives back. -/
def filterArguments : Extractor := fun node _ ↦ do
  let m ← expect callback node "expected a one-parameter predicate function"
  let predicate ← .ofOption "predicate body missing" (m.get? "body")
  return .query (.filter predicate)

/-! ## Projections -/

/-- A call whose callback gives back an object literal. Binds `param` and `properties`. -/
def mapPattern : Pattern :=
  callbackOf (node Kind.object [("properties", .seq [.rest .any (some "properties")])])

/-- `name: object.field` -/
def projectionPattern : Pattern := node Kind.property [("value", fieldOf "object" "field")]

/-- One property of a projection: it reads a property of the parameter. -/
def projection (param : String) (property : Json) : Outcome Projection :=
  match property.staticProperty? with
  | none => .refuse "projected property names must be static"
  | some name =>
    match projectionPattern.bindings property with
    | .skip _ =>
      .refuse s!"`{name}` must be a property of `{param}`, like `{name}: {param}.{name}`"
    | .matched m =>
      if m.string? "object" = some param then .matched ⟨name, (m.string? "field").getD ""⟩
      else .refuse s!"`{name}` must read from `{param}`"

/-- The properties of a projection, in order. -/
def projections (param : String) : List Json → Outcome (List Projection)
  | [] => .matched []
  | property :: rest => do
    let first ← projection param property
    return first :: (← projections param rest)

/-- A map takes at least one property of its documents. -/
def mapArguments : Extractor := fun node _ ↦ do
  let m ← expect mapPattern node
    "expected a one-parameter function returning an object literal"
  let properties := ((m.get? "properties").bind Json.asArray?).getD []
  let fields ← projections ((m.string? "param").getD "") properties
  if fields.isEmpty then .refuse "projection selects no fields"
  else return .query (.map fields)

/-! ## Slices -/

/-- A call with one or two numbers. Binds `from` and `to`. -/
def slicePattern : Pattern :=
  argumentsPattern [.one (numberAs "from"), .optional (numberAs "to")]

/-- The integer of 64 bits bound to a name. -/
def integerBound (m : Bindings) (name : String) : Outcome Int :=
  match m.number? name with
  | none => .refuse s!"missing `{name}`"
  | some x =>
    if x.isWhole && x.magnitudeBelow (.pow 2 63) then .matched x.toInt
    else .refuse ("`" ++ Layout.plain.write x ++ "` is not an integer")

/-- The bounds of a slice are integers; the second may be missing. -/
def sliceArguments : Extractor := fun node _ ↦ do
  let m ← expect slicePattern node "expected numeric literal bounds"
  let start ← integerBound m "from"
  match m.get? "to" with
  | none => return .query (.slice start none)
  | some _ => return .query (.slice start (some (← integerBound m "to")))

/-! ## Orders and lengths -/

/-- A call with one argument. Binds `comparator`. -/
def sortPattern : Pattern := argumentsPattern [.one (bound "comparator")]

/-- The order of a sort is that of its comparator. -/
def sortArguments : Extractor := fun node _ ↦ do
  let m ← expect sortPattern node "expected a comparator function"
  let comparator ← .ofOption "comparator missing" (m.get? "comparator")
  let key ← Comparator.normalize comparator
  return .query (.sort [key])

/-- The number of documents. -/
def lengthArguments : Extractor := fun _ _ ↦ .matched (.value "length")

end FluentQuery
