import FluentQuery.Pattern.Bindings
import FluentQuery.Text.Basic

/-!
# Patterns

A pattern describes the shape of a tree and names some of its parts. This module has the patterns
and the words to build them; `FluentQuery.Pattern.Match` says what they match.
-/

namespace FluentQuery

/-- One place in the pattern of a sequence, given the patterns of items. -/
inductive Slot (α : Type) where
  /-- Exactly one item. -/
  | one (pattern : α)
  /-- One item or none. -/
  | optional (pattern : α)
  /-- All items that the places after this one do not need, each matching `each`. Captures inside
  `each` are dropped; the items themselves may be captured as an array. -/
  | rest (each : α) (capture : Option String)

/-- The description of a tree. -/
inductive Pattern where
  /-- Anything, also a missing child. -/
  | any
  /-- The same expression as a given one. -/
  | literal (expected : Json)
  /-- An object each of whose listed children matches; other children do not matter. -/
  | shape (fields : List (String × Pattern))
  /-- An array whose items match place by place. -/
  | seq (slots : List (Slot Pattern))
  /-- The first of some patterns that matches. -/
  | oneOf (branches : List Pattern)
  /-- All of some patterns at once. -/
  | all (parts : List Pattern)
  /-- Binds a name to what the inner pattern matches, or to a value computed from it. -/
  | capture (name : String) (inner : Option Pattern) (compute : Option (Json → Json))
  /-- Any value that passes a test. -/
  | satisfies (reason : String) (test : Json → Bool)

namespace Slot

variable {α : Type}

/-- Whether the place takes exactly one item. -/
def isOne : Slot α → Bool
  | .one _ => true
  | .optional _ => false
  | .rest _ _ => false

/-- The number of items that some places need at least. -/
def required (slots : List (Slot α)) : Nat := slots.countP isOne

end Slot

namespace Pattern

/-! ## Captures and conjunction -/

/-- Bind a name to what matches. -/
def captured (p : Pattern) (name : String) : Pattern := .capture name (some p) none

/-- Bind a name to a value computed from what matches. -/
def computed (p : Pattern) (name : String) (compute : Json → Json) : Pattern :=
  .capture name (some p) (some compute)

/-- Bind a name to whatever stands here. -/
def bound (name : String) : Pattern := .capture name none none

/-- Both patterns at once. -/
def and : Pattern → Pattern → Pattern
  | .all parts, other => .all (parts ++ [other])
  | first, other => .all [first, other]

/-- Anything, with a name bound to a fixed value, to tell alternatives apart. -/
def tag (name : String) (v : Json) : Pattern := Pattern.any.computed name fun _ ↦ v

/-! ## Nodes -/

/-- A node of the given kind. -/
def kind (expected : String) : Pattern :=
  .satisfies s!"expected {expected}" fun v ↦ v.unparen.isKind expected

/-- A node of the given kind with the given children. -/
def node (expected : String) (fields : List (String × Pattern)) : Pattern :=
  (kind expected).and (.shape fields)

/-- An identifier. -/
def identifier : Pattern := kind Kind.identifier

/-- An identifier of the given name. -/
def identifierNamed (name : String) : Pattern :=
  .satisfies s!"expected identifier `{name}`" fun v ↦ v.identName? == some name

/-- An identifier, with its name bound. -/
def identifierAs (capture : String) : Pattern :=
  identifier.computed capture fun v ↦ .orNull (v.identName?.map .string)

/-- One of some texts. -/
def textIn (options : List String) : Pattern :=
  .satisfies ("expected one of " ++ Text.quotedList options) fun v ↦
    v.asString?.any options.contains

/-- An access to a fixed property, with the name of the property bound. -/
def memberAs (object : Pattern) (capture : String) : Pattern :=
  (node Kind.member [("object", object)]).and
    ((satisfies "expected a static property name" fun v ↦ v.staticProperty?.isSome).computed
      capture fun v ↦ .orNull (v.staticProperty?.map .string))

/-- An access to the property of the given name. -/
def memberNamed (object : Pattern) (name : String) : Pattern :=
  (node Kind.member [("object", object)]).and
    (.satisfies s!"expected `.{name}`" fun v ↦ v.staticProperty? == some name)

/-- A numeric literal, with its value bound as a double. -/
def numberAs (capture : String) : Pattern :=
  (satisfies "expected a numeric literal" fun v ↦ v.number?.isSome).computed capture fun v ↦
    .orNull (v.number?.map .ofBinary64)

/-- A string literal, with its value bound. -/
def stringAs (capture : String) : Pattern :=
  (satisfies "expected a string literal" fun v ↦ v.string?.isSome).computed capture fun v ↦
    .orNull (v.string?.map .string)

end Pattern

end FluentQuery
