import FluentQuery.Json.Basic
import FluentQuery.Node.Kind

/-!
# Nodes

A node is a JSON object whose `type` entry names its kind. The accessors look through parentheses:
`unparen` strips them from a node, and a child is stripped as well when it is taken. Only `kind?`
and `span?` read the node as it stands.
-/

namespace FluentQuery

/-- The first and one past the last byte of an expression in its source. -/
structure Span where
  start : Nat
  stop : Nat
deriving DecidableEq, Repr

namespace Json

/-! ## Kind and parentheses -/

/-- The kind named by an object's entries, under its common name. -/
def kindOf? (entries : List (String × Json)) : Option String :=
  ((find? "type" entries).bind asString?).map canonicalKind

/-- The kind of a node, under its common name. -/
def kind? : Json → Option String
  | .object entries => kindOf? entries
  | _ => none

/-- Whether a node has the given kind. -/
def isKind (v : Json) (kind : String) : Bool := v.kind? == some kind

mutual

/-- A node without the parentheses around it. -/
def unparen : Json → Json
  | .object entries =>
    if kindOf? entries = some Kind.parenthesized then
      (enclosed? entries).getD (.object entries)
    else .object entries
  | v => v

/-- The expression in a pair of parentheses, itself without parentheses. -/
def enclosed? : List (String × Json) → Option Json
  | [] => none
  | (k, v) :: rest => if k = "expression" then some v.unparen else enclosed? rest

end

theorem enclosed?_eq (entries : List (String × Json)) :
    enclosed? entries = (find? "expression" entries).map unparen := by
  induction entries with
  | nil => simp [enclosed?]
  | cons e rest ih =>
    obtain ⟨k, v⟩ := e
    by_cases h : k = "expression" <;> simp [enclosed?, find?_cons, h, ih]

/-! ## Children -/

/-- A child, without parentheses. -/
def field? (v : Json) (name : String) : Option Json := (v.unparen.get? name).map unparen

/-- A list of children, each as it stands; empty if there is none. -/
def items (v : Json) (name : String) : List Json :=
  ((v.unparen.get? name).bind asArray?).getD []

/-! ## Names and values -/

/-- The name of an identifier. -/
def identName? (v : Json) : Option String :=
  if v.unparen.isKind Kind.identifier then (v.unparen.get? "name").bind asString? else none

/-- The value of a string literal. -/
def string? (v : Json) : Option String :=
  if v.unparen.isKind Kind.literal then (v.unparen.get? "value").bind asString? else none

/-- Whether a member access or a property has its name in brackets. -/
def isComputed (v : Json) : Bool := ((v.get? "computed").bind asBool?).getD false

/-- The name that a key stands for: its text, or, outside brackets, its identifier. -/
def keyName? (computed : Bool) (key : Json) : Option String :=
  if computed then key.string? else key.identName?.or key.string?

/-- The name of the property that a member access or a property of an object literal refers to, if
it is fixed: `a.b` and `a["b"]` have one, `a[b]` has none. -/
def staticProperty? (v : Json) : Option String :=
  let node := v.unparen
  if node.isKind Kind.member then (node.field? "property").bind (keyName? node.isComputed)
  else if node.isKind Kind.property then (node.field? "key").bind (keyName? node.isComputed)
  else none

/-- A signed number, if the sign is an operator that gives one. -/
def signed? (operator : Option String) (x : Binary64) : Option Binary64 :=
  if operator = some "-" then some x.neg
  else if operator = some "+" then some x
  else none

mutual

/-- The value of a numeric literal, also with signs before it. -/
def number? : Json → Option Binary64
  | .object entries =>
    if kindOf? entries = some Kind.parenthesized then numberAt? "expression" entries
    else if kindOf? entries = some Kind.literal then (find? "value" entries).bind asBinary64?
    else if kindOf? entries = some Kind.unary then
      (numberAt? "argument" entries).bind (signed? ((find? "operator" entries).bind asString?))
    else none
  | _ => none

/-- The value of the numeric literal in an entry. -/
def numberAt? (key : String) : List (String × Json) → Option Binary64
  | [] => none
  | (k, v) :: rest => if k = key then v.number? else numberAt? key rest

end

/-! ## Position -/

/-- The position that the parser recorded, as `start` and `end` or as a `range`. -/
def span? (v : Json) : Option Span :=
  match (v.get? "start").bind asNat?, (v.get? "end").bind asNat? with
  | some start, some stop => some ⟨start, stop⟩
  | _, _ =>
    match (v.get? "range").bind asArray? with
    | some [start, stop] => do return ⟨← start.asNat?, ← stop.asNat?⟩
    | _ => none

end Json

end FluentQuery
