import FluentQuery.Command.Basic
import FluentQuery.Pattern.Rule
import FluentQuery.Pattern.Shapes

/-!
# Comparators

The comparator functions that a sort accepts, reduced to the property they compare and a direction:

* relational: `(a, b) => a.f > b.f`;
* ternary: `(a, b) => a.f > b.f ? 1 : a.f < b.f ? -1 : 0`;
* subtraction: `(a, b) => a.f - b.f`, also negated.

Each is decoded with signs. The order of the operands counts `1` if it is that of the parameters and
`-1` if it is the opposite; an operator and a literal count by their own sign. A relational
comparator or a subtraction sorts by the product, a ternary one by the sum over its branches.
-/

namespace FluentQuery.Comparator

open Pattern Shapes

/-- Why a function of the right shape is no comparator. -/
inductive Refusal where
  | namelessParameters
  | equalParameters
  | otherOperands (first second : String)
  | otherOperator (operator : String)
  | noOperator
  | inconsistent (total : Int)
  | noField
  | noDirection

/-- The wording of a refusal. -/
def Refusal.message : Refusal → String
  | namelessParameters => "comparator parameters are not identifiers"
  | equalParameters => "comparator parameters must be distinct"
  | otherOperands first second =>
    s!"comparison must reference both parameters `{first}` and `{second}`"
  | otherOperator operator => s!"`{operator}` is not a comparison operator"
  | noOperator => "missing comparison operator"
  | inconsistent total =>
    s!"ternary comparator does not order consistently (sign total {total})"
  | noField => "comparator does not compare a named property"
  | noDirection => "comparator has no direction"

/-- A refusal as an outcome. -/
def Refusal.toOutcome {α : Type} (r : Refusal) : Outcome α := .refuse r.message

/-! ## Signs -/

/-- `1` if the operands `l` and `r` are the parameters `a` and `b` in this order, `-1` if they are in
the opposite order. -/
def operandOrder (m : Bindings) : Outcome Int :=
  match m.string? "a", m.string? "b" with
  | some a, some b =>
    if a = b then Refusal.equalParameters.toOutcome
    else if m.string? "l" = some a ∧ m.string? "r" = some b then .matched 1
    else if m.string? "l" = some b ∧ m.string? "r" = some a then .matched (-1)
    else (Refusal.otherOperands a b).toOutcome
  | _, _ => Refusal.namelessParameters.toOutcome

/-- The sign of the operator bound to a name: `1` if it asks for greater, `-1` for less. -/
def operatorSign (m : Bindings) (name : String) : Outcome Int :=
  match m.string? name with
  | some operator =>
    if operator = ">" ∨ operator = ">=" then .matched 1
    else if operator = "<" ∨ operator = "<=" then .matched (-1)
    else if operator = "==" ∨ operator = "===" then .matched 0
    else (Refusal.otherOperator operator).toOutcome
  | none => Refusal.noOperator.toOutcome

/-- The sign of the number bound to a name. -/
def literalSign (m : Bindings) (name : String) : Int := ((m.number? name).map Binary64.sign).getD 0

/-- The sort key of a comparator with the given sign. -/
def sortKey (m : Bindings) (sign : Int) : Outcome SortKey :=
  match m.string? "field" with
  | none => Refusal.noField.toOutcome
  | some field =>
    if sign = 1 then .matched ⟨field, true⟩
    else if sign = -1 then .matched ⟨field, false⟩
    else Refusal.noDirection.toOutcome

/-! ## Forms -/

/-- `l.field > r.field` -/
def relationalRule : Rule Unit SortKey where
  name := "relational"
  pattern := function (twoParams "a" "b") (compare relational "op" "l" "r")
  build := fun _ m ↦ do
    let order ← operandOrder m.bindings
    let operator ← operatorSign m.bindings "op"
    sortKey m.bindings (operator * order)

/-- `l.field > r.field ? n1 : l.field < r.field ? n2 : n3`; both comparisons have the same
operands. -/
def ternaryBody : Pattern :=
  node Kind.conditional
    [("test", compare comparison "op1" "l" "r"), ("consequent", numberAs "n1"),
      ("alternate", node Kind.conditional
        [("test", compare comparison "op2" "l" "r"), ("consequent", numberAs "n2"),
          ("alternate", numberAs "n3")])]

/-- A comparator of two conditionals. Its signs must add up to two. -/
def ternaryRule : Rule Unit SortKey where
  name := "ternary"
  pattern := function (twoParams "a" "b") ternaryBody
  build := fun _ m ↦ do
    let order ← operandOrder m.bindings
    let first ← operatorSign m.bindings "op1"
    let second ← operatorSign m.bindings "op2"
    let total := first * literalSign m.bindings "n1" * order
      + second * literalSign m.bindings "n2" * order + literalSign m.bindings "n3"
    if total = 2 then sortKey m.bindings 1
    else if total = -2 then sortKey m.bindings (-1)
    else (Refusal.inconsistent total).toOutcome

/-- `l.field - r.field` -/
def difference : Pattern :=
  node Kind.binary
    [("operator", .literal (.string "-")), ("left", fieldOf "l" "field"),
      ("right", fieldOf "r" "field")]

/-- A difference, or a negated one. -/
def subtractionRule : Rule Unit SortKey where
  name := "subtraction"
  pattern := function (twoParams "a" "b")
    (.oneOf
      [difference.and (tag "negated" (.bool false)),
        (node Kind.unary [("operator", .literal (.string "-")), ("argument", difference)]).and
          (tag "negated" (.bool true))])
  build := fun _ m ↦ do
    let order ← operandOrder m.bindings
    let negated := ((m.bindings.get? "negated").bind Json.asBool?).getD false
    sortKey m.bindings (if negated then -order else order)

/-- The forms of comparators, in the order in which they are tried. -/
def rules : List (Rule Unit SortKey) := [relationalRule, ternaryRule, subtractionRule]

/-- The sort key that a comparator function stands for. -/
def normalize (function : Json) : Outcome SortKey := Rule.firstOf rules () function

end FluentQuery.Comparator
