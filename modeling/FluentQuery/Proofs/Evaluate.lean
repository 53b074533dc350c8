import FluentQuery.Proofs.Shapes
import Mathlib.Algebra.Order.Field.Basic
import Mathlib.Algebra.Order.Field.Rat
import Mathlib.Data.Rat.Cast.Order
import Mathlib.Data.Sign.Basic

/-!
# Values of expressions

The meaning of the expressions that comparators are made of, on documents of whole numbers: accesses
to a property, comparisons, conditionals, differences, signs and literals. Numbers are exact, a
truth value counts as `1` or `0` where a number is asked for, and parentheses do not matter. An
expression of any other form has no value here.

Evaluation follows the tree entry by entry. The equations after it say what the value of a node is
in terms of its children, and they are all that is used of the definition elsewhere.
-/

namespace FluentQuery

/-- The whole numbers that a document has under its properties. -/
abbrev Document := String → Option ℤ

/-- The value of an expression. -/
inductive Value where
  | number (q : ℚ)
  | boolean (b : Bool)
  | document (d : Document)

namespace Value

/-- A value as a number. -/
def toNumber? : Value → Option ℚ
  | .number q => some q
  | .boolean b => some (if b then 1 else 0)
  | .document _ => none

/-- Whether a value counts as true in a condition. -/
def isTruthy : Value → Bool
  | .number q => q ≠ 0
  | .boolean b => b
  | .document _ => true

/-- Whether two values are of one type. -/
def sameType : Value → Value → Bool
  | .number _, .number _ => true
  | .boolean _, .boolean _ => true
  | .document _, .document _ => true
  | _, _ => false

/-- The property of a value. -/
def property? (v : Value) (name : String) : Option Value :=
  match v with
  | .document d => (d name).map fun n : ℤ ↦ .number n
  | _ => none

/-- `operator v` -/
def unary? (operator : String) (v : Value) : Option Value :=
  if operator = "-" then v.toNumber?.map fun p ↦ .number (-p)
  else if operator = "+" then v.toNumber?.map .number
  else none

/-- `v operator w` -/
def binary? (operator : String) (v w : Value) : Option Value := do
  let p ← v.toNumber?
  let q ← w.toNumber?
  if operator = ">" then some (.boolean (q < p))
  else if operator = ">=" then some (.boolean (q ≤ p))
  else if operator = "<" then some (.boolean (p < q))
  else if operator = "<=" then some (.boolean (p ≤ q))
  else if operator = "==" then some (.boolean (p = q))
  else if operator = "===" then some (.boolean (v.sameType w && p = q))
  else if operator = "-" then some (.number (p - q))
  else none

end Value

/-- The exact value of a double. -/
def Binary64.exact (x : Binary64) : ℚ := x.value / unitsPerOne

/-- The exact value of a number. -/
def Number.exact : Number → ℚ
  | .int n => n
  | .real x => x.exact

namespace Binary64

/-- Rounding to 53 bits gives zero from zero only. -/
theorem roundUnits_pos {n : Nat} (h : 0 < n) : 0 < roundUnits n 1 := by
  -- The bits that are kept include the leading one.
  have hpow : 2 ^ (n.log2 - 52) ≤ n := by
    calc 2 ^ (n.log2 - 52) ≤ 2 ^ n.log2 := Nat.pow_le_pow_right (by decide) (Nat.sub_le _ _)
      _ ≤ n := Nat.log2_self_le h.ne'
  have hwhole : 0 < n / 2 ^ (n.log2 - 52) := Nat.div_pos hpow (Nat.pow_pos (by decide))
  rw [roundUnits, Nat.div_one, Nat.one_mul]
  refine Nat.mul_pos ?_ (Nat.pow_pos (by decide))
  split
  · exact Nat.succ_pos _
  · exact hwhole

theorem unitsPerOne_pos : 0 < unitsPerOne := by
  decide +kernel

theorem sign_ofInt (n : Int) : (ofInt n).sign = n.sign := by
  have hpos : n ≠ 0 → 0 < roundUnits (n.natAbs * unitsPerOne) 1 := by
    intro hn
    exact roundUnits_pos (Nat.mul_pos (Int.natAbs_pos.mpr hn) unitsPerOne_pos)
  rcases lt_trichotomy n 0 with hn | rfl | hn
  · have hunits := hpos hn.ne
    rw [Int.sign_eq_neg_one_of_neg hn, sign, Int.sign_eq_neg_one_iff_neg, value, ofInt,
      if_pos (decide_eq_true hn)]
    exact Int.neg_neg_of_pos (Int.natCast_pos.mpr hunits)
  · rw [sign, value, ofInt, Int.natAbs_zero, Nat.zero_mul]
    rfl
  · have hunits := hpos hn.ne'
    rw [Int.sign_eq_one_of_pos hn, sign, Int.sign_eq_one_iff_pos, value, ofInt,
      if_neg (by simpa using hn.le)]
    exact Int.natCast_pos.mpr hunits

theorem sign_exact (x : Binary64) : x.sign = SignType.sign x.exact := by
  have hunits : (0 : ℚ) < unitsPerOne := Nat.cast_pos.mpr unitsPerOne_pos
  rw [sign, Int.sign_eq_sign, exact, sign_apply, sign_apply]
  simp only [div_pos_iff_of_pos_right hunits, div_lt_iff₀ hunits, zero_mul, Int.cast_pos,
    Int.cast_lt_zero]

end Binary64

theorem Number.sign_exact (n : Number) : n.toBinary64.sign = SignType.sign n.exact := by
  cases n with
  | int n =>
    rw [toBinary64, Binary64.sign_ofInt, exact, Int.sign_eq_sign, sign_apply, sign_apply]
    simp only [Int.cast_pos, Int.cast_lt_zero]
  | real x => exact x.sign_exact

namespace Json

/-- The value of a literal. -/
def literalValue? : Json → Option Value
  | .number n => some (.number n.exact)
  | .bool b => some (.boolean b)
  | _ => none

/-- The operator among the entries of an operation. -/
def operatorOf? (entries : List (String × Json)) : Option String :=
  ((find? "operator" entries).map unparen).bind asString?

mutual

/-- The value of an expression, given the documents that some names stand for. -/
def evaluate (env : String → Option Document) : Json → Option Value
  | .object entries =>
    if kindOf? entries = some Kind.parenthesized then evaluateAt env "expression" entries
    else if kindOf? entries = some Kind.identifier then
      (((Json.object entries).identName?).bind env).map .document
    else if kindOf? entries = some Kind.literal then (find? "value" entries).bind literalValue?
    else if kindOf? entries = some Kind.member then do
      (← evaluateAt env "object" entries).property? (← (Json.object entries).staticProperty?)
    else if kindOf? entries = some Kind.unary then do
      (← evaluateAt env "argument" entries).unary? (← operatorOf? entries)
    else if kindOf? entries = some Kind.binary then do
      let v ← evaluateAt env "left" entries
      v.binary? (← operatorOf? entries) (← evaluateAt env "right" entries)
    else if kindOf? entries = some Kind.conditional then do
      if (← evaluateAt env "test" entries).isTruthy then evaluateAt env "consequent" entries
      else evaluateAt env "alternate" entries
    else none
  | _ => none

/-- The value of the expression in an entry. -/
def evaluateAt (env : String → Option Document) (key : String) :
    List (String × Json) → Option Value
  | [] => none
  | (k, v) :: rest => if k = key then v.evaluate env else evaluateAt env key rest

end

/-! ## Equations for nodes -/

section Equations

variable {env : String → Option Document} {v : Json}

theorem evaluateAt_eq (key : String) (entries : List (String × Json)) :
    evaluateAt env key entries = (find? key entries).bind (evaluate env) := by
  induction entries with
  | nil => rfl
  | cons e rest ih =>
    obtain ⟨k, w⟩ := e
    rw [evaluateAt, find?_cons, ih]
    split <;> rfl

-- Evaluation goes through parentheses one by one, where `enclosed?` strips all of them.
mutual

theorem evaluate_unparen : ∀ v : Json, v.unparen.evaluate env = v.evaluate env
  | .null => rfl
  | .bool _ => rfl
  | .number _ => rfl
  | .string _ => rfl
  | .array _ => rfl
  | .object entries => by
    by_cases hkind : kindOf? entries = some Kind.parenthesized
    · have henclosed := bind_enclosed? entries
      rw [unparen, if_pos hkind]
      cases hw : enclosed? entries with
      | none => rfl
      | some w =>
        rw [hw, Option.bind_some] at henclosed
        rw [Option.getD_some, henclosed, evaluate, if_pos hkind]
    · rw [unparen, if_neg hkind]

theorem bind_enclosed? : ∀ entries : List (String × Json),
    (enclosed? entries).bind (evaluate env) = evaluateAt env "expression" entries
  | [] => rfl
  | (k, v) :: rest => by
    rw [enclosed?, evaluateAt]
    split
    · exact evaluate_unparen v
    · exact bind_enclosed? rest

end

theorem evaluateAt_eq_field? {entries : List (String × Json)} (h : v.unparen = .object entries)
    (key : String) : evaluateAt env key entries = (v.field? key).bind (evaluate env) := by
  rw [evaluateAt_eq, field?, h, get?]
  cases find? key entries with
  | none => rfl
  | some w => exact (evaluate_unparen w).symm

theorem operatorOf?_eq {entries : List (String × Json)} (h : v.unparen = .object entries) :
    operatorOf? entries = (v.field? "operator").bind asString? := by
  rw [operatorOf?, field?, h, get?]

theorem evaluate_conditional {test consequent alternate : Json}
    (hkind : v.unparen.isKind Kind.conditional = true) (htest : v.field? "test" = some test)
    (hconsequent : v.field? "consequent" = some consequent)
    (halternate : v.field? "alternate" = some alternate) :
    v.evaluate env = (test.evaluate env).bind fun t ↦
      if t.isTruthy then consequent.evaluate env else alternate.evaluate env := by
  obtain ⟨entries, hentries⟩ := exists_entries_of_isKind hkind
  rw [hentries, isKind_iff, kind?] at hkind
  rw [← evaluate_unparen, hentries, evaluate]
  simp [hkind, Kind.conditional, Kind.parenthesized, Kind.identifier, Kind.literal, Kind.member,
    Kind.unary, Kind.binary, evaluateAt_eq_field? hentries, htest, hconsequent, halternate]

theorem evaluate_binary {operator : String} {left right : Json}
    (hkind : v.unparen.isKind Kind.binary = true)
    (hoperator : v.field? "operator" = some (.string operator))
    (hleft : v.field? "left" = some left) (hright : v.field? "right" = some right) :
    v.evaluate env = (left.evaluate env).bind fun x ↦
      (right.evaluate env).bind fun y ↦ x.binary? operator y := by
  obtain ⟨entries, hentries⟩ := exists_entries_of_isKind hkind
  rw [hentries, isKind_iff, kind?] at hkind
  rw [← evaluate_unparen, hentries, evaluate]
  simp [hkind, Kind.binary, Kind.parenthesized, Kind.identifier, Kind.literal, Kind.member,
    Kind.unary, evaluateAt_eq_field? hentries, operatorOf?_eq hentries, hoperator, hleft, hright,
    asString?]

theorem evaluate_unary {operator : String} {argument : Json}
    (hkind : v.unparen.isKind Kind.unary = true)
    (hoperator : v.field? "operator" = some (.string operator))
    (hargument : v.field? "argument" = some argument) :
    v.evaluate env = (argument.evaluate env).bind (Value.unary? operator) := by
  obtain ⟨entries, hentries⟩ := exists_entries_of_isKind hkind
  rw [hentries, isKind_iff, kind?] at hkind
  rw [← evaluate_unparen, hentries, evaluate]
  simp [hkind, Kind.unary, Kind.parenthesized, Kind.identifier, Kind.literal, Kind.member,
    evaluateAt_eq_field? hentries, operatorOf?_eq hentries, hoperator, hargument, asString?]

theorem evaluate_identifier {name : String} (h : v.identName? = some name) :
    v.evaluate env = (env name).map .document := by
  have hkind := isKind_of_identName? h
  obtain ⟨entries, hentries⟩ := exists_entries_of_isKind hkind
  rw [← identName?_unparen, hentries] at h
  rw [hentries, isKind_iff, kind?] at hkind
  rw [← evaluate_unparen, hentries, evaluate]
  simp [hkind, Kind.identifier, Kind.parenthesized, h]

theorem FieldAccess.evaluate {object property : String} (h : v.FieldAccess (some object) property) :
    v.evaluate env = (env object).bind fun d ↦ (d property).map fun n : ℤ ↦ .number n := by
  obtain ⟨o, ho, -, hname⟩ := h.identifier
  have hproperty := h.property
  have hkind := h.member
  obtain ⟨entries, hentries⟩ := exists_entries_of_isKind hkind
  rw [← staticProperty?_unparen, hentries] at hproperty
  rw [hentries, isKind_iff, kind?] at hkind
  rw [← evaluate_unparen, hentries, Json.evaluate]
  have hobject : evaluateAt env "object" entries = (env object).map .document := by
    rw [evaluateAt_eq_field? hentries, ho]
    exact evaluate_identifier hname
  cases henv : env object with
  | none =>
    simp [hkind, Kind.member, Kind.parenthesized, Kind.identifier, Kind.literal, hobject, henv]
  | some d =>
    simp [hkind, Kind.member, Kind.parenthesized, Kind.identifier, Kind.literal, hobject, henv,
      hproperty, Value.property?]

/-- An operation on one field of two documents is the operation on their numbers. -/
theorem Compares.evaluate {operator left right field : String}
    (h : v.Compares operator (some left) (some right) field) {d e : Document} {x y : ℤ}
    (hd : env left = some d) (he : env right = some e) (hx : d field = some x)
    (hy : e field = some y) : v.evaluate env = Value.binary? operator (.number x) (.number y) := by
  obtain ⟨l, hl, hleft⟩ := h.left
  obtain ⟨r, hr, hright⟩ := h.right
  rw [evaluate_binary h.binary h.operator hl hr, hleft.evaluate, hright.evaluate, hd, he]
  simp [hx, hy]

/-! ## Numeric literals -/

theorem operatorOf?_of_asString? {entries : List (String × Json)} {operator : String}
    (h : (find? "operator" entries).bind asString? = some operator) :
    operatorOf? entries = some operator := by
  obtain ⟨w, hw, hoperator⟩ := Option.bind_eq_some_iff.mp h
  cases w with
  | string s =>
    rw [operatorOf?, hw]
    exact hoperator
  | _ => cases hoperator

mutual

/-- A numeric literal has an exact value wherever it stands, and the sign of the double that it is
read as is the sign of that value. -/
theorem evaluate_of_number? : ∀ (v : Json) {x : Binary64}, v.number? = some x →
    ∃ q, (∀ env, v.evaluate env = some (.number q)) ∧ x.sign = SignType.sign q
  | .null, x, h => by cases h
  | .bool _, x, h => by cases h
  | .number _, x, h => by cases h
  | .string _, x, h => by cases h
  | .array _, x, h => by cases h
  | .object entries, x, h => by
    rw [number?] at h
    split at h
    · next hkind =>
      obtain ⟨q, hq, hsign⟩ := evaluateAt_of_numberAt? entries h
      refine ⟨q, fun env ↦ ?_, hsign⟩
      rw [evaluate, if_pos hkind]
      exact hq env
    · split at h
      · next hkind =>
        obtain ⟨w, hw, hx⟩ := Option.bind_eq_some_iff.mp h
        cases w with
        | number n =>
          cases hx
          refine ⟨n.exact, fun env ↦ ?_, n.sign_exact⟩
          rw [evaluate]
          simp [hkind, Kind.literal, Kind.parenthesized, Kind.identifier, hw, literalValue?]
        | _ => cases hx
      · split at h
        · next hkind =>
          obtain ⟨y, hy, hx⟩ := Option.bind_eq_some_iff.mp h
          obtain ⟨q, hq, hsign⟩ := evaluateAt_of_numberAt? entries hy
          -- A signed literal, negated or not by its operator.
          have hunary : ∀ env operator, operatorOf? entries = some operator →
              (Json.object entries).evaluate env = Value.unary? operator (.number q) := by
            intro env operator hoperator
            rw [evaluate]
            simp [hkind, Kind.unary, Kind.parenthesized, Kind.identifier, Kind.literal,
              Kind.member, hq, hoperator]
          rw [signed?] at hx
          split at hx
          · next hoperator =>
            cases hx
            refine ⟨-q, fun env ↦ hunary env "-" (operatorOf?_of_asString? hoperator), ?_⟩
            rw [Binary64.sign_neg, hsign, Left.sign_neg, SignType.coe_neg]
          · split at hx
            · next hoperator =>
              cases hx
              exact ⟨q, fun env ↦ hunary env "+" (operatorOf?_of_asString? hoperator), hsign⟩
            · cases hx
        · cases h

theorem evaluateAt_of_numberAt? : ∀ (entries : List (String × Json)) {key : String} {x : Binary64},
    numberAt? key entries = some x →
      ∃ q, (∀ env, evaluateAt env key entries = some (.number q)) ∧ x.sign = SignType.sign q
  | [], key, x, h => by cases h
  | (k, v) :: rest, key, x, h => by
    rw [numberAt?] at h
    split at h
    · next hk =>
      obtain ⟨q, hq, hsign⟩ := evaluate_of_number? v h
      refine ⟨q, fun env ↦ ?_, hsign⟩
      rw [evaluateAt, if_pos hk]
      exact hq env
    · next hk =>
      obtain ⟨q, hq, hsign⟩ := evaluateAt_of_numberAt? rest h
      refine ⟨q, fun env ↦ ?_, hsign⟩
      rw [evaluateAt, if_neg hk]
      exact hq env

end

end Equations

end Json

end FluentQuery
