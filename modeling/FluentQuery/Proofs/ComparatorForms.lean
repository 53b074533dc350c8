import FluentQuery.Comparator
import FluentQuery.Proofs.Shapes
import Mathlib.Data.Sign.Basic

/-!
# How comparators are read

A function that has a sort key is of one of three forms, and its key is decided by signs. Both are
said here without bindings: `HasForm` describes the expression that the function gives back, with
the accessors of nodes, and `Form.Decides` is the sum or product of signs. The theorem
`exists_readAs_of_normalize` recovers them from a key.

The operands of all comparisons of a form are the two parameters, in one order or the other. That
order is a sign of its own.
-/

namespace FluentQuery.Comparator

open Pattern Shapes

/-! ## Forms -/

/-- A function of two named parameters that gives back an expression. -/
structure Reads (f : Json) (a b : String) (e : Json) : Prop where
  isFunction : f.isFunction = true
  params : ∃ x y, (f.field? "params").bind Json.asArray? = some [x, y] ∧
    x.identName? = some a ∧ y.identName? = some b
  returned : Json.returned? (.orNull (f.field? "body")) = some e

/-- The operands are the parameters: in their order, `1`, or in the opposite one, `-1`. -/
def InOrder (a b l r : String) (order : SignType) : Prop :=
  l = a ∧ r = b ∧ order = 1 ∨ l = b ∧ r = a ∧ order = -1

/-- What an operator asks of its left operand: to be greater, `1`, lower, `-1`, or neither. -/
def direction (operator : String) : SignType :=
  if operator = ">" ∨ operator = ">=" then 1
  else if operator = "<" ∨ operator = "<=" then -1
  else 0

/-- The forms of comparators. -/
inductive Form where
  /-- `l.field operator r.field` -/
  | relational (operator : String)
  /-- `l.field op₁ r.field ? c₁ : l.field op₂ r.field ? c₂ : c₃` -/
  | ternary (op₁ op₂ : String) (c₁ c₂ c₃ : Json)
  /-- `l.field - r.field`, or `-(l.field - r.field)` -/
  | subtraction (negated : Bool)

/-- `l.field operator r.field ? consequent : alternate` -/
structure Chooses (e : Json) (operator : String) (l r : Option String) (field : String)
    (consequent alternate : Json) : Prop where
  conditional : e.unparen.isKind Kind.conditional = true
  test : ∃ t, e.field? "test" = some t ∧ t.Compares operator l r field
  consequent : e.field? "consequent" = some consequent
  alternate : e.field? "alternate" = some alternate

/-- `l.field - r.field`, negated or not. -/
inductive Subtracts (e : Json) (l r : Option String) (field : String) : Bool → Prop
  | plain (h : e.Compares "-" l r field) : Subtracts e l r field false
  | negated {argument : Json} (hunary : e.unparen.isKind Kind.unary = true)
      (hoperator : e.field? "operator" = some (.string "-"))
      (hargument : e.field? "argument" = some argument) (h : argument.Compares "-" l r field) :
      Subtracts e l r field true

/-- An expression is of a form, with the given operands. -/
inductive HasForm (e : Json) (l r field : String) : Form → Prop
  | relational {operator : String} (hmem : operator ∈ relational)
      (h : e.Compares operator (some l) (some r) field) : HasForm e l r field (.relational operator)
  | ternary {op₁ op₂ : String} {c₁ c₂ c₃ alternate : Json} (hmem₁ : op₁ ∈ comparison)
      (hmem₂ : op₂ ∈ comparison) (h : Chooses e op₁ (some l) (some r) field c₁ alternate)
      (halternate : Chooses alternate op₂ (some l) (some r) field c₂ c₃)
      (hnumber₁ : c₁.number?.isSome = true) (hnumber₂ : c₂.number?.isSome = true)
      (hnumber₃ : c₃.number?.isSome = true) : HasForm e l r field (.ternary op₁ op₂ c₁ c₂ c₃)
  | subtraction {negated : Bool} (h : Subtracts e (some l) (some r) field negated) :
      HasForm e l r field (.subtraction negated)

/-- The sign of a numeric literal. -/
def signOf (c : Json) : ℤ := (c.number?.map Binary64.sign).getD 0

/-- The signs of a form decide for ascending, or against it. -/
def Form.Decides (order : SignType) (ascending : Bool) : Form → Prop
  | .relational operator => direction operator * order = if ascending then 1 else -1
  | .ternary op₁ op₂ c₁ c₂ c₃ =>
    direction op₁ * signOf c₁ * order + direction op₂ * signOf c₂ * order + signOf c₃ =
      if ascending then 2 else -2
  | .subtraction negated =>
    (if negated then -order else order) = if ascending then 1 else -1

/-- A function is read as a comparator by a field, of some form. -/
def ReadAs (f : Json) (field : String) (order : SignType) (form : Form) : Prop :=
  ∃ a b e l r, Reads f a b e ∧ a ≠ b ∧ InOrder a b l r order ∧ HasForm e l r field form

/-! ## Signs of bindings -/

theorem mul_eq_of_coe_mul_eq {s t : SignType} {ascending : Bool}
    (h : (s * t : ℤ) = if ascending then 1 else -1) : s * t = if ascending then 1 else -1 := by
  revert s t ascending
  decide

theorem negate_eq_of_coe_eq {s : SignType} {negated ascending : Bool}
    (h : (if negated then -(s : ℤ) else s) = if ascending then 1 else -1) :
    (if negated then -s else s) = if ascending then 1 else -1 := by
  revert s negated ascending
  decide

variable {m : Bindings}

theorem exists_of_operandOrder {order : Int} (h : operandOrder m = .matched order) :
    ∃ a b l r, m.string? "a" = some a ∧ m.string? "b" = some b ∧ m.string? "l" = some l ∧
      m.string? "r" = some r ∧ a ≠ b ∧ ∃ s : SignType, InOrder a b l r s ∧ order = s := by
  rw [operandOrder] at h
  split at h
  · next a b ha hb =>
    split at h
    · cases h
    · next hne =>
      split at h
      · next hlr =>
        cases h
        exact ⟨a, b, a, b, ha, hb, hlr.1, hlr.2, hne, 1, Or.inl ⟨rfl, rfl, rfl⟩, rfl⟩
      · split at h
        · next hlr =>
          cases h
          exact ⟨a, b, b, a, ha, hb, hlr.1, hlr.2, hne, -1, Or.inr ⟨rfl, rfl, rfl⟩, rfl⟩
        · cases h
  · cases h

theorem eq_direction_of_operatorSign {name operator : String} {s : Int}
    (hname : m.string? name = some operator) (h : operatorSign m name = .matched s) :
    s = direction operator := by
  rw [operatorSign, hname] at h
  rw [direction]
  dsimp only at h
  split at h
  · next hop =>
    cases h
    rw [if_pos hop]
    rfl
  · next hop =>
    rw [if_neg hop]
    split at h
    · next hop =>
      cases h
      rw [if_pos hop]
      rfl
    · next hop =>
      rw [if_neg hop]
      split at h
      · cases h
        rfl
      · cases h

theorem field_and_sign_of_sortKey {sign : Int} {key : SortKey}
    (h : sortKey m sign = .matched key) :
    m.string? "field" = some key.field ∧ sign = if key.ascending then 1 else -1 := by
  rw [sortKey] at h
  split at h
  · cases h
  · next field hfield =>
    split at h
    · next hsign =>
      cases h
      exact ⟨hfield, hsign⟩
    · split at h
      · next hsign =>
        cases h
        exact ⟨hfield, hsign⟩
      · cases h

theorem field_and_total_of_sortKey {total : Int} {key : SortKey}
    (h : (if total = 2 then sortKey m 1 else if total = -2 then sortKey m (-1)
      else (Refusal.inconsistent total).toOutcome) = .matched key) :
    m.string? "field" = some key.field ∧ total = if key.ascending then 2 else -2 := by
  split at h
  · next htotal =>
    obtain ⟨hfield, hsign⟩ := field_and_sign_of_sortKey h
    refine ⟨hfield, ?_⟩
    cases hascending : key.ascending with
    | true => exact htotal
    | false => simp [hascending] at hsign
  · split at h
    · next htotal =>
      obtain ⟨hfield, hsign⟩ := field_and_sign_of_sortKey h
      refine ⟨hfield, ?_⟩
      cases hascending : key.ascending with
      | true => simp [hascending] at hsign
      | false => exact htotal
    · cases h

/-! ## Bindings of the forms -/

variable {f v : Json} {bs : Bindings}

/-- The second comparison of a ternary comparator binds its operands again, so that they are the
same as those of the first. -/
theorem merge_ternary_eq_matched_iff {l l' r r' : Option String} {field field' : String}
    {op₁ op₂ n₁ n₂ n₃ : Json} :
    Bindings.merge [("op1", op₁), ("l", .ofName l), ("field", .string field), ("r", .ofName r),
        ("n1", n₁)]
      [("op2", op₂), ("l", .ofName l'), ("field", .string field'), ("r", .ofName r'), ("n2", n₂),
        ("n3", n₃)] = .matched bs ↔
      l = l' ∧ field = field' ∧ r = r' ∧
        bs = [("op1", op₁), ("l", .ofName l), ("field", .string field), ("r", .ofName r),
          ("n1", n₁), ("op2", op₂), ("n2", n₂), ("n3", n₃)] := by
  -- `op2`, `n2` and `n3` are new, and `l`, `field` and `r` are bound already.
  rw [Bindings.merge_cons_of_get?_eq_none rfl, Bindings.merge_cons_eq_matched_iff rfl,
    Bindings.merge_cons_eq_matched_iff rfl, Bindings.merge_cons_eq_matched_iff rfl,
    Bindings.merge_cons_of_get?_eq_none rfl, Bindings.merge_cons_of_get?_eq_none rfl,
    Bindings.merge, Json.sameNode_ofName, Json.sameNode_string_string, Json.sameNode_ofName,
    Outcome.matched.injEq]
  exact and_congr_right fun _ ↦ and_congr_right fun _ ↦ and_congr_right fun _ ↦ eq_comm

theorem conditional_iff {op n : String} {p : Pattern}
    (hdistinct : [op, "l", "field", "r", n].Nodup)
    (hnull : p.RefusesNull) :
    (node Kind.conditional [("test", compare comparison op "l" "r"), ("consequent", numberAs n),
        ("alternate", p)]).bindings v = .matched bs ↔
      ∃ operator l r field c x alternate own, operator ∈ comparison ∧
        Chooses v operator l r field c alternate ∧ c.number? = some x ∧
          p.bindings alternate = .matched own ∧
            Bindings.merge [(op, .string operator), ("l", .ofName l), ("field", .string field),
              ("r", .ofName r), (n, .ofBinary64 x)] own = .matched bs := by
  have htest : (compare comparison op "l" "r").RefusesNull := refusesNull_node _ _
  have hcompare : [op, "l", "field", "r"].Nodup :=
    hdistinct.sublist (List.sublist_append_left [op, "l", "field", "r"] [n])
  -- The literal binds a name of its own.
  have hmerge : ∀ w x y z u : Json,
      Bindings.merge [(op, w), ("l", x), ("field", y), ("r", z)] [(n, u)] =
        .matched [(op, w), ("l", x), ("field", y), ("r", z), (n, u)] := by
    intro w x y z u
    exact Bindings.merge_of_distinct_append hdistinct
  rw [node_iff]
  constructor
  · rintro ⟨hkind, entries, hentries, h⟩
    obtain ⟨t, own, mid, ht, hown, hmid, h⟩ := (bindFields_cons_some_iff hentries htest).mp h
    rw [Bindings.nil_merge (distinct_bindings _ hown)] at hmid
    cases hmid
    obtain ⟨operator, l, r, field, hmem, hcompares, rfl⟩ := (Shapes.compare_iff hcompare).mp hown
    obtain ⟨c, own, mid, hc, hown, hmid, h⟩ :=
      (bindFields_cons_some_iff hentries (refusesNull_numberAs n)).mp h
    obtain ⟨x, hx, rfl⟩ := numberAs_iff.mp hown
    rw [hmerge] at hmid
    cases hmid
    obtain ⟨alternate, own, mid, halternate, hown, hmid, h⟩ :=
      (bindFields_cons_some_iff hentries hnull).mp h
    cases h
    exact ⟨operator, l, r, field, c, x, alternate, own, hmem,
      ⟨hkind, ⟨t, ht, hcompares⟩, hc, halternate⟩, hx, hown, hmid⟩
  · rintro ⟨operator, l, r, field, c, x, alternate, own, hmem,
      ⟨hkind, ⟨t, ht, hcompares⟩, hc, halternate⟩, hx, hown, hmid⟩
    obtain ⟨entries, hentries⟩ := Json.exists_entries_of_isKind hkind
    have hfirst := (Shapes.compare_iff hcompare).mpr ⟨operator, l, r, field, hmem, hcompares, rfl⟩
    refine ⟨hkind, entries, hentries, ?_⟩
    refine (bindFields_cons_some_iff hentries htest).mpr
      ⟨t, _, _, ht, hfirst, Bindings.nil_merge (distinct_bindings _ hfirst), ?_⟩
    refine (bindFields_cons_some_iff hentries (refusesNull_numberAs n)).mpr
      ⟨c, _, _, hc, numberAs_iff.mpr ⟨x, hx, rfl⟩, hmerge _ _ _ _ _, ?_⟩
    exact (bindFields_cons_some_iff hentries hnull).mpr
      ⟨alternate, own, bs, halternate, hown, hmid, rfl⟩

theorem ternaryBody_iff :
    ternaryBody.bindings v = .matched bs ↔
      ∃ op₁ op₂ l r field c₁ c₂ c₃ x₁ x₂ x₃ alternate, op₁ ∈ comparison ∧ op₂ ∈ comparison ∧
        Chooses v op₁ l r field c₁ alternate ∧ Chooses alternate op₂ l r field c₂ c₃ ∧
          c₁.number? = some x₁ ∧ c₂.number? = some x₂ ∧ c₃.number? = some x₃ ∧
            bs = [("op1", .string op₁), ("l", .ofName l), ("field", .string field),
              ("r", .ofName r), ("n1", .ofBinary64 x₁), ("op2", .string op₂),
              ("n2", .ofBinary64 x₂), ("n3", .ofBinary64 x₃)] := by
  have hnumber := refusesNull_numberAs "n3"
  have hdistinct : ["op2", "l", "field", "r", "n2"].Nodup := by decide
  rw [ternaryBody, conditional_iff (by decide) (refusesNull_node _ _)]
  constructor
  · rintro ⟨op₁, l, r, field, c₁, x₁, alternate, own, hop₁, h₁, hx₁, hown, hbs⟩
    obtain ⟨op₂, l', r', field', c₂, x₂, c₃, last, hop₂, h₂, hx₂, hlast, hmerge⟩ :=
      (conditional_iff hdistinct hnumber).mp hown
    obtain ⟨x₃, hx₃, rfl⟩ := numberAs_iff.mp hlast
    cases hmerge
    obtain ⟨rfl, rfl, rfl, rfl⟩ := merge_ternary_eq_matched_iff.mp hbs
    exact ⟨op₁, op₂, l, r, field, c₁, c₂, c₃, x₁, x₂, x₃, alternate, hop₁, hop₂, h₁, h₂, hx₁, hx₂,
      hx₃, rfl⟩
  · rintro ⟨op₁, op₂, l, r, field, c₁, c₂, c₃, x₁, x₂, x₃, alternate, hop₁, hop₂, h₁, h₂, hx₁,
      hx₂, hx₃, rfl⟩
    have hown := (conditional_iff hdistinct hnumber).mpr ⟨op₂, l, r, field, c₂, x₂, c₃, _, hop₂,
      h₂, hx₂, numberAs_iff.mpr ⟨x₃, hx₃, rfl⟩, rfl⟩
    exact ⟨op₁, l, r, field, c₁, x₁, alternate, _, hop₁, h₁, hx₁, hown,
      merge_ternary_eq_matched_iff.mpr ⟨rfl, rfl, rfl, rfl⟩⟩

theorem difference_iff :
    difference.bindings v = .matched bs ↔
      ∃ l r field, v.Compares "-" l r field ∧
        bs = [("l", .ofName l), ("field", .string field), ("r", .ofName r)] := by
  have hnames : ∀ w own, (Pattern.literal (.string "-")).bindings w = .matched own →
      own.map Prod.fst = [] := by
    intro w own h
    rw [bindings] at h
    split at h
    · cases h
      rfl
    · cases h
  rw [difference, operands_iff (refusesNull_literal_string "-") hnames (by decide)]
  constructor
  · rintro ⟨w, own, l, r, field, hw, hown, hoperands, rfl⟩
    obtain ⟨rfl, rfl⟩ := (literal_string_iff (Json.unparen_of_field? hw)).mp hown
    exact ⟨l, r, field, ⟨hoperands, hw⟩, rfl⟩
  · rintro ⟨l, r, field, ⟨hoperands, hoperator⟩, rfl⟩
    exact ⟨_, [], l, r, field, hoperator, (literal_string_iff rfl).mpr ⟨rfl, rfl⟩, hoperands, rfl⟩

theorem tag_iff {name : String} {w : Json} :
    (tag name w).bindings v = .matched bs ↔ bs = [(name, w)] := by
  constructor
  · intro h
    cases h
    rfl
  · rintro rfl
    rfl

/-- A difference is matched by the first pattern, and a negated one only by the second. -/
theorem subtraction_iff :
    (Pattern.oneOf [difference.and (tag "negated" (.bool false)),
      (node Kind.unary [("operator", .literal (.string "-")), ("argument", difference)]).and
        (tag "negated" (.bool true))]).bindings v = .matched bs ↔
      ∃ l r field negated, Subtracts v l r field negated ∧
        bs = [("l", .ofName l), ("field", .string field), ("r", .ofName r),
          ("negated", .bool negated)] := by
  rw [oneOf_pair_iff]
  constructor
  · rintro (h | ⟨-, h⟩)
    · obtain ⟨first, second, hfirst, hsecond, hmerge⟩ := and_iff.mp h
      obtain ⟨l, r, field, hcompares, rfl⟩ := difference_iff.mp hfirst
      obtain rfl := tag_iff.mp hsecond
      cases hmerge
      exact ⟨l, r, field, false, .plain hcompares, rfl⟩
    · obtain ⟨first, second, hfirst, hsecond, hmerge⟩ := and_iff.mp h
      obtain ⟨hunary, entries, hentries, hfields⟩ := node_iff.mp hfirst
      obtain ⟨operator, own, mid, hoperator, hown, hmid, hfields⟩ :=
        (bindFields_cons_some_iff hentries (refusesNull_literal_string "-")).mp hfields
      obtain ⟨rfl, rfl⟩ := (literal_string_iff (Json.unparen_of_field? hoperator)).mp hown
      cases hmid
      obtain ⟨argument, own, mid, hargument, hown, hmid, hfields⟩ :=
        (bindFields_cons_some_iff hentries (refusesNull_node _ _)).mp hfields
      obtain ⟨l, r, field, hcompares, rfl⟩ := difference_iff.mp hown
      cases hmid
      cases hfields
      obtain rfl := tag_iff.mp hsecond
      cases hmerge
      exact ⟨l, r, field, true, .negated hunary hoperator hargument hcompares, rfl⟩
  · rintro ⟨l, r, field, negated, h, rfl⟩
    cases h with
    | plain h =>
      have hown := difference_iff.mpr ⟨l, r, field, h, rfl⟩
      exact Or.inl (and_iff.mpr ⟨_, _, hown, tag_iff.mpr rfl, rfl⟩)
    | negated hunary hoperator hargument h =>
      refine Or.inr ⟨fun own hown ↦ ?_, ?_⟩
      · obtain ⟨first, second, hfirst, -, -⟩ := and_iff.mp hown
        obtain ⟨_, _, _, hcompares, -⟩ := difference_iff.mp hfirst
        exact absurd (Json.isKind_unique hcompares.binary hunary) (by decide)
      · obtain ⟨entries, hentries⟩ := Json.exists_entries_of_isKind hunary
        have hown := difference_iff.mpr ⟨l, r, field, h, rfl⟩
        refine and_iff.mpr ⟨[("l", .ofName l), ("field", .string field), ("r", .ofName r)], _,
          node_iff.mpr ⟨hunary, entries, hentries, ?_⟩, tag_iff.mpr rfl, rfl⟩
        refine (bindFields_cons_some_iff hentries (refusesNull_literal_string "-")).mpr
          ⟨_, [], [], hoperator, (literal_string_iff rfl).mpr ⟨rfl, rfl⟩, rfl, ?_⟩
        exact (bindFields_cons_some_iff hentries (refusesNull_node _ _)).mpr
          ⟨_, _, _, hargument, hown, rfl, rfl⟩

theorem exists_of_function {p : Pattern}
    (h : (function (twoParams "a" "b") p).bindings f = .matched bs) :
    ∃ x y e own, f.isFunction = true ∧ (f.field? "params").bind Json.asArray? = some [x, y] ∧
      Json.returned? (.orNull (f.field? "body")) = some e ∧ p.bindings e = .matched own ∧
        Bindings.merge [("a", .ofName x.identName?), ("b", .ofName y.identName?)] own =
          .matched bs := by
  obtain ⟨hfunction, params, e, own, hparams, he, hown, hmerge⟩ := function_iff.mp h
  obtain ⟨x, y, hxy, -, -, rfl⟩ := (twoParams_iff (by decide)).mp hparams
  exact ⟨x, y, e, own, hfunction, orNull_eq_array_iff.mp hxy, he, hown, hmerge⟩

/-! ## Reading a comparator -/

variable {key : SortKey}

/-- The parameters and operands of a function whose operands are in some order have names. -/
theorem exists_reads_of_operandOrder {x y e : Json} {lo ro : Option String} {order : Int}
    (h : operandOrder m = .matched order) (hfunction : f.isFunction = true)
    (hparams : (f.field? "params").bind Json.asArray? = some [x, y])
    (he : Json.returned? (.orNull (f.field? "body")) = some e)
    (ha : m.string? "a" = x.identName?) (hb : m.string? "b" = y.identName?)
    (hl : m.string? "l" = lo) (hr : m.string? "r" = ro) :
    ∃ a b l r s, Reads f a b e ∧ a ≠ b ∧ InOrder a b l r s ∧ lo = some l ∧ ro = some r ∧
      order = s := by
  obtain ⟨a, b, l, r, ha', hb', hl', hr', hne, s, hs, horder⟩ := exists_of_operandOrder h
  refine ⟨a, b, l, r, s, ⟨hfunction, ⟨x, y, hparams, ?_, ?_⟩, he⟩, hne, hs, ?_, ?_, horder⟩
  · exact ha.symm.trans ha'
  · exact hb.symm.trans hb'
  · exact hl.symm.trans hl'
  · exact hr.symm.trans hr'

theorem readAs_of_relationalRule (h : relationalRule.apply () f = .matched key) :
    ∃ order form, ReadAs f key.field order form ∧ form.Decides order key.ascending := by
  obtain ⟨bs, hbs, hbuild⟩ := Rule.apply_eq_matched_iff.mp h
  obtain ⟨x, y, e, own, hfunction, hparams, he, hown, hmerge⟩ := exists_of_function hbs
  obtain ⟨operator, lo, ro, field, hmem, hcompares, rfl⟩ := (Shapes.compare_iff (by decide)).mp hown
  cases hmerge
  -- All names are bound one by one now, so looking them up is evaluation.
  obtain ⟨order, horder, hbuild⟩ := Outcome.bind_eq_matched_iff.mp hbuild
  obtain ⟨sign, hsign, hbuild⟩ := Outcome.bind_eq_matched_iff.mp hbuild
  obtain ⟨a, b, l, r, s, hreads, hne, hs, rfl, rfl, rfl⟩ :=
    exists_reads_of_operandOrder horder hfunction hparams he (Json.asString?_ofName _)
      (Json.asString?_ofName _) (Json.asString?_ofName lo) (Json.asString?_ofName ro)
  obtain rfl : sign = direction operator := eq_direction_of_operatorSign rfl hsign
  obtain ⟨hfield, hdirection⟩ := field_and_sign_of_sortKey hbuild
  cases hfield
  exact ⟨s, .relational operator, ⟨a, b, e, l, r, hreads, hne, hs, .relational hmem hcompares⟩,
    mul_eq_of_coe_mul_eq hdirection⟩

theorem readAs_of_ternaryRule (h : ternaryRule.apply () f = .matched key) :
    ∃ order form, ReadAs f key.field order form ∧ form.Decides order key.ascending := by
  obtain ⟨bs, hbs, hbuild⟩ := Rule.apply_eq_matched_iff.mp h
  obtain ⟨x, y, e, own, hfunction, hparams, he, hown, hmerge⟩ := exists_of_function hbs
  obtain ⟨op₁, op₂, lo, ro, field, c₁, c₂, c₃, x₁, x₂, x₃, alternate, hop₁, hop₂, h₁, h₂, hx₁, hx₂,
    hx₃, rfl⟩ := ternaryBody_iff.mp hown
  cases hmerge
  obtain ⟨order, horder, hbuild⟩ := Outcome.bind_eq_matched_iff.mp hbuild
  obtain ⟨first, hfirst, hbuild⟩ := Outcome.bind_eq_matched_iff.mp hbuild
  obtain ⟨second, hsecond, hbuild⟩ := Outcome.bind_eq_matched_iff.mp hbuild
  obtain ⟨a, b, l, r, s, hreads, hne, hs, rfl, rfl, rfl⟩ :=
    exists_reads_of_operandOrder horder hfunction hparams he (Json.asString?_ofName _)
      (Json.asString?_ofName _) (Json.asString?_ofName lo) (Json.asString?_ofName ro)
  obtain rfl : first = direction op₁ := eq_direction_of_operatorSign rfl hfirst
  obtain rfl : second = direction op₂ := eq_direction_of_operatorSign rfl hsecond
  have hread : ReadAs f field s (.ternary op₁ op₂ c₁ c₂ c₃) :=
    ⟨a, b, e, l, r, hreads, hne, hs,
      .ternary hop₁ hop₂ h₁ h₂ (by rw [hx₁]; rfl) (by rw [hx₂]; rfl) (by rw [hx₃]; rfl)⟩
  obtain ⟨hfield, htotal⟩ := field_and_total_of_sortKey hbuild
  cases hfield
  refine ⟨s, _, hread, ?_⟩
  rw [Form.Decides, signOf, signOf, signOf, hx₁, hx₂, hx₃]
  exact htotal

theorem readAs_of_subtractionRule (h : subtractionRule.apply () f = .matched key) :
    ∃ order form, ReadAs f key.field order form ∧ form.Decides order key.ascending := by
  obtain ⟨bs, hbs, hbuild⟩ := Rule.apply_eq_matched_iff.mp h
  obtain ⟨x, y, e, own, hfunction, hparams, he, hown, hmerge⟩ := exists_of_function hbs
  obtain ⟨lo, ro, field, negated, hsubtracts, rfl⟩ := subtraction_iff.mp hown
  cases hmerge
  obtain ⟨order, horder, hbuild⟩ := Outcome.bind_eq_matched_iff.mp hbuild
  obtain ⟨a, b, l, r, s, hreads, hne, hs, rfl, rfl, rfl⟩ :=
    exists_reads_of_operandOrder horder hfunction hparams he (Json.asString?_ofName _)
      (Json.asString?_ofName _) (Json.asString?_ofName lo) (Json.asString?_ofName ro)
  obtain ⟨hfield, hdirection⟩ := field_and_sign_of_sortKey hbuild
  cases hfield
  refine ⟨s, .subtraction negated, ⟨a, b, e, l, r, hreads, hne, hs, .subtraction hsubtracts⟩, ?_⟩
  exact negate_eq_of_coe_eq hdirection

/-- A function with a sort key is read as a comparator of some form, whose signs decide. -/
theorem exists_readAs_of_normalize (h : normalize f = .matched key) :
    ∃ order form, ReadAs f key.field order form ∧ form.Decides order key.ascending := by
  obtain ⟨rule, hmem, happly⟩ := Rule.exists_of_firstFrom h
  simp only [rules, List.mem_cons, List.not_mem_nil, or_false] at hmem
  rcases hmem with rfl | rfl | rfl
  · exact readAs_of_relationalRule happly
  · exact readAs_of_ternaryRule happly
  · exact readAs_of_subtractionRule happly

/-! ## A function is read in one way -/

theorem Reads.unique {a a' b b' : String} {e e' : Json} (h : Reads f a b e)
    (h' : Reads f a' b' e') : a = a' ∧ b = b' ∧ e = e' := by
  obtain ⟨x, y, hparams, ha, hb⟩ := h.params
  obtain ⟨x', y', hparams', ha', hb'⟩ := h'.params
  cases hparams.symm.trans hparams'
  cases ha.symm.trans ha'
  cases hb.symm.trans hb'
  cases h.returned.symm.trans h'.returned
  exact ⟨rfl, rfl, rfl⟩

theorem Chooses.unique {e : Json} {op op' : String} {l l' r r' : Option String}
    {field field' : String} {c c' d d' : Json} (h : Chooses e op l r field c d)
    (h' : Chooses e op' l' r' field' c' d') :
    op = op' ∧ l = l' ∧ r = r' ∧ field = field' ∧ c = c' ∧ d = d' := by
  obtain ⟨t, ht, hcompares⟩ := h.test
  obtain ⟨t', ht', hcompares'⟩ := h'.test
  cases ht.symm.trans ht'
  cases h.consequent.symm.trans h'.consequent
  cases h.alternate.symm.trans h'.alternate
  obtain ⟨hop, hl, hr, hfield⟩ := hcompares.unique hcompares'
  exact ⟨hop, hl, hr, hfield, rfl, rfl⟩

theorem Subtracts.unique {e : Json} {l l' r r' : Option String} {field field' : String}
    {negated negated' : Bool} (h : Subtracts e l r field negated)
    (h' : Subtracts e l' r' field' negated') :
    l = l' ∧ r = r' ∧ field = field' ∧ negated = negated' := by
  cases h with
  | plain h =>
    cases h' with
    | plain h' =>
      obtain ⟨-, hl, hr, hfield⟩ := h.unique h'
      exact ⟨hl, hr, hfield, rfl⟩
    | negated hunary' _ _ _ => exact absurd (Json.isKind_unique h.binary hunary') (by decide)
  | negated hunary _ hargument h =>
    cases h' with
    | plain h' => exact absurd (Json.isKind_unique hunary h'.binary) (by decide)
    | negated _ _ hargument' h' =>
      cases hargument.symm.trans hargument'
      obtain ⟨-, hl, hr, hfield⟩ := h.unique h'
      exact ⟨hl, hr, hfield, rfl⟩

theorem InOrder.unique {a b l r : String} {s s' : SignType} (hne : a ≠ b)
    (h : InOrder a b l r s) (h' : InOrder a b l r s') : s = s' := by
  rcases h with ⟨rfl, rfl, rfl⟩ | ⟨rfl, rfl, rfl⟩
  · rcases h' with ⟨-, -, rfl⟩ | ⟨hl, -, -⟩
    · rfl
    · exact absurd hl hne
  · rcases h' with ⟨hl, -, -⟩ | ⟨-, -, rfl⟩
    · exact absurd hl.symm hne
    · rfl

/-- The kind of expression that a form has. -/
def Form.kind : Form → String
  | .relational _ => Kind.binary
  | .ternary _ _ _ _ _ => Kind.conditional
  | .subtraction false => Kind.binary
  | .subtraction true => Kind.unary

theorem Form.kind_subtraction_ne (negated : Bool) :
    (Form.subtraction negated).kind ≠ Kind.conditional := by
  cases negated <;> decide

theorem HasForm.isKind {e : Json} {l r field : String} {form : Form}
    (h : HasForm e l r field form) : e.unparen.isKind form.kind = true := by
  cases h with
  | relational _ h => exact h.binary
  | ternary _ _ h _ _ _ _ => exact h.conditional
  | subtraction h =>
    cases h with
    | plain h => exact h.binary
    | negated hunary _ _ _ => exact hunary

/-- A difference is no comparison, although both have two operands. -/
theorem HasForm.not_subtraction {e : Json} {l r l' r' field field' operator : String}
    {negated : Bool} (h : HasForm e l r field (.relational operator))
    (h' : HasForm e l' r' field' (.subtraction negated)) : False := by
  cases h with
  | relational hmem h =>
    cases h' with
    | subtraction h' =>
      cases h' with
      | plain h' =>
        obtain ⟨rfl, -, -, -⟩ := h.unique h'
        exact absurd hmem (by decide)
      | negated hunary _ _ _ => exact absurd (Json.isKind_unique h.binary hunary) (by decide)

/-- An expression is of one form only. -/
theorem HasForm.unique {e : Json} {l r l' r' field field' : String} {form form' : Form}
    (h : HasForm e l r field form) (h' : HasForm e l' r' field' form') :
    l = l' ∧ r = r' ∧ field = field' ∧ form = form' := by
  have hkind : form.kind = form'.kind := Json.isKind_unique h.isKind h'.isKind
  cases h with
  | relational hmem h =>
    cases h' with
    | relational hmem' h' =>
      obtain ⟨rfl, hl, hr, rfl⟩ := h.unique h'
      exact ⟨Option.some.inj hl, Option.some.inj hr, rfl, rfl⟩
    | ternary _ _ _ _ _ _ _ => exact absurd hkind (by decide : Kind.binary ≠ Kind.conditional)
    | subtraction h' => exact (not_subtraction (.relational hmem h) (.subtraction h')).elim
  | ternary hmem₁ hmem₂ h halternate _ _ _ =>
    cases h' with
    | relational _ _ => exact absurd hkind (by decide : Kind.conditional ≠ Kind.binary)
    | ternary _ _ h' halternate' _ _ _ =>
      obtain ⟨rfl, hl, hr, rfl, rfl, rfl⟩ := h.unique h'
      obtain ⟨rfl, -, -, -, rfl, rfl⟩ := halternate.unique halternate'
      exact ⟨Option.some.inj hl, Option.some.inj hr, rfl, rfl⟩
    | subtraction _ => exact absurd hkind.symm (Form.kind_subtraction_ne _)
  | subtraction h =>
    cases h' with
    | relational hmem' h' => exact (not_subtraction (.relational hmem' h') (.subtraction h)).elim
    | ternary _ _ _ _ _ _ _ => exact absurd hkind (Form.kind_subtraction_ne _)
    | subtraction h' =>
      obtain ⟨hl, hr, rfl, rfl⟩ := h.unique h'
      exact ⟨Option.some.inj hl, Option.some.inj hr, rfl, rfl⟩

/-- A comparator is read in one way only. -/
theorem ReadAs.unique {field field' : String} {s s' : SignType} {form form' : Form}
    (h : ReadAs f field s form) (h' : ReadAs f field' s' form') :
    field = field' ∧ s = s' ∧ form = form' := by
  obtain ⟨a, b, e, l, r, hreads, hne, hs, hform⟩ := h
  obtain ⟨a', b', e', l', r', hreads', -, hs', hform'⟩ := h'
  obtain ⟨rfl, rfl, rfl⟩ := hreads.unique hreads'
  obtain ⟨rfl, rfl, rfl, rfl⟩ := hform.unique hform'
  exact ⟨rfl, hs.unique hne hs', rfl⟩

end FluentQuery.Comparator
