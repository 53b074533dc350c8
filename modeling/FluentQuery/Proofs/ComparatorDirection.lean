import FluentQuery.Node.Build
import FluentQuery.Proofs.ComparatorForms
import FluentQuery.Proofs.Evaluate
import Mathlib.Data.Int.ConditionallyCompleteOrder
import Mathlib.Tactic.Linarith
import Mathlib.Tactic.Ring

/-!
# The direction of comparators

What a comparator function says of two documents is the value of the expression that it gives back.
A sort key is right if the comparator gives more for a greater first document than for a lower one,
or less if the key is descending.

For comparisons and differences the key is always right. A ternary comparator is read by adding up
signs, and the sign of its last literal counts the same whichever case that literal stands for. So
there are comparators that are read as ascending and that sort by nothing, or the other way round:
those where neither test asks for the first document to be lower, and where the last literal, which
is then what they give, is as large as what they give for greater. `Ternary.Overruled` says so, and
`normalize_sortsBy_iff` that there are no others.
-/

namespace FluentQuery.Comparator

/-! ## What a comparator gives -/

/-- The documents that two parameters stand for. -/
def formals (a b : String) (d e : Document) : String → Option Document := fun name ↦
  if name = a then some d else if name = b then some e else none

/-- What a function gives for two documents, as a number. -/
def compared? (f : Json) (d e : Document) : Option ℚ :=
  if f.isFunction then
    match (f.field? "params").bind Json.asArray? with
    | some [x, y] => do
      let body ← Json.returned? (.orNull (f.field? "body"))
      (← body.evaluate (formals (← x.identName?) (← y.identName?) d e)).toNumber?
    | _ => none
  else none

/-- A sort key is the order in which a comparator puts documents by the whole numbers in the field:
ascending if it always gives more for the greater of two documents first than for the lower one. -/
def SortsBy (f : Json) (key : SortKey) : Prop :=
  ∀ (d e : Document) (x y : ℤ), d key.field = some x → e key.field = some y → y < x →
    ∃ p q, compared? f d e = some p ∧ compared? f e d = some q ∧
      if key.ascending then q < p else p < q

variable {f : Json} {key : SortKey}

theorem Reads.compared?_eq {a b : String} {body : Json} (h : Reads f a b body) (d e : Document) :
    compared? f d e = (body.evaluate (formals a b d e)).bind Value.toNumber? := by
  obtain ⟨x, y, hparams, hx, hy⟩ := h.params
  rw [compared?, if_pos h.isFunction, hparams]
  simp [h.returned, hx, hy]

/-! ## Ternary comparators -/

/-- Three signs that add up to two: no number is negative, and at most one is zero. -/
theorem pos_of_sign_add_eq_two {p q r : ℚ}
    (h : (SignType.sign p + SignType.sign q + SignType.sign r : ℤ) = 2) :
    0 ≤ p ∧ 0 ≤ q ∧ 0 ≤ r ∧ (0 < p ∧ 0 < q ∨ 0 < p ∧ 0 < r ∨ 0 < q ∧ 0 < r) := by
  have hcases : ∀ x : ℚ, (SignType.sign x : ℤ) = 1 ∧ 0 < x ∨ (SignType.sign x : ℤ) = 0 ∧ x = 0 ∨
      (SignType.sign x : ℤ) = -1 ∧ x < 0 := by
    intro x
    rcases lt_trichotomy x 0 with hx | rfl | hx
    · exact Or.inr (Or.inr ⟨by rw [sign_neg hx]; rfl, hx⟩)
    · exact Or.inr (Or.inl ⟨by rw [sign_zero]; rfl, rfl⟩)
    · exact Or.inl ⟨by rw [sign_pos hx]; rfl, hx⟩
  rcases hcases p with ⟨hp, hp'⟩ | ⟨hp, hp'⟩ | ⟨hp, hp'⟩ <;>
    rcases hcases q with ⟨hq, hq'⟩ | ⟨hq, hq'⟩ | ⟨hq, hq'⟩ <;>
      rcases hcases r with ⟨hr, hr'⟩ | ⟨hr, hr'⟩ | ⟨hr, hr'⟩ <;>
        rw [hp, hq, hr] at h <;> first | omega | simp_all [le_of_lt]

/-- The tests and the literals of a ternary comparator. A test is `1` if it asks for the first
parameter to be greater, `-1` if it asks for it to be lower, and `0` if it asks for neither. -/
structure Ternary where
  first : SignType
  second : SignType
  n₁ : ℚ
  n₂ : ℚ
  n₃ : ℚ

namespace Ternary

/-- What the comparator gives when the first parameter is greater, `1`, or lower, `-1`. -/
def value (t : Ternary) (σ : SignType) : ℚ :=
  if t.first = σ then t.n₁ else if t.second = σ then t.n₂ else t.n₃

/-- The sum of signs that decides the direction. -/
def total (t : Ternary) : ℤ :=
  t.first * SignType.sign t.n₁ + t.second * SignType.sign t.n₂ + SignType.sign t.n₃

/-- No test asks for lower, so that the last literal is given there, and it is as large as what is
given for greater. -/
def Overruled (t : Ternary) : Prop :=
  t.first ≠ -1 ∧ t.second ≠ -1 ∧ |t.value 1| ≤ |t.n₃|

/-- The comparator with the opposite literals. -/
def neg (t : Ternary) : Ternary := { t with n₁ := -t.n₁, n₂ := -t.n₂, n₃ := -t.n₃ }

theorem value_neg (t : Ternary) (σ : SignType) : t.neg.value σ = -t.value σ := by
  rw [value, value, neg]
  split
  · rfl
  · split <;> rfl

theorem total_neg (t : Ternary) : t.neg.total = -t.total := by
  simp only [total, neg, Left.sign_neg, SignType.coe_neg]
  ring

theorem overruled_neg_iff {t : Ternary} : t.neg.Overruled ↔ t.Overruled := by
  rw [Overruled, Overruled, value_neg, abs_neg]
  simp [neg]

theorem sign_mul_cases (s : SignType) (q : ℚ) :
    s = 1 ∧ (s : ℚ) * q = q ∨ s = 0 ∧ (s : ℚ) * q = 0 ∨ s = -1 ∧ (s : ℚ) * q = -q := by
  rcases s.trichotomy with rfl | rfl | rfl <;> simp

theorem nonneg_of_total_eq_two {t : Ternary} (h : t.total = 2) :
    0 ≤ t.first * t.n₁ ∧ 0 ≤ t.second * t.n₂ ∧ 0 ≤ t.n₃ ∧
      (0 < t.first * t.n₁ ∧ 0 < t.second * t.n₂ ∨ 0 < t.first * t.n₁ ∧ 0 < t.n₃ ∨
        0 < t.second * t.n₂ ∧ 0 < t.n₃) := by
  have hmul : ∀ (s : SignType) (q : ℚ),
      (s : ℤ) * SignType.sign q = SignType.sign ((s : ℚ) * q) := by
    intro s q
    rcases sign_mul_cases s q with ⟨rfl, hq⟩ | ⟨rfl, hq⟩ | ⟨rfl, hq⟩ <;> rw [hq] <;>
      simp [Left.sign_neg]
  rw [total, hmul, hmul] at h
  exact pos_of_sign_add_eq_two h

/-- If a test asks for lower, what is given for lower is below what is given for greater. -/
theorem value_lt_of_asksLower {t : Ternary} (h : t.total = 2)
    (hlower : t.first = -1 ∨ t.second = -1) : t.value (-1) < t.value 1 := by
  obtain ⟨h₁, h₂, h₃, htwo⟩ := nonneg_of_total_eq_two h
  obtain ⟨s₁, s₂, n₁, n₂, n₃⟩ := t
  -- What is given for lower is not positive and what is given for greater is not negative. Of the
  -- three signed literals at most one is zero, so one of these two is not.
  rcases sign_mul_cases s₁ n₁ with ⟨rfl, hn₁⟩ | ⟨rfl, hn₁⟩ | ⟨rfl, hn₁⟩
  · obtain rfl : s₂ = -1 := by simpa using hlower
    have hn₂ : ((-1 : SignType) : ℚ) * n₂ = -n₂ := by simp
    change n₂ < n₁
    rcases htwo with ⟨_, _⟩ | ⟨_, _⟩ | ⟨_, _⟩ <;> linarith
  · obtain rfl : s₂ = -1 := by simpa using hlower
    have hn₂ : ((-1 : SignType) : ℚ) * n₂ = -n₂ := by simp
    change n₂ < n₃
    rcases htwo with ⟨_, _⟩ | ⟨_, _⟩ | ⟨_, _⟩ <;> linarith
  · rcases sign_mul_cases s₂ n₂ with ⟨rfl, hn₂⟩ | ⟨rfl, hn₂⟩ | ⟨rfl, hn₂⟩
    · change n₁ < n₂
      rcases htwo with ⟨_, _⟩ | ⟨_, _⟩ | ⟨_, _⟩ <;> linarith
    · change n₁ < n₃
      rcases htwo with ⟨_, _⟩ | ⟨_, _⟩ | ⟨_, _⟩ <;> linarith
    · change n₁ < n₃
      rcases htwo with ⟨_, _⟩ | ⟨_, _⟩ | ⟨_, _⟩ <;> linarith

theorem value_one_nonneg {t : Ternary} (h : t.total = 2) : 0 ≤ t.value 1 := by
  obtain ⟨hn₁, hn₂, hn₃, -⟩ := nonneg_of_total_eq_two h
  rw [value]
  split
  · next hfirst => simpa [hfirst] using hn₁
  · split
    · next hsecond => simpa [hsecond] using hn₂
    · exact hn₃

/-- **The direction of a ternary comparator.** If its signs add up to two, it gives more for greater
than for lower unless it is overruled. -/
theorem value_lt_iff {t : Ternary} (h : t.total = 2) :
    t.value (-1) < t.value 1 ↔ ¬ t.Overruled := by
  by_cases hlower : t.first = -1 ∨ t.second = -1
  · refine iff_of_true (value_lt_of_asksLower h hlower) ?_
    rintro ⟨h₁, h₂, -⟩
    exact hlower.elim h₁ h₂
  · -- The last literal is given for lower, and counts for greater all the same.
    obtain ⟨h₁, h₂⟩ := not_or.mp hlower
    obtain ⟨-, -, hn₃, -⟩ := nonneg_of_total_eq_two h
    have hvalue : t.value (-1) = t.n₃ := by rw [value, if_neg h₁, if_neg h₂]
    rw [hvalue, Overruled, abs_of_nonneg hn₃, abs_of_nonneg (value_one_nonneg h), ← not_le]
    simp [h₁, h₂]

theorem lt_value_iff {t : Ternary} (h : t.total = -2) :
    t.value 1 < t.value (-1) ↔ ¬ t.Overruled := by
  have hneg : t.neg.total = 2 := by rw [total_neg, h, neg_neg]
  rw [← overruled_neg_iff, ← value_lt_iff hneg, value_neg, value_neg, neg_lt_neg_iff]

end Ternary

/-! ## Tests and differences -/

/-- Between different numbers, an operator is true in its direction. -/
theorem binary?_comparison {operator : String} (hmem : operator ∈ Shapes.comparison) {p q : ℤ}
    (hne : p ≠ q) :
    Value.binary? operator (.number p) (.number q) =
      some (.boolean (decide (direction operator = SignType.sign (p - q)))) := by
  simp only [Shapes.comparison, List.mem_cons, List.not_mem_nil, or_false] at hmem
  rcases lt_or_gt_of_ne hne with hlt | hlt
  · have hsign : SignType.sign (p - q) = -1 := sign_neg (sub_neg.mpr hlt)
    rw [hsign]
    rcases hmem with rfl | rfl | rfl | rfl | rfl | rfl <;>
      simp [Value.binary?, Value.toNumber?, Value.sameType, direction, hlt, hlt.not_gt, hlt.le, hne]
  · have hsign : SignType.sign (p - q) = 1 := sign_pos (sub_pos.mpr hlt)
    rw [hsign]
    rcases hmem with rfl | rfl | rfl | rfl | rfl | rfl <;>
      simp [Value.binary?, Value.toNumber?, Value.sameType, direction, hlt, hlt.not_gt, hlt.le, hne]

section Operands

variable {a b l r field : String} {s : SignType} {v : Json} {d e : Document} {x y : ℤ}

theorem formals_first : formals a b d e a = some d := if_pos rfl

theorem formals_second (hne : a ≠ b) : formals a b d e b = some e := by
  rw [formals, if_neg hne.symm, if_pos rfl]

/-- The operands of an operation are the numbers of the two documents, in one order or the other. -/
theorem InOrder.evaluate_eq {operator : String} (hs : InOrder a b l r s) (hne : a ≠ b)
    (h : v.Compares operator (some l) (some r) field) (hd : d field = some x)
    (he : e field = some y) :
    s = 1 ∧ v.evaluate (formals a b d e) = Value.binary? operator (.number x) (.number y) ∨
      s = -1 ∧ v.evaluate (formals a b d e) = Value.binary? operator (.number y) (.number x) := by
  rcases hs with ⟨rfl, rfl, rfl⟩ | ⟨rfl, rfl, rfl⟩
  · exact Or.inl ⟨rfl, h.evaluate formals_first (formals_second hne) hd he⟩
  · exact Or.inr ⟨rfl, h.evaluate (formals_second hne) formals_first he hd⟩

/-- Between documents with different numbers, a comparison is true in its direction, as the
parameters have it. -/
theorem InOrder.evaluate_comparison {operator : String} (hs : InOrder a b l r s) (hne : a ≠ b)
    (hmem : operator ∈ Shapes.comparison) (h : v.Compares operator (some l) (some r) field)
    (hd : d field = some x) (he : e field = some y) (hxy : x ≠ y) :
    v.evaluate (formals a b d e) =
      some (.boolean (decide (direction operator * s = SignType.sign (x - y)))) := by
  rcases hs.evaluate_eq hne h hd he with ⟨rfl, hevaluate⟩ | ⟨rfl, hevaluate⟩
  · rw [hevaluate, binary?_comparison hmem hxy, mul_one]
  · have hsign : SignType.sign (y - x) = -SignType.sign (x - y) := by
      rw [← Left.sign_neg, neg_sub]
    rw [hevaluate, binary?_comparison hmem hxy.symm, hsign, mul_neg_one]
    simp only [neg_eq_iff_eq_neg]

theorem InOrder.evaluate_difference (hs : InOrder a b l r s) (hne : a ≠ b)
    (h : v.Compares "-" (some l) (some r) field) (hd : d field = some x) (he : e field = some y) :
    v.evaluate (formals a b d e) = some (.number (s * (x - y))) := by
  rcases hs.evaluate_eq hne h hd he with ⟨rfl, hevaluate⟩ | ⟨rfl, hevaluate⟩
  · rw [hevaluate, SignType.coe_one, one_mul]
    rfl
  · rw [hevaluate, SignType.coe_neg_one, neg_one_mul, neg_sub]
    rfl

end Operands

/-! ## What each form gives -/

/-- What a comparator gives for documents with different numbers in a field depends only on the
difference of these. -/
def Gives (f : Json) (field : String) (g : ℤ → ℚ) : Prop :=
  ∀ (d e : Document) (x y : ℤ), d field = some x → e field = some y → x ≠ y →
    compared? f d e = some (g (x - y))

theorem Gives.sortsBy_iff {g : ℤ → ℚ} (h : Gives f key.field g) :
    SortsBy f key ↔ ∀ n : ℤ, 0 < n → if key.ascending then g (-n) < g n else g n < g (-n) := by
  constructor
  · -- Documents of one number each show any difference.
    intro hsorts n hn
    obtain ⟨p, q, hp, hq, hlt⟩ := hsorts (fun _ ↦ some n) (fun _ ↦ some 0) n 0 rfl rfl hn
    rw [h _ _ n 0 rfl rfl hn.ne', sub_zero] at hp
    rw [h _ _ 0 n rfl rfl hn.ne, zero_sub] at hq
    cases hp
    cases hq
    exact hlt
  · intro hlt d e x y hd he hxy
    refine ⟨g (x - y), g (y - x), h d e x y hd he hxy.ne', h e d y x he hd hxy.ne, ?_⟩
    rw [← neg_sub x y]
    exact hlt (x - y) (sub_pos.mpr hxy)

variable {field : String} {s : SignType}

theorem gives_of_relational {operator : String} (h : ReadAs f field s (.relational operator)) :
    Gives f field fun n ↦ if direction operator * s = SignType.sign n then 1 else 0 := by
  obtain ⟨a, b, body, l, r, hreads, hne, hs, hform⟩ := h
  cases hform with
  | relational hmem hcompares =>
    intro d e x y hd he hxy
    have hmem' : operator ∈ Shapes.comparison := by
      simp only [Shapes.relational, Shapes.comparison, List.mem_cons] at hmem ⊢
      tauto
    rw [hreads.compared?_eq, hs.evaluate_comparison hne hmem' hcompares hd he hxy]
    simp [Value.toNumber?]

theorem gives_of_subtraction {negated : Bool} (h : ReadAs f field s (.subtraction negated)) :
    Gives f field fun n ↦ (if negated then -s else s : SignType) * n := by
  obtain ⟨a, b, body, l, r, hreads, hne, hs, hform⟩ := h
  cases hform with
  | subtraction hsubtracts =>
    intro d e x y hd he hxy
    rw [hreads.compared?_eq]
    cases hsubtracts with
    | plain hcompares =>
      rw [hs.evaluate_difference hne hcompares hd he]
      simp [Value.toNumber?]
    | negated hunary hoperator hargument hcompares =>
      rw [Json.evaluate_unary hunary hoperator hargument,
        hs.evaluate_difference hne hcompares hd he]
      simp [Value.toNumber?, Value.unary?, SignType.coe_neg]

/-- A conditional on a comparison gives one or the other, by the direction of the comparison. -/
theorem Chooses.evaluate_formals {operator a b l r : String} {v consequent alternate : Json}
    (h : Chooses v operator (some l) (some r) field consequent alternate)
    (hmem : operator ∈ Shapes.comparison) (hs : InOrder a b l r s) (hne : a ≠ b) {d e : Document}
    {x y : ℤ} (hd : d field = some x) (he : e field = some y) (hxy : x ≠ y) :
    v.evaluate (formals a b d e) =
      if direction operator * s = SignType.sign (x - y) then consequent.evaluate (formals a b d e)
      else alternate.evaluate (formals a b d e) := by
  obtain ⟨t, ht, hcompares⟩ := h.test
  rw [Json.evaluate_conditional h.conditional ht h.consequent h.alternate,
    hs.evaluate_comparison hne hmem hcompares hd he hxy]
  simp [Value.isTruthy]

/-- A function is a ternary comparator, with its tests as the parameters have them and the exact
values of its literals. -/
inductive IsTernary (f : Json) : Ternary → Prop
  | intro {field op₁ op₂ : String} {s : SignType} {c₁ c₂ c₃ : Json} {n₁ n₂ n₃ : ℚ}
      (h : ReadAs f field s (.ternary op₁ op₂ c₁ c₂ c₃))
      (h₁ : ∀ env, c₁.evaluate env = some (.number n₁))
      (h₂ : ∀ env, c₂.evaluate env = some (.number n₂))
      (h₃ : ∀ env, c₃.evaluate env = some (.number n₃)) :
      IsTernary f ⟨direction op₁ * s, direction op₂ * s, n₁, n₂, n₃⟩

theorem gives_of_ternary {op₁ op₂ : String} {c₁ c₂ c₃ : Json} {n₁ n₂ n₃ : ℚ}
    (h : ReadAs f field s (.ternary op₁ op₂ c₁ c₂ c₃))
    (h₁ : ∀ env, c₁.evaluate env = some (.number n₁))
    (h₂ : ∀ env, c₂.evaluate env = some (.number n₂))
    (h₃ : ∀ env, c₃.evaluate env = some (.number n₃)) :
    Gives f field fun n ↦
      Ternary.value ⟨direction op₁ * s, direction op₂ * s, n₁, n₂, n₃⟩ (SignType.sign n) := by
  obtain ⟨a, b, body, l, r, hreads, hne, hs, hform⟩ := h
  cases hform with
  | ternary hmem₁ hmem₂ hfirst hsecond _ _ _ =>
    intro d e x y hd he hxy
    rw [hreads.compared?_eq, hfirst.evaluate_formals hmem₁ hs hne hd he hxy,
      hsecond.evaluate_formals hmem₂ hs hne hd he hxy, h₁, h₂, h₃]
    simp only [Ternary.value]
    split
    · rfl
    · split <;> rfl

/-! ## When the key is right -/

theorem exists_number_of_isSome {c : Json} (h : c.number?.isSome = true) :
    ∃ n : ℚ, (∀ env, c.evaluate env = some (.number n)) ∧ signOf c = SignType.sign n := by
  obtain ⟨x, hx⟩ := Option.isSome_iff_exists.mp h
  obtain ⟨n, hn, hsign⟩ := Json.evaluate_of_number? c hx
  refine ⟨n, hn, ?_⟩
  rw [signOf, hx]
  exact hsign

/-- The literals of a ternary comparator have values, and its signs add up as those of the
values. -/
theorem exists_isTernary {op₁ op₂ : String} {c₁ c₂ c₃ : Json}
    (h : ReadAs f field s (.ternary op₁ op₂ c₁ c₂ c₃)) :
    ∃ t, IsTernary f t ∧ Gives f field (fun n ↦ t.value (SignType.sign n)) ∧
      ∀ ascending, (Form.ternary op₁ op₂ c₁ c₂ c₃).Decides s ascending →
        t.total = if ascending then 2 else -2 := by
  have hread := h
  obtain ⟨_, _, _, _, _, -, -, -, hform⟩ := hread
  cases hform with
  | ternary _ _ _ _ hnumber₁ hnumber₂ hnumber₃ =>
    obtain ⟨n₁, h₁, hsign₁⟩ := exists_number_of_isSome hnumber₁
    obtain ⟨n₂, h₂, hsign₂⟩ := exists_number_of_isSome hnumber₂
    obtain ⟨n₃, h₃, hsign₃⟩ := exists_number_of_isSome hnumber₃
    refine ⟨_, .intro h h₁ h₂ h₃, gives_of_ternary h h₁ h₂ h₃, fun ascending hdecides ↦ ?_⟩
    rw [Form.Decides, hsign₁, hsign₂, hsign₃] at hdecides
    rw [← hdecides, Ternary.total, SignType.coe_mul, SignType.coe_mul]
    ring

/-- A function is a ternary comparator in one way only, and in no other form. -/
theorem IsTernary.eq_of_readAs {t : Ternary} {form : Form} (ht : IsTernary f t)
    (h : ReadAs f field s form) : ∃ op₁ op₂ c₁ c₂ c₃, form = .ternary op₁ op₂ c₁ c₂ c₃ := by
  cases ht with
  | intro hread _ _ _ => exact ⟨_, _, _, _, _, (h.unique hread).2.2⟩

theorem IsTernary.unique {t t' : Ternary} (ht : IsTernary f t) (ht' : IsTernary f t') : t = t' := by
  cases ht with
  | intro hread h₁ h₂ h₃ =>
    cases ht' with
    | intro hread' h₁' h₂' h₃' =>
      obtain ⟨-, rfl, hform⟩ := hread.unique hread'
      cases hform
      have hvalue : ∀ {c : Json} {n n' : ℚ}, (∀ env, c.evaluate env = some (.number n)) →
          (∀ env, c.evaluate env = some (.number n')) → n = n' := by
        intro c n n' hn hn'
        -- The value is the same under any names, and so under none.
        have hsame := (hn fun _ ↦ none).symm.trans (hn' fun _ ↦ none)
        exact Value.number.inj (Option.some.inj hsame)
      rw [hvalue h₁ h₁', hvalue h₂ h₂', hvalue h₃ h₃']

theorem sortsBy_of_relational {operator : String}
    (h : ReadAs f key.field s (.relational operator))
    (hdecides : (Form.relational operator).Decides s key.ascending) : SortsBy f key := by
  rw [(gives_of_relational h).sortsBy_iff]
  intro n hn
  rw [Form.Decides] at hdecides
  rw [hdecides, sign_pos hn, sign_neg (neg_neg_of_pos hn)]
  cases key.ascending with
  | true => norm_num
  | false => norm_num

theorem sortsBy_of_subtraction {negated : Bool}
    (h : ReadAs f key.field s (.subtraction negated))
    (hdecides : (Form.subtraction negated).Decides s key.ascending) : SortsBy f key := by
  rw [(gives_of_subtraction h).sortsBy_iff]
  intro n hn
  rw [Form.Decides] at hdecides
  have hlt : -(n : ℚ) < n := neg_lt_self (Int.cast_pos.mpr hn)
  rw [hdecides]
  cases key.ascending with
  | true => simpa using hlt
  | false => simpa using hlt

theorem sortsBy_iff_of_ternary {t : Ternary}
    (hgives : Gives f key.field fun n ↦ t.value (SignType.sign n))
    (htotal : t.total = if key.ascending then 2 else -2) : SortsBy f key ↔ ¬ t.Overruled := by
  rw [hgives.sortsBy_iff]
  have hvalue : (∀ n : ℤ, 0 < n →
      if key.ascending then t.value (SignType.sign (-n)) < t.value (SignType.sign n)
      else t.value (SignType.sign n) < t.value (SignType.sign (-n))) ↔
      if key.ascending then t.value (-1) < t.value 1 else t.value 1 < t.value (-1) := by
    constructor
    · intro h
      exact h 1 one_pos
    · intro h n hn
      rw [sign_pos hn, sign_neg (neg_neg_of_pos hn)]
      exact h
  rw [hvalue]
  cases hascending : key.ascending with
  | true =>
    rw [hascending] at htotal
    exact Ternary.value_lt_iff htotal
  | false =>
    rw [hascending] at htotal
    exact Ternary.lt_value_iff htotal

/-- **When a sort key is right.** A comparator with a sort key gives a number for any two documents
with different whole numbers in the field, and it sorts them as the key says unless it is a ternary
comparator that is overruled by its last literal. -/
theorem normalize_sortsBy_iff (h : normalize f = .matched key) :
    (∀ (d e : Document) (x y : ℤ), d key.field = some x → e key.field = some y → x ≠ y →
      (compared? f d e).isSome = true) ∧
    (SortsBy f key ↔ ¬ ∃ t, IsTernary f t ∧ t.Overruled) := by
  obtain ⟨order, form, hread, hdecides⟩ := exists_readAs_of_normalize h
  have hdefined : ∀ {g : ℤ → ℚ}, Gives f key.field g → ∀ (d e : Document) (x y : ℤ),
      d key.field = some x → e key.field = some y → x ≠ y → (compared? f d e).isSome = true := by
    intro g hgives d e x y hd he hxy
    rw [hgives d e x y hd he hxy]
    rfl
  cases form with
  | relational operator =>
    refine ⟨hdefined (gives_of_relational hread),
      iff_of_true (sortsBy_of_relational hread hdecides) ?_⟩
    rintro ⟨t, ht, -⟩
    obtain ⟨_, _, _, _, _, hform⟩ := ht.eq_of_readAs hread
    cases hform
  | subtraction negated =>
    refine ⟨hdefined (gives_of_subtraction hread),
      iff_of_true (sortsBy_of_subtraction hread hdecides) ?_⟩
    rintro ⟨t, ht, -⟩
    obtain ⟨_, _, _, _, _, hform⟩ := ht.eq_of_readAs hread
    cases hform
  | ternary op₁ op₂ c₁ c₂ c₃ =>
    obtain ⟨t, ht, hgives, htotal⟩ := exists_isTernary hread
    refine ⟨hdefined hgives, ?_⟩
    rw [sortsBy_iff_of_ternary hgives (htotal _ hdecides), not_iff_not]
    constructor
    · intro hoverruled
      exact ⟨t, ht, hoverruled⟩
    · rintro ⟨t', ht', hoverruled⟩
      rw [ht.unique ht']
      exact hoverruled

/-- `(a, b) => a.f > b.f ? 1 : a.f operator b.f ? second : last` -/
def oneIfGreater (operator : String) (second last : Json) : Json :=
  let a := Tree.member (Tree.identifier "a") "f"
  let b := Tree.member (Tree.identifier "b") "f"
  Tree.arrow ["a", "b"] (Tree.conditional (Tree.binary ">" a b) (Tree.literal (.ofInt 1))
    (Tree.conditional (Tree.binary operator a b) second last))

/-- `(a, b) => a.f > b.f ? 1 : a.f < b.f ? -1 : 0` -/
theorem normalize_sortsBy_iff_threeWay :
    let f := oneIfGreater "<" (Tree.unary "-" (Tree.literal (.ofInt 1))) (Tree.literal (.ofInt 0))
    normalize f = .matched ⟨"f", true⟩ ∧
      (∀ (d e : Document) (x y : ℤ), d "f" = some x → e "f" = some y → x ≠ y →
        (compared? f d e).isSome = true) ∧
      (SortsBy f ⟨"f", true⟩ ↔ ¬ ∃ t, IsTernary f t ∧ t.Overruled) := by
  have h := Outcome.toOption_eq_some_iff.mp (by decide +kernel : (normalize (oneIfGreater "<"
    (Tree.unary "-" (Tree.literal (.ofInt 1))) (Tree.literal (.ofInt 0)))).toOption =
      some ⟨"f", true⟩)
  exact ⟨h, normalize_sortsBy_iff h⟩

/-- `(a, b) => a.f > b.f ? 1 : a.f == b.f ? 0 : 2` has an ascending key and sorts in descending
order. -/
theorem normalize_ascending_of_descending :
    let f := oneIfGreater "==" (Tree.literal (.ofInt 0)) (Tree.literal (.ofInt 2))
    normalize f = .matched ⟨"f", true⟩ ∧
      compared? f (fun _ ↦ some 1) (fun _ ↦ some 0) = some 1 ∧
      compared? f (fun _ ↦ some 0) (fun _ ↦ some 1) = some 2 ∧ ¬ SortsBy f ⟨"f", true⟩ := by
  intro f
  have h := Outcome.toOption_eq_some_iff.mp (by decide +kernel : (normalize (oneIfGreater "=="
    (Tree.literal (.ofInt 0)) (Tree.literal (.ofInt 2)))).toOption = some ⟨"f", true⟩)
  have hgreater : compared? f (fun _ ↦ some 1) (fun _ ↦ some 0) = some 1 := rfl
  have hlower : compared? f (fun _ ↦ some 0) (fun _ ↦ some 1) = some 2 := rfl
  refine ⟨h, hgreater, hlower, fun hsorts ↦ ?_⟩
  obtain ⟨p, q, hp, hq, hlt⟩ := hsorts (fun _ ↦ some 1) (fun _ ↦ some 0) 1 0 rfl rfl one_pos
  cases hgreater.symm.trans hp
  cases hlower.symm.trans hq
  norm_num at hlt

end FluentQuery.Comparator
