import FluentQuery.Proofs.ComparatorForms

/-!
# The grammar of comparators

A function has a sort key exactly if it can be read as a comparator whose signs decide. That a key
comes from a reading is `exists_readAs_of_normalize`; here a reading is turned into a key. The rule
of its form accepts the function, since the names that its pattern binds twice are bound alike, and
then the signs that the rule adds up are those of the reading. The rules are tried in order, but
none can get in the way of another: a function has one reading, so that whichever rule accepts it
gives the same key.
-/

namespace FluentQuery

theorem Rule.exists_firstFrom {C T : Type} {context : C} {v : Json} {t : T} {rule : Rule C T}
    {rules : List (Rule C T)} (hmem : rule ∈ rules) (h : rule.apply context v = .matched t)
    (refused : List Skip) : ∃ t', firstFrom context v rules refused = .matched t' := by
  induction rules generalizing refused with
  | nil => cases hmem
  | cons first rest ih =>
    rw [firstFrom]
    cases hfirst : first.apply context v with
    | matched t' => exact ⟨t', rfl⟩
    | skip why =>
      rcases List.mem_cons.mp hmem with rfl | hmem
      · cases h.symm.trans hfirst
      · exact ih hmem _

namespace Comparator

open Pattern Shapes

/-! ## Signs of bindings -/

variable {m : Bindings} {f : Json} {field : String} {ascending : Bool} {s : SignType}

theorem operandOrder_eq_matched {a b l r : String} (ha : m.string? "a" = some a)
    (hb : m.string? "b" = some b) (hl : m.string? "l" = some l) (hr : m.string? "r" = some r)
    (hne : a ≠ b) (hs : InOrder a b l r s) : operandOrder m = .matched s := by
  rw [operandOrder, ha, hb, hl, hr]
  rcases hs with ⟨rfl, rfl, rfl⟩ | ⟨rfl, rfl, rfl⟩
  · simp [hne]
  · simp [hne, hne.symm]

theorem operatorSign_eq_matched {name operator : String} (hname : m.string? name = some operator)
    (hmem : operator ∈ comparison) : operatorSign m name = .matched (direction operator) := by
  rw [operatorSign, hname]
  simp only [comparison, List.mem_cons, List.not_mem_nil, or_false] at hmem
  rcases hmem with rfl | rfl | rfl | rfl | rfl | rfl <;> rfl

theorem sortKey_eq_matched {sign : Int} (hfield : m.string? "field" = some field)
    (hsign : sign = if ascending then 1 else -1) :
    sortKey m sign = .matched ⟨field, ascending⟩ := by
  rw [sortKey, hfield, hsign]
  cases ascending <;> rfl

theorem sortKey_of_total {total : Int} (hfield : m.string? "field" = some field)
    (htotal : total = if ascending then 2 else -2) :
    (if total = 2 then sortKey m 1 else if total = -2 then sortKey m (-1)
      else (Refusal.inconsistent total).toOutcome) = .matched ⟨field, ascending⟩ := by
  rw [htotal]
  cases ascending with
  | true => exact sortKey_eq_matched hfield rfl
  | false => exact sortKey_eq_matched hfield rfl

theorem coe_ite (ascending : Bool) :
    ((if ascending then 1 else -1 : SignType) : ℤ) = if ascending then 1 else -1 := by
  cases ascending <;> rfl

/-! ## From a reading to a key -/

/-- A function matches by its two named parameters and by what it gives back. -/
theorem Reads.function_bindings {a b : String} {e : Json} (h : Reads f a b e) {p : Pattern}
    {own bs : Bindings} (hown : p.bindings e = .matched own)
    (hmerge : Bindings.merge [("a", .string a), ("b", .string b)] own = .matched bs) :
    (function (twoParams "a" "b") p).bindings f = .matched bs := by
  obtain ⟨x, y, hparams, hx, hy⟩ := h.params
  have htwo : (twoParams "a" "b").bindings (.orNull (f.field? "params")) =
      .matched [("a", .string a), ("b", .string b)] := by
    refine (twoParams_iff (by decide)).mpr ⟨x, y, orNull_eq_array_iff.mpr hparams,
      Json.isKind_of_identName? hx, Json.isKind_of_identName? hy, ?_⟩
    rw [hx, hy]
    rfl
  exact function_iff.mpr ⟨h.isFunction, _, e, own, htwo, h.returned, hown, hmerge⟩

theorem relationalRule_of_readAs {operator : String} (h : ReadAs f field s (.relational operator))
    (hdecides : (Form.relational operator).Decides s ascending) :
    relationalRule.apply () f = .matched ⟨field, ascending⟩ := by
  obtain ⟨a, b, e, l, r, hreads, hne, hs, hform⟩ := h
  cases hform with
  | relational hmem hcompares =>
    have hown := (Shapes.compare_iff (by decide : ["op", "l", "field", "r"].Nodup)).mpr
      ⟨operator, some l, some r, field, hmem, hcompares, rfl⟩
    refine Rule.apply_eq_matched_iff.mpr ⟨_, hreads.function_bindings hown rfl, ?_⟩
    have hmem' : operator ∈ comparison := by
      simp only [relational, comparison, List.mem_cons] at hmem ⊢
      tauto
    refine Outcome.bind_eq_matched_iff.mpr ⟨s, operandOrder_eq_matched rfl rfl rfl rfl hne hs, ?_⟩
    refine Outcome.bind_eq_matched_iff.mpr ⟨_, operatorSign_eq_matched rfl hmem', ?_⟩
    refine sortKey_eq_matched rfl ?_
    rw [← coe_ite, ← hdecides, SignType.coe_mul]

theorem ternaryRule_of_readAs {op₁ op₂ : String} {c₁ c₂ c₃ : Json}
    (h : ReadAs f field s (.ternary op₁ op₂ c₁ c₂ c₃))
    (hdecides : (Form.ternary op₁ op₂ c₁ c₂ c₃).Decides s ascending) :
    ternaryRule.apply () f = .matched ⟨field, ascending⟩ := by
  obtain ⟨a, b, e, l, r, hreads, hne, hs, hform⟩ := h
  cases hform with
  | ternary hmem₁ hmem₂ hchooses halternate hnumber₁ hnumber₂ hnumber₃ =>
    obtain ⟨x₁, hx₁⟩ := Option.isSome_iff_exists.mp hnumber₁
    obtain ⟨x₂, hx₂⟩ := Option.isSome_iff_exists.mp hnumber₂
    obtain ⟨x₃, hx₃⟩ := Option.isSome_iff_exists.mp hnumber₃
    have hown := ternaryBody_iff.mpr ⟨op₁, op₂, some l, some r, field, c₁, c₂, c₃, x₁, x₂, x₃, _,
      hmem₁, hmem₂, hchooses, halternate, hx₁, hx₂, hx₃, rfl⟩
    refine Rule.apply_eq_matched_iff.mpr ⟨_, hreads.function_bindings hown rfl, ?_⟩
    refine Outcome.bind_eq_matched_iff.mpr ⟨s, operandOrder_eq_matched rfl rfl rfl rfl hne hs, ?_⟩
    refine Outcome.bind_eq_matched_iff.mpr ⟨_, operatorSign_eq_matched rfl hmem₁, ?_⟩
    refine Outcome.bind_eq_matched_iff.mpr ⟨_, operatorSign_eq_matched rfl hmem₂, ?_⟩
    rw [Form.Decides, signOf, signOf, signOf, hx₁, hx₂, hx₃] at hdecides
    exact sortKey_of_total rfl hdecides

theorem subtractionRule_of_readAs {negated : Bool} (h : ReadAs f field s (.subtraction negated))
    (hdecides : (Form.subtraction negated).Decides s ascending) :
    subtractionRule.apply () f = .matched ⟨field, ascending⟩ := by
  obtain ⟨a, b, e, l, r, hreads, hne, hs, hform⟩ := h
  cases hform with
  | subtraction hsubtracts =>
    have hown := subtraction_iff.mpr ⟨some l, some r, field, negated, hsubtracts, rfl⟩
    refine Rule.apply_eq_matched_iff.mpr ⟨_, hreads.function_bindings hown rfl, ?_⟩
    refine Outcome.bind_eq_matched_iff.mpr ⟨s, operandOrder_eq_matched rfl rfl rfl rfl hne hs, ?_⟩
    refine sortKey_eq_matched rfl ?_
    rw [← coe_ite, ← hdecides]
    cases negated <;> simp [Bindings.get?, Json.find?, Json.asBool?]

/-- The rule of its form gives a reading its key. -/
theorem ReadAs.exists_rule {form : Form} (h : ReadAs f field s form)
    (hdecides : form.Decides s ascending) :
    ∃ rule ∈ rules, rule.apply () f = .matched ⟨field, ascending⟩ := by
  cases form with
  | relational _ => exact ⟨relationalRule, by simp [rules], relationalRule_of_readAs h hdecides⟩
  | ternary _ _ _ _ _ => exact ⟨ternaryRule, by simp [rules], ternaryRule_of_readAs h hdecides⟩
  | subtraction _ =>
    exact ⟨subtractionRule, by simp [rules], subtractionRule_of_readAs h hdecides⟩

theorem eq_of_ite_eq {α : Type} {x y : α} {b b' : Bool} (hne : x ≠ y)
    (h : (if b then x else y) = if b' then x else y) : b = b' := by
  cases b <;> cases b'
  · rfl
  · exact absurd h.symm hne
  · exact absurd h hne
  · rfl

/-- The signs of a form decide for one direction only. -/
theorem Form.Decides.unique {form : Form} {ascending' : Bool} (h : form.Decides s ascending)
    (h' : form.Decides s ascending') : ascending = ascending' := by
  cases form with
  | relational _ => exact eq_of_ite_eq (by decide) (h.symm.trans h')
  | ternary _ _ _ _ _ => exact eq_of_ite_eq (by decide) (h.symm.trans h')
  | subtraction _ => exact eq_of_ite_eq (by decide) (h.symm.trans h')

/-- A function has a sort key exactly if it has a reading that decides for the key. -/
theorem normalize_iff_readAs {key : SortKey} :
    normalize f = .matched key ↔
      ∃ order form, ReadAs f key.field order form ∧ form.Decides order key.ascending := by
  constructor
  · exact exists_readAs_of_normalize
  · rintro ⟨order, form, hread, hdecides⟩
    obtain ⟨rule, hmem, happly⟩ := hread.exists_rule hdecides
    obtain ⟨key', hkey'⟩ := Rule.exists_firstFrom hmem happly []
    -- Some rule accepts the function, and the key that it gives has the same reading.
    obtain ⟨order', form', hread', hdecides'⟩ := exists_readAs_of_normalize hkey'
    obtain ⟨hfield, rfl, rfl⟩ := hread'.unique hread
    have hkey : key' = key := by
      cases key'
      cases key
      exact congrArg₂ SortKey.mk hfield (hdecides'.unique hdecides)
    rw [← hkey]
    exact hkey'

/-- **The grammar of comparators.** A function has a sort key exactly if it is an arrow function or
a function expression of two parameters with different names, and what it gives back compares the
field of the key in one parameter with the same field in the other: by one of the relational
operators, as a difference that may be negated, or by two comparisons that choose between numeric
literals. The direction of the key is the one that the signs of operators, literals and order
decide for. -/
theorem normalize_grammar (f : Json) (key : SortKey) :
    normalize f = .matched key ↔
      ∃ a b e l r order, Reads f a b e ∧ a ≠ b ∧ InOrder a b l r order ∧
        ((∃ operator ∈ [">", ">=", "<", "<="], e.Compares operator (some l) (some r) key.field ∧
            (Form.relational operator).Decides order key.ascending) ∨
          (∃ negated, Subtracts e (some l) (some r) key.field negated ∧
            (Form.subtraction negated).Decides order key.ascending) ∨
          ∃ op₁ ∈ [">", ">=", "<", "<=", "==", "==="], ∃ op₂ ∈ [">", ">=", "<", "<=", "==", "==="],
            ∃ c₁ c₂ c₃ alternate, Chooses e op₁ (some l) (some r) key.field c₁ alternate ∧
              Chooses alternate op₂ (some l) (some r) key.field c₂ c₃ ∧
                c₁.number?.isSome = true ∧ c₂.number?.isSome = true ∧ c₃.number?.isSome = true ∧
                  (Form.ternary op₁ op₂ c₁ c₂ c₃).Decides order key.ascending) := by
  rw [normalize_iff_readAs]
  constructor
  · rintro ⟨order, form, ⟨a, b, e, l, r, hreads, hne, horder, hform⟩, hdecides⟩
    refine ⟨a, b, e, l, r, order, hreads, hne, horder, ?_⟩
    cases hform with
    | relational hmem h => exact Or.inl ⟨_, hmem, h, hdecides⟩
    | subtraction h => exact Or.inr (Or.inl ⟨_, h, hdecides⟩)
    | ternary hmem₁ hmem₂ h halternate hnumber₁ hnumber₂ hnumber₃ =>
      exact Or.inr (Or.inr ⟨_, hmem₁, _, hmem₂, _, _, _, _, h, halternate, hnumber₁, hnumber₂,
        hnumber₃, hdecides⟩)
  · rintro ⟨a, b, e, l, r, order, hreads, hne, horder, h⟩
    rcases h with ⟨operator, hmem, h, hdecides⟩ | ⟨negated, h, hdecides⟩ |
      ⟨op₁, hmem₁, op₂, hmem₂, c₁, c₂, c₃, alternate, h, halternate, hnumber₁, hnumber₂, hnumber₃,
        hdecides⟩
    · exact ⟨order, _, ⟨a, b, e, l, r, hreads, hne, horder, .relational hmem h⟩, hdecides⟩
    · exact ⟨order, _, ⟨a, b, e, l, r, hreads, hne, horder, .subtraction h⟩, hdecides⟩
    · exact ⟨order, _, ⟨a, b, e, l, r, hreads, hne, horder,
        .ternary hmem₁ hmem₂ h halternate hnumber₁ hnumber₂ hnumber₃⟩, hdecides⟩

end Comparator

end FluentQuery
