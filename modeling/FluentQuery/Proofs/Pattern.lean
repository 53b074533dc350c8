import FluentQuery.Pattern.Rule
import FluentQuery.Proofs.Node
import Mathlib.Data.List.Nodup

/-!
# What patterns bind

A match binds no name twice, so bindings merged into none are those bindings, and bindings of
different names are merged by putting them one after the other. With this the bindings of a pattern
can be read off its parts: each equivalence below opens one layer of a pattern, and those for the
children of a node are stated with the accessors of nodes.
-/

namespace FluentQuery

theorem Outcome.mapSkip_eq_matched_iff {α : Type} {o : Outcome α} {f : Skip → Skip} {a : α} :
    o.mapSkip f = .matched a ↔ o = .matched a := by
  cases o <;> simp [mapSkip]

theorem Outcome.ofOption_eq_matched_iff {α : Type} {reason : String} {o : Option α} {a : α} :
    Outcome.ofOption reason o = .matched a ↔ o = some a := by
  cases o <;> simp [ofOption, refuse]

theorem Outcome.map_eq_matched_iff {α β : Type} {o : Outcome α} {f : α → β} {b : β} :
    o.map f = .matched b ↔ ∃ a, o = .matched a ∧ f a = b := by
  cases o <;> simp [map]

theorem Outcome.toOption_eq_some_iff {α : Type} {o : Outcome α} {a : α} :
    o.toOption = some a ↔ o = .matched a := by
  cases o <;> simp [toOption]

/-! ## Distinct names -/

namespace Bindings

/-- No name is bound twice. -/
def Distinct (bindings : Bindings) : Prop := (bindings.map Prod.fst).Nodup

theorem distinct_nil : Distinct [] := List.nodup_nil

theorem get?_cons (name k : String) (v : Json) (rest : Bindings) :
    get? ((k, v) :: rest) name = if k = name then some v else rest.get? name := rfl

theorem get?_eq_none_iff {bindings : Bindings} {name : String} :
    bindings.get? name = none ↔ name ∉ bindings.map Prod.fst := by
  induction bindings with
  | nil => simp [get?]
  | cons e rest ih =>
    obtain ⟨k, v⟩ := e
    rw [get?_cons, List.map_cons, List.mem_cons, not_or, ← ih]
    by_cases hk : k = name
    · simp [hk]
    · simp [hk, Ne.symm hk]

theorem get?_append (first second : Bindings) (name : String) :
    get? (first ++ second) name = (first.get? name).or (second.get? name) := by
  induction first with
  | nil => rfl
  | cons e rest ih =>
    obtain ⟨k, v⟩ := e
    rw [List.cons_append, get?_cons, get?_cons, ih]
    by_cases hk : k = name
    · rw [if_pos hk, if_pos hk, Option.some_or]
    · rw [if_neg hk, if_neg hk]

theorem insert_of_get?_eq_none {bindings : Bindings} {name : String}
    (h : bindings.get? name = none) (v : Json) :
    bindings.insert name v = .matched (bindings ++ [(name, v)]) := by
  rw [insert, h]

theorem distinct_insert {bindings after : Bindings} {name : String} {v : Json}
    (h : bindings.Distinct) (hinsert : bindings.insert name v = .matched after) :
    after.Distinct := by
  rw [insert] at hinsert
  split at hinsert
  · next hnone =>
    cases hinsert
    rw [Distinct, List.map_append, List.map_singleton, List.nodup_append_comm]
    exact List.nodup_cons.mpr ⟨get?_eq_none_iff.mp hnone, h⟩
  · split at hinsert
    · cases hinsert
      exact h
    · cases hinsert

theorem distinct_merge {bindings own after : Bindings} (h : bindings.Distinct)
    (hmerge : bindings.merge own = .matched after) : after.Distinct := by
  induction own generalizing bindings with
  | nil =>
    cases hmerge
    exact h
  | cons e rest ih =>
    obtain ⟨mid, hinsert, hmerge⟩ := Outcome.bind_eq_matched_iff.mp hmerge
    exact ih (distinct_insert h hinsert) hmerge

theorem merge_cons_of_get?_eq_none {bindings : Bindings} {name : String}
    (h : bindings.get? name = none) (v : Json) (rest : Bindings) :
    bindings.merge ((name, v) :: rest) = merge (bindings ++ [(name, v)]) rest := by
  rw [merge, insert_of_get?_eq_none h, Outcome.matched_bind]

/-- A name that is bound already must be bound to the same expression. -/
theorem merge_cons_eq_matched_iff {bindings after : Bindings} {name : String} {w : Json}
    (h : bindings.get? name = some w) {v : Json} {rest : Bindings} :
    bindings.merge ((name, v) :: rest) = .matched after ↔
      Json.sameNode w v = true ∧ bindings.merge rest = .matched after := by
  rw [merge, insert, h]
  by_cases hsame : Json.sameNode w v = true
  · simp [hsame]
  · simp [hsame, Outcome.refuse]

/-- Bindings of different names are put one after the other. -/
theorem merge_of_distinct_append {bindings own : Bindings} (h : (bindings ++ own).Distinct) :
    bindings.merge own = .matched (bindings ++ own) := by
  induction own generalizing bindings with
  | nil => rw [List.append_nil, merge]
  | cons e rest ih =>
    obtain ⟨name, v⟩ := e
    have hnone : bindings.get? name = none := by
      rw [get?_eq_none_iff]
      intro hmem
      rw [Distinct, List.map_append] at h
      exact List.disjoint_of_nodup_append h hmem List.mem_cons_self
    rw [List.append_cons] at h ⊢
    rw [merge_cons_of_get?_eq_none hnone, ih h]

theorem nil_merge {own : Bindings} (h : own.Distinct) : merge [] own = .matched own :=
  merge_of_distinct_append h

end Bindings

namespace Pattern

-- One recursion over patterns, their fields, branches, parts and places, as in matching itself.
mutual

/-- A match binds no name twice. -/
theorem distinct_bindings : ∀ (p : Pattern) {v : Json} {bs : Bindings},
    p.bindings v = .matched bs → bs.Distinct
  | .any, v, bs, h => by
    cases h
    exact Bindings.distinct_nil
  | .literal expected, v, bs, h => by
    rw [bindings] at h
    split at h
    · cases h
      exact Bindings.distinct_nil
    · cases h
  | .shape fields, v, bs, h => by
    rw [bindings] at h
    split at h
    · exact distinct_bindFields fields Bindings.distinct_nil h
    · cases h
  | .seq slots, v, bs, h => by
    cases v with
    | array items => exact distinct_bindSlots slots Bindings.distinct_nil h
    | _ => cases h
  | .oneOf branches, v, bs, h => distinct_bindFirst branches h
  | .all parts, v, bs, h => distinct_bindAll parts Bindings.distinct_nil h
  | .capture name none compute, v, bs, h => by
    cases h
    exact List.nodup_singleton _
  | .capture name (some inner) compute, v, bs, h => by
    obtain ⟨own, hown, hinsert⟩ := Outcome.bind_eq_matched_iff.mp h
    exact Bindings.distinct_insert (distinct_bindings inner hown) hinsert
  | .satisfies reason test, v, bs, h => by
    rw [bindings] at h
    split at h
    · cases h
      exact Bindings.distinct_nil
    · cases h

theorem distinct_bindFields : ∀ (fields : List (String × Pattern)) {entries : List (String × Json)}
    {before bs : Bindings}, before.Distinct → bindFields fields entries before = .matched bs →
      bs.Distinct
  | [], entries, before, bs, hbefore, h => by
    cases h
    exact hbefore
  | (name, p) :: rest, entries, before, bs, hbefore, h => by
    obtain ⟨own, -, h⟩ := Outcome.bind_eq_matched_iff.mp h
    obtain ⟨mid, hmerge, h⟩ := Outcome.bind_eq_matched_iff.mp h
    exact distinct_bindFields rest (Bindings.distinct_merge hbefore hmerge) h

theorem distinct_bindFirst : ∀ (branches : List Pattern) {v : Json} {refused : List Skip}
    {bs : Bindings}, bindFirst branches v refused = .matched bs → bs.Distinct
  | [], v, refused, bs, h => by cases h
  | p :: rest, v, refused, bs, h => by
    rw [bindFirst] at h
    split at h
    · next hown =>
      cases h
      exact distinct_bindings p hown
    · exact distinct_bindFirst rest h

theorem distinct_bindAll : ∀ (parts : List Pattern) {v : Json} {before bs : Bindings},
    before.Distinct → bindAll parts v before = .matched bs → bs.Distinct
  | [], v, before, bs, hbefore, h => by
    cases h
    exact hbefore
  | p :: rest, v, before, bs, hbefore, h => by
    obtain ⟨own, -, h⟩ := Outcome.bind_eq_matched_iff.mp h
    obtain ⟨mid, hmerge, h⟩ := Outcome.bind_eq_matched_iff.mp h
    exact distinct_bindAll rest (Bindings.distinct_merge hbefore hmerge) h

theorem distinct_bindSlots : ∀ (slots : List (Slot Pattern)) {items : List Json}
    {before bs : Bindings}, before.Distinct → bindSlots slots items before = .matched bs →
      bs.Distinct
  | [], [], before, bs, hbefore, h => by
    cases h
    exact hbefore
  | [], _ :: _, before, bs, hbefore, h => by cases h
  | .one p :: rest, [], before, bs, hbefore, h => by cases h
  | .one p :: rest, v :: items, before, bs, hbefore, h => by
    obtain ⟨own, -, h⟩ := Outcome.bind_eq_matched_iff.mp h
    obtain ⟨mid, hmerge, h⟩ := Outcome.bind_eq_matched_iff.mp h
    exact distinct_bindSlots rest (Bindings.distinct_merge hbefore hmerge) h
  | .optional p :: rest, [], before, bs, hbefore, h => distinct_bindSlots rest hbefore h
  | .optional p :: rest, v :: items, before, bs, hbefore, h => by
    -- The place is taken only if those after it match as well.
    rw [bindSlots] at h
    split at h
    · next htaken =>
      cases h
      obtain ⟨mid, hmid, htaken⟩ := Outcome.bind_eq_matched_iff.mp htaken
      obtain ⟨own, -, hmerge⟩ := Outcome.bind_eq_matched_iff.mp hmid
      exact distinct_bindSlots rest (Bindings.distinct_merge hbefore hmerge) htaken
    · exact distinct_bindSlots rest hbefore h
  | .rest each kept :: rest, items, before, bs, hbefore, h => by
    rw [bindSlots] at h
    split at h
    · cases h
    · obtain ⟨mid, hmid, h⟩ := Outcome.bind_eq_matched_iff.mp h
      refine distinct_bindSlots rest ?_ h
      cases kept with
      | none =>
        cases hmid
        exact hbefore
      | some name => exact Bindings.distinct_insert hbefore hmid

end

/-! ## Opening a pattern -/

section Opening

variable {v : Json} {entries : List (String × Json)} {before bs : Bindings} {name : String}

theorem child_of_unparen (h : v.unparen = .object entries) (name : String) :
    child entries name = .orNull (v.field? name) := by
  rw [child, Json.field?, h]
  rfl

theorem satisfies_iff {reason : String} {test : Json → Bool} :
    (satisfies reason test).bindings v = .matched bs ↔ test v = true ∧ bs = [] := by
  rw [bindings]
  cases test v with
  | true => simp [eq_comm]
  | false => simp [Outcome.refuse]

theorem capture_satisfies_iff {reason : String} {test : Json → Bool}
    {compute : Option (Json → Json)} :
    (capture name (some (satisfies reason test)) compute).bindings v = .matched bs ↔
      test v = true ∧ bs = [(name, captureValue compute v)] := by
  rw [bindings, Outcome.bind_eq_matched_iff]
  constructor
  · rintro ⟨own, hown, hinsert⟩
    obtain ⟨htest, rfl⟩ := satisfies_iff.mp hown
    cases hinsert
    exact ⟨htest, rfl⟩
  · rintro ⟨htest, rfl⟩
    exact ⟨[], satisfies_iff.mpr ⟨htest, rfl⟩, rfl⟩

theorem bindAll_append (first second : List Pattern) (v : Json) (before : Bindings) :
    bindAll (first ++ second) v before = bindAll first v before >>= bindAll second v := by
  induction first generalizing before with
  | nil => rfl
  | cons p rest ih =>
    rw [List.cons_append, bindAll, bindAll, Outcome.bind_assoc]
    congr 1
    funext own
    rw [Outcome.bind_assoc]
    congr 1
    funext mid
    exact ih mid

/-- The bindings of the first part are merged into none. -/
theorem all_cons (p : Pattern) (rest : List Pattern) (v : Json) :
    (all (p :: rest)).bindings v = p.bindings v >>= bindAll rest v := by
  rw [bindings, bindAll]
  cases hp : p.bindings v with
  | skip why => rfl
  | matched own =>
    rw [Outcome.matched_bind, Outcome.matched_bind, Bindings.nil_merge (distinct_bindings p hp),
      Outcome.matched_bind]

/-- Both patterns match, and their bindings are merged. -/
theorem and_iff {p q : Pattern} :
    (p.and q).bindings v = .matched bs ↔
      ∃ first second, p.bindings v = .matched first ∧ q.bindings v = .matched second ∧
        first.merge second = .matched bs := by
  -- A conjunction takes the second pattern as one more part, which comes to the same.
  have hall : (p.and q).bindings v = p.bindings v >>= bindAll [q] v := by
    cases p with
    | all parts => exact bindAll_append parts [q] v []
    | _ => exact all_cons _ [q] v
  rw [hall, Outcome.bind_eq_matched_iff]
  simp only [bindAll, Outcome.bind_eq_matched_iff]
  constructor
  · rintro ⟨first, hfirst, second, hsecond, after, hmerge, hbs⟩
    cases hbs
    exact ⟨first, second, hfirst, hsecond, hmerge⟩
  · rintro ⟨first, second, hfirst, hsecond, hmerge⟩
    exact ⟨first, hfirst, second, hsecond, bs, hmerge, rfl⟩

theorem satisfies_and_iff {reason : String} {test : Json → Bool} {p : Pattern} :
    ((satisfies reason test).and p).bindings v = .matched bs ↔
      test v = true ∧ p.bindings v = .matched bs := by
  rw [and_iff]
  constructor
  · rintro ⟨first, second, hfirst, hsecond, hmerge⟩
    obtain ⟨htest, rfl⟩ := satisfies_iff.mp hfirst
    rw [Bindings.nil_merge (distinct_bindings p hsecond)] at hmerge
    exact ⟨htest, hmerge ▸ hsecond⟩
  · rintro ⟨htest, hp⟩
    exact ⟨[], bs, satisfies_iff.mpr ⟨htest, rfl⟩, hp, Bindings.nil_merge (distinct_bindings p hp)⟩

theorem oneOf_pair_iff {p q : Pattern} :
    (oneOf [p, q]).bindings v = .matched bs ↔
      p.bindings v = .matched bs ∨
        (∀ own, p.bindings v ≠ .matched own) ∧ q.bindings v = .matched bs := by
  simp only [bindings, bindFirst]
  cases hp : p.bindings v with
  | matched own => simp
  | skip why =>
    cases hq : q.bindings v with
    | matched own => simp
    | skip why' => simp

theorem literal_string_iff {text : String} (hv : v.unparen = v) :
    (literal (.string text)).bindings v = .matched bs ↔ v = .string text ∧ bs = [] := by
  rw [bindings]
  constructor
  · intro h
    split at h
    · next hsame =>
      cases h
      -- Only the text itself is the same as a text, but for parentheses, and `v` has none.
      have hplain : v.plain = .string text := (Json.sameNode_iff.mp hsame).symm
      exact ⟨hv.symm.trans (Json.unparen_of_plain_eq_string v hplain), rfl⟩
    · cases h
  · rintro ⟨rfl, rfl⟩
    simp

/-- A pattern does not match `null`, and so asks for a child to be there. -/
def RefusesNull (p : Pattern) : Prop := ∀ own, p.bindings .null ≠ .matched own

theorem refusesNull_literal_string (text : String) : (literal (.string text)).RefusesNull := by
  intro own h
  cases h

theorem refusesNull_capture_satisfies {reason : String} {test : Json → Bool}
    {compute : Option (Json → Json)} (htest : test .null = false) :
    (capture name (some (satisfies reason test)) compute).RefusesNull := by
  intro own h
  have hnull := (capture_satisfies_iff.mp h).1
  exact Bool.false_ne_true (htest.symm.trans hnull)

theorem RefusesNull.and {p : Pattern} (h : p.RefusesNull) (q : Pattern) :
    (p.and q).RefusesNull := by
  intro own hboth
  obtain ⟨first, second, hfirst, -, -⟩ := and_iff.mp hboth
  exact h first hfirst

theorem refusesNull_node (kind : String) (fields : List (String × Pattern)) :
    (node kind fields).RefusesNull := by
  intro own h
  rw [node, Pattern.kind, satisfies_and_iff] at h
  exact Bool.false_ne_true h.1

theorem bindFields_cons_iff (h : v.unparen = .object entries) {p : Pattern}
    {rest : List (String × Pattern)} :
    bindFields ((name, p) :: rest) entries before = .matched bs ↔
      ∃ own mid, p.bindings (.orNull (v.field? name)) = .matched own ∧
        before.merge own = .matched mid ∧ bindFields rest entries mid = .matched bs := by
  rw [bindFields, child_of_unparen h, Outcome.bind_eq_matched_iff]
  constructor
  · rintro ⟨own, hown, hrest⟩
    obtain ⟨mid, hmerge, hrest⟩ := Outcome.bind_eq_matched_iff.mp hrest
    exact ⟨own, mid, Outcome.mapSkip_eq_matched_iff.mp hown, hmerge, hrest⟩
  · rintro ⟨own, mid, hown, hmerge, hrest⟩
    exact ⟨own, Outcome.mapSkip_eq_matched_iff.mpr hown,
      Outcome.bind_eq_matched_iff.mpr ⟨mid, hmerge, hrest⟩⟩

theorem bindFields_cons_some_iff (h : v.unparen = .object entries) {p : Pattern}
    (hnull : p.RefusesNull) {rest : List (String × Pattern)} :
    bindFields ((name, p) :: rest) entries before = .matched bs ↔
      ∃ child own mid, v.field? name = some child ∧ p.bindings child = .matched own ∧
        before.merge own = .matched mid ∧ bindFields rest entries mid = .matched bs := by
  rw [bindFields_cons_iff h]
  constructor
  · rintro ⟨own, mid, hown, hmerge, hrest⟩
    cases hchild : v.field? name with
    | none =>
      rw [hchild] at hown
      exact absurd hown (hnull own)
    | some child =>
      rw [hchild] at hown
      exact ⟨child, own, mid, rfl, hown, hmerge, hrest⟩
  · rintro ⟨child, own, mid, hchild, hown, hmerge, hrest⟩
    rw [hchild]
    exact ⟨own, mid, hown, hmerge, hrest⟩

/-- A node matches by its kind, and binds what its children bind. -/
theorem node_iff {kind : String} {fields : List (String × Pattern)} :
    (node kind fields).bindings v = .matched bs ↔
      v.unparen.isKind kind = true ∧
        ∃ entries, v.unparen = .object entries ∧ bindFields fields entries [] = .matched bs := by
  rw [node, Pattern.kind, satisfies_and_iff, bindings]
  refine and_congr_right fun _ ↦ ?_
  constructor
  · intro h
    split at h
    · next entries hentries => exact ⟨entries, hentries, h⟩
    · cases h
  · rintro ⟨entries, hentries, hfields⟩
    rw [hentries]
    exact hfields

theorem node_singleton_iff {kind : String} {p : Pattern} :
    (node kind [(name, p)]).bindings v = .matched bs ↔
      v.unparen.isKind kind = true ∧ p.bindings (.orNull (v.field? name)) = .matched bs := by
  rw [node_iff]
  refine and_congr_right fun hkind ↦ ?_
  obtain ⟨entries, hentries⟩ := Json.exists_entries_of_isKind hkind
  constructor
  · rintro ⟨_, hentries', hfields⟩
    obtain ⟨own, mid, hown, hmid, hrest⟩ := (bindFields_cons_iff hentries').mp hfields
    rw [Bindings.nil_merge (distinct_bindings p hown)] at hmid
    cases hmid
    cases hrest
    exact hown
  · intro hp
    have hmerge := Bindings.nil_merge (distinct_bindings p hp)
    exact ⟨entries, hentries, (bindFields_cons_iff hentries).mpr ⟨bs, bs, hp, hmerge, rfl⟩⟩

theorem seq_iff {slots : List (Slot Pattern)} :
    (seq slots).bindings v = .matched bs ↔
      ∃ items, v = .array items ∧ bindSlots slots items [] = .matched bs := by
  constructor
  · intro h
    cases v with
    | array items => exact ⟨items, rfl, h⟩
    | _ => cases h
  · rintro ⟨items, rfl, h⟩
    exact h

theorem bindSlots_nil_iff {items : List Json} :
    bindSlots [] items before = .matched bs ↔ items = [] ∧ bs = before := by
  cases items with
  | nil => simp [bindSlots, eq_comm]
  | cons x rest => simp [bindSlots, Mismatch.toOutcome, Outcome.refuse]

theorem bindSlots_one_iff {p : Pattern} {slots : List (Slot Pattern)} {items : List Json} :
    bindSlots (.one p :: slots) items before = .matched bs ↔
      ∃ x rest own mid, items = x :: rest ∧ p.bindings x = .matched own ∧
        before.merge own = .matched mid ∧ bindSlots slots rest mid = .matched bs := by
  cases items with
  | nil => simp [bindSlots, Mismatch.toOutcome, Outcome.refuse]
  | cons x rest => simp [bindSlots, Outcome.bind_eq_matched_iff]

theorem seq_singleton_iff {p : Pattern} :
    (seq [.one p]).bindings v = .matched bs ↔ ∃ x, v = .array [x] ∧ p.bindings x = .matched bs := by
  rw [seq_iff]
  constructor
  · rintro ⟨_, rfl, h⟩
    obtain ⟨x, rest, own, mid, rfl, hown, hmid, h⟩ := bindSlots_one_iff.mp h
    obtain ⟨rfl, rfl⟩ := bindSlots_nil_iff.mp h
    rw [Bindings.nil_merge (distinct_bindings p hown)] at hmid
    exact ⟨x, rfl, hmid ▸ hown⟩
  · rintro ⟨x, rfl, hp⟩
    have hmerge := Bindings.nil_merge (distinct_bindings p hp)
    exact ⟨[x], rfl, bindSlots_one_iff.mpr ⟨x, [], bs, bs, rfl, hp, hmerge, rfl⟩⟩

end Opening

end Pattern

/-! ## Rules -/

namespace Rule

variable {C T : Type} {context : C} {v : Json} {t : T}

theorem apply_eq_matched_iff {rule : Rule C T} :
    rule.apply context v = .matched t ↔
      ∃ bs, rule.pattern.bindings v = .matched bs ∧ rule.build context ⟨bs, v⟩ = .matched t := by
  rw [apply, Outcome.bind_eq_matched_iff]
  constructor
  · rintro ⟨m, hm, hbuild⟩
    rw [Pattern.matched, Outcome.map_eq_matched_iff] at hm
    obtain ⟨bs, hbs, rfl⟩ := hm
    exact ⟨bs, hbs, hbuild⟩
  · rintro ⟨bs, hbs, hbuild⟩
    exact ⟨⟨bs, v⟩, Outcome.map_eq_matched_iff.mpr ⟨bs, hbs, rfl⟩, hbuild⟩

/-- Whatever a list of rules gives, one of them gives. -/
theorem exists_of_firstFrom {rules : List (Rule C T)} {refused : List Skip}
    (h : firstFrom context v rules refused = .matched t) :
    ∃ rule ∈ rules, rule.apply context v = .matched t := by
  induction rules generalizing refused with
  | nil => cases h
  | cons rule rest ih =>
    rw [firstFrom] at h
    split at h
    · next a happly => exact ⟨rule, List.mem_cons_self, happly.trans h⟩
    · obtain ⟨rule', hmem, happly⟩ := ih h
      exact ⟨rule', List.mem_cons_of_mem _ hmem, happly⟩

end Rule

end FluentQuery
