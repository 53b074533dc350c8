import FluentQuery.Proofs.Pattern

/-!
# Places and items

The places of a sequence pattern cut the items into consecutive segments, one for each place. An
`Alignment` is any such cut in which the items fit their places and their bindings can be merged
from left to right. Matching finds one cut, `segments`, by deciding at each place how many items it
takes, its `share`: an optional place tries to take an item and gives it back if the places after it
then fail, and a rest takes what the places after it do not need.

A match is always an alignment. It may miss one, since what a rest leaves is counted and not tried:
optional places after a rest get nothing. Where a rest is followed only by places of one item, there
is nothing to be missed. Then matching succeeds if there is an alignment, and it takes the `Eager`
one, in which optional places are filled from left to right whenever that is possible.
-/

namespace FluentQuery

/-- Whether the place takes any number of items. -/
def Slot.isRest {α : Type} : Slot α → Bool
  | .one _ => false
  | .optional _ => false
  | .rest _ _ => true

namespace Pattern

/-! ## Alignments -/

/-- A place takes a segment: the items match, and what they bind is merged with what is bound
before. Of a rest the items themselves are bound, if anything. -/
inductive Takes : Slot Pattern → List Json → Bindings → Bindings → Prop
  | one {p : Pattern} {v : Json} {own before after : Bindings} (hown : p.bindings v = .matched own)
      (hmerge : before.merge own = .matched after) : Takes (.one p) [v] before after
  | passed {p : Pattern} {before : Bindings} : Takes (.optional p) [] before before
  | taken {p : Pattern} {v : Json} {own before after : Bindings}
      (hown : p.bindings v = .matched own) (hmerge : before.merge own = .matched after) :
      Takes (.optional p) [v] before after
  | rest {each : Pattern} {kept : Option String} {segment : List Json} {before after : Bindings}
      (heach : ∀ v ∈ segment, (each.bindings v).isMatch = true)
      (hkept : bindRest kept segment before = .matched after) :
      Takes (.rest each kept) segment before after

/-- Places take segments, one each and from left to right. -/
inductive Fills : List (Slot Pattern) → List (List Json) → Bindings → Bindings → Prop
  | nil {before : Bindings} : Fills [] [] before before
  | cons {slot : Slot Pattern} {slots : List (Slot Pattern)} {segment : List Json}
      {segments : List (List Json)} {before mid after : Bindings}
      (htakes : Takes slot segment before mid) (hfills : Fills slots segments mid after) :
      Fills (slot :: slots) (segment :: segments) before after

/-- A cut of all items into segments that places take, given what is bound before, and what is bound
after it. -/
structure Alignment (slots : List (Slot Pattern)) (items : List Json) (before : Bindings) where
  segments : List (List Json)
  after : Bindings
  joined : segments.flatten = items
  fills : Fills slots segments before after

/-- Places take segments from left to right, and an optional place is passed over only if the places
after it cannot be aligned with what would be left if it took an item. -/
inductive Eager : List (Slot Pattern) → List (List Json) → Bindings → Prop
  | nil {before : Bindings} : Eager [] [] before
  | cons {slot : Slot Pattern} {slots : List (Slot Pattern)} {segment : List Json}
      {segments : List (List Json)} {before mid : Bindings} (htakes : Takes slot segment before mid)
      (hpassed : ∀ {p v rest next}, slot = .optional p → segment = [] →
        segments.flatten = v :: rest → Takes slot [v] before next →
          IsEmpty (Alignment slots rest next))
      (heager : Eager slots segments mid) : Eager (slot :: slots) (segment :: segments) before

/-- A rest is followed only by places of one item. -/
def OnesAfterRest (slots : List (Slot Pattern)) : Prop :=
  slots.Pairwise fun slot later ↦ slot.isRest = true → later.isOne = true

instance : DecidablePred OnesAfterRest := fun slots ↦
  inferInstanceAs (Decidable (slots.Pairwise fun slot later ↦
    slot.isRest = true → later.isOne = true))

/-! ## What matching takes -/

/-- The number of items that a place takes, given the places after it. -/
def share : Slot Pattern → List (Slot Pattern) → List Json → Bindings → Nat
  | .one _, _, _, _ => 1
  | .optional _, _, [], _ => 0
  | .optional p, slots, v :: items, before =>
    if (p.bindings v >>= before.merge >>= bindSlots slots items).isMatch then 1 else 0
  | .rest _ _, slots, items, _ => items.length - Slot.required slots

/-- What is bound after a place has taken a segment; as before, if it cannot take it. -/
def filled : Slot Pattern → List Json → Bindings → Bindings
  | .one p, v :: _, before => (p.bindings v >>= before.merge).toOption.getD before
  | .optional p, v :: _, before => (p.bindings v >>= before.merge).toOption.getD before
  | .rest _ kept, segment, before => (bindRest kept segment before).toOption.getD before
  | _, [], before => before

/-- The segments that matching gives to places. -/
def segments : List (Slot Pattern) → List Json → Bindings → List (List Json)
  | [], _, _ => []
  | slot :: slots, items, before =>
    items.take (share slot slots items before) ::
      segments slots (items.drop (share slot slots items before))
        (filled slot (items.take (share slot slots items before)) before)

variable {slot : Slot Pattern} {slots : List (Slot Pattern)} {segment items : List Json}
  {before mid after : Bindings}

theorem Takes.filled_eq (h : Takes slot segment before mid) : filled slot segment before = mid := by
  cases h with
  | one hown hmerge => simp [filled, hown, hmerge, Outcome.toOption]
  | passed => rfl
  | taken hown hmerge => simp [filled, hown, hmerge, Outcome.toOption]
  | rest _ hkept => simp [filled, hkept, Outcome.toOption]

theorem fills_cons_iff {segments : List (List Json)} :
    Fills (slot :: slots) (segment :: segments) before after ↔
      ∃ mid, Takes slot segment before mid ∧ Fills slots segments mid after := by
  constructor
  · intro h
    cases h with
    | cons htakes hfills => exact ⟨_, htakes, hfills⟩
  · rintro ⟨mid, htakes, hfills⟩
    exact .cons htakes hfills

theorem takes_one_iff {p : Pattern} :
    Takes (.one p) segment before after ↔
      ∃ v, segment = [v] ∧ (p.bindings v >>= before.merge) = .matched after := by
  constructor
  · intro h
    cases h with
    | one hown hmerge => exact ⟨_, rfl, Outcome.bind_eq_matched_iff.mpr ⟨_, hown, hmerge⟩⟩
  · rintro ⟨v, rfl, h⟩
    obtain ⟨own, hown, hmerge⟩ := Outcome.bind_eq_matched_iff.mp h
    exact .one hown hmerge

theorem takes_optional_iff {p : Pattern} :
    Takes (.optional p) segment before after ↔ segment = [] ∧ after = before ∨
      ∃ v, segment = [v] ∧ (p.bindings v >>= before.merge) = .matched after := by
  constructor
  · intro h
    cases h with
    | passed => exact Or.inl ⟨rfl, rfl⟩
    | taken hown hmerge =>
      exact Or.inr ⟨_, rfl, Outcome.bind_eq_matched_iff.mpr ⟨_, hown, hmerge⟩⟩
  · rintro (⟨rfl, rfl⟩ | ⟨v, rfl, h⟩)
    · exact .passed
    · obtain ⟨own, hown, hmerge⟩ := Outcome.bind_eq_matched_iff.mp h
      exact .taken hown hmerge

theorem takes_rest_iff {each : Pattern} {kept : Option String} :
    Takes (.rest each kept) segment before after ↔
      (∀ v ∈ segment, (each.bindings v).isMatch = true) ∧
        bindRest kept segment before = .matched after := by
  constructor
  · intro h
    cases h with
    | rest heach hkept => exact ⟨heach, hkept⟩
  · rintro ⟨heach, hkept⟩
    exact .rest heach hkept

theorem firstSkip?_eq_none_iff {α : Type} {test : Json → Outcome α} {place : Nat}
    {items : List Json} :
    firstSkip? test place items = none ↔ ∀ v ∈ items, (test v).isMatch = true := by
  induction items generalizing place with
  | nil => simp [firstSkip?]
  | cons v rest ih =>
    rw [firstSkip?, List.forall_mem_cons]
    cases htest : test v with
    | matched _ => simp [ih]
    | skip _ => simp

/-- One step of matching: the first place takes its share, and the others match what is left. -/
theorem bindSlots_cons_iff :
    bindSlots (slot :: slots) items before = .matched after ↔
      ∃ mid, Takes slot (items.take (share slot slots items before)) before mid ∧
        bindSlots slots (items.drop (share slot slots items before)) mid = .matched after := by
  cases slot with
  | one p =>
    rw [bindSlots_one_iff]
    constructor
    · rintro ⟨v, rest, own, mid, rfl, hown, hmerge, h⟩
      exact ⟨mid, .one hown hmerge, h⟩
    · rintro ⟨mid, htakes, h⟩
      cases items with
      | nil => cases htakes
      | cons v rest =>
        cases htakes with
        | one hown hmerge => exact ⟨v, rest, _, mid, rfl, hown, hmerge, h⟩
  | optional p =>
    cases items with
    | nil =>
      constructor
      · intro h
        exact ⟨before, .passed, h⟩
      · rintro ⟨mid, htakes, h⟩
        cases htakes
        exact h
    | cons v rest =>
      rw [bindSlots, share]
      cases htry : p.bindings v >>= before.merge >>= bindSlots slots rest with
      | matched done =>
        obtain ⟨mid, hmid, hdone⟩ := Outcome.bind_eq_matched_iff.mp htry
        obtain ⟨own, hown, hmerge⟩ := Outcome.bind_eq_matched_iff.mp hmid
        constructor
        · intro h
          cases h
          exact ⟨mid, .taken hown hmerge, hdone⟩
        · rintro ⟨mid', htakes, h⟩
          cases htakes.filled_eq.symm.trans (Takes.taken hown hmerge).filled_eq
          exact hdone.symm.trans h
      | skip why =>
        constructor
        · intro h
          exact ⟨before, .passed, h⟩
        · rintro ⟨mid, htakes, h⟩
          cases htakes
          exact h
  | rest each kept =>
    rw [bindSlots, share]
    split
    · next why hwhy =>
      -- An item that does not match is one that the rest cannot take.
      refine iff_of_false (fun h ↦ by cases h) ?_
      rintro ⟨mid, htakes, -⟩
      cases htakes with
      | rest heach _ => cases hwhy.symm.trans (firstSkip?_eq_none_iff.mpr heach)
    · next hnone =>
      rw [Outcome.bind_eq_matched_iff]
      constructor
      · rintro ⟨mid, hkept, h⟩
        exact ⟨mid, .rest (firstSkip?_eq_none_iff.mp hnone) hkept, h⟩
      · rintro ⟨mid, htakes, h⟩
        cases htakes with
        | rest _ hkept => exact ⟨mid, hkept, h⟩

/-! ## A match is an alignment -/

/-- **A match is an alignment.** Matching gives the bindings of its segments, where these are all
items and fill the places. -/
theorem bindSlots_eq_matched_iff :
    bindSlots slots items before = .matched after ↔
      (segments slots items before).flatten = items ∧
        Fills slots (segments slots items before) before after := by
  induction slots generalizing items before with
  | nil =>
    rw [bindSlots_nil_iff]
    constructor
    · rintro ⟨rfl, rfl⟩
      exact ⟨rfl, .nil⟩
    · rintro ⟨hjoined, hfills⟩
      cases hfills
      exact ⟨hjoined.symm, rfl⟩
  | cons slot slots ih =>
    rw [bindSlots_cons_iff, segments, List.flatten_cons]
    generalize share slot slots items before = n
    have hjoined : ∀ rest : List (List Json),
        items.take n ++ rest.flatten = items ↔ rest.flatten = items.drop n := by
      intro rest
      conv_lhs => rhs; rw [← List.take_append_drop n items]
      exact List.append_right_inj _
    rw [hjoined]
    constructor
    · rintro ⟨mid, htakes, h⟩
      obtain ⟨hrest, hfills⟩ := ih.mp h
      rw [htakes.filled_eq]
      exact ⟨hrest, .cons htakes hfills⟩
    · rintro ⟨hrest, hfills⟩
      cases hfills with
      | cons htakes hfills =>
        rw [htakes.filled_eq] at hrest hfills
        exact ⟨_, htakes, ih.mpr ⟨hrest, hfills⟩⟩

/-- The alignment that matching finds. -/
def found (h : bindSlots slots items before = .matched after) : Alignment slots items before where
  segments := segments slots items before
  after := after
  joined := (bindSlots_eq_matched_iff.mp h).1
  fills := (bindSlots_eq_matched_iff.mp h).2

/-! ## Every alignment is found -/

theorem Fills.length_flatten {segments : List (List Json)} (h : Fills slots segments before after)
    (hones : ∀ slot ∈ slots, slot.isOne = true) :
    segments.flatten.length = Slot.required slots := by
  induction h with
  | nil => rfl
  | @cons slot slots segment segments before mid after htakes hfills ih =>
    obtain ⟨hone, hones⟩ := List.forall_mem_cons.mp hones
    rw [Slot.required, List.countP_cons_of_pos hone, List.flatten_cons, List.length_append,
      ih hones, Slot.required]
    cases htakes with
    | one _ _ => simp [Nat.add_comm]
    | passed => cases hone
    | taken _ _ => cases hone
    | rest _ _ => cases hone

/-- Where only places of one item follow, a rest takes as many items as in any alignment. -/
theorem share_rest {each : Pattern} {kept : Option String} {segments : List (List Json)}
    (h : OnesAfterRest (.rest each kept :: slots)) (hfills : Fills slots segments mid after) :
    share (.rest each kept) slots (segment ++ segments.flatten) before = segment.length := by
  have hones : ∀ slot ∈ slots, slot.isOne = true := fun slot hslot ↦
    List.rel_of_pairwise_cons h hslot rfl
  rw [share, List.length_append, hfills.length_flatten hones, Nat.add_sub_cancel]

/-- A rest that is followed only by places of one item takes the segment of the alignment. -/
theorem bindSlots_of_rest {each : Pattern} {kept : Option String} {segments : List (List Json)}
    {done : Bindings} (h : OnesAfterRest (.rest each kept :: slots))
    (htakes : Takes (.rest each kept) segment before mid) (hfills : Fills slots segments mid after)
    (hdone : bindSlots slots segments.flatten mid = .matched done) :
    bindSlots (.rest each kept :: slots) (segment ++ segments.flatten) before = .matched done := by
  rw [bindSlots_cons_iff, share_rest h hfills, List.take_left, List.drop_left]
  exact ⟨mid, htakes, hdone⟩

/-- Taking an item is tried first, and counts if the places after it then match. -/
theorem bindSlots_of_taken {p : Pattern} {v : Json} {rest : List Json}
    (htakes : Takes (.optional p) [v] before mid) (h : bindSlots slots rest mid = .matched after) :
    bindSlots (.optional p :: slots) (v :: rest) before = .matched after := by
  cases htakes with
  | taken hown hmerge =>
    rw [bindSlots, hown, Outcome.matched_bind, hmerge, Outcome.matched_bind, h]

theorem share_of_taken {p : Pattern} {v : Json} {rest : List Json}
    (htakes : Takes (.optional p) [v] before mid) (h : bindSlots slots rest mid = .matched after) :
    share (.optional p) slots (v :: rest) before = 1 := by
  cases htakes with
  | taken hown hmerge => simp [share, hown, hmerge, h]

/-- An alignment of the places after a passed one is taken if trying to take an item fails. -/
theorem bindSlots_of_passed {p : Pattern} (h : bindSlots slots items before = .matched after)
    (hfails : ∀ v rest next, items = v :: rest → Takes (.optional p) [v] before next →
      ∀ done, bindSlots slots rest next ≠ .matched done) :
    bindSlots (.optional p :: slots) items before = .matched after := by
  cases items with
  | nil => exact h
  | cons v rest =>
    rw [bindSlots]
    split
    · next done htry =>
      obtain ⟨next, hnext, hdone⟩ := Outcome.bind_eq_matched_iff.mp htry
      obtain ⟨own, hown, hmerge⟩ := Outcome.bind_eq_matched_iff.mp hnext
      exact absurd hdone (hfails v rest next rfl (.taken hown hmerge) done)
    · exact h

/-- Where a rest is followed only by places of one item, matching succeeds if there is an
alignment. -/
theorem Fills.exists_bindSlots {segments : List (List Json)} (h : Fills slots segments before after)
    (hones : OnesAfterRest slots) :
    ∃ done, bindSlots slots segments.flatten before = .matched done := by
  induction h with
  | nil => exact ⟨_, rfl⟩
  | @cons slot slots segment segments before mid after htakes hfills ih =>
    obtain ⟨done, hdone⟩ := ih (List.Pairwise.of_cons hones)
    rw [List.flatten_cons]
    cases htakes with
    | one hown hmerge =>
      exact ⟨done, bindSlots_one_iff.mpr ⟨_, _, _, _, rfl, hown, hmerge, hdone⟩⟩
    | taken hown hmerge => exact ⟨done, bindSlots_of_taken (.taken hown hmerge) hdone⟩
    | @passed p _ =>
      -- Either the place does take the next item, or it is passed over as in the alignment.
      by_cases htry : ∃ v rest next, segments.flatten = v :: rest ∧
          Takes (.optional p) [v] before next ∧ ∃ done, bindSlots slots rest next = .matched done
      · obtain ⟨v, rest, next, hitems, htakes, done, hdone⟩ := htry
        rw [List.nil_append, hitems]
        exact ⟨done, bindSlots_of_taken htakes hdone⟩
      · refine ⟨done, bindSlots_of_passed hdone fun v rest next hitems htakes done' hdone' ↦ ?_⟩
        exact htry ⟨v, rest, next, hitems, htakes, done', hdone'⟩
    | rest heach hkept =>
      exact ⟨done, bindSlots_of_rest hones (.rest heach hkept) hfills hdone⟩

theorem isMatch_bindSlots_iff (hones : OnesAfterRest slots) :
    (bindSlots slots items before).isMatch = true ↔ Nonempty (Alignment slots items before) := by
  rw [Outcome.isMatch_eq_true_iff]
  constructor
  · rintro ⟨after, h⟩
    exact ⟨found h⟩
  · rintro ⟨a⟩
    rw [← a.joined]
    exact a.fills.exists_bindSlots hones

/-! ## The alignment that is found -/

/-- Matching passes over an optional place only if it has to. -/
theorem eager_segments (hones : OnesAfterRest slots)
    (h : bindSlots slots items before = .matched after) :
    Eager slots (segments slots items before) before := by
  induction slots generalizing items before with
  | nil => exact .nil
  | cons slot slots ih =>
    have hones' := List.Pairwise.of_cons hones
    obtain ⟨mid, htakes, hrest⟩ := bindSlots_cons_iff.mp h
    rw [segments, htakes.filled_eq]
    refine .cons htakes (fun {p v rest next} hslot hpassed hitems htaken ↦ ?_) (ih hones' hrest)
    subst hslot
    rw [(bindSlots_eq_matched_iff.mp hrest).1] at hitems
    refine ⟨fun a ↦ ?_⟩
    -- An alignment of the rest would be found, and then the place has taken an item.
    obtain ⟨done, hdone⟩ := a.fills.exists_bindSlots hones'
    rw [a.joined] at hdone
    have hall : items = v :: rest := by
      rw [← List.take_append_drop (share (.optional p) slots items before) items, hpassed, hitems]
      rfl
    subst hall
    rw [share_of_taken htaken hdone] at hpassed
    cases hpassed

/-- An eager alignment is the one that matching finds. -/
theorem Eager.bindSlots_eq {segments : List (List Json)} (heager : Eager slots segments before)
    (h : Fills slots segments before after) (hones : OnesAfterRest slots) :
    bindSlots slots segments.flatten before = .matched after := by
  induction heager generalizing after with
  | nil =>
    cases h
    rfl
  | @cons slot slots segment segments before mid htakes hpassed heager ih =>
    cases h with
    | cons htakes' hfills =>
    cases htakes.filled_eq.symm.trans htakes'.filled_eq
    have hdone := ih hfills (List.Pairwise.of_cons hones)
    rw [List.flatten_cons]
    cases htakes with
    | one hown hmerge => exact bindSlots_one_iff.mpr ⟨_, _, _, _, rfl, hown, hmerge, hdone⟩
    | taken hown hmerge => exact bindSlots_of_taken (.taken hown hmerge) hdone
    | passed =>
      refine bindSlots_of_passed hdone fun v rest next hitems htakes done hdone' ↦ ?_
      exact (hpassed rfl rfl hitems htakes).false (found hdone')
    | rest heach hkept => exact bindSlots_of_rest hones (.rest heach hkept) hfills hdone

/-- **Matching a sequence.** A match is an alignment, and its bindings are those of the alignment.
Where a rest is followed only by places of one item, there is a match exactly if there is an
alignment, and it is the eager one. -/
theorem bindSlots_alignment (slots : List (Slot Pattern)) (items : List Json) (before : Bindings) :
    (∀ after, bindSlots slots items before = .matched after →
      ∃ a : Alignment slots items before, a.after = after) ∧
    (OnesAfterRest slots →
      ((bindSlots slots items before).isMatch = true ↔ Nonempty (Alignment slots items before)) ∧
      ∀ after, bindSlots slots items before = .matched after ↔
        ∃ a : Alignment slots items before, Eager slots a.segments before ∧ a.after = after) := by
  refine ⟨fun after h ↦ ⟨found h, rfl⟩, fun hones ↦ ⟨isMatch_bindSlots_iff hones, fun after ↦ ?_⟩⟩
  constructor
  · intro h
    exact ⟨found h, eager_segments hones h, rfl⟩
  · rintro ⟨a, heager, rfl⟩
    have h := heager.bindSlots_eq a.fills hones
    rwa [a.joined] at h

/-- `[a?, ...others, a]` on `["x", "y", "z"]`: the optional place takes `"x"`, with which the last
place does not agree, and so gives it back to the rest. -/
theorem bindSlots_alignment_givenBack :
    let slots : List (Slot Pattern) :=
      [.optional (bound "a"), .rest .any (some "others"), .one (bound "a")]
    let items : List Json := [.string "x", .string "y", .string "z"]
    let after : Bindings := [("others", .array [.string "x", .string "y"]), ("a", .string "z")]
    OnesAfterRest slots ∧ bindSlots slots items [] = .matched after ∧
      Nonempty (Alignment slots items []) ∧
      ∃ a : Alignment slots items [], Eager slots a.segments [] ∧ a.after = after := by
  intro slots items after
  have hones : OnesAfterRest slots := by decide
  have hmatched : bindSlots slots items [] = .matched after := rfl
  obtain ⟨-, h⟩ := bindSlots_alignment slots items []
  obtain ⟨hmatch, heager⟩ := h hones
  exact ⟨hones, hmatched, hmatch.mp (by rw [hmatched]; rfl), (heager after).mp hmatched⟩

end Pattern

end FluentQuery
