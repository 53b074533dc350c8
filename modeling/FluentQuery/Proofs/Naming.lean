import FluentQuery.Proofs.Captures

/-!
# The names of captures

Two patterns that differ only in the names of their captures are the same when all names are blank.
Without alternatives and optional places, a pattern decides nothing by its names: a value fits it if
it fits the blank pattern. With distinct names there are no conflicts, so that such a pattern
matches whatever fits it. Hence a pattern with any names matches exactly if it does so with distinct
names and if, in each scope, its captures of one name are the same expression.
-/

namespace FluentQuery

namespace Pattern

mutual

/-- No alternatives and no optional places. -/
def Unbranched : Pattern → Prop
  | .any => True
  | .literal _ => True
  | .shape fields => FieldsUnbranched fields
  | .seq slots => SlotsUnbranched slots
  | .oneOf _ => False
  | .all parts => AllUnbranched parts
  | .capture _ none _ => True
  | .capture _ (some inner) _ => inner.Unbranched
  | .satisfies _ _ => True

@[inherit_doc Unbranched]
def FieldsUnbranched : List (String × Pattern) → Prop
  | [] => True
  | (_, p) :: rest => p.Unbranched ∧ FieldsUnbranched rest

@[inherit_doc Unbranched]
def AllUnbranched : List Pattern → Prop
  | [] => True
  | p :: rest => p.Unbranched ∧ AllUnbranched rest

@[inherit_doc Unbranched]
def SlotsUnbranched : List (Slot Pattern) → Prop
  | [] => True
  | slot :: slots => SlotUnbranched slot ∧ SlotsUnbranched slots

@[inherit_doc Unbranched]
def SlotUnbranched : Slot Pattern → Prop
  | .one p => p.Unbranched
  | .optional _ => False
  | .rest each _ => each.Unbranched

end

mutual

/-- The pattern with all names of captures blank. -/
def unnamed : Pattern → Pattern
  | .any => .any
  | .literal expected => .literal expected
  | .shape fields => .shape (unnamedFields fields)
  | .seq slots => .seq (unnamedSlots slots)
  | .oneOf branches => .oneOf (unnamedParts branches)
  | .all parts => .all (unnamedParts parts)
  | .capture _ none compute => .capture "" none compute
  | .capture _ (some inner) compute => .capture "" (some inner.unnamed) compute
  | .satisfies reason test => .satisfies reason test

@[inherit_doc unnamed]
def unnamedFields : List (String × Pattern) → List (String × Pattern)
  | [] => []
  | (name, p) :: rest => (name, p.unnamed) :: unnamedFields rest

@[inherit_doc unnamed]
def unnamedParts : List Pattern → List Pattern
  | [] => []
  | p :: rest => p.unnamed :: unnamedParts rest

@[inherit_doc unnamed]
def unnamedSlots : List (Slot Pattern) → List (Slot Pattern)
  | [] => []
  | slot :: slots => unnamedSlot slot :: unnamedSlots slots

@[inherit_doc unnamed]
def unnamedSlot : Slot Pattern → Slot Pattern
  | .one p => .one p.unnamed
  | .optional p => .optional p.unnamed
  | .rest each kept => .rest each.unnamed (kept.map fun _ ↦ "")

end

mutual

/-- The names of all captures of a pattern. -/
def names : Pattern → List String
  | .any => []
  | .literal _ => []
  | .shape fields => fieldNames fields
  | .seq slots => slotsNames slots
  | .oneOf branches => partNames branches
  | .all parts => partNames parts
  | .capture name none _ => [name]
  | .capture name (some inner) _ => inner.names ++ [name]
  | .satisfies _ _ => []

@[inherit_doc names]
def fieldNames : List (String × Pattern) → List String
  | [] => []
  | (_, p) :: rest => p.names ++ fieldNames rest

@[inherit_doc names]
def partNames : List Pattern → List String
  | [] => []
  | p :: rest => p.names ++ partNames rest

@[inherit_doc names]
def slotsNames : List (Slot Pattern) → List String
  | [] => []
  | slot :: slots => slotNames slot ++ slotsNames slots

@[inherit_doc names]
def slotNames : Slot Pattern → List String
  | .one p => p.names
  | .optional p => p.names
  | .rest each kept => each.names ++ kept.toList

end

/-! ## Blank names -/

theorem isOne_unnamedSlot (slot : Slot Pattern) : (unnamedSlot slot).isOne = slot.isOne := by
  cases slot <;> rfl

theorem required_unnamedSlots (slots : List (Slot Pattern)) :
    Slot.required (unnamedSlots slots) = Slot.required slots := by
  rw [Slot.required, Slot.required]
  induction slots with
  | nil => rfl
  | cons slot slots ih =>
    rw [unnamedSlots, List.countP_cons, List.countP_cons, isOne_unnamedSlot, ih]

/-- Without optional places the segments depend only on how many items there are. -/
theorem segments_unnamedSlots {slots : List (Slot Pattern)} (h : SlotsUnbranched slots)
    (items : List Json) (before before' : Bindings) :
    segments (unnamedSlots slots) items before = segments slots items before' := by
  induction slots generalizing items before before' with
  | nil => rfl
  | cons slot slots ih =>
    have hshare : share (unnamedSlot slot) (unnamedSlots slots) items before =
        share slot slots items before' := by
      cases slot with
      | one _ => rfl
      | optional _ => exact absurd h.1 id
      | rest _ _ => rw [unnamedSlot, share, share, required_unnamedSlots]
    rw [unnamedSlots, segments, segments, hshare, ih h.2]

mutual

theorem unbranched_unnamed_iff : ∀ p : Pattern, p.unnamed.Unbranched ↔ p.Unbranched
  | .any => Iff.rfl
  | .literal _ => Iff.rfl
  | .shape fields => fieldsUnbranched_unnamed_iff fields
  | .seq slots => slotsUnbranched_unnamed_iff slots
  | .oneOf _ => Iff.rfl
  | .all parts => allUnbranched_unnamed_iff parts
  | .capture _ none _ => Iff.rfl
  | .capture _ (some inner) _ => unbranched_unnamed_iff inner
  | .satisfies _ _ => Iff.rfl

theorem fieldsUnbranched_unnamed_iff : ∀ fields : List (String × Pattern),
    FieldsUnbranched (unnamedFields fields) ↔ FieldsUnbranched fields
  | [] => Iff.rfl
  | (_, p) :: rest => and_congr (unbranched_unnamed_iff p) (fieldsUnbranched_unnamed_iff rest)

theorem allUnbranched_unnamed_iff : ∀ parts : List Pattern,
    AllUnbranched (unnamedParts parts) ↔ AllUnbranched parts
  | [] => Iff.rfl
  | p :: rest => and_congr (unbranched_unnamed_iff p) (allUnbranched_unnamed_iff rest)

theorem slotsUnbranched_unnamed_iff : ∀ slots : List (Slot Pattern),
    SlotsUnbranched (unnamedSlots slots) ↔ SlotsUnbranched slots
  | [] => Iff.rfl
  | slot :: slots =>
    and_congr (slotUnbranched_unnamed_iff slot) (slotsUnbranched_unnamed_iff slots)

theorem slotUnbranched_unnamed_iff : ∀ slot : Slot Pattern,
    SlotUnbranched (unnamedSlot slot) ↔ SlotUnbranched slot
  | .one p => unbranched_unnamed_iff p
  | .optional _ => Iff.rfl
  | .rest each _ => unbranched_unnamed_iff each

end

mutual

/-- Whether a value fits does not depend on names. -/
theorem fits_unnamed_iff : ∀ {p : Pattern} {v : Json}, p.Unbranched →
    (p.unnamed.Fits v ↔ p.Fits v)
  | .any, _, _ => Iff.rfl
  | .literal _, _, _ => Iff.rfl
  | .shape fields, v, h => by
    rw [unnamed, Fits, Fits]
    cases v.unparen with
    | object entries => exact fieldsFit_unnamed_iff h
    | _ => exact Iff.rfl
  | .seq slots, v, h => by
    cases v with
    | array items =>
      rw [unnamed, Fits, Fits, segments_unnamedSlots h items [] []]
      exact and_congr_right fun _ ↦ slotsFit_unnamed_iff h
    | _ => exact Iff.rfl
  | .oneOf _, _, h => absurd h id
  | .all parts, _, h => allFit_unnamed_iff h
  | .capture _ none _, _, _ => Iff.rfl
  | .capture _ (some inner) _, v, h => @fits_unnamed_iff inner v h
  | .satisfies _ _, _, _ => Iff.rfl

theorem fieldsFit_unnamed_iff : ∀ {fields : List (String × Pattern)}
    {entries : List (String × Json)}, FieldsUnbranched fields →
      (FieldsFit (unnamedFields fields) entries ↔ FieldsFit fields entries)
  | [], _, _ => Iff.rfl
  | (_, _) :: _, _, h => and_congr (fits_unnamed_iff h.1) (fieldsFit_unnamed_iff h.2)

theorem allFit_unnamed_iff : ∀ {parts : List Pattern} {v : Json}, AllUnbranched parts →
    (AllFit (unnamedParts parts) v ↔ AllFit parts v)
  | [], _, _ => Iff.rfl
  | _ :: _, _, h => and_congr (fits_unnamed_iff h.1) (allFit_unnamed_iff h.2)

theorem slotsFit_unnamed_iff : ∀ {slots : List (Slot Pattern)} {segments : List (List Json)},
    SlotsUnbranched slots → (SlotsFit (unnamedSlots slots) segments ↔ SlotsFit slots segments)
  | [], _, _ => Iff.rfl
  | _ :: _, [], _ => Iff.rfl
  | _ :: _, _ :: _, h => and_congr (slotFits_unnamed_iff h.1) (slotsFit_unnamed_iff h.2)

theorem slotFits_unnamed_iff : ∀ {slot : Slot Pattern} {segment : List Json},
    SlotUnbranched slot → (SlotFits (unnamedSlot slot) segment ↔ SlotFits slot segment)
  | .one _, _, h => exists_congr fun _ ↦ and_congr_right fun _ ↦ fits_unnamed_iff h
  | .optional _, _, h => absurd h id
  | .rest _ _, _, h => forall₂_congr fun _ _ ↦ fits_unnamed_iff h

end

/-! ## Distinct names -/

end Pattern

namespace Captures

/-- In each scope, the captures have some of the given names, in the given order. -/
structure Within (c : Captures) (names : List String) : Prop where
  own : (c.own.map Prod.fst).Sublist names
  inner : ∀ scope ∈ c.inner, (scope.map Prod.fst).Sublist names

variable {c d : Captures} {names more : List String}

theorem empty_within (names : List String) : empty.Within names where
  own := List.nil_sublist names
  inner := by simp [empty]

theorem Within.mono (h : c.Within names) (hmore : names.Sublist more) : c.Within more where
  own := h.own.trans hmore
  inner scope hscope := (h.inner scope hscope).trans hmore

theorem Within.append (hc : c.Within names) (hd : d.Within more) :
    (c ++ d).Within (names ++ more) where
  own := by
    have hmap : (c ++ d).own.map Prod.fst = c.own.map Prod.fst ++ d.own.map Prod.fst :=
      List.map_append
    rw [hmap]
    exact hc.own.append hd.own
  inner scope hscope := by
    rcases List.mem_append.mp hscope with hscope | hscope
    · exact (hc.inner scope hscope).trans (List.sublist_append_left names more)
    · exact (hd.inner scope hscope).trans (List.sublist_append_right names more)

theorem Within.scopes (h : c.Within names) {scope : Bindings} (hscope : scope ∈ c.scopes) :
    (scope.map Prod.fst).Sublist names := by
  rcases List.mem_cons.mp hscope with rfl | hscope
  · exact h.own
  · exact h.inner scope hscope

/-- Captures of distinct names have no conflicts. -/
theorem Within.consistent (h : c.Within names) (hnames : names.Nodup) : c.Consistent := by
  intro scope hscope
  have hdistinct : scope.Distinct := hnames.sublist (h.scopes hscope)
  exact hdistinct.consistent

end Captures

namespace Pattern

mutual

theorem within_captures : ∀ (p : Pattern) (v : Json), (p.captures v).Within p.names
  | .any, _ => Captures.empty_within _
  | .literal _, _ => Captures.empty_within _
  | .shape fields, v => by
    rw [captures]
    split
    · exact within_captureFields fields _
    · exact Captures.empty_within _
  | .seq slots, v => by
    cases v with
    | array items => exact within_captureSlots slots _
    | _ => exact Captures.empty_within _
  | .oneOf branches, v => within_captureFirst branches v
  | .all parts, v => within_captureAll parts v
  | .capture name none _, _ => ⟨List.Sublist.refl [name], by simp [captures]⟩
  | .capture name (some inner) _, v =>
    (within_captures inner v).append ⟨List.Sublist.refl [name], by simp⟩
  | .satisfies _ _, _ => Captures.empty_within _

theorem within_captureFields : ∀ (fields : List (String × Pattern))
    (entries : List (String × Json)), (captureFields fields entries).Within (fieldNames fields)
  | [], _ => Captures.empty_within _
  | (_, p) :: rest, entries => (within_captures p _).append (within_captureFields rest entries)

theorem within_captureFirst : ∀ (branches : List Pattern) (v : Json),
    (captureFirst branches v).Within (partNames branches)
  | [], _ => Captures.empty_within _
  | p :: rest, v => by
    rw [captureFirst, partNames]
    split
    · exact (within_captures p v).mono (List.sublist_append_left _ _)
    · exact (within_captureFirst rest v).mono (List.sublist_append_right _ _)

theorem within_captureAll : ∀ (parts : List Pattern) (v : Json),
    (captureAll parts v).Within (partNames parts)
  | [], _ => Captures.empty_within _
  | p :: rest, v => (within_captures p v).append (within_captureAll rest v)

theorem within_captureSlots : ∀ (slots : List (Slot Pattern)) (segments : List (List Json)),
    (captureSlots slots segments).Within (slotsNames slots)
  | [], _ => Captures.empty_within _
  | _ :: _, [] => Captures.empty_within _
  | slot :: slots, segment :: segments =>
    (within_captureSlot slot segment).append (within_captureSlots slots segments)

theorem within_captureSlot : ∀ (slot : Slot Pattern) (segment : List Json),
    (captureSlot slot segment).Within (slotNames slot)
  | .one _, [] => Captures.empty_within _
  | .one p, v :: _ => within_captures p v
  | .optional _, [] => Captures.empty_within _
  | .optional p, v :: _ => within_captures p v
  | .rest each kept, segment => by
    constructor
    · rw [captureSlot, List.map_map]
      simp [slotNames, Function.comp_def]
    · intro scope hscope
      obtain ⟨v, -, hscope⟩ := List.mem_flatMap.mp hscope
      exact ((within_captures each v).scopes hscope).trans (List.sublist_append_left _ _)

end

theorem exists_append_of_length {names first second : List String}
    (h : names.length = (first ++ second).length) :
    ∃ ns ms, names = ns ++ ms ∧ ns.length = first.length ∧ ms.length = second.length := by
  rw [List.length_append] at h
  refine ⟨names.take first.length, names.drop first.length, ?_, ?_, ?_⟩
  · exact (List.take_append_drop first.length names).symm
  · rw [List.length_take, h, Nat.min_eq_left (Nat.le_add_right _ _)]
  · rw [List.length_drop, h, Nat.add_sub_cancel_left]

mutual

/-- The captures of a pattern can be given any names. -/
theorem exists_renamed : ∀ (p : Pattern) (names : List String), names.length = p.names.length →
    ∃ q : Pattern, q.unnamed = p.unnamed ∧ q.names = names
  | .any, names, h => ⟨.any, rfl, (List.length_eq_zero_iff.mp h).symm⟩
  | .literal expected, names, h => ⟨.literal expected, rfl, (List.length_eq_zero_iff.mp h).symm⟩
  | .shape fields, names, h => by
    obtain ⟨fields', hunnamed, hnames⟩ := exists_renamedFields fields names h
    exact ⟨.shape fields', congrArg shape hunnamed, hnames⟩
  | .seq slots, names, h => by
    obtain ⟨slots', hunnamed, hnames⟩ := exists_renamedSlots slots names h
    exact ⟨.seq slots', congrArg seq hunnamed, hnames⟩
  | .oneOf branches, names, h => by
    obtain ⟨branches', hunnamed, hnames⟩ := exists_renamedParts branches names h
    exact ⟨.oneOf branches', congrArg oneOf hunnamed, hnames⟩
  | .all parts, names, h => by
    obtain ⟨parts', hunnamed, hnames⟩ := exists_renamedParts parts names h
    exact ⟨.all parts', congrArg all hunnamed, hnames⟩
  | .capture _ none compute, names, h => by
    obtain ⟨name, rfl⟩ := List.length_eq_one_iff.mp h
    exact ⟨.capture name none compute, rfl, rfl⟩
  | .capture _ (some inner) compute, _, h => by
    obtain ⟨ns, ms, rfl, hns, hms⟩ := exists_append_of_length h
    obtain ⟨q, hunnamed, rfl⟩ := exists_renamed inner ns hns
    obtain ⟨name, rfl⟩ := List.length_eq_one_iff.mp hms
    exact ⟨.capture name (some q) compute,
      congrArg (fun r ↦ capture "" (some r) compute) hunnamed, rfl⟩
  | .satisfies reason test, names, h =>
    ⟨.satisfies reason test, rfl, (List.length_eq_zero_iff.mp h).symm⟩

theorem exists_renamedFields : ∀ (fields : List (String × Pattern)) (names : List String),
    names.length = (fieldNames fields).length →
      ∃ fields', unnamedFields fields' = unnamedFields fields ∧ fieldNames fields' = names
  | [], names, h => ⟨[], rfl, (List.length_eq_zero_iff.mp h).symm⟩
  | (name, p) :: rest, _, h => by
    obtain ⟨ns, ms, rfl, hns, hms⟩ := exists_append_of_length h
    obtain ⟨q, hq, rfl⟩ := exists_renamed p ns hns
    obtain ⟨rest', hrest, rfl⟩ := exists_renamedFields rest ms hms
    exact ⟨(name, q) :: rest', by rw [unnamedFields, unnamedFields, hq, hrest], rfl⟩

theorem exists_renamedParts : ∀ (parts : List Pattern) (names : List String),
    names.length = (partNames parts).length →
      ∃ parts', unnamedParts parts' = unnamedParts parts ∧ partNames parts' = names
  | [], names, h => ⟨[], rfl, (List.length_eq_zero_iff.mp h).symm⟩
  | p :: rest, _, h => by
    obtain ⟨ns, ms, rfl, hns, hms⟩ := exists_append_of_length h
    obtain ⟨q, hq, rfl⟩ := exists_renamed p ns hns
    obtain ⟨rest', hrest, rfl⟩ := exists_renamedParts rest ms hms
    exact ⟨q :: rest', by rw [unnamedParts, unnamedParts, hq, hrest], rfl⟩

theorem exists_renamedSlots : ∀ (slots : List (Slot Pattern)) (names : List String),
    names.length = (slotsNames slots).length →
      ∃ slots', unnamedSlots slots' = unnamedSlots slots ∧ slotsNames slots' = names
  | [], names, h => ⟨[], rfl, (List.length_eq_zero_iff.mp h).symm⟩
  | slot :: slots, _, h => by
    obtain ⟨ns, ms, rfl, hns, hms⟩ := exists_append_of_length h
    obtain ⟨slot', hslot, rfl⟩ := exists_renamedSlot slot ns hns
    obtain ⟨slots', hslots, rfl⟩ := exists_renamedSlots slots ms hms
    exact ⟨slot' :: slots', by rw [unnamedSlots, unnamedSlots, hslot, hslots], rfl⟩

theorem exists_renamedSlot : ∀ (slot : Slot Pattern) (names : List String),
    names.length = (slotNames slot).length →
      ∃ slot', unnamedSlot slot' = unnamedSlot slot ∧ slotNames slot' = names
  | .one p, names, h => by
    obtain ⟨q, hunnamed, hnames⟩ := exists_renamed p names h
    exact ⟨.one q, congrArg Slot.one hunnamed, hnames⟩
  | .optional p, names, h => by
    obtain ⟨q, hunnamed, hnames⟩ := exists_renamed p names h
    exact ⟨.optional q, congrArg Slot.optional hunnamed, hnames⟩
  | .rest each none, _, h => by
    obtain ⟨ns, ms, rfl, hns, hms⟩ := exists_append_of_length h
    obtain ⟨q, hq, rfl⟩ := exists_renamed each ns hns
    obtain rfl := List.length_eq_zero_iff.mp hms
    exact ⟨.rest q none, by rw [unnamedSlot, unnamedSlot, hq], rfl⟩
  | .rest each (some _), _, h => by
    obtain ⟨ns, ms, rfl, hns, hms⟩ := exists_append_of_length h
    obtain ⟨q, hq, rfl⟩ := exists_renamed each ns hns
    obtain ⟨name, rfl⟩ := List.length_eq_one_iff.mp hms
    exact ⟨.rest q (some name), by rw [unnamedSlot, unnamedSlot, hq]; rfl, rfl⟩

end

/-- There is always a way to give distinct names. -/
theorem exists_renamed_nodup (p : Pattern) :
    ∃ q : Pattern, q.unnamed = p.unnamed ∧ q.names.Nodup := by
  -- Texts of different lengths are different names.
  let names := (List.range p.names.length).map fun n ↦ String.ofList (List.replicate n 'x')
  have hlength : names.length = p.names.length := by simp [names]
  have hnodup : names.Nodup := by
    refine List.Nodup.map (fun m n hmn ↦ ?_) List.nodup_range
    have hreplicate := String.ofList_injective hmn
    simpa using congrArg List.length hreplicate
  obtain ⟨q, hunnamed, hq⟩ := exists_renamed p names hlength
  exact ⟨q, hunnamed, hq ▸ hnodup⟩

/-! ## Consistency -/

theorem isMatch_matched (p : Pattern) (v : Json) :
    (p.matched v).isMatch = (p.bindings v).isMatch := by
  rw [matched]
  cases p.bindings v <;> rfl

theorem isMatch_matched_iff {p : Pattern} {v : Json} :
    (p.matched v).isMatch = true ↔ p.Fits v ∧ (p.captures v).Consistent := by
  rw [isMatch_matched]
  exact Captures.isMatch_iff (bindings_iff p)

/-- With distinct names, a value matches if it fits. -/
theorem isMatch_matched_iff_of_nodup {p : Pattern} {v : Json} (h : p.names.Nodup) :
    (p.matched v).isMatch = true ↔ p.Fits v := by
  rw [isMatch_matched_iff]
  exact and_iff_left ((within_captures p v).consistent h)

/-- The bindings of a match are its first captures. -/
theorem bindings_eq_firsts {p : Pattern} {v : Json} {m : Matched} (h : p.matched v = .matched m) :
    (p.captures v).own.Consistent ∧ m.bindings = (p.captures v).own.firsts := by
  obtain ⟨bs, hbs, rfl⟩ := Outcome.map_eq_matched_iff.mp h
  obtain ⟨-, hbinds⟩ := (bindings_iff p).mp hbs
  exact Bindings.nil_merge_eq_matched_iff.mp hbinds.own

/-- **Captures are consistent.** A match binds each name to its first capture along the path of the
match, in the order of these, and binds no other names; every other capture of the name is the same
expression. Conversely, a pattern without alternatives and optional places matches exactly if it
matches with all captures given distinct names, and if in each scope the captures of one name are
the same expression. -/
theorem matched_captures (p : Pattern) (v : Json) :
    (∀ m, p.matched v = .matched m →
      (∀ name u, (name, u) ∈ (p.captures v).own →
        ∃ w, m.bindings.get? name = some w ∧ Json.sameNode w u = true) ∧
      m.bindings = (p.captures v).own.firsts) ∧
    (p.Unbranched →
      (∃ q : Pattern, q.unnamed = p.unnamed ∧ q.names.Nodup) ∧
      ∀ q : Pattern, q.unnamed = p.unnamed → q.names.Nodup →
        ((p.matched v).isMatch = true ↔
          (q.matched v).isMatch = true ∧ (p.captures v).Consistent)) := by
  constructor
  · intro m hm
    obtain ⟨hconsistent, hfirsts⟩ := bindings_eq_firsts hm
    refine ⟨fun name u hu ↦ ?_, hfirsts⟩
    obtain ⟨w, hw⟩ := Bindings.exists_get?_of_mem hu
    rw [hfirsts, Bindings.get?_firsts]
    exact ⟨w, hw, hconsistent (name, w) (Bindings.mem_of_get? hw) (name, u) hu rfl⟩
  · intro hp
    refine ⟨exists_renamed_nodup p, fun q hunnamed hnames ↦ ?_⟩
    have hq : q.Unbranched := by
      rw [← unbranched_unnamed_iff, hunnamed, unbranched_unnamed_iff]
      exact hp
    have hfits : q.Fits v ↔ p.Fits v := by
      rw [← fits_unnamed_iff hq, hunnamed, fits_unnamed_iff hp]
    rw [isMatch_matched_iff, isMatch_matched_iff_of_nodup hnames, hfits]

/-- `[x, ...others, x]` with the items of the rest captured as `x`, too, on `["a", "b", "a"]`. The
item of the rest is in a scope of its own, so that it may differ from the others. -/
theorem matched_captures_rest :
    let p := seq [.one (bound "x"), .rest (bound "x") (some "others"), .one (bound "x")]
    let q := seq [.one (bound "x"), .rest (bound "y") (some "others"), .one (bound "z")]
    let v := Json.array [.string "a", .string "b", .string "a"]
    let m : Matched := ⟨[("x", .string "a"), ("others", .array [.string "b"])], v⟩
    p.matched v = .matched m ∧ ("x", .string "a") ∈ (p.captures v).own ∧
      (∃ w, m.bindings.get? "x" = some w ∧ Json.sameNode w (.string "a") = true) ∧
      p.Unbranched ∧ q.unnamed = p.unnamed ∧ q.names.Nodup ∧
      (q.matched v).isMatch = true ∧ (p.captures v).Consistent ∧
      (p.captures v).inner = [[("x", .string "b")]] := by
  intro p q v m
  have hm : p.matched v = .matched m := rfl
  have hx : ("x", .string "a") ∈ (p.captures v).own := List.mem_cons_self
  have hp : p.Unbranched := ⟨trivial, trivial, trivial, trivial⟩
  have hnames : q.names.Nodup := by decide
  obtain ⟨hcaptures, hrenamed⟩ := matched_captures p v
  obtain ⟨hq, hconsistent⟩ := ((hrenamed hp).2 q rfl hnames).mp (by rw [hm]; rfl)
  exact ⟨hm, hx, (hcaptures m hm).1 "x" (.string "a") hx, hp, rfl, hnames, hq, hconsistent, rfl⟩

end Pattern

end FluentQuery
