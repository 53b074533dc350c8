import FluentQuery.Proofs.Alignment
import FluentQuery.Proofs.Merge

/-!
# What a match captures

Matching merges bindings at every level of a pattern and compares each capture only with what its
name has been bound to so far. Here the captures themselves are listed, in the order in which they
are made and along the path that matching takes: `captures` follows all parts and fields, the first
branch that matches, and the segments that the places of a sequence take. A pattern then matches if
the value `Fits` it without regard to names and the captures can be merged, all at once. By this one
equivalence, `bindings_iff`, the bindings of a match are its first captures, and the others of each
name are the same as the first.

The items of a rest are matched one by one and their bindings dropped, so each has its own scope.
-/

namespace FluentQuery

/-! ## Captures -/

/-- The captures of a match: its own, in the order in which they are made, and those of each item of
a rest, which are merged only with each other. -/
structure Captures where
  own : Bindings
  inner : List Bindings

namespace Captures

/-- No captures. -/
def empty : Captures := ⟨[], []⟩

instance : Append Captures := ⟨fun c d ↦ ⟨c.own ++ d.own, c.inner ++ d.inner⟩⟩

/-- The lists of captures that are merged with each other. -/
def scopes (c : Captures) : List Bindings := c.own :: c.inner

/-- In each scope, any two captures of one name are the same expression. -/
def Consistent (c : Captures) : Prop := ∀ scope ∈ c.scopes, scope.Consistent

instance : DecidablePred Consistent := fun c ↦
  inferInstanceAs (Decidable (∀ scope ∈ c.scopes, scope.Consistent))

/-- The captures can be merged, those of its own into given bindings. -/
structure Binds (c : Captures) (before after : Bindings) : Prop where
  inner : ∀ scope ∈ c.inner, scope.Consistent
  own : before.merge c.own = .matched after

variable {c d : Captures} {before after : Bindings}

theorem empty_binds_iff : empty.Binds before after ↔ after = before := by
  constructor
  · rintro ⟨-, hown⟩
    cases hown
    rfl
  · rintro rfl
    exact ⟨by simp [empty], rfl⟩

theorem single_binds_iff {name : String} {v : Json} :
    (⟨[(name, v)], []⟩ : Captures).Binds before after ↔ before.insert name v = .matched after := by
  rw [← Bindings.merge_singleton]
  constructor
  · rintro ⟨-, hown⟩
    exact hown
  · intro hown
    exact ⟨by simp, hown⟩

theorem append_binds_iff :
    (c ++ d).Binds before after ↔ ∃ mid, c.Binds before mid ∧ d.Binds mid after := by
  have hinner : (∀ scope ∈ (c ++ d).inner, scope.Consistent) ↔
      (∀ scope ∈ c.inner, scope.Consistent) ∧ ∀ scope ∈ d.inner, scope.Consistent :=
    List.forall_mem_append
  have hown : before.merge (c ++ d).own = .matched after ↔
      ∃ mid, before.merge c.own = .matched mid ∧ mid.merge d.own = .matched after :=
    (Bindings.merge_append before c.own d.own ▸ Outcome.bind_eq_matched_iff)
  constructor
  · rintro ⟨h, hmerge⟩
    obtain ⟨mid, hc, hd⟩ := hown.mp hmerge
    exact ⟨mid, ⟨(hinner.mp h).1, hc⟩, ⟨(hinner.mp h).2, hd⟩⟩
  · rintro ⟨mid, ⟨hc, hmid⟩, hd, hafter⟩
    exact ⟨hinner.mpr ⟨hc, hd⟩, hown.mpr ⟨mid, hmid, hafter⟩⟩

/-- Captures may be merged by themselves first. -/
theorem exists_nil_binds_iff :
    (∃ mid, c.Binds [] mid ∧ before.merge mid = .matched after) ↔ c.Binds before after := by
  constructor
  · rintro ⟨mid, ⟨hinner, hown⟩, hmerge⟩
    exact ⟨hinner, Bindings.exists_nil_merge_iff.mp ⟨mid, hown, hmerge⟩⟩
  · rintro ⟨hinner, hown⟩
    obtain ⟨mid, hmid, hmerge⟩ := Bindings.exists_nil_merge_iff.mpr hown
    exact ⟨mid, ⟨hinner, hmid⟩, hmerge⟩

theorem bind_merge_iff {o : Outcome Bindings} {P : Prop}
    (ho : ∀ {own}, o = .matched own ↔ P ∧ c.Binds [] own) :
    (o >>= before.merge) = .matched after ↔ P ∧ c.Binds before after := by
  rw [Outcome.bind_eq_matched_iff, ← exists_nil_binds_iff, ← exists_and_left]
  simp only [ho, and_assoc]

/-- Captures are merged step by step: each step may go on from where the one before has ended. -/
theorem exists_step_iff {P Q : Prop} {step next : Bindings → Prop}
    (hstep : ∀ {mid}, step mid ↔ P ∧ c.Binds before mid)
    (hnext : ∀ {mid}, next mid ↔ Q ∧ d.Binds mid after) :
    (∃ mid, step mid ∧ next mid) ↔ (P ∧ Q) ∧ (c ++ d).Binds before after := by
  rw [append_binds_iff]
  constructor
  · rintro ⟨mid, hmid, hafter⟩
    obtain ⟨hp, hc⟩ := hstep.mp hmid
    obtain ⟨hq, hd⟩ := hnext.mp hafter
    exact ⟨⟨hp, hq⟩, mid, hc, hd⟩
  · rintro ⟨⟨hp, hq⟩, mid, hc, hd⟩
    exact ⟨mid, hstep.mpr ⟨hp, hc⟩, hnext.mpr ⟨hq, hd⟩⟩

theorem isMatch_iff {o : Outcome Bindings} {P : Prop}
    (ho : ∀ {own}, o = .matched own ↔ P ∧ c.Binds [] own) :
    o.isMatch = true ↔ P ∧ c.Consistent := by
  have hown : (∃ after, Bindings.merge [] c.own = .matched after) ↔ c.own.Consistent :=
    Bindings.exists_nil_merge_eq_iff
  rw [Outcome.isMatch_eq_true_iff, Consistent, scopes, List.forall_mem_cons, ← hown]
  constructor
  · rintro ⟨after, h⟩
    obtain ⟨hp, hinner, hmerge⟩ := ho.mp h
    exact ⟨hp, ⟨after, hmerge⟩, hinner⟩
  · rintro ⟨hp, ⟨after, hmerge⟩, hinner⟩
    exact ⟨after, ho.mpr ⟨hp, hinner, hmerge⟩⟩

end Captures

namespace Pattern

mutual

/-- The captures of a pattern on a value, along the path that matching takes. -/
def captures : Pattern → Json → Captures
  | .any, _ => .empty
  | .literal _, _ => .empty
  | .shape fields, v =>
    match v.unparen with
    | .object entries => captureFields fields entries
    | _ => .empty
  | .seq slots, v =>
    match v with
    | .array items => captureSlots slots (segments slots items [])
    | _ => .empty
  | .oneOf branches, v => captureFirst branches v
  | .all parts, v => captureAll parts v
  | .capture name none compute, v => ⟨[(name, captureValue compute v)], []⟩
  | .capture name (some inner) compute, v =>
    inner.captures v ++ ⟨[(name, captureValue compute v)], []⟩
  | .satisfies _ _, _ => .empty

/-- The captures of children. -/
def captureFields : List (String × Pattern) → List (String × Json) → Captures
  | [], _ => .empty
  | (name, p) :: rest, entries => p.captures (child entries name) ++ captureFields rest entries

/-- The captures of the first branch that matches. -/
def captureFirst : List Pattern → Json → Captures
  | [], _ => .empty
  | p :: rest, v => if (p.bindings v).isMatch then p.captures v else captureFirst rest v

/-- The captures of parts. -/
def captureAll : List Pattern → Json → Captures
  | [], _ => .empty
  | p :: rest, v => p.captures v ++ captureAll rest v

/-- The captures of places on their segments. -/
def captureSlots : List (Slot Pattern) → List (List Json) → Captures
  | [], _ => .empty
  | _ :: _, [] => .empty
  | slot :: slots, segment :: segments => captureSlot slot segment ++ captureSlots slots segments

/-- The captures of a place on a segment. A rest captures the whole segment, and each of its items
is a scope of its own. -/
def captureSlot : Slot Pattern → List Json → Captures
  | .one _, [] => .empty
  | .one p, v :: _ => p.captures v
  | .optional _, [] => .empty
  | .optional p, v :: _ => p.captures v
  | .rest each kept, segment =>
    ⟨kept.toList.map fun name ↦ (name, .array segment),
      segment.flatMap fun v ↦ (each.captures v).scopes⟩

end

mutual

/-- Whether a value fits a pattern, but for conflicts between captures: each literal and test is
met, some branch matches, and the items of a sequence are cut into segments that fit. -/
def Fits : Pattern → Json → Prop
  | .any, _ => True
  | .literal expected, v => Json.sameNode expected v = true
  | .shape fields, v =>
    match v.unparen with
    | .object entries => FieldsFit fields entries
    | _ => False
  | .seq slots, v =>
    match v with
    | .array items =>
      (segments slots items []).flatten = items ∧ SlotsFit slots (segments slots items [])
    | _ => False
  | .oneOf branches, v => ∃ p ∈ branches, (p.bindings v).isMatch = true
  | .all parts, v => AllFit parts v
  | .capture _ none _, _ => True
  | .capture _ (some inner) _, v => inner.Fits v
  | .satisfies _ test, v => test v = true

/-- Whether children fit. -/
def FieldsFit : List (String × Pattern) → List (String × Json) → Prop
  | [], _ => True
  | (name, p) :: rest, entries => p.Fits (child entries name) ∧ FieldsFit rest entries

/-- Whether a value fits all parts. -/
def AllFit : List Pattern → Json → Prop
  | [], _ => True
  | p :: rest, v => p.Fits v ∧ AllFit rest v

/-- Whether segments fit places. -/
def SlotsFit : List (Slot Pattern) → List (List Json) → Prop
  | [], segments => segments = []
  | _ :: _, [] => False
  | slot :: slots, segment :: segments => SlotFits slot segment ∧ SlotsFit slots segments

/-- Whether a segment fits a place. -/
def SlotFits : Slot Pattern → List Json → Prop
  | .one p, segment => ∃ v, segment = [v] ∧ p.Fits v
  | .optional p, segment => segment = [] ∨ ∃ v, segment = [v] ∧ p.Fits v
  | .rest each _, segment => ∀ v ∈ segment, each.Fits v

end

/-! ## A match is a fit with captures that can be merged -/

theorem bindRest_eq_merge (kept : Option String) (segment : List Json) (before : Bindings) :
    bindRest kept segment before =
      before.merge (kept.toList.map fun name ↦ (name, .array segment)) := by
  cases kept with
  | none => rfl
  | some name => exact (Bindings.merge_singleton before name (.array segment)).symm

-- One recursion over patterns, their fields, branches, parts and places, as in matching itself.
mutual

/-- **A match is a fit with captures that can be merged.** The bindings are those of all captures
along the path of the match, merged one after the other. -/
theorem bindings_iff : ∀ (p : Pattern) {v : Json} {bs : Bindings},
    p.bindings v = .matched bs ↔ p.Fits v ∧ (p.captures v).Binds [] bs
  | .any, v, bs => by
    simp [bindings, Fits, captures, Captures.empty_binds_iff, eq_comm]
  | .literal expected, v, bs => by
    rw [bindings, Fits, captures, Captures.empty_binds_iff]
    by_cases hsame : Json.sameNode expected v = true
    · simp [hsame, eq_comm]
    · simp [hsame, Mismatch.toOutcome, Outcome.refuse]
  | .shape fields, v, bs => by
    rw [bindings, Fits, captures]
    cases v.unparen with
    | object entries => exact bindFields_iff fields
    | _ => simp [Mismatch.toOutcome, Outcome.refuse]
  | .seq slots, v, bs => by
    cases v with
    | array items =>
      rw [bindings, Fits, captures, bindSlots_eq_matched_iff, fills_iff slots, and_assoc]
    | _ => simp [bindings, Fits, Mismatch.toOutcome, Outcome.refuse]
  | .oneOf branches, v, bs => bindFirst_iff branches
  | .all parts, v, bs => bindAll_iff parts
  | .capture name none compute, v, bs => by
    rw [bindings, Fits, captures, Captures.single_binds_iff, Bindings.insert_of_get?_eq_none rfl,
      true_and]
    rfl
  | .capture name (some inner) compute, v, bs => by
    rw [bindings, Fits, captures, Outcome.bind_eq_matched_iff, Captures.append_binds_iff]
    simp only [bindings_iff inner, Captures.single_binds_iff, and_assoc, exists_and_left]
  | .satisfies reason test, v, bs => by
    rw [satisfies_iff, Fits, captures, Captures.empty_binds_iff]

theorem bindFields_iff : ∀ (fields : List (String × Pattern)) {entries : List (String × Json)}
    {before bs : Bindings}, bindFields fields entries before = .matched bs ↔
      FieldsFit fields entries ∧ (captureFields fields entries).Binds before bs
  | [], entries, before, bs => by
    simp [bindFields, FieldsFit, captureFields, Captures.empty_binds_iff, eq_comm]
  | (name, p) :: rest, entries, before, bs => by
    have hown : ∀ {own}, (p.bindings (child entries name)).mapSkip (.within s!"in `{name}`") =
        .matched own ↔ p.Fits (child entries name) ∧
          (p.captures (child entries name)).Binds [] own :=
      Outcome.mapSkip_eq_matched_iff.trans (bindings_iff p)
    rw [bindFields, FieldsFit, captureFields, ← Outcome.bind_assoc, Outcome.bind_eq_matched_iff]
    exact Captures.exists_step_iff (Captures.bind_merge_iff hown) (bindFields_iff rest)

theorem bindFirst_iff : ∀ (branches : List Pattern) {v : Json} {refused : List Skip}
    {bs : Bindings}, bindFirst branches v refused = .matched bs ↔
      (∃ p ∈ branches, (p.bindings v).isMatch = true) ∧ (captureFirst branches v).Binds [] bs
  | [], v, refused, bs => by simp [bindFirst]
  | p :: rest, v, refused, bs => by
    have hp : ∀ {own}, p.bindings v = .matched own ↔ p.Fits v ∧ (p.captures v).Binds [] own :=
      bindings_iff p
    rw [bindFirst, captureFirst]
    cases hown : p.bindings v with
    | matched own =>
      -- The branch that matches fits, so its captures decide.
      obtain ⟨hfits, -⟩ := hp.mp hown
      have hbinds : (p.captures v).Binds [] bs ↔ own = bs := by
        rw [← Outcome.matched.injEq, ← hown, hp, and_iff_right hfits]
      simp [hbinds, hown]
    | skip why =>
      rw [bindFirst_iff rest]
      simp [hown]

theorem bindAll_iff : ∀ (parts : List Pattern) {v : Json} {before bs : Bindings},
    bindAll parts v before = .matched bs ↔
      AllFit parts v ∧ (captureAll parts v).Binds before bs
  | [], v, before, bs => by
    simp [bindAll, AllFit, captureAll, Captures.empty_binds_iff, eq_comm]
  | p :: rest, v, before, bs => by
    rw [bindAll, AllFit, captureAll, ← Outcome.bind_assoc, Outcome.bind_eq_matched_iff]
    exact Captures.exists_step_iff (Captures.bind_merge_iff (bindings_iff p)) (bindAll_iff rest)

theorem fills_iff : ∀ (slots : List (Slot Pattern)) {segments : List (List Json)}
    {before bs : Bindings}, Fills slots segments before bs ↔
      SlotsFit slots segments ∧ (captureSlots slots segments).Binds before bs
  | [], segments, before, bs => by
    rw [SlotsFit, captureSlots, Captures.empty_binds_iff]
    constructor
    · intro h
      cases h
      exact ⟨rfl, rfl⟩
    · rintro ⟨rfl, rfl⟩
      exact .nil
  | slot :: slots, [], before, bs => by
    rw [SlotsFit]
    exact iff_of_false (fun h ↦ by cases h) fun h ↦ h.1
  | slot :: slots, segment :: segments, before, bs => by
    rw [SlotsFit, captureSlots, fills_cons_iff]
    exact Captures.exists_step_iff (takes_iff slot) (fills_iff slots)

theorem takes_iff : ∀ (slot : Slot Pattern) {segment : List Json} {before mid : Bindings},
    Takes slot segment before mid ↔
      SlotFits slot segment ∧ (captureSlot slot segment).Binds before mid
  | .one p, segment, before, mid => by
    rw [takes_one_iff, SlotFits]
    constructor
    · rintro ⟨v, rfl, h⟩
      obtain ⟨hfits, hbinds⟩ := (Captures.bind_merge_iff (bindings_iff p)).mp h
      exact ⟨⟨v, rfl, hfits⟩, hbinds⟩
    · rintro ⟨⟨v, rfl, hfits⟩, hbinds⟩
      exact ⟨v, rfl, (Captures.bind_merge_iff (bindings_iff p)).mpr ⟨hfits, hbinds⟩⟩
  | .optional p, segment, before, mid => by
    rw [takes_optional_iff, SlotFits]
    constructor
    · rintro (⟨rfl, rfl⟩ | ⟨v, rfl, h⟩)
      · exact ⟨Or.inl rfl, Captures.empty_binds_iff.mpr rfl⟩
      · obtain ⟨hfits, hbinds⟩ := (Captures.bind_merge_iff (bindings_iff p)).mp h
        exact ⟨Or.inr ⟨v, rfl, hfits⟩, hbinds⟩
    · rintro ⟨rfl | ⟨v, rfl, hfits⟩, hbinds⟩
      · exact Or.inl ⟨rfl, Captures.empty_binds_iff.mp hbinds⟩
      · exact Or.inr ⟨v, rfl, (Captures.bind_merge_iff (bindings_iff p)).mpr ⟨hfits, hbinds⟩⟩
  | .rest each kept, segment, before, mid => by
    have heach : ∀ v, (each.bindings v).isMatch = true ↔
        each.Fits v ∧ (each.captures v).Consistent := fun v ↦
      Captures.isMatch_iff (bindings_iff each)
    have hinner : (∀ scope ∈ (captureSlot (.rest each kept) segment).inner, scope.Consistent) ↔
        ∀ v ∈ segment, (each.captures v).Consistent := by
      rw [captureSlot, List.forall_mem_flatMap]
      rfl
    rw [takes_rest_iff, bindRest_eq_merge, SlotFits]
    simp only [heach]
    constructor
    · rintro ⟨hsegment, hmerge⟩
      refine ⟨fun v hv ↦ (hsegment v hv).1, hinner.mpr fun v hv ↦ (hsegment v hv).2, ?_⟩
      rwa [captureSlot]
    · rintro ⟨hfits, hbinds⟩
      refine ⟨fun v hv ↦ ⟨hfits v hv, hinner.mp hbinds.inner v hv⟩, ?_⟩
      have hown := hbinds.own
      rwa [captureSlot] at hown

end

end Pattern

end FluentQuery
