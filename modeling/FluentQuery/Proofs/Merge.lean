import FluentQuery.Proofs.Pattern

/-!
# Merging captures

Bindings are merged pair by pair, each new value against the one that its name has already, and a
merge stops at the first conflict. What comes of a whole list of captures does not depend on how the
list is cut up: `merge_assoc` lets captures be merged in groups or one after the other. So the merge
of a list into nothing can be said at once. It succeeds if the list is `Consistent`, that is if any
two captures of one name are the same expression, and then it keeps the `firsts`, the captures whose
name has not occurred before. That comparing with the first value is as good as comparing all pairs
is where being the same expression has to be transitive.
-/

namespace FluentQuery

theorem Outcome.bind_matched {α : Type} (o : Outcome α) : (o >>= .matched) = o := by
  cases o <;> rfl

namespace Json

theorem sameNode_self (v : Json) : sameNode v v = true := sameNode_iff.mpr rfl

theorem sameNode_symm {v w : Json} (h : sameNode v w = true) : sameNode w v = true := by
  have hplain := sameNode_iff.mp h
  exact sameNode_iff.mpr hplain.symm

theorem sameNode_trans {u v w : Json} (huv : sameNode u v = true) (hvw : sameNode v w = true) :
    sameNode u w = true := by
  have hplain := (sameNode_iff.mp huv).trans (sameNode_iff.mp hvw)
  exact sameNode_iff.mpr hplain

end Json

namespace Bindings

variable {bindings first second before mid after own : Bindings} {name : String} {v w : Json}

/-! ## One after the other -/

theorem mem_of_get? (h : bindings.get? name = some v) : (name, v) ∈ bindings := Json.mem_of_find? h

theorem merge_append (bindings first second : Bindings) :
    bindings.merge (first ++ second) = bindings.merge first >>= fun mid ↦ mid.merge second := by
  induction first generalizing bindings with
  | nil => rfl
  | cons e rest ih =>
    obtain ⟨name, v⟩ := e
    rw [List.cons_append, merge, merge, Outcome.bind_assoc]
    congr 1
    funext mid
    exact ih mid

theorem merge_singleton (bindings : Bindings) (name : String) (v : Json) :
    bindings.merge [(name, v)] = bindings.insert name v :=
  Outcome.bind_matched _

/-- After a capture its name is bound to the same expression, and other names are as before. -/
theorem get?_of_insert (h : bindings.insert name v = .matched after) :
    (∃ w, after.get? name = some w ∧ Json.sameNode w v = true) ∧
      ∀ {other : String} {u : Json}, bindings.get? other = some u → after.get? other = some u := by
  rw [insert] at h
  split at h
  · next hnone =>
    cases h
    refine ⟨⟨v, ?_, Json.sameNode_self v⟩, fun {other u} hother ↦ ?_⟩
    · rw [get?_append, hnone, Option.none_or, get?_cons, if_pos rfl]
    · rw [get?_append, hother, Option.some_or]
  · next w hw =>
    split at h
    · next hsame =>
      cases h
      exact ⟨⟨w, hw, hsame⟩, fun hother ↦ hother⟩
    · cases h

theorem get?_of_merge (h : bindings.merge own = .matched after) (hv : bindings.get? name = some v) :
    after.get? name = some v := by
  induction own generalizing bindings with
  | nil =>
    cases h
    exact hv
  | cons e rest ih =>
    obtain ⟨mid, hinsert, hmerge⟩ := Outcome.bind_eq_matched_iff.mp h
    exact ih hmerge ((get?_of_insert hinsert).2 hv)

/-- What is merged is bound afterwards, to the same expression. -/
theorem exists_get?_of_merge (h : bindings.merge own = .matched after) (hv : (name, v) ∈ own) :
    ∃ w, after.get? name = some w ∧ Json.sameNode w v = true := by
  induction own generalizing bindings with
  | nil => cases hv
  | cons e rest ih =>
    obtain ⟨mid, hinsert, hmerge⟩ := Outcome.bind_eq_matched_iff.mp h
    rcases List.mem_cons.mp hv with rfl | hmem
    · obtain ⟨w, hw, hsame⟩ := (get?_of_insert hinsert).1
      exact ⟨w, get?_of_merge hmerge hw, hsame⟩
    · exact ih hmerge hmem

/-- **Merging is associative.** Whether `second` is merged into `first` before both go into other
bindings or after, it succeeds in the same cases and with the same result. -/
theorem merge_assoc :
    (first.merge second >>= before.merge) = .matched after ↔
      (before.merge first >>= fun mid ↦ mid.merge second) = .matched after := by
  induction second generalizing first with
  | nil =>
    change before.merge first = .matched after ↔
      (before.merge first >>= fun mid ↦ .matched mid) = .matched after
    rw [Outcome.bind_matched]
  | cons e rest ih =>
    obtain ⟨name, v⟩ := e
    cases hget : first.get? name with
    | none =>
      rw [merge_cons_of_get?_eq_none hget, ih, merge_append, Outcome.bind_assoc]
      simp only [merge_singleton]
      rfl
    | some w =>
      rw [Outcome.bind_eq_matched_iff, Outcome.bind_eq_matched_iff]
      simp only [merge_cons_eq_matched_iff hget]
      -- Once `first` is merged, its value for the name is there, up to being the same.
      have hmid : ∀ mid, before.merge first = .matched mid →
          (mid.merge ((name, v) :: rest) = .matched after ↔
            Json.sameNode w v = true ∧ mid.merge rest = .matched after) := by
        intro mid hmid
        obtain ⟨u, hu, huw⟩ := exists_get?_of_merge hmid (mem_of_get? hget)
        rw [merge_cons_eq_matched_iff hu]
        refine and_congr_left fun _ ↦ ⟨fun huv ↦ ?_, fun hwv ↦ Json.sameNode_trans huw hwv⟩
        exact Json.sameNode_trans (Json.sameNode_symm huw) huv
      have hgroup :
          (∃ both, first.merge rest = .matched both ∧ before.merge both = .matched after) ↔
            ∃ mid, before.merge first = .matched mid ∧ mid.merge rest = .matched after := by
        rw [← Outcome.bind_eq_matched_iff, ih, Outcome.bind_eq_matched_iff]
      constructor
      · rintro ⟨both, ⟨hsame, hboth⟩, hafter⟩
        obtain ⟨mid, hbefore, hrest⟩ := hgroup.mp ⟨both, hboth, hafter⟩
        exact ⟨mid, hbefore, (hmid mid hbefore).mpr ⟨hsame, hrest⟩⟩
      · rintro ⟨mid, hbefore, hmerge⟩
        obtain ⟨hsame, hrest⟩ := (hmid mid hbefore).mp hmerge
        obtain ⟨both, hboth, hafter⟩ := hgroup.mpr ⟨mid, hbefore, hrest⟩
        exact ⟨both, ⟨hsame, hboth⟩, hafter⟩

/-- Captures may be merged by themselves first. -/
theorem exists_nil_merge_iff :
    (∃ mid, merge [] own = .matched mid ∧ before.merge mid = .matched after) ↔
      before.merge own = .matched after := by
  rw [← Outcome.bind_eq_matched_iff, merge_assoc]
  rfl

/-! ## All at once -/

/-- Any two captures of one name are the same expression. -/
def Consistent (captures : Bindings) : Prop :=
  ∀ x ∈ captures, ∀ y ∈ captures, x.1 = y.1 → Json.sameNode x.2 y.2 = true

instance : DecidablePred Consistent := fun captures ↦
  inferInstanceAs (Decidable (∀ x ∈ captures, ∀ y ∈ captures,
    x.1 = y.1 → Json.sameNode x.2 y.2 = true))

/-- The captures whose name has not occurred before. -/
def firsts : Bindings → Bindings
  | [] => []
  | x :: rest => x :: (firsts rest).filter fun y ↦ y.1 ≠ x.1

theorem Consistent.of_subset (h : second.Consistent) (hsubset : first ⊆ second) :
    first.Consistent :=
  fun x hx y hy ↦ h x (hsubset hx) y (hsubset hy)

theorem Distinct.consistent (h : bindings.Distinct) : bindings.Consistent := by
  intro x hx y hy hname
  rw [List.inj_on_of_nodup_map h hx hy hname]
  exact Json.sameNode_self y.2

/-- Looking a name up finds its first capture. -/
@[simp] theorem get?_firsts (captures : Bindings) (name : String) :
    captures.firsts.get? name = captures.get? name := by
  have hfilter : ∀ (rest : Bindings) {k : String}, k ≠ name →
      get? (rest.filter fun y ↦ y.1 ≠ k) name = rest.get? name := by
    intro rest k hk
    induction rest with
    | nil => rfl
    | cons y rest ih =>
      obtain ⟨l, u⟩ := y
      by_cases hl : l = k
      · rw [List.filter_cons_of_neg (by simp [hl]), ih, get?_cons, if_neg (hl ▸ hk)]
      · rw [List.filter_cons_of_pos (by simp [hl]), get?_cons, get?_cons, ih]
  induction captures with
  | nil => rfl
  | cons x rest ih =>
    obtain ⟨k, v⟩ := x
    rw [firsts, get?_cons, get?_cons]
    by_cases hk : k = name
    · rw [if_pos hk, if_pos hk]
    · rw [if_neg hk, if_neg hk, hfilter _ hk, ih]

theorem distinct_firsts (captures : Bindings) : captures.firsts.Distinct := by
  induction captures with
  | nil => exact distinct_nil
  | cons x rest ih =>
    refine List.nodup_cons.mpr ⟨?_, ih.sublist (List.filter_sublist.map Prod.fst)⟩
    simp

/-- The first captures of two lists are those of the first one, and what the second one adds. -/
theorem firsts_append (first second : Bindings) :
    firsts (first ++ second) =
      first.firsts ++ second.firsts.filter fun y ↦ y.1 ∉ first.map Prod.fst := by
  induction first with
  | nil => simp [firsts]
  | cons x rest ih =>
    rw [List.cons_append, firsts, firsts, ih, List.filter_append, List.filter_filter,
      List.cons_append]
    congr 3
    funext y
    by_cases hname : y.1 = x.1 <;> simp [hname]

theorem Distinct.firsts_eq (h : bindings.Distinct) : bindings.firsts = bindings := by
  induction bindings with
  | nil => rfl
  | cons x rest ih =>
    obtain ⟨hx, hrest⟩ := List.nodup_cons.mp h
    rw [firsts, ih hrest, List.filter_eq_self.mpr]
    intro y hy
    have hne : y.1 ≠ x.1 := fun hname ↦ hx (hname ▸ List.mem_map_of_mem hy)
    simpa using hne

theorem exists_get?_of_mem (h : (name, v) ∈ bindings) : ∃ w, bindings.get? name = some w := by
  cases hget : bindings.get? name with
  | none => exact absurd (List.mem_map_of_mem h) (get?_eq_none_iff.mp hget)
  | some w => exact ⟨w, rfl⟩

/-- The result of a merge holds the first captures. -/
theorem eq_firsts_of_merge (hbefore : before.Distinct) (h : before.merge own = .matched after) :
    after = firsts (before ++ own) := by
  induction own generalizing before with
  | nil =>
    cases h
    rw [List.append_nil, hbefore.firsts_eq]
  | cons e rest ih =>
    obtain ⟨name, v⟩ := e
    cases hget : before.get? name with
    | none =>
      have hinsert := insert_of_get?_eq_none hget v
      rw [merge_cons_of_get?_eq_none hget] at h
      rw [ih (distinct_insert hbefore hinsert) h, List.append_assoc]
      rfl
    | some w =>
      -- The name is bound already, and so the capture is none of the first ones.
      have hname : name ∈ before.map Prod.fst := List.mem_map_of_mem (mem_of_get? hget)
      obtain ⟨-, hmerge⟩ := (merge_cons_eq_matched_iff hget).mp h
      have hdropped : ¬decide (name ∉ before.map Prod.fst) = true := by
        rw [decide_eq_true_eq, not_not]
        exact hname
      rw [ih hbefore hmerge, firsts_append, firsts_append, firsts,
        List.filter_cons, if_neg hdropped, List.filter_filter]
      congr 2
      funext y
      by_cases hy : y.1 = name
      · simp [hy, hname]
      · simp [hy]

/-- Consistent captures are merged without a conflict. -/
theorem Consistent.exists_merge (h : Consistent (before ++ own)) :
    ∃ after, before.merge own = .matched after := by
  induction own generalizing before with
  | nil => exact ⟨before, rfl⟩
  | cons e rest ih =>
    obtain ⟨name, v⟩ := e
    cases hget : before.get? name with
    | none =>
      rw [merge_cons_of_get?_eq_none hget]
      exact ih (by rwa [List.append_assoc])
    | some w =>
      have hsame : Json.sameNode w v = true :=
        h (name, w) (List.mem_append_left _ (mem_of_get? hget)) (name, v) (by simp) rfl
      have hrest : Consistent (before ++ rest) := h.of_subset (by simp)
      obtain ⟨after, hafter⟩ := ih hrest
      exact ⟨after, (merge_cons_eq_matched_iff hget).mpr ⟨hsame, hafter⟩⟩

/-- A merge compares each capture with the first of its name, and so with any other. -/
theorem consistent_of_merge (h : bindings.merge own = .matched after) : own.Consistent := by
  rintro ⟨name, u⟩ hu ⟨_, v⟩ hv rfl
  obtain ⟨w, hw, hwu⟩ := exists_get?_of_merge h hu
  obtain ⟨w', hw', hwv⟩ := exists_get?_of_merge h hv
  cases hw.symm.trans hw'
  exact Json.sameNode_trans (Json.sameNode_symm hwu) hwv

/-- **What a list of captures binds.** It binds anything only if it is consistent, and then its
first captures. -/
theorem nil_merge_eq_matched_iff :
    merge [] own = .matched after ↔ own.Consistent ∧ after = own.firsts := by
  constructor
  · intro h
    exact ⟨consistent_of_merge h, eq_firsts_of_merge distinct_nil h⟩
  · rintro ⟨hconsistent, rfl⟩
    have hnil : Consistent ([] ++ own) := hconsistent
    obtain ⟨after, hafter⟩ := hnil.exists_merge
    rw [hafter, eq_firsts_of_merge distinct_nil hafter]
    rfl

theorem exists_nil_merge_eq_iff : (∃ after, merge [] own = .matched after) ↔ own.Consistent := by
  simp [nil_merge_eq_matched_iff]

end Bindings

end FluentQuery
