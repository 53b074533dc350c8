import FluentQuery.Node.Build
import FluentQuery.Proofs.Alike
import FluentQuery.Proofs.Captures

/-!
# The order of parts

A conjunction lists its parts and a shape its fields. What either captures is the captures of these,
one after the other, so that nesting conjunctions changes nothing, not even the order of bindings.
Another order changes which captures are compared and which come first. But captures are consistent
in any order or in none, and of two captures of one name it does not matter which is kept, as they
are the same expression.
-/

namespace FluentQuery

namespace Bindings

/-- The same names, in any order, and for each name the same expression. -/
structure Equivalent (bs bs' : Bindings) : Prop where
  names : (bs.map Prod.fst).Perm (bs'.map Prod.fst)
  values : ∀ {name : String} {v v' : Json}, bs.get? name = some v → bs'.get? name = some v' →
    Json.sameNode v v' = true

theorem Consistent.perm {captures captures' : Bindings} (h : captures.Consistent)
    (hperm : captures.Perm captures') : captures'.Consistent :=
  h.of_subset hperm.symm.subset

theorem mem_names_firsts_iff {captures : Bindings} {name : String} :
    name ∈ captures.firsts.map Prod.fst ↔ name ∈ captures.map Prod.fst := by
  rw [← not_iff_not, ← get?_eq_none_iff, ← get?_eq_none_iff, get?_firsts]

/-- In another order the first captures are other ones, and the same up to being the same
expression. -/
theorem Consistent.equivalent_firsts {captures captures' : Bindings} (h : captures.Consistent)
    (hperm : captures.Perm captures') : captures.firsts.Equivalent captures'.firsts where
  names := by
    rw [List.perm_ext_iff_of_nodup (distinct_firsts _) (distinct_firsts _)]
    intro name
    rw [mem_names_firsts_iff, mem_names_firsts_iff]
    exact (hperm.map Prod.fst).mem_iff
  values {name v v'} hv hv' := by
    rw [get?_firsts] at hv hv'
    have hmem : (name, v') ∈ captures := hperm.mem_iff.mpr (mem_of_get? hv')
    exact h (name, v) (mem_of_get? hv) (name, v') hmem rfl

end Bindings

/-! ## Captures one after the other -/

namespace Captures

theorem append_assoc (c d e : Captures) : c ++ d ++ e = c ++ (d ++ e) :=
  congrArg₂ mk (List.append_assoc c.own d.own e.own) (List.append_assoc c.inner d.inner e.inner)

theorem append_empty (c : Captures) : c ++ empty = c :=
  congrArg₂ mk (List.append_nil c.own) (List.append_nil c.inner)

/-- Captures one after the other. -/
def join : List Captures → Captures
  | [] => empty
  | c :: rest => c ++ join rest

theorem join_append (first second : List Captures) :
    join (first ++ second) = join first ++ join second := by
  induction first with
  | nil => rfl
  | cons c rest ih => rw [List.cons_append, join, join, ih, append_assoc]

theorem own_join (cs : List Captures) : (join cs).own = cs.flatMap own := by
  induction cs with
  | nil => rfl
  | cons c rest ih => rw [List.flatMap_cons, ← ih]; rfl

theorem inner_join (cs : List Captures) : (join cs).inner = cs.flatMap inner := by
  induction cs with
  | nil => rfl
  | cons c rest ih => rw [List.flatMap_cons, ← ih]; rfl

/-- In another order, the same captures can be merged, with an equivalent result. -/
theorem exists_binds_join_of_perm {cs cs' : List Captures} (hperm : cs.Perm cs') {after : Bindings}
    (h : (join cs).Binds [] after) :
    ∃ after', (join cs').Binds [] after' ∧ after.Equivalent after' := by
  obtain ⟨hconsistent, rfl⟩ := Bindings.nil_merge_eq_matched_iff.mp h.own
  have hown : (join cs).own.Perm (join cs').own := by
    rw [own_join, own_join]
    exact hperm.flatMap_right own
  have hinner : (join cs).inner.Perm (join cs').inner := by
    rw [inner_join, inner_join]
    exact hperm.flatMap_right inner
  refine ⟨(join cs').own.firsts, ⟨fun scope hscope ↦ ?_, ?_⟩, hconsistent.equivalent_firsts hown⟩
  · exact h.inner scope (hinner.mem_iff.mpr hscope)
  · exact Bindings.nil_merge_eq_matched_iff.mpr ⟨hconsistent.perm hown, rfl⟩

end Captures

namespace Pattern

theorem captureAll_eq_join (parts : List Pattern) (v : Json) :
    captureAll parts v = .join (parts.map fun p ↦ p.captures v) := by
  induction parts with
  | nil => rfl
  | cons p rest ih => rw [captureAll, ih, List.map_cons, Captures.join]

theorem captureFields_eq_join (fields : List (String × Pattern)) (entries : List (String × Json)) :
    captureFields fields entries = .join (fields.map fun f ↦ f.2.captures (child entries f.1)) := by
  induction fields with
  | nil => rfl
  | cons f rest ih => rw [captureFields, ih, List.map_cons, Captures.join]

theorem allFit_iff {parts : List Pattern} {v : Json} : AllFit parts v ↔ ∀ p ∈ parts, p.Fits v := by
  induction parts with
  | nil => simp [AllFit]
  | cons p rest ih => rw [AllFit, ih, List.forall_mem_cons]

theorem fieldsFit_iff {fields : List (String × Pattern)} {entries : List (String × Json)} :
    FieldsFit fields entries ↔ ∀ f ∈ fields, f.2.Fits (child entries f.1) := by
  induction fields with
  | nil => simp [FieldsFit]
  | cons f rest ih => rw [FieldsFit, ih, List.forall_mem_cons]

/-! ## Nesting -/

theorem agree_of_captures_eq {p q : Pattern} {v : Json} (hfits : p.Fits v ↔ q.Fits v)
    (hcaptures : p.captures v = q.captures v) : Outcome.Agree Eq (p.matched v) (q.matched v) := by
  have hiff : ∀ bs, p.bindings v = .matched bs ↔ q.bindings v = .matched bs := by
    intro bs
    rw [bindings_iff, bindings_iff, hfits, hcaptures]
  have hagree : Outcome.Agree Eq (p.bindings v) (q.bindings v) :=
    .of_iff hiff
  exact hagree.map fun bs bs' hbs ↦ by rw [hbs]

/-- A conjunction among the parts may be replaced by its own parts. -/
theorem agree_all_nested (ps qs rs : List Pattern) (v : Json) :
    Outcome.Agree Eq ((all (ps ++ all qs :: rs)).matched v) ((all (ps ++ qs ++ rs)).matched v) := by
  refine agree_of_captures_eq ?_ ?_
  · have hnested : (all qs).Fits v ↔ ∀ p ∈ qs, p.Fits v := allFit_iff
    rw [Fits, Fits, allFit_iff, allFit_iff, List.forall_mem_append, List.forall_mem_cons,
      List.forall_mem_append, List.forall_mem_append, hnested, and_assoc]
  · have hnested : (all qs).captures v = .join (qs.map fun p ↦ p.captures v) :=
      captureAll_eq_join qs v
    rw [captures, captures, captureAll_eq_join, captureAll_eq_join, List.map_append,
      List.map_append, List.map_append, List.map_cons, Captures.join_append, Captures.join_append,
      Captures.join_append, Captures.join, hnested, Captures.append_assoc]

theorem fits_and_iff {p q : Pattern} {v : Json} : (p.and q).Fits v ↔ p.Fits v ∧ q.Fits v := by
  cases p with
  | all parts =>
    have hall : (all parts).Fits v ↔ ∀ p ∈ parts, p.Fits v := allFit_iff
    rw [Pattern.and, Fits, hall, allFit_iff, List.forall_mem_append, List.forall_mem_singleton]
  | _ => simp [Pattern.and, Fits, AllFit]

theorem captures_and (p q : Pattern) (v : Json) :
    (p.and q).captures v = p.captures v ++ q.captures v := by
  cases p with
  | all parts =>
    have hall : (all parts).captures v = .join (parts.map fun p ↦ p.captures v) :=
      captureAll_eq_join parts v
    rw [Pattern.and, captures, captureAll_eq_join, hall, List.map_append, List.map_singleton,
      Captures.join_append, Captures.join, Captures.join, Captures.append_empty]
  | _ => exact congrArg _ (Captures.append_empty (q.captures v))

theorem agree_and_assoc (p q r : Pattern) (v : Json) :
    Outcome.Agree Eq (((p.and q).and r).matched v) ((p.and (q.and r)).matched v) := by
  refine agree_of_captures_eq ?_ ?_
  · rw [fits_and_iff, fits_and_iff, fits_and_iff, fits_and_iff, and_assoc]
  · rw [captures_and, captures_and, captures_and, captures_and, Captures.append_assoc]

/-! ## Order -/

/-- Two patterns agree up to the order of bindings if they fit the same values and have the same
captures in another order. -/
theorem agree_of_captures_perm {p q : Pattern} {v : Json} (hfits : p.Fits v ↔ q.Fits v)
    {cs cs' : List Captures} (hp : p.captures v = .join cs) (hq : q.captures v = .join cs')
    (hperm : cs.Perm cs') :
    Outcome.Agree (fun m m' ↦ m.bindings.Equivalent m'.bindings) (p.matched v) (q.matched v) := by
  have hagree : Outcome.Agree Bindings.Equivalent (p.bindings v) (q.bindings v) := by
    refine .of_matched (fun bs h ↦ ?_) fun bs' h ↦ ?_
    · rw [bindings_iff, hp] at h
      obtain ⟨bs', hbinds, hequivalent⟩ := Captures.exists_binds_join_of_perm hperm h.2
      exact ⟨bs', (bindings_iff q).mpr ⟨hfits.mp h.1, hq ▸ hbinds⟩, hequivalent⟩
    · rw [bindings_iff, hq] at h
      obtain ⟨bs, hbinds, -⟩ := Captures.exists_binds_join_of_perm hperm.symm h.2
      exact ⟨bs, (bindings_iff p).mpr ⟨hfits.mpr h.1, hp ▸ hbinds⟩⟩
  exact hagree.map fun _ _ hequivalent ↦ hequivalent

theorem agree_all_of_perm {parts parts' : List Pattern} (hperm : parts.Perm parts') (v : Json) :
    Outcome.Agree (fun m m' ↦ m.bindings.Equivalent m'.bindings) ((all parts).matched v)
      ((all parts').matched v) := by
  refine agree_of_captures_perm ?_ (captureAll_eq_join parts v) (captureAll_eq_join parts' v)
    (hperm.map _)
  rw [Fits, Fits, allFit_iff, allFit_iff]
  exact forall_congr' fun p ↦ imp_congr_left hperm.mem_iff

theorem agree_shape_of_perm {fields fields' : List (String × Pattern)}
    (hperm : fields.Perm fields') (v : Json) :
    Outcome.Agree (fun m m' ↦ m.bindings.Equivalent m'.bindings) ((shape fields).matched v)
      ((shape fields').matched v) := by
  cases hv : v.unparen with
  | object entries =>
    have hcaptures : ∀ fields, (shape fields).captures v =
        .join (fields.map fun f ↦ f.2.captures (child entries f.1)) := by
      intro fields
      rw [captures, hv]
      exact captureFields_eq_join fields entries
    refine agree_of_captures_perm ?_ (hcaptures fields) (hcaptures fields') (hperm.map _)
    rw [Fits, Fits, hv]
    change FieldsFit fields entries ↔ FieldsFit fields' entries
    rw [fieldsFit_iff, fieldsFit_iff]
    exact forall_congr' fun f ↦ imp_congr_left hperm.mem_iff
  | _ =>
    -- A value that is no object is skipped, whatever the fields are.
    rw [matched, matched, bindings, bindings, hv]
    exact .skip _ _

/-- **The laws of conjunction.** Conjunctions may be nested in any way, with the same bindings in
the same order. The parts of a conjunction and the fields of a shape may stand in any order: the
pattern then matches the same values and binds the same names, to values that are the same
expression. -/
theorem matched_conjunction (v : Json) :
    (∀ ps qs rs : List Pattern, Outcome.Agree Eq ((all (ps ++ all qs :: rs)).matched v)
      ((all (ps ++ qs ++ rs)).matched v)) ∧
    (∀ p q r : Pattern,
      Outcome.Agree Eq (((p.and q).and r).matched v) ((p.and (q.and r)).matched v)) ∧
    (∀ parts parts' : List Pattern, parts.Perm parts' →
      Outcome.Agree (fun m m' ↦ m.bindings.Equivalent m'.bindings) ((all parts).matched v)
        ((all parts').matched v)) ∧
    ∀ fields fields' : List (String × Pattern), fields.Perm fields' →
      Outcome.Agree (fun m m' ↦ m.bindings.Equivalent m'.bindings) ((shape fields).matched v)
        ((shape fields').matched v) :=
  ⟨fun ps qs rs ↦ agree_all_nested ps qs rs v, fun p q r ↦ agree_and_assoc p q r v,
    fun _ _ hperm ↦ agree_all_of_perm hperm v, fun _ _ hperm ↦ agree_shape_of_perm hperm v⟩

/-- Two nodes that differ in their positions are captured under one name. The first one is kept, and
which one that is depends on the order of parts. -/
theorem matched_conjunction_swapped :
    let x (position : Nat) := Tree.node Kind.identifier
      [("name", .string "x"), ("start", .ofNat position)]
    let v := Json.object [("left", x 1), ("right", x 2)]
    let left := shape [("left", bound "a")]
    let right := shape [("right", bound "a")]
    let fields := [("left", bound "a"), ("right", bound "a")]
    [left, right].Perm [right, left] ∧ fields.Perm fields.reverse ∧
      (all [left, right]).matched v = .matched ⟨[("a", x 1)], v⟩ ∧
      (all [right, left]).matched v = .matched ⟨[("a", x 2)], v⟩ ∧
      Outcome.Agree (fun m m' ↦ m.bindings.Equivalent m'.bindings) ((all [left, right]).matched v)
        ((all [right, left]).matched v) ∧
      Outcome.Agree (fun m m' ↦ m.bindings.Equivalent m'.bindings) ((shape fields).matched v)
        ((shape fields.reverse).matched v) := by
  intro x v left right fields
  have hparts : [left, right].Perm [right, left] := .swap right left []
  have hfields : fields.Perm fields.reverse := fields.reverse_perm.symm
  obtain ⟨-, -, hall, hshape⟩ := matched_conjunction v
  exact ⟨hparts, hfields, rfl, rfl, hall _ _ hparts, hshape _ _ hfields⟩

end Pattern

end FluentQuery
