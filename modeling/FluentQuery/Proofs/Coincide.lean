import FluentQuery.Proofs.Plain
import FluentQuery.Proofs.Position
import Mathlib.Data.List.Sort

/-!
# Comparing nodes part by part

Two nodes are the same expression if their plain forms are equal. They can also be compared as they
stand, without building anything: strip the parentheses on both sides, look up every entry of the
left node on the right, and go on with what is found there. This is `coincides`. It treats the two
sides differently. Entries are taken from the left and only counted on the right, so that neither
symmetry nor transitivity can be read off its definition.

Where objects have distinct keys the two comparisons agree. The plain entries of an object are its
significant entries in plain form, sorted by key, so that equality of plain entries is a
permutation. Without repeated keys a permutation is an inclusion between lists of equal length, and
that is what looking up and counting decide. Hence comparing part by part is an equivalence relation
on values with distinct keys, and it is none without them.
-/

namespace FluentQuery

namespace Json

/-! ## The comparison -/

/-- Whether an entry counts in a comparison. -/
def isSignificant (e : String × Json) : Bool := !isTrivia e.1

/-- Whether two `type` entries name the same kind; those that are no strings name none. -/
def sameKind (v w : Json) : Bool :=
  v.asString?.map canonicalKind == w.asString?.map canonicalKind

mutual

/-- Whether two values coincide part by part. Parentheses are looked through on both sides, numbers
have the same value, and of two objects with equally many significant entries, each such entry of
the left one is found in the right one. -/
def coincides : Json → Json → Bool
  | .null, b => decide (b.unparen = .null)
  | .bool x, b => decide (b.unparen = .bool x)
  | .number n, b =>
    match b.unparen with
    | .number m => decide (n.toBinary64.value = m.toBinary64.value)
    | _ => false
  | .string s, b => decide (b.unparen = .string s)
  | .array left, b =>
    match b.unparen with
    | .array right => coincideItems left right
    | _ => false
  | .object left, b =>
    if (wrapped? (.object left)).isSome then enclosedCoincides left b
    else
      match b.unparen with
      | .object right =>
        decide (left.countP isSignificant = right.countP isSignificant) &&
          coincideEntries left right
      | _ => false
termination_by structural a => a

/-- Whether the expression in a pair of parentheses coincides with a value. -/
def enclosedCoincides : List (String × Json) → Json → Bool
  | [], _ => false
  | (k, v) :: rest, b => if k = "expression" then v.coincides b else enclosedCoincides rest b
termination_by structural entries => entries

/-- Whether items coincide one by one. -/
def coincideItems : List Json → List Json → Bool
  | [], [] => true
  | v :: left, w :: right => v.coincides w && coincideItems left right
  | _, _ => false
termination_by structural left => left

/-- Whether each significant entry coincides with the entry of its key on the right. -/
def coincideEntries : List (String × Json) → List (String × Json) → Bool
  | [], _ => true
  | (k, v) :: left, right =>
    (isTrivia k ||
      match find? k right with
      | none => false
      | some w => if k = "type" then sameKind v w else v.coincides w) &&
    coincideEntries left right
termination_by structural left => left

end

theorem enclosedCoincides_eq (entries : List (String × Json)) (b : Json) :
    enclosedCoincides entries b = (find? "expression" entries).any (coincides · b) := by
  induction entries with
  | nil => rfl
  | cons e rest ih =>
    obtain ⟨k, v⟩ := e
    by_cases hk : k = "expression" <;> simp [enclosedCoincides, find?_cons, hk, ih]

theorem coincides_of_wrapped? {a w : Json} (h : a.wrapped? = some w) (b : Json) :
    a.coincides b = w.coincides b := by
  obtain ⟨entries, rfl, -, hfind⟩ := wrapped?_eq_some_iff.mp h
  rw [coincides, h, if_pos (Option.isSome_some), enclosedCoincides_eq, hfind, Option.any_some]

theorem coincides_unparen_left (a b : Json) : a.unparen.coincides b = a.coincides b := by
  induction a using wrapped_induction with
  | h a ih =>
    cases hwrapped : a.wrapped? with
    | none => rw [unparen_of_wrapped?_eq_none hwrapped]
    | some w => rw [unparen_of_wrapped? hwrapped, coincides_of_wrapped? hwrapped, ih w hwrapped]

theorem coincides_unparen_right (a b : Json) : a.coincides b.unparen = a.coincides b := by
  induction a using wrapped_induction with
  | h a ih =>
    cases hwrapped : a.wrapped? with
    | some w => rw [coincides_of_wrapped? hwrapped, coincides_of_wrapped? hwrapped, ih w hwrapped]
    | none => cases a <;> simp [coincides, hwrapped]

theorem coincideItems_iff {left right : List Json} :
    coincideItems left right = true ↔ List.Forall₂ (fun v w ↦ v.coincides w = true) left right := by
  induction left generalizing right with
  | nil => cases right <;> simp [coincideItems]
  | cons v left ih => cases right <;> simp [coincideItems, ih]

theorem coincideEntries_iff {left right : List (String × Json)} :
    coincideEntries left right = true ↔ ∀ e ∈ left, isSignificant e = true →
      ∃ w, find? e.1 right = some w ∧
        (if e.1 = "type" then sameKind e.2 w else e.2.coincides w) = true := by
  induction left with
  | nil => simp [coincideEntries]
  | cons e left ih =>
    obtain ⟨k, v⟩ := e
    rw [coincideEntries, Bool.and_eq_true, ih, List.forall_mem_cons]
    refine and_congr ?_ Iff.rfl
    cases hfind : find? k right <;> simp [isSignificant, or_iff_not_imp_left]

/-! ## Values without parentheses -/

theorem wrapped?_unparen (v : Json) : v.unparen.wrapped? = none := by
  induction v using wrapped_induction with
  | h v ih =>
    cases hwrapped : v.wrapped? with
    | none => rw [unparen_of_wrapped?_eq_none hwrapped, hwrapped]
    | some w => rw [unparen_of_wrapped? hwrapped, ih w hwrapped]

theorem sizeOf_unparen_le (v : Json) : sizeOf v.unparen ≤ sizeOf v := by
  induction v using wrapped_induction with
  | h v ih =>
    cases hwrapped : v.wrapped? with
    | none => rw [unparen_of_wrapped?_eq_none hwrapped]
    | some w =>
      have hle := ih w hwrapped
      obtain ⟨entries, rfl, -, hfind⟩ := wrapped?_eq_some_iff.mp hwrapped
      have hlt := sizeOf_lt_of_find? hfind
      rw [unparen_of_wrapped? hwrapped]
      omega

theorem distinctKeys_of_mem {entries : List (String × Json)}
    (h : (Json.object entries).distinctKeys = true) {e : String × Json} (he : e ∈ entries) :
    e.2.distinctKeys = true := by
  rw [distinctKeys, Bool.and_eq_true] at h
  exact distinctEntries_iff.mp h.2 e he

theorem distinctKeys_unparen {v : Json} (h : v.distinctKeys = true) :
    v.unparen.distinctKeys = true := by
  induction v using wrapped_induction with
  | h v ih =>
    cases hwrapped : v.wrapped? with
    | none => rwa [unparen_of_wrapped?_eq_none hwrapped]
    | some w =>
      rw [unparen_of_wrapped? hwrapped]
      obtain ⟨entries, rfl, -, hfind⟩ := wrapped?_eq_some_iff.mp hwrapped
      exact ih w hwrapped (distinctKeys_of_mem h (mem_of_find? hfind))

/-! ## Plain entries -/

/-- An entry in plain form. -/
def plainEntry (e : String × Json) : String × Json :=
  (e.1, if e.1 = "type" then plainKind e.2 else e.2.plain)

/-- The significant entries of an object, in plain form and in the order in which they stand. -/
def plainParts (entries : List (String × Json)) : List (String × Json) :=
  (entries.filter isSignificant).map plainEntry

/-- The order in which plain entries are sorted. -/
def KeyLE (x y : String × Json) : Prop := x.1 ≤ y.1

instance : DecidableRel KeyLE := fun x y ↦ inferInstanceAs (Decidable (x.1 ≤ y.1))

instance : Std.Total KeyLE := ⟨fun x y ↦ String.le_total x.1 y.1⟩

instance : IsTrans (String × Json) KeyLE := ⟨fun _ _ _ hxy hyz ↦ String.le_trans hxy hyz⟩

theorem insertEntry_eq_orderedInsert (key : String) (v : Json) (entries : List (String × Json)) :
    insertEntry key v entries = entries.orderedInsert KeyLE (key, v) := by
  induction entries with
  | nil => rfl
  | cons e rest ih =>
    obtain ⟨k, w⟩ := e
    rw [insertEntry, List.orderedInsert_cons, ih]
    by_cases hlt : k < key
    · have hle : ¬KeyLE (key, v) (k, w) := String.not_le.mpr hlt
      rw [if_pos hlt, if_neg hle]
    · have hle : KeyLE (key, v) (k, w) := String.not_lt.mp hlt
      rw [if_neg hlt, if_pos hle]

theorem plainEntries_eq_insertionSort (entries : List (String × Json)) :
    plainEntries entries = (plainParts entries).insertionSort KeyLE := by
  induction entries with
  | nil => rfl
  | cons e rest ih =>
    obtain ⟨k, v⟩ := e
    cases htrivia : isTrivia k with
    | true =>
      have hparts : plainParts ((k, v) :: rest) = plainParts rest := by
        simp [plainParts, isSignificant, htrivia]
      rw [plainEntries, htrivia, if_pos rfl, hparts, ih]
    | false =>
      have hparts : plainParts ((k, v) :: rest) = plainEntry (k, v) :: plainParts rest := by
        simp [plainParts, isSignificant, htrivia]
      rw [plainEntries, htrivia, if_neg Bool.false_ne_true, hparts, List.insertionSort_cons, ih,
        plainEntry]
      split <;> exact insertEntry_eq_orderedInsert _ _ _

theorem mem_plainParts {entries : List (String × Json)} {x : String × Json} :
    x ∈ plainParts entries ↔ ∃ e ∈ entries, isSignificant e = true ∧ plainEntry e = x := by
  simp [plainParts, and_assoc]

theorem length_plainParts (entries : List (String × Json)) :
    (plainParts entries).length = entries.countP isSignificant := by
  rw [plainParts, List.length_map, List.countP_eq_length_filter]

/-- Plain form keeps keys, so that they stay distinct. -/
theorem nodup_keys_plainParts {entries : List (String × Json)}
    (h : (entries.map Prod.fst).Nodup) : ((plainParts entries).map Prod.fst).Nodup := by
  have hkeys : (plainParts entries).map Prod.fst = (entries.filter isSignificant).map Prod.fst := by
    rw [plainParts, List.map_map]
    rfl
  rw [hkeys]
  exact h.sublist (List.filter_sublist.map Prod.fst)

/-- Sorting distinct keys forgets the order in which entries stand, and nothing else. -/
theorem plainEntries_eq_iff_perm {left right : List (String × Json)}
    (hleft : (left.map Prod.fst).Nodup) :
    plainEntries left = plainEntries right ↔ (plainParts left).Perm (plainParts right) := by
  rw [plainEntries_eq_insertionSort, plainEntries_eq_insertionSort]
  have hsortl := List.perm_insertionSort KeyLE (plainParts left)
  have hsortr := List.perm_insertionSort KeyLE (plainParts right)
  constructor
  · intro heq
    rw [heq] at hsortl
    exact hsortl.symm.trans hsortr
  · intro hperm
    have hsorted : ((plainParts left).insertionSort KeyLE).Perm
        ((plainParts right).insertionSort KeyLE) := hsortl.trans (hperm.trans hsortr.symm)
    refine List.Perm.eq_of_pairwise (fun x y hx hy hxy hyx ↦ ?_)
      (List.pairwise_insertionSort KeyLE _) (List.pairwise_insertionSort KeyLE _) hsorted
    -- Two entries of one key are both among those of the left object, and so are one.
    have hmemx := hsortl.mem_iff.mp hx
    have hmemy := hsortl.mem_iff.mp (hsorted.mem_iff.mpr hy)
    exact List.inj_on_of_nodup_map (nodup_keys_plainParts hleft) hmemx hmemy
      (String.le_antisymm hxy hyx)

/-- **Looking up and counting.** Plain entries are equal exactly if each significant entry on the
left is found on the right with the same plain form, among equally many. -/
theorem plainEntries_eq_iff {left right : List (String × Json)}
    (hleft : (left.map Prod.fst).Nodup) (hright : (right.map Prod.fst).Nodup) :
    plainEntries left = plainEntries right ↔
      left.countP isSignificant = right.countP isSignificant ∧
        ∀ e ∈ left, isSignificant e = true →
          ∃ w, find? e.1 right = some w ∧ plainEntry e = plainEntry (e.1, w) := by
  rw [plainEntries_eq_iff_perm hleft, ← length_plainParts, ← length_plainParts]
  constructor
  · intro hperm
    refine ⟨hperm.length_eq, fun e he hsignificant ↦ ?_⟩
    have hmem : plainEntry e ∈ plainParts right :=
      hperm.mem_iff.mp (mem_plainParts.mpr ⟨e, he, hsignificant, rfl⟩)
    obtain ⟨⟨k, w⟩, hw, -, heq⟩ := mem_plainParts.mp hmem
    have hkey : k = e.1 := congrArg Prod.fst heq
    subst hkey
    exact ⟨w, find?_of_mem_nodup hright hw, heq.symm⟩
  · rintro ⟨hlength, hfound⟩
    have hsubset : plainParts left ⊆ plainParts right := by
      intro x hx
      obtain ⟨e, he, hsignificant, rfl⟩ := mem_plainParts.mp hx
      obtain ⟨w, hw, heq⟩ := hfound e he hsignificant
      exact mem_plainParts.mpr ⟨(e.1, w), mem_of_find? hw, hsignificant, heq.symm⟩
    have hnodup : (plainParts left).Nodup := (nodup_keys_plainParts hleft).of_map Prod.fst
    exact (List.subperm_of_subset hnodup hsubset).perm_of_length_le hlength.ge

/-! ## The two comparisons agree -/

theorem plainKind_eq_iff {v w : Json} : plainKind v = plainKind w ↔ sameKind v w = true := by
  rw [plainKind, plainKind, sameKind, beq_iff_eq]
  cases v.asString? <;> cases w.asString? <;> simp [orNull]

theorem unsignedZero_eq_iff {x y : Binary64} :
    x.unsignedZero = y.unsignedZero ↔ x.value = y.value := by
  obtain ⟨s, m⟩ := x
  obtain ⟨t, n⟩ := y
  cases s <;> cases t <;> simp [Binary64.unsignedZero, Binary64.value] <;> grind

theorem plain_array (items : List Json) : (Json.array items).plain = .array (items.map plain) := by
  rw [plain, plainItems_eq_map]

theorem forall₂_plain_iff {left right : List Json} :
    List.Forall₂ (fun v w ↦ v.plain = w.plain) left right ↔ left.map plain = right.map plain := by
  rw [← List.forall₂_eq_eq_eq, List.forall₂_map_left_iff, List.forall₂_map_right_iff]

/-- Two objects without parentheses coincide exactly if their plain forms are equal, provided that
this is so of their entries. -/
theorem object_coincides_iff {left right : List (String × Json)}
    (hleft : (Json.object left).wrapped? = none) (hright : (Json.object right).wrapped? = none)
    (hkeysl : (Json.object left).distinctKeys = true)
    (hkeysr : (Json.object right).distinctKeys = true)
    (ih : ∀ e ∈ left, ∀ e' ∈ right, e.2.coincides e'.2 = true ↔ e.2.plain = e'.2.plain) :
    (Json.object left).coincides (.object right) = true ↔
      (Json.object left).plain = (Json.object right).plain := by
  have hnodupl : (left.map Prod.fst).Nodup := by
    rw [distinctKeys, Bool.and_eq_true, decide_eq_true_eq] at hkeysl
    exact hkeysl.1
  have hnodupr : (right.map Prod.fst).Nodup := by
    rw [distinctKeys, Bool.and_eq_true, decide_eq_true_eq] at hkeysr
    exact hkeysr.1
  -- On entries of one key, the comparison is equality in plain form.
  have hentry : ∀ e ∈ left, ∀ w, find? e.1 right = some w →
      ((if e.1 = "type" then sameKind e.2 w else e.2.coincides w) = true ↔
        plainEntry e = plainEntry (e.1, w)) := by
    intro e he w hw
    rw [plainEntry, plainEntry, Prod.mk.injEq, eq_self, true_and]
    split
    · exact plainKind_eq_iff.symm
    · exact ih e he (e.1, w) (mem_of_find? hw)
  rw [plain_object_of_wrapped?_eq_none hleft, plain_object_of_wrapped?_eq_none hright,
    object.injEq, plainEntries_eq_iff hnodupl hnodupr, coincides, hleft,
    unparen_of_wrapped?_eq_none hright, if_neg (by simp)]
  simp only [Bool.and_eq_true, decide_eq_true_eq, coincideEntries_iff]
  refine and_congr Iff.rfl (forall₂_congr fun e he ↦ forall_congr' fun _ ↦ exists_congr fun w ↦ ?_)
  exact and_congr_right fun hw ↦ hentry e he w hw

theorem array_coincides_iff {left right : List Json}
    (ih : ∀ v ∈ left, ∀ w ∈ right, v.coincides w = true ↔ v.plain = w.plain) :
    (Json.array left).coincides (.array right) = true ↔
      (Json.array left).plain = (Json.array right).plain := by
  rw [plain_array, plain_array, array.injEq, ← forall₂_plain_iff, coincides,
    show (Json.array right).unparen = .array right from rfl]
  simp only [coincideItems_iff]
  induction left generalizing right with
  | nil => cases right <;> simp
  | cons v left ihleft =>
    cases right with
    | nil => simp
    | cons w right =>
      rw [List.forall₂_cons, List.forall₂_cons]
      have hrest := ihleft fun x hx y hy ↦
        ih x (List.mem_cons_of_mem v hx) y (List.mem_cons_of_mem w hy)
      exact and_congr (ih v List.mem_cons_self w List.mem_cons_self) hrest

/-- **The two comparisons agree.** Where keys are distinct, values coincide part by part exactly if
their plain forms are equal. -/
theorem coincides_iff_plain_eq (a b : Json) (ha : a.distinctKeys = true)
    (hb : b.distinctKeys = true) : a.coincides b = true ↔ a.plain = b.plain := by
  -- Both comparisons look through parentheses, so the values may be taken without them.
  have hsize := sizeOf_unparen_le a
  have hunwrappeda := wrapped?_unparen a
  have hunwrappedb := wrapped?_unparen b
  have hkeysa := distinctKeys_unparen ha
  have hkeysb := distinctKeys_unparen hb
  rw [← coincides_unparen_left, ← coincides_unparen_right, ← plain_unparen a, ← plain_unparen b]
  generalize a.unparen = x at *
  generalize b.unparen = y at *
  have hy := unparen_of_wrapped?_eq_none hunwrappedb
  cases x with
  | object left =>
    cases y with
    | object right =>
      refine object_coincides_iff hunwrappeda hunwrappedb hkeysa hkeysb fun e he e' he' ↦ ?_
      have hlt : sizeOf e.2 < sizeOf (Json.object left) :=
        sizeOf_lt_of_mem_children (c := (some e.1, e.2)) (List.mem_map.mpr ⟨e, he, rfl⟩)
      exact coincides_iff_plain_eq e.2 e'.2 (distinctKeys_of_mem hkeysa he)
        (distinctKeys_of_mem hkeysb he')
    | _ =>
      rw [plain_object_of_wrapped?_eq_none hunwrappeda]
      simp [coincides, hunwrappeda, plain, unparen]
  | array left =>
    cases y with
    | array right =>
      refine array_coincides_iff fun v hv w hw ↦ ?_
      have hlt : sizeOf v < sizeOf (Json.array left) :=
        sizeOf_lt_of_mem_children (c := (none, v)) (List.mem_map.mpr ⟨v, hv, rfl⟩)
      exact coincides_iff_plain_eq v w (distinctItems_iff.mp hkeysa v hv)
        (distinctItems_iff.mp hkeysb w hw)
    | object right =>
      rw [plain_object_of_wrapped?_eq_none hunwrappedb]
      simp [coincides, hy, plain]
    | _ => simp [coincides, plain, unparen]
  | number n =>
    cases y with
    | number m => simp [coincides, plain, unparen, unsignedZero_eq_iff]
    | object right =>
      rw [plain_object_of_wrapped?_eq_none hunwrappedb]
      simp [coincides, hy, plain]
    | _ => simp [coincides, plain, unparen]
  | _ =>
    cases y with
    | object right =>
      rw [plain_object_of_wrapped?_eq_none hunwrappedb]
      simp [coincides, hy, plain]
    | _ => simp [coincides, plain, unparen, eq_comm]
termination_by sizeOf a

/-! ## An equivalence relation -/

/-- A value in which no object has two entries of one key. -/
def Keyed : Type := {v : Json // v.distinctKeys = true}

theorem sameNode_eq_coincides (a b : Keyed) : sameNode a.1 b.1 = a.1.coincides b.1 := by
  rw [Bool.eq_iff_iff, sameNode_iff]
  exact (coincides_iff_plain_eq a.1 b.1 a.2 b.2).symm

/-- **Being the same expression is an equivalence relation.** Where keys are distinct it is
reflexive, symmetric and transitive, and it is what the comparison part by part decides. -/
theorem sameNode_equivalence :
    Equivalence (fun a b : Keyed ↦ sameNode a.1 b.1 = true) ∧
      ∀ a b : Keyed, sameNode a.1 b.1 = a.1.coincides b.1 := by
  refine ⟨⟨fun a ↦ ?_, fun {a b} hab ↦ ?_, fun {a b c} hab hbc ↦ ?_⟩, sameNode_eq_coincides⟩
  · exact sameNode_iff.mpr rfl
  · have hplain := sameNode_iff.mp hab
    exact sameNode_iff.mpr hplain.symm
  · have hplain := (sameNode_iff.mp hab).trans (sameNode_iff.mp hbc)
    exact sameNode_iff.mpr hplain

/-- With a repeated key the comparison part by part is not symmetric: `{"a": 1, "a": 1}` coincides
with `{"a": 1, "b": 2}`, and not the other way round. -/
example : let repeated : Json := .object [("a", .ofInt 1), ("a", .ofInt 1)]
    let distinct : Json := .object [("a", .ofInt 1), ("b", .ofInt 2)]
    repeated.coincides distinct = true ∧ distinct.coincides repeated = false := by
  decide +kernel

end Json

end FluentQuery
