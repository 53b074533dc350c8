import FluentQuery.Node.Basic
import Mathlib.Data.List.Nodup

/-!
# Positions in a document

A position is the list of places by which a value is reached from the top of a document, where the
items of an array and the entries of an object are counted in their order. The lexicographic order
of positions is then the order of the document: a value comes before what is inside it, and that
before what follows it. One position lies inside another if it continues it.

A value may also be told from a position by its keys, but two entries of one key would have the same
name. Documents have none; `distinctKeys` says so, and is used only where a key must settle what
stands under it.
-/

namespace FluentQuery

/-- The places by which a value is reached from the top of a document. -/
abbrev Position := List Nat

namespace Position

/-- The first position branches off before the second: neither is inside the other, and the first
comes earlier in the document. -/
def LeftOf (p q : Position) : Prop :=
  ∃ (common : Position) (i j : Nat) (r r' : Position),
    p = common ++ i :: r ∧ q = common ++ j :: r' ∧ i < j

theorem lt_append_cons (p : Position) (i : Nat) (r : Position) : p < p ++ i :: r := by
  induction p with
  | nil => exact List.nil_lt_cons i r
  | cons j p ih => exact List.cons_lt_cons_self.mpr ih

/-- What is left of a position stays so, with all that is inside it. -/
theorem LeftOf.append {p q : Position} (h : LeftOf p q) (r r' : Position) :
    LeftOf (p ++ r) (q ++ r') := by
  obtain ⟨common, i, j, s, s', rfl, rfl, hij⟩ := h
  exact ⟨common, i, j, s ++ r, s' ++ r', by simp, by simp, hij⟩

theorem LeftOf.lt {p q : Position} (h : LeftOf p q) : p < q := by
  obtain ⟨common, i, j, r, r', rfl, rfl, hij⟩ := h
  induction common with
  | nil => exact List.cons_lt_cons_iff.mpr (Or.inl hij)
  | cons k common ih => exact List.cons_lt_cons_self.mpr ih

theorem leftOf_sibling (p : Position) {i j : Nat} (h : i < j) : LeftOf (p ++ [i]) (p ++ [j]) :=
  ⟨p, i, j, [], [], rfl, rfl, h⟩

end Position

namespace Json

/-- What stands directly in a value, in order, with its key if it is an entry. -/
def children : Json → List (Option String × Json)
  | .array items => items.map fun v ↦ (none, v)
  | .object entries => entries.map fun e ↦ (some e.1, e.2)
  | _ => []

/-- The value at a position. -/
def at? (v : Json) : Position → Option Json
  | [] => some v
  | i :: rest => (v.children[i]?).bind fun c ↦ c.2.at? rest

theorem at?_cons_eq_some_iff {v w : Json} {i : Nat} {p : Position} :
    v.at? (i :: p) = some w ↔ ∃ c, v.children[i]? = some c ∧ c.2.at? p = some w := by
  rw [at?, Option.bind_eq_some_iff]

theorem at?_append {v w : Json} {p q : Position} (h : v.at? p = some w) :
    v.at? (p ++ q) = w.at? q := by
  induction p generalizing v with
  | nil =>
    cases h
    rfl
  | cons i p ih =>
    obtain ⟨c, hc, hp⟩ := at?_cons_eq_some_iff.mp h
    rw [List.cons_append, at?, hc, Option.bind_some, ih hp]

theorem at?_concat {v w : Json} {p : Position} (h : v.at? p = some w) {i : Nat}
    {c : Option String × Json} (hc : w.children[i]? = some c) : v.at? (p ++ [i]) = some c.2 := by
  rw [at?_append h, at?, hc, Option.bind_some, at?]

/-- A value without anything inside has only itself. -/
theorem eq_nil_of_at? {v w : Json} (h : v.children = []) {p : Position} (hp : v.at? p = some w) :
    p = [] := by
  cases p with
  | nil => rfl
  | cons i p =>
    obtain ⟨c, hc, -⟩ := at?_cons_eq_some_iff.mp hp
    simp [h] at hc

/-! ## Distinct keys -/

mutual

/-- Whether no object in a document has two entries of one key. -/
def distinctKeys : Json → Bool
  | .array items => distinctItems items
  | .object entries => decide (entries.map Prod.fst).Nodup && distinctEntries entries
  | _ => true

/-- Whether no object in some items has two entries of one key. -/
def distinctItems : List Json → Bool
  | [] => true
  | v :: rest => v.distinctKeys && distinctItems rest

/-- Whether no object in some entries has two entries of one key. -/
def distinctEntries : List (String × Json) → Bool
  | [] => true
  | (_, v) :: rest => v.distinctKeys && distinctEntries rest

end

theorem distinctItems_iff {items : List Json} :
    distinctItems items = true ↔ ∀ v ∈ items, v.distinctKeys = true := by
  induction items with
  | nil => simp [distinctItems]
  | cons v rest ih => simp [distinctItems, ih]

theorem distinctEntries_iff {entries : List (String × Json)} :
    distinctEntries entries = true ↔ ∀ e ∈ entries, e.2.distinctKeys = true := by
  induction entries with
  | nil => simp [distinctEntries]
  | cons e rest ih => simp [distinctEntries, ih]

theorem distinctKeys_of_mem_children {v : Json} (h : v.distinctKeys = true)
    {c : Option String × Json} (hc : c ∈ v.children) : c.2.distinctKeys = true := by
  cases v with
  | array items =>
    obtain ⟨w, hw, rfl⟩ := List.mem_map.mp hc
    exact distinctItems_iff.mp h w hw
  | object entries =>
    obtain ⟨e, he, rfl⟩ := List.mem_map.mp hc
    rw [distinctKeys, Bool.and_eq_true] at h
    exact distinctEntries_iff.mp h.2 e he
  | _ => simp [children] at hc

theorem distinctKeys_of_at? {v w : Json} (h : v.distinctKeys = true) {p : Position}
    (hp : v.at? p = some w) : w.distinctKeys = true := by
  induction p generalizing v with
  | nil =>
    cases hp
    exact h
  | cons i p ih =>
    obtain ⟨c, hc, hp⟩ := at?_cons_eq_some_iff.mp hp
    exact ih (distinctKeys_of_mem_children h (List.mem_of_getElem? hc)) hp

/-- An entry of an object without repeated keys is found by its key. -/
theorem find?_of_mem_nodup {entries : List (String × Json)} {key : String} {v : Json}
    (hkeys : (entries.map Prod.fst).Nodup) (h : (key, v) ∈ entries) :
    find? key entries = some v := by
  induction entries with
  | nil => exact absurd h List.not_mem_nil
  | cons e rest ih =>
    obtain ⟨k, w⟩ := e
    rw [List.map_cons, List.nodup_cons] at hkeys
    rw [find?_cons]
    rcases List.mem_cons.mp h with heq | hrest
    · cases heq
      rw [if_pos rfl]
    · have hne : k ≠ key := by
        rintro rfl
        exact hkeys.1 (List.mem_map.mpr ⟨_, hrest, rfl⟩)
      rw [if_neg hne, ih hkeys.2 hrest]

/-! ## What stands in a value -/

/-- A value is found in another at some position. -/
def Holds (v w : Json) : Prop := ∃ p, v.at? p = some w

theorem Holds.refl (v : Json) : v.Holds v := ⟨[], rfl⟩

theorem Holds.trans {u v w : Json} (h : u.Holds v) (h' : v.Holds w) : u.Holds w := by
  obtain ⟨p, hp⟩ := h
  obtain ⟨q, hq⟩ := h'
  exact ⟨p ++ q, (at?_append hp).trans hq⟩

theorem holds_of_mem_children {v : Json} {c : Option String × Json} (hc : c ∈ v.children) :
    v.Holds c.2 := by
  obtain ⟨i, hi⟩ := List.getElem?_of_mem hc
  exact ⟨[i], at?_cons_eq_some_iff.mpr ⟨c, hi, rfl⟩⟩

theorem holds_of_mem_array {items : List Json} {v : Json} (hv : v ∈ items) :
    (Json.array items).Holds v :=
  holds_of_mem_children (c := (none, v)) (List.mem_map.mpr ⟨v, hv, rfl⟩)

theorem holds_of_mem_object {entries : List (String × Json)} {e : String × Json}
    (he : e ∈ entries) : (Json.object entries).Holds e.2 :=
  holds_of_mem_children (c := (some e.1, e.2)) (List.mem_map.mpr ⟨e, he, rfl⟩)

mutual

/-- Whether a test holds of a value and of all that stands in it. -/
def everywhere (test : Json → Bool) : Json → Bool
  | .array items => test (.array items) && everywhereItems test items
  | .object entries => test (.object entries) && everywhereEntries test entries
  | v => test v

/-- Whether a test holds of some items and of all that stands in them. -/
def everywhereItems (test : Json → Bool) : List Json → Bool
  | [] => true
  | v :: rest => v.everywhere test && everywhereItems test rest

/-- Whether a test holds of the values of some entries and of all that stands in them. -/
def everywhereEntries (test : Json → Bool) : List (String × Json) → Bool
  | [] => true
  | (_, v) :: rest => v.everywhere test && everywhereEntries test rest

end

variable {test : Json → Bool}

theorem everywhereItems_iff {items : List Json} :
    everywhereItems test items = true ↔ ∀ v ∈ items, v.everywhere test = true := by
  induction items with
  | nil => simp [everywhereItems]
  | cons v rest ih => simp [everywhereItems, ih]

theorem everywhereEntries_iff {entries : List (String × Json)} :
    everywhereEntries test entries = true ↔ ∀ e ∈ entries, e.2.everywhere test = true := by
  induction entries with
  | nil => simp [everywhereEntries]
  | cons e rest ih => simp [everywhereEntries, ih]

theorem everywhere_iff_children {v : Json} :
    v.everywhere test = true ↔
      test v = true ∧ ∀ c ∈ v.children, c.2.everywhere test = true := by
  cases v with
  | array items =>
    rw [everywhere, Bool.and_eq_true, everywhereItems_iff, children, List.forall_mem_map]
  | object entries =>
    rw [everywhere, Bool.and_eq_true, everywhereEntries_iff, children, List.forall_mem_map]
  | _ => simp [everywhere, children]

theorem sizeOf_lt_of_mem_children {v : Json} {c : Option String × Json} (hc : c ∈ v.children) :
    sizeOf c.2 < sizeOf v := by
  cases v with
  | array items =>
    obtain ⟨w, hw, rfl⟩ := List.mem_map.mp hc
    have hmem := List.sizeOf_lt_of_mem hw
    simp only [array.sizeOf_spec]
    omega
  | object entries =>
    obtain ⟨e, he, rfl⟩ := List.mem_map.mp hc
    have hmem := List.sizeOf_lt_of_mem he
    obtain ⟨key, w⟩ := e
    simp only [Prod.mk.sizeOf_spec, object.sizeOf_spec] at hmem ⊢
    omega
  | _ => simp [children] at hc

theorem everywhere_iff {v : Json} :
    v.everywhere test = true ↔ ∀ w, v.Holds w → test w = true := by
  rw [everywhere_iff_children]
  constructor
  · rintro ⟨hv, hchildren⟩ w ⟨p, hp⟩
    cases p with
    | nil =>
      cases hp
      exact hv
    | cons i p =>
      obtain ⟨c, hc, hp⟩ := at?_cons_eq_some_iff.mp hp
      have hmem := List.mem_of_getElem? hc
      have hlt := sizeOf_lt_of_mem_children hmem
      exact everywhere_iff.mp (hchildren c hmem) w ⟨p, hp⟩
  · intro h
    refine ⟨h v (.refl v), fun c hc ↦ ?_⟩
    have hlt := sizeOf_lt_of_mem_children hc
    exact everywhere_iff.mpr fun w hw ↦ h w ((holds_of_mem_children hc).trans hw)
termination_by sizeOf v

end Json

end FluentQuery
