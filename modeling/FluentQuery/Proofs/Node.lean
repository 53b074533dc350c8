import FluentQuery.Node.Same

/-!
# Nodes and their parentheses

Stripping parentheses twice is stripping them once, so an accessor that looks through parentheses
reads the same from a node and from the node inside them. Resolution strips a node before it reads
anything, and these equations carry what is known of the node as written over to the stripped one.

The plain form of a node keeps its texts: a node that is the same expression as a text is that text,
once its parentheses are stripped.
-/

namespace FluentQuery.Json

/-! ## Stripping parentheses -/

-- The two recursions of `unparen` and `enclosed?` are followed together: what stands in parentheses
-- is stripped already, so stripping the whole again changes nothing.
mutual

@[simp] theorem unparen_unparen : ∀ v : Json, v.unparen.unparen = v.unparen
  | .null => rfl
  | .bool _ => rfl
  | .number _ => rfl
  | .string _ => rfl
  | .array _ => rfl
  | .object entries => by
    by_cases hkind : kindOf? entries = some Kind.parenthesized
    · cases henclosed : enclosed? entries with
      | none => simp [unparen, hkind, henclosed]
      | some w => simp [unparen, hkind, henclosed, unparen_of_enclosed? entries henclosed]
    · simp [unparen, hkind]

theorem unparen_of_enclosed? : ∀ (entries : List (String × Json)) {w : Json},
    enclosed? entries = some w → w.unparen = w
  | [], w, h => by simp [enclosed?] at h
  | (k, v) :: rest, w, h => by
    rw [enclosed?] at h
    split at h
    · rw [← Option.some.inj h]
      exact unparen_unparen v
    · exact unparen_of_enclosed? rest h

end

/-! ## Accessors -/

@[simp] theorem field?_unparen (v : Json) (name : String) :
    v.unparen.field? name = v.field? name := by
  rw [field?, field?, unparen_unparen]

@[simp] theorem identName?_unparen (v : Json) : v.unparen.identName? = v.identName? := by
  rw [identName?, identName?, unparen_unparen]

@[simp] theorem staticProperty?_unparen (v : Json) :
    v.unparen.staticProperty? = v.staticProperty? := by
  rw [staticProperty?, staticProperty?, unparen_unparen]

/-- A child is stripped when it is taken. -/
theorem unparen_of_field? {v child : Json} {name : String} (h : v.field? name = some child) :
    child.unparen = child := by
  obtain ⟨w, -, rfl⟩ := Option.map_eq_some_iff.mp h
  exact unparen_unparen w

theorem isKind_iff {v : Json} {kind : String} : v.isKind kind = true ↔ v.kind? = some kind := by
  simp [isKind]

theorem isKind_unique {v : Json} {kind kind' : String} (h : v.isKind kind = true)
    (h' : v.isKind kind' = true) : kind = kind' :=
  Option.some.inj ((isKind_iff.mp h).symm.trans (isKind_iff.mp h'))

theorem exists_entries_of_isKind {v : Json} {kind : String} (h : v.isKind kind = true) :
    ∃ entries, v = .object entries := by
  cases v with
  | object entries => exact ⟨entries, rfl⟩
  | _ => cases h

theorem isKind_of_identName? {v : Json} {name : String} (h : v.identName? = some name) :
    v.unparen.isKind Kind.identifier = true := by
  rw [identName?] at h
  split at h
  · assumption
  · cases h

/-! ## Plain forms -/

theorem find?_insertEntry (key name : String) (v : Json) (entries : List (String × Json)) :
    find? name (insertEntry key v entries) = if key = name then some v else find? name entries := by
  induction entries with
  | nil => rfl
  | cons e rest ih =>
    obtain ⟨k, w⟩ := e
    rw [insertEntry]
    split
    · next hlt =>
      rw [find?_cons, find?_cons, ih]
      -- The entry that stays in front has another key than the one put in its place.
      have hne : k ≠ key := by
        rintro rfl
        exact String.lt_irrefl k hlt
      by_cases hk : k = name
      · rw [if_pos hk, if_pos hk, if_neg (hk ▸ hne.symm)]
      · rw [if_neg hk, if_neg hk]
    · rfl

/-- Away from trivia and the kind, an entry of the plain form is the plain form of the entry. -/
theorem find?_plainEntries {name : String} (htrivia : isTrivia name = false) (htype : name ≠ "type")
    (entries : List (String × Json)) :
    find? name (plainEntries entries) = (find? name entries).map plain := by
  induction entries with
  | nil => rfl
  | cons e rest ih =>
    obtain ⟨k, v⟩ := e
    rw [plainEntries, find?_cons]
    by_cases hk : k = name
    · rw [hk, htrivia, if_neg Bool.false_ne_true, if_neg htype, find?_insertEntry, if_pos rfl,
        if_pos rfl, Option.map_some]
    · rw [if_neg hk, ← ih]
      split
      · rfl
      · split <;> rw [find?_insertEntry, if_neg hk]

mutual

theorem unparen_of_plain_eq_string {s : String} : ∀ v : Json, v.plain = .string s →
    v.unparen = .string s
  | .null, h => by simp [plain] at h
  | .bool _, h => by simp [plain] at h
  | .number _, h => by simp [plain] at h
  | .string t, h => h
  | .array _, h => by simp [plain] at h
  | .object entries, h => by
    rw [plain] at h
    split at h
    · next hkind =>
      rw [find?_plainEntries rfl (by decide)] at h
      cases hfind : (find? "expression" entries).map plain with
      | none => simp [hfind] at h
      | some w =>
        rw [hfind, Option.getD_some] at h
        rw [unparen, if_pos hkind, enclosed?_of_plain_eq_string entries (h ▸ hfind),
          Option.getD_some]
    · cases h

theorem enclosed?_of_plain_eq_string {s : String} : ∀ entries : List (String × Json),
    (find? "expression" entries).map plain = some (.string s) →
      enclosed? entries = some (.string s)
  | [], h => by simp at h
  | (k, v) :: rest, h => by
    rw [find?_cons] at h
    rw [enclosed?]
    split
    · next hk =>
      rw [if_pos hk, Option.map_some] at h
      rw [unparen_of_plain_eq_string v (Option.some.inj h)]
    · next hk =>
      rw [if_neg hk] at h
      exact enclosed?_of_plain_eq_string rest h

end

@[simp] theorem sameNode_string_string {s t : String} :
    sameNode (.string s) (.string t) = true ↔ s = t := by
  simp [sameNode_iff, plain]

end FluentQuery.Json
