import FluentQuery.Proofs.Node

/-!
# What can be read from a plain form

The plain form of a node has no parentheses, no trivia and one spelling of each kind, and it is by
plain forms that nodes are compared. The accessors look through parentheses as well, but one at a
time and each in its own way. Here they are shown to agree: an accessor reads from a node what it
reads from the plain form of the node, up to plain forms.

Most of this holds of any value. The exception are the views of texts, numbers and lists, which do
not look through parentheses: `(3)` is no number, while its plain form is one. Parsers put only
nodes into parentheses, and `encloses` says so of a whole tree. -/

namespace FluentQuery

theorem canonicalKind_canonicalKind (kind : String) :
    canonicalKind (canonicalKind kind) = canonicalKind kind := by
  -- A kind with another spelling goes to one of four common names, and these stay.
  have hcases : canonicalKind kind = kind ∨
      canonicalKind kind ∈ [Kind.literal, Kind.property, Kind.member, Kind.call] := by
    grind [canonicalKind]
  rcases hcases with hkind | hkind
  · rw [hkind, hkind]
  · simp only [List.mem_cons, List.not_mem_nil, or_false] at hkind
    rcases hkind with hkind | hkind | hkind | hkind <;> rw [hkind] <;> rfl

namespace Json

/-! ## One pair of parentheses -/

/-- What is in the outermost parentheses of a value, if it has any. -/
def wrapped? : Json → Option Json
  | .object entries =>
    if kindOf? entries = some Kind.parenthesized then find? "expression" entries else none
  | _ => none

theorem sizeOf_lt_of_find? {name : String} {entries : List (String × Json)} {w : Json}
    (h : find? name entries = some w) : sizeOf w < sizeOf (Json.object entries) := by
  have hmem := List.sizeOf_lt_of_mem (mem_of_find? h)
  simp only [Prod.mk.sizeOf_spec, object.sizeOf_spec] at hmem ⊢
  omega

theorem wrapped?_eq_some_iff {v w : Json} : v.wrapped? = some w ↔ ∃ entries, v = .object entries ∧
    kindOf? entries = some Kind.parenthesized ∧ find? "expression" entries = some w := by
  cases v <;> simp [wrapped?]

/-- Induction on the number of parentheses around a value. -/
theorem wrapped_induction {P : Json → Prop} (h : ∀ v, (∀ w, v.wrapped? = some w → P w) → P v)
    (v : Json) : P v := by
  refine h v fun w hw ↦ ?_
  obtain ⟨entries, rfl, -, hfind⟩ := wrapped?_eq_some_iff.mp hw
  have hlt := sizeOf_lt_of_find? hfind
  exact wrapped_induction h w
termination_by sizeOf v

theorem unparen_of_wrapped? {v w : Json} (h : v.wrapped? = some w) : v.unparen = w.unparen := by
  obtain ⟨entries, rfl, hkind, hfind⟩ := wrapped?_eq_some_iff.mp h
  rw [unparen, if_pos hkind, enclosed?_eq, hfind]
  rfl

theorem unparen_of_wrapped?_eq_none {v : Json} (h : v.wrapped? = none) : v.unparen = v := by
  cases v with
  | object entries =>
    rw [unparen]
    split
    · next hkind =>
      rw [wrapped?, if_pos hkind] at h
      rw [enclosed?_eq, h]
      rfl
    · rfl
  | _ => rfl

/-- A node of another kind than parentheses stands without them. -/
theorem unparen_of_isKind {v : Json} {kind : String} (h : v.isKind kind = true)
    (hne : kind ≠ Kind.parenthesized) : v.unparen = v := by
  refine unparen_of_wrapped?_eq_none ?_
  cases hwrapped : v.wrapped? with
  | none => rfl
  | some w =>
    obtain ⟨entries, rfl, hkind, -⟩ := wrapped?_eq_some_iff.mp hwrapped
    exact absurd (Option.some.inj ((isKind_iff.mp h).symm.trans hkind)) hne

theorem plain_of_wrapped? {v w : Json} (h : v.wrapped? = some w) : v.plain = w.plain := by
  obtain ⟨entries, rfl, hkind, hfind⟩ := wrapped?_eq_some_iff.mp h
  rw [plain, if_pos hkind, find?_plainEntries rfl (by decide), hfind]
  rfl

theorem plain_object_of_wrapped?_eq_none {entries : List (String × Json)}
    (h : (Json.object entries).wrapped? = none) :
    (Json.object entries).plain = .object (plainEntries entries) := by
  rw [plain]
  split
  · next hkind =>
    rw [wrapped?, if_pos hkind] at h
    rw [find?_plainEntries rfl (by decide), h]
    rfl
  · rfl

/-! ## Nodes and their plain forms -/

@[simp] theorem plain_unparen (v : Json) : v.unparen.plain = v.plain := by
  induction v using wrapped_induction with
  | h v ih =>
    cases hwrapped : v.wrapped? with
    | none => rw [unparen_of_wrapped?_eq_none hwrapped]
    | some w => rw [unparen_of_wrapped? hwrapped, plain_of_wrapped? hwrapped, ih w hwrapped]

theorem find?_type_plainEntries (entries : List (String × Json)) :
    find? "type" (plainEntries entries) = (find? "type" entries).map plainKind := by
  induction entries with
  | nil => rfl
  | cons e rest ih =>
    obtain ⟨k, v⟩ := e
    rw [plainEntries, find?_cons]
    by_cases hk : k = "type"
    · rw [hk, if_neg (by decide), if_pos rfl, find?_insertEntry, if_pos rfl, if_pos rfl,
        Option.map_some]
    · rw [if_neg hk, if_neg hk, ← ih]
      split
      · rfl
      · rw [find?_insertEntry, if_neg hk]

/-- The common name of a kind names the same kind. -/
theorem kindOf?_of_find?_type {entries entries' : List (String × Json)}
    (h : find? "type" entries' = (find? "type" entries).map plainKind) :
    kindOf? entries' = kindOf? entries := by
  rw [kindOf?, kindOf?, h]
  cases find? "type" entries with
  | none => rfl
  | some v =>
    cases v with
    | string kind => exact congrArg some (canonicalKind_canonicalKind kind)
    | _ => rfl

@[simp] theorem kindOf?_plainEntries (entries : List (String × Json)) :
    kindOf? (plainEntries entries) = kindOf? entries :=
  kindOf?_of_find?_type (find?_type_plainEntries entries)

/-- The plain form has the kind of the node inside the parentheses. -/
theorem kind?_plain (v : Json) : v.plain.kind? = v.unparen.kind? := by
  induction v using wrapped_induction with
  | h v ih =>
    cases hwrapped : v.wrapped? with
    | some w => rw [unparen_of_wrapped? hwrapped, plain_of_wrapped? hwrapped, ih w hwrapped]
    | none =>
      rw [unparen_of_wrapped?_eq_none hwrapped]
      cases v with
      | object entries =>
        rw [plain_object_of_wrapped?_eq_none hwrapped]
        exact kindOf?_plainEntries entries
      | _ => rfl

/-- Away from trivia and the kind, an entry of the plain form is the plain form of the entry of the
node inside the parentheses. -/
theorem get?_plain {name : String} (htrivia : isTrivia name = false) (htype : name ≠ "type")
    (v : Json) : v.plain.get? name = (v.unparen.get? name).map plain := by
  induction v using wrapped_induction with
  | h v ih =>
    cases hwrapped : v.wrapped? with
    | some w => rw [unparen_of_wrapped? hwrapped, plain_of_wrapped? hwrapped, ih w hwrapped]
    | none =>
      rw [unparen_of_wrapped?_eq_none hwrapped]
      cases v with
      | object entries =>
        rw [plain_object_of_wrapped?_eq_none hwrapped]
        exact find?_plainEntries htrivia htype entries
      | _ => rfl

/-- A plain form has no parentheses. -/
@[simp] theorem unparen_plain (v : Json) : v.plain.unparen = v.plain := by
  induction v using wrapped_induction with
  | h v ih =>
    cases hwrapped : v.wrapped? with
    | some w => rw [plain_of_wrapped? hwrapped, ih w hwrapped]
    | none =>
      cases v with
      | object entries =>
        refine unparen_of_wrapped?_eq_none ?_
        rw [plain_object_of_wrapped?_eq_none hwrapped, wrapped?, kindOf?_plainEntries,
          find?_plainEntries rfl (by decide)]
        rw [wrapped?] at hwrapped
        split at hwrapped
        · next hkind => rw [if_pos hkind, hwrapped, Option.map_none]
        · next hkind => rw [if_neg hkind]
      | _ => rfl

theorem field?_plain {name : String} (htrivia : isTrivia name = false) (htype : name ≠ "type")
    (v : Json) : v.plain.field? name = (v.field? name).map plain := by
  rw [field?, field?, unparen_plain, get?_plain htrivia htype, Option.map_map, Option.map_map]
  congr 1
  funext w
  exact (unparen_plain w).trans (plain_unparen w).symm

/-! ## What parentheses enclose -/

mutual

/-- Whether a test holds of what each pair of parentheses in a value encloses, trivia apart. -/
def encloses (test : Option Json → Bool) : Json → Bool
  | .null => true
  | .bool _ => true
  | .number _ => true
  | .string _ => true
  | .array items => enclosesItems test items
  | .object entries =>
    (kindOf? entries != some Kind.parenthesized || test (find? "expression" entries)) &&
      enclosesEntries test entries

/-- Whether a test holds of what each pair of parentheses in some items encloses. -/
def enclosesItems (test : Option Json → Bool) : List Json → Bool
  | [] => true
  | v :: rest => v.encloses test && enclosesItems test rest

/-- Whether a test holds of what each pair of parentheses in some entries encloses. -/
def enclosesEntries (test : Option Json → Bool) : List (String × Json) → Bool
  | [] => true
  | (k, v) :: rest => (isTrivia k || v.encloses test) && enclosesEntries test rest

end

variable {test : Option Json → Bool}

theorem enclosesItems_iff {items : List Json} :
    enclosesItems test items = true ↔ ∀ v ∈ items, v.encloses test = true := by
  induction items with
  | nil => simp [enclosesItems]
  | cons v rest ih => rw [enclosesItems, Bool.and_eq_true, ih, List.forall_mem_cons]

theorem enclosesEntries_iff {entries : List (String × Json)} :
    enclosesEntries test entries = true ↔
      ∀ e ∈ entries, isTrivia e.1 = false → e.2.encloses test = true := by
  induction entries with
  | nil => simp [enclosesEntries]
  | cons e rest ih =>
    obtain ⟨k, v⟩ := e
    rw [enclosesEntries, Bool.and_eq_true, ih, List.forall_mem_cons]
    cases isTrivia k <;> simp

theorem encloses_of_mem {items : List Json} (h : (Json.array items).encloses test = true) {v : Json}
    (hv : v ∈ items) : v.encloses test = true :=
  enclosesItems_iff.mp h v hv

theorem encloses_of_find? {entries : List (String × Json)}
    (h : (Json.object entries).encloses test = true) {name : String}
    (htrivia : isTrivia name = false) {w : Json} (hw : find? name entries = some w) :
    w.encloses test = true := by
  rw [encloses, Bool.and_eq_true] at h
  exact enclosesEntries_iff.mp h.2 _ (mem_of_find? hw) htrivia

theorem encloses_of_get? {v : Json} (h : v.encloses test = true) {name : String}
    (htrivia : isTrivia name = false) {w : Json} (hw : v.get? name = some w) :
    w.encloses test = true := by
  cases v with
  | object entries => exact encloses_of_find? h htrivia hw
  | _ => cases hw

theorem test_of_wrapped? {v w : Json} (h : v.encloses test = true) (hw : v.wrapped? = some w) :
    test (some w) = true := by
  obtain ⟨entries, rfl, hkind, hfind⟩ := wrapped?_eq_some_iff.mp hw
  rw [encloses, Bool.and_eq_true, hkind, hfind, bne_self_eq_false, Bool.false_or] at h
  exact h.1

theorem encloses_of_wrapped? {v w : Json} (h : v.encloses test = true)
    (hw : v.wrapped? = some w) : w.encloses test = true := by
  obtain ⟨entries, rfl, -, hfind⟩ := wrapped?_eq_some_iff.mp hw
  exact encloses_of_find? h rfl hfind

theorem encloses_unparen {v : Json} (h : v.encloses test = true) :
    v.unparen.encloses test = true := by
  induction v using wrapped_induction with
  | h v ih =>
    cases hwrapped : v.wrapped? with
    | none => rwa [unparen_of_wrapped?_eq_none hwrapped]
    | some w =>
      rw [unparen_of_wrapped? hwrapped]
      exact ih w hwrapped (encloses_of_wrapped? h hwrapped)

theorem encloses_of_field? {v child : Json} (h : v.encloses test = true) {name : String}
    (htrivia : isTrivia name = false) (hchild : v.field? name = some child) :
    child.encloses test = true := by
  obtain ⟨w, hw, rfl⟩ := Option.map_eq_some_iff.mp hchild
  exact encloses_unparen (encloses_of_get? (encloses_unparen h) htrivia hw)

/-- A node of a kind that is never put into parentheses stands without them. -/
theorem isKind_of_unparen {v : Json} {kind : String} (h : v.encloses test = true)
    (htest : ∀ w, test (some w) = true → w.isKind kind = false)
    (hkind : v.unparen.isKind kind = true) : v.isKind kind = true := by
  -- Of the values in parentheses, the innermost one has the kind.
  have hinner : ∀ w, test (some w) = true → w.encloses test = true →
      ¬w.unparen.isKind kind = true := by
    intro w
    induction w using wrapped_induction with
    | h w ih =>
      intro hw hencloses hkind
      cases hwrapped : w.wrapped? with
      | none =>
        rw [unparen_of_wrapped?_eq_none hwrapped, htest w hw] at hkind
        cases hkind
      | some u =>
        rw [unparen_of_wrapped? hwrapped] at hkind
        exact ih u hwrapped (test_of_wrapped? hencloses hwrapped)
          (encloses_of_wrapped? hencloses hwrapped) hkind
  cases hwrapped : v.wrapped? with
  | none => rwa [unparen_of_wrapped?_eq_none hwrapped] at hkind
  | some w =>
    rw [unparen_of_wrapped? hwrapped] at hkind
    exact absurd hkind (hinner w (test_of_wrapped? h hwrapped) (encloses_of_wrapped? h hwrapped))

end Json

/-! ## Where only nodes are in parentheses -/

/-- Optional values that a function takes to the same are both there or both missing. -/
theorem rel_of_map_eq {α β : Type} {f : α → β} {x y : Option α} (h : x.map f = y.map f) :
    Option.Rel (fun a b ↦ f a = f b) x y := by
  cases x with
  | none =>
    cases y with
    | none => exact .none
    | some b => cases h
  | some a =>
    cases y with
    | none => cases h
    | some b => exact .some (Option.some.inj h)

/-- A test of what is in parentheses that only objects pass. -/
structure Enclosure where
  test : Option Json → Bool
  object : ∀ w, test w = true → ∃ entries, w = some (.object entries)

namespace Binary64

@[simp] theorem unsignedZero_unsignedZero (x : Binary64) :
    x.unsignedZero.unsignedZero = x.unsignedZero := by
  by_cases h : x.units = 0 <;> simp [unsignedZero, h]

theorem unsignedZero_neg (x : Binary64) :
    x.unsignedZero.neg.unsignedZero = x.neg.unsignedZero := by
  by_cases h : x.units = 0 <;> simp [unsignedZero, neg, h]

end Binary64

namespace Json

variable {e : Enclosure} {v : Json}

theorem plainItems_eq_map (items : List Json) : plainItems items = items.map plain := by
  induction items with
  | nil => rfl
  | cons v rest ih => rw [plainItems, ih, List.map_cons]

/-- The plain form of an object is an object, also in parentheses. -/
theorem exists_plain_object {entries : List (String × Json)}
    (h : (Json.object entries).encloses e.test = true) :
    ∃ entries', (Json.object entries).plain = .object entries' := by
  obtain ⟨w, hw⟩ : ∃ w, w = Json.object entries := ⟨_, rfl⟩
  rw [← hw] at h ⊢
  induction w using wrapped_induction generalizing entries with
  | h w ih =>
    cases hwrapped : w.wrapped? with
    | none =>
      subst hw
      exact ⟨_, plain_object_of_wrapped?_eq_none hwrapped⟩
    | some u =>
      rw [plain_of_wrapped? hwrapped]
      obtain ⟨inner, hinner⟩ := e.object _ (test_of_wrapped? h hwrapped)
      exact ih u hwrapped (encloses_of_wrapped? h hwrapped) (Option.some.inj hinner)

theorem asString?_plain (h : v.encloses e.test = true) : v.plain.asString? = v.asString? := by
  cases v with
  | object entries =>
    obtain ⟨entries', hplain⟩ := exists_plain_object h
    rw [hplain]
    rfl
  | _ => rfl

theorem asBool?_plain (h : v.encloses e.test = true) : v.plain.asBool? = v.asBool? := by
  cases v with
  | object entries =>
    obtain ⟨entries', hplain⟩ := exists_plain_object h
    rw [hplain]
    rfl
  | _ => rfl

theorem asArray?_plain (h : v.encloses e.test = true) :
    v.plain.asArray? = v.asArray?.map (List.map plain) := by
  cases v with
  | object entries =>
    obtain ⟨entries', hplain⟩ := exists_plain_object h
    rw [hplain]
    rfl
  | array items =>
    rw [plain, plainItems_eq_map]
    rfl
  | _ => rfl

theorem asBinary64?_plain (h : v.encloses e.test = true) :
    v.plain.asBinary64? = v.asBinary64?.map Binary64.unsignedZero := by
  cases v with
  | object entries =>
    obtain ⟨entries', hplain⟩ := exists_plain_object h
    rw [hplain]
    rfl
  | _ => rfl

theorem plain_eq_null_iff (h : v.encloses e.test = true) : v.plain = .null ↔ v = .null := by
  cases v with
  | object entries =>
    obtain ⟨entries', hplain⟩ := exists_plain_object h
    rw [hplain]
    simp
  | null => simp [plain]
  | _ => simp [plain]

/-- What a view reads from an entry of the node is what it reads from the entry of the plain form.
-/
theorem bind_get?_plain {α : Type} {view : Json → Option α}
    (hview : ∀ w : Json, w.encloses e.test = true → view w.plain = view w)
    (h : v.encloses e.test = true) {name : String} (htrivia : isTrivia name = false)
    (htype : name ≠ "type") : (v.plain.get? name).bind view = (v.unparen.get? name).bind view := by
  rw [get?_plain htrivia htype]
  cases hget : v.unparen.get? name with
  | none => rfl
  | some w => exact hview w (encloses_of_get? (encloses_unparen h) htrivia hget)

theorem isKind_plain (v : Json) (kind : String) : v.plain.isKind kind = v.unparen.isKind kind := by
  rw [isKind, isKind, kind?_plain]

theorem identName?_plain (h : v.encloses e.test = true) : v.plain.identName? = v.identName? := by
  rw [identName?, identName?, unparen_plain, isKind_plain,
    bind_get?_plain (fun _ ↦ asString?_plain) h rfl (by decide)]

theorem string?_plain (h : v.encloses e.test = true) : v.plain.string? = v.string? := by
  rw [string?, string?, unparen_plain, isKind_plain,
    bind_get?_plain (fun _ ↦ asString?_plain) h rfl (by decide)]

theorem isComputed_plain (h : v.encloses e.test = true) :
    v.plain.isComputed = v.unparen.isComputed := by
  rw [isComputed, isComputed, bind_get?_plain (fun _ ↦ asBool?_plain) h rfl (by decide)]

theorem keyName?_plain (computed : Bool) (h : v.encloses e.test = true) :
    keyName? computed v.plain = keyName? computed v := by
  rw [keyName?, keyName?, string?_plain h, identName?_plain h]

theorem staticProperty?_plain (h : v.encloses e.test = true) :
    v.plain.staticProperty? = v.staticProperty? := by
  have hkey : ∀ name computed, isTrivia name = false → name ≠ "type" →
      (v.plain.field? name).bind (keyName? computed) =
        (v.unparen.field? name).bind (keyName? computed) := by
    intro name computed htrivia htype
    rw [field?_plain htrivia htype, field?_unparen]
    cases hfield : v.field? name with
    | none => rfl
    | some w => exact keyName?_plain computed (encloses_of_field? h htrivia hfield)
  rw [staticProperty?, staticProperty?, unparen_plain]
  simp only [isKind_plain, isComputed_plain h, hkey "property" _ rfl (by decide),
    hkey "key" _ rfl (by decide)]

/-! ### Numbers -/

theorem numberAt?_eq (key : String) (entries : List (String × Json)) :
    numberAt? key entries = (find? key entries).bind number? := by
  induction entries with
  | nil => rfl
  | cons x rest ih =>
    obtain ⟨k, v⟩ := x
    by_cases hk : k = key <;> simp [numberAt?, find?_cons, hk, ih]

theorem number?_of_wrapped? {w : Json} (h : v.wrapped? = some w) : v.number? = w.number? := by
  obtain ⟨entries, rfl, hkind, hfind⟩ := wrapped?_eq_some_iff.mp h
  rw [number?, if_pos hkind, numberAt?_eq, hfind]
  rfl

theorem number?_unparen (v : Json) : v.unparen.number? = v.number? := by
  induction v using wrapped_induction with
  | h v ih =>
    cases hwrapped : v.wrapped? with
    | none => rw [unparen_of_wrapped?_eq_none hwrapped]
    | some w => rw [unparen_of_wrapped? hwrapped, number?_of_wrapped? hwrapped, ih w hwrapped]

theorem map_signed? (operator : Option String) (x : Binary64) :
    (signed? operator x.unsignedZero).map Binary64.unsignedZero =
      (signed? operator x).map Binary64.unsignedZero := by
  rw [signed?, signed?]
  split
  · exact congrArg some x.unsignedZero_neg
  · split
    · exact congrArg some x.unsignedZero_unsignedZero
    · rfl

theorem map_bind_signed? (operator : Option String) {x y : Option Binary64}
    (h : x.map Binary64.unsignedZero = y.map Binary64.unsignedZero) :
    (x.bind (signed? operator)).map Binary64.unsignedZero =
      (y.bind (signed? operator)).map Binary64.unsignedZero := by
  cases rel_of_map_eq h with
  | none => rfl
  | @some a b hab => rw [Option.bind_some, Option.bind_some, ← map_signed?, hab, map_signed?]

/-- Up to the sign of zero, the plain form has the same number. -/
theorem number?_plain (v : Json) (h : v.encloses e.test = true) :
    v.plain.number?.map Binary64.unsignedZero = v.number?.map Binary64.unsignedZero := by
  cases hwrapped : v.wrapped? with
  | some w =>
    obtain ⟨entries, rfl, -, hfind⟩ := wrapped?_eq_some_iff.mp hwrapped
    have hlt := sizeOf_lt_of_find? hfind
    rw [plain_of_wrapped? hwrapped, number?_of_wrapped? hwrapped]
    exact number?_plain w (encloses_of_wrapped? h hwrapped)
  | none =>
    cases v with
    | object entries =>
      rw [plain_object_of_wrapped?_eq_none hwrapped, number?, number?, kindOf?_plainEntries]
      simp only [numberAt?_eq]
      split
      · next hkind =>
        rw [wrapped?, if_pos hkind] at hwrapped
        rw [find?_plainEntries rfl (by decide), hwrapped]
        rfl
      · split
        · rw [find?_plainEntries rfl (by decide)]
          cases hfind : find? "value" entries with
          | none => rfl
          | some w =>
            rw [Option.map_some, Option.bind_some, Option.bind_some,
              asBinary64?_plain (encloses_of_find? h rfl hfind)]
            cases w.asBinary64? <;> simp
        · split
          · have hoperator : (find? "operator" (plainEntries entries)).bind asString? =
                (find? "operator" entries).bind asString? := by
              rw [find?_plainEntries rfl (by decide)]
              cases hfind : find? "operator" entries with
              | none => rfl
              | some w => exact asString?_plain (encloses_of_find? h rfl hfind)
            rw [hoperator]
            refine map_bind_signed? _ ?_
            rw [find?_plainEntries rfl (by decide)]
            cases hfind : find? "argument" entries with
            | none => rfl
            | some w =>
              have hlt := sizeOf_lt_of_find? hfind
              exact number?_plain w (encloses_of_find? h rfl hfind)
          · rfl
    | _ => rfl
termination_by sizeOf v

end Json

end FluentQuery
