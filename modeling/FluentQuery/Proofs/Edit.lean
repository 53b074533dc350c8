import FluentQuery.Proofs.RecognizeAlike
import FluentQuery.Proofs.Survey

/-!
# Edits that recognition does not see

Positions, comments, parentheses and the spelling of kinds do not show in what is recognized: a tree
may be edited in these respects, any number of times and anywhere, and the analysis gives sites with
the same commands, in the same order, or fails in the same way.

The edits are not followed one by one. Between two trees in which parentheses enclose only what they
may, there can be others where they do not, and there recognition does see them. Instead both trees
are compared with their *bare* form, which no edit changes: without trivia, without pairs of
parentheses, with kinds under their common names, but, unlike the plain form, with all entries in
their order. The order matters, since a program is visited in it.

## Main definitions

* `Edit`: one edit.
* `Json.bare`: what no edit changes.

## Main results

* `Program.agree_visit_bare`: a visit finds in a value what it finds in the bare form.
* `Program.analyze_edited`: edits do not change what an analysis gives.
-/

namespace FluentQuery

/-! ## Edits -/

/-- The entries of an object, without trivia. -/
def properEntries (entries : List (String × Json)) : List (String × Json) :=
  entries.filter fun entry ↦ !isTrivia entry.1

theorem properEntries_cons (key : String) (v : Json) (rest : List (String × Json)) :
    properEntries ((key, v) :: rest) =
      if isTrivia key then properEntries rest else (key, v) :: properEntries rest := by
  rw [properEntries, List.filter_cons]
  cases isTrivia key <;> rfl

theorem properEntries_append (xs ys : List (String × Json)) :
    properEntries (xs ++ ys) = properEntries xs ++ properEntries ys :=
  List.filter_append xs ys

/-- The entries are those of a pair of parentheses around a value, and trivia. -/
def Parenthesizes (entries : List (String × Json)) (v : Json) : Prop :=
  properEntries entries = [("type", .string Kind.parenthesized), ("expression", v)] ∨
    properEntries entries = [("expression", v), ("type", .string Kind.parenthesized)]

/-- One edit of a tree that does not concern what it means. Read from right to left, the first two
take away trivia and parentheses. -/
inductive Edit : Json → Json → Prop
  /-- Add an entry of trivia. -/
  | trivia (before after : List (String × Json)) (key : String) (v : Json)
      (h : isTrivia key = true) :
      Edit (.object (before ++ after)) (.object (before ++ (key, v) :: after))
  /-- Put a node into parentheses. -/
  | parentheses {v : Json} {entries : List (String × Json)} (hnode : v.kind?.isSome = true)
      (h : Parenthesizes entries v) : Edit v (.object entries)
  /-- Spell a kind differently. -/
  | kind (before after : List (String × Json)) {kind kind' : String}
      (h : canonicalKind kind = canonicalKind kind') :
      Edit (.object (before ++ ("type", .string kind) :: after))
        (.object (before ++ ("type", .string kind') :: after))
  /-- Edit an item of a list. -/
  | item (before after : List Json) {v w : Json} (h : Edit v w) :
      Edit (.array (before ++ v :: after)) (.array (before ++ w :: after))
  /-- Edit the value of an entry. -/
  | entry (before after : List (String × Json)) (key : String) {v w : Json} (h : Edit v w) :
      Edit (.object (before ++ (key, v) :: after)) (.object (before ++ (key, w) :: after))

/-! ## Bare forms -/

namespace Json

/-- Whether entries without trivia are those of a pair of parentheses. -/
def isWrapper (entries : List (String × Json)) : Bool :=
  kindOf? entries == some Kind.parenthesized &&
    (entries.map Prod.fst == ["type", "expression"] ||
      entries.map Prod.fst == ["expression", "type"])

/-- The object with the given entries; what is inside it, if it is a pair of parentheses. -/
def unwrapped (entries : List (String × Json)) : Json :=
  if isWrapper entries then (find? "expression" entries).getD (.object entries)
  else .object entries

mutual

/-- A value without trivia and without pairs of parentheses, with kinds under their common names.
Parentheses that have other entries stay. -/
def bare : Json → Json
  | .null => .null
  | .bool b => .bool b
  | .number n => .number n
  | .string s => .string s
  | .array items => .array (bareItems items)
  | .object entries => unwrapped (bareEntries entries)

/-- The bare forms of items. -/
def bareItems : List Json → List Json
  | [] => []
  | v :: rest => v.bare :: bareItems rest

/-- The bare forms of entries, in their order. -/
def bareEntries : List (String × Json) → List (String × Json)
  | [] => []
  | (key, v) :: rest =>
    if isTrivia key then bareEntries rest
    else if key = "type" then (key, plainKind v) :: bareEntries rest
    else (key, v.bare) :: bareEntries rest

end

/-- The bare form of one entry. -/
def bareEntry (entry : String × Json) : String × Json :=
  (entry.1, if entry.1 = "type" then plainKind entry.2 else entry.2.bare)

theorem bareItems_eq_map (items : List Json) : bareItems items = items.map bare := by
  induction items with
  | nil => rfl
  | cons v rest ih => rw [bareItems, ih, List.map_cons]

theorem bareEntries_eq_map (entries : List (String × Json)) :
    bareEntries entries = (properEntries entries).map bareEntry := by
  induction entries with
  | nil => rfl
  | cons entry rest ih =>
    obtain ⟨key, v⟩ := entry
    rw [bareEntries, properEntries_cons, ih]
    split
    · rfl
    · rw [List.map_cons, bareEntry]
      split <;> rfl

theorem isWrapper_cases {entries : List (String × Json)} (h : isWrapper entries = true) :
    ∃ kind v, entries = [("type", kind), ("expression", v)] ∨
      entries = [("expression", v), ("type", kind)] := by
  rw [isWrapper, Bool.and_eq_true, Bool.or_eq_true, beq_iff_eq, beq_iff_eq, beq_iff_eq] at h
  obtain ⟨-, hkeys⟩ := h
  obtain ⟨⟨k, v⟩, ⟨k', v'⟩, rfl⟩ : ∃ x y, entries = [x, y] := by
    refine List.length_eq_two.mp ?_
    rcases hkeys with hkeys | hkeys <;> simpa using congrArg List.length hkeys
  rcases hkeys with hkeys | hkeys
  · obtain ⟨rfl, rfl⟩ : k = "type" ∧ k' = "expression" := by simpa using hkeys
    exact ⟨v, v', .inl rfl⟩
  · obtain ⟨rfl, rfl⟩ : k = "expression" ∧ k' = "type" := by simpa using hkeys
    exact ⟨v', v, .inr rfl⟩

end Json

/-! ### No edit changes the bare form -/

namespace Edit

/-- An edit changes no text, and makes none. -/
theorem asString?_eq_none {v w : Json} (h : Edit v w) :
    v.asString? = none ∧ w.asString? = none := by
  cases h with
  | @parentheses v entries hnode _ =>
    cases v with
    | object entries => exact ⟨rfl, rfl⟩
    | _ => cases hnode
  | _ => exact ⟨rfl, rfl⟩

theorem bare_of_parenthesizes {entries : List (String × Json)} {v : Json}
    (h : Parenthesizes entries v) : (Json.object entries).bare = v.bare := by
  rw [Json.bare, Json.bareEntries_eq_map]
  rcases h with h | h <;> rw [h] <;> rfl

/-- A change to one entry that does not show in its bare form does not show in that of the object.
-/
theorem bare_object_congr (before after : List (String × Json)) {key : String} {v w : Json}
    (h : Json.bareEntry (key, v) = Json.bareEntry (key, w)) :
    (Json.object (before ++ (key, v) :: after)).bare =
      (Json.object (before ++ (key, w) :: after)).bare := by
  rw [Json.bare, Json.bare, Json.bareEntries_eq_map, Json.bareEntries_eq_map, properEntries_append,
    properEntries_append, properEntries_cons, properEntries_cons]
  split
  · rfl
  · rw [List.map_append, List.map_append, List.map_cons, List.map_cons, h]

/-- An edit does not change the bare form. -/
theorem bare_eq {v w : Json} (h : Edit v w) : v.bare = w.bare := by
  induction h with
  | trivia before after key v h =>
    rw [Json.bare, Json.bare, Json.bareEntries_eq_map, Json.bareEntries_eq_map,
      properEntries_append, properEntries_append, properEntries_cons, if_pos h]
  | parentheses _ h => exact (bare_of_parenthesizes h).symm
  | @kind before after kind kind' h =>
    have hentry : Json.bareEntry ("type", .string kind) = Json.bareEntry ("type", .string kind') :=
      congrArg (fun spelling ↦ ("type", Json.string spelling)) h
    exact bare_object_congr before after hentry
  | item before after _ ih =>
    rw [Json.bare, Json.bare, Json.bareItems_eq_map, Json.bareItems_eq_map, List.map_append,
      List.map_append, List.map_cons, List.map_cons, ih]
  | @entry before after key v w h ih =>
    have hentry : Json.bareEntry (key, v) = Json.bareEntry (key, w) := by
      obtain ⟨hv, hw⟩ := h.asString?_eq_none
      rw [Json.bareEntry, Json.bareEntry, Json.plainKind, Json.plainKind, hv, hw, ih]
    exact bare_object_congr before after hentry

/-- No number of edits does, in whatever direction. -/
theorem bare_eq_of_eqvGen {v w : Json} (h : Relation.EqvGen Edit v w) : v.bare = w.bare := by
  induction h with
  | rel _ _ hedit => exact hedit.bare_eq
  | refl _ => rfl
  | symm _ _ _ ih => exact ih.symm
  | trans _ _ _ _ _ ih₁ ih₂ => exact ih₁.trans ih₂

end Edit

/-! ### A value is like its bare form -/

namespace Json

theorem find?_bareEntries {name : String} (htrivia : isTrivia name = false) (htype : name ≠ "type")
    (entries : List (String × Json)) :
    find? name (bareEntries entries) = (find? name entries).map bare := by
  induction entries with
  | nil => rfl
  | cons entry rest ih =>
    obtain ⟨k, v⟩ := entry
    rw [bareEntries, find?_cons]
    by_cases hk : k = name
    · rw [hk, htrivia, if_neg Bool.false_ne_true, if_neg htype, find?_cons, if_pos rfl, if_pos rfl,
        Option.map_some]
    · rw [if_neg hk, ← ih]
      split
      · rfl
      · split <;> rw [find?_cons, if_neg hk]

@[simp] theorem kindOf?_bareEntries (entries : List (String × Json)) :
    kindOf? (bareEntries entries) = kindOf? entries := by
  have hfind : find? "type" (bareEntries entries) = (find? "type" entries).map plainKind := by
    induction entries with
    | nil => rfl
    | cons entry rest ih =>
      obtain ⟨k, v⟩ := entry
      rw [bareEntries, find?_cons]
      by_cases hk : k = "type"
      · rw [hk, if_neg (by decide), if_pos rfl, find?_cons, if_pos rfl, if_pos rfl, Option.map_some]
      · rw [if_neg hk, if_neg hk, ← ih]
        split
        · rfl
        · rw [find?_cons, if_neg hk]
  exact kindOf?_of_find?_type hfind

theorem kindOf?_of_isWrapper {entries : List (String × Json)} (h : isWrapper entries = true) :
    kindOf? entries = some Kind.parenthesized := by
  rw [isWrapper, Bool.and_eq_true, beq_iff_eq] at h
  exact h.1

theorem exists_find?_of_isWrapper {entries : List (String × Json)} (h : isWrapper entries = true) :
    ∃ v, find? "expression" entries = some v := by
  obtain ⟨kind, v, rfl | rfl⟩ := isWrapper_cases h
  · exact ⟨v, rfl⟩
  · exact ⟨v, rfl⟩

/-- A pair of parentheses in bare form is stripped to what it encloses. -/
theorem wrapped?_of_isWrapper {entries : List (String × Json)}
    (h : isWrapper (bareEntries entries) = true) :
    ∃ w, (Json.object entries).wrapped? = some w ∧ (Json.object entries).bare = w.bare := by
  have hkind := kindOf?_of_isWrapper h
  rw [kindOf?_bareEntries] at hkind
  obtain ⟨x, hx⟩ := exists_find?_of_isWrapper h
  have hfind := hx
  rw [find?_bareEntries rfl (by decide), Option.map_eq_some_iff] at hfind
  obtain ⟨w, hw, rfl⟩ := hfind
  refine ⟨w, ?_, ?_⟩
  · rw [wrapped?, if_pos hkind, hw]
  · rw [bare, unwrapped, if_pos h, hx, Option.getD_some]

theorem bare_of_not_isWrapper {entries : List (String × Json)}
    (h : ¬isWrapper (bareEntries entries) = true) :
    (Json.object entries).bare = .object (bareEntries entries) := by
  rw [bare, unwrapped, if_neg h]

theorem plainKind_plainKind (v : Json) : v.plainKind.plainKind = v.plainKind := by
  cases v with
  | string kind => exact congrArg string (canonicalKind_canonicalKind kind)
  | _ => rfl

theorem plain_unwrapped (entries : List (String × Json)) :
    (unwrapped entries).plain = (Json.object entries).plain := by
  rw [unwrapped]
  split
  · next h =>
    obtain ⟨v, hv⟩ := exists_find?_of_isWrapper h
    have hwrapped : (Json.object entries).wrapped? = some v := by
      rw [wrapped?, if_pos (kindOf?_of_isWrapper h), hv]
    rw [hv, Option.getD_some, plain_of_wrapped? hwrapped]
  · rfl

mutual

@[simp] theorem plain_bare : ∀ v : Json, v.bare.plain = v.plain
  | .null => rfl
  | .bool _ => rfl
  | .number _ => rfl
  | .string _ => rfl
  | .array items => by rw [bare, plain, plain, plainItems_bareItems items]
  | .object entries => by
    rw [bare, plain_unwrapped, plain, plain, kindOf?_bareEntries, plainEntries_bareEntries entries]

theorem plainItems_bareItems : ∀ items : List Json, plainItems (bareItems items) = plainItems items
  | [] => rfl
  | v :: rest => by
    rw [bareItems, plainItems, plainItems, plain_bare v, plainItems_bareItems rest]

theorem plainEntries_bareEntries : ∀ entries : List (String × Json),
    plainEntries (bareEntries entries) = plainEntries entries
  | [] => rfl
  | (key, v) :: rest => by
    rw [bareEntries, plainEntries]
    split
    · exact plainEntries_bareEntries rest
    · next htrivia =>
      split
      · next htype =>
        rw [plainEntries, if_neg htrivia, if_pos htype, plainKind_plainKind,
          plainEntries_bareEntries rest]
      · next htype =>
        rw [plainEntries, if_neg htrivia, if_neg htype, plain_bare v, plainEntries_bareEntries rest]

end

/-- What may stand in parentheses may do so in bare form. -/
theorem test_bare {w : Json} (h : w.encloses Enclosure.nodes.test = true)
    (hw : Enclosure.nodes.test (some w) = true) : Enclosure.nodes.test (some w.bare) = true := by
  induction w using wrapped_induction with
  | h w ih =>
    cases w with
    | object entries =>
      by_cases hwrapper : isWrapper (bareEntries entries) = true
      · obtain ⟨u, hu, hbare⟩ := wrapped?_of_isWrapper hwrapper
        rw [hbare]
        exact ih u hu (encloses_of_wrapped? h hu) (test_of_wrapped? h hu)
      · rw [bare_of_not_isWrapper hwrapper]
        simpa [Enclosure.nodes, isKind, kind?] using hw
    | _ => exact hw

mutual

/-- Parentheses enclose in the bare form only what they may. -/
theorem encloses_bare : ∀ v : Json, v.encloses Enclosure.nodes.test = true →
    v.bare.encloses Enclosure.nodes.test = true
  | .null, _ => rfl
  | .bool _, _ => rfl
  | .number _, _ => rfl
  | .string _, _ => rfl
  | .array items, h => by
    rw [encloses] at h
    rw [bare, encloses]
    exact enclosesItems_bareItems items h
  | .object entries, h => by
    have hinside := h
    rw [encloses, Bool.and_eq_true] at hinside
    have hentries := enclosesEntries_bareEntries entries hinside.2
    by_cases hwrapper : isWrapper (bareEntries entries) = true
    · obtain ⟨x, hx⟩ := exists_find?_of_isWrapper hwrapper
      rw [bare, unwrapped, if_pos hwrapper, hx, Option.getD_some]
      exact enclosesEntries_iff.mp hentries _ (mem_of_find? hx) rfl
    · rw [bare_of_not_isWrapper hwrapper, encloses, hentries, Bool.and_true, kindOf?_bareEntries]
      -- Parentheses that stay have something else beside what they enclose.
      cases hkind : kindOf? entries != some Kind.parenthesized with
      | true => rfl
      | false =>
        rw [hkind, Bool.false_or] at hinside
        obtain ⟨inner, hinner⟩ := Enclosure.nodes.object _ hinside.1
        rw [Bool.false_or, find?_bareEntries rfl (by decide), hinner, Option.map_some]
        exact test_bare (encloses_of_find? h rfl hinner) (hinner ▸ hinside.1)

theorem enclosesItems_bareItems : ∀ items : List Json,
    enclosesItems Enclosure.nodes.test items = true →
      enclosesItems Enclosure.nodes.test (bareItems items) = true
  | [], _ => rfl
  | v :: rest, h => by
    rw [enclosesItems, Bool.and_eq_true] at h
    rw [bareItems, enclosesItems, encloses_bare v h.1, enclosesItems_bareItems rest h.2]
    rfl

theorem enclosesEntries_bareEntries : ∀ entries : List (String × Json),
    enclosesEntries Enclosure.nodes.test entries = true →
      enclosesEntries Enclosure.nodes.test (bareEntries entries) = true
  | [], _ => rfl
  | (key, v) :: rest, h => by
    rw [enclosesEntries, Bool.and_eq_true] at h
    have hrest := enclosesEntries_bareEntries rest h.2
    rw [bareEntries]
    split
    · exact hrest
    · next htrivia =>
      split
      · have hkind : (plainKind v).encloses Enclosure.nodes.test = true := by
          cases v <;> rfl
        rw [enclosesEntries, hkind, hrest, Bool.or_true]
        rfl
      · have hv : v.encloses Enclosure.nodes.test = true := by simpa [htrivia] using h.1
        rw [enclosesEntries, encloses_bare v hv, hrest, Bool.or_true]
        rfl

end

theorem alike_bare {v : Json} (h : v.encloses Enclosure.nodes.test = true) :
    Alike .nodes v v.bare :=
  ⟨(plain_bare v).symm, h, encloses_bare v h⟩

end Json

/-! ## Analyses that agree -/

/-- Two analyses both have results, which are related, or fail in ways that agree. -/
inductive Traced.Agree {α : Type} (R : α → α → Prop) (t u : Traced α) : Prop
  | ok {a b : α} (ht : t.result = .ok a) (hu : u.result = .ok b) (h : R a b)
  | error {f g : Failure} (ht : t.result = .error f) (hu : u.result = .error g) (h : f.Agree g)

namespace Traced.Agree

variable {α β : Type} {R : α → α → Prop} {S : β → β → Prop} {t u v : Traced α}

theorem pure {a b : α} (h : R a b) : Agree R (Pure.pure a) (Pure.pure b) := .ok rfl rfl h

theorem bind (h : Agree R t u) {f g : α → Traced β} (hfg : ∀ a b, R a b → Agree S (f a) (g b)) :
    Agree S (t >>= f) (u >>= g) := by
  cases h with
  | @ok a b ht hu hR =>
    cases hfg a b hR with
    | ok hf hg hS =>
      exact .ok (result_bind_eq_ok_iff.mpr ⟨a, ht, hf⟩) (result_bind_eq_ok_iff.mpr ⟨b, hu, hg⟩) hS
    | error hf hg hagree =>
      exact .error (result_bind_eq_error_iff.mpr (.inr ⟨a, ht, hf⟩))
        (result_bind_eq_error_iff.mpr (.inr ⟨b, hu, hg⟩)) hagree
  | error ht hu hagree =>
    exact .error (result_bind_eq_error_iff.mpr (.inl ht)) (result_bind_eq_error_iff.mpr (.inl hu))
      hagree

theorem symm (h : Agree R t u) (hR : ∀ a b, R a b → R b a) : Agree R u t := by
  cases h with
  | ok ht hu hab => exact .ok hu ht (hR _ _ hab)
  | error ht hu hagree => exact .error hu ht hagree.symm

theorem trans (h : Agree R t u) (h' : Agree R u v) (hR : ∀ a b c, R a b → R b c → R a c) :
    Agree R t v := by
  cases h with
  | ok ht hu hab =>
    cases h' with
    | ok hu' hv hbc =>
      cases hu.symm.trans hu'
      exact .ok ht hv (hR _ _ _ hab hbc)
    | error hu' hv _ => cases hu.symm.trans hu'
  | error ht hu hagree =>
    cases h' with
    | ok hu' hv _ => cases hu.symm.trans hu'
    | error hu' hv hagree' =>
      cases hu.symm.trans hu'
      exact .error ht hv (hagree.trans hagree')

/-- Verdicts that agree give optional results that agree. -/
theorem toOption {t u : Traced (Outcome α)} (h : Verdict.Agree R t.verdict u.verdict) :
    Agree (Option.Rel R) (do return (← t).toOption) (do return (← u).toOption) := by
  obtain ⟨events, result⟩ := t
  obtain ⟨events', result'⟩ := u
  generalize hv : Traced.verdict ⟨events, result⟩ = v at h
  generalize hw : Traced.verdict ⟨events', result'⟩ = w at h
  cases h with
  | matched hab =>
    rw [verdict_eq_matched_iff] at hv hw
    cases hv
    cases hw
    exact .ok rfl rfl (.some hab)
  | skipped =>
    obtain ⟨why, hv⟩ := verdict_eq_skipped_iff.mp hv
    obtain ⟨why', hw⟩ := verdict_eq_skipped_iff.mp hw
    cases hv
    cases hw
    exact .ok rfl rfl .none
  | failed hagree =>
    rw [verdict_eq_failed_iff] at hv hw
    cases hv
    cases hw
    exact .error rfl rfl hagree

end Traced.Agree

namespace Program

/-- Two visits leave the same roots behind, and found the same commands up to plain forms, in the
same order. -/
structure Visited.Agree (x y : Visited) : Prop where
  roots_eq : x.roots = y.roots
  commands_eq : x.sites.map (·.command.plain) = y.sites.map (·.command.plain)

namespace Visited.Agree

theorem nothing (roots : Roots) : Agree ⟨roots, []⟩ ⟨roots, []⟩ := ⟨rfl, rfl⟩

theorem refl (x : Visited) : Agree x x := ⟨rfl, rfl⟩

theorem trans {x y z : Visited} (h : Agree x y) (h' : Agree y z) : Agree x z :=
  ⟨h.roots_eq.trans h'.roots_eq, h.commands_eq.trans h'.commands_eq⟩

/-- One visit after the other. -/
theorem append {x y x' y' : Visited} (h : Agree x y) (h' : Agree x' y') :
    Agree ⟨x'.roots, x.sites ++ x'.sites⟩ ⟨y'.roots, y.sites ++ y'.sites⟩ where
  roots_eq := h'.roots_eq
  commands_eq := by rw [List.map_append, List.map_append, h.commands_eq, h'.commands_eq]

end Visited.Agree

variable {limit : Nat} {a b : Json}

/-! ### One node -/

theorem agree_declare (h : Alike .nodes a b) (hkind : a.kind? = b.kind?) (roots : Roots) :
    Traced.Agree Eq (declare roots a) (declare roots b) := by
  refine .ok (result_declare roots a) (result_declare roots b) ?_
  have hagree := Roots.agree_declaration h roots
  rw [Roots.extended, Roots.extended, Json.isKind, Json.isKind, hkind]
  generalize roots.declaration a = x at hagree ⊢
  generalize roots.declaration b = y at hagree ⊢
  cases hagree with
  | matched heq => rw [heq]
  | skip why why' => rfl

theorem agree_offer (h : Alike .nodes a b) (hkind : a.kind? = b.kind?) (roots : Roots) :
    Traced.Agree (Option.Rel fun c d : Command ↦ c.plain = d.plain) (offer limit roots a)
      (offer limit roots b) := by
  rw [offer, offer, hkind]
  cases b.kind?.bind Recognizer.ofKind? with
  | none => exact .ok rfl rfl .none
  | some r => exact .toOption (r.agree_recognize h roots limit)

theorem isPassedOver_eq (h : Alike .nodes a b) (hkind : a.kind? = b.kind?) (roots : Roots) :
    isPassedOver roots a = isPassedOver roots b := by
  funext key
  rw [isPassedOver, isPassedOver, isMisdirectedWrite_eq_of_alike h, Json.isKind, Json.isKind, hkind]

/-! ### Parentheses -/

/-- Of a pair of parentheses, only what it encloses is visited. -/
theorem agree_visitEntries_of_isWrapper {entries : List (String × Json)}
    (h : Json.isWrapper entries = true) {v : Json} (hv : Json.find? "expression" entries = some v)
    {passedOver : String → Bool} (htype : passedOver "type" = true)
    (hexpression : passedOver "expression" = false) (roots : Roots) :
    Traced.Agree Visited.Agree (visitEntries limit passedOver entries roots)
      (visit limit v roots) := by
  -- The entry before or after the one visited is the kind, which is passed over.
  have hexpression : ∀ rest,
      (∀ later, visitEntries limit passedOver rest later = pure ⟨later, []⟩) →
      Traced.Agree Visited.Agree (visitEntries limit passedOver (("expression", v) :: rest) roots)
        (visit limit v roots) := by
    intro rest hrest
    rw [visitEntries, hexpression, if_neg Bool.false_ne_true]
    cases hresult : (visit limit v roots).result with
    | error f =>
      exact .error (Traced.result_bind_eq_error_iff.mpr (.inl hresult)) hresult (.refl f)
    | ok x =>
      refine .ok (Traced.result_bind_eq_ok_iff.mpr ⟨x, hresult, ?_⟩) hresult (.refl x)
      rw [hrest]
      exact congrArg (fun sites ↦ Except.ok (Visited.mk x.roots sites)) x.sites.append_nil
  have htail : ∀ kind later, visitEntries limit passedOver [("type", kind)] later =
      pure ⟨later, []⟩ := by
    intro kind later
    rw [visitEntries, htype, if_pos rfl, visitEntries]
  obtain ⟨kind, w, rfl | rfl⟩ := Json.isWrapper_cases h
  · cases hv
    rw [visitEntries, htype, if_pos rfl]
    exact hexpression [] fun later ↦ by rw [visitEntries]
  · cases hv
    exact hexpression _ (htail kind)

/-- A pair of parentheses is no site and declares nothing. -/
theorem visit_parenthesized {entries : List (String × Json)}
    (h : Json.kindOf? entries = some Kind.parenthesized) (roots : Roots) :
    visit limit (.object entries) roots =
      visitEntries limit (isPassedOver roots (.object entries)) entries roots := by
  have hdeclare : declare roots (.object entries) = pure roots := by
    rw [declare, Json.isKind, Json.kind?, h]
    rfl
  have hoffer : offer limit roots (.object entries) = pure none := by
    rw [offer, Json.kind?, h]
    rfl
  rw [visit, h, if_pos Option.isSome_some]
  dsimp only
  rw [hdeclare]
  change (offer limit roots (.object entries) >>= _) = _
  rw [hoffer]
  rfl

theorem isPassedOver_parenthesized {entries : List (String × Json)}
    (h : Json.kindOf? entries = some Kind.parenthesized) (roots : Roots) :
    isPassedOver roots (.object entries) "expression" = false := by
  rw [isPassedOver, Json.isKind, Json.kind?, h]
  rfl

/-! ### Whole values -/

mutual

/-- **A visit finds in a value what it finds in the bare form.** -/
theorem agree_visit_bare : ∀ (v : Json) (roots : Roots),
    v.encloses Enclosure.nodes.test = true →
      Traced.Agree Visited.Agree (visit limit v roots) (visit limit v.bare roots)
  | .null, roots, _ => .pure (.nothing roots)
  | .bool _, roots, _ => .pure (.nothing roots)
  | .number _, roots, _ => .pure (.nothing roots)
  | .string _, roots, _ => .pure (.nothing roots)
  | .array items, roots, h => by
    rw [Json.bare, visit, visit]
    exact agree_visitItems_bare items roots h
  | .object entries, roots, h => by
    have hinside : Json.enclosesEntries Enclosure.nodes.test entries = true := by
      rw [Json.encloses, Bool.and_eq_true] at h
      exact h.2
    by_cases hwrapper : Json.isWrapper (Json.bareEntries entries) = true
    · have hkind := Json.kindOf?_of_isWrapper hwrapper
      rw [Json.kindOf?_bareEntries] at hkind
      obtain ⟨x, hx⟩ := Json.exists_find?_of_isWrapper hwrapper
      rw [visit_parenthesized hkind, Json.bare, Json.unwrapped, if_pos hwrapper, hx,
        Option.getD_some]
      refine (agree_visitEntries_bare _ entries roots roots hinside).trans ?_ fun _ _ _ ↦
        Visited.Agree.trans
      exact agree_visitEntries_of_isWrapper hwrapper hx rfl
        (isPassedOver_parenthesized hkind roots) roots
    · have halike := Json.alike_bare h
      have hkind : (Json.object entries).kind? = (Json.object entries).bare.kind? := by
        rw [Json.bare_of_not_isWrapper hwrapper]
        exact (Json.kindOf?_bareEntries entries).symm
      rw [Json.bare_of_not_isWrapper hwrapper] at halike hkind ⊢
      rw [visit, visit, Json.kindOf?_bareEntries]
      split
      · refine (agree_declare halike hkind roots).bind fun extended extended' hextended ↦ ?_
        subst hextended
        refine (agree_offer halike hkind extended).bind fun found found' hfound ↦ ?_
        cases hfound with
        | none =>
          dsimp only
          rw [← isPassedOver_eq halike hkind]
          exact agree_visitEntries_bare _ entries extended extended hinside
        | some hcommand => exact .pure ⟨rfl, congrArg (fun c ↦ [c]) hcommand⟩
      · exact .pure (.nothing roots)

theorem agree_visitItems_bare : ∀ (items : List Json) (roots : Roots),
    Json.enclosesItems Enclosure.nodes.test items = true →
      Traced.Agree Visited.Agree (visitItems limit items roots)
        (visitItems limit (Json.bareItems items) roots)
  | [], roots, _ => .pure (.nothing roots)
  | v :: rest, roots, h => by
    rw [Json.enclosesItems, Bool.and_eq_true] at h
    rw [Json.bareItems, visitItems, visitItems]
    refine (agree_visit_bare v roots h.1).bind fun first first' hfirst ↦ ?_
    rw [hfirst.roots_eq]
    refine (agree_visitItems_bare rest first'.roots h.2).bind fun others others' hothers ↦ ?_
    exact .pure (hfirst.append hothers)

theorem agree_visitEntries_bare : ∀ (node : Json) (entries : List (String × Json))
    (known roots : Roots), Json.enclosesEntries Enclosure.nodes.test entries = true →
      Traced.Agree Visited.Agree (visitEntries limit (isPassedOver known node) entries roots)
        (visitEntries limit (isPassedOver known node) (Json.bareEntries entries) roots)
  | node, [], known, roots, _ => .pure (.nothing roots)
  | node, (key, v) :: rest, known, roots, h => by
    rw [Json.enclosesEntries, Bool.and_eq_true] at h
    have hrest := fun later ↦ agree_visitEntries_bare node rest known later h.2
    cases hpassed : isPassedOver known node key with
    | true =>
      -- The entry is not visited, whether it is still there in bare form or not.
      have hbare : visitEntries limit (isPassedOver known node)
          (Json.bareEntries ((key, v) :: rest)) roots =
            visitEntries limit (isPassedOver known node) (Json.bareEntries rest) roots := by
        rw [Json.bareEntries]
        split
        · rfl
        · split <;> rw [visitEntries, hpassed, if_pos rfl]
      rw [visitEntries, hpassed, if_pos rfl, hbare]
      exact hrest roots
    | false =>
      have hproper := hpassed
      rw [isPassedOver, Bool.or_eq_false_iff, Bool.or_eq_false_iff] at hproper
      obtain ⟨⟨htrivia, htype⟩, -⟩ := hproper
      have hv : v.encloses Enclosure.nodes.test = true := by simpa [htrivia] using h.1
      rw [Json.bareEntries, htrivia, if_neg Bool.false_ne_true, if_neg (by simpa using htype),
        visitEntries, visitEntries, hpassed, if_neg Bool.false_ne_true]
      refine (agree_visit_bare v roots hv).bind fun first first' hfirst ↦ ?_
      rw [hfirst.roots_eq]
      refine (hrest first'.roots).bind fun others others' hothers ↦ ?_
      exact .pure (hfirst.append hothers)

end

theorem agree_analyze_bare (config : Config) {program : Json}
    (h : program.encloses Enclosure.nodes.test = true) :
    Traced.Agree (fun sites sites' : List Site ↦
        sites.map (·.command.plain) = sites'.map (·.command.plain))
      (analyze config program) (analyze config program.bare) := by
  rw [analyze, analyze]
  cases config.validate with
  | error fault => exact .error rfl rfl (.refl _)
  | ok u =>
    exact (agree_visit_bare program (Roots.ofConfig config) h).bind fun _ _ hvisited ↦
      .pure hvisited.commands_eq

/-! ## Main result -/

/-- **Positions, comments, parentheses and the spelling of kinds do not change what is recognized.**
Let one tree be made from another by any edits of trivia, parentheses around nodes and spellings of
kinds, and let parentheses in both enclose nodes that are neither properties nor spreads. Then an
analysis either finds in both as many sites in the same order, with commands that are the same but
for how the expressions they carry are written, or it fails for both: with the same operation at
fault, or else with the same failure. -/
theorem analyze_edited {program program' : Json} (hedits : Relation.EqvGen Edit program program')
    (h : program.encloses Enclosure.nodes.test = true)
    (h' : program'.encloses Enclosure.nodes.test = true) (config : Config) :
    (∃ sites sites', (analyze config program).result = .ok sites ∧
        (analyze config program').result = .ok sites' ∧
          sites.map (·.command.plain) = sites'.map (·.command.plain)) ∨
      ∃ failure failure', (analyze config program).result = .error failure ∧
        (analyze config program').result = .error failure' ∧
          failure.operation?.map Prod.fst = failure'.operation?.map Prod.fst ∧
            (failure.operation? = none → failure = failure') := by
  have hbare := agree_analyze_bare config h
  rw [Edit.bare_eq_of_eqvGen hedits] at hbare
  have hagree := hbare.trans ((agree_analyze_bare config h').symm fun _ _ ↦ Eq.symm)
    fun _ _ _ ↦ Eq.trans
  cases hagree with
  | ok hsites hsites' hcommands => exact .inl ⟨_, _, hsites, hsites', hcommands⟩
  | error hfailure hfailure' hagree =>
    exact .inr ⟨_, _, hfailure, hfailure', hagree.operation, hagree.eq_of_none⟩

/-- `db.todos.filter(x => x.done)` with a position, and `db.todos?.filter(x => (x.done))` without
one, are recognized as filters by the same predicate. -/
theorem analyze_edited_filter :
    let config : Config := { roots := ["db"] }
    let callee := Tree.member (Tree.member (Tree.identifier "db") "todos") "filter"
    let done := Tree.member (Tree.identifier "x") "done"
    let enclosed := Tree.node Kind.parenthesized [("expression", done)]
    let program := Tree.node Kind.call
      [("start", .ofNat 0), ("callee", callee), ("arguments", .array [Tree.arrow ["x"] done])]
    let program' := Tree.node "OptionalCallExpression"
      [("callee", callee), ("arguments", .array [Tree.arrow ["x"] enclosed])]
    let command : Command := .query (.filter done) (.collection ⟨"db", "todos"⟩)
    Relation.EqvGen Edit program program' ∧ program.encloses Enclosure.nodes.test = true ∧
      program'.encloses Enclosure.nodes.test = true ∧
        (analyze config program).result = .ok [⟨none, command⟩] ∧
          ∃ sites', (analyze config program').result = .ok sites' ∧
            [command.plain] = sites'.map (·.command.plain) := by
  intro config callee done enclosed program program' command
  have hposition : Edit (Tree.call callee [Tree.arrow ["x"] done]) program :=
    .trivia [("type", _)] [("callee", _), ("arguments", _)] "start" _ rfl
  have hkind : Edit (Tree.call callee [Tree.arrow ["x"] done])
      (Tree.node "OptionalCallExpression"
        [("callee", callee), ("arguments", .array [Tree.arrow ["x"] done])]) :=
    .kind [] [("callee", _), ("arguments", _)] rfl
  have hparentheses : Edit done enclosed := .parentheses rfl (.inl rfl)
  have hargument : Edit (Tree.node "OptionalCallExpression"
      [("callee", callee), ("arguments", .array [Tree.arrow ["x"] done])]) program' :=
    .entry [("type", _), ("callee", _)] [] "arguments" (.item [] []
      (.entry [("type", _), ("params", _)] [("expression", _)] "body" hparentheses))
  have hedits : Relation.EqvGen Edit program program' :=
    .trans _ _ _ (.symm _ _ (.rel _ _ hposition))
      (.trans _ _ _ (.rel _ _ hkind) (.rel _ _ hargument))
  have h : program.encloses Enclosure.nodes.test = true := rfl
  have h' : program'.encloses Enclosure.nodes.test = true := rfl
  have hsites : (analyze config program).result = .ok [⟨none, command⟩] := rfl
  refine ⟨hedits, h, h', hsites, ?_⟩
  rcases analyze_edited hedits h h' config with ⟨sites, sites', hok, hok', hcommands⟩ |
    ⟨failure, failure', herror, -⟩
  · cases hsites.symm.trans hok
    exact ⟨sites', hok', hcommands⟩
  · cases hsites.symm.trans herror

end Program

end FluentQuery
