import FluentQuery.Proofs.Merge
import FluentQuery.Proofs.Plain
import FluentQuery.Proofs.Reassign

/-!
# The spelling of a collection

A collection can be written down in three ways: `db.todos`, `db["todos"]`, or an identifier that is
bound to it. For a read they are the same. A write compares its target with what it reads from, and
it compares expressions: `db.todos = db.todos.filter(…)` is a removal, whereas `db["todos"]` on one
of its sides makes it an assignment like any other, though both sides are one collection.

So a write to a collection is seen exactly if its target and its source are the same expression.
What the resolver takes for a collection always has one of the three spellings, and two that are
spelled differently are never the same expression; if nothing is in the nodes besides the spelling,
those that are spelled alike are.
-/

namespace FluentQuery

/-- A way to write down a collection. -/
inductive Spelling where
  /-- `root.collection` -/
  | dot (root collection : String)
  /-- `root["collection"]` -/
  | index (root collection : String)
  /-- `name` -/
  | bare (name : String)
deriving DecidableEq, Repr

/-- The node of a spelling, with nothing else in it. -/
def Spelling.node : Spelling → Json
  | .dot root collection => Tree.member (Tree.identifier root) collection
  | .index root collection => Tree.index (Tree.identifier root) (Tree.string collection)
  | .bare name => Tree.identifier name

namespace Json

/-- How a node spells a collection, whatever else it holds. -/
inductive SpelledAs (v : Json) : Spelling → Prop
  | dot {object key : Json} {root collection : String}
      (hkind : v.unparen.isKind Kind.member = true) (hobject : v.field? "object" = some object)
      (hroot : object.identName? = some root) (hkey : v.field? "property" = some key)
      (hname : key.identName? = some collection) : SpelledAs v (.dot root collection)
  | index {object key : Json} {root collection : String}
      (hkind : v.unparen.isKind Kind.member = true) (hobject : v.field? "object" = some object)
      (hroot : object.identName? = some root) (hkey : v.field? "property" = some key)
      (hname : key.string? = some collection) : SpelledAs v (.index root collection)
  | bare {name : String} (hname : v.identName? = some name) : SpelledAs v (.bare name)

theorem spelledAs_node (s : Spelling) : s.node.SpelledAs s := by
  cases s with
  | dot root collection => exact .dot rfl rfl rfl rfl rfl
  | index root collection => exact .index rfl rfl rfl rfl rfl
  | bare name => exact .bare rfl

variable {v w : Json} {s t : Spelling}

/-! ## Spellings and plain forms -/

theorem identName?_eq_none_of_string? {text : String} (h : v.string? = some text) :
    v.identName? = none := by
  rw [string?] at h
  split at h
  · next hkind => exact identName?_eq_none_of_kind hkind (by decide)
  · cases h

/-- A text that is there is also there in the plain form; parentheses around texts, which only the
plain form looks through, can add to them. -/
theorem bind_asString?_get?_plain {name text : String} (htrivia : isTrivia name = false)
    (htype : name ≠ "type") (h : (v.unparen.get? name).bind asString? = some text) :
    (v.plain.get? name).bind asString? = some text := by
  obtain ⟨w, hw, htext⟩ := Option.bind_eq_some_iff.mp h
  rw [get?_plain htrivia htype, hw]
  cases w with
  | string s => exact htext
  | _ => cases htext

theorem identName?_plain_of_eq_some {name : String} (h : v.identName? = some name) :
    v.plain.identName? = some name := by
  have hkind := isKind_of_identName? h
  rw [identName?, if_pos hkind] at h
  rw [identName?, unparen_plain, isKind_plain, if_pos hkind]
  exact bind_asString?_get?_plain rfl (by decide) h

theorem string?_plain_of_eq_some {text : String} (h : v.string? = some text) :
    v.plain.string? = some text := by
  rw [string?] at h
  split at h
  · next hkind =>
    rw [string?, unparen_plain, isKind_plain, if_pos hkind]
    exact bind_asString?_get?_plain rfl (by decide) h
  · cases h

namespace SpelledAs

theorem plain (h : v.SpelledAs s) : v.plain.SpelledAs s := by
  have hchild : ∀ {name child}, isTrivia name = false → name ≠ "type" →
      v.field? name = some child → v.plain.field? name = some child.plain := by
    intro name child htrivia htype hfield
    rw [field?_plain htrivia htype, hfield, Option.map_some]
  have hmember : v.unparen.isKind Kind.member = true →
      v.plain.unparen.isKind Kind.member = true := by
    rw [unparen_plain, isKind_plain]
    exact id
  cases h with
  | dot hkind hobject hroot hkey hname =>
    exact .dot (hmember hkind) (hchild rfl (by decide) hobject) (identName?_plain_of_eq_some hroot)
      (hchild rfl (by decide) hkey) (identName?_plain_of_eq_some hname)
  | index hkind hobject hroot hkey hname =>
    exact .index (hmember hkind) (hchild rfl (by decide) hobject)
      (identName?_plain_of_eq_some hroot) (hchild rfl (by decide) hkey)
      (string?_plain_of_eq_some hname)
  | bare hname => exact .bare (identName?_plain_of_eq_some hname)

theorem unique (h : v.SpelledAs s) (h' : v.SpelledAs t) : s = t := by
  -- A member is no identifier, and a key is not both an identifier and a text.
  cases h with
  | dot hkind hobject hroot hkey hname =>
    cases h' with
    | dot _ hobject' hroot' hkey' hname' =>
      cases hobject.symm.trans hobject'
      cases hkey.symm.trans hkey'
      cases hroot.symm.trans hroot'
      cases hname.symm.trans hname'
      rfl
    | index _ _ _ hkey' hname' =>
      cases hkey.symm.trans hkey'
      cases hname.symm.trans (identName?_eq_none_of_string? hname')
    | bare hname' => cases hname'.symm.trans (identName?_eq_none_of_kind hkind (by decide))
  | index hkind hobject hroot hkey hname =>
    cases h' with
    | dot _ _ _ hkey' hname' =>
      cases hkey.symm.trans hkey'
      cases hname'.symm.trans (identName?_eq_none_of_string? hname)
    | index _ hobject' hroot' hkey' hname' =>
      cases hobject.symm.trans hobject'
      cases hkey.symm.trans hkey'
      cases hroot.symm.trans hroot'
      cases hname.symm.trans hname'
      rfl
    | bare hname' => cases hname'.symm.trans (identName?_eq_none_of_kind hkind (by decide))
  | bare hname =>
    cases h' with
    | dot hkind => cases hname.symm.trans (identName?_eq_none_of_kind hkind (by decide))
    | index hkind => cases hname.symm.trans (identName?_eq_none_of_kind hkind (by decide))
    | bare hname' =>
      cases hname.symm.trans hname'
      rfl

/-- The same expression is spelled in one way. -/
theorem eq_of_sameNode (h : v.SpelledAs s) (h' : w.SpelledAs t) (hsame : sameNode v w = true) :
    s = t := by
  have hw := h'.plain
  rw [← sameNode_iff.mp hsame] at hw
  exact h.plain.unique hw

end SpelledAs

end Json

/-- Nodes with nothing but a spelling are the same expression if they are spelled alike. -/
theorem Spelling.sameNode_node_iff {s t : Spelling} :
    Json.sameNode s.node t.node = true ↔ s = t := by
  constructor
  · exact (Json.spelledAs_node s).eq_of_sameNode (Json.spelledAs_node t)
  · rintro rfl
    exact Json.sameNode_self s.node

variable {roots : Roots} {ref : CollectionRef} {node target right object : Json} {limit : Nat}

/-- What denotes a collection spells it. -/
theorem Denotes.exists_spelledAs (h : Denotes roots node ref) : ∃ s, node.SpelledAs s := by
  cases h with
  | @member name db property hkind hobject hroot hproperty =>
    obtain ⟨object, hobject, hname⟩ := Option.bind_eq_some_iff.mp hobject
    rw [Json.staticProperty?, if_pos hkind, Json.field?_unparen] at hproperty
    obtain ⟨key, hkey, hproperty⟩ := Option.bind_eq_some_iff.mp hproperty
    rw [Json.keyName?] at hproperty
    split at hproperty
    · exact ⟨_, .index hkind hobject hname hkey hproperty⟩
    · cases hident : key.identName? with
      | some collection => exact ⟨_, .dot hkind hobject hname hkey hident⟩
      | none =>
        rw [hident, Option.none_or] at hproperty
        exact ⟨_, .index hkind hobject hname hkey hproperty⟩
  | identifier hname hroot => exact ⟨_, .bare hname⟩

/-! ## Writes -/

/-- An assignment of a method of another expression is skipped. -/
theorem verdict_recognize_of_not_same {method : String} (hassigns : node.Assigns target right)
    (hcalls : right.Calls object method) (hsame : Json.sameNode target object = false)
    (limit : Nat) :
    (Recognizer.assignment.recognize roots (limit + 1) node).verdict = .skipped := by
  refine Write.verdict_recognize_eq_skipped hassigns.assignment (fun write hshape ↦ ?_) limit
  obtain ⟨-, htrue⟩ :=
    (write.exists_bindings_iff (Json.assigns_unparen.mpr hassigns) hcalls).mp hshape
  cases hsame.symm.trans htrue

theorem denotes_of_analyze (h : (Table.standard.analyze roots limit [.root] node).result =
    .ok (.matched ⟨.root, .collection ref⟩)) : Denotes roots node ref := by
  obtain ⟨ref', hdenotes, hcommand⟩ :=
    exists_denotes_of_resolveAt (Traced.verdict_eq_matched_iff.mpr h) rfl
  cases hcommand
  exact hdenotes

/-- **A write is seen if the collection is spelled alike.** Let target and source of an assignment
resolve to one collection. If they are the same expression, what `filter` drops is removed from that
collection; otherwise the assignment is skipped. Both have a spelling, and with different ones they
are not the same expression; if they hold nothing else, they are the same exactly if they are
spelled alike. -/
theorem recognize_filter_spelled {c : Bindings} (hassigns : node.Assigns target right)
    (hcalls : right.Calls object "filter") (hcallback : callback.bindings right = .matched c)
    (hlimit : 2 ≤ limit)
    (htarget : (Table.standard.analyze roots limit [.root] target).result =
      .ok (.matched ⟨.root, .collection ref⟩))
    (hobject : (Table.standard.analyze roots limit [.root] object).result =
      .ok (.matched ⟨.root, .collection ref⟩)) :
    (Json.sameNode target object = true → ∃ keep, c.get? "body" = some keep ∧
      (Recognizer.assignment.recognize roots limit node).verdict =
        .matched (.modification (.remove (negate keep)) (.collection ref))) ∧
    (Json.sameNode target object = false →
      (Recognizer.assignment.recognize roots limit node).verdict = .skipped) ∧
    (∃ s t, target.SpelledAs s ∧ object.SpelledAs t ∧
      (s ≠ t → Json.sameNode target object = false)) ∧
    ∀ s t : Spelling, Json.sameNode target s.node = true → Json.sameNode object t.node = true →
      (Json.sameNode target object = true ↔ s = t) := by
  obtain ⟨limit, rfl⟩ : ∃ n, limit = n + 2 := ⟨limit - 2, by omega⟩
  have hdenotes := denotes_of_analyze htarget
  refine ⟨fun hsame ↦ ?_, fun hsame ↦ ?_, ?_, fun s t hs ht ↦ ?_⟩
  · obtain ⟨keep, hkeep⟩ := exists_body_of_callback hcallback
    exact ⟨keep, hkeep,
      verdict_recognize_filter hassigns hcalls hsame hdenotes hcallback hkeep limit⟩
  · exact verdict_recognize_of_not_same hassigns hcalls hsame (limit + 1)
  · obtain ⟨s, hs⟩ := hdenotes.exists_spelledAs
    obtain ⟨t, ht⟩ := (denotes_of_analyze hobject).exists_spelledAs
    refine ⟨s, t, hs, ht, fun hne ↦ Bool.eq_false_iff.mpr fun hsame ↦ ?_⟩
    exact hne (hs.eq_of_sameNode ht hsame)
  · rw [← Spelling.sameNode_node_iff]
    constructor
    · intro hsame
      exact Json.sameNode_trans (Json.sameNode_symm hs) (Json.sameNode_trans hsame ht)
    · intro hsame
      exact Json.sameNode_trans hs (Json.sameNode_trans hsame (Json.sameNode_symm ht))

/-- With `db["todos"]` on both sides of `… = ….filter(x => x.done)`, documents are removed; with an
identifier for the same collection on the left, the assignment is skipped. -/
theorem recognize_filter_spelled_index_bare :
    let roots : Roots := ⟨[("db", ⟨"app", none⟩), ("todos", ⟨"app", some "todos"⟩)], []⟩
    let done := Tree.member (Tree.identifier "x") "done"
    let index := (Spelling.index "db" "todos").node
    let bare := (Spelling.bare "todos").node
    let right := Tree.method index "filter" [Tree.arrow ["x"] done]
    (∃ c, callback.bindings right = .matched c) ∧ right.Calls index "filter" ∧
      (∀ v ∈ [index, bare], (Tree.assignment v right).Assigns v right ∧
        (Table.standard.analyze roots 2 [.root] v).result =
          .ok (.matched ⟨.root, .collection ⟨"app", "todos"⟩⟩)) ∧
      (Recognizer.assignment.recognize roots 2 (Tree.assignment index right)).verdict =
        .matched (.modification (.remove (negate done)) (.collection ⟨"app", "todos"⟩)) ∧
      (Recognizer.assignment.recognize roots 2 (Tree.assignment bare right)).verdict =
        .skipped := by
  intro roots done index bare right
  have hcallback : callback.bindings right =
      .matched [("param", .string "x"), ("body", done)] := rfl
  have hcalls : right.Calls index "filter" := ⟨rfl, _, rfl, rfl, rfl, rfl⟩
  have hindex : (Table.standard.analyze roots 2 [.root] index).result =
      .ok (.matched ⟨.root, .collection ⟨"app", "todos"⟩⟩) := rfl
  have hbare : (Table.standard.analyze roots 2 [.root] bare).result =
      .ok (.matched ⟨.root, .collection ⟨"app", "todos"⟩⟩) := rfl
  have hassigns : (Tree.assignment index right).Assigns index right := ⟨rfl, rfl, rfl, rfl⟩
  have hassigns' : (Tree.assignment bare right).Assigns bare right := ⟨rfl, rfl, rfl, rfl⟩
  obtain ⟨hseen, -, -, -⟩ :=
    recognize_filter_spelled hassigns hcalls hcallback (le_refl 2) hindex hindex
  obtain ⟨-, hskipped, -, halike⟩ :=
    recognize_filter_spelled hassigns' hcalls hcallback (le_refl 2) hbare hindex
  have hdifferent : Json.sameNode bare index = false := by
    refine Bool.eq_false_iff.mpr fun hsame ↦ ?_
    cases (halike _ _ (Json.sameNode_self bare) (Json.sameNode_self index)).mp hsame
  obtain ⟨keep, hkeep, hremoved⟩ := hseen (Json.sameNode_self index)
  cases hkeep
  refine ⟨⟨_, hcallback⟩, hcalls, ?_, hremoved, hskipped hdifferent⟩
  simp only [List.forall_mem_cons]
  exact ⟨⟨hassigns, hindex⟩, ⟨hassigns', hbare⟩, by simp⟩

/-- `db.todos = db["todos"].filter(x => x.done)` is not seen as a removal, though both sides are the
collection `todos`. -/
theorem recognize_filter_dot_index_skipped :
    let roots : Roots := ⟨[("db", ⟨"app", none⟩)], []⟩
    let dot := (Spelling.dot "db" "todos").node
    let index := (Spelling.index "db" "todos").node
    let done := Tree.member (Tree.identifier "x") "done"
    let right := Tree.method index "filter" [Tree.arrow ["x"] done]
    let node := Tree.assignment dot right
    node.Assigns dot right ∧ right.Calls index "filter" ∧
      (∃ c, callback.bindings right = .matched c) ∧
      (Table.standard.analyze roots 2 [.root] dot).result =
        .ok (.matched ⟨.root, .collection ⟨"app", "todos"⟩⟩) ∧
      (Table.standard.analyze roots 2 [.root] index).result =
        .ok (.matched ⟨.root, .collection ⟨"app", "todos"⟩⟩) ∧
      ¬∃ predicate, (Recognizer.assignment.recognize roots 2 node).verdict =
        .matched (.modification (.remove predicate) (.collection ⟨"app", "todos"⟩)) := by
  intro roots dot index done right node
  have hassigns : node.Assigns dot right := ⟨rfl, rfl, rfl, rfl⟩
  have hcalls : right.Calls index "filter" := ⟨rfl, _, rfl, rfl, rfl, rfl⟩
  have hdifferent : Json.sameNode dot index = false := by
    refine Bool.eq_false_iff.mpr fun hsame ↦ ?_
    cases Spelling.sameNode_node_iff.mp hsame
  refine ⟨hassigns, hcalls, ⟨_, rfl⟩, rfl, rfl, ?_⟩
  rintro ⟨predicate, hmatched⟩
  cases (verdict_recognize_of_not_same hassigns hcalls hdifferent 1).symm.trans hmatched

end FluentQuery
