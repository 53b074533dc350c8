import FluentQuery.Proofs.Conservative
import FluentQuery.Proofs.Grounded
import FluentQuery.Proofs.Growth
import FluentQuery.Proofs.Plain

/-!
# Ordinary code

A program in which no identifier has the name of a root, and no declaration calls a connector, has
nothing to do with a configuration. There is nothing to be recognized in it, and nothing in it is
malformed either, since a node is committed to an operation only on top of a root.

What can go wrong is the recursion limit. Resolution goes inward by the looks of a node alone, and
each step costs a level, so a chain such as `xs.filter(f).map(g)` runs out of levels before it is
known that it starts at no root. `Nests` counts the nodes of such a chain. The analysis of unrelated
code is told by it exactly: it fails for the recursion limit if somewhere in what is looked at as
many nodes are nested as there are levels, and otherwise it finds no sites.
-/

namespace FluentQuery

/-! ## Nodes that look like operations -/

/-- A node has the form of a read or a write on another node, whatever that other node is. -/
inductive Resembles (source node : Json) : Prop
  | read {read : Read} (hasks : Asks source node read) : Resembles source node
  | write {write : Write} {bs : Bindings}
      (hshape : write.shape.bindings node.unparen = .matched bs)
      (hleft : node.field? "left" = some source) : Resembles source node

/-- A node is the outermost of so many nodes, each of which looks like an operation on the next. -/
inductive Nests : Nat → Json → Prop
  | zero (node : Json) : Nests 0 node
  | succ {n : Nat} {source node : Json} (hnode : Resembles source node)
      (hsource : Nests n source) : Nests (n + 1) node

variable {roots : Roots} {source node : Json} {limit depth : Nat}

theorem asks_of_applies {read : Read} (happlies : read.operation.applies node.unparen = true)
    (hsource : read.operation.attachment.predecessor? node.unparen = some source) :
    Asks source node read := by
  obtain ⟨hkind, hname⟩ := Operation.applies_iff.mp happlies
  have hname := hname _ read.operation_name
  by_cases hlength : read = .length
  · subst hlength
    refine .length (Json.isKind_iff.mpr hkind) ?_ ?_
    · exact (Json.staticProperty?_unparen node).symm.trans hname
    · exact (Json.field?_unparen node "object").symm.trans hsource
  · rw [Read.operation_attachment hlength] at hkind hname hsource
    rw [Attachment.nameOf?, Json.field?_unparen] at hname
    rw [Attachment.predecessor?, Json.field?_unparen] at hsource
    obtain ⟨callee, hcallee, hobject⟩ := Option.bind_eq_some_iff.mp hsource
    rw [hcallee, Option.bind_some] at hname
    exact .method hlength (Json.isKind_iff.mpr hkind) hcallee hname hobject

theorem Write.isKind_of_bindings {write : Write} {bs : Bindings}
    (h : write.shape.bindings node.unparen = .matched bs) :
    node.unparen.isKind Kind.assignment = true := by
  have hassigns : ∃ target right, node.unparen.Assigns target right := by
    cases write with
    | insert =>
      obtain ⟨target, right, _, _, hassigns, -⟩ := appended_iff.mp h
      exact ⟨target, right, hassigns⟩
    | update =>
      obtain ⟨target, right, _, hassigns, -⟩ := reassignedVia_iff.mp h
      exact ⟨target, right, hassigns⟩
    | remove =>
      obtain ⟨target, right, _, hassigns, -⟩ := reassignedVia_iff.mp h
      exact ⟨target, right, hassigns⟩
  obtain ⟨target, right, hassigns⟩ := hassigns
  simpa using hassigns.assignment

/-- A node looks like an operation exactly if it fits a row of the table that has a node before
it. -/
theorem resembles_iff (roots : Roots) :
    Resembles source node ↔ ∃ op ∈ Table.standard.operations, op.isInitial = false ∧
      op.Fits roots node.unparen ∧ op.attachment.predecessor? node.unparen = some source := by
  constructor
  · rintro (@⟨read, hasks⟩ | @⟨write, bs, hshape, hleft⟩)
    · obtain ⟨-, -, hpredecessor⟩ := hasks.row
      exact ⟨_, read.operation_mem, read.operation_isInitial,
        ⟨hasks.applies, read.operation_testShape⟩, hpredecessor⟩
    · have hkind := Json.isKind_iff.mp (Write.isKind_of_bindings hshape)
      have htest : write.operation.testShape roots node.unparen = .matched () :=
        Outcome.map_eq_matched_iff.mpr ⟨bs, hshape, rfl⟩
      exact ⟨_, write.operation_mem, rfl, ⟨write.operation_applies hkind, htest⟩,
        (Json.field?_unparen node "left").trans hleft⟩
  · rintro ⟨op, hop, hinitial, hfits, hsource⟩
    rcases Table.exists_read_or_write hop hinitial with ⟨read, rfl⟩ | ⟨write, rfl⟩
    · exact .read (asks_of_applies hfits.applies hsource)
    · obtain ⟨bs, hbs, -⟩ := Outcome.map_eq_matched_iff.mp hfits.shape
      exact .write hbs ((Json.field?_unparen node "left").symm.trans hsource)

/-- Parentheses around a node do not matter to its form. -/
theorem Nests.of_unparen_eq {other : Json} (h : Nests depth node)
    (hother : node.unparen = other.unparen) : Nests depth other := by
  cases h with
  | zero => exact .zero other
  | succ hnode hsource =>
    refine .succ ?_ hsource
    rwa [resembles_iff ⟨[], []⟩, ← hother, ← resembles_iff]

/-- A node that looks like an operation is a call, a member access or an assignment. -/
theorem Resembles.exists_recognizer (h : Resembles source node) :
    ∃ r, node.unparen.kind?.bind Recognizer.ofKind? = some r := by
  obtain ⟨op, hop, hinitial, hfits, -⟩ := (resembles_iff ⟨[], []⟩).mp h
  obtain ⟨hkind, -⟩ := Operation.applies_iff.mp hfits.applies
  rw [hkind, Option.bind_some]
  rcases Table.exists_read_or_write hop hinitial with ⟨read, rfl⟩ | ⟨write, rfl⟩
  · cases read <;> exact ⟨_, rfl⟩
  · exact ⟨_, rfl⟩

/-! ## Resolution without a root -/

theorem Json.LeadsTo.restsOn {ref : CollectionRef} (h : node.LeadsTo source)
    (hsource : RestsOn roots source ref) : RestsOn roots node ref := by
  obtain ⟨base, hbase, hdenotes⟩ := hsource
  exact ⟨base, h.trans hbase, hdenotes⟩

namespace Table

theorem skipped_or_tooDeep_of_not_restsOn (hrests : ∀ ref, ¬RestsOn roots node ref)
    (hdepth : depth ≤ limit) :
    (standard.resolveAt roots limit depth none node).verdict = .skipped ∨
      (standard.resolveAt roots limit depth none node).verdict = .failed (.tooDeep limit) := by
  cases hverdict : (standard.resolveAt roots limit depth none node).verdict with
  | matched r => exact absurd (restsOn_of_resolveAt hverdict) (hrests _)
  | skipped => exact Or.inl rfl
  | failed failure =>
    rcases exists_commits_of_resolveAt hdepth hverdict with
      rfl | ⟨offending, op, before, why, hleads, hcommits, -, -⟩
    · exact Or.inr rfl
    · exact absurd (hleads.restsOn hcommits.restsOn) (hrests _)

/-- Where there is no root, resolution runs out of levels exactly on the nodes that are nested as
deep as there are levels. -/
theorem verdict_resolveAt_eq_tooDeep_iff (hrests : ∀ ref, ¬RestsOn roots node ref)
    (hdepth : depth ≤ limit) :
    (standard.resolveAt roots limit depth none node).verdict = .failed (.tooDeep limit) ↔
      Nests depth node := by
  induction depth generalizing node with
  | zero => exact iff_of_true rfl (.zero node)
  | succ depth ih =>
    have hinner : ∀ {op : Operation} {inner : Json}, op.Fits roots node.unparen →
        op.attachment.predecessor? node.unparen = some inner →
          ((standard.resolveAt roots limit depth none inner).verdict = .failed (.tooDeep limit) ↔
            Nests depth inner) := by
      intro op inner hfits hlink
      rw [hfits.predecessor?_eq] at hlink
      exact ih (fun ref hinner ↦ hrests ref (hinner.of_predecessor hlink)) (by omega)
    constructor
    · intro h
      obtain ⟨op, hop, -, happlies, hattempt⟩ := resolveAt_succ_cases h (by simp)
      obtain ⟨hshape, ⟨inner, failure, hinitial, hlink, hfailed, hfailure⟩ |
        ⟨source, -, hcommit⟩⟩ := Operation.attempt_cases hattempt (by simp)
      · cases hfailure
        have hfits : op.Fits roots node.unparen := ⟨happlies, hshape⟩
        exact .succ ((resembles_iff roots).mpr ⟨op, hop, hinitial, hfits, hlink⟩)
          ((hinner hfits hlink).mp hfailed)
      · -- A node that is committed fails for its arguments, if at all.
        rcases Operation.verdict_commit_eq_failed_iff.mp hcommit with
          ⟨why, -, hfailure⟩ | ⟨arguments, -, -, hfailure⟩
        · cases hfailure
        · cases hfailure
    · rintro (_ | @⟨_, source, _, hnode, hsource⟩)
      obtain ⟨op, hop, hinitial, hfits, hlink⟩ := (resembles_iff roots).mp hnode
      have hattempt := attempt_tooDeep hfits.shape hinitial hlink ((hinner hfits hlink).mpr hsource)
      refine (skipped_or_tooDeep_of_not_restsOn hrests hdepth).resolve_left fun hskipped ↦ ?_
      have hmem : op ∈ standard.candidates none node.unparen :=
        mem_candidates_iff.mpr ⟨hop, by simp, hfits.applies⟩
      have hskip := verdict_attempt_of_tryAll_eq_skipped hskipped op hmem
      cases hattempt.symm.trans hskip

end Table

namespace Recognizer

/-- The rows for nodes of its kind are all allowed to a recognizer. -/
theorem verdict_analyze_operations {r : Recognizer}
    (hr : node.kind?.bind ofKind? = some r) :
    (Table.standard.analyze roots limit r.operations node).verdict =
      (Table.standard.resolveAt roots limit limit none node).verdict := by
  have hrows : ∀ op ∈ Table.standard.operations, ∀ r' : Recognizer,
      ofKind? op.attachment.kind = some r' → r'.operations.contains op.id = true := by decide
  obtain ⟨kind, hkind, hof⟩ := Option.bind_eq_some_iff.mp hr
  have hbare : node.unparen = node := by
    refine Json.unparen_of_isKind (Json.isKind_iff.mpr hkind) ?_
    rintro rfl
    cases hof
  have hcandidates : Table.standard.candidates (some r.operations) node =
      Table.standard.candidates none node := by
    refine List.filter_congr fun op hop ↦ ?_
    cases happlies : op.applies node with
    | false => simp
    | true =>
      obtain ⟨hkind', -⟩ := Operation.applies_iff.mp happlies
      rw [Option.some.inj (hkind.symm.trans hkind')] at hof
      simpa using hrows op hop r hof
  rw [Table.analyze]
  cases limit with
  | zero => rfl
  | succ limit =>
    rw [Table.verdict_resolveAt_succ, Table.verdict_resolveAt_succ, hbare, hcandidates]

end Recognizer

/-! ## Code without roots -/

namespace Json

theorem holds_of_get? {v w : Json} {name : String} (h : v.get? name = some w) : v.Holds w := by
  cases v with
  | object entries => exact holds_of_mem_object (mem_of_find? h)
  | _ => cases h

theorem holds_unparen (v : Json) : v.Holds v.unparen := by
  induction v using wrapped_induction with
  | h v ih =>
    cases hwrapped : v.wrapped? with
    | none =>
      rw [unparen_of_wrapped?_eq_none hwrapped]
      exact .refl v
    | some w =>
      obtain ⟨entries, rfl, -, hfind⟩ := wrapped?_eq_some_iff.mp hwrapped
      rw [unparen_of_wrapped? hwrapped]
      exact (holds_of_mem_object (mem_of_find? hfind)).trans (ih w hwrapped)

theorem holds_of_field? {v w : Json} {name : String} (h : v.field? name = some w) :
    v.Holds w := by
  obtain ⟨u, hu, rfl⟩ := Option.map_eq_some_iff.mp h
  exact (v.holds_unparen.trans (holds_of_get? hu)).trans u.holds_unparen

theorem holds_of_predecessor? {v w : Json} (h : v.predecessor? = some w) : v.Holds w := by
  rw [predecessor?] at h
  split at h
  · obtain ⟨callee, hcallee, hobject⟩ := Option.bind_eq_some_iff.mp h
    exact (holds_of_field? hcallee).trans (holds_of_field? hobject)
  · split at h
    · exact holds_of_field? h
    · split at h
      · exact holds_of_field? h
      · cases h

theorem LeadsTo.holds {v w : Json} (h : v.LeadsTo w) : v.Holds w := by
  induction h with
  | refl => exact .refl v
  | tail _ hlink ih => exact ih.trans (holds_of_predecessor? hlink)

end Json

/-- A node that a configuration does not care for: it is no identifier with the name of a root, and
no declaration that calls a connector. -/
def Config.Ignores (config : Config) (node : Json) : Prop :=
  (∀ name ∈ node.identName?, name ∉ config.roots) ∧
    (node.isKind Kind.declarator = true →
      ((Roots.ofConfig config).declaration node).isMatch = false)

instance (config : Config) (node : Json) : Decidable (config.Ignores node) :=
  inferInstanceAs (Decidable (_ ∧ _))

/-- A configuration ignores all there is in a value. -/
def Config.Unrelated (config : Config) (v : Json) : Prop := ∀ w, v.Holds w → config.Ignores w

instance (config : Config) (v : Json) : Decidable (config.Unrelated v) :=
  decidable_of_iff (v.everywhere (fun w ↦ decide (config.Ignores w)) = true) (by
    simp only [Json.everywhere_iff, decide_eq_true_eq, Config.Unrelated])

namespace Config.Unrelated

variable {config : Config} {v w : Json}

theorem of_holds (h : config.Unrelated v) (hw : v.Holds w) : config.Unrelated w :=
  fun u hu ↦ h u (hw.trans hu)

theorem get?_eq_none (h : config.Unrelated v) {name : String} (hname : v.identName? = some name) :
    (Roots.ofConfig config).get? name = none := by
  rw [Roots.get?_ofConfig, if_neg ((h v (.refl v)).1 name hname)]

theorem object_get?_eq_none (h : config.Unrelated v) {name : String}
    (hobject : (v.field? "object").bind Json.identName? = some name) :
    (Roots.ofConfig config).get? name = none := by
  obtain ⟨object, hobject, hname⟩ := Option.bind_eq_some_iff.mp hobject
  exact (h.of_holds (Json.holds_of_field? hobject)).get?_eq_none hname

theorem not_restsOn (h : config.Unrelated v) (ref : CollectionRef) :
    ¬RestsOn (Roots.ofConfig config) v ref := by
  rintro ⟨base, hleads, hdenotes⟩
  have hbase := h.of_holds hleads.holds
  cases hdenotes with
  | member _ hobject hroot _ => cases hroot.symm.trans (hbase.object_get?_eq_none hobject)
  | identifier hname hroot => cases hroot.symm.trans (hbase.get?_eq_none hname)

theorem extended_eq (h : config.Unrelated v) :
    (Roots.ofConfig config).extended v = Roots.ofConfig config := by
  rw [Roots.extended]
  split
  · next hkind =>
    have hmatch := (h v (.refl v)).2 hkind
    cases hdeclaration : (Roots.ofConfig config).declaration v with
    | skip why => rfl
    | matched found =>
      rw [hdeclaration] at hmatch
      cases hmatch
  · rfl

theorem isCollection_eq_false (h : config.Unrelated v) :
    isCollection v (Roots.ofConfig config) = false := by
  rw [Bool.eq_false_iff, isCollection]
  intro hcollection
  split at hcollection
  · obtain ⟨_, hmatched⟩ := Outcome.isMatch_eq_true_iff.mp hcollection
    obtain ⟨name, db, collection, hname, hroot⟩ := collectionIdentifier_eq_matched_iff.mp hmatched
    cases hroot.symm.trans (h.get?_eq_none hname)
  · obtain ⟨_, hmatched⟩ := Outcome.isMatch_eq_true_iff.mp hcollection
    obtain ⟨name, db, property, hobject, hroot, -⟩ := databaseMember_eq_matched_iff.mp hmatched
    cases hroot.symm.trans (h.object_get?_eq_none hobject)

theorem unrelated_null (config : Config) : config.Unrelated .null := by
  rintro w ⟨p, hp⟩
  obtain rfl := Json.eq_nil_of_at? rfl hp
  cases hp
  exact ⟨by rintro name ⟨⟩, by rintro ⟨⟩⟩

theorem isMisdirectedWrite_eq_false (h : config.Unrelated v) :
    isMisdirectedWrite v (Roots.ofConfig config) = false := by
  rw [isMisdirectedWrite]
  split
  · rfl
  · next m hm =>
    obtain ⟨target, right, object, method, hassigns, hcalls, rfl⟩ := reassignedFrom_iff.mp hm
    -- A missing target is `null`, which no configuration cares for.
    have htarget : config.Unrelated target := by
      rw [← hassigns.target]
      cases hleft : v.field? "left" with
      | none => exact unrelated_null config
      | some left => exact h.of_holds (Json.holds_of_field? hleft)
    have hcollection := (htarget.of_holds target.holds_unparen).isCollection_eq_false
    have hget : Bindings.get? [("target", target), ("source", object),
        ("method", .string method)] "target" = some target ∧ Bindings.get? [("target", target),
          ("source", object), ("method", .string method)] "source" = some object := ⟨rfl, rfl⟩
    simp only [hget, hassigns.right, hcollection, Bool.not_false, Bool.or_true, if_true]

end Config.Unrelated

/-! ## Visits that find nothing -/

/-- A value that is looked at in a visit, as long as nothing around it is recognized: what stands in
trivia, in the target of an assignment or in an object without a kind is not. -/
inductive Json.Exposes : Json → Json → Prop
  | self (v : Json) : Exposes v v
  | item {items : List Json} {v w : Json} (hv : v ∈ items) (h : Exposes v w) :
      Exposes (.array items) w
  | entry {entries : List (String × Json)} {key : String} {v w : Json}
      (hkind : (Json.kindOf? entries).isSome = true) (hentry : (key, v) ∈ entries)
      (htrivia : isTrivia key = false) (htype : key ≠ "type")
      (htarget : ¬(Json.kindOf? entries = some Kind.assignment ∧ key = "left"))
      (h : Exposes v w) : Exposes (.object entries) w

namespace Program

/-- So many nodes that look like operations are nested somewhere in what is looked at of a value. -/
def Overruns (limit : Nat) (v : Json) : Prop := ∃ node, v.Exposes node ∧ Nests limit node

/-- A visit that finds nothing: it fails for the recursion limit in some cases, and otherwise leaves
the roots as they are and no sites. -/
structure Barren (limit : Nat) (roots : Roots) (deep : Prop) (t : Traced Visited) : Prop where
  ok : ¬deep → t.result = .ok ⟨roots, []⟩
  error : deep → t.result = .error (.tooDeep limit)

variable {config : Config} {deep deep' : Prop} {t : Traced Visited}

theorem Barren.congr (h : Barren limit roots deep t) (hdeep : deep' ↔ deep) :
    Barren limit roots deep' t :=
  ⟨fun hnot ↦ h.ok (mt hdeep.mpr hnot), fun hdeep' ↦ h.error (hdeep.mp hdeep')⟩

theorem barren_nothing (limit : Nat) (roots : Roots) (hdeep : ¬deep) :
    Barren limit roots deep (pure ⟨roots, []⟩) :=
  ⟨fun _ ↦ rfl, fun h ↦ absurd h hdeep⟩

theorem Barren.append {first : Traced Visited} {rest : Roots → Traced Visited}
    (hfirst : Barren limit roots deep first) (hrest : Barren limit roots deep' (rest roots)) :
    Barren limit roots (deep ∨ deep') (do
      let a ← first
      let b ← rest a.roots
      return ⟨b.roots, a.sites ++ b.sites⟩) where
  ok := by
    intro hnot
    obtain ⟨hnot, hnot'⟩ := not_or.mp hnot
    simp only [Traced.result_bind, hfirst.ok hnot, Except.bind, hrest.ok hnot']
    rfl
  error := by
    intro hdeep
    by_cases hfront : deep
    · simp only [Traced.result_bind, hfirst.error hfront, Except.bind]
    · have hback := hdeep.resolve_left hfront
      simp only [Traced.result_bind, hfirst.ok hfront, Except.bind, hrest.error hback]

/-! ### Where a visit overruns -/

theorem not_nests_of_kind {v : Json} (hlimit : 0 < limit) (hkind : v.unparen.kind? = none) :
    ¬Nests limit v := by
  intro h
  cases h with
  | zero => omega
  | succ hnode _ =>
    obtain ⟨r, hr⟩ := hnode.exists_recognizer
    rw [hkind] at hr
    cases hr

theorem overruns_array_iff (hlimit : 0 < limit) {items : List Json} :
    Overruns limit (.array items) ↔ ∃ v ∈ items, Overruns limit v := by
  constructor
  · rintro ⟨node, hexposes, hnests⟩
    cases hexposes with
    | self => exact absurd hnests (not_nests_of_kind hlimit rfl)
    | item hv h => exact ⟨_, hv, node, h, hnests⟩
  · rintro ⟨v, hv, node, hexposes, hnests⟩
    exact ⟨node, .item hv hexposes, hnests⟩

theorem not_overruns_of_kind {v : Json} (hlimit : 0 < limit) (harray : ∀ items, v ≠ .array items)
    (hkind : v.kind? = none) : ¬Overruns limit v := by
  rintro ⟨node, hexposes, hnests⟩
  cases hexposes with
  | self =>
    have hwrapped : v.wrapped? = none := by
      cases v with
      | object entries => exact if_neg fun hparen ↦ by cases hkind.symm.trans hparen
      | _ => rfl
    refine not_nests_of_kind hlimit ?_ hnests
    rwa [Json.unparen_of_wrapped?_eq_none hwrapped]
  | item _ _ => exact harray _ rfl
  | entry hsome _ _ _ _ _ =>
    rw [Json.kind?] at hkind
    rw [hkind] at hsome
    cases hsome

theorem isPassedOver_eq_false_iff {entries : List (String × Json)}
    (h : config.Unrelated (.object entries)) {key : String} :
    isPassedOver (Roots.ofConfig config) (.object entries) key = false ↔
      isTrivia key = false ∧ key ≠ "type" ∧
        ¬(Json.kindOf? entries = some Kind.assignment ∧ key = "left") := by
  have hkind : (Json.object entries).isKind Kind.assignment = true ↔
      Json.kindOf? entries = some Kind.assignment := Json.isKind_iff
  rw [isPassedOver, h.isMisdirectedWrite_eq_false, ← hkind]
  simp [and_assoc]

/-- A visit overruns on a node, or on an entry of it that is looked at. -/
theorem overruns_object_iff (hlimit : 0 < limit) {entries : List (String × Json)}
    (hkind : (Json.kindOf? entries).isSome = true) (h : config.Unrelated (.object entries)) :
    Overruns limit (.object entries) ↔
      ((∃ r, (Json.kindOf? entries).bind Recognizer.ofKind? = some r) ∧
          Nests limit (.object entries)) ∨
        ∃ e ∈ entries, isPassedOver (Roots.ofConfig config) (.object entries) e.1 = false ∧
          Overruns limit e.2 := by
  constructor
  · rintro ⟨node, hexposes, hnests⟩
    cases hexposes with
    | self =>
      cases hwrapped : (Json.object entries).wrapped? with
      | none =>
        left
        refine ⟨?_, hnests⟩
        cases hnests with
        | zero => omega
        | succ hnode _ =>
          rw [← Json.kind?, ← Json.unparen_of_wrapped?_eq_none hwrapped]
          exact hnode.exists_recognizer
      | some w =>
        -- What is in the parentheses is looked at as well, and nested as deep.
        right
        obtain ⟨_, heq, hparen, hfind⟩ := Json.wrapped?_eq_some_iff.mp hwrapped
        cases heq
        refine ⟨("expression", w), Json.mem_of_find? hfind,
          (isPassedOver_eq_false_iff h).mpr ⟨rfl, by simp, by simp⟩,
          w, .self w, hnests.of_unparen_eq (Json.unparen_of_wrapped? hwrapped)⟩
    | entry _ hentry htrivia htype htarget hv =>
      exact Or.inr ⟨_, hentry, (isPassedOver_eq_false_iff h).mpr ⟨htrivia, htype, htarget⟩,
        node, hv, hnests⟩
  · rintro (⟨-, hnests⟩ | ⟨⟨key, v⟩, hentry, hopen, node, hexposes, hnests⟩)
    · exact ⟨_, .self _, hnests⟩
    · obtain ⟨htrivia, htype, htarget⟩ := (isPassedOver_eq_false_iff h).mp hopen
      exact ⟨node, .entry hkind hentry htrivia htype htarget hexposes, hnests⟩

/-! ### The visit -/

/-- A node that is offered to its recognizer in code without roots fails for the recursion limit, if
it is nested deep enough, and is ordinary otherwise. -/
theorem result_offer_of_unrelated (h : config.Unrelated node) :
    (offer limit (Roots.ofConfig config) node).result = .error (.tooDeep limit) ∧
      (∃ r, node.kind?.bind Recognizer.ofKind? = some r) ∧ Nests limit node ∨
    (offer limit (Roots.ofConfig config) node).result = .ok none ∧
      ¬((∃ r, node.kind?.bind Recognizer.ofKind? = some r) ∧ Nests limit node) := by
  rw [result_offer limit [], Stop.verdict]
  cases hr : node.kind?.bind Recognizer.ofKind? with
  | none => exact Or.inr ⟨rfl, by simp⟩
  | some r =>
    have hverdict : ((r.recognize (Roots.ofConfig config) limit node).verdict) =
        (Table.standard.resolveAt (Roots.ofConfig config) limit limit none node).verdict.map
          Resolved.command := by
      rw [Recognizer.verdict_recognize, Recognizer.verdict_analyze_operations hr]
    have hiff := Table.verdict_resolveAt_eq_tooDeep_iff h.not_restsOn (le_refl limit)
    simp only [hverdict]
    rcases Table.skipped_or_tooDeep_of_not_restsOn h.not_restsOn (le_refl limit) with
      hskipped | hdeep
    · rw [hskipped] at hiff ⊢
      exact Or.inr ⟨rfl, fun hnests ↦ by cases hiff.mpr hnests.2⟩
    · rw [hdeep]
      exact Or.inl ⟨rfl, ⟨r, rfl⟩, hiff.mp hdeep⟩

/-- A node is looked at as it is, since it declares nothing, and then so are its entries. -/
theorem barren_node (hlimit : 0 < limit) {entries : List (String × Json)}
    (hkind : (Json.kindOf? entries).isSome = true) (h : config.Unrelated (.object entries))
    (hinside : Barren limit (Roots.ofConfig config)
      (∃ e ∈ entries, isPassedOver (Roots.ofConfig config) (.object entries) e.1 = false ∧
        Overruns limit e.2)
      (visitEntries limit (isPassedOver (Roots.ofConfig config) (.object entries)) entries
        (Roots.ofConfig config))) :
    Barren limit (Roots.ofConfig config) (Overruns limit (.object entries))
      (visit limit (.object entries) (Roots.ofConfig config)) := by
  have hdeclare : (declare (Roots.ofConfig config) (.object entries)).result =
      .ok (Roots.ofConfig config) := by
    rw [result_declare, h.extended_eq]
  rw [visit, if_pos hkind]
  rcases result_offer_of_unrelated h with ⟨hoffer, hdeep⟩ | ⟨hoffer, hnot⟩
  · have hoverruns := (overruns_object_iff hlimit hkind h).mpr (Or.inl hdeep)
    refine ⟨fun hnot ↦ absurd hoverruns hnot, fun _ ↦ ?_⟩
    simp only [Traced.result_bind, hdeclare, Except.bind, hoffer]
  · have hiff := (overruns_object_iff hlimit hkind h).trans (or_iff_right hnot)
    refine Barren.congr ⟨fun hnot ↦ ?_, fun hdeep ↦ ?_⟩ hiff
    · simp only [Traced.result_bind, hdeclare, Except.bind, hoffer, hinside.ok hnot]
    · simp only [Traced.result_bind, hdeclare, Except.bind, hoffer, hinside.error hdeep]

mutual

theorem barren_visit (hlimit : 0 < limit) : ∀ v : Json, config.Unrelated v →
    Barren limit (Roots.ofConfig config) (Overruns limit v)
      (visit limit v (Roots.ofConfig config))
  | .null, _ => barren_nothing _ _ (not_overruns_of_kind hlimit (by simp) rfl)
  | .bool _, _ => barren_nothing _ _ (not_overruns_of_kind hlimit (by simp) rfl)
  | .number _, _ => barren_nothing _ _ (not_overruns_of_kind hlimit (by simp) rfl)
  | .string _, _ => barren_nothing _ _ (not_overruns_of_kind hlimit (by simp) rfl)
  | .array items, h => by
    have hitems : ∀ v ∈ items, config.Unrelated v :=
      fun v hv ↦ h.of_holds (Json.holds_of_mem_array hv)
    exact (barren_visitItems hlimit items hitems).congr (overruns_array_iff hlimit)
  | .object entries, h => by
    by_cases hkind : (Json.kindOf? entries).isSome = true
    · have hentries : ∀ e ∈ entries, config.Unrelated e.2 :=
        fun e he ↦ h.of_holds (Json.holds_of_mem_object he)
      exact barren_node hlimit hkind h (barren_visitEntries hlimit _ entries hentries)
    · rw [visit, if_neg hkind]
      exact barren_nothing _ _ (not_overruns_of_kind hlimit (by simp)
        (Option.not_isSome_iff_eq_none.mp hkind))

theorem barren_visitItems (hlimit : 0 < limit) : ∀ items : List Json,
    (∀ v ∈ items, config.Unrelated v) →
      Barren limit (Roots.ofConfig config) (∃ v ∈ items, Overruns limit v)
        (visitItems limit items (Roots.ofConfig config))
  | [], _ => barren_nothing _ _ (by simp)
  | v :: rest, h => by
    obtain ⟨hv, hrest⟩ := List.forall_mem_cons.mp h
    have hothers := barren_visitItems hlimit rest hrest
    rw [visitItems]
    exact ((barren_visit hlimit v hv).append hothers).congr (by simp)

theorem barren_visitEntries (hlimit : 0 < limit) (passedOver : String → Bool) :
    ∀ entries : List (String × Json), (∀ e ∈ entries, config.Unrelated e.2) →
      Barren limit (Roots.ofConfig config)
        (∃ e ∈ entries, passedOver e.1 = false ∧ Overruns limit e.2)
        (visitEntries limit passedOver entries (Roots.ofConfig config))
  | [], _ => barren_nothing _ _ (by simp)
  | (key, v) :: rest, h => by
    obtain ⟨hv, hrest⟩ := List.forall_mem_cons.mp h
    have hothers := barren_visitEntries hlimit passedOver rest hrest
    rw [visitEntries]
    by_cases hkey : passedOver key = true
    · rw [if_pos hkey]
      exact hothers.congr (by simp [hkey])
    · rw [if_neg hkey]
      exact ((barren_visit hlimit v hv).append hothers).congr (by simp [hkey])

end

/-! ## Ordinary code -/

theorem pos_of_validate (h : config.validate = .ok ()) : 0 < config.recursionLimit := by
  rw [Config.validate] at h
  grind

/-- **Ordinary code has no sites, and fails for the recursion limit at most.** Let no identifier in
a program have the name of a root, and no declaration call a connector. Then the analysis fails for
the recursion limit if what is looked at of the program has as many nodes nested as there are
levels, each of which looks like an operation on the next; otherwise it succeeds, without sites. -/
theorem analyze_unrelated {program : Json} (hconfig : config.validate = .ok ())
    (hunrelated : config.Unrelated program) :
    ((analyze config program).result = .ok [] ↔
      ¬Overruns config.recursionLimit program) ∧
    ((analyze config program).result = .error (.tooDeep config.recursionLimit) ↔
      Overruns config.recursionLimit program) := by
  have hbarren := barren_visit (pos_of_validate hconfig) program hunrelated
  have hresult : ∀ r, (visit config.recursionLimit program (Roots.ofConfig config)).result = r →
      (analyze config program).result = r.map Visited.sites := by
    rintro r rfl
    rw [analyze, hconfig]
    simp only [Traced.result_bind]
    cases (visit config.recursionLimit program (Roots.ofConfig config)).result <;> rfl
  by_cases hdeep : Overruns config.recursionLimit program
  · rw [hresult _ (hbarren.error hdeep)]
    simp [Except.map, hdeep]
  · rw [hresult _ (hbarren.ok hdeep)]
    simp [Except.map, hdeep]

/-- With three levels, `xs.filter(f).map(g)` is ordinary code where `db` is the only root. -/
theorem analyze_unrelated_filter :
    let config : Config := { roots := ["db"], recursionLimit := 3 }
    let filtered := Tree.method (Tree.identifier "xs") "filter" [Tree.identifier "f"]
    let program := Tree.program
      [Tree.expressionStatement (Tree.method filtered "map" [Tree.identifier "g"])]
    config.validate = .ok () ∧ config.Unrelated program ∧ ¬Overruns 3 program ∧
      (analyze config program).result = .ok [] := by
  intro config filtered program
  have hconfig : config.validate = .ok () := rfl
  have hunrelated : config.Unrelated program := by decide +kernel
  have hresult : (analyze config program).result = .ok [] :=
    toOption_eq_some_iff.mp (by decide +kernel)
  exact ⟨hconfig, hunrelated, (analyze_unrelated hconfig hunrelated).1.mp hresult, hresult⟩

/-- With two levels, the same code stops the analysis, though there is no root in it and nothing is
malformed. -/
theorem analyze_tooDeep_of_unrelated :
    let config : Config := { roots := ["db"], recursionLimit := 2 }
    let filtered := Tree.method (Tree.identifier "xs") "filter" [Tree.identifier "f"]
    let program := Tree.program
      [Tree.expressionStatement (Tree.method filtered "map" [Tree.identifier "g"])]
    config.validate = .ok () ∧ config.Unrelated program ∧
      (analyze config program).result = .error (.tooDeep 2) := by
  intro config filtered program
  exact ⟨rfl, by decide +kernel, rfl⟩

end Program

end FluentQuery
