import FluentQuery.Proofs.Depth
import FluentQuery.Proofs.Reassign
import Mathlib.Logic.Relation

/-!
# Nothing is recognized without a root

A malformed operation stops the whole analysis, so it must not be found in code that only looks like
a query. What keeps it from that is the order of things in an attempt: a node is committed to an
operation only after the node before it has resolved, and resolution starts nowhere but at an
identifier that is bound.

Here the nodes of a chain are linked by `Json.predecessor?`, which looks at the node alone, whatever
row of the table stands on it. Both a match and a failure are carried along these links by induction
on the levels of resolution. At the end of the links is a node that denotes a collection; and a node
at fault has a source that resolves by itself, with as many levels as there are at all.
-/

namespace FluentQuery

namespace Json

/-- The node before a node in a chain: the object of the method that a call calls, the object of a
member access, or the target of an assignment. -/
def predecessor? (node : Json) : Option Json :=
  if node.unparen.isKind Kind.call then (node.field? "callee").bind (·.field? "object")
  else if node.unparen.isKind Kind.member then node.field? "object"
  else if node.unparen.isKind Kind.assignment then node.field? "left"
  else none

/-- A node is reached from another by going to the node before, any number of times. -/
def LeadsTo : Json → Json → Prop :=
  Relation.ReflTransGen fun outer inner ↦ outer.predecessor? = some inner

end Json

/-- The chain that a node ends starts at a node that denotes the given collection. -/
def RestsOn (roots : Roots) (node : Json) (ref : CollectionRef) : Prop :=
  ∃ base, node.LeadsTo base ∧ Denotes roots base ref

/-- A node is committed to an operation of the standard table: it fits the operation, and the node
before it resolves by itself, as one that the operation may follow. -/
structure Commits (roots : Roots) (limit : Nat) (node : Json) (op : Operation)
    (before : Resolved) : Prop where
  mem : op ∈ Table.standard.operations
  fits : op.Fits roots node.unparen
  source : ∃ source, node.predecessor? = some source ∧
    (Table.standard.analyze roots limit OpId.builtin source).result = .ok (.matched before)
  follows : before.id ∈ op.follows

variable {roots : Roots} {ref : CollectionRef} {node inner : Json} {op : Operation}
  {limit depth : Nat} {whitelist : Option (List OpId)}

/-! ## Links -/

/-- The row that stands on a node looks for the node before where the link goes. -/
theorem Operation.Fits.predecessor?_eq (h : op.Fits roots node.unparen) :
    op.attachment.predecessor? node.unparen = node.predecessor? := by
  obtain ⟨hkind, -⟩ := Operation.applies_iff.mp h.applies
  have hother : ∀ kind, op.attachment.kind ≠ kind → ¬node.unparen.isKind kind = true :=
    fun kind hne hother ↦ hne (Json.isKind_unique (Json.isKind_iff.mpr hkind) hother)
  rw [← Json.isKind_iff] at hkind
  rw [Json.predecessor?]
  cases hattachment : op.attachment with
  | call =>
    rw [hattachment, Attachment.kind] at hkind
    rw [if_pos hkind, Attachment.predecessor?, Json.field?_unparen]
  | member =>
    rw [hattachment, Attachment.kind] at hkind hother
    rw [if_neg (hother _ (by decide)), if_pos hkind, Attachment.predecessor?, Json.field?_unparen]
  | identifier =>
    rw [hattachment] at hother
    rw [if_neg (hother _ (by decide)), if_neg (hother _ (by decide)),
      if_neg (hother _ (by decide)), Attachment.predecessor?]
  | assignment =>
    rw [hattachment, Attachment.kind] at hkind hother
    rw [if_neg (hother _ (by decide)), if_neg (hother _ (by decide)), if_pos hkind,
      Attachment.predecessor?, Json.field?_unparen]

theorem RestsOn.of_predecessor (hlink : node.predecessor? = some inner)
    (h : RestsOn roots inner ref) : RestsOn roots node ref := by
  obtain ⟨base, hleads, hdenotes⟩ := h
  exact ⟨base, .head hlink hleads, hdenotes⟩

/-! ## Matches -/

theorem Operation.Builds.root_eq {before command : Command}
    (h : op.Builds (some before) command) : command.root = before.root := by
  cases h <;> rfl

namespace Table

/-- The rows without a node before them are those of collections. -/
theorem id_eq_root_of_isInitial (hop : op ∈ standard.operations) (hinitial : op.isInitial = true) :
    op.id = .root := by
  rcases eq_databaseRoot_or_collectionRoot hop hinitial with rfl | rfl
  · rfl
  · rfl

/-- A node that resolves denotes a collection, or fits an operation that follows what the node
before resolves to. -/
theorem step_of_resolveAt {r : Resolved}
    (h : (standard.resolveAt roots limit (depth + 1) whitelist node).verdict = .matched r) :
    (∃ ref, Denotes roots node ref ∧ r.command = .collection ref) ∨
      ∃ op inner before arguments, op ∈ standard.operations ∧ op.isInitial = false ∧
        op.Fits roots node.unparen ∧ node.predecessor? = some inner ∧
          (standard.resolveAt roots limit depth none inner).verdict = .matched before ∧
            before.id ∈ op.follows ∧ op.extract node.unparen roots = .matched arguments ∧
              op.build (some before.command) arguments = some r.command := by
  obtain ⟨op, hop, -, happlies, hattempt⟩ := resolveAt_succ_cases h (by simp)
  obtain ⟨hshape, ⟨_, _, _, _, _, hfailed⟩ | ⟨source, hattached, hcommit⟩⟩ :=
    Operation.attempt_cases hattempt (by simp)
  · cases hfailed
  have hfits : op.Fits roots node.unparen := ⟨happlies, hshape⟩
  obtain ⟨arguments, command, hextract, hbuild, rfl⟩ :=
    Operation.verdict_commit_eq_matched_iff.mp hcommit
  cases hattached with
  | initial hinitial =>
    exact Or.inl (exists_denotes_of_resolveAt h (id_eq_root_of_isInitial hop hinitial))
  | @after inner before hinitial hinner hbefore hfollows =>
    rw [hfits.predecessor?_eq] at hinner
    exact Or.inr ⟨op, inner, before, arguments, hop, hinitial, hfits, hinner, hbefore, hfollows,
      hextract, hbuild⟩

theorem restsOn_of_resolveAt {r : Resolved}
    (h : (standard.resolveAt roots limit depth whitelist node).verdict = .matched r) :
    RestsOn roots node r.command.root := by
  induction depth generalizing node whitelist r with
  | zero => cases h
  | succ depth ih =>
    rcases step_of_resolveAt h with ⟨ref, hdenotes, hcommand⟩ | ⟨op, inner, before, arguments, hop,
      hinitial, -, hlink, hbefore, -, hextract, hbuild⟩
    · exact ⟨node, .refl, by rwa [hcommand]⟩
    · have hsource : (some before.command).isNone = op.isInitial := hinitial.symm
      obtain ⟨command, hcommand, hbuilds⟩ := exists_builds_of_extract hop hsource hextract
      cases hcommand.symm.trans hbuild
      rw [hbuilds.root_eq]
      exact (ih hbefore).of_predecessor hlink

/-! ## Failures -/

/-- All rows of the standard table have a name of their own, so allowing these is allowing
everything. -/
theorem analyze_builtin (roots : Roots) (limit : Nat) (node : Json) :
    standard.analyze roots limit OpId.builtin node =
      standard.resolveAt roots limit limit none node := by
  have hrows : ∀ op ∈ standard.operations, OpId.builtin.contains op.id = true := by decide
  have hcandidates : standard.candidates (some OpId.builtin) node.unparen =
      standard.candidates none node.unparen := by
    refine List.filter_congr fun op hop ↦ ?_
    simp only [hrows op hop]
  rw [analyze]
  cases limit with
  | zero => rfl
  | succ limit => rw [resolveAt, resolveAt, resolveStep, resolveStep, hcandidates]

theorem commits_of_attached (hop : op ∈ standard.operations) (hfits : op.Fits roots node.unparen)
    (hdepth : depth ≤ limit) (hinner : op.attachment.predecessor? node.unparen = some inner)
    {before : Resolved}
    (hbefore : (standard.resolveAt roots limit depth none inner).verdict = .matched before)
    (hfollows : before.id ∈ op.follows) : Commits roots limit node op before := by
  refine ⟨hop, hfits, ⟨inner, hfits.predecessor?_eq.symm.trans hinner, ?_⟩, hfollows⟩
  have hmore : standard.resolveAt roots limit limit none inner =
      standard.resolveAt roots limit depth none inner :=
    resolveAt_eq_of_le hdepth (by simp [hbefore])
  rw [analyze_builtin, hmore]
  exact Traced.verdict_eq_matched_iff.mp hbefore

/-- A failure within some levels is that of the recursion limit, or that of a node on the way inward
which is committed to an operation and has no arguments for it. -/
theorem exists_commits_of_resolveAt {failure : Failure} (hdepth : depth ≤ limit)
    (h : (standard.resolveAt roots limit depth whitelist node).verdict = .failed failure) :
    failure = .tooDeep limit ∨ ∃ offending op before why, node.LeadsTo offending ∧
      Commits roots limit offending op before ∧
        op.extract offending.unparen roots = .skip why ∧
          failure = .malformed op.id why offending.unparen.span? := by
  induction depth generalizing node whitelist with
  | zero =>
    cases h
    exact Or.inl rfl
  | succ depth ih =>
    obtain ⟨op, hop, -, happlies, hattempt⟩ := resolveAt_succ_cases h (by simp)
    obtain ⟨hshape, ⟨inner, _, _, hinner, hfailed, hfailure⟩ | ⟨source, hattached, hcommit⟩⟩ :=
      Operation.attempt_cases hattempt (by simp)
    · -- The node before fails, and with it this one.
      cases hfailure
      have hlink := (Operation.Fits.mk happlies hshape).predecessor?_eq.symm.trans hinner
      rcases ih (by omega) hfailed with hdeep | ⟨offending, op', before, why, hleads, hrest⟩
      · exact Or.inl hdeep
      · exact Or.inr ⟨offending, op', before, why, .head hlink hleads, hrest⟩
    · obtain ⟨why, hextract, rfl⟩ | ⟨arguments, hextract, hbuild, -⟩ :=
        Operation.verdict_commit_eq_failed_iff.mp hcommit
      · cases hattached with
        | initial hinitial =>
          obtain ⟨arguments, harguments⟩ :=
            exists_extract_of_root hop (id_eq_root_of_isInitial hop hinitial) hshape
          cases hextract.symm.trans harguments
        | after _ hinner hbefore hfollows =>
          have hcommits := commits_of_attached hop ⟨happlies, hshape⟩ (by omega) hinner hbefore
            hfollows
          exact Or.inr ⟨node, op, _, why, .refl, hcommits, hextract, rfl⟩
      · obtain ⟨command, hcommand, -⟩ := exists_builds_of_extract hop hattached.isNone_eq hextract
        cases hbuild.symm.trans hcommand

end Table

/-- What a node is committed to rests on the same collection as its source. -/
theorem Commits.restsOn {before : Resolved} (h : Commits roots limit node op before) :
    RestsOn roots node before.command.root := by
  obtain ⟨source, hlink, hsource⟩ := h.source
  rw [Table.analyze_builtin, ← Traced.verdict_eq_matched_iff] at hsource
  exact (Table.restsOn_of_resolveAt hsource).of_predecessor hlink

/-! ## Recognition rests on a root -/

/-- **Nothing is recognized, and nothing is malformed, except on top of a root.** From a recognized
node the links lead inward to a node that denotes the collection of its command: a member of an
identifier bound to a database, or an identifier bound to the collection. If a recognizer fails,
then for the recursion limit, or for a node on the way inward that is committed to an operation: its
source resolves by itself to something that the operation may follow, its own links lead to such a
collection, and its arguments cannot be read. -/
theorem recognize_restsOn (r : Recognizer) (roots : Roots) (limit : Nat) (node : Json) :
    (∀ command, (r.recognize roots limit node).result = .ok (.matched command) →
      RestsOn roots node command.root) ∧
    ∀ failure, (r.recognize roots limit node).result = .error failure →
      failure = .tooDeep limit ∨ ∃ offending op before why, node.LeadsTo offending ∧
        Commits roots limit offending op before ∧ RestsOn roots offending before.command.root ∧
          op.extract offending.unparen roots = .skip why ∧
            failure = .malformed op.id why offending.unparen.span? := by
  constructor
  · intro command h
    rw [← Traced.verdict_eq_matched_iff, Recognizer.verdict_recognize,
      Verdict.map_eq_matched_iff] at h
    obtain ⟨resolved, hresolved, rfl⟩ := h
    exact Table.restsOn_of_resolveAt hresolved
  · intro failure h
    rw [← Traced.verdict_eq_failed_iff, Recognizer.verdict_recognize,
      Verdict.map_eq_failed_iff] at h
    rcases Table.exists_commits_of_resolveAt le_rfl h with
      hdeep | ⟨offending, op, before, why, hleads, hcommits, hextract, hfailure⟩
    · exact Or.inl hdeep
    · exact Or.inr ⟨offending, op, before, why, hleads, hcommits, hcommits.restsOn, hextract,
        hfailure⟩

/-- `db.todos.filter(x => x.done).length` rests on `db.todos`, and so does the malformed `filter()`
in `db.todos.filter().length`. -/
theorem recognize_restsOn_todos :
    let roots : Roots := ⟨[("db", ⟨"main", none⟩)], []⟩
    let done := Tree.member (Tree.identifier "x") "done"
    let todos := Tree.member (Tree.identifier "db") "todos"
    let node := Tree.member (Tree.method todos "filter" [Tree.arrow ["x"] done]) "length"
    let broken := Tree.method todos "filter" []
    let command : Command := .value "length" (.query (.filter done) (.collection ⟨"main", "todos"⟩))
    (Recognizer.member.recognize roots 3 node).result = .ok (.matched command) ∧
      RestsOn roots node ⟨"main", "todos"⟩ ∧
      ∃ failure, (Recognizer.member.recognize roots 3 (Tree.member broken "length")).result =
          .error failure ∧ failure.operation? = some (.filter, none) ∧
        ∃ offending op before, (Tree.member broken "length").LeadsTo offending ∧
          Commits roots 3 offending op before ∧ RestsOn roots offending before.command.root := by
  intro roots done todos node broken command
  have hmatched : (Recognizer.member.recognize roots 3 node).result = .ok (.matched command) := rfl
  have hfailed : ∃ failure, (Recognizer.member.recognize roots 3
      (Tree.member broken "length")).result = .error failure ∧
        failure.operation? = some (.filter, none) := ⟨_, rfl, rfl⟩
  refine ⟨hmatched, (recognize_restsOn .member roots 3 node).1 _ hmatched, ?_⟩
  obtain ⟨failure, hfailure, hoperation⟩ := hfailed
  refine ⟨failure, hfailure, hoperation, ?_⟩
  rcases (recognize_restsOn .member roots 3 _).2 _ hfailure with
    rfl | ⟨offending, op, before, why, hleads, hcommits, hrests, -, -⟩
  · cases hoperation
  · exact ⟨offending, op, before, hleads, hcommits, hrests⟩

end FluentQuery
