import FluentQuery.Node.Build
import FluentQuery.Operation.Standard
import FluentQuery.Proofs.Verdict
import Mathlib.Data.List.Chain

/-!
# The lineage of a match

A match over any table has a lineage: the operations that were committed to, from the outermost to
the one that starts the chain, each with the node it stands on. Nothing is assumed of the table. Its
rows may share names, and shape tests, extractors and builders are arbitrary functions; what a match
rests on is only what the resolver itself checked.

The lineage is found by recursion on the levels of resolution. A level contributes one stage, and
the whitelist, which holds at the outermost level only, says nothing of the others.
-/

namespace FluentQuery

/-- An operation, and the node that it stands on. -/
structure Stage where
  op : Operation
  node : Json

namespace Stage

/-- The operation is in the table, and the node has its kind, its name and its shape. -/
structure Fits (table : Table) (roots : Roots) (s : Stage) : Prop where
  mem : s.op ∈ table.operations
  applies : s.op.applies s.node = true
  shape : s.op.testShape roots s.node = .matched ()

/-- One stage directly after another: the other stands where the operation looks for the node before
it, and is one that the operation may follow. -/
structure After (table : Table) (outer inner : Stage) : Prop where
  predecessor : (outer.op.attachment.predecessor? outer.node).map Json.unparen = some inner.node
  follows : inner.op.id ∈ outer.op.follows
  canFollow : table.canFollow outer.op.id inner.op.id = true

/-- The command of a stage, built on the one before it from the arguments that its node gives. -/
def extend (roots : Roots) (s : Stage) (source : Option Command) : Option (Option Command) := do
  let arguments ← (s.op.extract s.node roots).toOption
  return some (← s.op.build source arguments)

end Stage

/-- Stages that lead to a resolved node, the outermost first. -/
structure Lineage (table : Table) (roots : Roots) (node : Json) (stages : List Stage)
    (r : Resolved) : Prop where
  /-- The outermost stage stands on the node itself, without parentheses. -/
  outermost : ∃ s ∈ stages.head?, s.node = node.unparen ∧ s.op.id = r.id
  fits : ∀ s ∈ stages, s.Fits table roots
  linked : stages.IsChain (Stage.After table)
  /-- The innermost operation starts the chain. -/
  innermost : ∃ s ∈ stages.getLast?, s.op.isInitial = true
  /-- The command is built from the innermost stage outward. -/
  command : stages.foldrM (Stage.extend roots) none = some (some r.command)

/-! ## Extending a lineage -/

variable {table : Table} {roots : Roots} {node : Json} {r : Resolved}

theorem Stage.extend_of_commit {s : Stage} {source : Option Command}
    (h : (s.op.commit roots s.node source).verdict = .matched r) :
    r.id = s.op.id ∧ s.extend roots source = some (some r.command) := by
  obtain ⟨arguments, command, hextract, hbuild, rfl⟩ :=
    Operation.verdict_commit_eq_matched_iff.mp h
  refine ⟨rfl, ?_⟩
  simp [extend, hextract, hbuild, Outcome.toOption]

/-- The lineage of an operation that starts a chain is a single stage. -/
theorem Lineage.of_initial {op : Operation} (hfits : (Stage.mk op node.unparen).Fits table roots)
    (hinitial : op.isInitial = true)
    (hcommit : (op.commit roots node.unparen none).verdict = .matched r) :
    Lineage table roots node [⟨op, node.unparen⟩] r := by
  obtain ⟨hid, hextend⟩ := Stage.extend_of_commit (s := ⟨op, node.unparen⟩) hcommit
  refine ⟨⟨_, rfl, rfl, hid.symm⟩, ?_, List.isChain_singleton _, ⟨_, rfl, hinitial⟩, ?_⟩
  · intro s hs
    rw [List.mem_singleton.mp hs]
    exact hfits
  · simp [hextend]

/-- An operation that is attached to a resolved node adds one stage to its lineage. -/
theorem Lineage.cons {op : Operation} {inner : Json} {before : Resolved} {stages : List Stage}
    (hbefore : Lineage table roots inner stages before)
    (hfits : (Stage.mk op node.unparen).Fits table roots)
    (hinner : op.attachment.predecessor? node.unparen = some inner)
    (hfollows : before.id ∈ op.follows)
    (hcommit : (op.commit roots node.unparen (some before.command)).verdict = .matched r) :
    Lineage table roots node (⟨op, node.unparen⟩ :: stages) r := by
  obtain ⟨hid, hextend⟩ := Stage.extend_of_commit (s := ⟨op, node.unparen⟩) hcommit
  obtain ⟨next, hnext, hnode, hnextId⟩ := hbefore.outermost
  obtain ⟨last, hlast, hinitial⟩ := hbefore.innermost
  have hfollowsNext : next.op.id ∈ op.follows := hnextId ▸ hfollows
  have hafter : Stage.After table ⟨op, node.unparen⟩ next :=
    ⟨by rw [hinner, Option.map_some, hnode], hfollowsNext,
      Table.canFollow_of_mem hfits.mem hfollowsNext⟩
  refine ⟨⟨_, rfl, rfl, hid.symm⟩, ?_, ?_, ⟨last, ?_, hinitial⟩, ?_⟩
  · intro s hs
    rcases List.mem_cons.mp hs with rfl | hs
    · exact hfits
    · exact hbefore.fits s hs
  · refine hbefore.linked.cons fun s hs ↦ ?_
    rw [Option.mem_unique hs hnext]
    exact hafter
  · rw [Option.mem_def, List.getLast?_cons, Option.mem_def.mp hlast]
    rfl
  · rw [List.foldrM_cons, hbefore.command]
    exact hextend

/-! ## Every match has one -/

/-- The lineage of a match within some levels of resolution has at most as many stages. -/
theorem exists_lineage_of_resolveAt {limit depth : Nat} {whitelist : Option (List OpId)}
    (h : (table.resolveAt roots limit depth whitelist node).verdict = .matched r) :
    ∃ stages, Lineage table roots node stages r ∧ stages.length ≤ depth ∧
      ∀ ids, whitelist = some ids → r.id ∈ ids := by
  -- Only the outermost level has a whitelist, so the induction is over all of them.
  induction depth generalizing node whitelist r with
  | zero => simp at h
  | succ depth ih =>
    obtain ⟨op, hmem, hids, happlies, hattempt⟩ := Table.resolveAt_succ_cases h (by simp)
    obtain ⟨hshape, ⟨_, _, _, _, _, hfailed⟩ | ⟨source, hattached, hcommit⟩⟩ :=
      Operation.attempt_cases hattempt (by simp)
    · cases hfailed
    have hfits : (Stage.mk op node.unparen).Fits table roots := ⟨hmem, happlies, hshape⟩
    have hid : r.id = op.id :=
      (Stage.extend_of_commit (s := ⟨op, node.unparen⟩) hcommit).1
    have hwhitelist : ∀ ids, whitelist = some ids → r.id ∈ ids := by
      intro ids hsome
      rw [hid]
      exact hids ids hsome
    cases hattached with
    | initial hinitial =>
      exact ⟨_, .of_initial hfits hinitial hcommit, Nat.succ_le_succ (Nat.zero_le depth),
        hwhitelist⟩
    | after hinitial hinner hbefore hfollows =>
      obtain ⟨stages, hlineage, hlength, -⟩ := ih hbefore
      exact ⟨_, hlineage.cons hfits hinner hfollows hcommit, Nat.succ_le_succ hlength, hwhitelist⟩

/-- **Soundness of resolution.** Whatever the table, a match of a node as one of some operations has
a lineage of no more stages than the recursion limit, and its outermost operation is one of
those. -/
theorem analyze_matched_lineage {limit : Nat} {whitelist : List OpId}
    (h : (table.analyze roots limit whitelist node).result = .ok (.matched r)) :
    ∃ stages, stages ≠ [] ∧ stages.length ≤ limit ∧ r.id ∈ whitelist ∧
      Lineage table roots node stages r := by
  obtain ⟨stages, hlineage, hlength, hwhitelist⟩ :=
    exists_lineage_of_resolveAt (Traced.verdict_eq_matched_iff.mpr h)
  refine ⟨stages, ?_, hlength, hwhitelist whitelist rfl, hlineage⟩
  rintro rfl
  obtain ⟨s, hs, -⟩ := hlineage.outermost
  exact absurd hs (by simp)

/-- `db.todos.filter(x => x.done).first()` over a table with a method of its own, in three
stages. -/
theorem analyze_matched_lineage_first :
    let first : Operation := ⟨.custom "first", .call, some "first", none, [.filter],
      fun _ _ ↦ .matched (.query (.slice 0 (some 1))), buildQuery⟩
    let table := Table.standard.register first
    let roots : Roots := ⟨[("db", ⟨"main", none⟩)], []⟩
    let done := Tree.member (Tree.identifier "x") "done"
    let todos := Tree.member (Tree.identifier "db") "todos"
    let node := Tree.method (Tree.method todos "filter" [Tree.arrow ["x"] done]) "first" []
    let r : Resolved := ⟨.custom "first",
      .query (.slice 0 (some 1)) (.query (.filter done) (.collection ⟨"main", "todos"⟩))⟩
    (table.analyze roots 3 [.custom "first"] node).result = .ok (.matched r) ∧
      ∃ stages, stages ≠ [] ∧ stages.length ≤ 3 ∧ r.id ∈ [OpId.custom "first"] ∧
        Lineage table roots node stages r := by
  intro first table roots done todos node r
  have h : (table.analyze roots 3 [.custom "first"] node).result = .ok (.matched r) := rfl
  exact ⟨h, analyze_matched_lineage h⟩

end FluentQuery
