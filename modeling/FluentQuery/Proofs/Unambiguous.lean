import FluentQuery.Proofs.Conservative

/-!
# The order of the rows

The operations of a table are tried in order, and the first one that matches, or fails, decides. In
the standard table this order does not matter. Most nodes fit one row at most: calls and member
accesses are told apart by name, assignments by their right side. Only a member of a database that
is named `length` fits two, and there the second has nothing to stand on, since its object is a
database and no collection.

So a row may be tried in vain, and what counts is that of two rows that fit a node one *is in vain*:
it needs a node before it, and no row of the table fits that node. Such a row skips, or is too deep
if there is no level left for the node before. Apart from that the rows in any other order come to
the same, level by level.
-/

namespace FluentQuery

variable {resolve resolve' : Json → Traced (Outcome Resolved)} {roots : Roots} {node : Json}
  {limit depth : Nat} {whitelist : Option (List OpId)} {op op' : Operation}

namespace Table

/-- An operation is in vain on a node: it needs a node before it, and there no operation of the
table fits. -/
structure InVain (table : Table) (roots : Roots) (node : Json) (op : Operation) : Prop where
  dependent : op.isInitial = false
  source : ∀ inner, op.attachment.predecessor? node = some inner →
    ∀ other ∈ table.operations, ¬other.Fits roots inner.unparen

/-- Of two operations that fit a node one is in vain. -/
def Unambiguous (table : Table) : Prop :=
  ∀ roots node, ∀ op ∈ table.operations, ∀ op' ∈ table.operations,
    op.Fits roots node → op'.Fits roots node →
      op = op' ∨ table.InVain roots node op ∨ table.InVain roots node op'

/-- Two tables have the same operations, in whatever order. -/
def SameRows (table table' : Table) : Prop :=
  ∀ op, op ∈ table.operations ↔ op ∈ table'.operations

variable {table table' : Table}

theorem SameRows.symm (h : table.SameRows table') : table'.SameRows table := fun op ↦ (h op).symm

theorem InVain.congr (hrows : table.SameRows table') (h : table.InVain roots node op) :
    table'.InVain roots node op :=
  ⟨h.dependent, fun inner hinner other hother ↦
    h.source inner hinner other ((hrows other).mpr hother)⟩

theorem Unambiguous.congr (hrows : table.SameRows table') (h : table.Unambiguous) :
    table'.Unambiguous := by
  intro roots node op hop op' hop' hfits hfits'
  have hcases := h roots node op ((hrows op).mpr hop) op' ((hrows op').mpr hop') hfits hfits'
  exact hcases.imp_right (Or.imp (InVain.congr hrows) (InVain.congr hrows))

/-! ## Operations in vain -/

theorem verdict_resolveAt_of_not_fits
    (h : ∀ op ∈ table.operations, ¬op.Fits roots node.unparen) :
    (table.resolveAt roots limit depth whitelist node).verdict = .skipped ∨
      (table.resolveAt roots limit depth whitelist node).verdict = .failed (.tooDeep limit) := by
  cases depth with
  | zero => exact Or.inr rfl
  | succ depth =>
    refine Or.inl ((verdict_resolveAt_succ table limit depth whitelist).trans ?_)
    refine verdict_tryAll_eq_skipped fun op hop ↦ ?_
    obtain ⟨hmem, -, happlies⟩ := mem_candidates_iff.mp hop
    cases hshape : op.testShape roots node.unparen with
    | skip why => exact Operation.verdict_attempt_of_skip hshape
    | matched u => exact absurd ⟨happlies, hshape⟩ (h op hmem)

/-- An operation in vain skips, or is too deep. -/
theorem InVain.verdict_attempt (h : table.InVain roots node op) :
    (op.attempt (table.resolveAt roots limit depth none) roots node).verdict = .skipped ∨
      (op.attempt (table.resolveAt roots limit depth none) roots node).verdict =
        .failed (.tooDeep limit) := by
  cases hshape : op.testShape roots node with
  | skip why => exact Or.inl (Operation.verdict_attempt_of_skip hshape)
  | matched u =>
    rw [Operation.verdict_attempt_of_not_initial hshape h.dependent]
    cases hinner : op.attachment.predecessor? node with
    | none => exact Or.inl (Operation.verdict_attemptAfter_of_none hinner)
    | some inner =>
      rw [Operation.verdict_attemptAfter hinner]
      rcases verdict_resolveAt_of_not_fits (h.source inner hinner) with hskip | hdeep
      · exact Or.inl (by rw [hskip, Verdict.skipped_andThen])
      · exact Or.inr (by rw [hdeep, Verdict.failed_andThen])

/-! ## Any order of the rows -/

/-- An attempt that is not too deep depends only on what the node before comes to. -/
theorem verdict_attempt_congr
    (hresolve : ∀ inner, (resolve inner).verdict ≠ .failed (.tooDeep limit) →
      (resolve' inner).verdict ≠ .failed (.tooDeep limit) →
        (resolve inner).verdict = (resolve' inner).verdict)
    (h : (op.attempt resolve roots node).verdict ≠ .failed (.tooDeep limit))
    (h' : (op.attempt resolve' roots node).verdict ≠ .failed (.tooDeep limit)) :
    (op.attempt resolve roots node).verdict = (op.attempt resolve' roots node).verdict := by
  cases hshape : op.testShape roots node with
  | skip why =>
    rw [Operation.verdict_attempt_of_skip hshape, Operation.verdict_attempt_of_skip hshape]
  | matched u =>
    cases hinitial : op.isInitial with
    | true =>
      rw [Operation.verdict_attempt_of_initial hshape hinitial,
        Operation.verdict_attempt_of_initial hshape hinitial]
    | false =>
      cases hinner : op.attachment.predecessor? node with
      | none =>
        rw [Operation.verdict_attempt_of_not_initial hshape hinitial,
          Operation.verdict_attempt_of_not_initial hshape hinitial,
          Operation.verdict_attemptAfter_of_none hinner,
          Operation.verdict_attemptAfter_of_none hinner]
      | some inner =>
        have hbefore := hresolve inner
          (fun hdeep ↦ h (attempt_tooDeep hshape hinitial hinner hdeep))
          fun hdeep ↦ h' (attempt_tooDeep hshape hinitial hinner hdeep)
        rw [Operation.verdict_attempt_of_not_initial hshape hinitial,
          Operation.verdict_attempt_of_not_initial hshape hinitial,
          Operation.verdict_attemptAfter hinner, Operation.verdict_attemptAfter hinner, hbefore]

/-- The step from one level to the next, for a node that the first table does not skip: the
operation that decides there decides in the other order as well, since any other one is in vain. -/
theorem Unambiguous.verdict_resolveAt_succ_eq (htable : table.Unambiguous)
    (hrows : table.SameRows table')
    (hresolve : ∀ inner,
      (table.resolveAt roots limit depth none inner).verdict ≠ .failed (.tooDeep limit) →
      (table'.resolveAt roots limit depth none inner).verdict ≠ .failed (.tooDeep limit) →
        (table.resolveAt roots limit depth none inner).verdict =
          (table'.resolveAt roots limit depth none inner).verdict)
    (h : (table.resolveAt roots limit (depth + 1) whitelist node).verdict ≠
      .failed (.tooDeep limit))
    (h' : (table'.resolveAt roots limit (depth + 1) whitelist node).verdict ≠
      .failed (.tooDeep limit))
    (hskip : (table.resolveAt roots limit (depth + 1) whitelist node).verdict ≠ .skipped) :
    (table.resolveAt roots limit (depth + 1) whitelist node).verdict =
      (table'.resolveAt roots limit (depth + 1) whitelist node).verdict := by
  obtain ⟨op, hop, hids, happlies, hattempt⟩ := resolveAt_succ_cases rfl hskip
  have hcandidate : op ∈ table'.candidates whitelist node.unparen :=
    mem_candidates_iff.mpr ⟨(hrows op).mp hop, hids, happlies⟩
  have hskip' : (table'.resolveAt roots limit (depth + 1) whitelist node).verdict ≠ .skipped := by
    intro hskipped
    have hattempt' := verdict_attempt_of_tryAll_eq_skipped
      ((verdict_resolveAt_succ table' limit depth whitelist).symm.trans hskipped) op hcandidate
    refine hskip (hattempt.symm.trans ?_)
    rw [verdict_attempt_congr hresolve (hattempt ▸ h) (by simp [hattempt']), hattempt']
  obtain ⟨op', hop', -, happlies', hattempt'⟩ := resolveAt_succ_cases rfl hskip'
  have hfits : op.Fits roots node.unparen :=
    ⟨happlies, (Operation.attempt_cases hattempt hskip).1⟩
  have hfits' : op'.Fits roots node.unparen :=
    ⟨happlies', (Operation.attempt_cases hattempt' hskip').1⟩
  rcases htable roots _ op hop op' ((hrows op').mpr hop') hfits hfits' with rfl | hvain | hvain
  · rw [← hattempt, ← hattempt']
    exact verdict_attempt_congr hresolve (hattempt ▸ h) (hattempt' ▸ h')
  · rcases hvain.verdict_attempt with hskipped | hdeep
    · exact absurd (hattempt.symm.trans hskipped) hskip
    · exact absurd (hattempt.symm.trans hdeep) h
  · rcases (hvain.congr hrows).verdict_attempt with hskipped | hdeep
    · exact absurd (hattempt'.symm.trans hskipped) hskip'
    · exact absurd (hattempt'.symm.trans hdeep) h'

/-- **The order of the rows of an unambiguous table does not matter**, except where a node is too
deep. -/
theorem Unambiguous.verdict_resolveAt_eq (htable : table.Unambiguous)
    (hrows : table.SameRows table')
    (h : (table.resolveAt roots limit depth whitelist node).verdict ≠ .failed (.tooDeep limit))
    (h' : (table'.resolveAt roots limit depth whitelist node).verdict ≠ .failed (.tooDeep limit)) :
    (table.resolveAt roots limit depth whitelist node).verdict =
      (table'.resolveAt roots limit depth whitelist node).verdict := by
  induction depth generalizing whitelist node with
  | zero => exact absurd rfl h
  | succ depth ih =>
    -- If either table does not skip the node, the other one comes to the same.
    by_cases hskip : (table.resolveAt roots limit (depth + 1) whitelist node).verdict = .skipped
    · by_cases hskip' : (table'.resolveAt roots limit (depth + 1) whitelist node).verdict = .skipped
      · rw [hskip, hskip']
      · exact ((htable.congr hrows).verdict_resolveAt_succ_eq hrows.symm
          (fun inner hinner' hinner ↦ (ih hinner hinner').symm) h' h hskip').symm
    · exact htable.verdict_resolveAt_succ_eq hrows (fun inner ↦ ih) h h' hskip

/-! ## The standard table is unambiguous -/

/-- No row fits an identifier that is bound to a database. -/
theorem not_fits_of_database {name db : String} (hname : node.identName? = some name)
    (hroot : roots.get? name = some ⟨db, none⟩) (hop : op ∈ standard.operations) :
    ¬op.Fits roots node.unparen := by
  intro hfits
  obtain ⟨hkind, -⟩ := Operation.applies_iff.mp hfits.applies
  have hattachment : op.attachment = .identifier :=
    Attachment.kind_injective
      (Option.some.inj (hkind.symm.trans (Json.isKind_iff.mp (Json.isKind_of_identName? hname))))
  have hshape := hfits.shape
  cases standardRow_of_mem hop with
  | collectionRoot =>
    obtain ⟨name', db', collection, hname', hroot'⟩ :=
      collectionIdentifier_eq_matched_iff.mp hshape
    rw [Json.identName?_unparen, hname] at hname'
    cases hname'
    cases hroot.symm.trans hroot'
  | databaseRoot => cases hattachment
  | read read => cases read <;> cases hattachment
  | insert => cases hattachment
  | update => cases hattachment
  | remove => cases hattachment

theorem eq_of_fits_of_initial (hop : op ∈ standard.operations) (hop' : op' ∈ standard.operations)
    (hinitial : op.isInitial = true) (hinitial' : op'.isInitial = true)
    (hfits : op.Fits roots node) (hfits' : op'.Fits roots node) : op = op' := by
  have hattachment := Operation.attachment_eq_of_applies hfits.applies hfits'.applies
  rcases eq_databaseRoot_or_collectionRoot hop hinitial with rfl | rfl
  · rcases eq_databaseRoot_or_collectionRoot hop' hinitial' with rfl | rfl
    · rfl
    · cases hattachment
  · rcases eq_databaseRoot_or_collectionRoot hop' hinitial' with rfl | rfl
    · cases hattachment
    · rfl

/-- A row that needs a node before it is in vain where a row of collections fits: it is that of
`length`, on a member of a database. -/
theorem inVain_of_fits (hop : op ∈ standard.operations) (hinitial : op.isInitial = true)
    (hinitial' : op'.isInitial = false) (hfits : op.Fits roots node)
    (hfits' : op'.Fits roots node) : standard.InVain roots node op' := by
  have hattachment := Operation.attachment_eq_of_applies hfits.applies hfits'.applies
  refine ⟨hinitial', fun inner hinner other hother ↦ ?_⟩
  rw [← hattachment] at hinner
  have hshape := hfits.shape
  rcases eq_databaseRoot_or_collectionRoot hop hinitial with rfl | rfl
  · obtain ⟨name, db, property, hobject, hroot, -⟩ := databaseMember_eq_matched_iff.mp hshape
    have hinner : node.field? "object" = some inner := hinner
    rw [hinner, Option.bind_some] at hobject
    exact not_fits_of_database hobject hroot hother
  · cases hinner

theorem unambiguous_standard : standard.Unambiguous := by
  intro roots node op hop op' hop' hfits hfits'
  cases hinitial : op.isInitial with
  | true =>
    cases hinitial' : op'.isInitial with
    | true => exact Or.inl (eq_of_fits_of_initial hop hop' hinitial hinitial' hfits hfits')
    | false =>
      exact Or.inr (Or.inr (inVain_of_fits hop hinitial hinitial' hfits hfits'))
  | false =>
    cases hinitial' : op'.isInitial with
    | true =>
      exact Or.inr (Or.inl (inVain_of_fits hop' hinitial' hinitial hfits' hfits))
    | false => exact Or.inl (eq_of_fits hop hop' hinitial hinitial' hfits hfits')

end Table

/-- **The standard table is unambiguous.** With its rows in any other order, a node that is not too
deep comes to the same command, or fails with the same operation, reason and position, or is
skipped, as it is by the standard table. -/
theorem analyze_perm {table : Table} {roots : Roots} {limit : Nat} {whitelist : List OpId}
    {node : Json} (hrows : table.operations.Perm Table.standard.operations)
    (hstandard : ∀ n, (Table.standard.analyze roots limit whitelist node).result ≠
      .error (.tooDeep n))
    (htable : ∀ n, (table.analyze roots limit whitelist node).result ≠ .error (.tooDeep n)) :
    (∃ r, (table.analyze roots limit whitelist node).result = .ok (.matched r) ∧
      (Table.standard.analyze roots limit whitelist node).result = .ok (.matched r)) ∨
    (∃ op why span,
      (table.analyze roots limit whitelist node).result = .error (.malformed op why span) ∧
      (Table.standard.analyze roots limit whitelist node).result =
        .error (.malformed op why span)) ∨
    ∃ why why', (table.analyze roots limit whitelist node).result = .ok (.skip why) ∧
      (Table.standard.analyze roots limit whitelist node).result = .ok (.skip why') := by
  have hsame : Table.standard.SameRows table := fun op ↦ hrows.mem_iff.symm
  have heq := Table.unambiguous_standard.verdict_resolveAt_eq hsame
    (fun h ↦ hstandard limit (Traced.verdict_eq_failed_iff.mp h))
    fun h ↦ htable limit (Traced.verdict_eq_failed_iff.mp h)
  change (Table.standard.analyze roots limit whitelist node).verdict =
    (table.analyze roots limit whitelist node).verdict at heq
  cases hverdict : (Table.standard.analyze roots limit whitelist node).verdict with
  | matched r =>
    exact Or.inl ⟨r, Traced.verdict_eq_matched_iff.mp (heq.symm.trans hverdict),
      Traced.verdict_eq_matched_iff.mp hverdict⟩
  | skipped =>
    obtain ⟨why, hwhy⟩ := Traced.verdict_eq_skipped_iff.mp (heq.symm.trans hverdict)
    obtain ⟨why', hwhy'⟩ := Traced.verdict_eq_skipped_iff.mp hverdict
    exact Or.inr (Or.inr ⟨why, why', hwhy, hwhy'⟩)
  | failed failure =>
    cases Table.ordinary_of_resolveAt hverdict with
    | tooDeep => exact absurd (Traced.verdict_eq_failed_iff.mp hverdict) (hstandard limit)
    | malformed op why span _ =>
      exact Or.inr (Or.inl ⟨op, why, span,
        Traced.verdict_eq_failed_iff.mp (heq.symm.trans hverdict),
        Traced.verdict_eq_failed_iff.mp hverdict⟩)

/-- With the rows from last to first, `length` is tried on `db.length` before the row of
collections, and resolves `db` in vain. Under the limit 2 this changes nothing; under the limit 1
there is no level left for it. -/
theorem analyze_perm_length :
    let reversed : Table := ⟨Table.standard.operations.reverse⟩
    let roots : Roots := ⟨[("db", ⟨"app", none⟩)], []⟩
    let node := Tree.member (Tree.identifier "db") "length"
    let r : Resolved := ⟨.root, .collection ⟨"app", "length"⟩⟩
    reversed.operations.Perm Table.standard.operations ∧
      (Table.standard.analyze roots 1 [.root, .length] node).result = .ok (.matched r) ∧
      (reversed.analyze roots 1 [.root, .length] node).result = .error (.tooDeep 1) ∧
      (Table.standard.analyze roots 2 [.root, .length] node).result = .ok (.matched r) ∧
      (reversed.analyze roots 2 [.root, .length] node).result = .ok (.matched r) := by
  intro reversed roots node r
  have hrows : reversed.operations.Perm Table.standard.operations := List.reverse_perm _
  have hstandard : (Table.standard.analyze roots 2 [.root, .length] node).result =
      .ok (.matched r) := rfl
  refine ⟨hrows, rfl, rfl, hstandard, ?_⟩
  have hdeep : ∀ n, (reversed.analyze roots 2 [.root, .length] node).result ≠
      .error (.tooDeep n) := by
    intro n h
    cases h
  rcases analyze_perm hrows (by simp [hstandard]) hdeep with
    ⟨r', hreversed, hr'⟩ | ⟨op, why, span, -, hfailed⟩ | ⟨why, why', -, hskipped⟩
  · rw [hreversed, ← hr', hstandard]
  · cases hstandard.symm.trans hfailed
  · cases hstandard.symm.trans hskipped

end FluentQuery
