import FluentQuery.Proofs.Verdict

/-!
# More levels of resolution

The number of levels left is handed down by resolution and never looked at, until there is none left
and the node is too deep. A result other than that failure was reached with the levels at hand, so
more levels give the same result, with the same events on the way.

What an operation makes of a node depends on the rest of the resolver in one place only, the node
before it, and there only if the node has its shape. `Operation.attempt_congr` says so, and
`Table.tryAll_cons_congr` passes it on to a list of operations; the statements below, and those on
larger tables, rest on these two.
-/

namespace FluentQuery

variable {resolve resolve' : Json → Traced (Outcome Resolved)} {roots : Roots} {node : Json}

namespace Operation

/-- A node has the kind, the name and the shape of an operation. -/
structure Fits (roots : Roots) (node : Json) (op : Operation) : Prop where
  applies : op.applies node = true
  shape : op.testShape roots node = .matched ()

/-- An attempt asks for the node before only where the operation has one and its shape is met. -/
theorem attempt_congr {op : Operation}
    (h : ∀ inner, op.testShape roots node = .matched () → op.isInitial = false →
      op.attachment.predecessor? node = some inner → resolve' inner = resolve inner) :
    op.attempt resolve' roots node = op.attempt resolve roots node := by
  rw [attempt, attempt]
  cases hshape : op.testShape roots node with
  | skip why => rfl
  | matched u =>
    cases hinitial : op.isInitial with
    | true => rfl
    | false =>
      simp only [Bool.false_eq_true, if_false]
      rw [attemptAfter, attemptAfter]
      cases hinner : op.attachment.predecessor? node with
      | none => rfl
      | some inner => simp only [h inner hshape hinitial hinner]

end Operation

namespace Table

/-- Two lists of operations come to the same if their first ones do and, should these skip, the
others do. -/
theorem tryAll_cons_congr {op : Operation} {rest rest' : List Operation} {refused : List Skip}
    (hop : op.attempt resolve' roots node = op.attempt resolve roots node)
    (hrest : ∀ why, (op.attempt resolve roots node).result = .ok (.skip why) →
      tryAll resolve' roots node rest' (.within op.id.text why :: refused) =
        tryAll resolve roots node rest (.within op.id.text why :: refused)) :
    tryAll resolve' roots node (op :: rest') refused =
      tryAll resolve roots node (op :: rest) refused := by
  rw [tryAll, tryAll, hop]
  generalize op.attempt resolve roots node = t at hrest
  obtain ⟨events, result⟩ := t
  cases result with
  | error failure => rfl
  | ok outcome =>
    cases outcome with
    | matched resolved => rfl
    | skip why =>
      simp only [bind, Traced.bind, hrest why rfl]

/-! ## Results that are not too deep -/

theorem attempt_tooDeep {op : Operation} {inner : Json} {limit : Nat}
    (hshape : op.testShape roots node = .matched ()) (hinitial : op.isInitial = false)
    (hinner : op.attachment.predecessor? node = some inner)
    (h : (resolve inner).verdict = .failed (.tooDeep limit)) :
    (op.attempt resolve roots node).verdict = .failed (.tooDeep limit) := by
  rw [Operation.verdict_attempt_of_not_initial hshape hinitial,
    Operation.verdict_attemptAfter hinner, h, Verdict.failed_andThen]

theorem tryAll_eq_of_not_tooDeep {limit : Nat}
    (hresolve : ∀ inner, (resolve inner).verdict ≠ .failed (.tooDeep limit) →
      resolve' inner = resolve inner)
    {ops : List Operation} {refused : List Skip}
    (h : (tryAll resolve roots node ops refused).verdict ≠ .failed (.tooDeep limit)) :
    tryAll resolve' roots node ops refused = tryAll resolve roots node ops refused := by
  induction ops generalizing refused with
  | nil => rfl
  | cons op rest ih =>
    rw [verdict_tryAll_cons] at h
    refine tryAll_cons_congr (Operation.attempt_congr ?_) fun why hskip ↦ ih ?_
    · intro inner hshape hinitial hinner
      refine hresolve inner fun hdeep ↦ h ?_
      rw [attempt_tooDeep hshape hinitial hinner hdeep, Verdict.failed_orElse]
    · rwa [Traced.verdict_eq_skipped_iff.mpr ⟨why, hskip⟩, Verdict.skipped_orElse,
        verdict_tryAll_refused rest] at h

/-- **More levels change nothing**, unless there were too few: whatever the table, a node that is
not too deep comes to the same result with as many levels or more, out of any limit. -/
theorem resolveAt_eq_of_le {table : Table} {limit limit' depth depth' : Nat}
    {whitelist : Option (List OpId)} (hdepth : depth ≤ depth')
    (h : (table.resolveAt roots limit depth whitelist node).verdict ≠ .failed (.tooDeep limit)) :
    table.resolveAt roots limit' depth' whitelist node =
      table.resolveAt roots limit depth whitelist node := by
  induction depth generalizing depth' whitelist node with
  | zero => exact absurd rfl h
  | succ depth ih =>
    obtain ⟨more, rfl⟩ : ∃ more, depth' = more + 1 := ⟨depth' - 1, by omega⟩
    exact tryAll_eq_of_not_tooDeep (fun inner hinner ↦ ih (by omega) hinner) h

end Table

end FluentQuery
