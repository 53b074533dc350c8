import FluentQuery.Proofs.Verdict
import Mathlib.Data.Option.Basic

/-!
# Nodes that resolve alike

Resolution looks at a node through the operations of a table, and goes on to the node before. So to
compare the resolution of two nodes it is enough to compare one level: the same operations apply to
both and have their shapes, committing to them comes to the same, and the nodes before are related
again. `Operation.Simulates` says so for one operation, and `Table.agree_resolveAt_of_simulates`
carries it over to all levels.

The relation between nodes is left open, and so is the one between what they resolve to. Failures
are compared by the operation that is at fault, since the reasons quote what was found.
-/

namespace FluentQuery

/-! ## Verdicts that agree -/

/-- Two failures are about the same operation, or are the same. -/
structure Failure.Agree (f g : Failure) : Prop where
  operation : f.operation?.map Prod.fst = g.operation?.map Prod.fst
  eq_of_none : f.operation? = none → f = g

namespace Failure.Agree

variable {f g h : Failure}

theorem refl (f : Failure) : Agree f f := ⟨rfl, fun _ ↦ rfl⟩

theorem of_operation {op : OpId} {span span' : Option Span} (hf : f.operation? = some (op, span))
    (hg : g.operation? = some (op, span')) : Agree f g where
  operation := by
    rw [hf, hg]
    rfl
  eq_of_none hnone := by
    rw [hf] at hnone
    cases hnone

theorem symm (hfg : Agree f g) : Agree g f where
  operation := hfg.operation.symm
  eq_of_none hg := (hfg.eq_of_none (by simpa [hg] using hfg.operation)).symm

theorem trans (hfg : Agree f g) (hgh : Agree g h) : Agree f h where
  operation := hfg.operation.trans hgh.operation
  eq_of_none hf := by
    obtain rfl := hfg.eq_of_none hf
    exact hgh.eq_of_none hf

end Failure.Agree

/-- Two verdicts are related matches, skips, or failures that agree. -/
inductive Verdict.Agree {α : Type} (R : α → α → Prop) : Verdict α → Verdict α → Prop
  | matched {a b : α} (h : R a b) : Agree R (.matched a) (.matched b)
  | skipped : Agree R .skipped .skipped
  | failed {f g : Failure} (h : f.Agree g) : Agree R (.failed f) (.failed g)

namespace Verdict.Agree

variable {α β : Type} {R : α → α → Prop} {S : β → β → Prop} {v w : Verdict α}

theorem refl (v : Verdict α) : Agree Eq v v := by
  cases v with
  | matched a => exact .matched rfl
  | skipped => exact .skipped
  | failed failure => exact .failed (.refl failure)

theorem map (h : Agree R v w) {f : α → β} (hf : ∀ a b, R a b → S (f a) (f b)) :
    Agree S (v.map f) (w.map f) := by
  cases h with
  | matched hab => exact .matched (hf _ _ hab)
  | skipped => exact .skipped
  | failed hfg => exact .failed hfg

theorem andThen (h : Agree R v w) {f g : α → Verdict β}
    (hfg : ∀ a b, R a b → Agree S (f a) (g b)) : Agree S (v.andThen f) (w.andThen g) := by
  cases h with
  | matched hab => exact hfg _ _ hab
  | skipped => exact .skipped
  | failed hfailures => exact .failed hfailures

theorem orElse (h : Agree R v w) {v' w' : Verdict α} (h' : Agree R v' w') :
    Agree R (v.orElse v') (w.orElse w') := by
  cases h with
  | matched hab => exact .matched hab
  | skipped => exact h'
  | failed hfailures => exact .failed hfailures

end Verdict.Agree

/-! ## One level -/

variable {R : Json → Json → Prop} {S : Resolved → Resolved → Prop} {roots : Roots} {a b : Json}

/-- An operation treats related nodes alike: it applies to both or to neither, both have its shape
or neither has, the nodes before them are related, and committing to it comes to the same, whether
it starts a chain or follows related results. -/
structure Operation.Simulates (R : Json → Json → Prop) (S : Resolved → Resolved → Prop)
    (roots : Roots) (op : Operation) : Prop where
  applies : ∀ {a b : Json}, R a b → op.applies a.unparen = op.applies b.unparen
  shape : ∀ {a b : Json}, R a b →
    (op.testShape roots a.unparen).isMatch = (op.testShape roots b.unparen).isMatch
  predecessor : ∀ {a b : Json}, R a b →
    Option.Rel R (op.attachment.predecessor? a.unparen) (op.attachment.predecessor? b.unparen)
  start : ∀ {a b : Json}, R a b → Verdict.Agree S (op.commit roots a.unparen none).verdict
    (op.commit roots b.unparen none).verdict
  next : ∀ {a b : Json} {before before' : Resolved}, R a b → S before before' →
    Verdict.Agree S (op.commit roots a.unparen (some before.command)).verdict
      (op.commit roots b.unparen (some before'.command)).verdict

namespace Operation.Simulates

variable {op : Operation} {resolve : Json → Traced (Outcome Resolved)}

theorem attemptAfter (hop : op.Simulates R S roots) (hid : ∀ r s, S r s → r.id = s.id)
    (hresolve : ∀ a b, R a b → Verdict.Agree S (resolve a).verdict (resolve b).verdict)
    (h : R a b) : Verdict.Agree S (op.attemptAfter resolve roots a.unparen).verdict
      (op.attemptAfter resolve roots b.unparen).verdict := by
  have hinner := hop.predecessor h
  generalize ha : op.attachment.predecessor? a.unparen = x at hinner
  generalize hb : op.attachment.predecessor? b.unparen = y at hinner
  cases hinner with
  | none =>
    rw [verdict_attemptAfter_of_none ha, verdict_attemptAfter_of_none hb]
    exact .skipped
  | @some x y hxy =>
    rw [verdict_attemptAfter ha, verdict_attemptAfter hb]
    refine (hresolve x y hxy).andThen fun before before' hbefore ↦ ?_
    rw [hid before before' hbefore]
    split
    · exact hop.next h hbefore
    · exact .skipped

theorem attempt (hop : op.Simulates R S roots) (hid : ∀ r s, S r s → r.id = s.id)
    (hresolve : ∀ a b, R a b → Verdict.Agree S (resolve a).verdict (resolve b).verdict)
    (h : R a b) : Verdict.Agree S (op.attempt resolve roots a.unparen).verdict
      (op.attempt resolve roots b.unparen).verdict := by
  have hshape := hop.shape h
  cases ha : op.testShape roots a.unparen with
  | skip why =>
    cases hb : op.testShape roots b.unparen with
    | skip why' =>
      rw [verdict_attempt_of_skip ha, verdict_attempt_of_skip hb]
      exact .skipped
    | matched u =>
      rw [ha, hb] at hshape
      cases hshape
  | matched u =>
    cases hb : op.testShape roots b.unparen with
    | skip why' =>
      rw [ha, hb] at hshape
      cases hshape
    | matched u' =>
      cases hinitial : op.isInitial with
      | true =>
        rw [verdict_attempt_of_initial ha hinitial, verdict_attempt_of_initial hb hinitial]
        exact hop.start h
      | false =>
        rw [verdict_attempt_of_not_initial ha hinitial, verdict_attempt_of_not_initial hb hinitial]
        exact hop.attemptAfter hid hresolve h

end Operation.Simulates

/-! ## All levels -/

namespace Table

theorem agree_tryAll (hid : ∀ r s, S r s → r.id = s.id)
    {resolve : Json → Traced (Outcome Resolved)}
    (hresolve : ∀ a b, R a b → Verdict.Agree S (resolve a).verdict (resolve b).verdict)
    (h : R a b) {ops : List Operation} (hops : ∀ op ∈ ops, op.Simulates R S roots) :
    Verdict.Agree S (tryAll resolve roots a.unparen ops []).verdict
      (tryAll resolve roots b.unparen ops []).verdict := by
  induction ops with
  | nil => exact .skipped
  | cons op rest ih =>
    obtain ⟨hop, hrest⟩ := List.forall_mem_cons.mp hops
    rw [verdict_tryAll_cons, verdict_tryAll_cons]
    exact (hop.attempt hid hresolve h).orElse (ih hrest)

/-- **Related nodes resolve alike**, within any number of levels, if every operation of the table
treats them alike. -/
theorem agree_resolveAt_of_simulates {table : Table} (hid : ∀ r s, S r s → r.id = s.id)
    (hops : ∀ op ∈ table.operations, op.Simulates R S roots) (h : R a b) (limit depth : Nat)
    (whitelist : Option (List OpId)) :
    Verdict.Agree S (table.resolveAt roots limit depth whitelist a).verdict
      (table.resolveAt roots limit depth whitelist b).verdict := by
  induction depth generalizing a b whitelist with
  | zero => exact .failed (.refl _)
  | succ depth ih =>
    have hcandidates : table.candidates whitelist a.unparen =
        table.candidates whitelist b.unparen := by
      refine List.filter_congr fun op hop ↦ ?_
      rw [(hops op hop).applies h]
    have hbefore : ∀ x y, R x y → Verdict.Agree S (table.resolveAt roots limit depth none x).verdict
        (table.resolveAt roots limit depth none y).verdict := fun x y hxy ↦ ih hxy none
    rw [verdict_resolveAt_succ, verdict_resolveAt_succ, hcandidates]
    exact agree_tryAll hid hbefore h fun op hop ↦ hops op (mem_candidates_iff.mp hop).1

end Table

end FluentQuery
