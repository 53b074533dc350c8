import FluentQuery.Operation.Resolve

/-!
# Verdicts

A traced outcome says more than most statements about resolution are concerned with: the events on
the way, and the wording of a skip. A *verdict* forgets both and keeps the rest exactly, the command
of a match and the failure with its operation, reason and position.

On verdicts the resolver is plain recursion. Trying several operations is `orElse`, since a skip
passes on to the next one and anything else decides; attaching an operation to the node before it is
`andThen`, since whatever is not a match of that node is passed through. The equations below say so
for each function of the resolver, and the later files use them in place of the definitions.
-/

namespace FluentQuery

/-- What an analysis comes to. -/
inductive Verdict (α : Type) where
  | matched (a : α)
  | skipped
  | failed (failure : Failure)

namespace Verdict

variable {α β γ : Type}

/-- Change the result of a match. -/
def map (f : α → β) : Verdict α → Verdict β
  | .matched a => .matched (f a)
  | .skipped => .skipped
  | .failed failure => .failed failure

/-- Go on with the result of a match. -/
def andThen (v : Verdict α) (f : α → Verdict β) : Verdict β :=
  match v with
  | .matched a => f a
  | .skipped => .skipped
  | .failed failure => .failed failure

/-- The first of two verdicts, unless it is a skip. -/
def orElse (v w : Verdict α) : Verdict α :=
  match v with
  | .matched a => .matched a
  | .skipped => w
  | .failed failure => .failed failure

@[simp] theorem map_matched (f : α → β) (a : α) : (matched a).map f = .matched (f a) := rfl

@[simp] theorem map_skipped (f : α → β) : (skipped : Verdict α).map f = .skipped := rfl

@[simp] theorem map_failed (f : α → β) (failure : Failure) :
    (failed failure : Verdict α).map f = .failed failure := rfl

@[simp] theorem matched_andThen (a : α) (f : α → Verdict β) : (matched a).andThen f = f a := rfl

@[simp] theorem skipped_andThen (f : α → Verdict β) : skipped.andThen f = .skipped := rfl

@[simp] theorem failed_andThen (failure : Failure) (f : α → Verdict β) :
    (failed failure).andThen f = .failed failure := rfl

@[simp] theorem matched_orElse (a : α) (w : Verdict α) : (matched a).orElse w = .matched a := rfl

@[simp] theorem skipped_orElse (w : Verdict α) : skipped.orElse w = w := rfl

@[simp] theorem failed_orElse (failure : Failure) (w : Verdict α) :
    (failed failure).orElse w = .failed failure := rfl

theorem orElse_of_ne_skipped {v w : Verdict α} (hv : v ≠ .skipped) : v.orElse w = v := by
  cases v with
  | matched a => rfl
  | skipped => exact absurd rfl hv
  | failed failure => rfl

@[simp] theorem andThen_matched (v : Verdict α) : v.andThen .matched = v := by
  cases v <;> rfl

theorem andThen_assoc (v : Verdict α) (f : α → Verdict β) (g : β → Verdict γ) :
    (v.andThen f).andThen g = v.andThen fun a ↦ (f a).andThen g := by
  cases v <;> rfl

theorem map_eq_matched_iff {v : Verdict α} {f : α → β} {b : β} :
    v.map f = .matched b ↔ ∃ a, v = .matched a ∧ f a = b := by
  cases v <;> simp

theorem map_eq_failed_iff {v : Verdict α} {f : α → β} {failure : Failure} :
    v.map f = .failed failure ↔ v = .failed failure := by
  cases v <;> simp

end Verdict

/-! ## The verdict of a traced outcome -/

namespace Traced

variable {α β γ : Type}

theorem bind_assoc (t : Traced α) (f : α → Traced β) (g : β → Traced γ) :
    (t.bind f).bind g = t.bind fun a ↦ (f a).bind g := by
  obtain ⟨events, result⟩ := t
  cases result with
  | error failure => rfl
  | ok a =>
    simp only [Traced.bind]
    cases (f a).result with
    | error failure => rfl
    | ok b => simp only [List.append_assoc]

theorem bind_pure (t : Traced α) : t.bind .pure = t := by
  obtain ⟨events, result⟩ := t
  cases result with
  | error failure => rfl
  | ok a => simp only [Traced.bind, Traced.pure, List.append_nil]

-- Not an instance: simplification is to leave `do` blocks as they are written.
theorem lawfulMonad : LawfulMonad Traced := .mk' Traced bind_pure (fun _ _ ↦ rfl) bind_assoc

theorem result_pure (a : α) : (pure a : Traced α).result = .ok a := rfl

theorem result_bind (t : Traced α) (f : α → Traced β) :
    (t >>= f).result = t.result.bind fun a ↦ (f a).result := by
  obtain ⟨events, result⟩ := t
  cases result <;> rfl

theorem result_bind_eq_ok_iff {t : Traced α} {f : α → Traced β} {b : β} :
    (t >>= f).result = .ok b ↔ ∃ a, t.result = .ok a ∧ (f a).result = .ok b := by
  obtain ⟨events, result⟩ := t
  cases result with
  | error failure => simp [bind, Traced.bind]
  | ok a => simp [bind, Traced.bind]

theorem result_bind_eq_error_iff {t : Traced α} {f : α → Traced β} {failure : Failure} :
    (t >>= f).result = .error failure ↔
      t.result = .error failure ∨ ∃ a, t.result = .ok a ∧ (f a).result = .error failure := by
  obtain ⟨events, result⟩ := t
  cases result with
  | error failure => simp [bind, Traced.bind]
  | ok a => simp [bind, Traced.bind]

/-- What a traced outcome comes to, whatever its events are and why ever it skips. -/
def verdict (t : Traced (Outcome α)) : Verdict α :=
  match t.result with
  | .ok (.matched a) => .matched a
  | .ok (.skip _) => .skipped
  | .error failure => .failed failure

theorem verdict_eq_matched_iff {t : Traced (Outcome α)} {a : α} :
    t.verdict = .matched a ↔ t.result = .ok (.matched a) := by
  rw [verdict]
  split <;> simp_all

theorem verdict_eq_failed_iff {t : Traced (Outcome α)} {failure : Failure} :
    t.verdict = .failed failure ↔ t.result = .error failure := by
  rw [verdict]
  split <;> simp_all

theorem verdict_eq_skipped_iff {t : Traced (Outcome α)} :
    t.verdict = .skipped ↔ ∃ why, t.result = .ok (.skip why) := by
  rw [verdict]
  split <;> simp_all

@[simp] theorem verdict_pure_matched (a : α) :
    (pure (.matched a) : Traced (Outcome α)).verdict = .matched a := rfl

@[simp] theorem verdict_pure_skip (why : Skip) :
    (pure (.skip why) : Traced (Outcome α)).verdict = .skipped := rfl

@[simp] theorem verdict_pure_refuse (reason : String) :
    (pure (.refuse reason) : Traced (Outcome α)).verdict = .skipped := rfl

@[simp] theorem verdict_fail (failure : Failure) :
    (fail failure : Traced (Outcome α)).verdict = .failed failure := rfl

@[simp] theorem verdict_emit_bind (event : Event) (f : Unit → Traced (Outcome α)) :
    (emit event >>= f).verdict = (f ()).verdict := rfl

/-- Going on after a traced outcome, where a skip of it is a skip of the whole. -/
theorem verdict_bind {t : Traced (Outcome α)} {f : Outcome α → Traced (Outcome β)}
    (hskip : ∀ why, (f (.skip why)).verdict = .skipped) :
    (t >>= f).verdict = t.verdict.andThen fun a ↦ (f (.matched a)).verdict := by
  obtain ⟨events, result⟩ := t
  cases result with
  | error failure => rfl
  | ok outcome =>
    cases outcome with
    | matched a => rfl
    | skip why => exact hskip why

/-- Trying something else after a traced outcome, where a match of it is a match of the whole. -/
theorem verdict_bind_orElse {t : Traced (Outcome α)} {f : Outcome α → Traced (Outcome α)}
    {w : Verdict α} (hmatched : ∀ a, (f (.matched a)).verdict = .matched a)
    (hskip : ∀ why, (f (.skip why)).verdict = w) :
    (t >>= f).verdict = t.verdict.orElse w := by
  obtain ⟨events, result⟩ := t
  cases result with
  | error failure => rfl
  | ok outcome =>
    cases outcome with
    | matched a => exact hmatched a
    | skip why => exact hskip why

theorem verdict_map (t : Traced (Outcome α)) (f : α → β) :
    (do return (← t).map f : Traced (Outcome β)).verdict = t.verdict.map f := by
  obtain ⟨events, result⟩ := t
  cases result with
  | error failure => rfl
  | ok outcome => cases outcome <;> rfl

end Traced

/-! ## The resolver on verdicts -/

namespace Operation

/-- The command that an operation is attached to on a node: none if the operation starts a chain,
and otherwise that of the node before, which the operation must be allowed to follow. -/
inductive Attached (resolve : Json → Traced (Outcome Resolved)) (op : Operation) (node : Json) :
    Option Command → Prop
  | initial (hinitial : op.isInitial = true) : Attached resolve op node none
  | after {inner : Json} {before : Resolved} (hinitial : op.isInitial = false)
      (hinner : op.attachment.predecessor? node = some inner)
      (hbefore : (resolve inner).verdict = .matched before)
      (hfollows : before.id ∈ op.follows) : Attached resolve op node (some before.command)

variable {resolve : Json → Traced (Outcome Resolved)} {roots : Roots} {node : Json}

/-- Committing matches exactly when arguments can be read and a command can be built of them. -/
theorem verdict_commit_eq_matched_iff {op : Operation} {source : Option Command} {r : Resolved} :
    (op.commit roots node source).verdict = .matched r ↔
      ∃ arguments command, op.extract node roots = .matched arguments ∧
        op.build source arguments = some command ∧ r = ⟨op.id, command⟩ := by
  rw [commit]
  cases hextract : op.extract node roots with
  | skip why => simp
  | matched arguments =>
    cases hbuild : op.build source arguments with
    | none => simp [hbuild]
    | some command => simp [hbuild, eq_comm]

/-- Committing fails exactly when it gets no arguments, or no command from them. -/
theorem verdict_commit_eq_failed_iff {op : Operation} {source : Option Command}
    {failure : Failure} :
    (op.commit roots node source).verdict = .failed failure ↔
      (∃ why, op.extract node roots = .skip why ∧ failure = .malformed op.id why node.span?) ∨
        ∃ arguments, op.extract node roots = .matched arguments ∧
          op.build source arguments = none ∧ failure = .unbuildable op.id node.span? := by
  rw [commit]
  cases hextract : op.extract node roots with
  | skip why => simp [eq_comm]
  | matched arguments =>
    cases hbuild : op.build source arguments with
    | none => simp [hbuild, eq_comm]
    | some command => simp [hbuild]

theorem verdict_attemptAfter {op : Operation} {inner : Json}
    (hinner : op.attachment.predecessor? node = some inner) :
    (op.attemptAfter resolve roots node).verdict = (resolve inner).verdict.andThen fun before ↦
      if before.id ∈ op.follows then (op.commit roots node (some before.command)).verdict
      else .skipped := by
  rw [attemptAfter, hinner, Traced.verdict_bind fun why ↦ rfl]
  congr 1
  funext before
  by_cases hfollows : before.id ∈ op.follows
  · simp [hfollows]
  · simp [hfollows]

theorem verdict_attemptAfter_of_none {op : Operation}
    (hinner : op.attachment.predecessor? node = none) :
    (op.attemptAfter resolve roots node).verdict = .skipped := by
  rw [attemptAfter, hinner]
  rfl

theorem verdict_attempt_of_skip {op : Operation} {why : Skip}
    (hshape : op.testShape roots node = .skip why) :
    (op.attempt resolve roots node).verdict = .skipped := by
  rw [attempt, hshape]
  rfl

theorem verdict_attempt_of_initial {op : Operation}
    (hshape : op.testShape roots node = .matched ()) (hinitial : op.isInitial = true) :
    (op.attempt resolve roots node).verdict = (op.commit roots node none).verdict := by
  rw [attempt, hshape]
  exact congrArg Traced.verdict (if_pos hinitial)

theorem verdict_attempt_of_not_initial {op : Operation}
    (hshape : op.testShape roots node = .matched ()) (hinitial : op.isInitial = false) :
    (op.attempt resolve roots node).verdict = (op.attemptAfter resolve roots node).verdict := by
  rw [attempt, hshape]
  exact congrArg Traced.verdict (if_neg (by simp [hinitial]))

/-- What an attempt can come to, apart from a skip: the node has the shape of the operation, and
either the node before fails, or the operation is attached to a command and commits. -/
theorem attempt_cases {op : Operation} {v : Verdict Resolved}
    (h : (op.attempt resolve roots node).verdict = v) (hv : v ≠ .skipped) :
    op.testShape roots node = .matched () ∧
      ((∃ inner failure, op.isInitial = false ∧ op.attachment.predecessor? node = some inner ∧
          (resolve inner).verdict = .failed failure ∧ v = .failed failure) ∨
        ∃ source, op.Attached resolve node source ∧
          (op.commit roots node source).verdict = v) := by
  cases hshape : op.testShape roots node with
  | skip why => exact absurd (h.symm.trans (verdict_attempt_of_skip hshape)) hv
  | matched u =>
    refine ⟨rfl, ?_⟩
    cases hinitial : op.isInitial with
    | true =>
      rw [verdict_attempt_of_initial hshape hinitial] at h
      exact Or.inr ⟨none, .initial hinitial, h⟩
    | false =>
      rw [verdict_attempt_of_not_initial hshape hinitial] at h
      cases hinner : op.attachment.predecessor? node with
      | none => exact absurd (h.symm.trans (verdict_attemptAfter_of_none hinner)) hv
      | some inner =>
        rw [verdict_attemptAfter hinner] at h
        cases hbefore : (resolve inner).verdict with
        | skipped => exact absurd (h.symm.trans (by rw [hbefore]; rfl)) hv
        | failed failure =>
          rw [hbefore, Verdict.failed_andThen] at h
          exact Or.inl ⟨inner, failure, rfl, rfl, hbefore, h.symm⟩
        | matched before =>
          rw [hbefore, Verdict.matched_andThen] at h
          by_cases hfollows : before.id ∈ op.follows
          · rw [if_pos hfollows] at h
            exact Or.inr ⟨_, .after hinitial hinner hbefore hfollows, h⟩
          · rw [if_neg hfollows] at h
            exact absurd h.symm hv

end Operation

namespace Table

variable {resolve : Json → Traced (Outcome Resolved)} {roots : Roots} {node : Json}

/-- The reasons that are carried along do not show in the verdict. -/
theorem verdict_tryAll_refused (ops : List Operation) (refused refused' : List Skip) :
    (tryAll resolve roots node ops refused).verdict =
      (tryAll resolve roots node ops refused').verdict := by
  induction ops generalizing refused refused' with
  | nil => rfl
  | cons op rest ih =>
    rw [tryAll, tryAll, Traced.verdict_emit_bind, Traced.verdict_emit_bind,
      Traced.verdict_bind_orElse (w := (tryAll resolve roots node rest []).verdict)
        (fun a ↦ rfl) (fun why ↦ ih _ _),
      Traced.verdict_bind_orElse (w := (tryAll resolve roots node rest []).verdict)
        (fun a ↦ rfl) (fun why ↦ ih _ _)]

@[simp] theorem verdict_tryAll_cons (op : Operation) (rest : List Operation)
    (refused : List Skip) :
    (tryAll resolve roots node (op :: rest) refused).verdict =
      (op.attempt resolve roots node).verdict.orElse
        (tryAll resolve roots node rest []).verdict := by
  rw [tryAll, Traced.verdict_emit_bind]
  exact Traced.verdict_bind_orElse (fun a ↦ rfl) fun why ↦ verdict_tryAll_refused rest _ _

/-- A verdict other than a skip is that of one of the operations tried. -/
theorem exists_of_verdict_tryAll {ops : List Operation} {v : Verdict Resolved}
    (h : (tryAll resolve roots node ops []).verdict = v) (hv : v ≠ .skipped) :
    ∃ op ∈ ops, (op.attempt resolve roots node).verdict = v := by
  induction ops with
  | nil => exact absurd h.symm hv
  | cons op rest ih =>
    rw [verdict_tryAll_cons] at h
    by_cases hop : (op.attempt resolve roots node).verdict = .skipped
    · rw [hop, Verdict.skipped_orElse] at h
      obtain ⟨op', hmem, hop'⟩ := ih h
      exact ⟨op', List.mem_cons_of_mem _ hmem, hop'⟩
    · rw [Verdict.orElse_of_ne_skipped hop] at h
      exact ⟨op, List.mem_cons_self, h⟩

theorem verdict_tryAll_eq_skipped {ops : List Operation}
    (h : ∀ op ∈ ops, (op.attempt resolve roots node).verdict = .skipped) :
    (tryAll resolve roots node ops []).verdict = .skipped := by
  induction ops with
  | nil => rfl
  | cons op rest ih =>
    rw [verdict_tryAll_cons, h op List.mem_cons_self, Verdict.skipped_orElse]
    exact ih fun op' hop' ↦ h op' (List.mem_cons_of_mem _ hop')

/-- Only if all operations skip, trying them is a skip. -/
theorem verdict_attempt_of_tryAll_eq_skipped {ops : List Operation}
    (h : (tryAll resolve roots node ops []).verdict = .skipped) :
    ∀ op ∈ ops, (op.attempt resolve roots node).verdict = .skipped := by
  induction ops with
  | nil => simp
  | cons op rest ih =>
    rw [verdict_tryAll_cons] at h
    by_cases hop : (op.attempt resolve roots node).verdict = .skipped
    · rw [hop, Verdict.skipped_orElse] at h
      exact List.forall_mem_cons.mpr ⟨hop, ih h⟩
    · exact absurd ((Verdict.orElse_of_ne_skipped hop).symm.trans h) hop

/-- Where every other operation skips, a single one decides, wherever it stands. -/
theorem verdict_tryAll_eq_attempt {ops : List Operation} {op : Operation} (hop : op ∈ ops)
    (hothers : ∀ other ∈ ops, other = op ∨
      (other.attempt resolve roots node).verdict = .skipped) :
    (tryAll resolve roots node ops []).verdict = (op.attempt resolve roots node).verdict := by
  by_cases hskip : (op.attempt resolve roots node).verdict = .skipped
  · rw [hskip]
    refine verdict_tryAll_eq_skipped fun other hother ↦ ?_
    rcases hothers other hother with rfl | h
    · exact hskip
    · exact h
  · -- The operations before it skip, and it decides.
    induction ops with
    | nil => exact absurd hop List.not_mem_nil
    | cons first rest ih =>
      rw [verdict_tryAll_cons]
      rcases hothers first List.mem_cons_self with rfl | hfirst
      · exact Verdict.orElse_of_ne_skipped hskip
      · rw [hfirst, Verdict.skipped_orElse]
        rcases List.mem_cons.mp hop with rfl | hrest
        · exact absurd hfirst hskip
        · exact ih hrest fun other hother ↦ hothers other (List.mem_cons_of_mem _ hother)

theorem mem_candidates_iff {table : Table} {whitelist : Option (List OpId)} {op : Operation} :
    op ∈ table.candidates whitelist node ↔
      op ∈ table.operations ∧ (∀ ids, whitelist = some ids → op.id ∈ ids) ∧
        op.applies node = true := by
  cases whitelist <;> simp [candidates]

@[simp] theorem verdict_resolveAt_zero (table : Table) (limit : Nat)
    (whitelist : Option (List OpId)) :
    (table.resolveAt roots limit 0 whitelist node).verdict = .failed (.tooDeep limit) := rfl

theorem verdict_resolveAt_succ (table : Table) (limit depth : Nat)
    (whitelist : Option (List OpId)) :
    (table.resolveAt roots limit (depth + 1) whitelist node).verdict =
      (tryAll (table.resolveAt roots limit depth none) roots node.unparen
        (table.candidates whitelist node.unparen) []).verdict := rfl

/-- What one level of resolution can come to, apart from a skip: some operation of the table applies
to the node and is attempted with that verdict. -/
theorem resolveAt_succ_cases {table : Table} {limit depth : Nat}
    {whitelist : Option (List OpId)} {v : Verdict Resolved}
    (h : (table.resolveAt roots limit (depth + 1) whitelist node).verdict = v)
    (hv : v ≠ .skipped) :
    ∃ op ∈ table.operations, (∀ ids, whitelist = some ids → op.id ∈ ids) ∧
      op.applies node.unparen = true ∧
        (op.attempt (table.resolveAt roots limit depth none) roots node.unparen).verdict = v := by
  rw [verdict_resolveAt_succ] at h
  obtain ⟨op, hmem, hop⟩ := exists_of_verdict_tryAll h hv
  obtain ⟨htable, hids, happlies⟩ := mem_candidates_iff.mp hmem
  exact ⟨op, htable, hids, happlies, hop⟩

theorem canFollow_of_mem {table : Table} {op : Operation} {predecessor : OpId}
    (hop : op ∈ table.operations) (hfollows : predecessor ∈ op.follows) :
    table.canFollow op.id predecessor = true := by
  rw [canFollow, List.any_eq_true]
  refine ⟨op, ?_, List.contains_iff_mem.mpr hfollows⟩
  exact List.mem_filter.mpr ⟨hop, beq_self_eq_true op.id⟩

end Table

end FluentQuery
