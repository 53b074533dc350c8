import FluentQuery.Proofs.Depth
import FluentQuery.Proofs.Reassign

/-!
# Adding an operation to a table

An operation that is registered is tried last, so on a node that the table decides it never gets its
turn. But it also takes part in resolving the nodes before, and there an earlier operation that used
to skip for want of a source may find one, and match or fail where a later one used to decide.

That this does not happen is a property of the table. A table is *settled* if an operation that
needs a node before it is never followed by another one of the same kind, name and shape: when such
an operation skips, the table has nothing more to offer, and the node is skipped whatever is
registered. The standard table is settled. Its only nodes with two operations are members of a
database named `length`, and the operation of collections, which needs no node before, comes first.
-/

namespace FluentQuery

/-! ## Nodes that fit one operation -/

section Unique

variable {node : Json}

theorem Read.eq_of_applies {read read' : Read} (h : read.operation.applies node = true)
    (h' : read'.operation.applies node = true) : read = read' := by
  obtain ⟨-, hname⟩ := Operation.applies_iff.mp h
  obtain ⟨-, hname'⟩ := Operation.applies_iff.mp h'
  have hattachment := Operation.attachment_eq_of_applies h h'
  have htext : some read.id.text = some read'.id.text := by
    rw [← hname _ read.operation_name, hattachment, hname' _ read'.operation_name]
  exact Read.id_text_injective (Option.some.inj htext)

/-- The right side of an assignment tells which write it has the shape of. -/
theorem Write.eq_of_bindings {write write' : Write} {bs bs' : Bindings}
    (h : write.shape.bindings node = .matched bs) (h' : write'.shape.bindings node = .matched bs') :
    write = write' := by
  -- Either one calls a method, which settles the other, or both insert.
  have hcalls : ∀ {w w' : Write} {bs bs' : Bindings}, w ≠ .insert →
      w.shape.bindings node = .matched bs → w'.shape.bindings node = .matched bs' → w = w' := by
    intro w w' bs bs' hw hbs hbs'
    obtain ⟨method, hmethod, hshape⟩ : ∃ method, w.method? = some method ∧
        w.shape = reassignedVia method := by
      cases w with
      | insert => exact absurd rfl hw
      | update => exact ⟨_, rfl, rfl⟩
      | remove => exact ⟨_, rfl, rfl⟩
    rw [hshape] at hbs
    obtain ⟨target, right, object, hassigns, hcalls, -, -⟩ := reassignedVia_iff.mp hbs
    exact Write.eq_of_method? hmethod ((w'.exists_bindings_iff hassigns hcalls).mp ⟨bs', hbs'⟩).1
  by_cases hinsert : write = .insert
  · by_cases hinsert' : write' = .insert
    · rw [hinsert, hinsert']
    · exact (hcalls hinsert' h' h).symm
  · exact hcalls hinsert h h'

end Unique

namespace Table

/-! ## Settled tables -/

/-- An operation that needs a node before it is not followed by another one that fits where it
does. -/
def Settled (table : Table) : Prop :=
  table.operations.Pairwise fun op later ↦
    op.isInitial = true ∨ ∀ roots node, op.Fits roots node → ¬later.Fits roots node

section Settled

variable {resolve resolve' : Json → Traced (Outcome Resolved)} {roots : Roots} {node : Json}

/-- Once an operation that needs a node before it has skipped, the others skip as well. -/
theorem verdict_tryAll_eq_skipped_of_fits {op : Operation} {rest : List Operation}
    (hfits : op.Fits roots node) (hinitial : op.isInitial = false)
    (hlater : ∀ later ∈ rest, op.isInitial = true ∨
      ∀ roots node, op.Fits roots node → ¬later.Fits roots node)
    (happlies : ∀ later ∈ rest, later.applies node = true) :
    (tryAll resolve roots node rest []).verdict = .skipped := by
  refine verdict_tryAll_eq_skipped fun later hmem ↦ ?_
  cases hshape : later.testShape roots node with
  | skip why => exact Operation.verdict_attempt_of_skip hshape
  | matched u =>
    rcases hlater later hmem with htrue | hnot
    · cases hinitial.symm.trans htrue
    · exact absurd ⟨happlies later hmem, hshape⟩ (hnot roots node hfits)

/-- Where the operations of a settled table decide on a node, nothing changes if more nodes are
resolved and more operations are tried after them. -/
theorem tryAll_append_eq
    (hresolve : ∀ inner, (resolve inner).verdict ≠ .skipped → resolve' inner = resolve inner)
    {ops more : List Operation}
    (hsettled : ops.Pairwise fun op later ↦
      op.isInitial = true ∨ ∀ roots node, op.Fits roots node → ¬later.Fits roots node)
    (happlies : ∀ op ∈ ops, op.applies node = true) {refused : List Skip}
    (h : (tryAll resolve roots node ops refused).verdict ≠ .skipped) :
    tryAll resolve' roots node (ops ++ more) refused = tryAll resolve roots node ops refused := by
  induction ops generalizing refused with
  | nil => exact absurd rfl h
  | cons op rest ih =>
    rw [verdict_tryAll_cons] at h
    obtain ⟨hlater, hsettled⟩ := List.pairwise_cons.mp hsettled
    obtain ⟨hop, happlies⟩ := List.forall_mem_cons.mp happlies
    refine tryAll_cons_congr (Operation.attempt_congr fun inner hshape hinitial hinner ↦ ?_)
      fun why hskip ↦ ih hsettled happlies ?_
    · -- If the node before were skipped, so would be the operation, and with it all others.
      refine hresolve inner fun hinnerSkip ↦ h ?_
      rw [Operation.verdict_attempt_of_not_initial hshape hinitial,
        Operation.verdict_attemptAfter hinner, hinnerSkip, Verdict.skipped_andThen,
        Verdict.skipped_orElse]
      exact verdict_tryAll_eq_skipped_of_fits ⟨hop, hshape⟩ hinitial hlater happlies
    · rwa [Traced.verdict_eq_skipped_iff.mpr ⟨why, hskip⟩, Verdict.skipped_orElse,
        verdict_tryAll_refused rest] at h

theorem candidates_register (table : Table) (op : Operation) (whitelist : Option (List OpId)) :
    (table.register op).candidates whitelist node =
      table.candidates whitelist node ++ (Table.mk [op]).candidates whitelist node :=
  List.filter_append _ _

/-- A settled table resolves a node that it does not skip in the same way with one more operation,
down to the events. -/
theorem Settled.resolveAt_register {table : Table} (hsettled : table.Settled) (op : Operation)
    {limit depth : Nat} {whitelist : Option (List OpId)}
    (h : (table.resolveAt roots limit depth whitelist node).verdict ≠ .skipped) :
    (table.register op).resolveAt roots limit depth whitelist node =
      table.resolveAt roots limit depth whitelist node := by
  induction depth generalizing whitelist node with
  | zero => rfl
  | succ depth ih =>
    rw [resolveAt, resolveStep, candidates_register]
    refine tryAll_append_eq (fun inner hinner ↦ ih hinner) (hsettled.filter _) ?_ h
    intro op' hop'
    exact (mem_candidates_iff.mp hop').2.2

end Settled

/-! ## The standard table is settled -/

section Standard

variable {roots : Roots} {node : Json} {op later : Operation}

/-- The rows that need a node before them are those of reads and of writes. -/
theorem exists_read_or_write (hop : op ∈ standard.operations) (hinitial : op.isInitial = false) :
    (∃ read : Read, op = read.operation) ∨ ∃ write : Write, op = write.operation := by
  cases standardRow_of_mem hop with
  | databaseRoot => cases hinitial
  | collectionRoot => cases hinitial
  | read read => exact Or.inl ⟨read, rfl⟩
  | insert => exact Or.inr ⟨.insert, rfl⟩
  | update => exact Or.inr ⟨.update, rfl⟩
  | remove => exact Or.inr ⟨.remove, rfl⟩

/-- Of the rows that need a node before them, at most one fits a node. -/
theorem eq_of_fits (hop : op ∈ standard.operations) (hlater : later ∈ standard.operations)
    (hinitial : op.isInitial = false) (hinitial' : later.isInitial = false)
    (hfits : op.Fits roots node) (hfits' : later.Fits roots node) : op = later := by
  have hattachment := Operation.attachment_eq_of_applies hfits.applies hfits'.applies
  rcases exists_read_or_write hop hinitial with ⟨read, rfl⟩ | ⟨write, rfl⟩
  · rcases exists_read_or_write hlater hinitial' with ⟨read', rfl⟩ | ⟨write, rfl⟩
    · rw [Read.eq_of_applies hfits.applies hfits'.applies]
    · cases read <;> cases hattachment
  · rcases exists_read_or_write hlater hinitial' with ⟨read, rfl⟩ | ⟨write', rfl⟩
    · cases read <;> cases hattachment
    · obtain ⟨bs, hbs, -⟩ := Outcome.map_eq_matched_iff.mp hfits.shape
      obtain ⟨bs', hbs', -⟩ := Outcome.map_eq_matched_iff.mp hfits'.shape
      rw [Write.eq_of_bindings hbs hbs']

theorem settled_standard : standard.Settled := by
  -- The two rows of collections come first, and no other rows share a name.
  have hrows : standard.operations.Pairwise fun op later ↦
      op.isInitial = true ∨ later.isInitial = false ∧ op.id ≠ later.id := by
    decide
  refine hrows.imp_of_mem fun {op later} hop hlater hrow ↦ ?_
  by_cases hinitial : op.isInitial = true
  · exact Or.inl hinitial
  · rcases hrow with htrue | ⟨hinitial', hid⟩
    · exact Or.inl htrue
    · exact Or.inr fun roots node hfits hfits' ↦ hid (congrArg Operation.id
        (eq_of_fits hop hlater (Bool.eq_false_iff.mpr hinitial) hinitial' hfits hfits'))

end Standard

end Table

/-! ## Adding an operation is conservative -/

/-- **Adding an operation is conservative.** Whatever its name, kind, shape, extractor and builder,
a node that resolves over the standard table, or fails there, comes to the same with one more
operation, and with the same events on the way: only a skip can change. -/
theorem analyze_register_eq (op : Operation) {roots : Roots} {limit : Nat} {whitelist : List OpId}
    {node : Json}
    (h : ∀ why, (Table.standard.analyze roots limit whitelist node).result ≠ .ok (.skip why)) :
    (Table.standard.register op).analyze roots limit whitelist node =
      Table.standard.analyze roots limit whitelist node := by
  refine Table.settled_standard.resolveAt_register op fun hskipped ↦ ?_
  obtain ⟨why, hwhy⟩ := Traced.verdict_eq_skipped_iff.mp hskipped
  exact h why hwhy

/-- An operation named `filter` that takes any call for a collection does not get its turn on
`db.todos.filter(x => x.done)`, though it fits as well. -/
theorem analyze_register_eq_filter :
    let anyCall : Operation := ⟨.filter, .call, none, none, [],
      fun _ _ ↦ .matched (.collection ⟨"other", "calls"⟩), buildCollection⟩
    let roots : Roots := ⟨[("db", ⟨"main", none⟩)], []⟩
    let done := Tree.member (Tree.identifier "x") "done"
    let todos := Tree.member (Tree.identifier "db") "todos"
    let node := Tree.method todos "filter" [Tree.arrow ["x"] done]
    let r : Resolved := ⟨.filter, .query (.filter done) (.collection ⟨"main", "todos"⟩)⟩
    anyCall.Fits roots node ∧
      (Table.standard.analyze roots 2 [.filter] node).result = .ok (.matched r) ∧
      ((Table.standard.register anyCall).analyze roots 2 [.filter] node).result =
        .ok (.matched r) := by
  intro anyCall roots done todos node r
  have hresult : (Table.standard.analyze roots 2 [.filter] node).result = .ok (.matched r) := rfl
  refine ⟨⟨rfl, rfl⟩, hresult, ?_⟩
  rw [analyze_register_eq anyCall (by simp [hresult]), hresult]

end FluentQuery
