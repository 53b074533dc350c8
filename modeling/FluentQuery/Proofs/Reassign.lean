import FluentQuery.Proofs.ReadChain
import FluentQuery.Proofs.Survey
import FluentQuery.Proofs.Writes

/-!
# Giving a collection a value made from a collection

`c = c.filter(f)` is a removal and `c = c.map(f)` an update. With another source on the right the
same assignment is neither: it is ordinary code, and what it reads is not reported as a read either,
since that would take a write that was meant for a query.

The rows of the three writes are told apart by the right side alone, so for an assignment of a
method call at most one of them has the right shape. What is left is to say that this row commits as
soon as the target denotes a collection, and that the test for misdirected writes takes exactly the
other assignments. -/

namespace FluentQuery

open Pattern

variable {roots : Roots} {ref : CollectionRef} {node target right object : Json} {method : String}

/-! ## The rows of writes -/

/-- The writes that an assignment can make. -/
inductive Write where
  | insert
  | update
  | remove
deriving DecidableEq, Repr

namespace Write

/-- The operation of a write. -/
def id : Write → OpId
  | .insert => .insert
  | .update => .update
  | .remove => .remove

/-- What an assignment must look like. -/
def shape : Write → Pattern
  | .insert => appended
  | .update => reassignedVia "map"
  | .remove => reassignedVia "filter"

/-- What a write takes from its assignment. -/
def extract : Write → Extractor
  | .insert => insertArguments
  | .update => updateArguments
  | .remove => removeArguments

/-- The method that a write calls on its collection. -/
def method? : Write → Option String
  | .insert => none
  | .update => some "map"
  | .remove => some "filter"

theorem eq_of_method? {write write' : Write} (h : write.method? = some method)
    (h' : write'.method? = some method) : write = write' := by
  rw [← h'] at h
  cases write <;> cases write' <;> first | rfl | exact absurd h (by decide)

/-- The row of a write in the standard table. -/
def operation (write : Write) : Operation := Table.write write.id write.shape write.extract

theorem operation_mem (write : Write) : write.operation ∈ Table.standard.operations := by
  cases write <;> simp [Table.standard, operation, id, shape, extract]

theorem operation_applies (write : Write) (hkind : node.kind? = some Kind.assignment) :
    write.operation.applies node = true :=
  Operation.applies_iff.mpr ⟨hkind, by simp [operation, Table.write]⟩

theorem operation_testShape (write : Write) :
    write.operation.testShape roots node = (write.shape.bindings node).map fun _ ↦ () := rfl

/-- The rows of writes are all that applies to an assignment. -/
theorem exists_of_applies {op : Operation} (hop : op ∈ Table.standard.operations)
    (hkind : node.kind? = some Kind.assignment) (happlies : op.applies node = true) :
    ∃ write : Write, op = write.operation := by
  obtain ⟨hkind', -⟩ := Operation.applies_iff.mp happlies
  have hattachment : op.attachment = .assignment :=
    Attachment.kind_injective (Option.some.inj (hkind'.symm.trans hkind))
  cases standardRow_of_mem hop with
  | databaseRoot => cases hattachment
  | collectionRoot => cases hattachment
  | read read => cases read <;> cases hattachment
  | insert => exact ⟨.insert, rfl⟩
  | update => exact ⟨.update, rfl⟩
  | remove => exact ⟨.remove, rfl⟩

/-- An assignment of a method call has the shape of the write that calls this method, if it calls it
on its own target. -/
theorem exists_bindings_iff (hassigns : node.Assigns target right)
    (hcalls : right.Calls object method) (write : Write) :
    (∃ bs, write.shape.bindings node = .matched bs) ↔
      write.method? = some method ∧ Json.sameNode target object = true := by
  have hvia : ∀ name, (∃ bs, (reassignedVia name).bindings node = .matched bs) ↔
      some name = some method ∧ Json.sameNode target object = true := by
    intro name
    constructor
    · rintro ⟨bs, h⟩
      obtain ⟨target', right', object', hassigns', hcalls', hsame, -⟩ := reassignedVia_iff.mp h
      obtain ⟨rfl, rfl⟩ := hassigns.unique hassigns'
      obtain ⟨rfl, rfl⟩ := hcalls.unique hcalls'
      exact ⟨rfl, hsame⟩
    · rintro ⟨hname, hsame⟩
      cases hname
      exact ⟨_, reassignedVia_iff.mpr ⟨target, right, object, hassigns, hcalls, hsame, rfl⟩⟩
  cases write with
  | insert =>
    constructor
    · rintro ⟨bs, h⟩
      obtain ⟨target', right', first, values, hassigns', harray, -⟩ := appended_iff.mp h
      obtain ⟨rfl, rfl⟩ := hassigns.unique hassigns'
      have hkinds := (Json.isKind_iff.mp harray).symm.trans (Json.isKind_iff.mp hcalls.call)
      exact absurd (Option.some.inj hkinds) (by decide)
    · rintro ⟨hmethod, -⟩
      cases hmethod
  | update => exact hvia "map"
  | remove => exact hvia "filter"

theorem verdict_attempt_eq_skipped (write : Write) {resolve : Json → Traced (Outcome Resolved)}
    (hshape : ¬∃ bs, write.shape.bindings node = .matched bs) :
    (write.operation.attempt resolve roots node).verdict = .skipped := by
  cases hbindings : write.shape.bindings node with
  | matched bs => exact absurd ⟨bs, hbindings⟩ hshape
  | skip why =>
    have htest : write.operation.testShape roots node = .skip why := by
      rw [operation_testShape, hbindings]
      rfl
    exact Operation.verdict_attempt_of_skip htest

/-- Once the target is known to be a collection, a write of the right shape commits. -/
theorem verdict_attempt_eq_commit (write : Write) (limit depth : Nat)
    (hshape : ∃ bs, write.shape.bindings node = .matched bs)
    (hleft : node.field? "left" = some target) (htarget : Denotes roots target ref) :
    (write.operation.attempt (Table.standard.resolveAt roots limit (depth + 1) none) roots
      node).verdict = (write.operation.commit roots node (some (.collection ref))).verdict := by
  obtain ⟨bs, hbindings⟩ := hshape
  have htest : write.operation.testShape roots node = .matched () := by
    rw [operation_testShape, hbindings]
    rfl
  have hpredecessor : write.operation.attachment.predecessor? node = some target := hleft
  rw [Operation.verdict_attempt_of_not_initial htest rfl,
    Operation.verdict_attemptAfter hpredecessor, htarget.verdict_resolveAt, Verdict.matched_andThen]
  exact if_pos List.mem_cons_self

/-- An assignment that has the shape of no write is skipped. -/
theorem verdict_recognize_eq_skipped (hkind : node.unparen.isKind Kind.assignment = true)
    (hshape : ∀ write : Write, ¬∃ bs, write.shape.bindings node.unparen = .matched bs)
    (limit : Nat) :
    (Recognizer.assignment.recognize roots (limit + 1) node).verdict = .skipped := by
  rw [Recognizer.verdict_recognize, Table.analyze, Table.verdict_resolveAt_succ,
    Table.verdict_tryAll_eq_skipped, Verdict.map_skipped]
  intro op hop
  obtain ⟨htable, -, happlies⟩ := Table.mem_candidates_iff.mp hop
  obtain ⟨write, rfl⟩ := exists_of_applies htable (Json.isKind_iff.mp hkind) happlies
  exact write.verdict_attempt_eq_skipped (hshape write)

/-- An assignment that has the shape of one write only, and whose target denotes a collection, is
committed to that write. -/
theorem verdict_recognize_eq_commit (hkind : node.unparen.isKind Kind.assignment = true)
    (write : Write) (hshape : ∃ bs, write.shape.bindings node.unparen = .matched bs)
    (honly : ∀ other : Write, (∃ bs, other.shape.bindings node.unparen = .matched bs) →
      other = write)
    (hleft : node.field? "left" = some target) (htarget : Denotes roots target ref) (limit : Nat) :
    (Recognizer.assignment.recognize roots (limit + 2) node).verdict =
      (write.operation.commit roots node.unparen (some (.collection ref))).verdict.map
        Resolved.command := by
  have hmem : write.operation ∈ Table.standard.candidates
      (some Recognizer.assignment.operations) node.unparen := by
    refine Table.mem_candidates_iff.mpr ⟨write.operation_mem, ?_,
      write.operation_applies (Json.isKind_iff.mp hkind)⟩
    intro ids hids
    cases hids
    cases write <;> decide
  rw [← Json.field?_unparen] at hleft
  rw [Recognizer.verdict_recognize, Table.analyze, Table.verdict_resolveAt_succ,
    Table.verdict_tryAll_eq_attempt hmem,
    write.verdict_attempt_eq_commit _ _ hshape hleft htarget]
  intro op hop
  obtain ⟨htable, -, happlies⟩ := Table.mem_candidates_iff.mp hop
  obtain ⟨other, rfl⟩ := exists_of_applies htable (Json.isKind_iff.mp hkind) happlies
  by_cases hother : ∃ bs, other.shape.bindings node.unparen = .matched bs
  · exact Or.inl (congrArg operation (honly other hother))
  · exact Or.inr (other.verdict_attempt_eq_skipped hother)

end Write

/-! ## What a recognized assignment rests on -/

/-- A node that resolves as the start of a chain denotes the collection that it resolves to. -/
theorem exists_denotes_of_resolveAt {limit depth : Nat} {whitelist : Option (List OpId)}
    {resolved : Resolved}
    (h : (Table.standard.resolveAt roots limit depth whitelist node).verdict = .matched resolved)
    (hroot : resolved.id = .root) :
    ∃ ref, Denotes roots node ref ∧ resolved.command = .collection ref := by
  cases depth with
  | zero => cases h
  | succ depth =>
    obtain ⟨op, hop, -, happlies, hattempt⟩ := Table.resolveAt_succ_cases h (by simp)
    obtain ⟨hkind, -⟩ := Operation.applies_iff.mp happlies
    obtain ⟨hshape, ⟨_, _, _, _, _, hfailed⟩ | ⟨source, hattached, hcommit⟩⟩ :=
      Operation.attempt_cases hattempt (by simp)
    · cases hfailed
    obtain ⟨arguments, command, hextract, hbuild, rfl⟩ :=
      Operation.verdict_commit_eq_matched_iff.mp hcommit
    cases standardRow_of_mem hop with
    | databaseRoot =>
      obtain ⟨name, db, property, hobject, hget, hproperty⟩ :=
        databaseMember_eq_matched_iff.mp hshape
      cases (databaseMemberArguments_of_root hobject hget hproperty).symm.trans hextract
      cases hattached with
      | after hinitial _ _ _ => cases hinitial
      | initial _ =>
        cases hbuild
        rw [Json.field?_unparen] at hobject
        rw [Json.staticProperty?_unparen] at hproperty
        exact ⟨_, .member (Json.isKind_iff.mpr hkind) hobject hget hproperty, rfl⟩
    | collectionRoot =>
      obtain ⟨name, db, collection, hname, hget⟩ := collectionIdentifier_eq_matched_iff.mp hshape
      cases (collectionIdentifierArguments_of_root hname hget).symm.trans hextract
      cases hattached with
      | after hinitial _ _ _ => cases hinitial
      | initial _ =>
        cases hbuild
        rw [Json.identName?_unparen] at hname
        exact ⟨_, .identifier hname hget, rfl⟩
    | read read => cases read <;> cases hroot
    | insert => cases hroot
    | update => cases hroot
    | remove => cases hroot

/-- The operations that may be outermost in an assignment are the writes. -/
theorem Write.exists_eq_operation {op : Operation} (hop : op ∈ Table.standard.operations)
    (hid : op.id ∈ Recognizer.assignment.operations) : ∃ write : Write, op = write.operation := by
  cases standardRow_of_mem hop with
  | databaseRoot => simp [Table.databaseRoot, Recognizer.operations] at hid
  | collectionRoot => simp [Table.collectionRoot, Recognizer.operations] at hid
  | read read =>
    rw [Read.operation_id] at hid
    cases read <;> simp [Read.id, Recognizer.operations] at hid
  | insert => exact ⟨.insert, rfl⟩
  | update => exact ⟨.update, rfl⟩
  | remove => exact ⟨.remove, rfl⟩

/-- A recognized assignment has the shape of a write to the collection that its target denotes, and
the write takes from it the change that is reported. -/
theorem Write.exists_of_recognize {limit : Nat} {command : Command}
    (h : (Recognizer.assignment.recognize roots limit node).verdict = .matched command) :
    ∃ (write : Write) (target : Json) (ref : CollectionRef) (op : ModOp),
      (∃ bs, write.shape.bindings node.unparen = .matched bs) ∧
      node.field? "left" = some target ∧ Denotes roots target ref ∧
      write.extract node.unparen roots = .matched (.modification op) ∧
      command = .modification op (.collection ref) := by
  rw [Recognizer.verdict_recognize, Verdict.map_eq_matched_iff] at h
  obtain ⟨resolved, hresolved, rfl⟩ := h
  rw [Table.analyze] at hresolved
  cases limit with
  | zero => cases hresolved
  | succ limit =>
    obtain ⟨op, hop, hids, happlies, hattempt⟩ := Table.resolveAt_succ_cases hresolved (by simp)
    obtain ⟨write, rfl⟩ := Write.exists_eq_operation hop (hids _ rfl)
    obtain ⟨hshape, ⟨_, _, _, _, _, hfailed⟩ | ⟨source, hattached, hcommit⟩⟩ :=
      Operation.attempt_cases hattempt (by simp)
    · cases hfailed
    obtain ⟨arguments, command, hextract, hbuild, rfl⟩ :=
      Operation.verdict_commit_eq_matched_iff.mp hcommit
    cases hattached with
    | initial hinitial => cases hinitial
    | @after target before _ htarget hbefore hfollows =>
      obtain ⟨ref, hdenotes, hcommand⟩ :=
        exists_denotes_of_resolveAt hbefore (List.mem_singleton.mp hfollows)
      rw [hcommand] at hbuild
      rw [write.operation_testShape, Outcome.map_eq_matched_iff] at hshape
      obtain ⟨bs, hbs, -⟩ := hshape
      obtain ⟨change, rfl⟩ : ∃ change, arguments = .modification change := by
        cases arguments with
        | modification change => exact ⟨change, rfl⟩
        | _ => cases hbuild
      refine ⟨write, target, ref, change, ⟨bs, hbs⟩, ?_, hdenotes, hextract, ?_⟩
      · rw [← Json.field?_unparen]
        exact htarget
      · exact (Option.some.inj hbuild).symm

/-! ## Assignments of method calls -/

theorem Denotes.ne_null (h : Denotes roots target ref) : target ≠ .null := by
  rintro rfl
  cases h with
  | member hkind _ _ _ => cases hkind
  | identifier hname _ => cases hname

/-- The target of an assignment is there if it denotes something. -/
theorem Json.Assigns.field?_left (h : node.Assigns target right)
    (htarget : Denotes roots target ref) :
    node.field? "left" = some target := by
  have hleft := h.target
  cases hfield : node.field? "left" with
  | none =>
    rw [hfield] at hleft
    exact absurd hleft.symm htarget.ne_null
  | some left =>
    rw [hfield] at hleft
    exact congrArg some hleft

theorem Denotes.isCollection (h : Denotes roots target ref) :
    isCollection target.unparen roots = true := by
  rw [FluentQuery.isCollection]
  cases h with
  | @member name db property hkind hobject hroot hproperty =>
    rw [← Json.field?_unparen] at hobject
    rw [← Json.staticProperty?_unparen] at hproperty
    have hidentifier : ¬target.unparen.isKind Kind.identifier = true := by
      rw [Json.isKind_iff, Json.isKind_iff.mp hkind]
      decide
    have hmatched : databaseMember target.unparen roots = .matched () :=
      databaseMember_eq_matched_iff.mpr ⟨name, db, property, hobject, hroot, hproperty⟩
    rw [if_neg hidentifier, hmatched]
    rfl
  | @identifier name db collection hname hroot =>
    have hidentifier := Json.isKind_of_identName? hname
    rw [← Json.identName?_unparen] at hname
    have hmatched : collectionIdentifier target.unparen roots = .matched () :=
      collectionIdentifier_eq_matched_iff.mpr ⟨name, db, collection, hname, hroot⟩
    rw [if_pos hidentifier, hmatched]
    rfl

/-- A write misses its collection if its source is another expression than its target, and the
callback has the body of a write. -/
theorem isMisdirectedWrite_eq (hassigns : node.Assigns target right)
    (hcalls : right.Calls object method) (htarget : Denotes roots target ref) {c : Bindings}
    (hcallback : callback.bindings right = .matched c) :
    isMisdirectedWrite node roots =
      (!Json.sameNode target object && isWriteBody (some method) (c.get? "body")) := by
  obtain ⟨m, hm, hfrom⟩ : ∃ m : Bindings,
      m = [("target", target), ("source", object), ("method", .string method)] ∧
        reassignedFrom.bindings node = .matched m :=
    ⟨_, rfl, reassignedFrom_iff.mpr ⟨target, right, object, method, hassigns, hcalls, rfl⟩⟩
  have hget : m.get? "target" = some target ∧ m.get? "source" = some object ∧
      m.string? "method" = some method := by
    rw [hm]
    exact ⟨rfl, rfl, rfl⟩
  obtain ⟨hfirst, hsource, hname⟩ := hget
  rw [isMisdirectedWrite, hfrom]
  simp only [hfirst, hsource, hname, hassigns.right, htarget.isCollection, hcallback]
  cases Json.sameNode target object <;> simp

theorem isWriteBody_iff (hmethod : method = "filter" ∨ method = "map") {body : Option Json} :
    isWriteBody (some method) body = true ↔ method = "filter" ∨
      ∃ v, body = some v ∧ ∃ form ∈ updateForms, ∃ bs, form.pattern.bindings v = .matched bs := by
  rcases hmethod with rfl | rfl
  · simp [isWriteBody]
  · cases body <;> simp [isWriteBody, Outcome.isMatch_eq_true_iff]

/-- Where source and target are the same expression, an assignment is committed to the write that
calls its method. -/
theorem verdict_recognize_reassigned (hassigns : node.Assigns target right)
    (hcalls : right.Calls object method) (hsame : Json.sameNode target object = true)
    (htarget : Denotes roots target ref) (write : Write) (hwrite : write.method? = some method)
    (limit : Nat) :
    (Recognizer.assignment.recognize roots (limit + 2) node).verdict =
      (write.operation.commit roots node.unparen (some (.collection ref))).verdict.map
        Resolved.command := by
  refine write.verdict_recognize_eq_commit hassigns.assignment
    ((write.exists_bindings_iff (Json.assigns_unparen.mpr hassigns) hcalls).mpr ⟨hwrite, hsame⟩)
    (fun other hother ↦ ?_)
    (hassigns.field?_left htarget) htarget limit
  obtain ⟨hmethod, -⟩ :=
    (other.exists_bindings_iff (Json.assigns_unparen.mpr hassigns) hcalls).mp hother
  exact Write.eq_of_method? hmethod hwrite

theorem exists_body_of_callback {c : Bindings} (h : callback.bindings right = .matched c) :
    ∃ body, c.get? "body" = some body := by
  obtain ⟨param, result, -, rfl⟩ := callback_iff.mp h
  exact ⟨result.unparen, rfl⟩

theorem verdict_recognize_filter (hassigns : node.Assigns target right)
    (hcalls : right.Calls object "filter") (hsame : Json.sameNode target object = true)
    (htarget : Denotes roots target ref) {c : Bindings} {keep : Json}
    (hcallback : callback.bindings right = .matched c) (hkeep : c.get? "body" = some keep)
    (limit : Nat) :
    (Recognizer.assignment.recognize roots (limit + 2) node).verdict =
      .matched (.modification (.remove (negate keep)) (.collection ref)) := by
  have hextract : removeArguments node.unparen roots =
      .matched (.modification (.remove (negate keep))) := by
    simp [removeArguments, expect, hassigns.right, hcallback, hkeep, Outcome.ofOption,
      Outcome.mapSkip]
  rw [verdict_recognize_reassigned hassigns hcalls hsame htarget .remove rfl,
    Verdict.map_eq_matched_iff]
  exact ⟨_, Operation.verdict_commit_eq_matched_iff.mpr ⟨_, _, hextract, rfl, rfl⟩, rfl⟩

theorem verdict_recognize_map (hassigns : node.Assigns target right)
    (hcalls : right.Calls object "map") (hsame : Json.sameNode target object = true)
    (htarget : Denotes roots target ref) (limit : Nat) :
    (∃ changes predicate, (Recognizer.assignment.recognize roots (limit + 2) node).verdict =
      .matched (.modification (.update changes predicate) (.collection ref))) ∨
    ∃ why, (Recognizer.assignment.recognize roots (limit + 2) node).verdict =
      .failed (.malformed .update why node.unparen.span?) := by
  rw [verdict_recognize_reassigned hassigns hcalls hsame htarget .update rfl]
  cases hextract : updateArguments node.unparen roots with
  | matched arguments =>
    obtain ⟨changes, predicate, rfl⟩ := exists_of_updateArguments hextract
    refine Or.inl ⟨changes, predicate, Verdict.map_eq_matched_iff.mpr ?_⟩
    exact ⟨_, Operation.verdict_commit_eq_matched_iff.mpr ⟨_, _, hextract, rfl, rfl⟩, rfl⟩
  | skip why =>
    refine Or.inr ⟨why, Verdict.map_eq_failed_iff.mpr ?_⟩
    exact Operation.verdict_commit_eq_failed_iff.mpr (Or.inl ⟨why, hextract, rfl⟩)

/-- **A write is to the collection it reads from.** Let a collection be assigned what `filter` or
`map` with a callback gives. If that method is called on the same expression as is assigned to, the
assignment is never taken for ordinary code: `filter` removes from exactly that collection, and
`map` updates it or is a malformed update. Otherwise the assignment is skipped; it counts as a write
that misses its collection exactly for `filter`, or if the callback has the body of an update, and
then no analysis of a program makes a stop inside its right side, so that there is neither a site
nor a failure from there. -/
theorem recognize_reassigned {limit : Nat} {c : Bindings} (hassigns : node.Assigns target right)
    (hcalls : right.Calls object method) (hmethod : method = "filter" ∨ method = "map")
    (htarget : Denotes roots target ref) (hcallback : callback.bindings right = .matched c)
    (hlimit : 2 ≤ limit) :
    (Json.sameNode target object = true →
      isMisdirectedWrite node roots = false ∧
      (method = "filter" → ∃ keep, c.get? "body" = some keep ∧
        (Recognizer.assignment.recognize roots limit node).verdict =
          .matched (.modification (.remove (negate keep)) (.collection ref))) ∧
      (method = "map" →
        (∃ changes predicate, (Recognizer.assignment.recognize roots limit node).verdict =
          .matched (.modification (.update changes predicate) (.collection ref))) ∨
        ∃ why, (Recognizer.assignment.recognize roots limit node).verdict =
          .failed (.malformed .update why node.unparen.span?))) ∧
    (Json.sameNode target object = false →
      (Recognizer.assignment.recognize roots limit node).verdict = .skipped ∧
      (isMisdirectedWrite node roots = true ↔ method = "filter" ∨
        ∃ body, c.get? "body" = some body ∧
          ∃ form ∈ updateForms, ∃ bs, form.pattern.bindings body = .matched bs) ∧
      (isMisdirectedWrite node roots = true → ∀ (config : Config) (program : Json),
        config.validate = .ok () → config.recursionLimit = limit →
        ∃ stops out,
          Program.Walk limit [([], program)] (Roots.ofConfig config) stops out ∧
          (Program.analyze config program).result =
            out.map (fun _ ↦ stops.filterMap (Program.Stop.site? limit)) ∧
          ∀ p i w, program.at? p = some node.unparen →
            node.unparen.children[i]? = some (some "right", w) →
            (∀ s ∈ stops, s.position = p → s.roots = roots) →
            ∀ t ∈ stops, ¬p ++ [i] <+: t.position)) := by
  obtain ⟨limit, rfl⟩ : ∃ n, limit = n + 2 := ⟨limit - 2, by omega⟩
  obtain ⟨body, hbody⟩ := exists_body_of_callback hcallback
  have hmisdirected := isMisdirectedWrite_eq hassigns hcalls htarget hcallback
  constructor
  · intro hsame
    refine ⟨by rw [hmisdirected, hsame]; rfl, ?_, ?_⟩
    · rintro rfl
      exact ⟨body, hbody,
        verdict_recognize_filter hassigns hcalls hsame htarget hcallback hbody limit⟩
    · rintro rfl
      exact verdict_recognize_map hassigns hcalls hsame htarget limit
  · intro hsame
    refine ⟨?_, ?_, ?_⟩
    · refine Write.verdict_recognize_eq_skipped hassigns.assignment (fun write hshape ↦ ?_)
        (limit + 1)
      obtain ⟨-, htrue⟩ :=
        (write.exists_bindings_iff (Json.assigns_unparen.mpr hassigns) hcalls).mp hshape
      cases hsame.symm.trans htrue
    · rw [hmisdirected, hsame]
      exact isWriteBody_iff hmethod
    · rintro hwrite config program hconfig hlimit
      obtain ⟨stops, out, hwalk, hresult⟩ := Program.walk_of_analyze hconfig program
      rw [hlimit] at hwalk hresult
      refine ⟨stops, out, hwalk, hresult, fun p i w hp hi hroots ↦ ?_⟩
      refine hwalk.not_inside_right hp hassigns.assignment hi fun s hs hposition ↦ ?_
      -- Parentheses around the assignment do not matter.
      rw [hroots s hs hposition, ← hwrite, hmisdirected]
      exact isMisdirectedWrite_eq (Json.assigns_unparen.mpr hassigns) hcalls htarget hcallback

/-- `db.todos = db.todos.filter(x => x.done)` is a removal, and `db.users = db.todos.filter(…)` is a
write that misses its collection. -/
theorem recognize_reassigned_todos_users :
    let roots : Roots := ⟨[("db", ⟨"app", none⟩)], []⟩
    let done := Tree.member (Tree.identifier "x") "done"
    let todos := Tree.member (Tree.identifier "db") "todos"
    let users := Tree.member (Tree.identifier "db") "users"
    let right := Tree.method todos "filter" [Tree.arrow ["x"] done]
    Denotes roots todos ⟨"app", "todos"⟩ ∧ Denotes roots users ⟨"app", "users"⟩ ∧
      right.Calls todos "filter" ∧
      (∃ c, callback.bindings right = .matched c ∧ ∃ keep, c.get? "body" = some keep ∧
        (Recognizer.assignment.recognize roots 2 (Tree.assignment todos right)).verdict =
          .matched (.modification (.remove (negate keep)) (.collection ⟨"app", "todos"⟩))) ∧
      (Recognizer.assignment.recognize roots 2 (Tree.assignment users right)).verdict = .skipped ∧
      isMisdirectedWrite (Tree.assignment users right) roots = true := by
  intro roots done todos users right
  have htodos : Denotes roots todos ⟨"app", "todos"⟩ := .member rfl rfl rfl rfl
  have husers : Denotes roots users ⟨"app", "users"⟩ := .member rfl rfl rfl rfl
  have hcalls : right.Calls todos "filter" := ⟨rfl, _, rfl, rfl, rfl, rfl⟩
  have hcallback : callback.bindings right = .matched [("param", .string "x"), ("body", done)] :=
    callback_iff.mpr ⟨some "x", done, ⟨rfl, _, rfl, rfl, ⟨_, rfl, rfl, rfl⟩, rfl⟩, rfl⟩
  have hown : (Tree.assignment todos right).Assigns todos right := ⟨rfl, rfl, rfl, rfl⟩
  have hother : (Tree.assignment users right).Assigns users right := ⟨rfl, rfl, rfl, rfl⟩
  obtain ⟨-, hremove, -⟩ :=
    (recognize_reassigned hown hcalls (Or.inl rfl) htodos hcallback le_rfl).1 (by decide)
  obtain ⟨hskip, hmisdirected, -⟩ :=
    (recognize_reassigned hother hcalls (Or.inl rfl) husers hcallback le_rfl).2 (by decide)
  exact ⟨htodos, husers, hcalls, ⟨_, hcallback, hremove rfl⟩, hskip, hmisdirected.mpr (Or.inl rfl)⟩

end FluentQuery
