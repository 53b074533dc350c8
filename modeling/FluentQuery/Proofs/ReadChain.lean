import FluentQuery.Node.Build
import FluentQuery.Proofs.Standard
import FluentQuery.Recognize

/-!
# Chains of reads as runs of an automaton

A chain of reads on a collection, such as `db.todos.filter(f).sort(g).length`, is resolved inside
out: the outermost read is tried first, its source is resolved before anything is read from it, and
each level counts against the recursion limit on the way in. Read in the order in which it is
written, the same chain is a run of an automaton. Its states are the operations, it starts in `root`
with the collection, and each read either does not fit the state, or cannot be read, or wraps the
command so far and becomes the state.

The main statement is that the two agree for chains of any length with any arguments. The recursion
limit is settled first, by the length of the chain alone; after that the innermost read that goes
wrong decides, and no other row of the table interferes.
-/

namespace FluentQuery

/-! ## The automaton -/

/-- The recognizer that a read is outermost for. -/
def Read.recognizer : Read → Recognizer
  | .length => .member
  | _ => .call

/-- One link of a chain: a read, and the node that asks for it, without parentheses. -/
structure Link where
  read : Read
  node : Json

namespace Link

/-- One step of the automaton: from a state and its command to the next. -/
def step (roots : Roots) (state : Resolved) (link : Link) : Verdict Resolved :=
  if Table.standard.canFollow link.read.id state.id then
    match link.read.extract link.node roots with
    | .skip why => .failed (.malformed link.read.id why link.node.span?)
    | .matched (.query op) => .matched ⟨link.read.id, .query op state.command⟩
    | .matched (.value property) => .matched ⟨link.read.id, .value property state.command⟩
    -- A read has no other arguments.
    | .matched _ => .skipped
  else .skipped

/-- The run of the automaton over some links, from left to right. -/
def run (roots : Roots) (state : Resolved) : List Link → Verdict Resolved
  | [] => .matched state
  | link :: rest => (link.step roots state).andThen fun next ↦ run roots next rest

/-- The state in which a run over the reads of a collection starts. -/
def start (ref : CollectionRef) : Resolved := ⟨.root, .collection ref⟩

theorem run_append (roots : Roots) (state : Resolved) (links more : List Link) :
    run roots state (links ++ more) =
      (run roots state links).andThen fun next ↦ run roots next more := by
  induction links generalizing state with
  | nil => rfl
  | cons link rest ih =>
    rw [List.cons_append, run, run, Verdict.andThen_assoc]
    congr 1
    funext next
    exact ih next

theorem run_concat (roots : Roots) (state : Resolved) (links : List Link) (link : Link) :
    run roots state (links ++ [link]) =
      (run roots state links).andThen fun last ↦ link.step roots last := by
  rw [run_append]
  congr 1
  funext last
  exact Verdict.andThen_matched _

end Link

/-! ## Chains -/

/-- A node asks for a read of another node: by a call of the method of that name, or by an access to
the property. The arguments of the call, and all else that the node may hold, are left open. -/
inductive Asks (source node : Json) : Read → Prop
  | method {read : Read} {callee : Json} (hread : read ≠ .length)
      (hkind : node.unparen.isKind Kind.call = true) (hcallee : node.field? "callee" = some callee)
      (hname : callee.staticProperty? = some read.id.text)
      (hobject : callee.field? "object" = some source) : Asks source node read
  | length (hkind : node.unparen.isKind Kind.member = true)
      (hname : node.staticProperty? = some "length")
      (hobject : node.field? "object" = some source) : Asks source node .length

/-- A node is a chain of reads on a collection. The links stand in the order in which the reads are
made, the innermost first. -/
inductive ReadChain (roots : Roots) (ref : CollectionRef) : Json → List Link → Prop
  | collection {node : Json} (hnode : Denotes roots node ref) : ReadChain roots ref node []
  | read {source node : Json} {links : List Link} {read : Read}
      (hsource : ReadChain roots ref source links) (hnode : Asks source node read) :
      ReadChain roots ref node (links ++ [⟨read, node.unparen⟩])

variable {roots : Roots} {ref : CollectionRef} {source node : Json} {links : List Link}
  {read : Read}

/-! ### No node of a chain denotes a database

A node that asks for the length of a database would be a member of it, and so a collection. -/

theorem identName?_eq_none_of_kind {kind : String} (hkind : node.unparen.isKind kind = true)
    (hne : kind ≠ Kind.identifier) : node.identName? = none := by
  rw [Json.isKind_iff] at hkind
  simp [Json.identName?, Json.isKind, hkind, hne]

theorem Asks.identName?_eq_none (h : Asks source node read) : node.identName? = none := by
  cases h with
  | method _ hkind _ _ _ => exact identName?_eq_none_of_kind hkind (by decide)
  | length hkind _ _ => exact identName?_eq_none_of_kind hkind (by decide)

theorem ReadChain.not_database (h : ReadChain roots ref node links) {name db : String}
    (hname : node.identName? = some name) : roots.get? name ≠ some ⟨db, none⟩ := by
  cases h with
  | collection hnode =>
    cases hnode with
    | member hkind _ _ _ => simp [identName?_eq_none_of_kind hkind (by decide)] at hname
    | identifier hname' hroot =>
      obtain rfl : _ = name := Option.some.inj (hname'.symm.trans hname)
      simp [hroot]
  | read _ hnode => simp [hnode.identName?_eq_none] at hname

/-! ## One level of resolution -/

namespace Read

theorem mem_operation_follows_iff {state : OpId} :
    state ∈ read.operation.follows ↔ Table.standard.canFollow read.id state = true := by
  cases read <;>
    simp [operation, id, Table.queryMethod, Table.lengthProperty, Table.canFollow, Table.get,
      Table.standard, Table.databaseRoot, Table.collectionRoot, Table.write]

/-- A read that may follow a state commits as the step of the automaton says. -/
theorem verdict_commit_operation (read : Read) (state : Resolved)
    (hfollows : state.id ∈ read.operation.follows) :
    (read.operation.commit roots node (some state.command)).verdict =
      Link.step roots state ⟨read, node⟩ := by
  rw [mem_operation_follows_iff] at hfollows
  rw [Link.step, if_pos hfollows, Operation.commit, operation_extract, operation_id]
  cases hextract : read.extract node roots with
  | skip why => rfl
  | matched arguments =>
    rcases arguments_cases hextract with ⟨q, rfl, -, hbuild⟩ | ⟨rfl, rfl⟩
    · simp only [hbuild]
      rfl
    · rfl

end Read

namespace Asks

/-- What the row of the read looks for: the kind and the name of the node, and the node before. -/
theorem row (h : Asks source node read) :
    node.unparen.kind? = some read.operation.attachment.kind ∧
      read.operation.attachment.nameOf? node.unparen = some read.id.text ∧
        read.operation.attachment.predecessor? node.unparen = some source := by
  cases h with
  | method hread hkind hcallee hname hobject =>
    rw [Read.operation_attachment hread]
    refine ⟨Json.isKind_iff.mp hkind, ?_, ?_⟩
    · rw [Attachment.nameOf?, Json.field?_unparen, hcallee, Option.bind_some, hname]
    · rw [Attachment.predecessor?, Json.field?_unparen, hcallee, Option.bind_some, hobject]
  | length hkind hname hobject =>
    refine ⟨Json.isKind_iff.mp hkind, ?_, ?_⟩
    · exact (Json.staticProperty?_unparen node).trans hname
    · exact (Json.field?_unparen node "object").trans hobject

theorem applies (h : Asks source node read) : read.operation.applies node.unparen = true := by
  obtain ⟨hkind, hname, -⟩ := h.row
  refine Operation.applies_iff.mpr ⟨hkind, fun name hsome ↦ ?_⟩
  rw [hname, ← hsome, Read.operation_name]

/-- The row of the read is the only one whose kind, name and shape the node has. -/
theorem eq_or_skip_of_applies (h : Asks source node read)
    (hsource : ∀ name db, source.identName? = some name → roots.get? name ≠ some ⟨db, none⟩)
    {op : Operation} (hop : op ∈ Table.standard.operations)
    (happlies : op.applies node.unparen = true) :
    op = read.operation ∨ ∃ why, op.testShape roots node.unparen = .skip why := by
  obtain ⟨hkind, hname, -⟩ := h.row
  obtain ⟨hkind', hname'⟩ := Operation.applies_iff.mp happlies
  have hattachment : op.attachment = read.operation.attachment :=
    Attachment.kind_injective (Option.some.inj (hkind'.symm.trans hkind))
  cases standardRow_of_mem hop with
  | read read' =>
    have htext : some read.id.text = some read'.id.text := by
      rw [← hname, ← hattachment]
      exact hname' _ read'.operation_name
    exact Or.inl (congrArg Read.operation (Read.id_text_injective (Option.some.inj htext)).symm)
  | databaseRoot =>
    cases h with
    | method hread _ _ _ _ =>
      rw [Read.operation_attachment hread] at hattachment
      cases hattachment
    | length _ _ hobject =>
      -- The object would have to be an identifier bound to a database.
      right
      cases hshape : Table.databaseRoot.testShape roots node.unparen with
      | skip why => exact ⟨why, rfl⟩
      | matched u =>
        obtain ⟨name, db, property, hident, hroot, -⟩ := databaseMember_eq_matched_iff.mp hshape
        rw [Json.field?_unparen, hobject, Option.bind_some] at hident
        exact absurd hroot (hsource name db hident)
  | collectionRoot => cases read <;> cases hattachment
  | insert => cases read <;> cases hattachment
  | update => cases read <;> cases hattachment
  | remove => cases read <;> cases hattachment

/-- A node that asks for a read resolves to a step of the automaton after its source. -/
theorem verdict_resolveAt (h : Asks source node read)
    (hsource : ∀ name db, source.identName? = some name → roots.get? name ≠ some ⟨db, none⟩)
    (limit depth : Nat) {whitelist : Option (List OpId)}
    (hids : ∀ ids, whitelist = some ids → read.id ∈ ids) :
    (Table.standard.resolveAt roots limit (depth + 1) whitelist node).verdict =
      (Table.standard.resolveAt roots limit depth none source).verdict.andThen fun state ↦
        Link.step roots state ⟨read, node.unparen⟩ := by
  have hmem : read.operation ∈ Table.standard.candidates whitelist node.unparen := by
    refine Table.mem_candidates_iff.mpr ⟨read.operation_mem, ?_, h.applies⟩
    rwa [Read.operation_id]
  rw [Table.verdict_resolveAt_succ, Table.verdict_tryAll_eq_attempt hmem]
  · obtain ⟨-, -, hpredecessor⟩ := h.row
    rw [Operation.verdict_attempt_of_not_initial read.operation_testShape read.operation_isInitial,
      Operation.verdict_attemptAfter hpredecessor]
    congr 1
    funext state
    by_cases hfollows : state.id ∈ read.operation.follows
    · rw [if_pos hfollows, read.verdict_commit_operation state hfollows]
    · rw [if_neg hfollows, Link.step, if_neg (mt Read.mem_operation_follows_iff.mpr hfollows)]
  · intro other hother
    obtain ⟨hop, -, happlies⟩ := Table.mem_candidates_iff.mp hother
    rcases h.eq_or_skip_of_applies hsource hop happlies with heq | ⟨why, hskip⟩
    · exact Or.inl heq
    · exact Or.inr (Operation.verdict_attempt_of_skip hskip)

end Asks

/-- A node that denotes a collection resolves to it. -/
theorem Denotes.verdict_resolveAt (h : Denotes roots node ref) (limit depth : Nat) :
    (Table.standard.resolveAt roots limit (depth + 1) none node).verdict =
      .matched (Link.start ref) := by
  rw [Table.verdict_resolveAt_succ]
  cases h with
  | @member name db property hkind hobject hroot hproperty =>
    rw [← Json.field?_unparen] at hobject
    rw [← Json.staticProperty?_unparen] at hproperty
    have happlies : Table.databaseRoot.applies node.unparen = true :=
      Operation.applies_iff.mpr ⟨Json.isKind_iff.mp hkind, by simp [Table.databaseRoot]⟩
    have hshape : Table.databaseRoot.testShape roots node.unparen = .matched () :=
      databaseMember_eq_matched_iff.mpr ⟨name, db, property, hobject, hroot, hproperty⟩
    have hattempt : (Table.databaseRoot.attempt (Table.standard.resolveAt roots limit depth none)
        roots node.unparen).verdict = .matched (Link.start ⟨db, property⟩) := by
      rw [Operation.verdict_attempt_of_initial hshape rfl, Operation.verdict_commit_eq_matched_iff]
      exact ⟨_, _, databaseMemberArguments_of_root hobject hroot hproperty, rfl, rfl⟩
    -- The row of database members comes first, so a collection may also be named `length`.
    have hcandidates : ∃ rest, Table.standard.candidates none node.unparen =
        Table.databaseRoot :: rest :=
      ⟨_, List.filter_cons_of_pos (by simpa using happlies)⟩
    obtain ⟨rest, hrest⟩ := hcandidates
    rw [hrest, Table.verdict_tryAll_cons, hattempt, Verdict.matched_orElse]
  | @identifier name db collection hname hroot =>
    have hkind : node.unparen.kind? = some Table.collectionRoot.attachment.kind :=
      Json.isKind_iff.mp (Json.isKind_of_identName? hname)
    rw [← Json.identName?_unparen] at hname
    have happlies : Table.collectionRoot.applies node.unparen = true :=
      Operation.applies_iff.mpr ⟨hkind, by simp [Table.collectionRoot]⟩
    have hshape : Table.collectionRoot.testShape roots node.unparen = .matched () :=
      collectionIdentifier_eq_matched_iff.mpr ⟨name, db, collection, hname, hroot⟩
    have hmem : Table.collectionRoot ∈ Table.standard.candidates none node.unparen :=
      Table.mem_candidates_iff.mpr ⟨by simp [Table.standard], by simp, happlies⟩
    rw [Table.verdict_tryAll_eq_attempt hmem]
    · rw [Operation.verdict_attempt_of_initial hshape rfl, Operation.verdict_commit_eq_matched_iff]
      exact ⟨_, _, collectionIdentifierArguments_of_root hname hroot, rfl, rfl⟩
    · intro other hother
      obtain ⟨hop, -, hother⟩ := Table.mem_candidates_iff.mp hother
      obtain ⟨hkind', -⟩ := Operation.applies_iff.mp hother
      have hattachment : other.attachment = .identifier :=
        Attachment.kind_injective (Option.some.inj (hkind'.symm.trans hkind))
      cases standardRow_of_mem hop with
      | collectionRoot => exact Or.inl rfl
      | read read => cases read <;> cases hattachment
      | databaseRoot => cases hattachment
      | insert => cases hattachment
      | update => cases hattachment
      | remove => cases hattachment

/-! ## Whole chains -/

/-- Within some levels, a chain resolves as the run over its links, unless it is longer than
that. -/
theorem ReadChain.verdict_resolveAt (h : ReadChain roots ref node links) (limit depth : Nat) :
    (Table.standard.resolveAt roots limit depth none node).verdict =
      if depth < links.length + 1 then .failed (.tooDeep limit)
      else Link.run roots (Link.start ref) links := by
  induction h generalizing depth with
  | collection hnode =>
    cases depth with
    | zero => rfl
    | succ depth =>
      rw [hnode.verdict_resolveAt, if_neg (by simp)]
      rfl
  | @read source node links read hsource hnode ih =>
    cases depth with
    | zero =>
      rw [if_pos (by omega)]
      rfl
    | succ depth =>
      rw [hnode.verdict_resolveAt (fun _ _ ↦ hsource.not_database) limit depth (by simp), ih depth,
        List.length_append, List.length_singleton, Link.run_concat]
      -- A link takes its level before anything is read, so the length alone decides on the limit.
      by_cases hdepth : depth < links.length + 1
      · rw [if_pos hdepth, if_pos (by omega), Verdict.failed_andThen]
      · rw [if_neg hdepth, if_neg (by omega)]

/-- **Resolution is a run.** A chain of reads, recognized by the recognizer of its last one, fails
with the recursion limit if it has more operations than that, counting the collection. Otherwise it
comes to what the run over its reads comes to, from the collection outward. -/
theorem recognize_readChain_eq_run (h : ReadChain roots ref node links) {last : Link}
    (hlast : links.getLast? = some last) (limit : Nat) :
    (last.read.recognizer.recognize roots limit node).verdict =
      if limit < links.length + 1 then .failed (.tooDeep limit)
      else (Link.run roots (Link.start ref) links).map Resolved.command := by
  cases h with
  | collection hnode => simp at hlast
  | @read source node links read hsource hnode =>
    rw [List.getLast?_concat] at hlast
    obtain rfl := Option.some.inj hlast
    rw [Recognizer.recognize, Traced.verdict_map, Table.analyze]
    cases limit with
    | zero => rfl
    | succ limit =>
      have hids : ∀ ids, some read.recognizer.operations = some ids → read.id ∈ ids := by
        intro ids hsome
        rw [← Option.some.inj hsome]
        cases read <;> decide
      rw [hnode.verdict_resolveAt (fun _ _ ↦ hsource.not_database) (limit + 1) limit hids,
        hsource.verdict_resolveAt, List.length_append, List.length_singleton, Link.run_concat]
      by_cases hlimit : limit < links.length + 1
      · rw [if_pos hlimit, if_pos (by omega), Verdict.failed_andThen, Verdict.map_failed]
      · rw [if_neg hlimit, if_neg (by omega)]

/-- `db.todos.filter(x => x.done).length` with three levels. -/
theorem recognize_readChain_eq_run_length :
    let roots : Roots := ⟨[("db", ⟨"main", none⟩)], []⟩
    let done := Tree.member (Tree.identifier "x") "done"
    let todos := Tree.member (Tree.identifier "db") "todos"
    let filtered := Tree.method todos "filter" [Tree.arrow ["x"] done]
    let node := Tree.member filtered "length"
    ReadChain roots ⟨"main", "todos"⟩ node [⟨.filter, filtered⟩, ⟨.length, node⟩] ∧
      (Recognizer.member.recognize roots 3 node).verdict =
        .matched (.value "length" (.query (.filter done) (.collection ⟨"main", "todos"⟩))) := by
  intro roots done todos filtered node
  have htodos : Denotes roots todos ⟨"main", "todos"⟩ := .member rfl rfl rfl rfl
  have hfiltered : Asks todos filtered .filter := .method (by decide) rfl rfl rfl rfl
  have hnode : Asks filtered node .length := .length rfl rfl rfl
  have hchain : ReadChain roots ⟨"main", "todos"⟩ node [⟨.filter, filtered⟩, ⟨.length, node⟩] :=
    .read (.read (.collection htodos) hfiltered) hnode
  exact ⟨hchain, recognize_readChain_eq_run hchain rfl 3⟩

end FluentQuery
