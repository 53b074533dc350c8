import FluentQuery.Node.Build
import FluentQuery.Program
import FluentQuery.Proofs.Standard
import Mathlib.Data.List.Chain

/-!
# Recognized commands are well-formed pipelines

The type of commands allows a value or a change anywhere in a pipeline, and a change of what a read
gives. That no recognized command is of this kind is not the work of any one row of the table: the
rows say what may follow what, and the extractor and the builder of a row fit together only because
the extractor gives arguments of the right kind.

The invariant carried through resolution is that the operation of a resolved node is that of the
outermost command, and that the command is well formed for the levels used. One lemma,
`Command.WellFormed.after`, adds any command to a pipeline; which commands a row can add is said
once, in `Operation.Builds`.
-/

namespace FluentQuery

/-! ## Well-formed pipelines -/

namespace Command

/-- The operation of the outermost command. -/
def opId : Command → OpId
  | .collection _ => .root
  | .query op _ => op.opId
  | .value _ _ => .length
  | .modification op _ => op.opId

/-- The commands strictly inside a pipeline, from the outermost to the collection. -/
def sources : Command → List Command
  | .collection _ => []
  | .query _ source => source :: source.sources
  | .value _ source => source :: source.sources
  | .modification _ source => source :: source.sources

/-- All commands of a pipeline, from the outermost to the collection. -/
def pipeline (c : Command) : List Command := c :: c.sources

/-- Whether a command is a collection. -/
def isCollection : Command → Bool
  | .collection _ => true
  | _ => false

/-- Whether a command is a read. -/
def isQuery : Command → Bool
  | .query _ _ => true
  | _ => false

/-- A pipeline that makes sense, of no more commands than a limit. -/
structure WellFormed (limit : Nat) (c : Command) : Prop where
  /-- It ends in its collection, and there is no other. -/
  ends : ∃ outer, c.pipeline = outer ++ [.collection c.root] ∧ ∀ s ∈ outer, s.isCollection = false
  /-- Inside it there are only reads, but for the collection. -/
  inside : ∀ s ∈ c.sources, s.isCollection = true ∨ s.isQuery = true
  /-- A value or a change can only be outermost. -/
  outermost : ∀ s ∈ c.sources, s.isTerminal = false
  /-- The only value is the length. -/
  length : ∀ property source, c = .value property source → property = "length"
  /-- A change is made directly to the collection. -/
  change : ∀ op source, c = .modification op source → source = .collection c.root ∧ c.depth = 2
  /-- Each operation may follow the one before it. -/
  follows : c.pipeline.IsChain fun outer inner ↦
    Table.standard.canFollow outer.opId inner.opId = true
  depth_le : c.depth ≤ limit

theorem wellFormed_collection (ref : CollectionRef) (limit : Nat) :
    (collection ref).WellFormed (limit + 1) where
  ends := ⟨[], rfl, by simp⟩
  inside := by simp [sources]
  outermost := by simp [sources]
  length := by simp
  change := by simp
  follows := List.isChain_singleton _
  depth_le := Nat.succ_le_succ (Nat.zero_le limit)

/-- Any command may be added to a pipeline that does not end the chain, if its operation may follow
and, for a change, if the pipeline is the collection alone. -/
theorem WellFormed.after {limit : Nat} {c inner : Command} (hinner : inner.WellFormed limit)
    (hterminal : inner.isTerminal = false) (hsource : c.source? = some inner)
    (hfollows : Table.standard.canFollow c.opId inner.opId = true)
    (hlength : ∀ property source, c = .value property source → property = "length")
    (hchange : ∀ op source, c = .modification op source → source = .collection c.root) :
    c.WellFormed (limit + 1) := by
  -- Whichever command is added, what is inside it is the pipeline of its source.
  have hsources : c.sources = inner.pipeline := by
    cases c <;> cases hsource <;> rfl
  have hroot : c.root = inner.root := by
    cases c <;> cases hsource <;> rfl
  have hdepth : c.depth = 1 + inner.depth := by
    cases c <;> cases hsource <;> rfl
  have hcollection : c.isCollection = false := by
    cases c <;> cases hsource <;> rfl
  obtain ⟨outer, houter, hnone⟩ := hinner.ends
  refine ⟨⟨c :: outer, ?_, ?_⟩, ?_, ?_, hlength, ?_, ?_, ?_⟩
  · rw [pipeline, hsources, houter, hroot, List.cons_append]
  · intro s hs
    rcases List.mem_cons.mp hs with rfl | hs
    · exact hcollection
    · exact hnone s hs
  · intro s hs
    rw [hsources] at hs
    rcases List.mem_cons.mp hs with rfl | hs
    · cases s <;> simp_all [isTerminal, isCollection, isQuery]
    · exact hinner.inside s hs
  · intro s hs
    rw [hsources] at hs
    rcases List.mem_cons.mp hs with rfl | hs
    · exact hterminal
    · exact hinner.outermost s hs
  · rintro op source rfl
    have hcol := hchange op source rfl
    exact ⟨hcol, by rw [depth, hcol, depth]⟩
  · rw [pipeline, hsources]
    exact List.isChain_cons_cons.mpr ⟨hfollows, hinner.follows⟩
  · rw [hdepth, Nat.add_comm]
    exact Nat.succ_le_succ hinner.depth_le

/-- The operations that may be followed are those of the collection and of reads. -/
theorem isTerminal_of_opId_mem {c : Command} (h : c.opId ∈ [.root, .filter, .map, .slice, .sort]) :
    c.isTerminal = false := by
  cases c with
  | collection ref => rfl
  | query op source => rfl
  | value property source => simp [opId] at h
  | modification op source => cases op <;> simp [opId, ModOp.opId] at h

theorem eq_collection_of_opId {c : Command} (h : c.opId = .root) : c = .collection c.root := by
  cases c with
  | collection ref => rfl
  | query op source => cases op <;> cases h
  | value property source => cases h
  | modification op source => cases op <;> cases h

end Command

/-! ## What the rows of the standard table build -/

/-- The commands that an operation can build on the command before it. -/
inductive Operation.Builds (op : Operation) : Option Command → Command → Prop
  | collection (ref : CollectionRef) (hid : op.id = .root) : op.Builds none (.collection ref)
  | query (q : QueryOp) (source : Command) (hid : op.id = q.opId) :
      op.Builds (some source) (.query q source)
  | length (source : Command) (hid : op.id = .length) :
      op.Builds (some source) (.value "length" source)
  | change (m : ModOp) (source : Command) (hid : op.id = m.opId) (hfollows : op.follows = [.root]) :
      op.Builds (some source) (.modification m source)

theorem Operation.Builds.opId_eq {op : Operation} {source : Option Command} {command : Command}
    (h : op.Builds source command) : command.opId = op.id := by
  cases h with
  | collection ref hid => exact hid.symm
  | query q source hid => exact hid.symm
  | length source hid => exact hid.symm
  | change m source hid _ => exact hid.symm

namespace Table

variable {roots : Roots} {node : Json} {op : Operation}

/-- The builder of a row takes whatever the extractor of the row gives. -/
theorem exists_builds_of_extract (hop : op ∈ standard.operations) {source : Option Command}
    (hsource : source.isNone = op.isInitial) {arguments : Arguments}
    (hextract : op.extract node roots = .matched arguments) :
    ∃ command, op.build source arguments = some command ∧ op.Builds source command := by
  have hbefore : op.isInitial = false → ∃ before, source = some before := by
    intro hinitial
    rw [hinitial, Option.isNone_eq_false_iff] at hsource
    exact Option.isSome_iff_exists.mp hsource
  cases standardRow_of_mem hop with
  | databaseRoot =>
    obtain rfl : source = none := Option.isNone_iff_eq_none.mp hsource
    change databaseMemberArguments node roots = _ at hextract
    obtain ⟨ref, rfl⟩ := exists_of_databaseMemberArguments hextract
    exact ⟨_, rfl, .collection ref rfl⟩
  | collectionRoot =>
    obtain rfl : source = none := Option.isNone_iff_eq_none.mp hsource
    change collectionIdentifierArguments node roots = _ at hextract
    obtain ⟨ref, rfl⟩ := exists_of_collectionIdentifierArguments hextract
    exact ⟨_, rfl, .collection ref rfl⟩
  | read read =>
    obtain ⟨before, rfl⟩ := hbefore read.operation_isInitial
    rw [Read.operation_extract] at hextract
    rcases Read.arguments_cases hextract with ⟨q, rfl, hid, hbuild⟩ | ⟨rfl, rfl⟩
    · exact ⟨_, by rw [hbuild]; rfl, .query q before ((Read.operation_id read).trans hid)⟩
    · exact ⟨_, rfl, .length before rfl⟩
  | insert =>
    obtain ⟨before, rfl⟩ := hbefore rfl
    change insertArguments node roots = _ at hextract
    obtain ⟨values, rfl⟩ := exists_of_insertArguments hextract
    exact ⟨_, rfl, .change _ before rfl rfl⟩
  | update =>
    obtain ⟨before, rfl⟩ := hbefore rfl
    change updateArguments node roots = _ at hextract
    obtain ⟨pairs, predicate, rfl⟩ := exists_of_updateArguments hextract
    exact ⟨_, rfl, .change _ before rfl rfl⟩
  | remove =>
    obtain ⟨before, rfl⟩ := hbefore rfl
    change removeArguments node roots = _ at hextract
    obtain ⟨predicate, rfl⟩ := exists_of_removeArguments hextract
    exact ⟨_, rfl, .change _ before rfl rfl⟩

/-- A node with the shape of a collection gives one. -/
theorem exists_extract_of_root (hop : op ∈ standard.operations) (hid : op.id = .root)
    (hshape : op.testShape roots node = .matched ()) :
    ∃ arguments, op.extract node roots = .matched arguments := by
  cases standardRow_of_mem hop with
  | databaseRoot =>
    obtain ⟨name, db, property, hobject, hroot, hproperty⟩ :=
      databaseMember_eq_matched_iff.mp hshape
    exact ⟨_, databaseMemberArguments_of_root hobject hroot hproperty⟩
  | collectionRoot =>
    obtain ⟨name, db, collection, hname, hroot⟩ := collectionIdentifier_eq_matched_iff.mp hshape
    exact ⟨_, collectionIdentifierArguments_of_root hname hroot⟩
  | read read => cases read <;> cases hid
  | insert => cases hid
  | update => cases hid
  | remove => cases hid

theorem mem_of_mem_follows (hop : op ∈ standard.operations) {id : OpId} (hid : id ∈ op.follows) :
    id ∈ [.root, .filter, .map, .slice, .sort] := by
  cases standardRow_of_mem hop with
  | databaseRoot => simp [databaseRoot] at hid
  | collectionRoot => simp [collectionRoot] at hid
  | read read =>
    cases read <;> simp [Read.operation, queryMethod, lengthProperty] at hid ⊢ <;> tauto
  | insert => simp_all [write]
  | update => simp_all [write]
  | remove => simp_all [write]

/-- What a node comes to once it is committed to a row: a command that the row builds, or the reason
why it has no arguments. A collection always has. -/
theorem commit_cases (hop : op ∈ standard.operations) {source : Option Command}
    (hsource : source.isNone = op.isInitial) (hshape : op.testShape roots node = .matched ()) :
    (∃ command, (op.commit roots node source).verdict = .matched ⟨op.id, command⟩ ∧
        op.Builds source command) ∨
      ∃ why, (op.commit roots node source).verdict = .failed (.malformed op.id why node.span?) ∧
        op.id ≠ .root := by
  cases hextract : op.extract node roots with
  | matched arguments =>
    obtain ⟨command, hbuild, hbuilds⟩ := exists_builds_of_extract hop hsource hextract
    refine Or.inl ⟨command, ?_, hbuilds⟩
    exact Operation.verdict_commit_eq_matched_iff.mpr ⟨_, _, hextract, hbuild, rfl⟩
  | skip why =>
    refine Or.inr ⟨why, ?_, fun hid ↦ ?_⟩
    · exact Operation.verdict_commit_eq_failed_iff.mpr (Or.inl ⟨why, hextract, rfl⟩)
    · obtain ⟨arguments, harguments⟩ := exists_extract_of_root hop hid hshape
      cases hextract.symm.trans harguments

end Table

/-- What a row builds on a well-formed command that it may follow is well formed. -/
theorem Operation.Builds.wellFormed {op : Operation} (hop : op ∈ Table.standard.operations)
    {before command : Command} (hbuilds : op.Builds (some before) command)
    (hfollows : before.opId ∈ op.follows) {limit : Nat} (hbefore : before.WellFormed limit) :
    command.WellFormed (limit + 1) := by
  refine hbefore.after (Command.isTerminal_of_opId_mem (Table.mem_of_mem_follows hop hfollows))
    ?_ ?_ ?_ ?_
  · cases hbuilds <;> rfl
  · rw [hbuilds.opId_eq]
    exact Table.canFollow_of_mem hop hfollows
  · rintro property source rfl
    cases hbuilds
    rfl
  · rintro m source rfl
    -- A change may only follow `root`, which is the operation of collections alone.
    cases hbuilds with
    | change _ _ _ honly =>
      rw [honly, List.mem_singleton] at hfollows
      exact Command.eq_collection_of_opId hfollows

/-! ## Resolution over the standard table -/

theorem Operation.Attached.isNone_eq {resolve : Json → Traced (Outcome Resolved)} {op : Operation}
    {node : Json} {source : Option Command} (h : op.Attached resolve node source) :
    source.isNone = op.isInitial := by
  cases h with
  | initial hinitial => exact hinitial.symm
  | after hinitial _ _ _ => exact hinitial.symm

/-- The failures of resolution over the standard table: the recursion limit, and an operation other
than the collection whose arguments cannot be read. -/
inductive Failure.Ordinary (limit : Nat) : Failure → Prop
  | tooDeep : Failure.Ordinary limit (.tooDeep limit)
  | malformed (op : OpId) (why : Skip) (span : Option Span) (h : op ≠ .root) :
      Failure.Ordinary limit (.malformed op why span)

namespace Table

variable {roots : Roots} {node : Json} {limit depth : Nat} {whitelist : Option (List OpId)}

/-- **The invariant.** A node resolved within some levels has the operation of its outermost
command, and the command is well formed with no more commands than levels. -/
theorem wellFormed_of_resolveAt {r : Resolved}
    (h : (standard.resolveAt roots limit depth whitelist node).verdict = .matched r) :
    r.command.opId = r.id ∧ r.command.WellFormed depth := by
  induction depth generalizing node whitelist r with
  | zero => simp at h
  | succ depth ih =>
    obtain ⟨op, hop, -, -, hattempt⟩ := resolveAt_succ_cases h (by simp)
    obtain ⟨hshape, ⟨_, _, _, _, _, hfailed⟩ | ⟨source, hattached, hcommit⟩⟩ :=
      Operation.attempt_cases hattempt (by simp)
    · cases hfailed
    rcases commit_cases hop hattached.isNone_eq hshape with
      ⟨command, hverdict, hbuilds⟩ | ⟨why, hverdict, -⟩
    · cases hcommit.symm.trans hverdict
      refine ⟨hbuilds.opId_eq, ?_⟩
      cases hattached with
      | initial _ =>
        cases hbuilds with
        | collection ref _ => exact Command.wellFormed_collection ref depth
      | after _ _ hbefore hfollows =>
        obtain ⟨hid, hwellFormed⟩ := ih hbefore
        rw [← hid] at hfollows
        exact hbuilds.wellFormed hop hfollows hwellFormed
    · cases hcommit.symm.trans hverdict

theorem ordinary_of_resolveAt {failure : Failure}
    (h : (standard.resolveAt roots limit depth whitelist node).verdict = .failed failure) :
    failure.Ordinary limit := by
  induction depth generalizing node whitelist with
  | zero =>
    cases h
    exact .tooDeep
  | succ depth ih =>
    obtain ⟨op, hop, -, -, hattempt⟩ := resolveAt_succ_cases h (by simp)
    obtain ⟨hshape, ⟨inner, _, _, _, hinner, hfailed⟩ | ⟨source, hattached, hcommit⟩⟩ :=
      Operation.attempt_cases hattempt (by simp)
    · cases hfailed
      exact ih hinner
    rcases commit_cases hop hattached.isNone_eq hshape with
      ⟨command, hverdict, hbuilds⟩ | ⟨why, hverdict, hroot⟩
    · cases hcommit.symm.trans hverdict
    · cases hcommit.symm.trans hverdict
      exact .malformed op.id why _ hroot

end Table

namespace Recognizer

variable {r : Recognizer} {roots : Roots} {limit : Nat} {node : Json}

theorem verdict_recognize : (r.recognize roots limit node).verdict =
    (Table.standard.analyze roots limit r.operations node).verdict.map Resolved.command :=
  Traced.verdict_map _ _

theorem wellFormed_of_recognize {command : Command}
    (h : (r.recognize roots limit node).result = .ok (.matched command)) :
    command.WellFormed limit := by
  rw [← Traced.verdict_eq_matched_iff, verdict_recognize, Verdict.map_eq_matched_iff] at h
  obtain ⟨resolved, hresolved, rfl⟩ := h
  exact (Table.wellFormed_of_resolveAt hresolved).2

theorem ordinary_of_recognize {failure : Failure}
    (h : (r.recognize roots limit node).result = .error failure) : failure.Ordinary limit := by
  rw [← Traced.verdict_eq_failed_iff, verdict_recognize, Verdict.map_eq_failed_iff] at h
  exact Table.ordinary_of_resolveAt h

end Recognizer

/-! ## The sites of a program -/

namespace Program

/-- Some recognizer gives this command, on some node under some roots. -/
def Recognized (limit : Nat) (command : Command) : Prop :=
  ∃ (r : Recognizer) (roots : Roots) (node : Json),
    (r.recognize roots limit node).result = .ok (.matched command)

/-- Some recognizer fails in this way, on some node under some roots. -/
def Refused (limit : Nat) (failure : Failure) : Prop :=
  ∃ (r : Recognizer) (roots : Roots) (node : Json),
    (r.recognize roots limit node).result = .error failure

/-- A visit that leaves only what recognizers give. -/
structure Faithful (limit : Nat) (t : Traced Visited) : Prop where
  sites : ∀ visited, t.result = .ok visited → ∀ site ∈ visited.sites, Recognized limit site.command
  failures : ∀ failure, t.result = .error failure → Refused limit failure

variable {limit : Nat}

theorem faithful_pure {visited : Visited}
    (h : ∀ site ∈ visited.sites, Recognized limit site.command) :
    Faithful limit (pure visited) where
  sites := by
    intro visited' hresult
    cases hresult
    exact h
  failures := by
    intro failure hresult
    cases hresult

theorem faithful_nothing (roots : Roots) :
    Faithful limit (pure ⟨roots, []⟩) :=
  faithful_pure fun _ hsite ↦ absurd hsite List.not_mem_nil

theorem faithful_bind {α : Type} {t : Traced α} {f : α → Traced Visited}
    (hfailures : ∀ failure, t.result = .error failure → Refused limit failure)
    (hrest : ∀ a, t.result = .ok a → Faithful limit (f a)) : Faithful limit (t >>= f) where
  sites := by
    intro visited h
    obtain ⟨a, ha, h⟩ := Traced.result_bind_eq_ok_iff.mp h
    exact (hrest a ha).sites visited h
  failures := by
    intro failure h
    rcases Traced.result_bind_eq_error_iff.mp h with h | ⟨a, ha, h⟩
    · exact hfailures failure h
    · exact (hrest a ha).failures failure h

/-- Two visits one after the other, with their sites put together. -/
theorem Faithful.append {first : Traced Visited} {rest : Roots → Traced Visited}
    (hfirst : Faithful limit first) (hrest : ∀ roots, Faithful limit (rest roots)) :
    Faithful limit (do
      let a ← first
      let b ← rest a.roots
      return ⟨b.roots, a.sites ++ b.sites⟩) := by
  refine faithful_bind hfirst.failures fun a ha ↦ ?_
  refine faithful_bind (hrest a.roots).failures fun b hb ↦ faithful_pure fun site hsite ↦ ?_
  rcases List.mem_append.mp hsite with hsite | hsite
  · exact hfirst.sites a ha site hsite
  · exact (hrest a.roots).sites b hb site hsite

/-- A declaration never fails. -/
theorem exists_result_declare (roots : Roots) (node : Json) :
    ∃ after, (declare roots node).result = .ok after := by
  rw [declare]
  split
  · split
    · exact ⟨_, rfl⟩
    · split <;> exact ⟨_, rfl⟩
  · exact ⟨_, rfl⟩

theorem recognized_of_offer {roots : Roots} {node : Json} {command : Command}
    (h : (offer limit roots node).result = .ok (some command)) : Recognized limit command := by
  rw [offer] at h
  split at h
  · cases h
  · next r _ =>
    obtain ⟨outcome, houtcome, h⟩ := Traced.result_bind_eq_ok_iff.mp h
    cases outcome with
    | skip why => cases h
    | matched found =>
      cases h
      exact ⟨r, roots, node, houtcome⟩

theorem refused_of_offer {roots : Roots} {node : Json} {failure : Failure}
    (h : (offer limit roots node).result = .error failure) : Refused limit failure := by
  rw [offer] at h
  split at h
  · cases h
  · next r _ =>
    rcases Traced.result_bind_eq_error_iff.mp h with h | ⟨outcome, -, h⟩
    · exact ⟨r, roots, node, h⟩
    · cases h

-- The visit of a value, of items and of entries follow each other in one recursion over the tree.
mutual

theorem faithful_visit : ∀ (v : Json) (roots : Roots), Faithful limit (visit limit v roots)
  | .null, roots => faithful_nothing roots
  | .bool _, roots => faithful_nothing roots
  | .number _, roots => faithful_nothing roots
  | .string _, roots => faithful_nothing roots
  | .array items, roots => faithful_visitItems items roots
  | .object entries, roots => by
    rw [visit]
    split
    · refine faithful_bind (fun failure h ↦ ?_) fun after _ ↦ ?_
      · obtain ⟨after, hafter⟩ := exists_result_declare roots (.object entries)
        cases hafter.symm.trans h
      refine faithful_bind (fun failure ↦ refused_of_offer) fun found hfound ↦ ?_
      -- What is recognized is one site, and nothing inside it is visited.
      cases found with
      | some command =>
        refine faithful_pure fun site hsite ↦ ?_
        obtain rfl := List.mem_singleton.mp hsite
        exact recognized_of_offer hfound
      | none => exact faithful_visitEntries _ entries after
    · exact faithful_nothing roots

theorem faithful_visitItems : ∀ (items : List Json) (roots : Roots),
    Faithful limit (visitItems limit items roots)
  | [], roots => faithful_nothing roots
  | v :: rest, roots => (faithful_visit v roots).append (faithful_visitItems rest)

theorem faithful_visitEntries : ∀ (passedOver : String → Bool) (entries : List (String × Json))
    (roots : Roots), Faithful limit (visitEntries limit passedOver entries roots)
  | _, [], roots => faithful_nothing roots
  | passedOver, (key, v) :: rest, roots => by
    rw [visitEntries]
    split
    · exact faithful_visitEntries passedOver rest roots
    · exact (faithful_visit v roots).append (faithful_visitEntries passedOver rest)

end

theorem sites_of_analyze {config : Config} {program : Json} {sites : List Site}
    (h : (analyze config program).result = .ok sites) :
    ∀ site ∈ sites, Recognized config.recursionLimit site.command := by
  rw [analyze] at h
  split at h
  · cases h
  · obtain ⟨visited, hvisited, h⟩ := Traced.result_bind_eq_ok_iff.mp h
    cases h
    exact (faithful_visit program _).sites visited hvisited

theorem failure_of_analyze {config : Config} {program : Json} {failure : Failure}
    (h : (analyze config program).result = .error failure) :
    (∃ fault, failure = .invalidConfig fault) ∨ Refused config.recursionLimit failure := by
  rw [analyze] at h
  split at h
  · cases h
    exact Or.inl ⟨_, rfl⟩
  · rcases Traced.result_bind_eq_error_iff.mp h with h | ⟨visited, -, h⟩
    · exact Or.inr ((faithful_visit program _).failures failure h)
    · cases h

end Program

/-! ## Recognition gives well-formed pipelines -/

/-- **Recognized commands are well formed**, whichever recognizer gives them and wherever in a
program they stand, and nothing but the configuration stops an analysis except a chain that is too
deep or an operation after the collection whose arguments cannot be read: no builder refuses what
its extractor gives. -/
theorem recognized_wellFormed (config : Config) (roots : Roots) (node : Json) :
    (∀ (r : Recognizer) (command : Command),
      (r.recognize roots config.recursionLimit node).result = .ok (.matched command) →
        command.WellFormed config.recursionLimit) ∧
    (∀ sites : List Site, (Program.analyze config node).result = .ok sites →
      ∀ site ∈ sites, site.command.WellFormed config.recursionLimit) ∧
    (∀ (whitelist : List OpId) (failure : Failure),
      (Table.standard.analyze roots config.recursionLimit whitelist node).result = .error failure →
        failure.Ordinary config.recursionLimit) ∧
    ∀ failure : Failure, (Program.analyze config node).result = .error failure →
      (∃ fault, failure = .invalidConfig fault) ∨ failure.Ordinary config.recursionLimit := by
  refine ⟨fun r command h ↦ Recognizer.wellFormed_of_recognize h, fun sites h site hsite ↦ ?_,
    fun whitelist failure h ↦ ?_, fun failure h ↦ ?_⟩
  · obtain ⟨r, roots', node', hrecognize⟩ := Program.sites_of_analyze h site hsite
    exact Recognizer.wellFormed_of_recognize hrecognize
  · exact Table.ordinary_of_resolveAt (Traced.verdict_eq_failed_iff.mpr h)
  · rcases Program.failure_of_analyze h with hfault | ⟨r, roots', node', hrecognize⟩
    · exact Or.inl hfault
    · exact Or.inr (Recognizer.ordinary_of_recognize hrecognize)

/-- The program `db.todos = [...db.todos, 1]; db.todos.filter(x => x.done).length` has two sites, a
change of two commands and a value of three. -/
theorem recognized_wellFormed_change_and_value :
    let config : Config := { roots := ["db"], recursionLimit := 3 }
    let todos := Tree.member (Tree.identifier "db") "todos"
    let done := Tree.member (Tree.identifier "x") "done"
    let one := Tree.literal (.number (.int 1))
    let program := Tree.program
      [Tree.expressionStatement (Tree.assignment todos (Tree.array [Tree.spread todos, one])),
        Tree.expressionStatement
          (Tree.member (Tree.method todos "filter" [Tree.arrow ["x"] done]) "length")]
    let change : Command := .modification (.insert [one]) (.collection ⟨"db", "todos"⟩)
    let value : Command := .value "length" (.query (.filter done) (.collection ⟨"db", "todos"⟩))
    (Program.analyze config program).result = .ok [⟨none, change⟩, ⟨none, value⟩] ∧
      change.WellFormed 3 ∧ value.WellFormed 3 := by
  intro config todos done one program change value
  have h : (Program.analyze config program).result = .ok [⟨none, change⟩, ⟨none, value⟩] := rfl
  have hsites := (recognized_wellFormed config ⟨[], []⟩ program).2.1 _ h
  exact ⟨h, hsites ⟨none, change⟩ (by simp), hsites ⟨none, value⟩ (by simp)⟩

end FluentQuery
