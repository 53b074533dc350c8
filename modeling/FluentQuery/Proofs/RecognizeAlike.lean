import FluentQuery.Proofs.Pipeline
import FluentQuery.Proofs.Respects
import FluentQuery.Proofs.Simulation

/-!
# Recognition respects likeness

From alike nodes the built-in operations read the same arguments, up to the plain forms of the
expressions that an argument carries. Resolution looks at a node only through the operations and
goes on to the node before, and the nodes before alike nodes are alike. By induction on the levels
that are left, alike nodes come to the same: the same command up to plain forms, a skip, or a
failure of the same operation.

Two places look at the kind of a value without looking through parentheses: the values of an insert
must not be spreads, and the overrides of an update must be properties. There likeness needs that
neither stands in parentheses, as in `Enclosure.nodes`.
-/

namespace FluentQuery

/-! ## Plain forms of commands -/

/-- A read with its predicate in plain form. -/
def QueryOp.plain : QueryOp → QueryOp
  | .filter predicate => .filter predicate.plain
  | .map fields => .map fields
  | .slice start stop => .slice start stop
  | .sort keys => .sort keys

/-- A change with the expressions that it carries in plain form. -/
def ModOp.plain : ModOp → ModOp
  | .insert values => .insert (values.map Json.plain)
  | .update changes predicate =>
    .update (changes.map fun change ↦ (change.1, change.2.plain)) (predicate.map Json.plain)
  | .remove predicate => .remove predicate.plain

/-- A command with the expressions that it carries in plain form. Commands are equal up to the same
expressions exactly if their plain forms are equal. -/
def Command.plain : Command → Command
  | .collection ref => .collection ref
  | .query op source => .query op.plain source.plain
  | .value property source => .value property source.plain
  | .modification op source => .modification op.plain source.plain

/-- Arguments with the expressions that they carry in plain form. -/
def Arguments.plain : Arguments → Arguments
  | .collection ref => .collection ref
  | .query op => .query op.plain
  | .value property => .value property
  | .modification op => .modification op.plain

/-- Only nodes are in parentheses, and neither properties nor spreads. -/
def Enclosure.nodes : Enclosure where
  test w := w.any fun v ↦ v.kind?.isSome && !v.isKind Kind.property && !v.isKind Kind.spread
  object := by
    intro w hw
    cases w with
    | none => cases hw
    | some v =>
      cases v with
      | object entries => exact ⟨entries, rfl⟩
      | _ => cases hw

theorem Enclosure.isKind_of_nodes {w : Json} (h : nodes.test (some w) = true) :
    w.isKind Kind.property = false ∧ w.isKind Kind.spread = false := by
  simp only [nodes, Option.any_some, Bool.and_eq_true, Bool.not_eq_true'] at h
  exact ⟨h.1.2, h.2⟩

open Pattern Shapes

/-! ## Arguments of reads -/

variable {e : Enclosure} {a b : Json}

/-- Arguments that differ only in how the expressions in them are written. -/
def Arguments.Alike (x y : Arguments) : Prop := x.plain = y.plain

/-- An extractor reads alike arguments from alike nodes. -/
def Extractor.Respects (e : Enclosure) (extract : Extractor) : Prop :=
  ∀ ⦃a b : Json⦄, FluentQuery.Alike e a b → ∀ roots,
    Outcome.Agree Arguments.Alike (extract a roots) (extract b roots)

theorem agree_expect {p : Pattern} (hp : p.Respects e (Alike e)) (h : Alike e a b)
    (expectation : String) : Outcome.Agree (Bindings.Related (Alike e)) (expect p a expectation)
      (expect p b expectation) :=
  (hp.agree h).mapSkip _ _

theorem Alike.object_identName? (h : Alike e a b) : (a.field? "object").bind Json.identName? =
    (b.field? "object").bind Json.identName? :=
  bind_eq_of_rel (h.field? rfl (by decide)) fun _ _ ↦ Alike.identName?

theorem databaseMember_eq (h : Alike e a b) (roots : Roots) :
    databaseMember a roots = databaseMember b roots := by
  simp only [databaseMember, h.object_identName?, h.staticProperty?]

theorem collectionIdentifier_eq (h : Alike e a b) (roots : Roots) :
    collectionIdentifier a roots = collectionIdentifier b roots := by
  rw [collectionIdentifier, collectionIdentifier, h.identName?]

theorem respects_databaseMemberArguments : Extractor.Respects e databaseMemberArguments := by
  intro a b h roots
  rw [databaseMemberArguments, databaseMemberArguments, h.object_identName?, h.staticProperty?]
  exact (Outcome.Agree.refl _).imp fun x y hxy ↦ congrArg Arguments.plain hxy

theorem respects_collectionIdentifierArguments :
    Extractor.Respects e collectionIdentifierArguments := by
  intro a b h roots
  rw [collectionIdentifierArguments, collectionIdentifierArguments, h.identName?]
  exact (Outcome.Agree.refl _).imp fun x y hxy ↦ congrArg Arguments.plain hxy

theorem respects_filterArguments : Extractor.Respects e filterArguments := by
  intro a b h roots
  refine (agree_expect respects_callback h _).bind fun m m' hm ↦ ?_
  refine (Outcome.Agree.ofOption (hm.get? "body") _).bind fun v w hvw ↦ .matched ?_
  exact congrArg (Arguments.query ∘ QueryOp.filter) hvw.plain_eq

theorem agree_projection (h : Alike e a b) (param : String) :
    Outcome.Agree Eq (projection param a) (projection param b) := by
  rw [projection, projection, h.staticProperty?]
  cases b.staticProperty? with
  | none => exact .refl _
  | some name =>
    have hpattern : projectionPattern.Respects e (Alike e) :=
      respects_node ⟨rfl, by decide, respects_fieldOf _ _, trivial⟩
    have hagree := hpattern.agree h
    dsimp only
    generalize projectionPattern.bindings a = x at hagree ⊢
    generalize projectionPattern.bindings b = y at hagree ⊢
    cases hagree with
    | skip why why' => exact .refl _
    | matched hm =>
      refine .of_eq ?_
      simp only [hm.string?_eq]

theorem agree_projections (param : String) {items items' : List Json}
    (h : List.Forall₂ (Alike e) items items') :
    Outcome.Agree Eq (projections param items) (projections param items') := by
  induction h with
  | nil => exact .refl _
  | cons hab _ ih =>
    rw [projections, projections]
    refine (agree_projection hab param).bind fun first first' hfirst ↦ ?_
    refine ih.bind fun others others' hothers ↦ .matched ?_
    rw [hfirst, hothers]

theorem respects_mapArguments : Extractor.Respects e mapArguments := by
  intro a b h roots
  have hpattern : mapPattern.Respects e (Alike e) :=
    respects_callbackOf (respects_node ⟨rfl, by decide, ⟨trivial, trivial⟩, trivial⟩)
  refine (agree_expect hpattern h _).bind fun m m' hm ↦ ?_
  dsimp only
  rw [hm.string?_eq]
  refine (agree_projections _ (hm.items "properties")).bind fun fields fields' hfields ↦ ?_
  subst hfields
  exact (Outcome.Agree.refl _).imp fun x y hxy ↦ congrArg Arguments.plain hxy

theorem agree_integerBound {m m' : Bindings} (h : m.Related (Alike e) m') (name : String) :
    Outcome.Agree Eq (integerBound m name) (integerBound m' name) := by
  rw [integerBound, integerBound]
  have hnumber := h.number?_eq name
  generalize m.number? name = x at hnumber ⊢
  generalize m'.number? name = y at hnumber ⊢
  cases hnumber with
  | none => exact .refl _
  | @some x y hxy =>
    -- The test and the integer are about units and value, in which the two numbers agree.
    have htest : (x.isWhole && x.magnitudeBelow (.pow 2 63)) =
        (y.isWhole && y.magnitudeBelow (.pow 2 63)) := by
      rw [Binary64.isWhole, Binary64.isWhole, Binary64.magnitudeBelow, Binary64.magnitudeBelow,
        hxy.1]
    dsimp only
    rw [htest, Binary64.toInt, Binary64.toInt, hxy.2]
    split
    · exact .refl _
    · exact .skip _ _

theorem respects_sliceArguments : Extractor.Respects e sliceArguments := by
  intro a b h roots
  have hpattern : slicePattern.Respects e (Alike e) :=
    respects_argumentsPattern ⟨respects_numberAs _, respects_numberAs _, trivial⟩
  refine (agree_expect hpattern h _).bind fun m m' hm ↦ ?_
  refine (agree_integerBound hm "from").bind fun start start' hstart ↦ ?_
  subst hstart
  have hto := hm.get? "to"
  generalize m.get? "to" = x at hto ⊢
  generalize m'.get? "to" = y at hto ⊢
  cases hto with
  | none => exact .matched rfl
  | some _ =>
    refine (agree_integerBound hm "to").bind fun stop stop' hstop ↦ .matched ?_
    rw [hstop]
    rfl

theorem respects_sortArguments : Extractor.Respects e sortArguments := by
  intro a b h roots
  have hpattern : sortPattern.Respects e (Alike e) :=
    respects_argumentsPattern ⟨respects_bound _, trivial⟩
  refine (agree_expect hpattern h _).bind fun m m' hm ↦ ?_
  refine (Outcome.Agree.ofOption (hm.get? "comparator") _).bind fun v w hvw ↦ ?_
  refine (Comparator.agree_normalize hvw).bind fun key key' hkey ↦ .matched ?_
  rw [hkey]
  rfl

theorem respects_lengthArguments : Extractor.Respects e lengthArguments :=
  fun _ _ _ _ ↦ .matched rfl

/-! ## Arguments of writes -/

theorem plain_unary {x y : Json} (h : x.plain = y.plain) (operator : String) :
    (Tree.unary operator x).plain = (Tree.unary operator y).plain := by
  have hwrapped : ∀ v : Json, (Tree.unary operator v).wrapped? = none := fun v ↦ rfl
  rw [Tree.unary, Tree.node, Json.plain_object_of_wrapped?_eq_none (hwrapped x), Tree.unary,
    Tree.node, Json.plain_object_of_wrapped?_eq_none (hwrapped y)]
  simp [Json.plainEntries, isTrivia, triviaKeys, h]

/-- The negations of alike tests are the same expression. -/
theorem plain_negate (h : Alike e a b) : (negate a).plain = (negate b).plain := by
  have hoperator : (a.unparen.get? "operator").bind Json.asString? =
      (b.unparen.get? "operator").bind Json.asString? :=
    bind_eq_of_rel (h.get?_unparen rfl (by decide)) fun _ _ ↦ Alike.asString?
  have hargument : Option.Rel (Alike e) (a.unparen.field? "argument")
      (b.unparen.field? "argument") := h.unparen.field? rfl (by decide)
  rw [negate, negate, h.isKind_unparen, hoperator]
  split
  · generalize a.unparen.field? "argument" = x at hargument ⊢
    generalize b.unparen.field? "argument" = y at hargument ⊢
    cases hargument with
    | none => exact plain_unary h.unparen.plain_eq "!"
    | some hvw => exact hvw.plain_eq
  · exact plain_unary h.unparen.plain_eq "!"

theorem respects_removeArguments : Extractor.Respects e removeArguments := by
  intro a b h roots
  refine (Outcome.Agree.ofOption (h.field? rfl (by decide)) _).bind fun call call' hcall ↦ ?_
  refine (agree_expect respects_callback hcall _).bind fun m m' hm ↦ ?_
  refine (Outcome.Agree.ofOption (hm.get? "body") _).bind fun v w hvw ↦ .matched ?_
  exact congrArg (Arguments.modification ∘ ModOp.remove) (plain_negate hvw)

section Nodes

variable {a b : Json}

theorem isPlainValue_eq (h : Alike .nodes a b) : isPlainValue a = isPlainValue b := by
  rw [isPlainValue, isPlainValue,
    h.isKind_eq (fun _ hw ↦ (Enclosure.isKind_of_nodes hw).2) (by decide)]
  congr 1
  exact Bool.eq_iff_iff.mpr (by rw [bne_iff_ne, bne_iff_ne, Ne, Ne, h.eq_null_iff])

theorem all_isPlainValue_eq {xs ys : List Json} (h : List.Forall₂ (Alike .nodes) xs ys) :
    xs.all isPlainValue = ys.all isPlainValue := by
  induction h with
  | nil => rfl
  | cons hab _ ih => rw [List.all_cons, List.all_cons, isPlainValue_eq hab, ih]

theorem respects_insertArguments : Extractor.Respects .nodes insertArguments := by
  intro a b h roots
  refine (respects_appended.agree h).bind fun m m' hm ↦ ?_
  have hvalues := hm.items "values"
  dsimp only
  generalize ((m.get? "values").bind Json.asArray?).getD [] = xs at hvalues ⊢
  generalize ((m'.get? "values").bind Json.asArray?).getD [] = ys at hvalues ⊢
  have hempty : xs.isEmpty = ys.isEmpty := by cases hvalues <;> rfl
  rw [hempty, all_isPlainValue_eq hvalues]
  split
  · exact .skip _ _
  · split
    · exact .matched (congrArg (Arguments.modification ∘ ModOp.insert)
        (map_plain_eq_of_forall₂ hvalues))
    · exact .skip _ _

/-- Changes that differ only in how their values are written. -/
def ChangesAlike (xs ys : List (String × Json)) : Prop :=
  xs.map (fun change ↦ (change.1, change.2.plain)) = ys.map fun change ↦ (change.1, change.2.plain)

theorem agree_change (h : Alike .nodes a b) : Outcome.Agree
    (fun x y : String × Json ↦ x.1 = y.1 ∧ x.2.plain = y.2.plain) (change a) (change b) := by
  rw [change, change, h.staticProperty?,
    h.isKind_eq (fun _ hw ↦ (Enclosure.isKind_of_nodes hw).1) (by decide)]
  have hvalue : Option.Rel (Alike .nodes) (a.field? "value") (b.field? "value") :=
    h.field? rfl (by decide)
  generalize a.field? "value" = x at hvalue ⊢
  generalize b.field? "value" = y at hvalue ⊢
  split
  · cases hvalue with
    | none => exact .skip _ _
    | some hvw => exact .matched ⟨rfl, hvw.plain_eq⟩
  · exact .skip _ _

theorem agree_changes {xs ys : List Json} (h : List.Forall₂ (Alike .nodes) xs ys) :
    Outcome.Agree ChangesAlike (changes xs) (changes ys) := by
  induction h with
  | nil => exact .matched rfl
  | cons hab _ ih =>
    rw [changes, changes]
    refine (agree_change hab).bind fun first first' hfirst ↦ ?_
    refine ih.bind fun others others' hothers ↦ .matched ?_
    rw [ChangesAlike, List.map_cons, List.map_cons, hfirst.1, hfirst.2, hothers]

theorem agree_updateOf {m m' : Bindings} (h : m.Related (Alike .nodes) m') (param : String)
    {predicate predicate' : Option Json}
    (hpredicate : predicate.map Json.plain = predicate'.map Json.plain) :
    Outcome.Agree (fun op op' : ModOp ↦ op.plain = op'.plain) (updateOf param m predicate)
      (updateOf param m' predicate') := by
  rw [updateOf, updateOf, h.string?_eq]
  split
  · refine (agree_changes (h.items "overrides")).bind fun pairs pairs' hpairs ↦ ?_
    have hempty : pairs.isEmpty = pairs'.isEmpty := by
      have hmap := congrArg List.isEmpty hpairs
      rwa [List.isEmpty_map, List.isEmpty_map] at hmap
    rw [hempty]
    split
    · exact .skip _ _
    · exact .matched (congrArg₂ ModOp.update hpairs hpredicate)
  · exact .skip _ _

theorem respects_updateForm (param : String) : ∀ form ∈ updateForms,
    form.Respects .nodes (fun op op' : ModOp ↦ op.plain = op'.plain) param := by
  intro form hform
  refine ⟨respects_updateForms form hform, fun bs bs' v v' h ↦ ?_⟩
  have htest := h.get? "test"
  simp only [updateForms, List.mem_cons, List.not_mem_nil, or_false] at hform
  rcases hform with rfl | rfl | rfl
  · exact agree_updateOf h param (map_plain_eq_of_rel htest)
  · refine agree_updateOf h param ?_
    dsimp only
    generalize bs.get? "test" = x at htest ⊢
    generalize bs'.get? "test" = y at htest ⊢
    cases htest with
    | none => rfl
    | some hvw => exact congrArg some (plain_negate hvw)
  · exact agree_updateOf h param rfl

theorem respects_updateArguments : Extractor.Respects .nodes updateArguments := by
  intro a b h roots
  refine (Outcome.Agree.ofOption (h.field? rfl (by decide)) _).bind fun call call' hcall ↦ ?_
  refine (agree_expect respects_callback hcall _).bind fun m m' hm ↦ ?_
  refine (Outcome.Agree.ofOption (hm.get? "body") _).bind fun v w hvw ↦ ?_
  rw [hm.string?_eq]
  refine (Rule.agree_firstOf (respects_updateForm _) hvw).bind fun op op' hop ↦ .matched ?_
  exact congrArg Arguments.modification hop

end Nodes

/-! ## Resolution -/

/-- The same operation, with commands that differ only in how the expressions in them are written.
-/
structure Resolved.Alike (r s : Resolved) : Prop where
  id_eq : r.id = s.id
  command_eq : r.command.plain = s.command.plain

namespace Attachment

variable {e : Enclosure} {a b : Json} (attachment : Attachment)

theorem nameOf?_eq (h : Alike e a b) : attachment.nameOf? a = attachment.nameOf? b := by
  cases attachment with
  | call => exact bind_eq_of_rel (h.field? rfl (by decide)) fun _ _ ↦ Alike.staticProperty?
  | member => exact h.staticProperty?
  | identifier => rfl
  | assignment => rfl

theorem rel_predecessor? (h : Alike e a b) :
    Option.Rel (Alike e) (attachment.predecessor? a) (attachment.predecessor? b) := by
  cases attachment with
  | call =>
    have hcallee : Option.Rel (Alike e) (a.field? "callee") (b.field? "callee") :=
      h.field? rfl (by decide)
    rw [predecessor?, predecessor?]
    generalize a.field? "callee" = x at hcallee ⊢
    generalize b.field? "callee" = y at hcallee ⊢
    cases hcallee with
    | none => exact .none
    | some hvw => exact hvw.field? rfl (by decide)
  | member => exact h.field? rfl (by decide)
  | identifier => exact .none
  | assignment => exact h.field? rfl (by decide)

end Attachment

namespace Operation

variable {e : Enclosure} {a b : Json} {op : Operation} {roots : Roots}

/-- An operation does the same with alike nodes. -/
structure Respects (e : Enclosure) (op : Operation) : Prop where
  shape : ∀ a b, Alike e a b → ∀ roots,
    (op.testShape roots a).isMatch = (op.testShape roots b).isMatch
  extract : op.extract.Respects e
  /-- Building commutes with taking plain forms. -/
  build : ∀ source arguments, (op.build source arguments).map Command.plain =
    op.build (source.map Command.plain) arguments.plain

theorem applies_unparen_eq (h : Alike e a b) : op.applies a.unparen = op.applies b.unparen := by
  rw [applies, applies, Attachment.accepts, Attachment.accepts, h.isKind_unparen,
    op.attachment.nameOf?_eq h.unparen]

theorem Respects.commit (hop : op.Respects e) (h : Alike e a b) {source source' : Option Command}
    (hsource : source.map Command.plain = source'.map Command.plain) :
    Verdict.Agree Resolved.Alike (op.commit roots a source).verdict
      (op.commit roots b source').verdict := by
  have hextract := hop.extract h roots
  rw [Operation.commit, Operation.commit]
  generalize op.extract a roots = x at hextract ⊢
  generalize op.extract b roots = y at hextract ⊢
  cases hextract with
  | skip why why' => exact .failed (.of_operation rfl rfl)
  | @matched x y hxy =>
    have hbuild : (op.build source x).map Command.plain =
        (op.build source' y).map Command.plain := by
      rw [hop.build, hop.build, hsource, show x.plain = y.plain from hxy]
    have hrel := rel_of_map_eq hbuild
    dsimp only
    generalize op.build source x = c at hrel ⊢
    generalize op.build source' y = c' at hrel ⊢
    cases hrel with
    | none => exact .failed (.of_operation rfl rfl)
    | some hcommand => exact .matched ⟨rfl, hcommand⟩

/-- An operation that respects likeness treats alike nodes alike. -/
theorem Respects.simulates (hop : op.Respects e) :
    op.Simulates (Alike e) Resolved.Alike roots where
  applies := applies_unparen_eq
  shape h := hop.shape _ _ h.unparen roots
  predecessor h := op.attachment.rel_predecessor? h.unparen
  start h := hop.commit h.unparen rfl
  next h hbefore := hop.commit h.unparen (congrArg some hbefore.command_eq)

end Operation

namespace Table

variable {e : Enclosure} {a b : Json} {table : Table} {roots : Roots}

/-- **Resolution respects likeness.** On alike nodes, a table of operations that respect likeness
comes to the same operation and the same command up to plain forms, or to failures that agree. -/
theorem agree_resolveAt (htable : ∀ op ∈ table.operations, op.Respects e) (h : Alike e a b)
    (limit depth : Nat) (whitelist : Option (List OpId)) :
    Verdict.Agree Resolved.Alike (table.resolveAt roots limit depth whitelist a).verdict
      (table.resolveAt roots limit depth whitelist b).verdict :=
  agree_resolveAt_of_simulates (fun _ _ ↦ Resolved.Alike.id_eq)
    (fun op hop ↦ (htable op hop).simulates) h limit depth whitelist

theorem respects_write {id : OpId} {pattern : Pattern} {extract : Extractor}
    (hpattern : pattern.Respects e (Alike e)) (hextract : extract.Respects e) :
    (write id pattern extract).Respects e where
  shape a b h roots := by
    have hagree := hpattern.agree h
    exact (hagree.map (S := Eq) fun _ _ _ ↦ rfl).isMatch_eq
  extract := hextract
  build source arguments := by cases source <;> cases arguments <;> rfl

theorem respects_read (read : Read) : read.operation.Respects e where
  shape a b h roots := by rw [read.operation_testShape, read.operation_testShape]
  extract := by
    rw [read.operation_extract]
    cases read with
    | filter => exact respects_filterArguments
    | map => exact respects_mapArguments
    | slice => exact respects_sliceArguments
    | sort => exact respects_sortArguments
    | length => exact respects_lengthArguments
  build source arguments := by cases read <;> cases source <;> cases arguments <;> rfl

theorem respects_standard : ∀ op ∈ standard.operations, op.Respects .nodes := by
  intro op hop
  have hbuild : ∀ source arguments, (buildCollection source arguments).map Command.plain =
      buildCollection (source.map Command.plain) arguments.plain := by
    intro source arguments
    cases source <;> cases arguments <;> rfl
  cases standardRow_of_mem hop with
  | databaseRoot =>
    refine ⟨fun a b h roots ↦ ?_, respects_databaseMemberArguments, hbuild⟩
    exact congrArg Outcome.isMatch (databaseMember_eq h roots)
  | collectionRoot =>
    refine ⟨fun a b h roots ↦ ?_, respects_collectionIdentifierArguments, hbuild⟩
    exact congrArg Outcome.isMatch (collectionIdentifier_eq h roots)
  | read read => exact respects_read read
  | insert => exact respects_write respects_appended respects_insertArguments
  | update => exact respects_write (respects_reassignedVia _) respects_updateArguments
  | remove => exact respects_write (respects_reassignedVia _) respects_removeArguments

end Table

/-- **Recognition respects likeness.** Alike nodes stand for the same command up to plain forms, or
are both ordinary code, or fail alike. -/
theorem Recognizer.agree_recognize (r : Recognizer) {a b : Json} (h : Alike .nodes a b)
    (roots : Roots) (limit : Nat) :
    Verdict.Agree (fun c d : Command ↦ c.plain = d.plain) (r.recognize roots limit a).verdict
      (r.recognize roots limit b).verdict := by
  rw [verdict_recognize, verdict_recognize]
  exact (Table.agree_resolveAt Table.respects_standard h limit limit _).map fun _ _ ↦
    Resolved.Alike.command_eq

/-! ## Writes that miss their collection -/

variable {e : Enclosure} {a b : Json}

theorem isCollection_unparen_eq (h : Alike e a b) (roots : Roots) :
    isCollection a.unparen roots = isCollection b.unparen roots := by
  rw [isCollection, isCollection, h.isKind_unparen, collectionIdentifier_eq h.unparen,
    databaseMember_eq h.unparen]

theorem isWriteBody_eq (method : Option String) {x y : Option Json}
    (h : Option.Rel (Alike e) x y) : isWriteBody method x = isWriteBody method y := by
  rw [isWriteBody, isWriteBody]
  cases h with
  | none => rfl
  | @some v w hvw =>
    have hforms : (updateForms.any fun form ↦ (form.pattern.bindings v).isMatch) =
        updateForms.any fun form ↦ (form.pattern.bindings w).isMatch := by
      rw [Bool.eq_iff_iff, List.any_eq_true, List.any_eq_true]
      refine exists_congr fun form ↦ and_congr_right fun hform ↦ ?_
      rw [((respects_updateForms form hform).agree hvw).isMatch_eq]
    rw [Option.any_some, Option.any_some, hforms]

/-- Of alike assignments, both miss their collection or none. -/
theorem isMisdirectedWrite_eq_of_alike (h : Alike e a b) (roots : Roots) :
    isMisdirectedWrite a roots = isMisdirectedWrite b roots := by
  rw [isMisdirectedWrite, isMisdirectedWrite]
  have hagree := respects_reassignedFrom.agree h
  have hright : Option.Rel (Alike e) (a.field? "right") (b.field? "right") :=
    h.field? rfl (by decide)
  generalize reassignedFrom.bindings a = x at hagree ⊢
  generalize reassignedFrom.bindings b = y at hagree ⊢
  generalize a.field? "right" = p at hright ⊢
  generalize b.field? "right" = q at hright ⊢
  cases hagree with
  | skip why why' => rfl
  | @matched m m' hm =>
    have htarget := hm.get? "target"
    have hsource := hm.get? "source"
    dsimp only
    rw [hm.string?_eq]
    generalize m.get? "target" = t at htarget ⊢
    generalize m'.get? "target" = t' at htarget ⊢
    generalize m.get? "source" = s at hsource ⊢
    generalize m'.get? "source" = s' at hsource ⊢
    cases htarget with
    | none => rfl
    | some htarget =>
      cases hsource with
      | none => rfl
      | some hsource =>
        cases hright with
        | none => rfl
        | @some v w hvw =>
          dsimp only
          rw [Alike.sameNode_eq htarget.plain_eq hsource.plain_eq, isCollection_unparen_eq htarget]
          split
          · rfl
          · have hcallback := respects_callback.agree hvw
            generalize callback.bindings v = c at hcallback ⊢
            generalize callback.bindings w = c' at hcallback ⊢
            cases hcallback with
            | skip why why' => rfl
            | matched hc => exact isWriteBody_eq _ (hc.get? "body")

end FluentQuery
