import FluentQuery.Proofs.OrdinaryCode

/-!
# Fragments that are missing

A command carries expressions of the program as they are: the predicates of filters, removals and
updates, the values that are inserted and those that an update sets. A capture takes a child that is
missing for `null`, so it has to be seen whether such a fragment can be `null`, which is no
expression.

Nodes are taken to have the children that their kinds require. What may still be missing is the
argument of a `return`. Inserts and updates do not mind: the shapes of the values that they take
have required children of their own. A filter takes whatever its callback gives back, and so does a
removal, which puts a `!` before it. There a fragment is `null`, and exactly there.
-/

namespace FluentQuery

/-! ## Complete trees -/

namespace Json

/-- The children that a node of some kind cannot do without. -/
def required (kind : String) : List String :=
  ([(Kind.member, ["object", "property"]), (Kind.call, ["callee", "arguments"]),
    (Kind.assignment, ["operator", "left", "right"]),
    (Kind.conditional, ["test", "consequent", "alternate"]),
    (Kind.binary, ["operator", "left", "right"]), (Kind.logical, ["operator", "left", "right"]),
    (Kind.unary, ["operator", "argument"]), (Kind.arrowFunction, ["params", "body"]),
    (Kind.function, ["params", "body"]), (Kind.object, ["properties"]),
    (Kind.property, ["key", "value"]), (Kind.spread, ["argument"]), (Kind.array, ["elements"]),
    (Kind.block, ["body"]), (Kind.identifier, ["name"]),
    (Kind.parenthesized, ["expression"])].lookup kind).getD []

/-- Whether a node has all children that its kind requires. -/
def hasRequired (v : Json) : Bool :=
  v.kind?.all fun kind ↦ (required kind).all fun key ↦ (v.get? key).any (· != .null)

/-- All nodes in a value have the children that their kinds require. -/
def Complete (v : Json) : Prop := v.everywhere hasRequired = true

instance (v : Json) : Decidable v.Complete := inferInstanceAs (Decidable (_ = _))

namespace Complete

variable {v w : Json} {kind key : String}

theorem of_holds (h : v.Complete) (hw : v.Holds w) : w.Complete :=
  everywhere_iff.mpr fun u hu ↦ everywhere_iff.mp h u (hw.trans hu)

theorem unparen (h : v.Complete) : v.unparen.Complete := h.of_holds v.holds_unparen

theorem orNull_field? (h : v.Complete) (key : String) : (orNull (v.field? key)).Complete := by
  cases hfield : v.field? key with
  | none => rfl
  | some w => exact h.of_holds (holds_of_field? hfield)

theorem of_mem_items (h : v.Complete) {items : List Json}
    (hitems : (v.field? key).bind asArray? = some items) (hw : w ∈ items) : w.Complete := by
  obtain ⟨u, hu, harray⟩ := Option.bind_eq_some_iff.mp hitems
  have harray : u = .array items := by
    cases u with
    | array xs => exact congrArg Json.array (Option.some.inj harray)
    | _ => cases harray
  subst harray
  exact h.of_holds ((holds_of_field? hu).trans (holds_of_mem_array hw))

theorem exists_get? (h : v.Complete) (hkind : v.isKind kind = true) (hkey : key ∈ required kind) :
    ∃ w, v.get? key = some w ∧ w ≠ .null := by
  have hrequired := everywhere_iff.mp h v (.refl v)
  rw [hasRequired, isKind_iff.mp hkind, Option.all_some, List.all_eq_true] at hrequired
  obtain ⟨w, hw, hne⟩ := (Option.any_eq_true _ _).mp (hrequired key hkey)
  exact ⟨w, hw, bne_iff_ne.mp hne⟩

/-- What stands in parentheses is not missing. -/
theorem unparen_ne_null (h : v.Complete) (hne : v ≠ .null) : v.unparen ≠ .null := by
  induction v using wrapped_induction with
  | h v ih =>
    cases hwrapped : v.wrapped? with
    | none => rwa [unparen_of_wrapped?_eq_none hwrapped]
    | some w =>
      obtain ⟨entries, rfl, hkind, hfind⟩ := wrapped?_eq_some_iff.mp hwrapped
      have hkey : "expression" ∈ required Kind.parenthesized := by decide
      obtain ⟨u, hu, hune⟩ := h.exists_get? (isKind_iff.mpr hkind) hkey
      obtain rfl : w = u := Option.some.inj (hfind.symm.trans hu)
      rw [unparen_of_wrapped? hwrapped]
      exact ih w hwrapped (h.of_holds (holds_of_get? hu)) hune

/-- A required child is there, in whatever parentheses. -/
theorem exists_field? (h : v.Complete) (hkind : v.unparen.isKind kind = true)
    (hkey : key ∈ required kind) : ∃ w, v.field? key = some w ∧ w ≠ .null := by
  obtain ⟨w, hw, hne⟩ := h.unparen.exists_get? hkind hkey
  refine ⟨w.unparen, by rw [field?, hw]; rfl, ?_⟩
  exact (h.unparen.of_holds (holds_of_get? hw)).unparen_ne_null hne

end Complete

/-! ## Callbacks that return nothing -/

/-- A function whose body is a block with a `return` only, without an argument. -/
structure ReturnsNothing (f : Json) : Prop where
  block : ∃ body s, f.field? "body" = some body ∧ body.unparen.isKind Kind.block = true ∧
    (body.field? "body").bind asArray? = some [s] ∧ s.unparen.isKind Kind.returned = true ∧
      orNull (s.field? "argument") = .null

/-- A call of `filter` whose callback returns nothing. -/
structure BlankFilter (v : Json) : Prop where
  call : v.unparen.isKind Kind.call = true
  method : (v.field? "callee").bind staticProperty? = some "filter"
  callback : ∃ f, (v.field? "arguments").bind asArray? = some [f] ∧ f.ReturnsNothing

/-- A filter whose callback returns nothing, or an assignment of one. -/
def Blank (v : Json) : Prop :=
  v.BlankFilter ∨ ∃ target right, v.Assigns target right ∧ right.BlankFilter

theorem returned?_eq_null_iff {f : Json} (h : f.Complete) (hfunction : f.isFunction = true) :
    returned? (.orNull (f.field? "body")) = some .null ↔ f.ReturnsNothing := by
  obtain ⟨body, hbody, hne⟩ : ∃ body, f.field? "body" = some body ∧ body ≠ .null := by
    rcases Bool.or_eq_true_iff.mp hfunction with hkind | hkind
    · exact h.exists_field? hkind (by decide)
    · exact h.exists_field? hkind (by decide)
  rw [hbody, orNull, Option.getD_some, returned?]
  constructor
  · intro hreturned
    split at hreturned
    · next hblock =>
      split at hreturned
      · next s hitems =>
        split at hreturned
        · next hs => exact ⟨body, s, hbody, hblock, hitems, hs, Option.some.inj hreturned⟩
        · cases hreturned
      · cases hreturned
    · exact absurd (Option.some.inj hreturned) hne
  · rintro ⟨_, s, hbody', hblock, hitems, hs, hargument⟩
    obtain rfl := Option.some.inj (hbody.symm.trans hbody')
    rw [if_pos hblock, hitems]
    simp only [hs, if_true, hargument]

namespace CallsBack

variable {v result : Json} {param : Option String}

/-- What a callback gives back is missing if it returns nothing, and only then. -/
theorem result_eq_null_iff (h : v.CallsBack param result) (hv : v.Complete) :
    result = .null ↔
      ∃ f, (v.field? "arguments").bind asArray? = some [f] ∧ f.ReturnsNothing := by
  obtain ⟨f, hf, hfunction, -, hresult⟩ := h.function
  have hcomplete : f.Complete := hv.of_mem_items hf List.mem_cons_self
  constructor
  · rintro rfl
    exact ⟨f, hf, (returned?_eq_null_iff hcomplete hfunction).mp hresult⟩
  · rintro ⟨g, hg, hnothing⟩
    cases hf.symm.trans hg
    have hnull := (returned?_eq_null_iff hcomplete hfunction).mpr hnothing
    exact Option.some.inj (hresult.symm.trans hnull)

theorem complete_result (h : v.CallsBack param result) (hv : v.Complete) : result.Complete := by
  obtain ⟨f, hf, -, -, hresult⟩ := h.function
  have hbody := (hv.of_mem_items hf List.mem_cons_self).orNull_field? "body"
  rw [returned?] at hresult
  split at hresult
  · split at hresult
    · next s hitems =>
      split at hresult
      · rw [← Option.some.inj hresult]
        exact (hbody.of_mem_items hitems List.mem_cons_self).orNull_field? "argument"
      · cases hresult
    · cases hresult
  · rw [← Option.some.inj hresult]
    exact hbody

end CallsBack

end Json

/-! ## Fragments of commands -/

/-- Whether an expression is a negation. -/
def Json.isNegation (v : Json) : Bool :=
  v.isKind Kind.unary && (v.get? "operator").bind Json.asString? == some "!"

/-- A test, and what it negates. -/
def testFragments (test : Json) : List Json :=
  test :: if test.isNegation then [.orNull (test.get? "argument")] else []

/-- The expressions that a read carries. -/
def QueryOp.fragments : QueryOp → List Json
  | .filter predicate => [predicate]
  | .map _ => []
  | .slice _ _ => []
  | .sort _ => []

/-- The expressions that a change carries. Tests may be negated, so what they negate is listed. -/
def ModOp.fragments : ModOp → List Json
  | .insert values => values
  | .update changes predicate =>
    changes.map Prod.snd ++ predicate.toList.flatMap testFragments
  | .remove predicate => testFragments predicate

/-- The expressions that a command carries, in all of its pipeline. -/
def Command.fragments : Command → List Json
  | .collection _ => []
  | .query op source => op.fragments ++ source.fragments
  | .value _ source => source.fragments
  | .modification op source => op.fragments ++ source.fragments

/-- The expressions that an operation takes from its node. -/
def Arguments.fragments : Arguments → List Json
  | .collection _ => []
  | .query op => op.fragments
  | .value _ => []
  | .modification op => op.fragments

open Json

theorem null_notMem_testFragments {test : Json} (h : test.Complete) (hne : test ≠ .null) :
    .null ∉ testFragments test := by
  rw [testFragments, List.mem_cons, not_or]
  refine ⟨hne.symm, ?_⟩
  split
  · next hnegation =>
    have hkey : "argument" ∈ required Kind.unary := by decide
    obtain ⟨w, hw, hwne⟩ := h.exists_get? (Bool.and_eq_true_iff.mp hnegation).1 hkey
    rw [hw, List.mem_singleton]
    exact hwne.symm
  · exact List.not_mem_nil

/-- Negating a test leaves nothing missing, unless the test is missing. -/
theorem null_mem_negate_iff {test : Json} (h : test.Complete) :
    .null ∈ testFragments (negate test) ↔ test.unparen = .null := by
  have hoperand : testFragments (Tree.unary "!" test.unparen) =
      [Tree.unary "!" test.unparen, test.unparen] := rfl
  rw [negate]
  split
  · next hnegation =>
    have hkind := (Bool.and_eq_true_iff.mp hnegation).1
    have hkey : "argument" ∈ required Kind.unary := by decide
    obtain ⟨w, hw, hwne⟩ := h.unparen.exists_field? (by rwa [unparen_unparen]) hkey
    rw [hw, Option.getD_some]
    have hcomplete : w.Complete := h.unparen.of_holds (holds_of_field? hw)
    refine iff_of_false (null_notMem_testFragments hcomplete hwne) fun hnull ↦ ?_
    rw [hnull] at hkind
    cases hkind
  · rw [Option.getD_none, hoperand, List.mem_cons, List.mem_singleton]
    refine (or_iff_right ?_).trans eq_comm
    exact Json.noConfusion

/-! ## What the operations take -/

variable {roots : Roots} {node inner : Json} {arguments : Arguments} {op : Operation}
  {limit depth : Nat} {whitelist : Option (List OpId)}

theorem exists_callback_of_filterArguments (h : filterArguments node roots = .matched arguments) :
    ∃ param result, node.CallsBack param result ∧ arguments = .query (.filter result) := by
  obtain ⟨m, hm, h⟩ := Outcome.bind_eq_matched_iff.mp h
  obtain ⟨param, result, hcalls, rfl⟩ := callsBack_of_expect hm
  cases h
  exact ⟨param, result, hcalls, rfl⟩

theorem null_notMem_insertArguments (h : insertArguments node roots = .matched arguments) :
    .null ∉ arguments.fragments := by
  obtain ⟨target, values, -, hplain, rfl⟩ := exists_of_insertArguments_appended h
  intro hnull
  have hvalue := List.all_eq_true.mp hplain _ hnull
  exact absurd hvalue (by decide)

theorem value_ne_null_of_changes {overrides : List Json} {pairs : List (String × Json)}
    (hcomplete : ∀ property ∈ overrides, property.Complete)
    (h : changes overrides = .matched pairs) : .null ∉ pairs.map Prod.snd := by
  induction overrides generalizing pairs with
  | nil =>
    cases h
    exact List.not_mem_nil
  | cons property rest ih =>
    obtain ⟨hproperty, hrest⟩ := List.forall_mem_cons.mp hcomplete
    obtain ⟨first, hfirst, h⟩ := Outcome.bind_eq_matched_iff.mp h
    obtain ⟨others, hothers, h⟩ := Outcome.bind_eq_matched_iff.mp h
    cases h
    obtain ⟨hkind, -, hvalue⟩ := exists_of_change hfirst
    have hkey : "value" ∈ required Kind.property := by decide
    rw [← unparen_of_isKind hkind (by decide)] at hkind
    obtain ⟨w, hw, hne⟩ := hproperty.exists_field? hkind hkey
    obtain rfl := Option.some.inj (hvalue.symm.trans hw)
    rw [List.map_cons, List.mem_cons, not_or]
    exact ⟨hne.symm, ih hrest hothers⟩

theorem null_notMem_update {pairs : List (String × Json)} {predicate : Option Json}
    (hvalues : .null ∉ pairs.map Prod.snd)
    (hpredicate : ∀ p ∈ predicate, .null ∉ testFragments p) :
    .null ∉ (ModOp.update pairs predicate).fragments := by
  rw [ModOp.fragments, List.mem_append, not_or]
  refine ⟨hvalues, fun hnull ↦ ?_⟩
  obtain ⟨p, hp, hnull⟩ := List.mem_flatMap.mp hnull
  exact hpredicate p (Option.mem_toList.mp hp) hnull

theorem null_notMem_updateForms {param : String} {body : Json} {op : ModOp} (hbody : body.Complete)
    (h : Rule.firstOf updateForms param body = .matched op) : .null ∉ op.fragments := by
  have hliteral : ∀ {v : Json} {object : Option String} {overrides : List Json}
      {pairs : List (String × Json)}, v.Complete → v.Overrides object overrides →
        changes overrides = .matched pairs → .null ∉ pairs.map Prod.snd := by
    intro v object overrides pairs hv hoverrides hpairs
    obtain ⟨first, argument, hitems, -⟩ := hoverrides.properties
    exact value_ne_null_of_changes
      (fun p hp ↦ hv.of_mem_items hitems (List.mem_cons_of_mem _ hp)) hpairs
  have htest : ∀ {test consequent alternate : Json}, body.Chooses test consequent alternate →
      test.Complete ∧ test ≠ .null ∧ test.unparen = test ∧ consequent.Complete ∧
        alternate.Complete := by
    rintro _ consequent alternate ⟨hkind, rfl, hconsequent, halternate⟩
    have hkey : "test" ∈ required Kind.conditional := by decide
    obtain ⟨w, hw, hne⟩ := hbody.exists_field? hkind hkey
    refine ⟨hbody.orNull_field? "test", ?_, unparen_orNull_field? _ _,
      hbody.of_holds (holds_of_field? hconsequent), hbody.of_holds (holds_of_field? halternate)⟩
    rw [hw]
    exact hne
  obtain ⟨rule, hmem, happly⟩ := Rule.exists_of_firstFrom h
  obtain ⟨bs, hbs, hbuild⟩ := Rule.apply_eq_matched_iff.mp happly
  simp only [updateForms, List.mem_cons, List.not_mem_nil, or_false] at hmem
  rcases hmem with rfl | rfl | rfl
  · obtain ⟨test, consequent, alternate, object, overrides, hchooses, hoverrides, -, -, rfl⟩ :=
      exists_of_conditionalUpdate hbs
    obtain ⟨-, pairs, hpairs, rfl⟩ := exists_of_updateOf hbuild
    obtain ⟨hcomplete, hne, -, hconsequent, -⟩ := htest hchooses
    refine null_notMem_update (hliteral hconsequent hoverrides hpairs) fun p hp ↦ ?_
    obtain rfl : test = p := Option.some.inj hp
    exact null_notMem_testFragments hcomplete hne
  · obtain ⟨test, consequent, alternate, object, overrides, hchooses, hoverrides, -, -, rfl⟩ :=
      exists_of_inverseUpdate hbs
    obtain ⟨-, pairs, hpairs, rfl⟩ := exists_of_updateOf hbuild
    obtain ⟨hcomplete, hne, hplain, -, halternate⟩ := htest hchooses
    refine null_notMem_update (hliteral halternate hoverrides hpairs) fun p hp ↦ ?_
    obtain rfl : negate test = p := Option.some.inj hp
    exact mt (null_mem_negate_iff hcomplete).mp (by rwa [hplain])
  · obtain ⟨object, overrides, hoverrides, rfl⟩ := updatedObject_iff.mp hbs
    obtain ⟨-, pairs, hpairs, rfl⟩ := exists_of_updateOf hbuild
    exact null_notMem_update (hliteral hbody hoverrides hpairs) fun p hp ↦ by cases hp

theorem null_notMem_updateArguments (hcomplete : node.Complete)
    (h : updateArguments node roots = .matched arguments) : .null ∉ arguments.fragments := by
  obtain ⟨right, param, result, op, hright, hcalls, hop, rfl⟩ :=
    exists_callback_of_updateArguments h
  have hresult := hcalls.complete_result (hcomplete.of_holds (holds_of_field? hright))
  exact null_notMem_updateForms hresult hop

namespace Json

/-- Parentheses around a node do not matter. -/
theorem blankFilter_unparen {v : Json} : v.unparen.BlankFilter ↔ v.BlankFilter := by
  constructor
  · rintro ⟨hcall, hmethod, hcallback⟩
    rw [unparen_unparen] at hcall
    rw [field?_unparen] at hmethod hcallback
    exact ⟨hcall, hmethod, hcallback⟩
  · rintro ⟨hcall, hmethod, hcallback⟩
    rw [← field?_unparen] at hmethod hcallback
    exact ⟨by rwa [unparen_unparen], hmethod, hcallback⟩

theorem blank_unparen {v : Json} : v.unparen.Blank ↔ v.Blank := by
  simp only [Blank, blankFilter_unparen, assigns_unparen]

theorem Blank.isKind {v : Json} (h : v.Blank) :
    v.unparen.isKind Kind.call = true ∨ v.unparen.isKind Kind.assignment = true := by
  rcases h with h | ⟨target, right, hassigns, -⟩
  · exact Or.inl h.call
  · exact Or.inr hassigns.assignment

theorem Calls.nameOf {v object : Json} {method : String} (h : v.Calls object method) :
    (v.field? "callee").bind staticProperty? = some method := by
  obtain ⟨callee, hcallee, -, hname, -⟩ := h.callee
  rw [hcallee, Option.bind_some, hname]

end Json

namespace Read

theorem fragments_eq_nil {read : Read} (hread : read ≠ .filter)
    (h : read.extract node roots = .matched arguments) : arguments.fragments = [] := by
  rcases arguments_cases h with ⟨q, rfl, hid, -⟩ | ⟨rfl, -⟩
  · cases q with
    | filter predicate => exact absurd (id_text_injective (congrArg OpId.text hid)) hread
    | _ => rfl
  · rfl

/-- A filter takes its predicate from the callback, and no other read takes an expression. -/
theorem null_mem_fragments_iff_blank {read : Read} (hcomplete : node.Complete)
    (happlies : read.operation.applies node.unparen = true)
    (h : read.extract node.unparen roots = .matched arguments) :
    .null ∈ arguments.fragments ↔ node.Blank := by
  obtain ⟨hkind, hname⟩ := Operation.applies_iff.mp happlies
  have hmethod := hname _ read.operation_name
  rw [← isKind_iff] at hkind
  have hassignment : ¬node.unparen.isKind Kind.assignment = true := by
    intro hother
    have hkinds := isKind_unique hkind hother
    cases read <;> exact absurd hkinds (by decide)
  by_cases hread : read = .filter
  · subst hread
    change filterArguments node.unparen roots = _ at h
    obtain ⟨param, result, hback, rfl⟩ := exists_callback_of_filterArguments h
    have hresult := hback.result_eq_null_iff hcomplete.unparen
    rw [field?_unparen] at hresult
    refine (List.mem_singleton.trans eq_comm).trans (hresult.trans ?_)
    constructor
    · refine fun hcallback ↦ Or.inl ⟨hkind, ?_, hcallback⟩
      rw [← field?_unparen]
      exact hmethod
    · rintro (hblank | ⟨target, right, hassigns, -⟩)
      · exact hblank.callback
      · exact absurd hassigns.assignment hassignment
  · rw [fragments_eq_nil hread h]
    refine iff_of_false List.not_mem_nil ?_
    rintro (hblank | ⟨target, right, hassigns, -⟩)
    · -- Of the reads that stand on calls, each has a name of its own.
      have hattachment : read.operation.attachment = .call :=
        Attachment.kind_injective (isKind_unique hkind hblank.call)
      have hblankMethod := hblank.method
      rw [← field?_unparen] at hblankMethod
      rw [hattachment] at hmethod
      exact hread (id_text_injective (Option.some.inj (hmethod.symm.trans hblankMethod)))
    · exact absurd hassigns.assignment hassignment

end Read

/-- A removal takes its predicate from the callback. -/
theorem null_mem_removeArguments_iff (hcomplete : node.Complete) {target right object : Json}
    (hassigns : node.Assigns target right) (hcalls : right.Calls object "filter")
    (h : removeArguments node roots = .matched arguments) :
    .null ∈ arguments.fragments ↔ node.Blank := by
  obtain ⟨right', param, result, hright, hback, rfl⟩ := exists_callback_of_removeArguments h
  obtain rfl : right = right' := Option.some.inj (hassigns.right.symm.trans hright)
  have hfull : right.Complete := hcomplete.of_holds (holds_of_field? hright)
  have hnegated : .null ∈ testFragments (negate result) ↔ result = .null := by
    rw [null_mem_negate_iff (hback.complete_result hfull), hback.unparen_result]
  refine hnegated.trans ((hback.result_eq_null_iff hfull).trans ?_)
  constructor
  · exact fun hcallback ↦ Or.inr ⟨target, right, hassigns, hcalls.call, hcalls.nameOf, hcallback⟩
  · rintro (hblank | ⟨target', right', hassigns', hblank⟩)
    · exact absurd (isKind_unique hblank.call hassigns.assignment) (by decide)
    · obtain ⟨-, rfl⟩ := hassigns.unique hassigns'
      exact hblank.callback

/-- An assignment that is no removal is not blank. -/
theorem not_blank_of_assigns {target right : Json} (hassigns : node.Assigns target right)
    (hright : ¬right.BlankFilter) : ¬node.Blank := by
  rintro (hblank | ⟨target', right', hassigns', hblank⟩)
  · exact absurd (isKind_unique hblank.call hassigns.assignment) (by decide)
  · obtain ⟨-, rfl⟩ := hassigns.unique hassigns'
    exact hright hblank

namespace Write

theorem null_mem_fragments_iff_blank {write : Write} (hcomplete : node.Complete) {bs : Bindings}
    (hshape : write.shape.bindings node = .matched bs)
    (h : write.extract node roots = .matched arguments) :
    .null ∈ arguments.fragments ↔ node.Blank := by
  cases write with
  | insert =>
    obtain ⟨target, right, first, values, hassigns, harray, -⟩ := appended_iff.mp hshape
    change insertArguments node roots = _ at h
    refine iff_of_false (null_notMem_insertArguments h) (not_blank_of_assigns hassigns ?_)
    exact fun hblank ↦ absurd (isKind_unique hblank.call harray) (by decide)
  | update =>
    obtain ⟨target, right, object, hassigns, hcalls, -⟩ := reassignedVia_iff.mp hshape
    change updateArguments node roots = _ at h
    refine iff_of_false (null_notMem_updateArguments hcomplete h)
      (not_blank_of_assigns hassigns fun hblank ↦ ?_)
    exact absurd (hblank.method.symm.trans hcalls.nameOf) (by decide)
  | remove =>
    obtain ⟨target, right, object, hassigns, hcalls, -⟩ := reassignedVia_iff.mp hshape
    change removeArguments node roots = _ at h
    exact null_mem_removeArguments_iff hcomplete hassigns hcalls h

end Write

/-! ## Along a chain -/

/-- What holds somewhere along a chain holds of its last node or of a node before. -/
theorem exists_leadsTo_iff {P : Json → Prop} (hlink : node.predecessor? = some inner) :
    (∃ link, node.LeadsTo link ∧ P link) ↔ P node ∨ ∃ link, inner.LeadsTo link ∧ P link := by
  constructor
  · rintro ⟨link, hleads, hP⟩
    rcases hleads.cases_head with rfl | ⟨next, hnext, hleads⟩
    · exact Or.inl hP
    · obtain rfl : inner = next := Option.some.inj (hlink.symm.trans hnext)
      exact Or.inr ⟨link, hleads, hP⟩
  · rintro (hP | ⟨link, hleads, hP⟩)
    · exact ⟨node, .refl, hP⟩
    · exact ⟨link, .head hlink hleads, hP⟩

/-- Before a collection there is at most the identifier of its database. -/
theorem Denotes.not_blank {ref : CollectionRef} (h : Denotes roots node ref) :
    ¬∃ link, node.LeadsTo link ∧ link.Blank := by
  have hidentifier : ∀ {v : Json} {name : String}, v.identName? = some name →
      ¬∃ link, v.LeadsTo link ∧ link.Blank := by
    rintro v name hname ⟨link, hleads, hblank⟩
    have hkind := isKind_of_identName? hname
    have hnone : v.predecessor? = none := by
      have hother : ∀ kind, kind ≠ Kind.identifier → ¬v.unparen.isKind kind = true :=
        fun kind hne h ↦ hne (isKind_unique h hkind)
      rw [predecessor?, if_neg (hother _ (by decide)), if_neg (hother _ (by decide)),
        if_neg (hother _ (by decide))]
    rcases hleads.cases_head with rfl | ⟨next, hnext, -⟩
    · rcases hblank.isKind with h | h
      · exact absurd (isKind_unique hkind h) (by decide)
      · exact absurd (isKind_unique hkind h) (by decide)
    · cases hnone.symm.trans hnext
  cases h with
  | member hkind hobject _ _ =>
    obtain ⟨object, hobject, hname⟩ := Option.bind_eq_some_iff.mp hobject
    have hcall : ¬node.unparen.isKind Kind.call = true :=
      fun h ↦ absurd (isKind_unique hkind h) (by decide)
    have hlink : node.predecessor? = some object := by
      rw [predecessor?, if_neg hcall, if_pos hkind, hobject]
    rw [exists_leadsTo_iff hlink, not_or]
    refine ⟨fun hblank ↦ ?_, hidentifier hname⟩
    rcases hblank.isKind with h | h
    · exact hcall h
    · exact absurd (isKind_unique hkind h) (by decide)
  | identifier hname _ => exact hidentifier hname

namespace Table

theorem fragments_of_build (hop : op ∈ standard.operations) {before command : Command}
    (h : op.build (some before) arguments = some command) :
    command.fragments = arguments.fragments ++ before.fragments := by
  have hchange : buildModification (some before) arguments = some command →
      command.fragments = arguments.fragments ++ before.fragments := by
    intro h
    cases arguments with
    | modification change =>
      cases h
      rfl
    | _ => cases h
  cases standardRow_of_mem hop with
  | databaseRoot => cases h
  | collectionRoot => cases h
  | read read => cases read <;> cases arguments <;> cases h <;> rfl
  | insert => exact hchange h
  | update => exact hchange h
  | remove => exact hchange h

theorem null_mem_arguments_iff (hop : op ∈ standard.operations) (hinitial : op.isInitial = false)
    (hfits : op.Fits roots node.unparen) (hcomplete : node.Complete)
    (h : op.extract node.unparen roots = .matched arguments) :
    .null ∈ arguments.fragments ↔ node.Blank := by
  rcases exists_read_or_write hop hinitial with ⟨read, rfl⟩ | ⟨write, rfl⟩
  · rw [Read.operation_extract] at h
    exact Read.null_mem_fragments_iff_blank hcomplete hfits.applies h
  · obtain ⟨bs, hbs, -⟩ := Outcome.map_eq_matched_iff.mp hfits.shape
    rw [← blank_unparen]
    exact Write.null_mem_fragments_iff_blank hcomplete.unparen hbs h

/-- A command has a missing fragment exactly if it is blank somewhere along the chain. -/
theorem null_mem_fragments_iff_of_resolveAt {r : Resolved} (hcomplete : node.Complete)
    (h : (standard.resolveAt roots limit depth whitelist node).verdict = .matched r) :
    .null ∈ r.command.fragments ↔ ∃ link, node.LeadsTo link ∧ link.Blank := by
  -- One operation adds what its own node gives; the rest is that of the node before.
  induction depth generalizing node whitelist r with
  | zero => cases h
  | succ depth ih =>
    rcases step_of_resolveAt h with ⟨ref, hdenotes, hcommand⟩ | ⟨op, inner, before, arguments, hop,
      hinitial, hfits, hlink, hbefore, -, hextract, hbuild⟩
    · rw [hcommand]
      exact iff_of_false List.not_mem_nil hdenotes.not_blank
    · rw [fragments_of_build hop hbuild, List.mem_append, exists_leadsTo_iff hlink,
        null_mem_arguments_iff hop hinitial hfits hcomplete hextract,
        ih (hcomplete.of_holds (holds_of_predecessor? hlink)) hbefore]

/-- An insert or an update has no missing fragment. -/
theorem null_notMem_of_change {r : Resolved} (hcomplete : node.Complete)
    (h : (standard.resolveAt roots limit depth whitelist node).verdict = .matched r)
    {change : ModOp} {source : Command} (hcommand : r.command = .modification change source)
    (hchange : change.opId ≠ .remove) : .null ∉ r.command.fragments := by
  cases depth with
  | zero => cases h
  | succ depth =>
    rcases step_of_resolveAt h with ⟨ref, -, hcollection⟩ | ⟨op, inner, before, arguments, hop,
      hinitial, -, -, hbefore, hfollows, hextract, hbuild⟩
    · cases hcommand.symm.trans hcollection
    · rw [fragments_of_build hop hbuild]
      rw [hcommand] at hbuild
      rcases exists_read_or_write hop hinitial with ⟨read, rfl⟩ | ⟨write, rfl⟩
      · cases read <;> cases arguments <;> cases hbuild
      · obtain ⟨ref, -, hsource⟩ :=
          exists_denotes_of_resolveAt hbefore (List.mem_singleton.mp hfollows)
        rw [hsource, Command.fragments, List.append_nil]
        cases write with
        | insert =>
          change insertArguments node.unparen roots = _ at hextract
          exact null_notMem_insertArguments hextract
        | update =>
          change updateArguments node.unparen roots = _ at hextract
          exact null_notMem_updateArguments hcomplete.unparen hextract
        | remove =>
          change removeArguments node.unparen roots = _ at hextract
          obtain ⟨predicate, rfl⟩ := exists_of_removeArguments hextract
          cases hbuild
          exact absurd rfl hchange

end Table

/-- **The only fragments that are missing are those of callbacks that return nothing.** Let all
nodes in an expression have the children that their kinds require, and let it be recognized. Then
some fragment of the command is `null` exactly if, along the chain, there is a `filter` whose
callback returns nothing, or an assignment of one. An insert or an update has no such fragment. -/
theorem Recognizer.null_mem_fragments_iff (r : Recognizer) (hcomplete : node.Complete)
    {command : Command} (h : (r.recognize roots limit node).result = .ok (.matched command)) :
    (.null ∈ command.fragments ↔ ∃ link, node.LeadsTo link ∧ link.Blank) ∧
      ∀ change source, command = .modification change source → change.opId ≠ .remove →
        .null ∉ command.fragments := by
  rw [← Traced.verdict_eq_matched_iff, verdict_recognize, Verdict.map_eq_matched_iff] at h
  obtain ⟨resolved, hresolved, rfl⟩ := h
  exact ⟨Table.null_mem_fragments_iff_of_resolveAt hcomplete hresolved,
    fun change source ↦ Table.null_notMem_of_change hcomplete hresolved⟩

/-- `db.todos.filter(x => x.done).length` has its predicate, and no blank filter along the chain. -/
theorem null_mem_fragments_iff_done :
    let roots : Roots := ⟨[("db", ⟨"app", none⟩)], []⟩
    let done := Tree.member (Tree.identifier "x") "done"
    let todos := Tree.member (Tree.identifier "db") "todos"
    let node := Tree.member (Tree.method todos "filter" [Tree.arrow ["x"] done]) "length"
    let command : Command :=
      .value "length" (.query (.filter done) (.collection ⟨"app", "todos"⟩))
    node.Complete ∧ (Recognizer.member.recognize roots 3 node).result = .ok (.matched command) ∧
      .null ∉ command.fragments ∧ ¬∃ link, node.LeadsTo link ∧ link.Blank := by
  intro roots done todos node command
  have hcomplete : node.Complete := rfl
  have hrecognize : (Recognizer.member.recognize roots 3 node).result = .ok (.matched command) :=
    rfl
  have hfragments : Json.null ∉ command.fragments := by decide
  have hiff := (Recognizer.null_mem_fragments_iff .member hcomplete hrecognize).1
  exact ⟨hcomplete, hrecognize, hfragments, mt hiff.mpr hfragments⟩

/-- `db.todos.filter(x => { return })` is a filter by `null`, and
`db.todos = db.todos.filter(x => { return })` removes by the negation of `null`. -/
theorem recognize_filter_returnsNothing :
    let roots : Roots := ⟨[("db", ⟨"app", none⟩)], []⟩
    let todos := Tree.member (Tree.identifier "db") "todos"
    let node := Tree.method todos "filter" [Tree.arrowBlock ["x"] .null]
    let change := Tree.assignment todos node
    node.Complete ∧ change.Complete ∧
      (Recognizer.call.recognize roots 2 node).result =
        .ok (.matched (.query (.filter .null) (.collection ⟨"app", "todos"⟩))) ∧
      (Recognizer.assignment.recognize roots 2 change).result =
        .ok (.matched (.modification (.remove (Tree.unary "!" .null))
          (.collection ⟨"app", "todos"⟩))) ∧
      .null ∈ (QueryOp.filter .null).fragments ∧
      .null ∈ (ModOp.remove (Tree.unary "!" .null)).fragments := by
  intro roots todos node change
  exact ⟨rfl, rfl, rfl, rfl, by decide, by decide⟩

end FluentQuery
