import FluentQuery.Operation.Writes
import FluentQuery.Proofs.Shapes

/-!
# What the shapes of writes match

The shapes of assignments, said with the accessors of nodes. A child that is missing counts as
`null`, so an assignment without a target still has the shape of a write: it is for resolution to
find that there is no collection to change.

`reassignedVia` and `reassignedFrom` describe the same assignments, `target = object.method(…)`. The
first binds its target twice, so that target and object are the same expression; the second binds
the two apart, and `isMisdirectedWrite` compares them itself.
-/

namespace FluentQuery

namespace Json

/-- `target = right`, where a missing target counts as `null`. -/
structure Assigns (v target right : Json) : Prop where
  assignment : v.unparen.isKind Kind.assignment = true
  operator : v.field? "operator" = some (.string "=")
  target : .orNull (v.field? "left") = target
  right : v.field? "right" = some right

/-- `object.method(…)`, where a missing object counts as `null`. -/
structure Calls (v object : Json) (method : String) : Prop where
  call : v.unparen.isKind Kind.call = true
  callee : ∃ callee, v.field? "callee" = some callee ∧
    callee.unparen.isKind Kind.member = true ∧ callee.staticProperty? = some method ∧
      .orNull (callee.field? "object") = object

/-- A call whose only argument is a function of one parameter, with the name of the parameter and
what the function gives back. -/
structure CallsBack (v : Json) (param : Option String) (result : Json) : Prop where
  call : v.unparen.isKind Kind.call = true
  function : ∃ f, (v.field? "arguments").bind asArray? = some [f] ∧ f.isFunction = true ∧
    (∃ p, (f.field? "params").bind asArray? = some [p] ∧
      p.unparen.isKind Kind.identifier = true ∧ p.identName? = param) ∧
    returned? (.orNull (f.field? "body")) = some result

/-- `{...object, overrides}`, where the object is an identifier. -/
structure Overrides (v : Json) (object : Option String) (overrides : List Json) : Prop where
  literal : v.unparen.isKind Kind.object = true
  properties : ∃ first argument, (v.field? "properties").bind asArray? = some (first :: overrides) ∧
    first.unparen.isKind Kind.spread = true ∧ first.field? "argument" = some argument ∧
      argument.unparen.isKind Kind.identifier = true ∧ argument.identName? = object

/-- `test ? consequent : alternate`, where a missing test counts as `null`. -/
structure Chooses (v test consequent alternate : Json) : Prop where
  conditional : v.unparen.isKind Kind.conditional = true
  test : .orNull (v.field? "test") = test
  consequent : v.field? "consequent" = some consequent
  alternate : v.field? "alternate" = some alternate

theorem Assigns.unique {v t t' r r' : Json} (h : v.Assigns t r) (h' : v.Assigns t' r') :
    t = t' ∧ r = r' :=
  ⟨h.target.symm.trans h'.target, Option.some.inj (h.right.symm.trans h'.right)⟩

theorem assigns_unparen {v target right : Json} :
    v.unparen.Assigns target right ↔ v.Assigns target right := by
  constructor
  · rintro ⟨hkind, hoperator, htarget, hright⟩
    rw [unparen_unparen] at hkind
    rw [field?_unparen] at hoperator htarget hright
    exact ⟨hkind, hoperator, htarget, hright⟩
  · rintro ⟨hkind, hoperator, htarget, hright⟩
    rw [← field?_unparen] at hoperator htarget hright
    rw [← unparen_unparen] at hkind
    exact ⟨hkind, hoperator, htarget, hright⟩

theorem Calls.unique {v o o' : Json} {m m' : String} (h : v.Calls o m) (h' : v.Calls o' m') :
    o = o' ∧ m = m' := by
  obtain ⟨callee, hcallee, -, hname, hobject⟩ := h.callee
  obtain ⟨callee', hcallee', -, hname', hobject'⟩ := h'.callee
  cases hcallee.symm.trans hcallee'
  exact ⟨hobject.symm.trans hobject', Option.some.inj (hname.symm.trans hname')⟩

theorem CallsBack.unique {v r r' : Json} {p p' : Option String} (h : v.CallsBack p r)
    (h' : v.CallsBack p' r') : p = p' ∧ r = r' := by
  obtain ⟨f, hf, -, ⟨x, hx, -, hname⟩, hresult⟩ := h.function
  obtain ⟨f', hf', -, ⟨x', hx', -, hname'⟩, hresult'⟩ := h'.function
  cases hf.symm.trans hf'
  cases hx.symm.trans hx'
  exact ⟨hname.symm.trans hname', Option.some.inj (hresult.symm.trans hresult')⟩

theorem Overrides.unique {v : Json} {x y : Option String} {overrides overrides' : List Json}
    (h : v.Overrides x overrides) (h' : v.Overrides y overrides') : overrides = overrides' := by
  obtain ⟨first, argument, hproperties, -⟩ := h.properties
  obtain ⟨first', argument', hproperties', -⟩ := h'.properties
  cases hproperties.symm.trans hproperties'
  rfl

theorem unparen_orNull_field? (v : Json) (name : String) :
    (orNull (v.field? name)).unparen = orNull (v.field? name) := by
  cases h : v.field? name with
  | none => rfl
  | some child => exact unparen_of_field? h

/-- What a callback gives back is a child, and so without parentheses. -/
theorem CallsBack.unparen_result {v result : Json} {param : Option String}
    (h : v.CallsBack param result) : result.unparen = result := by
  obtain ⟨f, -, -, -, hresult⟩ := h.function
  rw [returned?] at hresult
  split at hresult
  · split at hresult
    · split at hresult
      · rw [← Option.some.inj hresult]
        exact unparen_orNull_field? _ "argument"
      · cases hresult
    · cases hresult
  · rw [← Option.some.inj hresult]
    exact unparen_orNull_field? _ "body"

end Json

open Pattern Shapes

variable {v : Json} {bs : Bindings}

/-! ## Assignments and method calls -/

theorem bound_iff {name : String} :
    (bound name).bindings v = .matched bs ↔ bs = [(name, v.unparen)] := by
  rw [bound, bindings, Outcome.matched.injEq, captureValue, eq_comm]

theorem assigned_iff {p : Pattern} (hnull : p.RefusesNull) :
    (assigned p).bindings v = .matched bs ↔
      ∃ target right own, v.Assigns target right ∧ p.bindings right = .matched own ∧
        Bindings.merge [("target", target)] own = .matched bs := by
  rw [assigned, node_iff]
  constructor
  · rintro ⟨hkind, entries, hentries, h⟩
    obtain ⟨w, own, mid, hw, hown, hmid, h⟩ :=
      (bindFields_cons_some_iff hentries (refusesNull_literal_string "=")).mp h
    obtain ⟨rfl, rfl⟩ := (literal_string_iff (Json.unparen_of_field? hw)).mp hown
    cases hmid
    obtain ⟨own, mid, hown, hmid, h⟩ := (bindFields_cons_iff hentries).mp h
    rw [bound_iff, Json.unparen_orNull_field?] at hown
    cases hown
    cases hmid
    obtain ⟨right, own, mid, hright, hown, hmid, h⟩ :=
      (bindFields_cons_some_iff hentries hnull).mp h
    cases h
    exact ⟨_, right, own, ⟨hkind, hw, rfl, hright⟩, hown, hmid⟩
  · rintro ⟨_, right, own, ⟨hkind, hoperator, rfl, hright⟩, hown, hmerge⟩
    obtain ⟨entries, hentries⟩ := Json.exists_entries_of_isKind hkind
    refine ⟨hkind, entries, hentries, ?_⟩
    refine (bindFields_cons_some_iff hentries (refusesNull_literal_string "=")).mpr
      ⟨_, [], [], hoperator, (literal_string_iff rfl).mpr ⟨rfl, rfl⟩, rfl, ?_⟩
    refine (bindFields_cons_iff hentries).mpr
      ⟨_, _, bound_iff.mpr rfl, rfl, ?_⟩
    rw [Json.unparen_orNull_field?]
    exact (bindFields_cons_some_iff hentries hnull).mpr
      ⟨right, own, bs, hright, hown, hmerge, rfl⟩

theorem memberNamed_iff {p : Pattern} {name : String} :
    (memberNamed p name).bindings v = .matched bs ↔
      v.unparen.isKind Kind.member = true ∧ v.staticProperty? = some name ∧
        p.bindings (.orNull (v.field? "object")) = .matched bs := by
  rw [memberNamed, and_iff]
  constructor
  · rintro ⟨own, last, hown, hlast, hmerge⟩
    obtain ⟨hname, rfl⟩ := satisfies_iff.mp hlast
    cases hmerge
    obtain ⟨hkind, hobject⟩ := node_singleton_iff.mp hown
    exact ⟨hkind, beq_iff_eq.mp hname, hobject⟩
  · rintro ⟨hkind, hname, hobject⟩
    exact ⟨bs, [], node_singleton_iff.mpr ⟨hkind, hobject⟩,
      satisfies_iff.mpr ⟨beq_iff_eq.mpr hname, rfl⟩, rfl⟩

theorem memberAs_iff {p : Pattern} {name : String} :
    (memberAs p name).bindings v = .matched bs ↔
      ∃ property own, v.unparen.isKind Kind.member = true ∧ v.staticProperty? = some property ∧
        p.bindings (.orNull (v.field? "object")) = .matched own ∧
          own.merge [(name, .string property)] = .matched bs := by
  rw [memberAs, and_iff]
  constructor
  · rintro ⟨own, last, hown, hlast, hmerge⟩
    obtain ⟨hsome, rfl⟩ := capture_satisfies_iff.mp hlast
    obtain ⟨property, hproperty⟩ := Option.isSome_iff_exists.mp hsome
    rw [captureValue, hproperty] at hmerge
    obtain ⟨hkind, hobject⟩ := node_singleton_iff.mp hown
    exact ⟨property, own, hkind, hproperty, hobject, hmerge⟩
  · rintro ⟨property, own, hkind, hproperty, hobject, hmerge⟩
    refine ⟨own, _, node_singleton_iff.mpr ⟨hkind, hobject⟩,
      capture_satisfies_iff.mpr ⟨?_, rfl⟩, ?_⟩
    · rw [hproperty]
      rfl
    · rw [captureValue, hproperty]
      exact hmerge

/-- A call by name of a method of a captured object. -/
theorem call_memberNamed_iff {name method : String} :
    (node Kind.call [("callee", memberNamed (bound name) method)]).bindings v = .matched bs ↔
      ∃ object, v.Calls object method ∧ bs = [(name, object)] := by
  rw [node_singleton_iff, memberNamed_iff, bound_iff, Json.unparen_orNull_field? _ "object"]
  constructor
  · rintro ⟨hcall, hkind, hname, rfl⟩
    cases hcallee : v.field? "callee" with
    | none =>
      rw [hcallee] at hkind
      cases hkind
    | some callee =>
      rw [hcallee] at hkind hname
      exact ⟨_, ⟨hcall, callee, hcallee, hkind, hname, rfl⟩, rfl⟩
  · rintro ⟨_, ⟨hcall, callee, hcallee, hkind, hname, rfl⟩, rfl⟩
    rw [hcallee]
    exact ⟨hcall, hkind, hname, rfl⟩

theorem call_memberAs_iff {name method : String} (hne : name ≠ method) :
    (node Kind.call [("callee", memberAs (bound name) method)]).bindings v = .matched bs ↔
      ∃ object property, v.Calls object property ∧
        bs = [(name, object), (method, .string property)] := by
  have hmerge : ∀ x y : Json, Bindings.merge [(name, x)] [(method, y)] =
      .matched [(name, x), (method, y)] := by
    intro x y
    exact Bindings.merge_of_distinct_append (by simp [Bindings.Distinct, hne])
  rw [node_singleton_iff, memberAs_iff]
  constructor
  · rintro ⟨hcall, property, own, hkind, hproperty, hown, hbs⟩
    rw [bound_iff, Json.unparen_orNull_field?] at hown
    rw [hown, hmerge] at hbs
    cases hbs
    cases hcallee : v.field? "callee" with
    | none =>
      rw [hcallee] at hkind
      cases hkind
    | some callee =>
      rw [hcallee] at hkind hproperty
      exact ⟨_, property, ⟨hcall, callee, hcallee, hkind, hproperty, rfl⟩, rfl⟩
  · rintro ⟨_, property, ⟨hcall, callee, hcallee, hkind, hproperty, rfl⟩, rfl⟩
    rw [hcallee]
    refine ⟨hcall, property, _, hkind, hproperty, bound_iff.mpr rfl, ?_⟩
    rw [Json.unparen_orNull_field?]
    exact hmerge _ _

/-! ## The shapes of writes -/

/-- An assignment of a method call on the very expression that is assigned to. -/
theorem reassignedVia_iff {method : String} :
    (reassignedVia method).bindings v = .matched bs ↔
      ∃ target right object, v.Assigns target right ∧ right.Calls object method ∧
        Json.sameNode target object = true ∧ bs = [("target", target)] := by
  rw [reassignedVia, assigned_iff (refusesNull_node _ _)]
  constructor
  · rintro ⟨target, right, own, hassigns, hown, hmerge⟩
    obtain ⟨object, hcalls, rfl⟩ := call_memberNamed_iff.mp hown
    obtain ⟨hsame, hbs⟩ := (Bindings.merge_cons_eq_matched_iff rfl).mp hmerge
    cases hbs
    exact ⟨target, right, object, hassigns, hcalls, hsame, rfl⟩
  · rintro ⟨target, right, object, hassigns, hcalls, hsame, rfl⟩
    exact ⟨target, right, _, hassigns, call_memberNamed_iff.mpr ⟨object, hcalls, rfl⟩,
      (Bindings.merge_cons_eq_matched_iff rfl).mpr ⟨hsame, rfl⟩⟩

theorem reassignedFrom_iff :
    reassignedFrom.bindings v = .matched bs ↔
      ∃ target right object method, v.Assigns target right ∧ right.Calls object method ∧
        bs = [("target", target), ("source", object), ("method", .string method)] := by
  rw [reassignedFrom, assigned_iff (refusesNull_node _ _)]
  constructor
  · rintro ⟨target, right, own, hassigns, hown, hmerge⟩
    obtain ⟨object, method, hcalls, rfl⟩ := (call_memberAs_iff (by decide)).mp hown
    cases hmerge
    exact ⟨target, right, object, method, hassigns, hcalls, rfl⟩
  · rintro ⟨target, right, object, method, hassigns, hcalls, rfl⟩
    exact ⟨target, right, _, hassigns,
      (call_memberAs_iff (by decide)).mpr ⟨object, method, hcalls, rfl⟩, rfl⟩

/-- A place that takes all items that are left. -/
theorem bindSlots_rest_any_iff {name : String} {items : List Json} {before after : Bindings} :
    bindSlots [.rest .any (some name)] items before = .matched after ↔
      before.insert name (.array items) = .matched after := by
  have hskip : ∀ (items : List Json) (place : Nat),
      firstSkip? Pattern.any.bindings place items = none := by
    intro items
    induction items with
    | nil => exact fun _ ↦ rfl
    | cons x rest ih => exact fun place ↦ ih (place + 1)
  rw [bindSlots, Slot.required, List.countP_nil, Nat.sub_zero, List.take_length,
    List.drop_length, hskip, bindRest, Outcome.bind_eq_matched_iff]
  simp [bindSlots]

/-- An assignment of an array literal that starts with a spread of the very expression that is
assigned to. -/
theorem appended_iff :
    appended.bindings v = .matched bs ↔
      ∃ target right first values, v.Assigns target right ∧
        right.unparen.isKind Kind.array = true ∧
          (right.field? "elements").bind Json.asArray? = some (first :: values) ∧
            first.unparen.isKind Kind.spread = true ∧
              Json.sameNode target (.orNull (first.field? "argument")) = true ∧
                bs = [("target", target), ("values", .array values)] := by
  rw [appended, assigned_iff (refusesNull_node _ _)]
  constructor
  · rintro ⟨target, right, own, hassigns, hown, hmerge⟩
    obtain ⟨hkind, hseq⟩ := node_singleton_iff.mp hown
    obtain ⟨items, hitems, hslots⟩ := seq_iff.mp hseq
    obtain ⟨first, values, spread, mid, rfl, hspread, hmid, hslots⟩ := bindSlots_one_iff.mp hslots
    obtain ⟨hfirst, hargument⟩ := node_singleton_iff.mp hspread
    rw [bound_iff, Json.unparen_orNull_field?] at hargument
    cases hargument
    cases hmid
    cases bindSlots_rest_any_iff.mp hslots
    obtain ⟨hsame, hbs⟩ := (Bindings.merge_cons_eq_matched_iff rfl).mp hmerge
    cases hbs
    exact ⟨target, right, first, values, hassigns, hkind, orNull_eq_array_iff.mp hitems, hfirst,
      hsame, rfl⟩
  · rintro ⟨target, right, first, values, hassigns, hkind, hitems, hfirst, hsame, rfl⟩
    refine ⟨target, right,
      [("target", .orNull (first.field? "argument")), ("values", .array values)], hassigns, ?_,
      (Bindings.merge_cons_eq_matched_iff rfl).mpr ⟨hsame, rfl⟩⟩
    refine node_singleton_iff.mpr ⟨hkind, seq_iff.mpr ⟨_, orNull_eq_array_iff.mpr hitems, ?_⟩⟩
    refine bindSlots_one_iff.mpr ⟨first, values, _, _, rfl,
      node_singleton_iff.mpr ⟨hfirst, bound_iff.mpr rfl⟩, rfl, bindSlots_rest_any_iff.mpr ?_⟩
    rw [Json.unparen_orNull_field?]
    rfl

/-! ## Callbacks -/

theorem oneParam_iff {name : String} :
    (oneParam name).bindings v = .matched bs ↔
      ∃ p, v = .array [p] ∧ p.unparen.isKind Kind.identifier = true ∧
        bs = [(name, .ofName p.identName?)] := by
  rw [oneParam, seq_singleton_iff]
  exact exists_congr fun p ↦ and_congr_right fun _ ↦ identifierAs_iff

/-- A call matches by the name of the parameter of its callback, and by what the callback gives
back. -/
theorem callbackOf_iff {body : Pattern} :
    (callbackOf body).bindings v = .matched bs ↔
      ∃ param result own, v.CallsBack param result ∧ body.bindings result = .matched own ∧
        Bindings.merge [("param", .ofName param)] own = .matched bs := by
  rw [callbackOf, argumentsPattern, node_singleton_iff, seq_singleton_iff]
  constructor
  · rintro ⟨hcall, f, hf, hfunction⟩
    obtain ⟨hkind, own, result, given, hown, hreturned, hgiven, hmerge⟩ :=
      function_iff.mp hfunction
    obtain ⟨p, hp, hidentifier, rfl⟩ := oneParam_iff.mp hown
    exact ⟨_, result, given, ⟨hcall, f, orNull_eq_array_iff.mp hf, hkind,
      ⟨p, orNull_eq_array_iff.mp hp, hidentifier, rfl⟩, hreturned⟩, hgiven, hmerge⟩
  · rintro ⟨_, result, given, ⟨hcall, f, hf, hkind, ⟨p, hp, hidentifier, rfl⟩, hreturned⟩, hgiven,
      hmerge⟩
    refine ⟨hcall, f, orNull_eq_array_iff.mpr hf, ?_⟩
    exact function_iff.mpr ⟨hkind, _, result, given,
      oneParam_iff.mpr ⟨p, orNull_eq_array_iff.mpr hp, hidentifier, rfl⟩, hreturned, hgiven,
      hmerge⟩

theorem callback_iff :
    callback.bindings v = .matched bs ↔
      ∃ param result, v.CallsBack param result ∧
        bs = [("param", .ofName param), ("body", result.unparen)] := by
  rw [callback, callbackOf_iff]
  constructor
  · rintro ⟨param, result, own, hcalls, hown, hmerge⟩
    rw [bound_iff] at hown
    cases hown
    cases hmerge
    exact ⟨param, result, hcalls, rfl⟩
  · rintro ⟨param, result, hcalls, rfl⟩
    exact ⟨param, result, _, hcalls, bound_iff.mpr rfl, rfl⟩

/-- Removals and updates read the callback of the call that is assigned. -/
theorem callsBack_of_expect {expectation : String}
    (h : expect callback v expectation = .matched bs) : ∃ param result,
      v.CallsBack param result ∧ bs = [("param", .ofName param), ("body", result)] := by
  obtain ⟨param, result, hcalls, rfl⟩ := callback_iff.mp (Outcome.mapSkip_eq_matched_iff.mp h)
  exact ⟨param, result, hcalls, by rw [hcalls.unparen_result]⟩

theorem exists_callback_of_removeArguments {roots : Roots} {arguments : Arguments}
    (h : removeArguments v roots = .matched arguments) :
    ∃ right param result, v.field? "right" = some right ∧ right.CallsBack param result ∧
      arguments = .modification (.remove (negate result)) := by
  obtain ⟨right, hright, h⟩ := Outcome.bind_eq_matched_iff.mp h
  obtain ⟨m, hm, h⟩ := Outcome.bind_eq_matched_iff.mp h
  obtain ⟨param, result, hcalls, rfl⟩ := callsBack_of_expect hm
  cases h
  exact ⟨right, param, result, Outcome.ofOption_eq_matched_iff.mp hright, hcalls, rfl⟩

theorem exists_callback_of_updateArguments {roots : Roots} {arguments : Arguments}
    (h : updateArguments v roots = .matched arguments) :
    ∃ right param result op, v.field? "right" = some right ∧ right.CallsBack param result ∧
      Rule.firstOf updateForms (param.getD "") result = .matched op ∧
        arguments = .modification op := by
  obtain ⟨right, hright, h⟩ := Outcome.bind_eq_matched_iff.mp h
  obtain ⟨m, hm, h⟩ := Outcome.bind_eq_matched_iff.mp h
  obtain ⟨body, hbody, h⟩ := Outcome.bind_eq_matched_iff.mp h
  obtain ⟨op, hop, hdone⟩ := Outcome.bind_eq_matched_iff.mp h
  obtain ⟨param, result, hcalls, rfl⟩ := callsBack_of_expect hm
  obtain rfl : result = body := Outcome.matched.inj hbody
  cases hdone
  have hparam : Bindings.string? [("param", .ofName param), ("body", result)] "param" = param :=
    Json.asString?_ofName param
  rw [hparam] at hop
  exact ⟨right, param, result, op, Outcome.ofOption_eq_matched_iff.mp hright, hcalls, hop, rfl⟩

theorem exists_of_insertArguments_appended {roots : Roots} {arguments : Arguments}
    (h : insertArguments v roots = .matched arguments) :
    ∃ target values, appended.bindings v =
        .matched [("target", target), ("values", .array values)] ∧
      values.all isPlainValue = true ∧ arguments = .modification (.insert values) := by
  obtain ⟨m, hm, h⟩ := Outcome.bind_eq_matched_iff.mp h
  obtain ⟨target, right, first, values, -, -, -, -, -, rfl⟩ := appended_iff.mp hm
  refine ⟨target, values, hm, ?_⟩
  change (if values.isEmpty then _ else if values.all isPlainValue then _ else _) = _ at h
  split at h
  · cases h
  · split at h
    · next hplain => exact ⟨hplain, (Outcome.matched.inj h).symm⟩
    · cases h

/-! ## Updates -/

theorem updatedObject_iff :
    updatedObject.bindings v = .matched bs ↔
      ∃ object overrides, v.Overrides object overrides ∧
        bs = [("object", .ofName object), ("overrides", .array overrides)] := by
  rw [updatedObject, node_singleton_iff, seq_iff]
  constructor
  · rintro ⟨hkind, items, hitems, hslots⟩
    obtain ⟨first, overrides, own, mid, rfl, hown, hmid, hslots⟩ := bindSlots_one_iff.mp hslots
    obtain ⟨hspread, hargument⟩ := node_singleton_iff.mp hown
    obtain ⟨hidentifier, rfl⟩ := identifierAs_iff.mp hargument
    cases hmid
    cases bindSlots_rest_any_iff.mp hslots
    cases hfield : first.field? "argument" with
    | none =>
      rw [hfield] at hidentifier
      cases hidentifier
    | some argument =>
      rw [hfield] at hidentifier
      exact ⟨_, overrides, ⟨hkind, first, argument, orNull_eq_array_iff.mp hitems, hspread, hfield,
        hidentifier, rfl⟩, rfl⟩
  · rintro ⟨_, overrides,
      ⟨hkind, first, argument, hitems, hspread, hfield, hidentifier, rfl⟩, rfl⟩
    refine ⟨hkind, _, orNull_eq_array_iff.mpr hitems, ?_⟩
    refine bindSlots_one_iff.mpr ⟨first, overrides, [("object", .ofName argument.identName?)], _,
      rfl, node_singleton_iff.mpr ⟨hspread, ?_⟩, rfl, bindSlots_rest_any_iff.mpr rfl⟩
    rw [hfield]
    exact identifierAs_iff.mpr ⟨hidentifier, rfl⟩

/-- A conditional whose test is captured and whose branches match. -/
theorem chooses_of_bindings {p q : Pattern} (hp : p.RefusesNull) (hq : q.RefusesNull)
    (h : (node Kind.conditional [("test", bound "test"), ("consequent", p),
      ("alternate", q)]).bindings v = .matched bs) :
    ∃ test consequent alternate own mid last, v.Chooses test consequent alternate ∧
      p.bindings consequent = .matched own ∧ Bindings.merge [("test", test)] own = .matched mid ∧
        q.bindings alternate = .matched last ∧ mid.merge last = .matched bs := by
  obtain ⟨hkind, entries, hentries, h⟩ := node_iff.mp h
  obtain ⟨own, mid, hown, hmid, h⟩ := (bindFields_cons_iff hentries).mp h
  rw [bound_iff, Json.unparen_orNull_field?] at hown
  cases hown
  cases hmid
  obtain ⟨consequent, own, mid, hconsequent, hown, hmid, h⟩ :=
    (bindFields_cons_some_iff hentries hp).mp h
  obtain ⟨alternate, last, done, halternate, hlast, hdone, h⟩ :=
    (bindFields_cons_some_iff hentries hq).mp h
  cases h
  exact ⟨_, consequent, alternate, own, mid, last, ⟨hkind, rfl, hconsequent, halternate⟩, hown,
    hmid, hlast, hdone⟩

/-- `test ? {...object, overrides} : object` -/
theorem exists_of_conditionalUpdate (h : conditionalUpdate.pattern.bindings v = .matched bs) :
    ∃ test consequent alternate object overrides, v.Chooses test consequent alternate ∧
      consequent.Overrides object overrides ∧ alternate.unparen.isKind Kind.identifier = true ∧
        alternate.identName? = object ∧
          bs = [("test", test), ("object", .ofName object), ("overrides", .array overrides)] := by
  obtain ⟨test, consequent, alternate, own, mid, last, hchooses, hown, hmid, hlast, hdone⟩ :=
    chooses_of_bindings (refusesNull_node _ _) (refusesNull_identifierAs _) h
  obtain ⟨object, overrides, hoverrides, rfl⟩ := updatedObject_iff.mp hown
  obtain ⟨hidentifier, rfl⟩ := identifierAs_iff.mp hlast
  cases hmid
  obtain ⟨hsame, hbs⟩ := (Bindings.merge_cons_eq_matched_iff rfl).mp hdone
  cases hbs
  exact ⟨test, consequent, alternate, object, overrides, hchooses, hoverrides, hidentifier,
    (Json.sameNode_ofName.mp hsame).symm, rfl⟩

/-- `test ? object : {...object, overrides}` -/
theorem exists_of_inverseUpdate (h : inverseUpdate.pattern.bindings v = .matched bs) :
    ∃ test consequent alternate object overrides, v.Chooses test consequent alternate ∧
      alternate.Overrides object overrides ∧ consequent.unparen.isKind Kind.identifier = true ∧
        consequent.identName? = object ∧
          bs = [("test", test), ("object", .ofName object), ("overrides", .array overrides)] := by
  obtain ⟨test, consequent, alternate, own, mid, last, hchooses, hown, hmid, hlast, hdone⟩ :=
    chooses_of_bindings (refusesNull_identifierAs _) (refusesNull_node _ _) h
  obtain ⟨hidentifier, rfl⟩ := identifierAs_iff.mp hown
  obtain ⟨object, overrides, hoverrides, rfl⟩ := updatedObject_iff.mp hlast
  cases hmid
  obtain ⟨hsame, hbs⟩ := (Bindings.merge_cons_eq_matched_iff rfl).mp hdone
  cases hbs
  have hname := Json.sameNode_ofName.mp hsame
  exact ⟨test, consequent, alternate, object, overrides, hchooses, hoverrides, hidentifier, hname,
    by rw [hname]; rfl⟩

end FluentQuery
