import FluentQuery.Proofs.OrdinaryCode
import FluentQuery.Proofs.Unambiguous

/-!
# Projections

A `map` takes some properties of each document, and gives each a name: its callback gives back an
object literal in which every value is a property of the parameter. Three pieces of code share the
work of reading it. A pattern finds the callback and the entries of the literal, another pattern
looks at the value of each entry, and the names of the parameter and of the objects are compared
after that.

Here a projection is said in one piece, with the accessors of nodes (`Json.Projects`), and the
fields that are read from a call are shown to be those that it projects, entry by entry. An entry of
any other form, wherever it stands in the literal, makes the whole call no projection; and a call
that is committed to `map` and is no projection is malformed.
-/

namespace FluentQuery

namespace Json

/-- `name: param.field` in an object literal. -/
structure Selects (param : String) (entry : Json) (p : Projection) : Prop where
  property : entry.unparen.isKind Kind.property = true
  name : entry.staticProperty? = some p.name
  value : ∃ v, entry.field? "value" = some v ∧ v.FieldAccess (some param) p.field

/-- An object literal with the given entries. -/
structure HasEntries (v : Json) (entries : List Json) : Prop where
  literal : v.unparen.isKind Kind.object = true
  entries : (v.field? "properties").bind asArray? = some entries

/-- `….map(param => ({name: param.field, …}))`: a call whose only argument is a function of one
parameter that gives back an object literal with at least one entry, and every entry selects a field
of the parameter. The fields are those of the entries, one by one. -/
def Projects (call : Json) (fields : List Projection) : Prop :=
  ∃ param result entries, call.CallsBack (some param) result ∧ result.HasEntries entries ∧
    entries ≠ [] ∧ List.Forall₂ (Selects param) entries fields

/-- Whether every identifier in a document has a name. -/
def namesIdentifiers : Json → Bool :=
  everywhere fun v ↦ !v.isKind Kind.identifier || ((v.get? "name").bind asString?).isSome

theorem identName?_isSome_of_holds {v w : Json} (hnames : v.namesIdentifiers = true)
    (hw : v.Holds w) (hkind : w.unparen.isKind Kind.identifier = true) :
    w.identName?.isSome = true := by
  have htest := everywhere_iff.mp hnames _ (hw.trans w.holds_unparen)
  rw [hkind, Bool.not_true, Bool.false_or] at htest
  rwa [identName?, if_pos hkind]

theorem callsBack_unparen {v result : Json} {param : Option String} :
    v.unparen.CallsBack param result ↔ v.CallsBack param result := by
  constructor
  · rintro ⟨hkind, hfunction⟩
    rw [unparen_unparen] at hkind
    rw [field?_unparen] at hfunction
    exact ⟨hkind, hfunction⟩
  · rintro ⟨hkind, hfunction⟩
    rw [← field?_unparen] at hfunction
    rw [← unparen_unparen] at hkind
    exact ⟨hkind, hfunction⟩

theorem holds_of_mem_field? {v w : Json} {name : String} {items : List Json}
    (h : (v.field? name).bind asArray? = some items) (hw : w ∈ items) : v.Holds w := by
  obtain ⟨u, hu, hitems⟩ := Option.bind_eq_some_iff.mp h
  cases u with
  | array items' =>
    cases hitems
    exact (holds_of_field? hu).trans (holds_of_mem_array hw)
  | _ => cases hitems

theorem CallsBack.exists_name {v result : Json} {param : Option String}
    (h : v.CallsBack param result) (hnames : v.namesIdentifiers = true) :
    ∃ name, param = some name := by
  obtain ⟨f, hf, -, ⟨p, hp, hkind, rfl⟩, -⟩ := h.function
  have hholds : v.Holds p :=
    (holds_of_mem_field? hf (List.mem_singleton_self f)).trans
      (holds_of_mem_field? hp (List.mem_singleton_self p))
  exact Option.isSome_iff_exists.mp (identName?_isSome_of_holds hnames hholds hkind)

end Json

open Pattern Shapes

variable {v : Json} {bs : Bindings} {param : String}

/-! ## One entry -/

theorem projectionPattern_iff :
    projectionPattern.bindings v = .matched bs ↔
      v.unparen.isKind Kind.property = true ∧ ∃ w object field, v.field? "value" = some w ∧
        w.FieldAccess object field ∧
          bs = [("object", .ofName object), ("field", .string field)] := by
  rw [projectionPattern, node_singleton_iff, fieldOf_iff (by decide)]
  refine and_congr_right fun _ ↦ ?_
  constructor
  · rintro ⟨object, field, haccess, rfl⟩
    cases hvalue : v.field? "value" with
    | none =>
      rw [hvalue] at haccess
      cases haccess.member
    | some w =>
      rw [hvalue] at haccess
      exact ⟨w, object, field, rfl, haccess, rfl⟩
  · rintro ⟨w, object, field, hvalue, haccess, rfl⟩
    rw [hvalue]
    exact ⟨object, field, haccess, rfl⟩

theorem projection_eq_matched_iff {p : Projection} :
    projection param v = .matched p ↔ v.Selects param p := by
  obtain ⟨name, field⟩ := p
  rw [projection]
  cases hname : v.staticProperty? with
  | none =>
    constructor
    · intro h
      cases h
    · intro h
      cases hname.symm.trans h.name
  | some name' =>
    dsimp only
    cases hpattern : projectionPattern.bindings v with
    | skip why =>
      constructor
      · intro h
        cases h
      · rintro ⟨hkind, -, w, hvalue, haccess⟩
        cases hpattern.symm.trans
          (projectionPattern_iff.mpr ⟨hkind, w, _, _, hvalue, haccess, rfl⟩)
    | matched m =>
      obtain ⟨hkind, w, object, field', hvalue, haccess, rfl⟩ := projectionPattern_iff.mp hpattern
      have hobject : Bindings.string? [("object", .ofName object), ("field", .string field')]
          "object" = object := Json.asString?_ofName object
      have hfield : Bindings.string? [("object", .ofName object), ("field", .string field')]
          "field" = some field' := rfl
      dsimp only
      rw [hobject, hfield]
      constructor
      · intro h
        split at h
        · next hparam =>
          cases h
          exact ⟨hkind, hname, w, hvalue, hparam ▸ haccess⟩
        · cases h
      · rintro ⟨-, hname', w', hvalue', haccess'⟩
        cases hname.symm.trans hname'
        cases hvalue.symm.trans hvalue'
        obtain ⟨rfl, rfl⟩ := haccess.unique haccess'
        exact if_pos rfl

/-! ## All entries -/

theorem projections_eq_matched_iff {entries : List Json} {fields : List Projection} :
    projections param entries = .matched fields ↔
      List.Forall₂ (Json.Selects param) entries fields := by
  induction entries generalizing fields with
  | nil => simp [projections, eq_comm]
  | cons entry rest ih =>
    rw [projections, Outcome.bind_eq_matched_iff]
    constructor
    · rintro ⟨first, hfirst, h⟩
      obtain ⟨others, hothers, h⟩ := Outcome.bind_eq_matched_iff.mp h
      cases h
      exact .cons (projection_eq_matched_iff.mp hfirst) (ih.mp hothers)
    · intro h
      cases h with
      | cons hfirst hrest =>
        refine ⟨_, projection_eq_matched_iff.mpr hfirst, Outcome.bind_eq_matched_iff.mpr ?_⟩
        exact ⟨_, ih.mpr hrest, rfl⟩

theorem mapPattern_iff :
    mapPattern.bindings v = .matched bs ↔
      ∃ param result entries, v.CallsBack param result ∧ result.HasEntries entries ∧
        bs = [("param", .ofName param), ("properties", .array entries)] := by
  rw [mapPattern, callbackOf_iff]
  constructor
  · rintro ⟨param, result, own, hcalls, hown, hmerge⟩
    obtain ⟨hliteral, hseq⟩ := node_singleton_iff.mp hown
    obtain ⟨entries, hentries, hslots⟩ := seq_iff.mp hseq
    cases bindSlots_rest_any_iff.mp hslots
    cases hmerge
    exact ⟨param, result, entries, hcalls, ⟨hliteral, orNull_eq_array_iff.mp hentries⟩, rfl⟩
  · rintro ⟨param, result, entries, hcalls, ⟨hliteral, hentries⟩, rfl⟩
    refine ⟨param, result, [("properties", .array entries)], hcalls, ?_, rfl⟩
    exact node_singleton_iff.mpr ⟨hliteral, seq_iff.mpr
      ⟨entries, orNull_eq_array_iff.mpr hentries, bindSlots_rest_any_iff.mpr rfl⟩⟩

/-- What a map reads from a call, where a parameter without a name counts as one with an empty
name. -/
theorem mapArguments_eq_matched_iff {roots : Roots} {arguments : Arguments} :
    mapArguments v roots = .matched arguments ↔
      ∃ param result entries fields, v.CallsBack param result ∧ result.HasEntries entries ∧
        entries ≠ [] ∧ List.Forall₂ (Json.Selects (param.getD "")) entries fields ∧
          arguments = .query (.map fields) := by
  -- What is done with a match of the pattern depends on the name and the entries only.
  have hbuild : ∀ (param : Option String) (entries : List Json),
      (do
        let fields ← projections (param.getD "") entries
        if fields.isEmpty then .refuse "projection selects no fields"
        else return Arguments.query (.map fields) : Outcome Arguments) = .matched arguments ↔
      entries ≠ [] ∧ ∃ fields, List.Forall₂ (Json.Selects (param.getD "")) entries fields ∧
        arguments = .query (.map fields) := by
    intro param entries
    rw [Outcome.bind_eq_matched_iff]
    simp only [projections_eq_matched_iff]
    constructor
    · rintro ⟨fields, hfields, h⟩
      cases hfields with
      | nil => cases h
      | cons hfirst hrest =>
        cases h
        exact ⟨List.cons_ne_nil _ _, _, .cons hfirst hrest, rfl⟩
    · rintro ⟨hne, fields, hfields, rfl⟩
      refine ⟨fields, hfields, ?_⟩
      cases hfields with
      | nil => exact absurd rfl hne
      | cons _ _ => rfl
  have hread : ∀ (param : Option String) (entries : List Json),
      Bindings.string? [("param", .ofName param), ("properties", .array entries)] "param" = param :=
    fun param _ ↦ Json.asString?_ofName param
  rw [mapArguments, Outcome.bind_eq_matched_iff]
  simp only [expect, Outcome.mapSkip_eq_matched_iff, mapPattern_iff]
  constructor
  · rintro ⟨bs, ⟨param, result, entries, hcalls, hentries, rfl⟩, h⟩
    rw [hread] at h
    obtain ⟨hne, fields, hfields, rfl⟩ := (hbuild param entries).mp h
    exact ⟨param, result, entries, fields, hcalls, hentries, hne, hfields, rfl⟩
  · rintro ⟨param, result, entries, fields, hcalls, hentries, hne, hfields, rfl⟩
    refine ⟨_, ⟨param, result, entries, hcalls, hentries, rfl⟩, ?_⟩
    rw [hread]
    exact (hbuild param entries).mpr ⟨hne, fields, hfields, rfl⟩

/-- Where identifiers have names, a map reads the fields that the call projects. -/
theorem mapArguments_unparen_eq_matched_iff (roots : Roots) {arguments : Arguments}
    (hnames : v.namesIdentifiers = true) :
    mapArguments v.unparen roots = .matched arguments ↔
      ∃ fields, v.Projects fields ∧ arguments = .query (.map fields) := by
  rw [mapArguments_eq_matched_iff]
  simp only [Json.callsBack_unparen]
  constructor
  · rintro ⟨param, result, entries, fields, hcalls, hentries, hne, hfields, rfl⟩
    obtain ⟨name, rfl⟩ := hcalls.exists_name hnames
    exact ⟨fields, ⟨name, result, entries, hcalls, hentries, hne, hfields⟩, rfl⟩
  · rintro ⟨fields, ⟨name, result, entries, hcalls, hentries, hne, hfields⟩, rfl⟩
    exact ⟨some name, result, entries, fields, hcalls, hentries, hne, hfields, rfl⟩

/-! ## Calls that are committed to a map -/

section Committed

variable {roots : Roots} {source node : Json} {limit depth : Nat} {before : Resolved}

theorem Table.not_database_of_resolveAt {whitelist : Option (List OpId)}
    (h : (Table.standard.resolveAt roots limit depth whitelist source).verdict = .matched before)
    {name db : String} (hname : source.identName? = some name) :
    roots.get? name ≠ some ⟨db, none⟩ := by
  intro hroot
  rcases Table.verdict_resolveAt_of_not_fits (fun op ↦ Table.not_fits_of_database hname hroot)
    with hskip | hdeep
  · cases hskip.symm.trans h
  · cases hdeep.symm.trans h

theorem Link.step_map_eq_matched_iff (hnames : node.namesIdentifiers = true)
    (hfollows : Table.standard.canFollow .map before.id = true) {resolved : Resolved} :
    Link.step roots before ⟨.map, node.unparen⟩ = .matched resolved ↔
      ∃ fields, node.Projects fields ∧ resolved = ⟨.map, .query (.map fields) before.command⟩ := by
  have hstep : Link.step roots before ⟨.map, node.unparen⟩ = _ := if_pos hfollows
  rw [hstep]
  constructor
  · intro h
    cases hextract : Read.map.extract node.unparen roots with
    | skip why =>
      rw [hextract] at h
      cases h
    | matched arguments =>
      obtain ⟨fields, hprojects, rfl⟩ :=
        (mapArguments_unparen_eq_matched_iff roots hnames).mp hextract
      rw [hextract] at h
      exact ⟨fields, hprojects, (Verdict.matched.inj h).symm⟩
  · rintro ⟨fields, hprojects, rfl⟩
    have hextract : Read.map.extract node.unparen roots = .matched (.query (.map fields)) :=
      (mapArguments_unparen_eq_matched_iff roots hnames).mpr ⟨fields, hprojects, rfl⟩
    rw [hextract]
    rfl

theorem Link.step_map_eq_malformed_iff (hnames : node.namesIdentifiers = true)
    (hfollows : Table.standard.canFollow .map before.id = true) :
    (∃ why, Link.step roots before ⟨.map, node.unparen⟩ =
        .failed (.malformed .map why node.unparen.span?)) ↔
      ∀ fields, ¬node.Projects fields := by
  constructor
  · rintro ⟨why, hfailed⟩ fields hprojects
    cases hfailed.symm.trans
      ((step_map_eq_matched_iff hnames hfollows).mpr ⟨fields, hprojects, rfl⟩)
  · intro hnone
    have hstep : Link.step roots before ⟨.map, node.unparen⟩ = _ := if_pos hfollows
    cases hextract : Read.map.extract node.unparen roots with
    | skip why =>
      rw [hextract] at hstep
      exact ⟨why, hstep⟩
    | matched arguments =>
      obtain ⟨fields, hprojects, -⟩ :=
        (mapArguments_unparen_eq_matched_iff roots hnames).mp hextract
      exact absurd hprojects (hnone fields)

/-- **A map is a projection.** Where the source of a call of `map` resolves to something that a map
may follow, the call resolves exactly if it is a projection, and to all the fields that it projects;
otherwise it is malformed. -/
theorem analyze_map_iff_projects (hnode : Asks source node .map)
    (hnames : node.namesIdentifiers = true) {whitelist : List OpId} (hmap : .map ∈ whitelist)
    (hsource : (Table.standard.resolveAt roots (limit + 1) limit none source).result =
      .ok (.matched before))
    (hfollows : Table.standard.canFollow .map before.id = true) :
    (∀ resolved,
        (Table.standard.analyze roots (limit + 1) whitelist node).result = .ok (.matched resolved) ↔
          ∃ fields, node.Projects fields ∧
            resolved = ⟨.map, .query (.map fields) before.command⟩) ∧
      ((∃ why, (Table.standard.analyze roots (limit + 1) whitelist node).result =
          .error (.malformed .map why node.unparen.span?)) ↔ ∀ fields, ¬node.Projects fields) := by
  have hbefore := Traced.verdict_eq_matched_iff.mpr hsource
  have hstep : (Table.standard.analyze roots (limit + 1) whitelist node).verdict =
      Link.step roots before ⟨.map, node.unparen⟩ := by
    rw [Table.analyze, hnode.verdict_resolveAt
      (fun _ _ ↦ Table.not_database_of_resolveAt hbefore) (limit + 1) limit
      (fun ids hids ↦ Option.some.inj hids ▸ hmap), hbefore, Verdict.matched_andThen]
  simp only [← Traced.verdict_eq_matched_iff, ← Traced.verdict_eq_failed_iff, hstep]
  exact ⟨fun resolved ↦ Link.step_map_eq_matched_iff hnames hfollows,
    Link.step_map_eq_malformed_iff hnames hfollows⟩

/-- `db.todos.map(t => ({title: t.title, again: t.title}))` keeps both of its entries; with
`x.title` in place of the second value, nothing is left of it. -/
theorem analyze_map_iff_projects_title :
    let roots : Roots := ⟨[("db", ⟨"app", none⟩)], []⟩
    let todos := Tree.member (Tree.identifier "db") "todos"
    let titleOf := fun object : String ↦ Tree.member (Tree.identifier object) "title"
    let node := fun again : String ↦ Tree.method todos "map" [Tree.arrow ["t"]
      (Tree.object [Tree.property "title" (titleOf "t"), Tree.property "again" (titleOf again)])]
    (∀ again, Asks todos (node again) .map) ∧
      (node "t").namesIdentifiers = true ∧ (node "x").namesIdentifiers = true ∧
      (Table.standard.resolveAt roots 2 1 none todos).result =
        .ok (.matched ⟨.root, .collection ⟨"app", "todos"⟩⟩) ∧
      Table.standard.canFollow .map .root = true ∧
      (node "t").Projects [⟨"title", "title"⟩, ⟨"again", "title"⟩] ∧
      (Table.standard.analyze roots 2 [.map] (node "t")).result = .ok (.matched
        ⟨.map, .query (.map [⟨"title", "title"⟩, ⟨"again", "title"⟩])
          (.collection ⟨"app", "todos"⟩)⟩) ∧
      ∀ fields, ¬(node "x").Projects fields := by
  intro roots todos titleOf node
  have hasks : ∀ again, Asks todos (node again) .map :=
    fun again ↦ .method (by decide) rfl rfl rfl rfl
  have hsource : (Table.standard.resolveAt roots 2 1 none todos).result =
      .ok (.matched ⟨.root, .collection ⟨"app", "todos"⟩⟩) := rfl
  have hnames : ∀ again, (node again).namesIdentifiers = true := fun again ↦ rfl
  have haccess : (titleOf "t").FieldAccess (some "t") "title" := ⟨rfl, ⟨_, rfl, rfl, rfl⟩, rfl⟩
  have hprojects : (node "t").Projects [⟨"title", "title"⟩, ⟨"again", "title"⟩] :=
    ⟨"t", _, _, ⟨rfl, _, rfl, rfl, ⟨_, rfl, rfl, rfl⟩, rfl⟩, ⟨rfl, rfl⟩, List.cons_ne_nil _ _,
      .cons ⟨rfl, rfl, _, rfl, haccess⟩ (.cons ⟨rfl, rfl, _, rfl, haccess⟩ .nil)⟩
  obtain ⟨hmatched, -⟩ := analyze_map_iff_projects (hasks "t") (hnames "t")
    (List.mem_singleton_self OpId.map) hsource rfl
  obtain ⟨-, hmalformed⟩ := analyze_map_iff_projects (hasks "x") (hnames "x")
    (List.mem_singleton_self OpId.map) hsource rfl
  exact ⟨hasks, hnames "t", hnames "x", hsource, rfl, hprojects,
    (hmatched _).mpr ⟨_, hprojects, rfl⟩, hmalformed.mp ⟨_, rfl⟩⟩

end Committed

end FluentQuery
