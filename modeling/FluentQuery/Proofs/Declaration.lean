import FluentQuery.Proofs.Shapes
import FluentQuery.Roots

/-!
# Declarations that make a binding

The rule for declarations, said with the accessors of nodes: a declaration binds its name exactly if
it calls a connector by an identifier, with one string literal for the database or with a second one
for a collection of it. Whether a name is bound already does not enter here.
-/

namespace FluentQuery

open Pattern Shapes

namespace Json

/-- `name = connector("db")` or `name = connector("db", "collection")` in a declaration. -/
structure Connects (v : Json) (connector name : String) (binding : RootBinding) : Prop where
  declarator : v.unparen.isKind Kind.declarator = true
  name : (v.field? "id").bind identName? = some name
  call : ∃ call, v.field? "init" = some call ∧ call.unparen.isKind Kind.call = true ∧
    (call.field? "callee").bind identName? = some connector ∧
      ∃ arguments, (call.field? "arguments").bind asArray? = some arguments ∧
        arguments.map string? = (binding.db :: binding.collection.toList).map some

end Json

variable {v : Json} {bs before : Bindings}

/-! ## One or two texts -/

theorem stringAs_iff {name : String} :
    (stringAs name).bindings v = .matched bs ↔
      ∃ s, v.string? = some s ∧ bs = [(name, .string s)] := by
  rw [stringAs, computed, capture_satisfies_iff, Option.isSome_iff_exists]
  constructor
  · rintro ⟨⟨s, hs⟩, rfl⟩
    refine ⟨s, hs, ?_⟩
    rw [captureValue, hs]
    rfl
  · rintro ⟨s, hs, rfl⟩
    refine ⟨⟨s, hs⟩, ?_⟩
    rw [captureValue, hs]
    rfl

theorem bindSlots_optional_iff {p : Pattern} {items : List Json} :
    bindSlots [.optional p] items before = .matched bs ↔
      items = [] ∧ bs = before ∨
        ∃ x own, items = [x] ∧ p.bindings x = .matched own ∧ before.merge own = .matched bs := by
  cases items with
  | nil => simp [bindSlots, eq_comm]
  | cons x rest =>
    have hleft : ∀ after, bindSlots [] (x :: rest) before ≠ .matched after := by
      simp [bindSlots_nil_iff]
    rw [bindSlots]
    cases htaken : p.bindings x >>= before.merge >>= bindSlots [] rest with
    | skip why =>
      simp only [hleft, false_iff]
      rintro (⟨hnil, -⟩ | ⟨y, own, hy, hown, hmerge⟩)
      · cases hnil
      · cases hy
        rw [hown, Outcome.matched_bind, hmerge] at htaken
        cases htaken
    | matched done =>
      obtain ⟨mid, hmid, hnil⟩ := Outcome.bind_eq_matched_iff.mp htaken
      obtain ⟨own, hown, hmerge⟩ := Outcome.bind_eq_matched_iff.mp hmid
      obtain ⟨rfl, rfl⟩ := bindSlots_nil_iff.mp hnil
      simp [hown, hmerge]

/-- One text, or two. -/
theorem texts_iff {first second : String} (hne : first ≠ second) :
    (seq [.one (stringAs first), .optional (stringAs second)]).bindings v = .matched bs ↔
      ∃ items s t?, v = .array items ∧ items.map Json.string? = (s :: Option.toList t?).map some ∧
        bs = (first, .string s) :: t?.toList.map fun t ↦ (second, .string t) := by
  have hmerge : ∀ x y : Json, Bindings.merge [(first, x)] [(second, y)] =
      .matched [(first, x), (second, y)] := by
    intro x y
    exact Bindings.merge_of_distinct_append (by simp [Bindings.Distinct, hne])
  rw [seq_iff]
  constructor
  · rintro ⟨items, rfl, hslots⟩
    obtain ⟨x, rest, own, mid, rfl, hown, hmid, hrest⟩ := bindSlots_one_iff.mp hslots
    obtain ⟨s, hs, rfl⟩ := stringAs_iff.mp hown
    cases hmid
    obtain ⟨rfl, rfl⟩ | ⟨y, own, rfl, hown, hbs⟩ := bindSlots_optional_iff.mp hrest
    · exact ⟨[x], s, none, rfl, by simp [hs], rfl⟩
    · obtain ⟨t, ht, rfl⟩ := stringAs_iff.mp hown
      rw [List.nil_append, hmerge] at hbs
      cases hbs
      exact ⟨[x, y], s, some t, rfl, by simp [hs, ht], rfl⟩
  · rintro ⟨items, s, t?, rfl, hitems, rfl⟩
    refine ⟨items, rfl, bindSlots_one_iff.mpr ?_⟩
    obtain ⟨x, rest, rfl, hx, hrest⟩ := List.map_eq_cons_iff.mp hitems
    refine ⟨x, rest, _, _, rfl, stringAs_iff.mpr ⟨s, hx, rfl⟩, rfl, bindSlots_optional_iff.mpr ?_⟩
    cases t? with
    | none => exact Or.inl ⟨List.map_eq_nil_iff.mp hrest, rfl⟩
    | some t =>
      obtain ⟨y, nothing, rfl, hy, hnothing⟩ := List.map_eq_cons_iff.mp hrest
      obtain rfl := List.map_eq_nil_iff.mp hnothing
      exact Or.inr ⟨y, _, rfl, stringAs_iff.mpr ⟨t, hy, rfl⟩, hmerge _ _⟩

/-- The texts that a binding is made of, as they are bound. -/
def RootBinding.texts (binding : RootBinding) : Bindings :=
  ("db", .string binding.db) :: binding.collection.toList.map fun c ↦ ("collection", .string c)

theorem refusesNull_seq (slots : List (Slot Pattern)) : (seq slots).RefusesNull := by
  intro own h
  cases h

/-! ## Calls of a connector -/

/-- What a declaration that makes a binding calls: `connector("db")` or
`connector("db", "collection")`. -/
def connectorCall : Pattern :=
  node Kind.call [("callee", identifierAs "connector"),
    ("arguments", .seq [.one (stringAs "db"), .optional (stringAs "collection")])]

theorem connectorCall_iff :
    connectorCall.bindings v = .matched bs ↔
      v.unparen.isKind Kind.call = true ∧ ∃ callee arguments binding,
        v.field? "callee" = some callee ∧ callee.unparen.isKind Kind.identifier = true ∧
        v.field? "arguments" = some (.array arguments) ∧
        arguments.map Json.string? =
          ((RootBinding.db binding) :: binding.collection.toList).map some ∧
        bs = ("connector", .ofName callee.identName?) :: binding.texts := by
  have hmerge : ∀ (x : Json) (binding : RootBinding),
      Bindings.merge [("connector", x)] binding.texts =
        .matched (("connector", x) :: binding.texts) := by
    intro x binding
    refine Bindings.merge_of_distinct_append ?_
    rw [RootBinding.texts]
    cases binding.collection <;> simp [Bindings.Distinct]
  rw [connectorCall, node_iff]
  refine and_congr_right fun hkind ↦ ?_
  constructor
  · rintro ⟨entries, hentries, hfields⟩
    obtain ⟨callee, own, mid, hcallee, hown, hmid, hfields⟩ :=
      (bindFields_cons_some_iff hentries (refusesNull_identifierAs _)).mp hfields
    obtain ⟨hidentifier, rfl⟩ := identifierAs_iff.mp hown
    cases hmid
    obtain ⟨w, own, mid, hw, hown, hmid, hnil⟩ :=
      (bindFields_cons_some_iff hentries (refusesNull_seq _)).mp hfields
    obtain ⟨arguments, db, collection?, rfl, htexts, rfl⟩ := (texts_iff (by decide)).mp hown
    cases (hmerge _ ⟨db, collection?⟩).symm.trans hmid
    cases hnil
    exact ⟨callee, arguments, ⟨db, collection?⟩, hcallee, hidentifier, hw, htexts, rfl⟩
  · rintro ⟨callee, arguments, binding, hcallee, hidentifier, hw, htexts, rfl⟩
    obtain ⟨entries, hentries⟩ := Json.exists_entries_of_isKind hkind
    refine ⟨entries, hentries, ?_⟩
    refine (bindFields_cons_some_iff hentries (refusesNull_identifierAs _)).mpr
      ⟨callee, _, _, hcallee, identifierAs_iff.mpr ⟨hidentifier, rfl⟩, rfl, ?_⟩
    exact (bindFields_cons_some_iff hentries (refusesNull_seq _)).mpr
      ⟨_, _, _, hw, (texts_iff (by decide)).mpr ⟨arguments, _, _, rfl, htexts, rfl⟩,
        hmerge _ binding, rfl⟩

/-! ## Declarations -/

theorem declarationRule_pattern_iff :
    Roots.declarationRule.pattern.bindings v = .matched bs ↔
      v.unparen.isKind Kind.declarator = true ∧ ∃ id call own,
        v.field? "id" = some id ∧ id.unparen.isKind Kind.identifier = true ∧
        v.field? "init" = some call ∧ connectorCall.bindings call = .matched own ∧
          bs = ("name", .ofName id.identName?) :: own := by
  have hmerge : ∀ {call : Json} {own : Bindings} (x : Json),
      connectorCall.bindings call = .matched own →
        Bindings.merge [("name", x)] own = .matched (("name", x) :: own) := by
    intro call own x hown
    obtain ⟨-, callee, arguments, binding, -, -, -, -, rfl⟩ := connectorCall_iff.mp hown
    refine Bindings.merge_of_distinct_append ?_
    rw [RootBinding.texts]
    cases binding.collection <;> simp [Bindings.Distinct]
  rw [Roots.declarationRule, node_iff]
  refine and_congr_right fun hkind ↦ ?_
  constructor
  · rintro ⟨entries, hentries, hfields⟩
    obtain ⟨id, own, mid, hid, hown, hmid, hfields⟩ :=
      (bindFields_cons_some_iff hentries (refusesNull_identifierAs _)).mp hfields
    obtain ⟨hidentifier, rfl⟩ := identifierAs_iff.mp hown
    cases hmid
    obtain ⟨call, own, mid, hcall, hown, hmid, hnil⟩ :=
      (bindFields_cons_some_iff hentries (refusesNull_node _ _)).mp hfields
    rw [List.nil_append, hmerge _ hown] at hmid
    cases hmid
    cases hnil
    exact ⟨id, call, own, hid, hidentifier, hcall, hown, rfl⟩
  · rintro ⟨id, call, own, hid, hidentifier, hcall, hown, rfl⟩
    obtain ⟨entries, hentries⟩ := Json.exists_entries_of_isKind hkind
    refine ⟨entries, hentries, ?_⟩
    refine (bindFields_cons_some_iff hentries (refusesNull_identifierAs _)).mpr
      ⟨id, _, _, hid, identifierAs_iff.mpr ⟨hidentifier, rfl⟩, rfl, ?_⟩
    exact (bindFields_cons_some_iff hentries (refusesNull_node _ _)).mpr
      ⟨call, own, _, hcall, hown, hmerge _ hown, rfl⟩

/-- What is made of the names and texts in a declaration. -/
theorem declarationRule_build_iff {roots : Roots} {x y : Option String} {name : String}
    {found binding : RootBinding} :
    Roots.declarationRule.build roots
        ⟨("name", .ofName x) :: ("connector", .ofName y) :: found.texts, v⟩ =
          .matched (name, binding) ↔
      x = some name ∧ binding = found ∧ ∃ connector ∈ roots.connectors, y = some connector := by
  obtain ⟨db, collection⟩ := found
  generalize hbs : ("name", Json.ofName x) :: ("connector", Json.ofName y) ::
    RootBinding.texts ⟨db, collection⟩ = bs
  have hnames : Bindings.string? bs "name" = x ∧ Bindings.string? bs "connector" = y := by
    subst hbs
    exact ⟨Json.asString?_ofName x, Json.asString?_ofName y⟩
  have htexts : Bindings.string? bs "db" = some db ∧
      Bindings.string? bs "collection" = collection := by
    subst hbs
    cases collection <;> exact ⟨rfl, rfl⟩
  simp only [Roots.declarationRule, hnames, htexts]
  cases x with
  | none => simp [Outcome.refuse]
  | some x =>
    cases y with
    | none => simp [Outcome.refuse]
    | some y =>
      by_cases hconnector : y ∈ roots.connectors
      · simp [Roots.isConnector, hconnector, eq_comm]
      · simp [Roots.isConnector, hconnector, Outcome.refuse]

/-- A declaration makes a binding exactly if it calls a connector of the roots. -/
theorem Roots.declaration_eq_matched_iff {roots : Roots} {name : String} {binding : RootBinding} :
    roots.declaration v = .matched (name, binding) ↔
      ∃ connector ∈ roots.connectors, v.Connects connector name binding := by
  rw [declaration, Rule.apply_eq_matched_iff]
  constructor
  · rintro ⟨bs, hbs, hbuild⟩
    obtain ⟨hkind, id, call, own, hid, -, hcall, hown, rfl⟩ :=
      declarationRule_pattern_iff.mp hbs
    obtain ⟨hcallKind, callee, arguments, found, hcallee, -, harguments, htexts, rfl⟩ :=
      connectorCall_iff.mp hown
    obtain ⟨hname, rfl, connector, hconnector, hcalled⟩ := declarationRule_build_iff.mp hbuild
    refine ⟨connector, hconnector, hkind, ?_, call, hcall, hcallKind, ?_, arguments, ?_, htexts⟩
    · rw [hid, Option.bind_some, hname]
    · rw [hcallee, Option.bind_some, hcalled]
    · rw [harguments]
      rfl
  · rintro ⟨connector, hconnector, hkind, hname, call, hcall, hcallKind, hcallee, arguments,
      harguments, htexts⟩
    obtain ⟨id, hid, hname⟩ := Option.bind_eq_some_iff.mp hname
    obtain ⟨callee, hcallee, hcalled⟩ := Option.bind_eq_some_iff.mp hcallee
    obtain ⟨w, hw, harray⟩ := Option.bind_eq_some_iff.mp harguments
    obtain rfl : w = .array arguments := by
      cases w with
      | array items => exact congrArg Json.array (Option.some.inj harray)
      | _ => cases harray
    have hown := connectorCall_iff.mpr ⟨hcallKind, callee, arguments, binding, hcallee,
      Json.isKind_of_identName? hcalled, hw, htexts, rfl⟩
    refine ⟨_, declarationRule_pattern_iff.mpr ⟨hkind, id, call, _, hid,
      Json.isKind_of_identName? hname, hcall, hown, rfl⟩, ?_⟩
    exact declarationRule_build_iff.mpr ⟨hname, rfl, connector, hconnector, hcalled⟩

end FluentQuery
