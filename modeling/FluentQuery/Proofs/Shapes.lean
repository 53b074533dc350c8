import FluentQuery.Pattern.Shapes
import FluentQuery.Proofs.Pattern

/-!
# What the shared shapes match

The shapes of functions and comparisons, said with the accessors of nodes. An access to a field
names an identifier and a property; a comparison has two such accesses to one field and an operator;
a function gives back the body it has, or what the only statement of its block returns.

The name of an identifier may be missing, and is then bound to `null`. A shape does not mind, so the
names below are optional, and it is for the rule behind the shape to ask for them.
-/

namespace FluentQuery

namespace Json

/-! ## Accesses and comparisons -/

/-- A name as it is bound: its text, or `null` if there is none. -/
def ofName (name : Option String) : Json := .orNull (name.map .string)

@[simp] theorem asString?_ofName (name : Option String) : (ofName name).asString? = name := by
  cases name <;> rfl

@[simp] theorem sameNode_ofName {x y : Option String} :
    sameNode (ofName x) (ofName y) = true ↔ x = y := by
  cases x <;> cases y <;> simp [ofName, orNull, sameNode_iff, plain]

/-- `object.property`: an access to a fixed property of an identifier. -/
structure FieldAccess (v : Json) (object : Option String) (property : String) : Prop where
  member : v.unparen.isKind Kind.member = true
  identifier : ∃ o, v.field? "object" = some o ∧
    o.unparen.isKind Kind.identifier = true ∧ o.identName? = object
  property : v.staticProperty? = some property

/-- `left.field … right.field`: an operation on one field of two identifiers. -/
structure Operands (v : Json) (left right : Option String) (field : String) : Prop where
  binary : v.unparen.isKind Kind.binary = true
  left : ∃ x, v.field? "left" = some x ∧ x.FieldAccess left field
  right : ∃ y, v.field? "right" = some y ∧ y.FieldAccess right field

/-- `left.field operator right.field`. -/
structure Compares (v : Json) (operator : String) (left right : Option String) (field : String) :
    Prop extends Operands v left right field where
  operator : v.field? "operator" = some (.string operator)

theorem FieldAccess.unique {v : Json} {o o' : Option String} {p p' : String}
    (h : v.FieldAccess o p) (h' : v.FieldAccess o' p') : o = o' ∧ p = p' := by
  obtain ⟨x, hx, -, ho⟩ := h.identifier
  obtain ⟨x', hx', -, ho'⟩ := h'.identifier
  cases hx.symm.trans hx'
  exact ⟨ho.symm.trans ho', Option.some.inj (h.property.symm.trans h'.property)⟩

theorem Compares.unique {v : Json} {op op' : String} {l l' r r' : Option String}
    {field field' : String} (h : v.Compares op l r field) (h' : v.Compares op' l' r' field') :
    op = op' ∧ l = l' ∧ r = r' ∧ field = field' := by
  obtain ⟨x, hx, hl⟩ := h.left
  obtain ⟨x', hx', hl'⟩ := h'.left
  obtain ⟨y, hy, hr⟩ := h.right
  obtain ⟨y', hy', hr'⟩ := h'.right
  cases hx.symm.trans hx'
  cases hy.symm.trans hy'
  cases h.operator.symm.trans h'.operator
  obtain ⟨rfl, rfl⟩ := hl.unique hl'
  exact ⟨rfl, rfl, (hr.unique hr').1, rfl⟩

/-! ## Functions -/

/-- What a function with the given body gives back, if that is a single expression: the body, unless
it is a block, or what the only statement of the block returns. -/
def returned? (body : Json) : Option Json :=
  if body.unparen.isKind Kind.block then
    match (body.field? "body").bind asArray? with
    | some [s] =>
      if s.unparen.isKind Kind.returned then some (.orNull (s.field? "argument")) else none
    | _ => none
  else some body

/-- Whether a node is an arrow function or a function expression. -/
def isFunction (v : Json) : Bool :=
  v.unparen.isKind Kind.arrowFunction || v.unparen.isKind Kind.function

end Json

/-! ## Matching accesses and comparisons -/

namespace Shapes

open Pattern

variable {v : Json} {bs : Bindings}

theorem identifierAs_iff {name : String} :
    (identifierAs name).bindings v = .matched bs ↔
      v.unparen.isKind Kind.identifier = true ∧ bs = [(name, .ofName v.identName?)] :=
  capture_satisfies_iff

theorem refusesNull_identifierAs (name : String) : (identifierAs name).RefusesNull :=
  refusesNull_capture_satisfies rfl

theorem numberAs_iff {name : String} :
    (numberAs name).bindings v = .matched bs ↔
      ∃ x, v.number? = some x ∧ bs = [(name, .ofBinary64 x)] := by
  rw [numberAs, computed, capture_satisfies_iff, Option.isSome_iff_exists]
  constructor
  · rintro ⟨⟨x, hx⟩, rfl⟩
    refine ⟨x, hx, ?_⟩
    rw [captureValue, hx]
    rfl
  · rintro ⟨x, hx, rfl⟩
    refine ⟨⟨x, hx⟩, ?_⟩
    rw [captureValue, hx]
    rfl

theorem refusesNull_numberAs (name : String) : (numberAs name).RefusesNull :=
  refusesNull_capture_satisfies rfl

theorem fieldOf_iff {object property : String} (hne : object ≠ property) :
    (fieldOf object property).bindings v = .matched bs ↔
      ∃ o p, v.FieldAccess o p ∧ bs = [(object, .ofName o), (property, .string p)] := by
  have hmerge : ∀ x y : Json, Bindings.merge [(object, x)] [(property, y)] =
      .matched [(object, x), (property, y)] := by
    intro x y
    exact Bindings.merge_of_distinct_append (by simp [Bindings.Distinct, hne])
  rw [fieldOf, memberAs, and_iff]
  constructor
  · rintro ⟨first, second, hfirst, hsecond, hbs⟩
    obtain ⟨hmember, entries, hentries, hfields⟩ := node_iff.mp hfirst
    obtain ⟨o, own, mid, ho, hown, hmid, hrest⟩ :=
      (bindFields_cons_some_iff hentries (refusesNull_identifierAs object)).mp hfields
    obtain ⟨hidentifier, rfl⟩ := identifierAs_iff.mp hown
    cases hmid
    cases hrest
    obtain ⟨hproperty, rfl⟩ := capture_satisfies_iff.mp hsecond
    obtain ⟨p, hp⟩ := Option.isSome_iff_exists.mp hproperty
    rw [List.nil_append, hmerge, captureValue, hp] at hbs
    cases hbs
    exact ⟨o.identName?, p, ⟨hmember, ⟨o, ho, hidentifier, rfl⟩, hp⟩, rfl⟩
  · rintro ⟨_, p, ⟨hmember, ⟨o, ho, hidentifier, rfl⟩, hp⟩, rfl⟩
    obtain ⟨entries, hentries⟩ := Json.exists_entries_of_isKind hmember
    have hown : (identifierAs object).bindings o = .matched [(object, .ofName o.identName?)] :=
      identifierAs_iff.mpr ⟨hidentifier, rfl⟩
    have hnode : (node Kind.member [("object", identifierAs object)]).bindings v =
        .matched [(object, .ofName o.identName?)] :=
      node_iff.mpr ⟨hmember, entries, hentries,
        (bindFields_cons_some_iff hentries (refusesNull_identifierAs object)).mpr
          ⟨o, _, _, ho, hown, rfl, rfl⟩⟩
    refine ⟨_, _, hnode, capture_satisfies_iff.mpr ⟨?_, rfl⟩, ?_⟩
    · rw [hp]
      rfl
    · rw [hmerge, captureValue, hp]
      rfl

theorem refusesNull_fieldOf (object property : String) : (fieldOf object property).RefusesNull :=
  (refusesNull_node _ _).and _

/-- The second access to a field binds only its identifier, since the field is bound already. -/
theorem merge_fieldOf_eq_matched_iff {own after : Bindings} {l r : String}
    (hdistinct : (own.map Prod.fst ++ [l, "field", r]).Nodup) {x y : Json} {f g : String} :
    Bindings.merge (own ++ [(l, x), ("field", .string f)]) [(r, y), ("field", .string g)] =
        .matched after ↔
      f = g ∧ after = own ++ [(l, x), ("field", .string f), (r, y)] := by
  obtain ⟨-, htail, hdisjoint⟩ := List.nodup_append.mp hdistinct
  have hnone : Bindings.get? (own ++ [(l, x), ("field", .string f)]) r = none := by
    rw [Bindings.get?_eq_none_iff, List.map_append, List.mem_append, not_or]
    refine ⟨fun hmem ↦ hdisjoint r hmem r (by simp) rfl, ?_⟩
    simp_all [eq_comm]
  have hfield : Bindings.get? (own ++ [(l, x), ("field", .string f)] ++ [(r, y)]) "field" =
      some (.string f) := by
    have hown : own.get? "field" = none :=
      Bindings.get?_eq_none_iff.mpr fun hmem ↦ hdisjoint _ hmem _ (by simp) rfl
    have hl : l ≠ "field" := by
      rintro rfl
      simp at htail
    rw [Bindings.get?_append, Bindings.get?_append, hown, Option.none_or, Bindings.get?_cons,
      if_neg hl, Bindings.get?_cons, if_pos rfl, Option.some_or]
  rw [Bindings.merge_cons_of_get?_eq_none hnone, Bindings.merge_cons_eq_matched_iff hfield,
    Json.sameNode_string_string, Bindings.merge, Outcome.matched.injEq, List.append_assoc]
  exact and_congr_right fun _ ↦ eq_comm

/-- An operation on one field of two identifiers, whatever is asked of its operator. -/
theorem operands_iff {p : Pattern} {l r : String} {names : List String}
    (hnull : p.RefusesNull)
    (hnames : ∀ w own, p.bindings w = .matched own → own.map Prod.fst = names)
    (hdistinct : (names ++ [l, "field", r]).Nodup) :
    (node Kind.binary [("operator", p), ("left", fieldOf l "field"),
        ("right", fieldOf r "field")]).bindings v = .matched bs ↔
      ∃ operator own left right field, v.field? "operator" = some operator ∧
        p.bindings operator = .matched own ∧ v.Operands left right field ∧
          bs = own ++ [(l, .ofName left), ("field", .string field), (r, .ofName right)] := by
  obtain ⟨hl, hr⟩ : l ≠ "field" ∧ r ≠ "field" := by
    have htail := (List.nodup_append.mp hdistinct).2.1
    constructor
    · rintro rfl
      simp at htail
    · rintro rfl
      simp at htail
  -- The names bound by the operator and by the first access are new.
  have hfirst : ∀ {own : Bindings} {x y : Json}, own.map Prod.fst = names →
      Bindings.merge own [(l, x), ("field", y)] = .matched (own ++ [(l, x), ("field", y)]) := by
    intro own x y hown
    refine Bindings.merge_of_distinct_append ?_
    rw [Bindings.Distinct, List.map_append, hown]
    refine hdistinct.sublist (List.Sublist.append_left ?_ names)
    exact List.Sublist.cons_cons l (List.Sublist.cons_cons "field" (List.nil_sublist _))
  rw [node_iff]
  constructor
  · rintro ⟨hbinary, entries, hentries, hfields⟩
    obtain ⟨operator, own, mid, hoperator, hown, hmid, hfields⟩ :=
      (bindFields_cons_some_iff hentries hnull).mp hfields
    rw [Bindings.nil_merge (distinct_bindings p hown)] at hmid
    cases hmid
    obtain ⟨x, left, mid, hx, hleft, hmid, hfields⟩ :=
      (bindFields_cons_some_iff hentries (refusesNull_fieldOf l "field")).mp hfields
    obtain ⟨lo, lf, hleftAccess, rfl⟩ := (fieldOf_iff hl).mp hleft
    rw [hfirst (hnames _ _ hown)] at hmid
    cases hmid
    obtain ⟨y, right, mid, hy, hright, hmid, hfields⟩ :=
      (bindFields_cons_some_iff hentries (refusesNull_fieldOf r "field")).mp hfields
    obtain ⟨ro, rf, hrightAccess, rfl⟩ := (fieldOf_iff hr).mp hright
    rw [← hnames _ _ hown] at hdistinct
    obtain ⟨rfl, rfl⟩ := (merge_fieldOf_eq_matched_iff hdistinct).mp hmid
    cases hfields
    exact ⟨operator, own, lo, ro, lf, hoperator, hown,
      ⟨hbinary, ⟨x, hx, hleftAccess⟩, ⟨y, hy, hrightAccess⟩⟩, rfl⟩
  · rintro ⟨operator, own, lo, ro, f, hoperator, hown, ⟨hbinary, ⟨x, hx, hleft⟩, y, hy, hright⟩,
      rfl⟩
    obtain ⟨entries, hentries⟩ := Json.exists_entries_of_isKind hbinary
    refine ⟨hbinary, entries, hentries, ?_⟩
    refine (bindFields_cons_some_iff hentries hnull).mpr
      ⟨operator, own, own, hoperator, hown, Bindings.nil_merge (distinct_bindings p hown), ?_⟩
    refine (bindFields_cons_some_iff hentries (refusesNull_fieldOf l "field")).mpr
      ⟨x, _, _, hx, (fieldOf_iff hl).mpr ⟨lo, f, hleft, rfl⟩, hfirst (hnames _ _ hown), ?_⟩
    refine (bindFields_cons_some_iff hentries (refusesNull_fieldOf r "field")).mpr
      ⟨y, _, _, hy, (fieldOf_iff hr).mpr ⟨ro, f, hright, rfl⟩, ?_, rfl⟩
    rw [← hnames _ _ hown] at hdistinct
    exact (merge_fieldOf_eq_matched_iff hdistinct).mpr ⟨rfl, rfl⟩

theorem compare_iff {operators : List String} {name l r : String}
    (hdistinct : [name, l, "field", r].Nodup) :
    (compare operators name l r).bindings v = .matched bs ↔
      ∃ operator left right field, operator ∈ operators ∧ v.Compares operator left right field ∧
        bs = [(name, .string operator), (l, .ofName left), ("field", .string field),
          (r, .ofName right)] := by
  have hnull : ((textIn operators).captured name).RefusesNull := refusesNull_capture_satisfies rfl
  have hnames : ∀ w own, ((textIn operators).captured name).bindings w = .matched own →
      own.map Prod.fst = [name] := by
    intro w own h
    obtain ⟨-, rfl⟩ := capture_satisfies_iff.mp h
    rfl
  rw [compare, operands_iff hnull hnames hdistinct]
  constructor
  · rintro ⟨w, own, lo, ro, f, hw, hown, hoperands, rfl⟩
    obtain ⟨htest, rfl⟩ := capture_satisfies_iff.mp hown
    cases w with
    | string operator =>
      refine ⟨operator, lo, ro, f, ?_, ⟨hoperands, hw⟩, rfl⟩
      simpa [Json.asString?] using htest
    | _ => cases htest
  · rintro ⟨operator, lo, ro, f, hmem, ⟨hoperands, hoperator⟩, rfl⟩
    refine ⟨_, _, lo, ro, f, hoperator, capture_satisfies_iff.mpr ⟨?_, rfl⟩, hoperands, rfl⟩
    simpa [Json.asString?] using hmem

theorem twoParams_iff {a b : String} (hne : a ≠ b) :
    (twoParams a b).bindings v = .matched bs ↔
      ∃ x y, v = .array [x, y] ∧ x.unparen.isKind Kind.identifier = true ∧
        y.unparen.isKind Kind.identifier = true ∧
          bs = [(a, .ofName x.identName?), (b, .ofName y.identName?)] := by
  have hmerge : ∀ x y : Json, Bindings.merge [(a, x)] [(b, y)] = .matched [(a, x), (b, y)] := by
    intro x y
    exact Bindings.merge_of_distinct_append (by simp [Bindings.Distinct, hne])
  rw [twoParams, seq_iff]
  constructor
  · rintro ⟨_, rfl, h⟩
    obtain ⟨x, _, first, mid, rfl, hfirst, hmid, h⟩ := bindSlots_one_iff.mp h
    obtain ⟨hx, rfl⟩ := identifierAs_iff.mp hfirst
    cases hmid
    obtain ⟨y, _, second, mid, rfl, hsecond, hmid, h⟩ := bindSlots_one_iff.mp h
    obtain ⟨hy, rfl⟩ := identifierAs_iff.mp hsecond
    rw [List.nil_append, hmerge] at hmid
    cases hmid
    obtain ⟨rfl, rfl⟩ := bindSlots_nil_iff.mp h
    exact ⟨x, y, rfl, hx, hy, rfl⟩
  · rintro ⟨x, y, rfl, hx, hy, rfl⟩
    refine ⟨[x, y], rfl, bindSlots_one_iff.mpr ⟨x, [y], _, _, rfl,
      identifierAs_iff.mpr ⟨hx, rfl⟩, rfl, ?_⟩⟩
    exact bindSlots_one_iff.mpr ⟨y, [], _, _, rfl, identifierAs_iff.mpr ⟨hy, rfl⟩, hmerge _ _, rfl⟩

/-! ## Matching functions -/

theorem orNull_eq_array_iff {o : Option Json} {items : List Json} :
    Json.orNull o = .array items ↔ o.bind Json.asArray? = some items := by
  cases o with
  | none => simp [Json.orNull]
  | some w => cases w <;> simp [Json.orNull, Json.asArray?]

/-- A body matches by what it gives back. -/
theorem returned_iff {p : Pattern} :
    (returned p).bindings v = .matched bs ↔
      ∃ e, v.returned? = some e ∧ p.bindings e = .matched bs := by
  rw [returned, oneOf_pair_iff, satisfies_and_iff, node_singleton_iff, seq_singleton_iff]
  by_cases hblock : v.unparen.isKind Kind.block = true
  · -- A block is refused as an expression, so its only statement decides.
    have hfirst : ∀ own, ((satisfies "expected an expression body" fun v ↦
        !v.unparen.isKind Kind.block).and p).bindings v ≠ .matched own := by
      intro own h
      rw [satisfies_and_iff, hblock] at h
      exact Bool.false_ne_true h.1
    rw [Json.returned?, if_pos hblock, hblock]
    constructor
    · rintro (⟨h, -⟩ | ⟨-, -, s, hs, hp⟩)
      · cases h
      · rw [node_singleton_iff] at hp
        rw [orNull_eq_array_iff.mp hs]
        exact ⟨_, if_pos hp.1, hp.2⟩
    · rintro ⟨e, he, hp⟩
      refine Or.inr ⟨hfirst, rfl, ?_⟩
      split at he
      · next s hs =>
        rw [Option.ite_none_right_eq_some] at he
        obtain ⟨hs', he⟩ := he
        cases he
        exact ⟨s, orNull_eq_array_iff.mpr hs, node_singleton_iff.mpr ⟨hs', hp⟩⟩
      · cases he
  · rw [Json.returned?, if_neg hblock]
    simp [hblock]

/-- A function matches by its parameters and by what it gives back. -/
theorem function_iff {params p : Pattern} :
    (function params p).bindings v = .matched bs ↔
      v.isFunction = true ∧ ∃ own e given,
        params.bindings (.orNull (v.field? "params")) = .matched own ∧
          Json.returned? (.orNull (v.field? "body")) = some e ∧ p.bindings e = .matched given ∧
            own.merge given = .matched bs := by
  have hfields : ∀ {kind : String}, v.unparen.isKind kind = true →
      ((node kind [("params", params), ("body", returned p)]).bindings v = .matched bs ↔
        ∃ own e given, params.bindings (.orNull (v.field? "params")) = .matched own ∧
          Json.returned? (.orNull (v.field? "body")) = some e ∧ p.bindings e = .matched given ∧
            own.merge given = .matched bs) := by
    intro kind hkind
    obtain ⟨entries, hentries⟩ := Json.exists_entries_of_isKind hkind
    rw [node_iff]
    constructor
    · rintro ⟨-, _, hentries', h⟩
      obtain ⟨own, mid, hown, hmid, h⟩ := (bindFields_cons_iff hentries').mp h
      rw [Bindings.nil_merge (distinct_bindings params hown)] at hmid
      cases hmid
      obtain ⟨given, mid, hgiven, hmid, h⟩ := (bindFields_cons_iff hentries').mp h
      cases h
      obtain ⟨e, he, hp⟩ := returned_iff.mp hgiven
      exact ⟨own, e, given, hown, he, hp, hmid⟩
    · rintro ⟨own, e, given, hown, he, hp, hmerge⟩
      have hnil := Bindings.nil_merge (distinct_bindings params hown)
      exact ⟨hkind, entries, hentries, (bindFields_cons_iff hentries).mpr ⟨own, own, hown, hnil,
        (bindFields_cons_iff hentries).mpr ⟨given, bs, returned_iff.mpr ⟨e, he, hp⟩, hmerge, rfl⟩⟩⟩
  rw [function, oneOf_pair_iff, Json.isFunction, Bool.or_eq_true]
  constructor
  · rintro (h | ⟨-, h⟩)
    · have hkind := (node_iff.mp h).1
      exact ⟨Or.inl hkind, (hfields hkind).mp h⟩
    · have hkind := (node_iff.mp h).1
      exact ⟨Or.inr hkind, (hfields hkind).mp h⟩
  · rintro ⟨hkind | hkind, h⟩
    · exact Or.inl ((hfields hkind).mpr h)
    · refine Or.inr ⟨fun own harrow ↦ ?_, (hfields hkind).mpr h⟩
      have harrow := (node_iff.mp harrow).1
      rw [Json.isKind_iff] at harrow hkind
      exact absurd (harrow.symm.trans hkind) (by decide)

end Shapes

end FluentQuery
