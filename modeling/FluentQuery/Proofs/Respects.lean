import FluentQuery.Operation.Standard
import FluentQuery.Proofs.Alike

/-!
# The patterns and rules in use respect likeness

Every pattern in use is built from tests on kinds and names and from captures of nodes, names and
numbers, and so it respects likeness. What is read from the bindings of alike nodes is then the
same: texts are equal, numbers are equal up to the sign of zero, and lists are alike item by item.
The rules for declarations and comparators look at nothing else, and give the same for alike nodes.
-/

namespace FluentQuery

open Pattern Shapes

variable {e : Enclosure}

/-! ## Patterns in use -/

namespace Pattern

variable {R : Json → Json → Prop}

theorem computeRespects_none : ComputeRespects e R none := by
  intro f hf
  cases hf

theorem computeRespects_some {f : Json → Json} (h : ∀ a b, Alike e a b → R (f a) (f b)) :
    ComputeRespects e R (some f) := by
  intro g hg a b hab
  cases hg
  exact h a b hab

theorem respects_bound (name : String) : (bound name).Respects e R := computeRespects_none

theorem allRespect_append {parts : List Pattern} {p : Pattern} (hparts : AllRespect e R parts)
    (hp : p.Respects e R) : AllRespect e R (parts ++ [p]) := by
  induction parts with
  | nil => exact ⟨hp, trivial⟩
  | cons q rest ih => exact ⟨hparts.1, ih hparts.2⟩

theorem Respects.and {p q : Pattern} (hp : p.Respects e R) (hq : q.Respects e R) :
    (p.and q).Respects e R := by
  cases p with
  | all parts => exact allRespect_append hp hq
  | _ => exact ⟨hp, hq, trivial⟩

theorem respects_kind (kind : String) : (Pattern.kind kind).Respects e R :=
  fun _ _ h ↦ h.isKind_unparen kind

theorem respects_node {kind : String} {fields : List (String × Pattern)}
    (h : FieldsRespect e R fields) : (node kind fields).Respects e R :=
  (respects_kind kind).and h

theorem alike_text {x y : Option String} (h : x = y) :
    Alike e (.orNull (x.map .string)) (.orNull (y.map .string)) := by
  subst h
  cases x <;> exact .refl rfl

theorem respects_identifierAs (name : String) : (identifierAs name).Respects e (Alike e) :=
  ⟨respects_kind _, computeRespects_some fun _ _ h ↦ alike_text h.identName?⟩

theorem respects_memberAs {object : Pattern} (h : object.Respects e (Alike e)) (name : String) :
    (memberAs object name).Respects e (Alike e) := by
  have hmember : (node Kind.member [("object", object)]).Respects e (Alike e) :=
    respects_node ⟨rfl, by decide, h, trivial⟩
  exact hmember.and ⟨fun _ _ hab ↦ congrArg Option.isSome hab.staticProperty?,
    computeRespects_some fun _ _ hab ↦ alike_text hab.staticProperty?⟩

theorem respects_memberNamed {object : Pattern} (h : object.Respects e (Alike e)) (name : String) :
    (memberNamed object name).Respects e (Alike e) := by
  have hmember : (node Kind.member [("object", object)]).Respects e (Alike e) :=
    respects_node ⟨rfl, by decide, h, trivial⟩
  exact hmember.and fun _ _ hab ↦ congrArg (· == some name) hab.staticProperty?

theorem respects_numberAs (name : String) : (numberAs name).Respects e (Alike e) := by
  refine ⟨fun a b h ↦ ?_, computeRespects_some fun a b h ↦ ?_⟩
  · have hnumber := congrArg Option.isSome h.number?
    rwa [Option.isSome_map, Option.isSome_map] at hnumber
  · have hrel := rel_of_map_eq h.number?
    generalize a.number? = x at hrel ⊢
    generalize b.number? = y at hrel ⊢
    cases hrel with
    | none => exact .refl rfl
    | some hzero => exact ⟨congrArg (fun z ↦ Json.number (.real z)) hzero, rfl, rfl⟩

theorem respects_stringAs (name : String) : (stringAs name).Respects e (Alike e) :=
  ⟨fun _ _ h ↦ congrArg Option.isSome h.string?,
    computeRespects_some fun _ _ h ↦ alike_text h.string?⟩

theorem respects_textIn (options : List String) (name : String) :
    ((textIn options).captured name).Respects e (Alike e) :=
  ⟨fun _ _ h ↦ congrArg (Option.any options.contains) h.asString?, computeRespects_none⟩

theorem respects_tag (name : String) (v : Json) (hv : v.encloses e.test = true) :
    (tag name v).Respects e (Alike e) :=
  ⟨trivial, computeRespects_some fun _ _ _ ↦ .refl hv⟩

theorem respects_returned {body : Pattern} (h : body.Respects e (Alike e)) :
    (returned body).Respects e (Alike e) := by
  have hexpression : (satisfies "expected an expression body" fun v ↦
      !v.unparen.isKind Kind.block).Respects e (Alike e) :=
    fun _ _ hab ↦ congrArg not (hab.isKind_unparen Kind.block)
  have hreturn : (node Kind.returned [("argument", body)]).Respects e (Alike e) :=
    respects_node ⟨rfl, by decide, h, trivial⟩
  exact ⟨hexpression.and h, respects_node ⟨rfl, by decide, ⟨hreturn, trivial⟩, trivial⟩, trivial⟩

theorem respects_function {params body : Pattern} (hparams : params.Respects e (Alike e))
    (hbody : body.Respects e (Alike e)) : (function params body).Respects e (Alike e) := by
  have hfields : FieldsRespect e (Alike e) [("params", params), ("body", returned body)] :=
    ⟨rfl, by decide, hparams, rfl, by decide, respects_returned hbody, trivial⟩
  exact ⟨respects_node hfields, respects_node hfields, trivial⟩

theorem respects_oneParam (name : String) : (oneParam name).Respects e (Alike e) :=
  ⟨respects_identifierAs name, trivial⟩

theorem respects_twoParams (first second : String) :
    (twoParams first second).Respects e (Alike e) :=
  ⟨respects_identifierAs first, respects_identifierAs second, trivial⟩

theorem respects_fieldOf (object property : String) :
    (fieldOf object property).Respects e (Alike e) :=
  respects_memberAs (respects_identifierAs object) property

theorem respects_compare (operators : List String) (operator left right : String) :
    (compare operators operator left right).Respects e (Alike e) :=
  respects_node ⟨rfl, by decide, respects_textIn operators operator, rfl, by decide,
    respects_fieldOf left "field", rfl, by decide, respects_fieldOf right "field", trivial⟩

theorem respects_argumentsPattern {slots : List (Slot Pattern)}
    (h : SlotsRespect e (Alike e) slots) : (argumentsPattern slots).Respects e (Alike e) :=
  respects_node ⟨rfl, by decide, h, trivial⟩

theorem respects_callbackOf {body : Pattern} (h : body.Respects e (Alike e)) :
    (callbackOf body).Respects e (Alike e) :=
  respects_argumentsPattern ⟨respects_function (respects_oneParam _) h, trivial⟩

theorem respects_callback : callback.Respects e (Alike e) := respects_callbackOf (respects_bound _)

theorem respects_assigned {right : Pattern} (h : right.Respects e (Alike e)) :
    (assigned right).Respects e (Alike e) :=
  respects_node ⟨rfl, by decide, trivial, rfl, by decide, respects_bound _, rfl, by decide, h,
    trivial⟩

theorem respects_reassignedVia (method : String) : (reassignedVia method).Respects e (Alike e) :=
  respects_assigned (respects_node
    ⟨rfl, by decide, respects_memberNamed (respects_bound _) method, trivial⟩)

theorem respects_reassignedFrom : reassignedFrom.Respects e (Alike e) :=
  respects_assigned (respects_node
    ⟨rfl, by decide, respects_memberAs (respects_bound _) "method", trivial⟩)

theorem respects_appended : appended.Respects e (Alike e) :=
  respects_assigned (respects_node ⟨rfl, by decide,
    ⟨respects_node ⟨rfl, by decide, respects_bound _, trivial⟩, trivial, trivial⟩, trivial⟩)

theorem respects_updatedObject : updatedObject.Respects e (Alike e) :=
  respects_node ⟨rfl, by decide,
    ⟨respects_node ⟨rfl, by decide, respects_identifierAs _, trivial⟩, trivial, trivial⟩, trivial⟩

theorem respects_updateForms : ∀ form ∈ updateForms, form.pattern.Respects e (Alike e) := by
  have hconditional : conditionalUpdate.pattern.Respects e (Alike e) :=
    respects_node ⟨rfl, by decide, respects_bound _, rfl, by decide, respects_updatedObject, rfl,
      by decide, respects_identifierAs _, trivial⟩
  have hinverse : inverseUpdate.pattern.Respects e (Alike e) :=
    respects_node ⟨rfl, by decide, respects_bound _, rfl, by decide, respects_identifierAs _, rfl,
      by decide, respects_updatedObject, trivial⟩
  simp only [updateForms, List.forall_mem_cons, List.not_mem_nil, false_imp_iff, implies_true,
    and_true]
  exact ⟨hconditional, hinverse, respects_updatedObject⟩

/-- On alike values, a pattern in use binds alike values. -/
theorem Respects.agree {p : Pattern} (hp : p.Respects e (Alike e)) {a b : Json} (h : Alike e a b) :
    Outcome.Agree (Bindings.Related (Alike e)) (p.bindings a) (p.bindings b) :=
  agree_bindings (fun _ _ ↦ id) (fun _ _ ↦ Alike.plain_eq) p hp h

end Pattern

/-! ## What is read from bindings -/

/-- A reader that cannot tell alike values apart reads the same from optional ones. -/
theorem bind_eq_of_rel {α : Type} {x y : Option Json} {f : Json → Option α}
    (h : Option.Rel (Alike e) x y) (hf : ∀ a b, Alike e a b → f a = f b) : x.bind f = y.bind f := by
  cases h with
  | some hab => exact hf _ _ hab
  | none => rfl

theorem map_plain_eq_of_rel {x y : Option Json} (h : Option.Rel (Alike e) x y) :
    x.map Json.plain = y.map Json.plain := by
  cases h with
  | some hab => exact congrArg some hab.plain_eq
  | none => rfl

theorem map_plain_eq_of_forall₂ {xs ys : List Json} (h : List.Forall₂ (Alike e) xs ys) :
    xs.map Json.plain = ys.map Json.plain := by
  induction h with
  | nil => rfl
  | cons hab _ ih => rw [List.map_cons, List.map_cons, hab.plain_eq, ih]

namespace Binary64

@[simp] theorem units_unsignedZero (x : Binary64) : x.unsignedZero.units = x.units := by
  by_cases h : x.units = 0 <;> simp [unsignedZero, h]

@[simp] theorem value_unsignedZero (x : Binary64) : x.unsignedZero.value = x.value := by
  by_cases h : x.units = 0 <;> simp [unsignedZero, value, h]

end Binary64

namespace Bindings.Related

variable {bs bs' : Bindings}

theorem string?_eq (h : Related (Alike e) bs bs') (name : String) :
    bs.string? name = bs'.string? name :=
  bind_eq_of_rel (h.get? name) fun _ _ ↦ Alike.asString?

/-- A number is read up to the sign of zero, which shows neither in its units nor in its value. -/
theorem number?_eq (h : Related (Alike e) bs bs') (name : String) :
    Option.Rel (fun x y : Binary64 ↦ x.units = y.units ∧ x.value = y.value) (bs.number? name)
      (bs'.number? name) := by
  have hmap : (bs.number? name).map Binary64.unsignedZero =
      (bs'.number? name).map Binary64.unsignedZero := by
    rw [number?, number?, Option.map_bind, Option.map_bind]
    exact bind_eq_of_rel (h.get? name) fun _ _ ↦ Alike.asBinary64?
  have hrel := rel_of_map_eq hmap
  generalize bs.number? name = x at hrel ⊢
  generalize bs'.number? name = y at hrel ⊢
  cases hrel with
  | none => exact .none
  | @some a b hab =>
    refine .some ⟨?_, ?_⟩
    · rw [← a.units_unsignedZero, hab, b.units_unsignedZero]
    · rw [← a.value_unsignedZero, hab, b.value_unsignedZero]

/-- The items of a list that is bound to a name. -/
theorem items (h : Related (Alike e) bs bs') (name : String) :
    List.Forall₂ (Alike e) (((bs.get? name).bind Json.asArray?).getD [])
      (((bs'.get? name).bind Json.asArray?).getD []) := by
  have hget := h.get? name
  generalize bs.get? name = x at hget ⊢
  generalize bs'.get? name = y at hget ⊢
  cases hget with
  | none => exact .nil
  | @some v w hvw =>
    have harray := hvw.asArray?
    rw [Option.bind_some, Option.bind_some]
    generalize v.asArray? = xs at harray ⊢
    generalize w.asArray? = ys at harray ⊢
    cases harray with
    | none => exact .nil
    | some hitems => exact hitems

end Bindings.Related

/-! ## Rules -/

namespace Rule

variable {C T : Type} {S : T → T → Prop} {context : C}

/-- A rule makes related things of alike values. -/
structure Respects (e : Enclosure) (S : T → T → Prop) (context : C) (rule : Rule C T) : Prop where
  pattern : rule.pattern.Respects e (Alike e)
  build : ∀ bs bs' v v', Bindings.Related (Alike e) bs bs' →
    Outcome.Agree S (rule.build context ⟨bs, v⟩) (rule.build context ⟨bs', v'⟩)

theorem Respects.apply {rule : Rule C T} (hrule : rule.Respects e S context) {a b : Json}
    (h : Alike e a b) : Outcome.Agree S (rule.apply context a) (rule.apply context b) := by
  rw [Rule.apply, Rule.apply]
  refine (hrule.pattern.agree h).map (S := fun m m' : Matched ↦
    Bindings.Related (Alike e) m.bindings m'.bindings) (fun _ _ hm ↦ hm) |>.bind fun m m' hm ↦ ?_
  exact hrule.build m.bindings m'.bindings m.value m'.value hm

/-- The first rule that applies is the same on alike values, and makes related things of them. -/
theorem agree_firstOf {rules : List (Rule C T)} (hrules : ∀ rule ∈ rules, rule.Respects e S context)
    {a b : Json} (h : Alike e a b) :
    Outcome.Agree S (firstOf rules context a) (firstOf rules context b) := by
  have hfrom : ∀ refused refused' : List Skip, Outcome.Agree S (firstFrom context a rules refused)
      (firstFrom context b rules refused') := by
    induction rules with
    | nil => exact fun refused refused' ↦ .skip _ _
    | cons rule rest ih =>
      intro refused refused'
      obtain ⟨hrule, hrest⟩ := List.forall_mem_cons.mp hrules
      rw [firstFrom, firstFrom]
      have happly := hrule.apply h
      generalize rule.apply context a = x at happly ⊢
      generalize rule.apply context b = y at happly ⊢
      cases happly with
      | matched hS => exact .matched hS
      | skip why why' => exact ih hrest _ _
  exact hfrom [] []

end Rule

/-! ## Declarations -/

theorem Roots.agree_declaration {a b : Json} (h : Alike e a b) (roots : Roots) :
    Outcome.Agree Eq (roots.declaration a) (roots.declaration b) := by
  refine Rule.Respects.apply ⟨?_, ?_⟩ h
  · exact respects_node ⟨rfl, by decide, respects_identifierAs _, rfl, by decide,
      respects_node ⟨rfl, by decide, respects_identifierAs _, rfl, by decide,
        ⟨respects_stringAs _, respects_stringAs _, trivial⟩, trivial⟩, trivial⟩
  · intro bs bs' v v' hbs
    refine .of_eq ?_
    simp only [declarationRule, hbs.string?_eq]

/-! ## Comparators -/

namespace Comparator

variable {m m' : Bindings}

theorem operandOrder_eq (h : m.Related (Alike e) m') : operandOrder m = operandOrder m' := by
  simp only [operandOrder, h.string?_eq]

theorem operatorSign_eq (h : m.Related (Alike e) m') (name : String) :
    operatorSign m name = operatorSign m' name := by
  rw [operatorSign, operatorSign, h.string?_eq]

theorem literalSign_eq (h : m.Related (Alike e) m') (name : String) :
    literalSign m name = literalSign m' name := by
  rw [literalSign, literalSign]
  have hnumber := h.number?_eq name
  generalize m.number? name = x at hnumber ⊢
  generalize m'.number? name = y at hnumber ⊢
  cases hnumber with
  | none => rfl
  | some hvalue => exact congrArg Int.sign hvalue.2

theorem sortKey_eq (h : m.Related (Alike e) m') (sign : Int) :
    sortKey m sign = sortKey m' sign := by
  rw [sortKey, sortKey, h.string?_eq]

theorem respects_difference : difference.Respects e (Alike e) :=
  respects_node ⟨rfl, by decide, trivial, rfl, by decide, respects_fieldOf _ _, rfl, by decide,
    respects_fieldOf _ _, trivial⟩

theorem respects_relationalRule : relationalRule.Respects e Eq () where
  pattern := respects_function (respects_twoParams _ _) (respects_compare _ _ _ _)
  build := by
    intro bs bs' v v' h
    refine .of_eq ?_
    simp only [relationalRule, operandOrder_eq h, operatorSign_eq h, sortKey_eq h]

theorem respects_ternaryRule : ternaryRule.Respects e Eq () where
  pattern := by
    refine respects_function (respects_twoParams _ _) (respects_node ?_)
    refine ⟨rfl, by decide, respects_compare _ _ _ _, rfl, by decide, respects_numberAs _, rfl,
      by decide, respects_node ?_, trivial⟩
    exact ⟨rfl, by decide, respects_compare _ _ _ _, rfl, by decide, respects_numberAs _, rfl,
      by decide, respects_numberAs _, trivial⟩
  build := by
    intro bs bs' v v' h
    refine .of_eq ?_
    simp only [ternaryRule, operandOrder_eq h, operatorSign_eq h, literalSign_eq h, sortKey_eq h]

theorem respects_subtractionRule : subtractionRule.Respects e Eq () where
  pattern := by
    have hnegated : (node Kind.unary [("operator", .literal (.string "-")),
        ("argument", difference)]).Respects e (Alike e) :=
      respects_node ⟨rfl, by decide, trivial, rfl, by decide, respects_difference, trivial⟩
    exact respects_function (respects_twoParams _ _)
      ⟨respects_difference.and (respects_tag _ _ rfl), hnegated.and (respects_tag _ _ rfl), trivial⟩
  build := by
    intro bs bs' v v' h
    have hnegated : (bs.get? "negated").bind Json.asBool? =
        (bs'.get? "negated").bind Json.asBool? :=
      bind_eq_of_rel (h.get? _) fun _ _ ↦ Alike.asBool?
    refine .of_eq ?_
    simp only [subtractionRule, operandOrder_eq h, hnegated, sortKey_eq h]

/-- Alike comparators sort alike. -/
theorem agree_normalize {a b : Json} (h : Alike e a b) :
    Outcome.Agree Eq (normalize a) (normalize b) := by
  refine Rule.agree_firstOf (fun rule hrule ↦ ?_) h
  simp only [rules, List.mem_cons, List.not_mem_nil, or_false] at hrule
  rcases hrule with rfl | rfl | rfl
  · exact respects_relationalRule
  · exact respects_ternaryRule
  · exact respects_subtractionRule

end Comparator

end FluentQuery
