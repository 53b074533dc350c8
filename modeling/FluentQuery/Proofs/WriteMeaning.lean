import FluentQuery.Proofs.Plain
import FluentQuery.Proofs.Reassign
import Mathlib.Data.List.Forall2

/-!
# What writes mean

An assignment to a collection has a meaning of its own, without any notion of a change: the
collection holds some documents, the right side is evaluated, and the collection holds what comes
out. A recognized change has to leave the same documents. Both meanings are given here over any
evaluator of expressions, of which only two laws are assumed: parentheses do not matter, and `!`
turns truth around.

The change that is reported for an update assigns the values of the overridden properties. For a
property that is written as `name: value` this is what an object literal does. An accessor, as in
`{...x, get total() { … }}`, has the entries of such a property as well, but its value is the
function to be called and not what is read from the object. It is accepted all the same, so the
meaning is kept exactly for updates without accessors. -/

namespace FluentQuery

open Pattern

/-! ## Expressions -/

/-- What expressions mean, over some documents and values. -/
structure Evaluator (Doc Val : Type) where
  /-- The value of an expression in a callback, given the document that its parameter is bound to.
  -/
  value : Json → Doc → Val
  /-- Whether a value counts as true. -/
  truthy : Val → Bool
  /-- A document with a property set, as by `name: value` in an object literal. -/
  assign : Doc → String → Val → Doc
  /-- A document with an accessor defined, given the document that the parameter is bound to. -/
  define : Doc → Json → Doc → Doc
  /-- The document that an expression outside of callbacks stands for. -/
  document : Json → Doc
  /-- The documents that the argument of a spread stands for. -/
  spread : Json → List Doc
  /-- What stands for a hole in an array literal. -/
  hole : Doc
  /-- Parentheses do not matter. -/
  value_unparen : ∀ e d, value e.unparen d = value e d
  /-- A negation is true if its argument is not. -/
  truthy_not : ∀ e argument d, e.isKind Kind.unary = true →
    (e.get? "operator").bind Json.asString? = some "!" → e.field? "argument" = some argument →
      truthy (value e d) = !truthy (value argument d)

/-- Whether a property of an object literal is an accessor. -/
def Json.isAccessor (property : Json) : Bool :=
  match (property.unparen.get? "kind").bind asString? with
  | some kind => kind == "get" || kind == "set"
  | none => false

/-- Whether an accessor is among the properties of an object literal, or of an object literal that
is a branch of a conditional. -/
def Json.definesAccessor (e : Json) : Bool :=
  (e :: ((e.field? "consequent").toList ++ (e.field? "alternate").toList)).any fun literal ↦
    (((literal.field? "properties").bind asArray?).getD []).any isAccessor

theorem Json.isAccessor_eq_false {e literal : Json} (h : e.definesAccessor = false)
    (hliteral : literal ∈ e :: ((e.field? "consequent").toList ++ (e.field? "alternate").toList))
    {object : Option String} {overrides : List Json}
    (hoverrides : literal.Overrides object overrides) :
    ∀ p ∈ overrides, p.isAccessor = false := by
  intro p hp
  obtain ⟨first, argument, hproperties, -⟩ := hoverrides.properties
  rw [definesAccessor, List.any_eq_false] at h
  have hnone := h literal hliteral
  rw [hproperties, Option.getD_some, Bool.not_eq_true, List.any_eq_false] at hnone
  exact Bool.eq_false_iff.mpr (hnone p (List.mem_cons_of_mem _ hp))

namespace Evaluator

variable {Doc Val : Type} (E : Evaluator Doc Val)

/-- What overrides in an object literal make of a document, with the parameter bound to another one.
Only properties are given a meaning. -/
def overridden? (d : Doc) : List Json → Doc → Option Doc
  | [], o => some o
  | property :: rest, o =>
    if property.unparen.isKind Kind.property then
      if property.isAccessor then overridden? d rest (E.define d property o)
      else
        match property.staticProperty?, property.field? "value" with
        | some name, some v => overridden? d rest (E.assign o name (E.value v d))
        | _, _ => none
    else none

/-- The document that an expression gives, with a parameter bound to a document: this document, or
one made from it by an object literal, or what a branch gives. -/
inductive Gives (param : String) (d : Doc) : Json → Doc → Prop
  | parameter {e : Json} (hname : e.identName? = some param) : Gives param d e d
  | object {e : Json} {overrides : List Json} {o : Doc}
      (hliteral : e.Overrides (some param) overrides)
      (hoverrides : E.overridden? d overrides d = some o) : Gives param d e o
  | conditional {e test consequent alternate : Json} {o : Doc}
      (hchooses : e.Chooses test consequent alternate)
      (hbranch : Gives param d (if E.truthy (E.value test d) then consequent else alternate) o) :
      Gives param d e o

/-- The documents that an element of an array literal stands for. -/
def elements (element : Json) : List Doc :=
  if element = .null then [E.hole]
  else if element.unparen.isKind Kind.spread then E.spread (.orNull (element.field? "argument"))
  else [E.document element]

/-! ## Assignments and changes -/

/-- What an assignment leaves in the collection that it is to, given what the collection holds
before. The collection is read where the right side has the same expression as the target. -/
inductive Leaves (before : List Doc) (node : Json) : List Doc → Prop
  /-- `c = [...c, elements]` -/
  | append {target right first : Json} {rest : List Json} (hassigns : node.Assigns target right)
      (harray : right.unparen.isKind Kind.array = true)
      (helements : (right.field? "elements").bind Json.asArray? = some (first :: rest))
      (hspread : first.unparen.isKind Kind.spread = true)
      (hsame : Json.sameNode target (.orNull (first.field? "argument")) = true) :
      Leaves before node (before ++ rest.flatMap E.elements)
  /-- `c = c.filter(param => result)` -/
  | filter {target right object result : Json} {param : Option String}
      (hassigns : node.Assigns target right) (hcalls : right.Calls object "filter")
      (hsame : Json.sameNode target object = true) (hcallback : right.CallsBack param result) :
      Leaves before node (before.filter fun d ↦ E.truthy (E.value result d))
  /-- `c = c.map(param => result)` -/
  | map {target right object result : Json} {param : Option String} {after : List Doc}
      (hassigns : node.Assigns target right) (hcalls : right.Calls object "map")
      (hsame : Json.sameNode target object = true) (hcallback : right.CallsBack param result)
      (hafter : List.Forall₂ (fun d o ↦ E.Gives (param.getD "") d result o) before after) :
      Leaves before node after

/-- A document with some properties set one after the other. The values are those on another
document. -/
def set (d : Doc) (changes : List (String × Json)) (o : Doc) : Doc :=
  changes.foldl (fun o change ↦ E.assign o change.1 (E.value change.2 d)) o

/-- What a change makes of the documents of a collection. -/
def apply : ModOp → List Doc → List Doc
  | .insert values, docs => docs ++ values.map E.document
  | .remove predicate, docs => docs.filter fun d ↦ !E.truthy (E.value predicate d)
  | .update changes predicate, docs => docs.map fun d ↦
      if predicate.all fun p ↦ E.truthy (E.value p d) then E.set d changes d else d

/-! ## The meanings are unique -/

variable {E}

theorem Gives.unique {param : String} {d o o' : Doc} {e : Json} (h : E.Gives param d e o)
    (h' : E.Gives param d e o') : o = o' := by
  -- The kind of the expression says how its document comes about.
  induction h with
  | parameter hname =>
    have hkind := Json.isKind_of_identName? hname
    cases h' with
    | parameter _ => rfl
    | object hliteral _ => exact absurd (Json.isKind_unique hkind hliteral.literal) (by decide)
    | conditional hchooses _ =>
      exact absurd (Json.isKind_unique hkind hchooses.conditional) (by decide)
  | object hliteral hoverrides =>
    cases h' with
    | parameter hname =>
      have hkind := Json.isKind_of_identName? hname
      exact absurd (Json.isKind_unique hkind hliteral.literal) (by decide)
    | object hliteral' hoverrides' =>
      cases hliteral.unique hliteral'
      exact Option.some.inj (hoverrides.symm.trans hoverrides')
    | conditional hchooses _ =>
      exact absurd (Json.isKind_unique hliteral.literal hchooses.conditional) (by decide)
  | conditional hchooses _ ih =>
    cases h' with
    | parameter hname =>
      have hkind := Json.isKind_of_identName? hname
      exact absurd (Json.isKind_unique hkind hchooses.conditional) (by decide)
    | object hliteral _ =>
      exact absurd (Json.isKind_unique hliteral.literal hchooses.conditional) (by decide)
    | conditional hchooses' hbranch' =>
      cases hchooses.test.symm.trans hchooses'.test
      cases hchooses.consequent.symm.trans hchooses'.consequent
      cases hchooses.alternate.symm.trans hchooses'.alternate
      exact ih hbranch'

theorem Leaves.unique {before after after' : List Doc} {node : Json}
    (h : E.Leaves before node after)
    (h' : E.Leaves before node after') : after = after' := by
  cases h with
  | append hassigns harray helements _ _ =>
    cases h' with
    | append hassigns' _ helements' _ _ =>
      obtain ⟨rfl, rfl⟩ := hassigns.unique hassigns'
      cases helements.symm.trans helements'
      rfl
    | filter hassigns' hcalls' _ _ =>
      obtain ⟨rfl, rfl⟩ := hassigns.unique hassigns'
      exact absurd (Json.isKind_unique harray hcalls'.call) (by decide)
    | map hassigns' hcalls' _ _ _ =>
      obtain ⟨rfl, rfl⟩ := hassigns.unique hassigns'
      exact absurd (Json.isKind_unique harray hcalls'.call) (by decide)
  | filter hassigns hcalls _ hcallback =>
    cases h' with
    | append hassigns' harray' _ _ _ =>
      obtain ⟨rfl, rfl⟩ := hassigns.unique hassigns'
      exact absurd (Json.isKind_unique harray' hcalls.call) (by decide)
    | filter hassigns' _ _ hcallback' =>
      obtain ⟨rfl, rfl⟩ := hassigns.unique hassigns'
      obtain ⟨rfl, rfl⟩ := hcallback.unique hcallback'
      rfl
    | map hassigns' hcalls' _ _ _ =>
      obtain ⟨rfl, rfl⟩ := hassigns.unique hassigns'
      exact absurd (hcalls.unique hcalls').2 (by decide)
  | map hassigns hcalls _ hcallback hafter =>
    cases h' with
    | append hassigns' harray' _ _ _ =>
      obtain ⟨rfl, rfl⟩ := hassigns.unique hassigns'
      exact absurd (Json.isKind_unique harray' hcalls.call) (by decide)
    | filter hassigns' hcalls' _ _ =>
      obtain ⟨rfl, rfl⟩ := hassigns.unique hassigns'
      exact absurd (hcalls.unique hcalls').2 (by decide)
    | map hassigns' _ _ hcallback' hafter' =>
      obtain ⟨rfl, rfl⟩ := hassigns.unique hassigns'
      obtain ⟨rfl, rfl⟩ := hcallback.unique hcallback'
      exact Relator.RightUnique.forall₂ (fun _ _ _ ho ho' ↦ ho.unique ho') hafter hafter'

theorem leaves_unparen {before after : List Doc} {node : Json} :
    E.Leaves before node.unparen after ↔ E.Leaves before node after := by
  constructor
  · intro h
    cases h with
    | append hassigns harray helements hspread hsame =>
      exact .append (Json.assigns_unparen.mp hassigns) harray helements hspread hsame
    | filter hassigns hcalls hsame hcallback =>
      exact .filter (Json.assigns_unparen.mp hassigns) hcalls hsame hcallback
    | map hassigns hcalls hsame hcallback hafter =>
      exact .map (Json.assigns_unparen.mp hassigns) hcalls hsame hcallback hafter
  · intro h
    cases h with
    | append hassigns harray helements hspread hsame =>
      exact .append (Json.assigns_unparen.mpr hassigns) harray helements hspread hsame
    | filter hassigns hcalls hsame hcallback =>
      exact .filter (Json.assigns_unparen.mpr hassigns) hcalls hsame hcallback
    | map hassigns hcalls hsame hcallback hafter =>
      exact .map (Json.assigns_unparen.mpr hassigns) hcalls hsame hcallback hafter

/-! ## Negations -/

theorem truthy_negate (test : Json) (d : Doc) :
    E.truthy (E.value (negate test) d) = !E.truthy (E.value test d) := by
  have hunary : E.truthy (E.value (Tree.unary "!" test.unparen) d) =
      !E.truthy (E.value test d) := by
    rw [E.truthy_not _ test.unparen.unparen d rfl rfl rfl, E.value_unparen, E.value_unparen]
  rw [negate]
  split
  · next hnegation =>
    rw [Bool.and_eq_true, beq_iff_eq] at hnegation
    cases hargument : test.unparen.field? "argument" with
    | none => exact hunary
    | some argument =>
      rw [Option.getD_some, ← E.value_unparen test,
        E.truthy_not _ argument d hnegation.1 hnegation.2 hargument, Bool.not_not]
  · exact hunary

/-! ## Changes -/

/-- Properties that are read as pairs are set one after the other, unless there is an accessor. -/
theorem overridden?_of_changes {d : Doc} {overrides : List Json} {pairs : List (String × Json)}
    (h : changes overrides = .matched pairs) (hvalues : ∀ p ∈ overrides, p.isAccessor = false)
    (o : Doc) : E.overridden? d overrides o = some (E.set d pairs o) := by
  induction overrides generalizing pairs o with
  | nil =>
    cases h
    rfl
  | cons property rest ih =>
    obtain ⟨pair, hpair, h⟩ := Outcome.bind_eq_matched_iff.mp h
    obtain ⟨others, hothers, h⟩ := Outcome.bind_eq_matched_iff.mp h
    cases h
    obtain ⟨hkind, hname, hv⟩ := exists_of_change hpair
    obtain ⟨hproperty, hrest⟩ := List.forall_mem_cons.mp hvalues
    rw [overridden?, Json.unparen_of_isKind hkind (by decide), if_pos hkind, hproperty,
      if_neg Bool.false_ne_true, hname, hv]
    exact ih hothers hrest _

/-- The document that an object literal gives whose overrides are read as pairs. -/
theorem gives_set {param : String} {literal : Json} {overrides : List Json}
    {pairs : List (String × Json)} (hliteral : literal.Overrides (some param) overrides)
    (hpairs : changes overrides = .matched pairs)
    (hvalues : ∀ p ∈ overrides, p.isAccessor = false) (d : Doc) :
    E.Gives param d literal (E.set d pairs d) :=
  .object hliteral (overridden?_of_changes hpairs hvalues d)

/-- In each of the forms of updates, a body gives what the update makes of the document. -/
theorem gives_of_updateForms {param : String} {body : Json} {op : ModOp}
    (h : Rule.firstOf updateForms param body = .matched op)
    (hvalues : body.definesAccessor = false) :
    ∃ pairs predicate, op = .update pairs predicate ∧ ∀ d, E.Gives param d body
      (if predicate.all fun p ↦ E.truthy (E.value p d) then E.set d pairs d else d) := by
  obtain ⟨rule, hmem, happly⟩ := Rule.exists_of_firstFrom h
  obtain ⟨bs, hbs, hbuild⟩ := Rule.apply_eq_matched_iff.mp happly
  simp only [updateForms, List.mem_cons, List.not_mem_nil, or_false] at hmem
  rcases hmem with rfl | rfl | rfl
  · obtain ⟨test, consequent, alternate, object, overrides, hchooses, hliteral, -, hname, rfl⟩ :=
      exists_of_conditionalUpdate hbs
    obtain ⟨hobject, pairs, hpairs, rfl⟩ := exists_of_updateOf hbuild
    obtain rfl : object = some param := (Json.asString?_ofName object).symm.trans hobject
    have hnone := Json.isAccessor_eq_false hvalues (by simp [hchooses.consequent]) hliteral
    refine ⟨pairs, some test, rfl, fun d ↦ .conditional hchooses ?_⟩
    rw [Option.all_some]
    cases E.truthy (E.value test d) with
    | true => exact gives_set hliteral hpairs hnone d
    | false => exact .parameter hname
  · obtain ⟨test, consequent, alternate, object, overrides, hchooses, hliteral, -, hname, rfl⟩ :=
      exists_of_inverseUpdate hbs
    obtain ⟨hobject, pairs, hpairs, rfl⟩ := exists_of_updateOf hbuild
    obtain rfl : object = some param := (Json.asString?_ofName object).symm.trans hobject
    have hnone := Json.isAccessor_eq_false hvalues (by simp [hchooses.alternate]) hliteral
    refine ⟨pairs, some (negate test), rfl, fun d ↦ .conditional hchooses ?_⟩
    rw [Option.all_some, truthy_negate]
    cases E.truthy (E.value test d) with
    | true => exact .parameter hname
    | false => exact gives_set hliteral hpairs hnone d
  · obtain ⟨object, overrides, hliteral, rfl⟩ := updatedObject_iff.mp hbs
    obtain ⟨hobject, pairs, hpairs, rfl⟩ := exists_of_updateOf hbuild
    obtain rfl : object = some param := (Json.asString?_ofName object).symm.trans hobject
    have hnone := Json.isAccessor_eq_false hvalues List.mem_cons_self hliteral
    exact ⟨pairs, none, rfl, fun d ↦ gives_set hliteral hpairs hnone d⟩

/-! ## Whole assignments -/

theorem elements_of_isPlainValue {element : Json} (hplain : isPlainValue element = true)
    (hspread : element.unparen.isKind Kind.spread = true → element.isKind Kind.spread = true) :
    E.elements element = [E.document element] := by
  rw [isPlainValue, Bool.and_eq_true, bne_iff_ne, Bool.not_eq_true'] at hplain
  obtain ⟨hnull, hkind⟩ := hplain
  rw [elements, if_neg hnull, if_neg]
  intro h
  cases hkind.symm.trans (hspread h)

/-- An insert appends what the array literal has after the collection. -/
theorem leaves_of_insert {node : Json} {roots : Roots} {op : ModOp}
    (h : insertArguments node roots = .matched (.modification op))
    (hspread : ∀ right elements element, node.field? "right" = some right →
      (right.field? "elements").bind Json.asArray? = some elements → element ∈ elements →
        element.unparen.isKind Kind.spread = true → element.isKind Kind.spread = true)
    (before : List Doc) : E.Leaves before node (E.apply op before) := by
  obtain ⟨target, values, hbindings, hplain, hop⟩ := exists_of_insertArguments_appended h
  cases hop
  obtain ⟨target, right, first, values, hassigns, harray, helements, hfirst, hsame, hbs⟩ :=
    appended_iff.mp hbindings
  cases hbs
  have hflat : values.flatMap E.elements = values.map E.document := by
    rw [List.map_eq_flatMap]
    refine List.flatMap_congr fun element helement ↦ ?_
    exact elements_of_isPlainValue (List.all_eq_true.mp hplain element helement)
      (hspread right _ element hassigns.right helements (List.mem_cons_of_mem _ helement))
  rw [apply, ← hflat]
  exact .append hassigns harray helements hfirst hsame

/-- A removal keeps what its callback keeps. -/
theorem leaves_of_remove {node target right object : Json} {roots : Roots} {op : ModOp}
    (h : removeArguments node roots = .matched (.modification op))
    (hassigns : node.Assigns target right) (hcalls : right.Calls object "filter")
    (hsame : Json.sameNode target object = true) (before : List Doc) :
    E.Leaves before node (E.apply op before) := by
  obtain ⟨right', param, result, hright, hcallback, hop⟩ := exists_callback_of_removeArguments h
  cases hassigns.right.symm.trans hright
  cases hop
  have hkept : (fun d ↦ !E.truthy (E.value (negate result) d)) =
      fun d ↦ E.truthy (E.value result d) := by
    funext d
    rw [truthy_negate, Bool.not_not]
  rw [apply, hkept]
  exact .filter hassigns hcalls hsame hcallback

/-- An update makes of each document what its callback makes of it. -/
theorem leaves_of_update {node target right object : Json} {roots : Roots} {op : ModOp}
    (h : updateArguments node roots = .matched (.modification op))
    (hassigns : node.Assigns target right) (hcalls : right.Calls object "map")
    (hsame : Json.sameNode target object = true)
    (hvalues : ∀ param result, right.CallsBack param result → result.definesAccessor = false)
    (before : List Doc) : E.Leaves before node (E.apply op before) := by
  obtain ⟨right', param, result, op', hright, hcallback, hforms, hop⟩ :=
    exists_callback_of_updateArguments h
  cases hassigns.right.symm.trans hright
  cases hop
  obtain ⟨pairs, predicate, rfl, hgives⟩ := gives_of_updateForms hforms (hvalues _ _ hcallback)
  refine .map hassigns hcalls hsame hcallback ?_
  rw [apply, List.forall₂_map_right_iff]
  exact List.forall₂_same.mpr fun d _ ↦ hgives d

end Evaluator

/-- Whether parentheses enclose neither a spread nor a property. -/
def Json.enclosesNoPart (e : Json) : Bool :=
  e.encloses fun w ↦ !w.any fun v ↦ v.isKind Kind.spread || v.isKind Kind.property

theorem encloses_of_element {test : Option Json → Bool} {node right element : Json}
    {elements : List Json} (h : node.encloses test = true)
    (hright : node.field? "right" = some right)
    (helements : (right.field? "elements").bind Json.asArray? = some elements)
    (helement : element ∈ elements) : element.encloses test = true := by
  obtain ⟨list, hlist, hitems⟩ := Option.bind_eq_some_iff.mp helements
  have hencloses := Json.encloses_of_field? (Json.encloses_of_field? h rfl hright) rfl hlist
  cases list with
  | array items =>
    cases hitems
    exact Json.encloses_of_mem hencloses helement
  | _ => cases hitems

/-- **A recognized write means the assignment.** A change that is recognized in an assignment is to
the collection that the target denotes. Over every evaluator, and whatever documents the collection
holds, the assignment leaves exactly what the change makes of them, unless it is an update that
overrides by an accessor. -/
theorem recognize_leaves {Doc Val : Type} (E : Evaluator Doc Val) {roots : Roots} {limit : Nat}
    {node : Json} {op : ModOp} {source : Command}
    (h : (Recognizer.assignment.recognize roots limit node).verdict =
      .matched (.modification op source))
    (hparens : node.enclosesNoPart = true)
    (hvalues : ∀ right object param result, node.field? "right" = some right →
      right.Calls object "map" → right.CallsBack param result → result.definesAccessor = false) :
    ∃ target ref, node.field? "left" = some target ∧ Denotes roots target ref ∧
      source = .collection ref ∧
      ∀ before after : List Doc, E.Leaves before node after ↔ after = E.apply op before := by
  obtain ⟨write, target, ref, op', ⟨bs, hshape⟩, hleft, hdenotes, hextract, hcommand⟩ :=
    Write.exists_of_recognize h
  cases hcommand
  refine ⟨target, ref, hleft, hdenotes, rfl, fun before after ↦ ?_⟩
  have hleaves : E.Leaves before node.unparen (E.apply op before) := by
    cases write with
    | insert =>
      change insertArguments node.unparen roots = _ at hextract
      refine Evaluator.leaves_of_insert hextract ?_ before
      intro right elements element hright helements helement
      rw [Json.field?_unparen] at hright
      exact Json.isKind_of_unparen (encloses_of_element hparens hright helements helement)
        (by simp +contextual)
    | update =>
      change updateArguments node.unparen roots = _ at hextract
      obtain ⟨target', right, object, hassigns, hcalls, hsame, -⟩ := reassignedVia_iff.mp hshape
      refine Evaluator.leaves_of_update hextract hassigns hcalls hsame
        (fun param result hcallback ↦ ?_)
        before
      exact hvalues right object param result
        ((Json.field?_unparen node _).symm.trans hassigns.right)
        hcalls hcallback
    | remove =>
      change removeArguments node.unparen roots = _ at hextract
      obtain ⟨target', right, object, hassigns, hcalls, hsame, -⟩ := reassignedVia_iff.mp hshape
      exact Evaluator.leaves_of_remove hextract hassigns hcalls hsame before
  rw [← Evaluator.leaves_unparen]
  constructor
  · exact fun hafter ↦ hafter.unique hleaves
  · rintro rfl
    exact hleaves

/-! ## Accessors

A small evaluator in which only negations are looked at: any other expression counts as false. A
document is the list of its properties, each with whether it is read by a call. -/

namespace Json

mutual

/-- Whether an expression is an odd number of negations. -/
def isNegated : Json → Bool
  | .object entries =>
    if kindOf? entries = some Kind.parenthesized then negatedAt "expression" entries
    else if kindOf? entries = some Kind.unary ∧
        (find? "operator" entries).bind asString? = some "!" then
      !negatedAt "argument" entries
    else false
  | _ => false

/-- Whether the expression in an entry is an odd number of negations. -/
def negatedAt (key : String) : List (String × Json) → Bool
  | [] => false
  | (k, v) :: rest => if k = key then v.isNegated else negatedAt key rest

end

theorem negatedAt_eq (key : String) (entries : List (String × Json)) :
    negatedAt key entries = ((find? key entries).map isNegated).getD false := by
  induction entries with
  | nil => rfl
  | cons e rest ih =>
    obtain ⟨k, v⟩ := e
    by_cases hk : k = key <;> simp [negatedAt, find?_cons, hk, ih]

theorem isNegated_unparen (v : Json) : v.unparen.isNegated = v.isNegated := by
  induction v using wrapped_induction with
  | h v ih =>
    cases hwrapped : v.wrapped? with
    | none => rw [unparen_of_wrapped?_eq_none hwrapped]
    | some w =>
      obtain ⟨entries, rfl, hkind, hfind⟩ := wrapped?_eq_some_iff.mp hwrapped
      rw [unparen_of_wrapped? hwrapped, ih w hwrapped, isNegated, if_pos hkind, negatedAt_eq, hfind]
      rfl

end Json

/-- The evaluator of negations. -/
def Evaluator.negations : Evaluator (List (String × Bool)) Bool where
  value e _ := e.isNegated
  truthy b := b
  assign d name _ := d ++ [(name, false)]
  define _ property d := d ++ [(property.staticProperty?.getD "", true)]
  document _ := []
  spread _ := []
  hole := []
  value_unparen e _ := e.isNegated_unparen
  truthy_not := by
    intro e argument d hkind hoperator hargument
    obtain ⟨entries, rfl⟩ := Json.exists_entries_of_isKind hkind
    have hunary : Json.kindOf? entries = some Kind.unary := Json.isKind_iff.mp hkind
    rw [Json.field?, Json.unparen_of_isKind hkind (by decide), Option.map_eq_some_iff] at hargument
    obtain ⟨w, hw, rfl⟩ := hargument
    have hfind : Json.find? "argument" entries = some w := hw
    rw [Json.isNegated_unparen, Json.isNegated, if_neg (by rw [hunary]; decide),
      if_pos ⟨hunary, hoperator⟩, Json.negatedAt_eq, hfind]
    rfl

/-- `db.todos = db.todos.map(x => x.done ? x : {...x, done: true})` -/
theorem recognize_leaves_done :
    let roots : Roots := ⟨[("db", ⟨"app", none⟩)], []⟩
    let x := Tree.identifier "x"
    let todos := Tree.member (Tree.identifier "db") "todos"
    let node := Tree.assignment todos (Tree.method todos "map" [Tree.arrow ["x"]
      (Tree.conditional (Tree.member x "done") x
        (Tree.object [Tree.spread x, Tree.property "done" (Tree.boolean true)]))])
    (Recognizer.assignment.recognize roots 2 node).verdict =
        .matched (.modification (.update [("done", Tree.boolean true)]
          (some (Tree.unary "!" (Tree.member x "done")))) (.collection ⟨"app", "todos"⟩)) ∧
      node.enclosesNoPart = true ∧
      Evaluator.negations.Leaves [[], [("id", false)]] node
        [[("done", false)], [("id", false), ("done", false)]] := by
  intro roots x todos node
  have hverdict : (Recognizer.assignment.recognize roots 2 node).verdict =
      .matched (.modification (.update [("done", Tree.boolean true)]
        (some (Tree.unary "!" (Tree.member x "done")))) (.collection ⟨"app", "todos"⟩)) := rfl
  have hparens : node.enclosesNoPart = true := by decide
  obtain ⟨target, ref, -, -, -, hleaves⟩ :=
    recognize_leaves Evaluator.negations hverdict hparens
    fun right object param result hright _ h ↦ by
      cases hright
      obtain ⟨-, rfl⟩ :=
        h.unique (⟨rfl, _, rfl, rfl, ⟨_, rfl, rfl, rfl⟩, rfl⟩ : Json.CallsBack _ _ _)
      decide
  exact ⟨hverdict, hparens, (hleaves _ _).mpr (by decide)⟩

/-- `db.todos = db.todos.map(x => ({...x, get total() { return 1; }}))` is recognized as an update
that sets a function, while the documents it leaves have an accessor. -/
theorem recognize_accessor_leaves_other :
    let roots : Roots := ⟨[("db", ⟨"app", none⟩)], []⟩
    let x := Tree.identifier "x"
    let todos := Tree.member (Tree.identifier "db") "todos"
    let getter := Tree.node Kind.function
      [("params", .array []), ("body", Tree.returning (Tree.literal (.ofNat 1)))]
    let total := Tree.node Kind.property
      [("key", Tree.identifier "total"), ("value", getter), ("kind", .string "get")]
    let node := Tree.assignment todos (Tree.method todos "map"
      [Tree.arrow ["x"] (Tree.object [Tree.spread x, total])])
    (Recognizer.assignment.recognize roots 2 node).verdict =
        .matched (.modification (.update [("total", getter)] none) (.collection ⟨"app", "todos"⟩)) ∧
      node.enclosesNoPart = true ∧
      Evaluator.negations.Leaves [[]] node [[("total", true)]] ∧
      Evaluator.negations.apply (.update [("total", getter)] none) [[]] = [[("total", false)]] := by
  intro roots x todos getter total node
  refine ⟨rfl, by decide, ?_, by decide⟩
  refine .map ⟨rfl, rfl, rfl, rfl⟩ ⟨rfl, _, rfl, rfl, rfl, rfl⟩ (by decide)
    ⟨rfl, _, rfl, rfl, ⟨_, rfl, rfl, rfl⟩, rfl⟩ (.cons ?_ .nil)
  exact .object ⟨rfl, _, _, rfl, rfl, rfl, rfl, rfl⟩ (by decide)

end FluentQuery
