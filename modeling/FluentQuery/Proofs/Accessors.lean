import FluentQuery.Proofs.Coincide
import FluentQuery.Proofs.Congruence
import FluentQuery.Proofs.Decode

/-!
# Accessors cannot tell the same expression apart

Nodes are compared by their plain forms, but they are read through accessors, each of which looks
through parentheses at points of its own. Whatever is built on the accessors can treat nodes that
are the same expression alike only if the two views agree.

They do, as long as only objects are in parentheses. From nodes that are the same, every accessor
reads the same, and the nodes that it leads to are the same again. Their parentheses also enclose
only objects, so that the argument can be repeated from there: along any route of accessors, two
trees that are the same expression stay together, and nothing read on the way tells them apart.
-/

namespace FluentQuery

namespace Json

/-! ## Reading two nodes -/

/-- Every accessor reads the same from two nodes: their kind inside parentheses, their names and
texts are equal, their numbers have the same value, and their children, of which trivia and the kind
are none, are the same expressions. -/
structure Indistinct (a b : Json) : Prop where
  kind : a.unparen.kind? = b.unparen.kind?
  identName : a.identName? = b.identName?
  staticProperty : a.staticProperty? = b.staticProperty?
  string : a.string? = b.string?
  number : Option.Rel (fun x y ↦ x.value = y.value) a.number? b.number?
  items : ∀ name, isTrivia name = false → name ≠ "type" →
    List.Forall₂ Same (a.items name) (b.items name)
  field : ∀ name, isTrivia name = false → name ≠ "type" →
    Option.Rel Same (a.field? name) (b.field? name)

/-! ## Routes -/

/-- A step from a node to one below it. -/
inductive Step where
  /-- To a child. -/
  | field (name : String)
  /-- To one of a list of children. -/
  | item (name : String) (index : Nat)
deriving DecidableEq, Repr

/-- The key under which a step goes on. -/
def Step.name : Step → String
  | .field name => name
  | .item name _ => name

/-- The node that a step leads to. -/
def step? (v : Json) : Step → Option Json
  | .field name => v.field? name
  | .item name index => (v.items name)[index]?

/-- The node at the end of a route. -/
def follow? (v : Json) : List Step → Option Json
  | [] => some v
  | s :: route => (v.step? s).bind fun w ↦ w.follow? route

end Json

/-! ## Options and lists that are related -/

theorem rel_imp {α β : Type} {R S : α → β → Prop} {x : Option α} {y : Option β}
    (h : Option.Rel R x y) (hRS : ∀ a b, R a b → S a b) : Option.Rel S x y := by
  cases h with
  | none => exact .none
  | some hab => exact .some (hRS _ _ hab)

/-- Lists that are related item by item are related at each index, or both end before it. -/
theorem rel_getElem? {α β : Type} {R : α → β → Prop} {xs : List α} {ys : List β}
    (h : List.Forall₂ R xs ys) (index : Nat) : Option.Rel R xs[index]? ys[index]? := by
  induction h generalizing index with
  | nil => exact .none
  | cons hxy _ ih =>
    cases index with
    | zero => exact .some hxy
    | succ index => exact ih index

/-! ## Values that are alike -/

namespace Alike

variable {e : Enclosure} {a b : Json}

theorem items (h : Alike e a b) {name : String} (htrivia : isTrivia name = false)
    (htype : name ≠ "type") : List.Forall₂ (Alike e) (a.items name) (b.items name) := by
  have harrays : Option.Rel (List.Forall₂ (Alike e)) ((a.unparen.get? name).bind Json.asArray?)
      ((b.unparen.get? name).bind Json.asArray?) :=
    rel_bind (h.get?_unparen htrivia htype) fun _ _ ↦ Alike.asArray?
  rw [Json.items, Json.items]
  -- Without a list on either side there are no items on either side.
  generalize (a.unparen.get? name).bind Json.asArray? = xs at harrays
  generalize (b.unparen.get? name).bind Json.asArray? = ys at harrays
  cases harrays with
  | none => exact .nil
  | some hitems => exact hitems

/-- Zero has two signs and one value, so that equal numbers need not be the same double. -/
theorem number?_value (h : Alike e a b) :
    Option.Rel (fun x y : Binary64 ↦ x.value = y.value) a.number? b.number? :=
  rel_imp (rel_of_map_eq h.number?) fun _ _ ↦ Json.unsignedZero_eq_iff.mp

theorem indistinct (h : Alike e a b) : Json.Indistinct a b where
  kind := h.kind?_unparen
  identName := h.identName?
  staticProperty := h.staticProperty?
  string := h.string?
  number := h.number?_value
  items _ htrivia htype := (h.items htrivia htype).imp fun _ _ ↦ Alike.same
  field _ htrivia htype := rel_imp (h.field? htrivia htype) fun _ _ ↦ Alike.same

theorem step? (h : Alike e a b) {s : Json.Step} (htrivia : isTrivia s.name = false)
    (htype : s.name ≠ "type") : Option.Rel (Alike e) (a.step? s) (b.step? s) := by
  cases s with
  | field name => exact h.field? htrivia htype
  | item name index => exact rel_getElem? (h.items htrivia htype) index

/-- Values that are alike stay so along a route. -/
theorem follow? (h : Alike e a b) {route : List Json.Step}
    (hroute : ∀ s ∈ route, isTrivia s.name = false ∧ s.name ≠ "type") :
    Option.Rel (Alike e) (a.follow? route) (b.follow? route) := by
  induction route generalizing a b with
  | nil => exact .some h
  | cons s route ih =>
    obtain ⟨⟨htrivia, htype⟩, hrest⟩ := List.forall_mem_cons.mp hroute
    -- A step keeps what parentheses enclose; from being the same alone one could not go on.
    exact rel_bind (h.step? htrivia htype) fun _ _ hvw ↦ ih hvw hrest

end Alike

/-! ## Nodes that are the same expression -/

namespace Json

/-- **Accessors respect being the same expression.** Take two nodes that are the same expression,
with only objects in parentheses. Every accessor reads the same from both. Each route that keeps
away from trivia and kinds leads somewhere from both or from neither, and every accessor reads the
same from the nodes at its ends. -/
theorem indistinct_of_sameNode {a b : Json} (ha : a.encloses Enclosure.objects.test = true)
    (hb : b.encloses Enclosure.objects.test = true) (hsame : sameNode a b = true) :
    Indistinct a b ∧
      ∀ route : List Step, (∀ s ∈ route, isTrivia s.name = false ∧ s.name ≠ "type") →
        Option.Rel Indistinct (a.follow? route) (b.follow? route) := by
  have halike : Alike .objects a b := ⟨sameNode_iff.mp hsame, ha, hb⟩
  exact ⟨halike.indistinct, fun route hroute ↦
    rel_imp (halike.follow? hroute) fun _ _ ↦ Alike.indistinct⟩

/-- A call `db["slice"](-0)` and the same with positions, parentheses, other names of its kinds and
a minus sign in the literal as well. The method is read alike from both, and the argument is zero in
both, though not of the same sign. -/
theorem indistinct_of_sameNode_slice :
    let v := Tree.call (Tree.index (Tree.identifier "db") (Tree.string "slice"))
      [Tree.unary "-" (Tree.literal (.ofInt 0))]
    let w := Tree.parenthesized (Tree.node "OptionalCallExpression"
      [("start", .ofNat 1),
        ("arguments", .array [Tree.parenthesized (Tree.unary "-" (Tree.parenthesized
          (Tree.node "NumericLiteral" [("value", .ofBinary64 ⟨true, 0⟩)])))]),
        ("callee", Tree.parenthesized (Tree.node "OptionalMemberExpression"
          [("computed", .bool true),
            ("property", Tree.parenthesized
              (Tree.node "StringLiteral" [("raw", .string "'slice'"), ("value", .string "slice")])),
            ("object", Tree.identifier "db")]))])
    let callee := [Step.field "callee"]
    let argument := [Step.item "arguments" 0]
    v.encloses Enclosure.objects.test = true ∧ w.encloses Enclosure.objects.test = true ∧
      sameNode v w = true ∧ Indistinct v w ∧
      Option.Rel Indistinct (v.follow? callee) (w.follow? callee) ∧
      (v.follow? callee).bind staticProperty? = some "slice" ∧
      (w.follow? callee).bind staticProperty? = some "slice" ∧
      Option.Rel Indistinct (v.follow? argument) (w.follow? argument) ∧
      (v.follow? argument).bind number? = some ⟨true, 0⟩ ∧
      (w.follow? argument).bind number? = some ⟨false, 0⟩ := by
  intro v w callee argument
  have hv : v.encloses Enclosure.objects.test = true := by decide +kernel
  have hw : w.encloses Enclosure.objects.test = true := by decide +kernel
  have hvw : sameNode v w = true := by decide +kernel
  obtain ⟨hread, hroutes⟩ := indistinct_of_sameNode hv hw hvw
  exact ⟨hv, hw, hvw, hread, hroutes callee (by decide), by decide +kernel, by decide +kernel,
    hroutes argument (by decide), by decide +kernel, by decide +kernel⟩

/-- Parentheses around a text are seen: an identifier with its name in parentheses is the same
expression as one without them, and yet no name is read from it. -/
example : let enclosed := Tree.node Kind.identifier [("name", Tree.parenthesized (.string "x"))]
    sameNode enclosed (Tree.identifier "x") = true ∧ enclosed.identName? = none ∧
      (Tree.identifier "x").identName? = some "x" := by
  decide +kernel

end Json

end FluentQuery
