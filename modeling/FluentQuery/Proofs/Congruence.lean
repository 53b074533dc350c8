import FluentQuery.Node.Build
import FluentQuery.Proofs.Respects

/-!
# Patterns cannot tell the same expression apart

Where only objects are in parentheses, a pattern that is built of well-behaved tests and computed
values is a congruence for being the same expression: of two nodes that are the same it matches both
or none, and what it binds is the same as well. Tests are well behaved if they give the same answer
on such nodes, and computed values if they are the same expression. Nothing is asked of them on
other nodes, so that all the patterns in use qualify, whose tests do not look through parentheses
around a text or a number.
-/

namespace FluentQuery

/-- Only objects are in parentheses. -/
def Enclosure.objects : Enclosure where
  test w := w.any fun v ↦ v.asObject?.isSome
  object := by
    intro w hw
    cases w with
    | none => cases hw
    | some v =>
      cases v with
      | object entries => exact ⟨entries, rfl⟩
      | _ => cases hw

/-- Two values are the same expression. -/
def Json.Same (a b : Json) : Prop := sameNode a b = true

theorem Json.same_iff {a b : Json} : Same a b ↔ a.plain = b.plain := sameNode_iff

theorem Alike.same {e : Enclosure} {a b : Json} (h : Alike e a b) : Json.Same a b :=
  Json.same_iff.mpr h.plain_eq

/-- Related bindings have the same names in the same order, and related values. -/
theorem Bindings.Related.names_values {R : Json → Json → Prop} {bs bs' : Bindings}
    (h : bs.Related R bs') : bs.map Prod.fst = bs'.map Prod.fst ∧
      List.Forall₂ R (bs.map Prod.snd) (bs'.map Prod.snd) := by
  induction h with
  | nil => exact ⟨rfl, .nil⟩
  | cons hxy _ ih =>
    obtain ⟨hnames, hvalues⟩ := ih
    rw [List.map_cons, List.map_cons, hxy.1, hnames]
    exact ⟨rfl, .cons hxy.2 hvalues⟩

namespace Pattern

variable {e : Enclosure} {R S : Json → Json → Prop}

theorem ComputeRespects.imp (hRS : ∀ a b, R a b → S a b) {compute : Option (Json → Json)}
    (h : ComputeRespects e R compute) : ComputeRespects e S compute :=
  fun f hf a b hab ↦ hRS _ _ (h f hf a b hab)

-- The four properties are defined in one recursion, and so they are compared in one.
mutual

/-- A pattern whose computed values are closely related binds values that are loosely related. -/
theorem Respects.imp (hRS : ∀ a b, R a b → S a b) : ∀ {p : Pattern}, p.Respects e R → p.Respects e S
  | .any, _ => trivial
  | .literal _, _ => trivial
  | .shape fields, h => FieldsRespect.imp hRS fields h
  | .seq slots, h => SlotsRespect.imp hRS slots h
  | .oneOf branches, h => AllRespect.imp hRS branches h
  | .all parts, h => AllRespect.imp hRS parts h
  | .capture _ none _, h => ComputeRespects.imp hRS h
  | .capture _ (some _) _, h => ⟨h.1.imp hRS, ComputeRespects.imp hRS h.2⟩
  | .satisfies _ _, h => h

theorem FieldsRespect.imp (hRS : ∀ a b, R a b → S a b) :
    ∀ fields : List (String × Pattern), FieldsRespect e R fields → FieldsRespect e S fields
  | [], _ => trivial
  | (_, _) :: rest, h => ⟨h.1, h.2.1, h.2.2.1.imp hRS, FieldsRespect.imp hRS rest h.2.2.2⟩

theorem AllRespect.imp (hRS : ∀ a b, R a b → S a b) :
    ∀ parts : List Pattern, AllRespect e R parts → AllRespect e S parts
  | [], _ => trivial
  | _ :: rest, h => ⟨h.1.imp hRS, AllRespect.imp hRS rest h.2⟩

theorem SlotsRespect.imp (hRS : ∀ a b, R a b → S a b) :
    ∀ slots : List (Slot Pattern), SlotsRespect e R slots → SlotsRespect e S slots
  | [], _ => trivial
  | .one _ :: rest, h => ⟨h.1.imp hRS, SlotsRespect.imp hRS rest h.2⟩
  | .optional _ :: rest, h => ⟨h.1.imp hRS, SlotsRespect.imp hRS rest h.2⟩
  | .rest _ _ :: rest, h => ⟨h.1.imp hRS, SlotsRespect.imp hRS rest h.2⟩

end

/-- **Matching respects being the same expression.** Take a pattern whose tests give the same answer
and whose computed values are the same expression on nodes that are the same, and which looks at
neither trivia nor kinds as children. Of two nodes that are the same, with only objects in
parentheses, it matches both or none. If it matches both, it binds the same names in the same order,
and to values that are the same. -/
theorem matched_same {p : Pattern} (hp : p.Respects .objects Json.Same) {v w : Json}
    (hv : v.encloses Enclosure.objects.test = true) (hw : w.encloses Enclosure.objects.test = true)
    (hsame : Json.sameNode v w = true) :
    (p.matched v).isMatch = (p.matched w).isMatch ∧
      ∀ m m', p.matched v = .matched m → p.matched w = .matched m' →
        m.bindings.map Prod.fst = m'.bindings.map Prod.fst ∧
          List.Forall₂ (fun a b ↦ Json.sameNode a b = true) (m.bindings.map Prod.snd)
            (m'.bindings.map Prod.snd) := by
  have halike : Alike .objects v w := ⟨Json.sameNode_iff.mp hsame, hv, hw⟩
  have hagree : Outcome.Agree (Bindings.Related Json.Same) (p.bindings v) (p.bindings w) :=
    agree_bindings (fun _ _ ↦ Alike.same) (fun _ _ ↦ Json.same_iff.mp) p hp halike
  have hmatched : Outcome.Agree (fun m m' : Matched ↦ m.bindings.Related Json.Same m'.bindings)
      (p.matched v) (p.matched w) := hagree.map fun _ _ hbindings ↦ hbindings
  refine ⟨hmatched.isMatch_eq, fun m m' hm hm' ↦ ?_⟩
  rw [hm, hm'] at hmatched
  cases hmatched with
  | matched hbindings => exact hbindings.names_values

/-- A call `x.f(x, y, 2)` is matched as `x.f(x, x?, ...others)`, also if it is written with
parentheses, positions and another name of its kind. The optional place is left empty, since `y`
does not bind what `x` has bound. -/
theorem matched_same_call :
    let p := node Kind.call
      [("callee", memberAs (identifierAs "x") "method"),
        ("arguments", .seq [.one (identifierAs "x"), .optional (identifierAs "x"),
          .rest .any (some "others")]),
        ("typeArguments", bound "absent")]
    let x := Tree.identifier "x"
    let v := Tree.method x "f" [x, Tree.identifier "y", Tree.finite (.ofNat 2)]
    let w := Tree.parenthesized (Tree.node "OptionalCallExpression"
      [("start", .ofNat 1), ("arguments", .array [Tree.parenthesized x, Tree.identifier "y",
          Tree.node "NumericLiteral" [("value", .ofBinary64 (.ofNat 2))]]),
        ("callee", Tree.member (Tree.parenthesized x) "f")])
    p.Respects .objects Json.Same ∧ v.encloses Enclosure.objects.test = true ∧
      w.encloses Enclosure.objects.test = true ∧ Json.sameNode v w = true ∧
      ∃ m m', p.matched v = .matched m ∧ p.matched w = .matched m' ∧
        m.bindings.map Prod.fst = ["x", "method", "others", "absent"] ∧
        m'.bindings.map Prod.fst = ["x", "method", "others", "absent"] ∧
        List.Forall₂ (fun a b ↦ Json.sameNode a b = true) (m.bindings.map Prod.snd)
          (m'.bindings.map Prod.snd) := by
  intro p x v w
  have hp : p.Respects .objects (Alike .objects) :=
    respects_node ⟨rfl, by decide, respects_memberAs (respects_identifierAs "x") "method",
      rfl, by decide, ⟨respects_identifierAs "x", respects_identifierAs "x", trivial, trivial⟩,
      rfl, by decide, respects_bound "absent", trivial⟩
  have hsame : p.Respects .objects Json.Same := hp.imp fun _ _ ↦ Alike.same
  have hv : v.encloses Enclosure.objects.test = true := by decide +kernel
  have hw : w.encloses Enclosure.objects.test = true := by decide +kernel
  have hvw : Json.sameNode v w = true := by decide +kernel
  obtain ⟨hmatch, hbindings⟩ := matched_same hsame hv hw hvw
  have hmatchv : (p.matched v).isMatch = true := by decide +kernel
  obtain ⟨m, hm⟩ := Outcome.isMatch_eq_true_iff.mp hmatchv
  obtain ⟨m', hm'⟩ := Outcome.isMatch_eq_true_iff.mp (hmatch.symm.trans hmatchv)
  obtain ⟨hnames, hvalues⟩ := hbindings m m' hm hm'
  have hbound : ((p.matched v).map fun m ↦ m.bindings.map Prod.fst).toOption =
      some ["x", "method", "others", "absent"] := by decide +kernel
  rw [hm] at hbound
  have hfirst := Option.some.inj hbound
  exact ⟨hsame, hv, hw, hvw, m, m', hm, hm', hfirst, hnames.symm.trans hfirst, hvalues⟩

end Pattern

end FluentQuery
