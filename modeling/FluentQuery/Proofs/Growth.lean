import FluentQuery.Proofs.Declaration
import FluentQuery.Proofs.Survey

/-!
# How the roots grow along a program

The roots known at a place are those of the configuration and what the declarations before it bind.
A declaration binds a name only if the name is free, so the first binding of a name is the last: one
node extends the roots by at most one binding and changes none (`Roots.extended_cases`), and by
induction along a walk the same holds from each stop to every later one (`Walk.growing`).

With the roots handed on from statement to statement, the analysis of a program is causal. What it
says of some statements does not depend on those that follow, and these are analyzed from the roots
that the first ones leave.
-/

namespace FluentQuery

namespace Roots

variable {before middle after roots : Roots} {name : String} {binding : RootBinding}

/-- Every binding of the first roots is one of the second, unchanged. -/
def Grows (before after : Roots) : Prop :=
  ∀ name binding, before.get? name = some binding → after.get? name = some binding

theorem Grows.refl (roots : Roots) : roots.Grows roots := fun _ _ h ↦ h

theorem Grows.trans (h : before.Grows middle) (h' : middle.Grows after) : before.Grows after :=
  fun name binding hget ↦ h' name binding (h name binding hget)

theorem get?_declare (roots : Roots) (name other : String) (binding : RootBinding) :
    (roots.declare name binding).get? other =
      (roots.get? other).or (if other = name then some binding else none) := by
  rw [declare]
  split
  · next hcontains =>
    obtain ⟨found, hfound⟩ := Option.isSome_iff_exists.mp hcontains
    by_cases hother : other = name
    · rw [hother, hfound, Option.some_or]
    · rw [if_neg hother, Option.or_none]
  · rw [get?, get?, List.lookup_append]
    by_cases hother : other = name
    · simp [hother]
    · simp [hother, List.lookup_cons, beq_false_of_ne hother]

theorem grows_declare (roots : Roots) (name : String) (binding : RootBinding) :
    roots.Grows (roots.declare name binding) := by
  intro other found hfound
  rw [get?_declare, hfound, Option.some_or]

theorem connectors_declare (roots : Roots) (name : String) (binding : RootBinding) :
    (roots.declare name binding).connectors = roots.connectors := by
  rw [declare]
  split <;> rfl

theorem mem_bindings_declare {entry : String × RootBinding}
    (h : entry ∈ (roots.declare name binding).bindings) :
    entry ∈ roots.bindings ∨ entry = (name, binding) := by
  rw [declare] at h
  split at h
  · exact Or.inl h
  · simpa using h

/-! ## Growth by declarations -/

/-- A node extends the roots by what it declares, or leaves them as they are. -/
theorem extended_cases (roots : Roots) (node : Json) :
    roots.extended node = roots ∨ ∃ connector ∈ roots.connectors, ∃ name binding,
      node.isKind Kind.declarator = true ∧ node.Connects connector name binding ∧
        roots.extended node = roots.declare name binding := by
  rw [extended]
  split
  · next hkind =>
    cases hdeclaration : roots.declaration node with
    | skip why => exact Or.inl rfl
    | matched found =>
      obtain ⟨name, binding⟩ := found
      obtain ⟨connector, hconnector, hconnects⟩ := declaration_eq_matched_iff.mp hdeclaration
      exact Or.inr ⟨connector, hconnector, name, binding, hkind, hconnects, rfl⟩
  · exact Or.inl rfl

theorem grows_extended (roots : Roots) (node : Json) : roots.Grows (roots.extended node) := by
  rcases roots.extended_cases node with h | ⟨_, _, name, binding, _, _, h⟩
  · rw [h]
    exact Grows.refl roots
  · rw [h]
    exact roots.grows_declare name binding

theorem connectors_extended (roots : Roots) (node : Json) :
    (roots.extended node).connectors = roots.connectors := by
  rcases roots.extended_cases node with h | ⟨_, _, name, binding, _, _, h⟩
  · rw [h]
  · rw [h, connectors_declare]

/-- A binding that a node adds is one that it declares. -/
theorem mem_bindings_extended {node : Json} {entry : String × RootBinding}
    (h : entry ∈ (roots.extended node).bindings) :
    entry ∈ roots.bindings ∨ (node.isKind Kind.declarator = true ∧
      ∃ connector ∈ roots.connectors, node.Connects connector entry.1 entry.2) := by
  rcases roots.extended_cases node with hsame | ⟨connector, hconnector, name, binding, hkind,
    hconnects, hdeclare⟩
  · rw [hsame] at h
    exact Or.inl h
  · rw [hdeclare] at h
    rcases mem_bindings_declare h with hold | rfl
    · exact Or.inl hold
    · exact Or.inr ⟨hkind, connector, hconnector, hconnects⟩

/-- A declaration that calls a connector leaves its name bound, by itself or from before. -/
theorem isSome_get?_extended {node : Json} {connector : String}
    (hkind : node.isKind Kind.declarator = true) (hconnector : connector ∈ roots.connectors)
    (h : node.Connects connector name binding) :
    ((roots.extended node).get? name).isSome = true := by
  have hdeclaration := declaration_eq_matched_iff.mpr ⟨connector, hconnector, h⟩
  simp only [extended, hkind, if_true, hdeclaration]
  rw [get?_declare, if_pos rfl]
  cases roots.get? name <;> rfl

/-! ## The roots of a configuration -/

theorem get?_foldl_declare (denoted : String → RootBinding) (names : List String) (roots : Roots) :
    (names.foldl (fun roots name ↦ roots.declare name (denoted name)) roots).get? name =
      (roots.get? name).or (if name ∈ names then some (denoted name) else none) := by
  induction names generalizing roots with
  | nil => simp
  | cons first rest ih =>
    rw [List.foldl_cons, ih, get?_declare, Option.or_assoc]
    by_cases hfirst : name = first
    · simp [hfirst]
    · simp [hfirst]

/-- The roots of a configuration are all that is bound by it. Each denotes a database, which is the
one that all of them denote or has the name of the root. -/
theorem get?_ofConfig (config : Config) (name : String) :
    (ofConfig config).get? name =
      if name ∈ config.roots then some ⟨config.database.getD name, none⟩ else none := by
  have hnone : (Roots.mk [] config.connectors).get? name = none := rfl
  rw [ofConfig, get?_foldl_declare, hnone, Option.none_or]

end Roots

namespace Program

variable {limit : Nat} {program : Json} {start roots : Roots} {stops : List Stop}
  {pending : List (Position × Json)} {out : Except Failure Roots}

/-- The node of a stop calls one of the connectors, and binds the name to what it is called with. -/
def Stop.Declares (s : Stop) (connectors : List String) (entry : String × RootBinding) : Prop :=
  s.node.isKind Kind.declarator = true ∧
    ∃ connector ∈ connectors, s.node.Connects connector entry.1 entry.2

/-- The roots known along some stops only grow, from those at the start to those in the end. -/
structure Growing (start : Roots) (stops : List Stop) (out : Except Failure Roots) : Prop where
  /-- What is bound at the start is so at every stop. -/
  kept : ∀ s ∈ stops, start.Grows s.roots
  /-- What is bound at a stop is so at every later one. -/
  later : stops.Pairwise fun s t ↦ s.roots.Grows t.roots
  /-- At a declaration that calls a connector its name is bound. -/
  bound : ∀ s ∈ stops, ∀ entry, s.Declares start.connectors entry →
    (s.roots.get? entry.1).isSome = true
  /-- What is bound at a stop and not at the start is declared there or at a stop before. -/
  added : ∀ before s after, stops = before ++ s :: after → ∀ entry ∈ s.roots.bindings,
    entry ∈ start.bindings ∨ ∃ t ∈ before ++ [s], t.Declares start.connectors entry
  /-- In the end all that was bound is so, and the rest is declared at some stop. -/
  last : ∀ roots, out = .ok roots →
    start.Grows roots ∧ (∀ s ∈ stops, s.roots.Grows roots) ∧ ∀ entry ∈ roots.bindings,
      entry ∈ start.bindings ∨ ∃ t ∈ stops, t.Declares start.connectors entry

/-- A stop at the front whose node extends the roots. -/
theorem Growing.cons {p : Position} {node : Json} (h : Growing (start.extended node) stops out) :
    Growing start (⟨p, node, start.extended node⟩ :: stops) out := by
  have hstep := start.grows_extended node
  -- What the stops after the first find bound is bound at the start, by the first, or by them.
  have hdeclared : ∀ (entry : String × RootBinding) (others : List Stop),
      (entry ∈ (start.extended node).bindings ∨
        ∃ t ∈ others, t.Declares (start.extended node).connectors entry) →
      entry ∈ start.bindings ∨ ∃ t ∈ ⟨p, node, start.extended node⟩ :: others,
        t.Declares start.connectors entry := by
    rintro entry others (hentry | ⟨t, ht, hdeclares⟩)
    · refine (Roots.mem_bindings_extended hentry).imp_right fun hdeclares ↦ ?_
      exact ⟨_, List.mem_cons_self, hdeclares⟩
    · rw [Roots.connectors_extended] at hdeclares
      exact Or.inr ⟨t, List.mem_cons_of_mem _ ht, hdeclares⟩
  refine ⟨?_, List.pairwise_cons.mpr ⟨h.kept, h.later⟩, ?_, ?_, ?_⟩
  · exact List.forall_mem_cons.mpr ⟨hstep, fun s hs ↦ hstep.trans (h.kept s hs)⟩
  · refine List.forall_mem_cons.mpr ⟨?_, fun s hs entry hdeclares ↦ h.bound s hs entry ?_⟩
    · rintro entry ⟨hkind, connector, hconnector, hconnects⟩
      exact Roots.isSome_get?_extended hkind hconnector hconnects
    · rwa [Roots.connectors_extended]
  · intro before s after hstops entry hentry
    cases before with
    | nil =>
      obtain ⟨rfl, rfl⟩ := List.cons.inj hstops
      exact hdeclared entry [] (Or.inl hentry)
    | cons first before =>
      obtain ⟨rfl, rfl⟩ := List.cons.inj hstops
      exact hdeclared entry _ (h.added before s after rfl entry hentry)
  · intro roots hroots
    obtain ⟨hgrows, hstops, hadded⟩ := h.last roots hroots
    exact ⟨hstep.trans hgrows, List.forall_mem_cons.mpr ⟨hgrows, hstops⟩,
      fun entry hentry ↦ hdeclared entry stops (hadded entry hentry)⟩

theorem Walk.growing (h : Walk limit pending start stops out) : Growing start stops out := by
  induction h with
  | done roots =>
    refine ⟨by simp, .nil, by simp, by simp, fun last hlast ↦ ?_⟩
    cases hlast
    exact ⟨Roots.Grows.refl _, by simp, fun entry ↦ Or.inl⟩
  | other _ _ _ ih => exact ih
  | array _ ih => exact ih
  | site _ _ _ ih => exact ih.cons
  | skipped _ _ _ ih => exact ih.cons
  | failed _ _ => exact Growing.cons ⟨by simp, .nil, by simp, by simp, by simp⟩

/-! ## Programs of statements -/

theorem result_visitItems_append (limit : Nat) (first second : List Json) (roots : Roots) :
    (visitItems limit (first ++ second) roots).result =
      (visitItems limit first roots).result.bind fun a ↦
        (visitItems limit second a.roots).result.map fun b ↦ ⟨b.roots, a.sites ++ b.sites⟩ := by
  rw [visitItems_append, Traced.result_bind]
  congr 1
  funext a
  rw [Traced.result_bind]
  cases (visitItems limit second a.roots).result <;> rfl

theorem result_visit_program (limit : Nat) (body : List Json) (roots : Roots) :
    (visit limit (Tree.program body) roots).result = (visitItems limit body roots).result := by
  have hkind : (Json.kindOf? [("type", .string "Program"), ("sourceType", .string "module"),
      ("body", .array body)]).isSome = true := rfl
  have hdeclare : declare roots (Tree.program body) = pure roots := rfl
  have hoffer : offer limit roots (Tree.program body) = pure none := rfl
  -- Of the three entries the body is the only one in which there is anything to find.
  have htype : isPassedOver roots (Tree.program body) "type" = true := rfl
  have hsource : isPassedOver roots (Tree.program body) "sourceType" = false := rfl
  have hbody : isPassedOver roots (Tree.program body) "body" = false := rfl
  rw [Tree.program, Tree.node] at *
  simp only [visit, hkind, if_true, hdeclare, hoffer, visitEntries, htype, hsource, hbody,
    Traced.result_bind, Traced.result_pure, Except.bind, Bool.false_eq_true, if_false,
    List.nil_append, List.append_nil]
  cases (visitItems limit body roots).result <;> rfl

theorem result_analyze_program {config : Config} (hconfig : config.validate = .ok ())
    (body : List Json) :
    (analyze config (Tree.program body)).result =
      (visitItems config.recursionLimit body (Roots.ofConfig config)).result.map Visited.sites := by
  rw [analyze, hconfig]
  simp only [Traced.result_bind, result_visit_program]
  cases (visitItems config.recursionLimit body (Roots.ofConfig config)).result <;> rfl

/-- The analysis is causal in the order of the statements. If it fails on the first ones, it fails
with the same failure whatever follows; otherwise their sites stay, and the sites or the failure of
what follows are those found from the roots that the first ones leave.

In every visit the roots only grow, exactly by visited declarations that call a connector for a name
that is free. A root of the configuration stays a database root in all roots that extend those of
the configuration. -/
theorem analyze_causal {config : Config} (hconfig : config.validate = .ok ())
    (first second : List Json) :
    (∀ failure, (analyze config (Tree.program first)).result = .error failure →
      (analyze config (Tree.program (first ++ second))).result = .error failure) ∧
    (∀ sites, (analyze config (Tree.program first)).result = .ok sites → ∃ after,
      (visitItems config.recursionLimit first (Roots.ofConfig config)).result =
        .ok ⟨after, sites⟩ ∧
      (analyze config (Tree.program (first ++ second))).result =
        (visitItems config.recursionLimit second after).result.map fun b ↦ sites ++ b.sites) ∧
    (∀ (v : Json) (start : Roots), ∃ stops out,
      Walk config.recursionLimit [([], v)] start stops out ∧
      (visit config.recursionLimit v start).result =
        out.map (fun last ↦ ⟨last, stops.filterMap (Stop.site? config.recursionLimit)⟩) ∧
      Growing start stops out) ∧
    ∀ name ∈ config.roots, ∀ roots, (Roots.ofConfig config).Grows roots →
      roots.get? name = some ⟨config.database.getD name, none⟩ := by
  rw [result_analyze_program hconfig, result_analyze_program hconfig, result_visitItems_append]
  refine ⟨?_, ?_, ?_, ?_⟩
  · intro failure hfailure
    cases hfirst : (visitItems config.recursionLimit first (Roots.ofConfig config)).result with
    | error other =>
      rw [hfirst] at hfailure
      cases hfailure
      rfl
    | ok a =>
      rw [hfirst] at hfailure
      cases hfailure
  · intro sites hsites
    cases hfirst : (visitItems config.recursionLimit first (Roots.ofConfig config)).result with
    | error failure =>
      rw [hfirst] at hsites
      cases hsites
    | ok a =>
      rw [hfirst] at hsites
      cases hsites
      refine ⟨a.roots, rfl, ?_⟩
      simp only [Except.bind]
      cases (visitItems config.recursionLimit second a.roots).result <;> rfl
  · intro v start
    obtain ⟨stops, out, hwalk, hresult⟩ := walk_of_visit config.recursionLimit v start
    exact ⟨stops, out, hwalk, hresult, hwalk.growing⟩
  · intro name hname roots hgrows
    exact hgrows _ _ (by rw [Roots.get?_ofConfig, if_pos hname])

/-- After `const db = connect("app"); db.todos.length` neither `const db = connect("log")` nor
`const main = connect("log")` binds anything, with `main` a root of the configuration: in
`db.users.length` and `main.users.length` the names denote what they did. -/
theorem analyze_causal_connector :
    let config : Config := { roots := ["main"], connectors := ["connect"], recursionLimit := 3 }
    let connect := fun name db ↦
      Tree.constant name (Tree.call (Tree.identifier "connect") [Tree.string db])
    let length := fun db collection ↦ Tree.expressionStatement
      (Tree.member (Tree.member (Tree.identifier db) collection) "length")
    let site := fun db collection ↦ Site.mk none (.value "length" (.collection ⟨db, collection⟩))
    let first := [connect "db" "app", length "db" "todos"]
    let second :=
      [connect "db" "log", connect "main" "log", length "db" "users", length "main" "users"]
    let after : Roots := ⟨[("main", ⟨"main", none⟩), ("db", ⟨"app", none⟩)], ["connect"]⟩
    config.validate = .ok () ∧
      (visitItems config.recursionLimit first (Roots.ofConfig config)).result =
        .ok ⟨after, [site "app" "todos"]⟩ ∧
      (visitItems config.recursionLimit second after).result =
        .ok ⟨after, [site "app" "users", site "main" "users"]⟩ ∧
      (analyze config (Tree.program (first ++ second))).result =
        .ok [site "app" "todos", site "app" "users", site "main" "users"] := by
  intro config connect length site first second after
  have hconfig : config.validate = .ok () := rfl
  have hfirst : (analyze config (Tree.program first)).result = .ok [site "app" "todos"] :=
    toOption_eq_some_iff.mp (by decide +kernel)
  have hsecond : (visitItems config.recursionLimit second after).result =
      .ok ⟨after, [site "app" "users", site "main" "users"]⟩ :=
    toOption_eq_some_iff.mp (by decide +kernel)
  have hleft : (visitItems config.recursionLimit first (Roots.ofConfig config)).result =
      .ok ⟨after, [site "app" "todos"]⟩ := toOption_eq_some_iff.mp (by decide +kernel)
  obtain ⟨found, hfound, hwhole⟩ := (analyze_causal hconfig first second).2.1 _ hfirst
  cases hleft.symm.trans hfound
  rw [hsecond] at hwhole
  exact ⟨hconfig, hleft, hsecond, hwhole⟩

end Program

end FluentQuery
