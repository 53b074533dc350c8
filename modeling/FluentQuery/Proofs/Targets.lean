import FluentQuery.Proofs.Growth

/-!
# Reads in the targets of assignments

The target of an assignment is written and not read, so it is passed over when a program is visited.
All of it is passed over, though, while `o[e] = v` does read its index `e`. A query there is not
found, although the same `o[e]` has its index visited wherever it is not assigned to.

So what is found in an assignment that is no write is what is found in its value, whatever the
target holds. The queries of the index are among it only as far as the value holds them again.
-/

namespace FluentQuery

namespace Program

variable {limit : Nat} {roots : Roots}

/-! ## Nodes that are no sites -/

/-- The visit of a node that declares nothing and is no site is that of its entries. -/
theorem result_visit_of_offer {entries : List (String × Json)}
    (hkind : (Json.kindOf? entries).isSome = true)
    (hdeclare : declare roots (.object entries) = pure roots)
    (hoffer : (offer limit roots (.object entries)).result = .ok none) :
    (visit limit (.object entries) roots).result =
      (visitEntries limit (isPassedOver roots (.object entries)) entries roots).result := by
  rw [visit, if_pos hkind]
  dsimp only
  rw [hdeclare, Traced.result_bind, Traced.result_pure, Except.bind, Traced.result_bind, hoffer]
  rfl

theorem exists_offer_of_visit {entries : List (String × Json)} {out : Visited}
    (hkind : (Json.kindOf? entries).isSome = true)
    (hdeclare : declare roots (.object entries) = pure roots)
    (h : (visit limit (.object entries) roots).result = .ok out) :
    ∃ found, (offer limit roots (.object entries)).result = .ok found := by
  rw [visit, if_pos hkind] at h
  dsimp only at h
  rw [hdeclare, Traced.result_bind, Traced.result_pure] at h
  obtain ⟨found, hfound, -⟩ := Traced.result_bind_eq_ok_iff.mp h
  exact ⟨found, hfound⟩

theorem result_visit_expressionStatement (limit : Nat) (e : Json) (roots : Roots) :
    (visit limit (Tree.expressionStatement e) roots).result = (visit limit e roots).result := by
  have htype : isPassedOver roots (Tree.expressionStatement e) "type" = true := rfl
  have hexpression : isPassedOver roots (Tree.expressionStatement e) "expression" = false := rfl
  rw [Tree.expressionStatement, Tree.node] at *
  rw [result_visit_of_offer rfl rfl rfl]
  simp only [visitEntries, htype, hexpression, if_true, Bool.false_eq_true, if_false,
    Traced.result_bind, Traced.result_pure, Except.bind, List.append_nil]
  cases (visit limit e roots).result <;> rfl

/-- The sites of a program that is one expression are those of its visit. -/
theorem analyze_expression_eq_ok_iff {config : Config} (hconfig : config.validate = .ok ())
    {e : Json} {sites : List Site} :
    (analyze config (Tree.program [Tree.expressionStatement e])).result = .ok sites ↔
      ∃ out, (visit config.recursionLimit e (Roots.ofConfig config)).result = .ok out ∧
        out.sites = sites := by
  rw [result_analyze_program hconfig]
  simp only [visitItems, Traced.result_bind, result_visit_expressionStatement]
  cases (visit config.recursionLimit e (Roots.ofConfig config)).result with
  | error failure => simp [Except.bind, Except.map]
  | ok out => simp [Traced.result_pure, Except.bind, Except.map]

/-! ## Assignments -/

/-- The visit of an assignment that is no write goes on to its value, and nowhere else. -/
theorem result_visit_assignment {target v : Json} {out : Visited}
    (hrecognize : ∀ command, (Recognizer.assignment.recognize roots limit
      (Tree.assignment target v)).result ≠ .ok (.matched command))
    (hmisdirected : isMisdirectedWrite (Tree.assignment target v) roots = false)
    (h : (visit limit (Tree.assignment target v) roots).result = .ok out) :
    (visit limit v roots).result = .ok out := by
  have hdeclare : declare roots (Tree.assignment target v) = pure roots := rfl
  have hoffer : (offer limit roots (Tree.assignment target v)).result = .ok none := by
    obtain ⟨found, hfound⟩ := exists_offer_of_visit rfl hdeclare h
    obtain ⟨outcome, houtcome, -⟩ := Traced.result_bind_eq_ok_iff.mp hfound
    cases outcome with
    | matched command => exact absurd houtcome (hrecognize command)
    | skip why => exact Traced.result_bind_eq_ok_iff.mpr ⟨_, houtcome, rfl⟩
  -- Of the four entries, the value is the only one that is visited and can hold something.
  have htype : isPassedOver roots (Tree.assignment target v) "type" = true := rfl
  have hoperator : isPassedOver roots (Tree.assignment target v) "operator" = false := rfl
  have hleft : isPassedOver roots (Tree.assignment target v) "left" = true := rfl
  have hright : isPassedOver roots (Tree.assignment target v) "right" = false := by
    rw [isPassedOver, hmisdirected]
    rfl
  rw [Tree.assignment, Tree.node] at *
  rw [result_visit_of_offer rfl hdeclare hoffer] at h
  simp only [visit, visitEntries, htype, hoperator, hleft, hright, if_true, Bool.false_eq_true,
    if_false, Traced.result_bind, Traced.result_pure, Except.bind, List.nil_append,
    List.append_nil] at h
  rw [← h]
  cases (visit limit v roots).result <;> rfl

/-- The visit of a member access that is no site goes to the object and on to the index. -/
theorem result_visit_index {o e : Json} {middle : Visited}
    (hskipped : (Recognizer.member.recognize roots limit (Tree.index o e)).verdict = .skipped)
    (hobject : (visit limit o roots).result = .ok middle) :
    (visit limit (Tree.index o e) roots).result =
      (visit limit e middle.roots).result.map fun last ↦
        ⟨last.roots, middle.sites ++ last.sites⟩ := by
  have hdeclare : declare roots (Tree.index o e) = pure roots := rfl
  have hoffer : (offer limit roots (Tree.index o e)).result = .ok none := by
    obtain ⟨why, hwhy⟩ := Traced.verdict_eq_skipped_iff.mp hskipped
    exact Traced.result_bind_eq_ok_iff.mpr ⟨_, hwhy, rfl⟩
  have htype : isPassedOver roots (Tree.index o e) "type" = true := rfl
  have hfirst : isPassedOver roots (Tree.index o e) "object" = false := rfl
  have hsecond : isPassedOver roots (Tree.index o e) "property" = false := rfl
  have hcomputed : isPassedOver roots (Tree.index o e) "computed" = false := rfl
  rw [Tree.index, Tree.node] at *
  rw [result_visit_of_offer rfl hdeclare hoffer]
  simp only [visit, visitEntries, htype, hfirst, hsecond, hcomputed, if_true, Bool.false_eq_true,
    if_false, Traced.result_bind, Traced.result_pure, Except.bind, hobject, List.append_nil]
  cases (visit limit e middle.roots).result <;> rfl

/-- **What is read in the target of an assignment is not found.** Let `o[e] = v` be neither a write
nor one that misses its collection. Its sites are those of `v` alone, so the commands of `e` are
among its commands, in order, exactly if they are among those of `v`. Where the same `o[e]` is not
assigned to, and is no site itself, the sites of `e` are found after those of `o`, if `o` declares
no root. -/
theorem analyze_index_assignment {config : Config} (hconfig : config.validate = .ok ())
    {o e v : Json} {sites reads : List Site}
    (hrecognize : ∀ command, (Recognizer.assignment.recognize (Roots.ofConfig config)
      config.recursionLimit (Tree.assignment (Tree.index o e) v)).result ≠ .ok (.matched command))
    (hmisdirected : isMisdirectedWrite (Tree.assignment (Tree.index o e) v)
      (Roots.ofConfig config) = false)
    (hsites : (analyze config (Tree.program
      [Tree.expressionStatement (Tree.assignment (Tree.index o e) v)])).result = .ok sites)
    (hreads : (analyze config (Tree.program [Tree.expressionStatement e])).result = .ok reads) :
    (analyze config (Tree.program [Tree.expressionStatement v])).result = .ok sites ∧
      ((reads.map Site.command).Sublist (sites.map Site.command) ↔
        ∃ found, (analyze config (Tree.program [Tree.expressionStatement v])).result = .ok found ∧
          (reads.map Site.command).Sublist (found.map Site.command)) ∧
      ∀ found, (Recognizer.member.recognize (Roots.ofConfig config) config.recursionLimit
          (Tree.index o e)).verdict = .skipped →
        (visit config.recursionLimit o (Roots.ofConfig config)).result =
          .ok ⟨Roots.ofConfig config, found⟩ →
        (analyze config (Tree.program [Tree.expressionStatement (Tree.index o e)])).result =
          .ok (found ++ reads) := by
  obtain ⟨out, hout, rfl⟩ := (analyze_expression_eq_ok_iff hconfig).mp hsites
  obtain ⟨last, hlast, rfl⟩ := (analyze_expression_eq_ok_iff hconfig).mp hreads
  have hvalue : (analyze config (Tree.program [Tree.expressionStatement v])).result =
      .ok out.sites := (analyze_expression_eq_ok_iff hconfig).mpr
    ⟨out, result_visit_assignment hrecognize hmisdirected hout, rfl⟩
  refine ⟨hvalue, ⟨fun hsublist ↦ ⟨out.sites, hvalue, hsublist⟩, ?_⟩, ?_⟩
  · rintro ⟨found, hfound, hsublist⟩
    cases hvalue.symm.trans hfound
    exact hsublist
  · intro found hskipped hobject
    refine (analyze_expression_eq_ok_iff hconfig).mpr ⟨⟨last.roots, found ++ last.sites⟩, ?_, rfl⟩
    rw [result_visit_index hskipped hobject, hlast]
    rfl

/-- `xs[db.todos.length] = db.todos` has the site of its value only, and `xs[db.todos.length]` has
that of its index. -/
theorem analyze_index_assignment_length :
    let config : Config := { roots := ["db"] }
    let todos := Tree.member (Tree.identifier "db") "todos"
    let read := Tree.index (Tree.identifier "xs") (Tree.member todos "length")
    let length : Site := ⟨none, .value "length" (.collection ⟨"db", "todos"⟩)⟩
    let whole : Site := ⟨none, .collection ⟨"db", "todos"⟩⟩
    (analyze config (Tree.program
        [Tree.expressionStatement (Tree.assignment read todos)])).result = .ok [whole] ∧
      (analyze config (Tree.program [Tree.expressionStatement todos])).result = .ok [whole] ∧
      (analyze config (Tree.program [Tree.expressionStatement read])).result = .ok [length] := by
  intro config todos read length whole
  have hskipped : (Recognizer.assignment.recognize (Roots.ofConfig config) config.recursionLimit
      (Tree.assignment read todos)).verdict = .skipped := rfl
  have hrecognize : ∀ command, (Recognizer.assignment.recognize (Roots.ofConfig config)
      config.recursionLimit (Tree.assignment read todos)).result ≠ .ok (.matched command) := by
    intro command hcommand
    rw [Traced.verdict_eq_matched_iff.mpr hcommand] at hskipped
    cases hskipped
  have hsites : (analyze config (Tree.program
      [Tree.expressionStatement (Tree.assignment read todos)])).result = .ok [whole] :=
    toOption_eq_some_iff.mp (by decide +kernel)
  have hreads : (analyze config (Tree.program
      [Tree.expressionStatement (Tree.member todos "length")])).result = .ok [length] :=
    toOption_eq_some_iff.mp (by decide +kernel)
  obtain ⟨hvalue, -, hread⟩ :=
    analyze_index_assignment rfl hrecognize (by decide +kernel) hsites hreads
  exact ⟨hsites, hvalue, hread [] rfl (toOption_eq_some_iff.mp (by decide +kernel))⟩

/-- `xs[db.todos.length] = "v"` has no site, although its index by itself has one. -/
theorem analyze_index_assignment_lost :
    let config : Config := { roots := ["db"] }
    let length := Tree.member (Tree.member (Tree.identifier "db") "todos") "length"
    let node := Tree.assignment (Tree.index (Tree.identifier "xs") length) (Tree.string "v")
    let site : Site := ⟨none, .value "length" (.collection ⟨"db", "todos"⟩)⟩
    config.validate = .ok () ∧
      (Recognizer.assignment.recognize (Roots.ofConfig config) config.recursionLimit node).verdict =
        .skipped ∧
      isMisdirectedWrite node (Roots.ofConfig config) = false ∧
      (analyze config (Tree.program [Tree.expressionStatement node])).result = .ok [] ∧
      (analyze config (Tree.program [Tree.expressionStatement length])).result = .ok [site] := by
  intro config length node site
  exact ⟨rfl, rfl, by decide +kernel, toOption_eq_some_iff.mp (by decide +kernel),
    toOption_eq_some_iff.mp (by decide +kernel)⟩

end Program

end FluentQuery
