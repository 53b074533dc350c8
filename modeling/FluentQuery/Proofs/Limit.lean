import FluentQuery.Proofs.Coincide
import FluentQuery.Proofs.Depth
import FluentQuery.Proofs.Survey

/-!
# What the recursion limit can do

The limit is there to stop the analysis of a chain that is nested too deep. It must do nothing else:
a limit that is hit inside a chain must not turn into a skip there, after which another operation,
or another node, is taken for a match.

An analysis under one limit is therefore compared with the same analysis under a greater one. Either
it *is cut off*, and then it fails with that limit, or it is the same, down to the events on the way
(`Traced.CutAt`). The relation is kept by going on after an analysis, and so passes from the
resolver to a visit by induction along the document.

A limit that cuts off nothing always exists. Each level of resolution takes one step towards the
start of a chain, and a step leads to a smaller node, so that no chain is longer than its node is
large. With this, all limits below some number are too small, and all others do not matter at all.
-/

namespace FluentQuery

/-! ## Steps lead to smaller nodes -/

namespace Json

theorem sizeOf_lt_of_field? {v w : Json} {name : String} (h : v.field? name = some w) :
    sizeOf w < sizeOf v := by
  obtain ⟨u, hu, rfl⟩ := Option.map_eq_some_iff.mp h
  have houter := sizeOf_unparen_le v
  have hinner := sizeOf_unparen_le u
  have hstep : sizeOf u < sizeOf v.unparen := by
    cases hplain : v.unparen with
    | object entries =>
      rw [hplain] at hu
      exact sizeOf_lt_of_find? hu
    | _ =>
      rw [hplain] at hu
      cases hu
  omega

theorem sizeOf_le_of_at? {v w : Json} {p : Position} (h : v.at? p = some w) :
    sizeOf w ≤ sizeOf v := by
  induction p generalizing v with
  | nil =>
    cases h
    exact le_rfl
  | cons i p ih =>
    obtain ⟨c, hc, hp⟩ := at?_cons_eq_some_iff.mp h
    have hchild := sizeOf_lt_of_mem_children (List.mem_of_getElem? hc)
    have hrest := ih hp
    omega

end Json

theorem Attachment.sizeOf_lt_of_predecessor? {a : Attachment} {node inner : Json}
    (h : a.predecessor? node = some inner) : sizeOf inner < sizeOf node := by
  cases a with
  | call =>
    obtain ⟨callee, hcallee, hobject⟩ := Option.bind_eq_some_iff.mp h
    exact (Json.sizeOf_lt_of_field? hobject).trans (Json.sizeOf_lt_of_field? hcallee)
  | member => exact Json.sizeOf_lt_of_field? h
  | identifier => cases h
  | assignment => exact Json.sizeOf_lt_of_field? h

/-! ## Analyses that are too deep -/

theorem Operation.verdict_commit_ne_tooDeep {op : Operation} {roots : Roots} {node : Json}
    {source : Option Command} {n : Nat} :
    (op.commit roots node source).verdict ≠ .failed (.tooDeep n) := by
  intro h
  rcases verdict_commit_eq_failed_iff.mp h with ⟨why, -, hfailure⟩ | ⟨arguments, -, -, hfailure⟩
  · cases hfailure
  · cases hfailure

/-- Resolution that is too deep says so with its limit, and has no more levels than the node is
large: each level has gone on to a smaller node. -/
theorem Table.tooDeep_of_resolveAt {table : Table} {roots : Roots} {limit depth n : Nat}
    {whitelist : Option (List OpId)} {node : Json}
    (h : (table.resolveAt roots limit depth whitelist node).verdict = .failed (.tooDeep n)) :
    n = limit ∧ depth ≤ sizeOf node := by
  induction depth generalizing whitelist node with
  | zero =>
    cases h
    exact ⟨rfl, Nat.zero_le _⟩
  | succ depth ih =>
    obtain ⟨op, -, -, -, hattempt⟩ := resolveAt_succ_cases h (by simp)
    obtain ⟨-, ⟨inner, failure, -, hstep, hinner, hfailure⟩ | ⟨source, -, hcommit⟩⟩ :=
      Operation.attempt_cases hattempt (by simp)
    · cases hfailure
      obtain ⟨rfl, hdepth⟩ := ih hinner
      have hsmaller := Attachment.sizeOf_lt_of_predecessor? hstep
      have hplain := Json.sizeOf_unparen_le node
      exact ⟨rfl, by omega⟩
    · exact absurd hcommit Operation.verdict_commit_ne_tooDeep

/-- A visit that is too deep says so with its limit, which is not greater than the document. -/
theorem Program.tooDeep_of_visit {limit n : Nat} {v : Json} {roots : Roots}
    (h : (visit limit v roots).result = .error (.tooDeep n)) : n = limit ∧ limit ≤ sizeOf v := by
  obtain ⟨stops, out, hwalk, hresult⟩ := walk_of_visit limit v roots
  have hout : out = .error (.tooDeep n) := by
    rw [hresult] at h
    cases out with
    | error failure => exact congrArg Except.error (Except.error.inj h)
    | ok last => cases h
  -- The walk fails at its last stop, whose node stands in the document.
  obtain ⟨before, last, rfl, hlast, -⟩ := hwalk.ending.error _ hout
  obtain ⟨hat, -⟩ := hwalk.survey.located last (List.mem_append_right _ (List.mem_singleton_self _))
  have hsize := Json.sizeOf_le_of_at? hat
  rw [Stop.verdict] at hlast
  split at hlast
  · cases hlast
  · rw [Recognizer.verdict_recognize, Verdict.map_eq_failed_iff] at hlast
    obtain ⟨rfl, hdepth⟩ := Table.tooDeep_of_resolveAt hlast
    exact ⟨rfl, by omega⟩

/-! ## Analyses that are cut off -/

namespace Traced

variable {α β : Type} {limit : Nat}

/-- An analysis under a limit is the whole analysis, unless it is cut off. -/
def CutAt (limit : Nat) (t whole : Traced α) : Prop :=
  t.result = .error (.tooDeep limit) ∨ t = whole

theorem CutAt.refl (t : Traced α) : CutAt limit t t := Or.inr rfl

/-- What goes on after a cut analysis is cut there, or later. -/
theorem CutAt.bind {t whole : Traced α} {f g : α → Traced β} (h : CutAt limit t whole)
    (hf : ∀ a, CutAt limit (f a) (g a)) : CutAt limit (t >>= f) (whole >>= g) := by
  obtain ⟨events, result⟩ := t
  rcases h with hcut | rfl
  · cases hcut
    exact Or.inl rfl
  · cases result with
    | error failure => exact .refl _
    | ok a =>
      rcases hf a with hcut | hsame
      · exact Or.inl hcut
      · refine Or.inr ?_
        simp only [Bind.bind, Traced.bind, hsame]

theorem CutAt.eq {t whole : Traced α} (h : CutAt limit t whole)
    (ht : ∀ n, t.result ≠ .error (.tooDeep n)) : whole = t := by
  rcases h with hcut | rfl
  · exact absurd hcut (ht limit)
  · rfl

/-- If some limits are enough, the limits that are too small are those below some number. -/
theorem exists_needed (run : Nat → Traced α) {size : Nat}
    (hcut : ∀ {limit limit' : Nat}, limit ≤ limit' → CutAt limit (run limit) (run limit'))
    (hdeep : ∀ {limit n : Nat}, (run limit).result = .error (.tooDeep n) →
      n = limit ∧ limit ≤ size) :
    ∃ needed, ∀ limit, (run limit).result = .error (.tooDeep limit) ↔ limit < needed := by
  classical
  have henough : ∃ limit, (run limit).result ≠ .error (.tooDeep limit) := by
    refine ⟨size + 1, fun h ↦ ?_⟩
    have hle := (hdeep h).2
    omega
  refine ⟨Nat.find henough, fun limit ↦ ?_⟩
  rw [Nat.lt_find_iff]
  constructor
  · -- A smaller limit is cut off as well, or it would give the failure of the greater one.
    intro h small hle hsmall
    rcases hcut hle with hcut | hsame
    · exact hsmall hcut
    · rw [← hsame] at h
      obtain ⟨rfl, -⟩ := hdeep h
      exact hsmall h
  · intro h
    exact not_not.mp (h limit le_rfl)

end Traced

open Traced (CutAt)

/-- Two visits one after the other. -/
theorem Traced.CutAt.append {limit : Nat} {first first' : Traced Program.Visited}
    {rest rest' : Roots → Traced Program.Visited}
    (hfirst : CutAt limit first first') (hrest : ∀ roots, CutAt limit (rest roots) (rest' roots)) :
    CutAt limit (do
      let a ← first
      let b ← rest a.roots
      return (⟨b.roots, a.sites ++ b.sites⟩ : Program.Visited)) (do
      let a ← first'
      let b ← rest' a.roots
      return (⟨b.roots, a.sites ++ b.sites⟩ : Program.Visited)) :=
  hfirst.bind fun a ↦ (hrest a.roots).bind fun _ ↦ .refl _

theorem Table.cutAt_analyze {table : Table} {roots : Roots} {limit limit' : Nat}
    (hle : limit ≤ limit') (whitelist : List OpId) (node : Json) :
    CutAt limit (table.analyze roots limit whitelist node)
      (table.analyze roots limit' whitelist node) := by
  by_cases hcut : (table.analyze roots limit whitelist node).verdict = .failed (.tooDeep limit)
  · exact Or.inl (Traced.verdict_eq_failed_iff.mp hcut)
  · exact Or.inr (resolveAt_eq_of_le hle hcut).symm

namespace Program

variable {limit limit' : Nat}

theorem cutAt_offer (hle : limit ≤ limit') (roots : Roots) (node : Json) :
    CutAt limit (offer limit roots node) (offer limit' roots node) := by
  rw [offer, offer]
  cases node.kind?.bind Recognizer.ofKind? with
  | none => exact .refl _
  | some r =>
    have hrecognize : CutAt limit (r.recognize roots limit node) (r.recognize roots limit' node) :=
      (Table.cutAt_analyze hle r.operations node).bind fun _ ↦ .refl _
    exact hrecognize.bind fun _ ↦ .refl _

mutual

theorem cutAt_visit (hle : limit ≤ limit') : ∀ (v : Json) (roots : Roots),
    CutAt limit (visit limit v roots) (visit limit' v roots)
  | .null, _ => .refl _
  | .bool _, _ => .refl _
  | .number _, _ => .refl _
  | .string _, _ => .refl _
  | .array items, roots => cutAt_visitItems hle items roots
  | .object entries, roots => by
    rw [visit, visit]
    split
    · refine (CutAt.refl (declare roots _)).bind fun after ↦ ?_
      refine (cutAt_offer hle after _).bind fun found ↦ ?_
      cases found with
      | some command => exact .refl _
      | none => exact cutAt_visitEntries hle _ entries after
    · exact .refl _

theorem cutAt_visitItems (hle : limit ≤ limit') : ∀ (items : List Json) (roots : Roots),
    CutAt limit (visitItems limit items roots) (visitItems limit' items roots)
  | [], _ => .refl _
  | v :: rest, roots => (cutAt_visit hle v roots).append (cutAt_visitItems hle rest)

theorem cutAt_visitEntries (hle : limit ≤ limit') (passedOver : String → Bool) :
    ∀ (entries : List (String × Json)) (roots : Roots),
      CutAt limit (visitEntries limit passedOver entries roots)
        (visitEntries limit' passedOver entries roots)
  | [], _ => .refl _
  | (key, v) :: rest, roots => by
    rw [visitEntries, visitEntries]
    split
    · exact cutAt_visitEntries hle passedOver rest roots
    · exact (cutAt_visit hle v roots).append (cutAt_visitEntries hle passedOver rest)

end

/-! ## Configurations that differ in the limit -/

variable {config : Config} {program : Json} {n : Nat}

/-- Of a valid configuration only the limit zero makes an invalid one. -/
theorem validate_setLimit_iff (hconfig : config.validate = .ok ()) :
    (config.setLimit limit).validate = .ok () ↔ 0 < limit := by
  rw [Config.validate] at hconfig
  simp only [Config.validate, Config.setLimit]
  grind

theorem analyze_eq_tooDeep_iff (hconfig : config.validate = .ok ()) :
    (analyze config program).result = .error (.tooDeep n) ↔
      (visit config.recursionLimit program (Roots.ofConfig config)).result =
        .error (.tooDeep n) := by
  simp only [analyze, hconfig, Traced.result_bind]
  cases (visit config.recursionLimit program (Roots.ofConfig config)).result with
  | error failure => simp [Except.bind]
  | ok visited => simp [Except.bind, Traced.result_pure]

theorem tooDeep_of_analyze (h : (analyze config program).result = .error (.tooDeep n)) :
    n = config.recursionLimit ∧ config.recursionLimit ≤ sizeOf program := by
  cases hconfig : config.validate with
  | error fault =>
    rw [analyze, hconfig] at h
    cases h
  | ok valid => exact tooDeep_of_visit ((analyze_eq_tooDeep_iff hconfig).mp h)

theorem cutAt_analyze (hconfig : config.validate = .ok ())
    (hle : config.recursionLimit ≤ limit) (program : Json) :
    CutAt config.recursionLimit (analyze config program)
      (analyze (config.setLimit limit) program) := by
  have hpos : 0 < config.recursionLimit := (validate_setLimit_iff hconfig).mp hconfig
  have hvalid := (validate_setLimit_iff hconfig).mpr (hpos.trans_le hle)
  simp only [analyze, hconfig, hvalid]
  exact (cutAt_visit hle program _).bind fun _ ↦ .refl _

end Program

/-- **The recursion limit only cuts off.** Whatever the table, a node that is not too deep under
some limit comes to the same under every greater one, with the same events on the way; and so does a
program, under configurations that differ in the limit only. What is too deep says so with the limit
that it was analyzed under. And there is always a number from which on no limit is too small. -/
theorem analyze_cutOff :
    (∀ (table : Table) (roots : Roots) (whitelist : List OpId) (node : Json),
      (∀ limit limit', limit ≤ limit' →
        (∀ n, (table.analyze roots limit whitelist node).result ≠ .error (.tooDeep n)) →
        table.analyze roots limit' whitelist node = table.analyze roots limit whitelist node) ∧
      (∀ limit n, (table.analyze roots limit whitelist node).result = .error (.tooDeep n) →
        n = limit) ∧
      ∃ needed, ∀ limit, (table.analyze roots limit whitelist node).result =
        .error (.tooDeep limit) ↔ limit < needed) ∧
    ∀ (config : Config) (program : Json),
      (∀ n, (Program.analyze config program).result = .error (.tooDeep n) →
        n = config.recursionLimit) ∧
      (config.validate = .ok () →
        (∀ limit, config.recursionLimit ≤ limit →
          (∀ n, (Program.analyze config program).result ≠ .error (.tooDeep n)) →
          Program.analyze (config.setLimit limit) program = Program.analyze config program) ∧
        ∃ needed, ∀ limit, 0 < limit →
          ((Program.analyze (config.setLimit limit) program).result = .error (.tooDeep limit) ↔
            limit < needed)) := by
  constructor
  · intro table roots whitelist node
    have hdeep : ∀ {limit n : Nat},
        (table.analyze roots limit whitelist node).result = .error (.tooDeep n) →
          n = limit ∧ limit ≤ sizeOf node :=
      fun h ↦ Table.tooDeep_of_resolveAt (Traced.verdict_eq_failed_iff.mpr h)
    refine ⟨fun limit limit' hle hnot ↦ ?_, fun limit n h ↦ (hdeep h).1, ?_⟩
    · exact (Table.cutAt_analyze hle whitelist node).eq hnot
    · exact Traced.exists_needed _ (fun hle ↦ Table.cutAt_analyze hle whitelist node) hdeep
  · intro config program
    refine ⟨fun n h ↦ (Program.tooDeep_of_analyze h).1, fun hconfig ↦ ⟨?_, ?_⟩⟩
    · intro limit hle hnot
      exact (Program.cutAt_analyze hconfig hle program).eq hnot
    · obtain ⟨needed, hneeded⟩ := Traced.exists_needed
        (fun limit ↦ Program.visit limit program (Roots.ofConfig config))
        (fun hle ↦ Program.cutAt_visit hle program _) Program.tooDeep_of_visit
      refine ⟨needed, fun limit hlimit ↦ ?_⟩
      rw [← hneeded limit]
      exact Program.analyze_eq_tooDeep_iff ((Program.validate_setLimit_iff hconfig).mpr hlimit)

/-- `db.todos.filter(x => x.done).length` takes three levels: under the limit 2 it is too deep, and
from 3 on it is the number of the documents that are done, by itself and as a program. -/
theorem analyze_cutOff_length :
    let roots : Roots := ⟨[("db", ⟨"app", none⟩)], []⟩
    let config : Config := { roots := ["db"], database := some "app", recursionLimit := 3 }
    let done := Tree.member (Tree.identifier "x") "done"
    let todos := Tree.member (Tree.identifier "db") "todos"
    let node := Tree.member (Tree.method todos "filter" [Tree.arrow ["x"] done]) "length"
    let program := Tree.program [Tree.expressionStatement node]
    let command : Command :=
      .value "length" (.query (.filter done) (.collection ⟨"app", "todos"⟩))
    (Table.standard.analyze roots 2 [.length] node).result = .error (.tooDeep 2) ∧
      (∀ limit, 3 ≤ limit → (Table.standard.analyze roots limit [.length] node).result =
        .ok (.matched ⟨.length, command⟩)) ∧
      config.validate = .ok () ∧
      ∀ limit, config.recursionLimit ≤ limit →
        (Program.analyze (config.setLimit limit) program).result = .ok [⟨none, command⟩] := by
  intro roots config done todos node program command
  obtain ⟨htables, hprograms⟩ := analyze_cutOff
  have hnode : (Table.standard.analyze roots 3 [.length] node).result =
      .ok (.matched ⟨.length, command⟩) := rfl
  have hprogram : (Program.analyze config program).result = .ok [⟨none, command⟩] :=
    Program.toOption_eq_some_iff.mp (by decide +kernel)
  have hconfig : config.validate = .ok () := rfl
  refine ⟨rfl, fun limit hle ↦ ?_, hconfig, fun limit hle ↦ ?_⟩
  · rw [(htables _ _ _ _).1 3 limit hle (by simp [hnode]), hnode]
  · rw [((hprograms config program).2 hconfig).1 limit hle (by simp [hprogram]), hprogram]

end FluentQuery
