import FluentQuery.Node.Build
import FluentQuery.Proofs.Survey

/-!
# Tracers

An analysis records its events beside its result, and what is shown of them is decided afterwards.
Another way to watch an analysis is to hand it a *tracer*: something with a state of its own that is
told each event at the moment it happens. The state then runs through the whole analysis, through
every visit, every recognizer and every level of resolution, and a failure leaves it as it is at
that moment.

Here the analysis is written out once more in that way, and shown to come to the same as the one
that records (`follows_analyze`): whatever the tracer does with what it is told, the result is the
same, and its state at the end is what the recorded events make of it, one after the other. A tracer
that prints lines can then do no more than select from the recorded events.

Where the events come from is a matter of the walk over the program: each stop adds those of its
declaration and of its recognizer, and a walk that fails has added nothing after the stop at which
it fails.
-/

namespace FluentQuery

/-- Something that is told what happens during an analysis, with a state of its own. -/
structure Tracer (σ : Type) where
  /-- The state after an event. -/
  hear : σ → Event → σ

/-- An analysis under a tracer. A failure ends it and leaves the state of the tracer as it is. -/
abbrev Watched (σ α : Type) : Type := ExceptT Failure (StateM σ) α

/-- The result of an analysis under a tracer, and the state of the tracer at the end. -/
def Watched.runFrom {σ α : Type} (watched : Watched σ α) (s : σ) : Except Failure α × σ :=
  StateT.run watched.run s

theorem Watched.runFrom_bind {σ α β : Type} (watched : Watched σ α) (f : α → Watched σ β) (s : σ) :
    (watched >>= f).runFrom s = match watched.runFrom s with
      | (.ok a, after) => (f a).runFrom after
      | (.error failure, after) => (.error failure, after) := by
  rw [runFrom, runFrom, ExceptT.run_bind, StateT.run_bind]
  generalize StateT.run watched.run s = out
  obtain ⟨result, after⟩ := out
  cases result <;> rfl

namespace Tracer

variable {σ : Type} (tracer : Tracer σ)

/-! ## The analysis under a tracer -/

/-- Tell the tracer of an event. -/
def tell (event : Event) : Watched σ Unit :=
  ExceptT.mk fun s ↦ (.ok (), tracer.hear s event)

/-- Read the arguments of a committed node and build its command. -/
def commit (op : Operation) (roots : Roots) (node : Json) (source : Option Command) :
    Watched σ (Outcome Resolved) :=
  match op.extract node roots with
  | .skip why => throw (.malformed op.id why node.span?)
  | .matched arguments =>
    match op.build source arguments with
    | none => throw (.unbuildable op.id node.span?)
    | some command => pure (.matched ⟨op.id, command⟩)

/-- Resolve the node before an operation, and commit to the operation if it may follow. -/
def attemptAfter (resolve : Json → Watched σ (Outcome Resolved)) (op : Operation) (roots : Roots)
    (node : Json) : Watched σ (Outcome Resolved) :=
  match op.attachment.predecessor? node with
  | none => pure (.refuse "operation has no source expression")
  | some inner => do
    match ← resolve inner with
    | .skip why => return .skip (.within "source" why)
    | .matched before =>
      if op.follows.contains before.id then commit op roots node (some before.command)
      else
        tracer.tell (.rejected op.id before.id node)
        return .refuse ("`" ++ op.id.text ++ "` cannot follow `" ++ before.id.text ++ "`")

/-- Try an operation on a node. -/
def attempt (resolve : Json → Watched σ (Outcome Resolved)) (op : Operation) (roots : Roots)
    (node : Json) : Watched σ (Outcome Resolved) :=
  match op.testShape roots node with
  | .skip why => pure (.skip why)
  | .matched () =>
    if op.isInitial then commit op roots node none else tracer.attemptAfter resolve op roots node

/-- Try operations on a node until one matches. -/
def tryAll (resolve : Json → Watched σ (Outcome Resolved)) (roots : Roots) (node : Json) :
    List Operation → List Skip → Watched σ (Outcome Resolved)
  | [], refused => pure (.skip (Table.noMatch node refused.reverse))
  | op :: rest, refused => do
    tracer.tell (.candidate op.id node)
    match ← tracer.attempt resolve op roots node with
    | .matched resolved =>
      tracer.tell (.built resolved.command node)
      return .matched resolved
    | .skip why =>
      tracer.tell (.skipped op.id.text node why)
      tryAll resolve roots node rest (.within op.id.text why :: refused)

/-- Resolve a node with `depth` levels left out of `limit`. -/
def resolveAt (table : Table) (roots : Roots) (limit : Nat) :
    Nat → Option (List OpId) → Json → Watched σ (Outcome Resolved)
  | 0, _, _ => throw (.tooDeep limit)
  | depth + 1, whitelist, node =>
    tracer.tryAll (resolveAt table roots limit depth none) roots node.unparen
      (table.candidates whitelist node.unparen) []

/-- The command that a node stands for. -/
def recognize (r : Recognizer) (roots : Roots) (limit : Nat) (node : Json) :
    Watched σ (Outcome Command) := do
  return (← tracer.resolveAt Table.standard roots limit limit (some r.operations) node).map
    Resolved.command

/-- Extend the roots by the binding that a declaration makes, if the name is new. -/
def declare (roots : Roots) (node : Json) : Watched σ Roots :=
  if node.isKind Kind.declarator then
    match roots.declaration node with
    | .skip _ => pure roots
    | .matched (name, binding) =>
      if roots.contains name then pure roots
      else do
        tracer.tell (.root name binding)
        return roots.declare name binding
  else pure roots

/-- Offer a node to the recognizer of its kind, if there is one. -/
def offer (limit : Nat) (roots : Roots) (node : Json) : Watched σ (Option Command) :=
  match node.kind?.bind Recognizer.ofKind? with
  | none => pure none
  | some r => do return (← tracer.recognize r roots limit node).toOption

mutual

/-- Visit a value. -/
def visit (limit : Nat) : Json → Roots → Watched σ Program.Visited
  | .array items, roots => visitItems limit items roots
  | .object entries, roots =>
    if (Json.kindOf? entries).isSome then do
      let node := Json.object entries
      let roots ← tracer.declare roots node
      match ← tracer.offer limit roots node with
      | some command => return ⟨roots, [⟨node.span?, command⟩]⟩
      | none => visitEntries limit (Program.isPassedOver roots node) entries roots
    else pure ⟨roots, []⟩
  | _, roots => pure ⟨roots, []⟩

/-- Visit items one after the other. -/
def visitItems (limit : Nat) : List Json → Roots → Watched σ Program.Visited
  | [], roots => pure ⟨roots, []⟩
  | v :: rest, roots => do
    let first ← visit limit v roots
    let others ← visitItems limit rest first.roots
    return ⟨others.roots, first.sites ++ others.sites⟩

/-- Visit entries one after the other, but for those that are passed over. -/
def visitEntries (limit : Nat) (passedOver : String → Bool) :
    List (String × Json) → Roots → Watched σ Program.Visited
  | [], roots => pure ⟨roots, []⟩
  | (key, v) :: rest, roots =>
    if passedOver key then visitEntries limit passedOver rest roots
    else do
      let first ← visit limit v roots
      let others ← visitEntries limit passedOver rest first.roots
      return ⟨others.roots, first.sites ++ others.sites⟩

end

/-- The sites of a program, in source order. -/
def analyze (config : Config) (program : Json) : Watched σ (List Site) :=
  match config.validate with
  | .error fault => throw (.invalidConfig fault)
  | .ok () => do
    return (← tracer.visit config.recursionLimit program (Roots.ofConfig config)).sites

/-! ## Telling and recording agree -/

variable {α β : Type}

/-- An analysis under a tracer follows a recorded one: it has the same result, and the tracer is
told the recorded events, in order. -/
def Follows (watched : Watched σ α) (traced : Traced α) : Prop :=
  ∀ s, watched.runFrom s = (traced.result, traced.events.foldl tracer.hear s)

variable {tracer}

theorem follows_pure (a : α) : tracer.Follows (pure a) (pure a) := fun _ ↦ rfl

theorem follows_throw (failure : Failure) :
    tracer.Follows (throw failure : Watched σ α) (.fail failure) := fun _ ↦ rfl

theorem follows_tell (event : Event) : tracer.Follows (tracer.tell event) (.emit event) :=
  fun _ ↦ rfl

theorem Follows.bind {watched : Watched σ α} {traced : Traced α} {f : α → Watched σ β}
    {g : α → Traced β} (h : tracer.Follows watched traced)
    (hf : ∀ a, tracer.Follows (f a) (g a)) : tracer.Follows (watched >>= f) (traced >>= g) := by
  intro s
  rw [Watched.runFrom_bind, h s]
  obtain ⟨events, result⟩ := traced
  cases result with
  | error failure => rfl
  | ok a =>
    have hafter := hf a (events.foldl tracer.hear s)
    rwa [← List.foldl_append] at hafter

/-- What is told of an event and then goes on follows what is recorded so. -/
theorem Follows.tell {f : Watched σ α} {g : Traced α} (event : Event) (h : tracer.Follows f g) :
    tracer.Follows (do tracer.tell event; f) (do Traced.emit event; g) :=
  (follows_tell event).bind fun _ ↦ h

section Resolver

variable {watched : Json → Watched σ (Outcome Resolved)} {traced : Json → Traced (Outcome Resolved)}
  {roots : Roots} {node : Json}

theorem follows_commit (op : Operation) (source : Option Command) :
    tracer.Follows (commit op roots node source) (op.commit roots node source) := by
  rw [commit, Operation.commit]
  cases op.extract node roots with
  | skip why => exact follows_throw _
  | matched arguments =>
    dsimp only
    cases op.build source arguments with
    | none => exact follows_throw _
    | some command => exact follows_pure _

theorem follows_attemptAfter (h : ∀ v, tracer.Follows (watched v) (traced v)) (op : Operation) :
    tracer.Follows (tracer.attemptAfter watched op roots node)
      (op.attemptAfter traced roots node) := by
  rw [attemptAfter, Operation.attemptAfter]
  cases op.attachment.predecessor? node with
  | none => exact follows_pure _
  | some inner =>
    refine (h inner).bind fun outcome ↦ ?_
    cases outcome with
    | skip why => exact follows_pure _
    | matched before =>
      dsimp only
      split
      · exact follows_commit op _
      · exact (follows_pure _).tell _

theorem follows_attempt (h : ∀ v, tracer.Follows (watched v) (traced v)) (op : Operation) :
    tracer.Follows (tracer.attempt watched op roots node) (op.attempt traced roots node) := by
  rw [attempt, Operation.attempt]
  cases op.testShape roots node with
  | skip why => exact follows_pure _
  | matched passed =>
    dsimp only
    split
    · exact follows_commit op none
    · exact follows_attemptAfter h op

theorem follows_tryAll (h : ∀ v, tracer.Follows (watched v) (traced v)) (ops : List Operation)
    (refused : List Skip) : tracer.Follows (tracer.tryAll watched roots node ops refused)
      (Table.tryAll traced roots node ops refused) := by
  induction ops generalizing refused with
  | nil => exact follows_pure _
  | cons op rest ih =>
    rw [tryAll, Table.tryAll]
    refine ((follows_attempt h op).bind fun outcome ↦ ?_).tell _
    cases outcome with
    | matched resolved => exact (follows_pure _).tell _
    | skip why => exact (ih _).tell _

/-- Level by level, resolving a node under a tracer follows resolving it. -/
theorem follows_resolveAt (table : Table) (limit depth : Nat) (whitelist : Option (List OpId))
    (node : Json) : tracer.Follows (tracer.resolveAt table roots limit depth whitelist node)
      (table.resolveAt roots limit depth whitelist node) := by
  induction depth generalizing whitelist node with
  | zero => exact follows_throw _
  | succ depth ih => exact follows_tryAll (ih none) _ []

end Resolver

theorem follows_recognize (r : Recognizer) (roots : Roots) (limit : Nat) (node : Json) :
    tracer.Follows (tracer.recognize r roots limit node) (r.recognize roots limit node) :=
  (follows_resolveAt Table.standard limit limit _ node).bind fun _ ↦ follows_pure _

theorem follows_declare (roots : Roots) (node : Json) :
    tracer.Follows (tracer.declare roots node) (Program.declare roots node) := by
  rw [declare, Program.declare]
  split
  · cases roots.declaration node with
    | skip why => exact follows_pure _
    | matched found =>
      dsimp only
      split
      · exact follows_pure _
      · exact (follows_pure _).tell _
  · exact follows_pure _

theorem follows_offer (limit : Nat) (roots : Roots) (node : Json) :
    tracer.Follows (tracer.offer limit roots node) (Program.offer limit roots node) := by
  rw [offer, Program.offer]
  cases node.kind?.bind Recognizer.ofKind? with
  | none => exact follows_pure _
  | some r => exact (follows_recognize r roots limit node).bind fun _ ↦ follows_pure _

/-- Two visits one after the other. -/
theorem Follows.append {first : Watched σ Program.Visited} {first' : Traced Program.Visited}
    {rest : Roots → Watched σ Program.Visited} {rest' : Roots → Traced Program.Visited}
    (hfirst : tracer.Follows first first')
    (hrest : ∀ roots, tracer.Follows (rest roots) (rest' roots)) :
    tracer.Follows (do
      let a ← first
      let b ← rest a.roots
      return (⟨b.roots, a.sites ++ b.sites⟩ : Program.Visited)) (do
      let a ← first'
      let b ← rest' a.roots
      return (⟨b.roots, a.sites ++ b.sites⟩ : Program.Visited)) :=
  hfirst.bind fun a ↦ (hrest a.roots).bind fun _ ↦ follows_pure _

mutual

theorem follows_visit (limit : Nat) : ∀ (v : Json) (roots : Roots),
    tracer.Follows (tracer.visit limit v roots) (Program.visit limit v roots)
  | .null, roots => follows_pure _
  | .bool _, roots => follows_pure _
  | .number _, roots => follows_pure _
  | .string _, roots => follows_pure _
  | .array items, roots => follows_visitItems limit items roots
  | .object entries, roots => by
    rw [visit, Program.visit]
    split
    · refine (follows_declare roots _).bind fun after ↦ ?_
      refine (follows_offer limit after _).bind fun found ↦ ?_
      cases found with
      | some command => exact follows_pure _
      | none => exact follows_visitEntries limit _ entries after
    · exact follows_pure _

theorem follows_visitItems (limit : Nat) : ∀ (items : List Json) (roots : Roots),
    tracer.Follows (tracer.visitItems limit items roots) (Program.visitItems limit items roots)
  | [], _ => follows_pure _
  | v :: rest, roots => (follows_visit limit v roots).append (follows_visitItems limit rest)

theorem follows_visitEntries (limit : Nat) (passedOver : String → Bool) :
    ∀ (entries : List (String × Json)) (roots : Roots),
      tracer.Follows (tracer.visitEntries limit passedOver entries roots)
        (Program.visitEntries limit passedOver entries roots)
  | [], roots => follows_pure _
  | (key, v) :: rest, roots => by
    rw [visitEntries, Program.visitEntries]
    split
    · exact follows_visitEntries limit passedOver rest roots
    · exact (follows_visit limit v roots).append (follows_visitEntries limit passedOver rest)

end

/-- **A tracer does not interfere.** Under any tracer the analysis has the result that it has, and
the tracer is told its events, in order, also if it fails. -/
theorem follows_analyze (config : Config) (program : Json) :
    tracer.Follows (tracer.analyze config program) (Program.analyze config program) := by
  rw [analyze, Program.analyze]
  cases config.validate with
  | error fault => exact follows_throw _
  | ok valid => exact (follows_visit _ program _).bind fun _ ↦ follows_pure _

/-! ## Tracers in use -/

/-- A tracer that hears nothing. -/
def silent : Tracer Unit where
  hear _ _ := ()

/-- A tracer that keeps a line for each event that is shown. -/
def printing (verbosity : Verbosity) : Tracer (List String) where
  hear lines event := if event.shownAt verbosity then lines ++ [event.line] else lines

theorem foldl_printing (verbosity : Verbosity) (events : List Event) (lines : List String) :
    events.foldl (printing verbosity).hear lines = lines ++ traceLines verbosity events := by
  induction events generalizing lines with
  | nil => exact (List.append_nil lines).symm
  | cons event rest ih =>
    rw [List.foldl_cons, ih]
    by_cases hshown : event.shownAt verbosity = true
    · have hhear : (printing verbosity).hear lines event = lines ++ [event.line] := if_pos hshown
      rw [hhear, traceLines, traceLines, List.filter_cons_of_pos hshown, List.map_cons,
        List.append_assoc, List.singleton_append]
    · have hhear : (printing verbosity).hear lines event = lines := if_neg hshown
      rw [hhear, traceLines, traceLines, List.filter_cons_of_neg hshown]

/-- A printing tracer ends with the lines of the recorded trace. -/
theorem runFrom_printing (verbosity : Verbosity) (config : Config) (program : Json) :
    ((printing verbosity).analyze config program).runFrom [] =
      ((Program.analyze config program).result,
        traceLines verbosity (Program.analyze config program).events) := by
  rw [follows_analyze config program [], foldl_printing, List.nil_append]

theorem runFrom_silent (config : Config) (program : Json) :
    (silent.analyze config program).runFrom () = ((Program.analyze config program).result, ()) :=
  follows_analyze config program ()

end Tracer

/-! ## Verbosity -/

namespace Event

/-- Whether an event tells of a command, of a rejection or of a root. -/
def isFinding : Event → Bool
  | .built _ _ => true
  | .rejected _ _ _ => true
  | .root _ _ => true
  | .candidate _ _ => false
  | .skipped _ _ _ => false

/-- Whether an event tells of something that did not match. -/
def isSkip : Event → Bool
  | .skipped _ _ _ => true
  | .built _ _ => false
  | .rejected _ _ _ => false
  | .root _ _ => false
  | .candidate _ _ => false

theorem shownAt_normal (event : Event) : event.shownAt .normal = event.isFinding := by
  cases event <;> rfl

theorem shownAt_verbose (event : Event) :
    event.shownAt .verbose = (event.isFinding || event.isSkip) := by
  cases event <;> rfl

end Event

theorem traceLines_veryVerbose (events : List Event) :
    traceLines .veryVerbose events = events.map Event.line := by
  have hall : events.filter (Event.shownAt .veryVerbose) = events :=
    List.filter_eq_self.mpr fun _ _ ↦ rfl
  rw [traceLines, hall]

theorem traceLines_verbose (events : List Event) : traceLines .verbose events =
    (events.filter fun e ↦ e.isFinding || e.isSkip).map Event.line := by
  rw [traceLines, List.filter_congr fun event _ ↦ event.shownAt_verbose]

theorem traceLines_normal (events : List Event) :
    traceLines .normal events = (events.filter Event.isFinding).map Event.line := by
  rw [traceLines, List.filter_congr fun event _ ↦ event.shownAt_normal]

/-! ## The events of a walk -/

namespace Traced

variable {α β : Type}

theorem events_bind_of_ok {t : Traced α} {a : α} (h : t.result = .ok a) (f : α → Traced β) :
    (t >>= f).events = t.events ++ (f a).events := by
  obtain ⟨events, result⟩ := t
  cases h
  rfl

theorem events_map (t : Traced α) (g : α → β) : (do return g (← t)).events = t.events := by
  obtain ⟨events, result⟩ := t
  cases result with
  | ok a => exact List.append_nil events
  | error failure => rfl

theorem events_bind_of_error {t : Traced α} {failure : Failure} (h : t.result = .error failure)
    (f : α → Traced β) : (t >>= f).events = t.events := by
  obtain ⟨events, result⟩ := t
  cases h
  rfl

end Traced

namespace Program

variable {limit : Nat} {program : Json} {roots : Roots} {stops : List Stop}
  {pending : List (Position × Json)} {out : Except Failure Roots}

/-- The events at a stop, from the roots known before it: those of its declaration, and those of its
recognizer, up to a failure if it fails. -/
def Stop.events (limit : Nat) (roots : Roots) (s : Stop) : List Event :=
  (declare roots s.node).events ++ (offer limit s.roots s.node).events

/-- The events at some stops, one after the other. -/
def trail (limit : Nat) : Roots → List Stop → List Event
  | _, [] => []
  | roots, s :: rest => s.events limit roots ++ trail limit s.roots rest

/-- An array among items is visited as its own items would be. -/
theorem visitItems_array (items rest : List Json) (roots : Roots) :
    visitItems limit (.array items :: rest) roots = visitItems limit (items ++ rest) roots := by
  rw [visitItems_append, visitItems, visit]

/-- The entries of a node that are not passed over are visited as items would be. -/
theorem visitEntries_eq_visitItems (p : Position) (k : Nat) (passedOver : String → Bool)
    (entries : List (String × Json)) (roots : Roots) :
    visitEntries limit passedOver entries roots = visitItems limit
      ((entered p passedOver k (Json.object entries).children).map Prod.snd) roots := by
  induction entries generalizing k roots with
  | nil => rfl
  | cons e rest ih =>
    obtain ⟨key, v⟩ := e
    rw [visitEntries, Json.children, List.map_cons, entered, Option.any_some]
    split
    · exact ih (k + 1) roots
    · rw [List.map_cons, visitItems]
      simp only [ih (k + 1)]
      rfl

theorem map_snd_entered_array (p : Position) (k : Nat) (items : List Json) :
    (entered p (fun _ ↦ false) k (Json.array items).children).map Prod.snd = items := by
  induction items generalizing k with
  | nil => rfl
  | cons v rest ih => exact congrArg (v :: ·) (ih (k + 1))

theorem visit_of_kindless {v : Json} (harray : ∀ items, v ≠ .array items) (hkind : v.kind? = none)
    (roots : Roots) : visit limit v roots = pure ⟨roots, []⟩ := by
  cases v with
  | array items => exact absurd rfl (harray items)
  | object entries =>
    have hnone : Json.kindOf? entries = none := hkind
    rw [visit, hnone, if_neg (by simp)]
  | _ => rfl

/-- A node among items is declared and offered. What is in it is visited before the items that
follow, unless it is recognized. -/
theorem visitItems_node {node : Json} (hkind : node.kind?.isSome = true) (p : Position)
    (rest : List Json) (roots : Roots) : visitItems limit (node :: rest) roots = (do
      let after ← declare roots node
      match ← offer limit after node with
      | some command =>
        let b ← visitItems limit rest after
        return ⟨b.roots, ⟨node.span?, command⟩ :: b.sites⟩
      | none =>
        let inside := (entered p (isPassedOver after node) 0 node.children).map Prod.snd
        visitItems limit (inside ++ rest) after) := by
  have hlawful := Traced.lawfulMonad
  cases node with
  | object entries =>
    have hsome : (Json.kindOf? entries).isSome = true := hkind
    rw [visitItems, visit, if_pos hsome]
    simp only [visitEntries_eq_visitItems p 0, bind_assoc]
    congr 1
    funext after
    congr 1
    funext found
    cases found with
    | some command => rfl
    | none => exact (visitItems_append _ _ _).symm
  | _ => cases hkind

/-- The events at a node among items: those of its declaration and of its recognizer come first. -/
theorem events_visitItems_node {node : Json} (hkind : node.kind?.isSome = true) (p : Position)
    (rest : List Json) (roots : Roots) :
    let s : Stop := ⟨p, node, roots.extended node⟩
    (visitItems limit (node :: rest) roots).events = s.events limit roots ++
      match s.verdict limit with
      | .matched _ => (visitItems limit rest s.roots).events
      | .skipped =>
        let inside := (entered p (isPassedOver s.roots node) 0 node.children).map Prod.snd
        (visitItems limit (inside ++ rest) s.roots).events
      | .failed _ => [] := by
  intro s
  rw [visitItems_node hkind p, Traced.events_bind_of_ok (result_declare roots node), Stop.events,
    List.append_assoc]
  congr 1
  have hoffer := result_offer limit p node (roots.extended node)
  cases hverdict : s.verdict limit with
  | matched command =>
    simp only [s, hverdict] at hoffer
    rw [Traced.events_bind_of_ok hoffer, Traced.events_map]
  | skipped =>
    simp only [s, hverdict] at hoffer
    rw [Traced.events_bind_of_ok hoffer]
  | failed failure =>
    simp only [s, hverdict] at hoffer
    rw [Traced.events_bind_of_error hoffer, List.append_nil]

/-- A walk meets the events of the visit that it unrolls: those at its stops, one after the other. -/
theorem Walk.events (h : Walk limit pending roots stops out) :
    (visitItems limit (pending.map Prod.snd) roots).events = trail limit roots stops := by
  have hlawful := Traced.lawfulMonad
  induction h with
  | done roots => rfl
  | other harray hkind _ ih =>
    rw [List.map_cons, visitItems, visit_of_kindless harray hkind, pure_bind, Traced.events_map, ih]
  | array _ ih => rw [List.map_cons, visitItems_array, ← ih, List.map_append, map_snd_entered_array]
  | site hkind hsite _ ih =>
    rw [List.map_cons, events_visitItems_node hkind, hsite, trail, ih]
  | skipped hkind hskip _ ih =>
    rw [List.map_cons, events_visitItems_node hkind, hskip, trail, ← ih, List.map_append]
  | failed hkind hfailed =>
    rw [List.map_cons, events_visitItems_node hkind, hfailed, trail, trail]

/-- The events of an analysis are those at the stops of a walk over the program. -/
theorem events_of_analyze {config : Config} (hconfig : config.validate = .ok ()) (program : Json) :
    ∃ stops out, Walk config.recursionLimit [([], program)] (Roots.ofConfig config) stops out ∧
      (analyze config program).result =
        out.map (fun _ ↦ stops.filterMap (Stop.site? config.recursionLimit)) ∧
      (analyze config program).events =
        trail config.recursionLimit (Roots.ofConfig config) stops := by
  have hlawful := Traced.lawfulMonad
  obtain ⟨stops, out, hwalk, hresult⟩ := walk_of_analyze hconfig program
  refine ⟨stops, out, hwalk, hresult, ?_⟩
  have hevents := hwalk.events
  rw [List.map_singleton, visitItems] at hevents
  rw [← hevents, analyze, hconfig]
  simp only [visitItems, pure_bind, Traced.events_map]

/-- **Tracing never influences an analysis, and verbosity only filters.** Under any tracer an
analysis has the same result, and the tracer is told the same events in the same order. So a tracer
that prints keeps a line for each event if it is very verbose; a less verbose one keeps, of these
lines, those of commands, rejections, roots and skips; and the least verbose one keeps those of
commands, rejections and roots.

If the analysis fails, the events are those up to the failure: none if the configuration is at
fault, and else those at the stops made in the program, of which the last one is the first to fail.
-/
theorem analyze_watched (config : Config) (program : Json) :
    let traced := analyze config program
    (∀ (σ : Type) (tracer : Tracer σ) (s : σ), (tracer.analyze config program).runFrom s =
      (traced.result, traced.events.foldl tracer.hear s)) ∧
    (Tracer.silent.analyze config program).runFrom () = (traced.result, ()) ∧
    ((Tracer.printing .veryVerbose).analyze config program).runFrom [] =
      (traced.result, traced.events.map Event.line) ∧
    ((Tracer.printing .verbose).analyze config program).runFrom [] =
      (traced.result, (traced.events.filter fun e ↦ e.isFinding || e.isSkip).map Event.line) ∧
    ((Tracer.printing .normal).analyze config program).runFrom [] =
      (traced.result, (traced.events.filter Event.isFinding).map Event.line) ∧
    ∀ failure, traced.result = .error failure →
      (traced.events = [] ∧ ∃ fault, config.validate = .error fault ∧
        failure = .invalidConfig fault) ∨
      ∃ (before : List Stop) (last : Stop),
        Survey config.recursionLimit (Roots.ofConfig config) program (before ++ [last]) ∧
        last.verdict config.recursionLimit = .failed failure ∧
        (∀ s ∈ before, ∀ failure, s.verdict config.recursionLimit ≠ .failed failure) ∧
        traced.events =
          trail config.recursionLimit (Roots.ofConfig config) (before ++ [last]) := by
  intro traced
  refine ⟨fun σ tracer ↦ Tracer.follows_analyze config program,
    Tracer.runFrom_silent config program, ?_, ?_, ?_, ?_⟩
  · rw [Tracer.runFrom_printing, traceLines_veryVerbose]
  · rw [Tracer.runFrom_printing, traceLines_verbose]
  · rw [Tracer.runFrom_printing, traceLines_normal]
  · intro failure hfailure
    cases hconfig : config.validate with
    | error fault =>
      have htraced : traced = .fail (.invalidConfig fault) := by
        simp only [traced, analyze, hconfig]
      rw [htraced] at hfailure
      cases hfailure
      exact Or.inl ⟨by rw [htraced]; rfl, fault, rfl, rfl⟩
    | ok valid =>
      obtain ⟨stops, out, hwalk, hresult, hevents⟩ := events_of_analyze hconfig program
      cases out with
      | ok roots => cases hresult.symm.trans hfailure
      | error failure' =>
        cases hresult.symm.trans hfailure
        obtain ⟨before, last, rfl, hlast, hbefore⟩ := hwalk.ending.error failure rfl
        exact Or.inr ⟨before, last, hwalk.survey, hlast, hbefore, hevents⟩

/-- The lines of `db.todos.length.map(); db.todos.map(); db.users` end where the second statement
fails. In the first, the collection and its length are built once for the call, which may not follow
them, and once more for the length itself. -/
example : let config : Config := { roots := ["db"], recursionLimit := 4 }
    let todos := Tree.member (Tree.identifier "db") "todos"
    let program := Tree.program [
      Tree.expressionStatement (Tree.method (Tree.member todos "length") "map" []),
      Tree.expressionStatement (Tree.method todos "map" []),
      Tree.expressionStatement (Tree.member (Tree.identifier "db") "users")]
    let watched := (Tracer.printing .normal).analyze config program
    (watched.runFrom []).2 = ["built CollectionRef db.todos", "built Value length",
      "reject map: cannot follow length", "built CollectionRef db.todos", "built Value length",
      "built CollectionRef db.todos"] := by
  decide +kernel

end Program

end FluentQuery
