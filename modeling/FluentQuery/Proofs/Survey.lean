import FluentQuery.Program
import FluentQuery.Proofs.Pipeline
import FluentQuery.Proofs.Position

/-!
# Where the analysis of a program stops

The analysis visits a document by recursion and leaves sites behind, from which one cannot see where
it has been. Here a visit is unrolled into a *walk*: a list of values still to be visited, each with
its position, is worked off from its front, and each node that is looked at is recorded as a *stop*,
with its position and the roots known there. A walk gives the sites and the failure of the analysis
(`walk_of_analyze`), and what is true of its stops follows by induction on its steps.

The main statement says where the stops are. They follow each other in the order of the document;
and a node is either a stop, or in one of the places where nothing is looked at: inside a site, in
trivia, in the target of an assignment that is no site, in the right side of a write that misses its
collection, or inside an object without a kind.
-/

namespace FluentQuery

/-- The roots after a node: with the binding that it makes, if it is a declaration that calls a
connector and the name is new. -/
def Roots.extended (roots : Roots) (node : Json) : Roots :=
  if node.isKind Kind.declarator then
    match roots.declaration node with
    | .skip _ => roots
    | .matched (name, binding) => roots.declare name binding
  else roots

namespace Program

/-! ## Stops -/

/-- A node that is looked at: its position, and the roots known there, with what the node itself
declares. -/
structure Stop where
  position : Position
  node : Json
  roots : Roots

namespace Stop

/-- What the recognizer for the kind of the node makes of it; a skip if there is none. -/
def verdict (limit : Nat) (s : Stop) : Verdict Command :=
  match s.node.kind?.bind Recognizer.ofKind? with
  | none => .skipped
  | some r => (r.recognize s.roots limit s.node).verdict

/-- The site at a stop, if its node is recognized. -/
def site? (limit : Nat) (s : Stop) : Option Site :=
  match s.verdict limit with
  | .matched command => some ⟨s.node.span?, command⟩
  | .skipped => none
  | .failed _ => none

/-- At each stop the roots are those of the stop before, extended by what the node declares. -/
def Threaded : Roots → List Stop → Prop
  | _, [] => True
  | roots, s :: rest => s.roots = roots.extended s.node ∧ Threaded s.roots rest

end Stop

/-- The places where nothing is looked at, given the stops of an analysis. -/
inductive PassedOver (limit : Nat) (program : Json) (stops : List Stop) (p : Position) : Prop
  /-- Inside a site. -/
  | site {s : Stop} {command : Command} {i : Nat} {r : Position} (hs : s ∈ stops)
      (hsite : s.verdict limit = .matched command) (hp : p = s.position ++ i :: r)
  /-- In trivia. -/
  | trivia {q r : Position} {i : Nat} {v w : Json} {key : String} (hq : program.at? q = some v)
      (hi : v.children[i]? = some (some key, w)) (hkey : isTrivia key = true)
      (hp : p = q ++ i :: r)
  /-- In the target of an assignment that is no site. -/
  | target {s : Stop} {i : Nat} {w : Json} {r : Position} (hs : s ∈ stops)
      (hkind : s.node.isKind Kind.assignment = true) (hskip : s.verdict limit = .skipped)
      (hi : s.node.children[i]? = some (some "left", w)) (hp : p = s.position ++ i :: r)
  /-- In the right side of a write that misses its collection. -/
  | misdirected {s : Stop} {i : Nat} {w : Json} {r : Position} (hs : s ∈ stops)
      (hkind : s.node.isKind Kind.assignment = true)
      (hwrite : isMisdirectedWrite s.node s.roots = true)
      (hi : s.node.children[i]? = some (some "right", w)) (hp : p = s.position ++ i :: r)
  /-- Inside an object without a kind. -/
  | kindless {q r : Position} {i : Nat} {entries : List (String × Json)}
      (hq : program.at? q = some (.object entries)) (hkind : Json.kindOf? entries = none)
      (hp : p = q ++ i :: r)

/-- Stops that an analysis can make. -/
structure Survey (limit : Nat) (start : Roots) (program : Json) (stops : List Stop) : Prop where
  /-- Each is a node of the program. -/
  located : ∀ s ∈ stops, program.at? s.position = some s.node ∧ s.node.kind?.isSome = true
  /-- They follow each other in the order of the document. -/
  increasing : stops.Pairwise fun s t ↦ s.position < t.position
  /-- The roots known at each are extended by the declarations among the stops up to it. -/
  threaded : Stop.Threaded start stops
  /-- None lies where nothing is looked at. -/
  sound : ∀ s ∈ stops, ¬PassedOver limit program stops s.position

/-! ## Walks -/

/-- The values under some children of a node, without those whose key is passed over, each with its
position. The children are counted from the given place. -/
def entered (p : Position) (passedOver : String → Bool) :
    Nat → List (Option String × Json) → List (Position × Json)
  | _, [] => []
  | i, c :: rest =>
    if c.1.any passedOver then entered p passedOver (i + 1) rest
    else (p ++ [i], c.2) :: entered p passedOver (i + 1) rest

/-- Working off a list of values with their positions, from some roots. The stops made on the way
are listed, and the walk ends with the roots at last or with the failure of its last stop. -/
inductive Walk (limit : Nat) :
    List (Position × Json) → Roots → List Stop → Except Failure Roots → Prop
  | done (roots : Roots) : Walk limit [] roots [] (.ok roots)
  | other {p : Position} {v : Json} {rest : List (Position × Json)} {roots : Roots}
      {stops : List Stop} {out : Except Failure Roots} (harray : ∀ items, v ≠ .array items)
      (hkind : v.kind? = none) (hrest : Walk limit rest roots stops out) :
      Walk limit ((p, v) :: rest) roots stops out
  | array {p : Position} {items : List Json} {rest : List (Position × Json)} {roots : Roots}
      {stops : List Stop} {out : Except Failure Roots}
      (hrest : Walk limit (entered p (fun _ ↦ false) 0 (Json.array items).children ++ rest) roots
        stops out) : Walk limit ((p, .array items) :: rest) roots stops out
  | site {p : Position} {node : Json} {rest : List (Position × Json)} {roots : Roots}
      {stops : List Stop} {out : Except Failure Roots} {command : Command}
      (hkind : node.kind?.isSome = true)
      (hsite : (Stop.mk p node (roots.extended node)).verdict limit = .matched command)
      (hrest : Walk limit rest (roots.extended node) stops out) :
      Walk limit ((p, node) :: rest) roots (⟨p, node, roots.extended node⟩ :: stops) out
  | skipped {p : Position} {node : Json} {rest : List (Position × Json)} {roots : Roots}
      {stops : List Stop} {out : Except Failure Roots} (hkind : node.kind?.isSome = true)
      (hskip : (Stop.mk p node (roots.extended node)).verdict limit = .skipped)
      (hrest : Walk limit
        (entered p (isPassedOver (roots.extended node) node) 0 node.children ++ rest)
        (roots.extended node) stops out) :
      Walk limit ((p, node) :: rest) roots (⟨p, node, roots.extended node⟩ :: stops) out
  | failed {p : Position} {node : Json} {rest : List (Position × Json)} {roots : Roots}
      {failure : Failure} (hkind : node.kind?.isSome = true)
      (hfailed : (Stop.mk p node (roots.extended node)).verdict limit = .failed failure) :
      Walk limit ((p, node) :: rest) roots [⟨p, node, roots.extended node⟩] (.error failure)

variable {limit : Nat} {program : Json} {roots : Roots} {stops all : List Stop}
  {pending : List (Position × Json)} {out : Except Failure Roots}

/-! ### The children of a node -/

theorem mem_entered_iff {p : Position} {passedOver : String → Bool} {k : Nat}
    {children : List (Option String × Json)} {x : Position × Json} :
    x ∈ entered p passedOver k children ↔
      ∃ i c, children[i]? = some c ∧ c.1.any passedOver = false ∧ x = (p ++ [k + i], c.2) := by
  induction children generalizing k with
  | nil => simp [entered]
  | cons c rest ih =>
    -- A child is the first one, or is counted from the next place on.
    have hrest : x ∈ entered p passedOver (k + 1) rest ↔
        ∃ i d, (c :: rest)[i + 1]? = some d ∧ d.1.any passedOver = false ∧
          x = (p ++ [k + (i + 1)], d.2) := by
      rw [ih]
      simp only [List.getElem?_cons_succ, Nat.add_right_comm, Nat.add_assoc]
    rw [entered]
    constructor
    · intro hx
      split at hx
      · obtain ⟨i, d, hd⟩ := hrest.mp hx
        exact ⟨i + 1, d, hd⟩
      · next hopen =>
        rcases List.mem_cons.mp hx with rfl | hx
        · exact ⟨0, c, rfl, Bool.eq_false_iff.mpr hopen, rfl⟩
        · obtain ⟨i, d, hd⟩ := hrest.mp hx
          exact ⟨i + 1, d, hd⟩
    · rintro ⟨i, d, hd, hopen, rfl⟩
      cases i with
      | zero =>
        cases hd
        rw [if_neg (by simp [hopen])]
        exact List.mem_cons_self
      | succ i =>
        have hmem := hrest.mpr ⟨i, d, hd, hopen, rfl⟩
        split
        · exact hmem
        · exact List.mem_cons_of_mem _ hmem

theorem mem_entered_append {p : Position} {passedOver : String → Bool}
    {children : List (Option String × Json)} {i : Nat} {c : Option String × Json}
    (hc : children[i]? = some c) (hopen : c.1.any passedOver = false) :
    (p ++ [i], c.2) ∈ entered p passedOver 0 children ++ pending :=
  List.mem_append_left _ (mem_entered_iff.mpr ⟨i, c, hc, hopen, by rw [Nat.zero_add]⟩)

theorem pairwise_entered (p : Position) (passedOver : String → Bool) (k : Nat)
    (children : List (Option String × Json)) :
    (entered p passedOver k children).Pairwise fun x y ↦ Position.LeftOf x.1 y.1 := by
  induction children generalizing k with
  | nil => exact List.Pairwise.nil
  | cons c rest ih =>
    rw [entered]
    split
    · exact ih (k + 1)
    · refine List.pairwise_cons.mpr ⟨fun y hy ↦ ?_, ih (k + 1)⟩
      obtain ⟨i, d, -, -, rfl⟩ := mem_entered_iff.mp hy
      exact Position.leftOf_sibling p (by omega)

/-- The values still to be visited stay apart when the first gives way to what is in it. -/
theorem pairwise_entered_append {p : Position} {v : Json} {passedOver : String → Bool}
    {children : List (Option String × Json)}
    (h : ((p, v) :: pending).Pairwise fun x y ↦ Position.LeftOf x.1 y.1) :
    (entered p passedOver 0 children ++ pending).Pairwise fun x y ↦ Position.LeftOf x.1 y.1 := by
  obtain ⟨hfirst, hrest⟩ := List.pairwise_cons.mp h
  refine List.pairwise_append.mpr ⟨pairwise_entered p passedOver 0 children, hrest, ?_⟩
  intro x hx y hy
  obtain ⟨i, c, -, -, rfl⟩ := mem_entered_iff.mp hx
  simpa using (hfirst y hy).append [0 + i] []

/-- Whatever is so of a child and of all values that wait is so of the values that wait next. -/
theorem forall_entered_append {P : Position × Json → Prop} {p : Position} {v : Json}
    {passedOver : String → Bool} (hrest : ∀ x ∈ pending, P x)
    (hchild : ∀ (i : Nat) (c : Option String × Json), v.children[i]? = some c →
      c.1.any passedOver = false → P (p ++ [i], c.2)) :
    ∀ x ∈ entered p passedOver 0 v.children ++ pending, P x := by
  intro x hx
  rcases List.mem_append.mp hx with hx | hx
  · obtain ⟨i, c, hc, hopen, rfl⟩ := mem_entered_iff.mp hx
    rw [Nat.zero_add]
    exact hchild i c hc hopen
  · exact hrest x hx

/-! ### The stops of a walk -/

theorem exists_of_entered {p q : Position} {v : Json} {passedOver : String → Bool}
    {children : List (Option String × Json)} {x : Position × Json}
    (hx : x ∈ entered p passedOver 0 children ++ pending) (hq : ∃ r, q = x.1 ++ r) :
    ∃ y ∈ (p, v) :: pending, ∃ r, q = y.1 ++ r := by
  obtain ⟨r, rfl⟩ := hq
  rcases List.mem_append.mp hx with hx | hx
  · obtain ⟨i, c, -, -, rfl⟩ := mem_entered_iff.mp hx
    exact ⟨_, List.mem_cons_self, (0 + i) :: r, by simp⟩
  · exact ⟨x, List.mem_cons_of_mem _ hx, r, rfl⟩

/-- Every stop is inside one of the values that wait at first, or is one of them. -/
theorem Walk.exists_prefix (h : Walk limit pending roots stops out) :
    ∀ s ∈ stops, ∃ x ∈ pending, ∃ r, s.position = x.1 ++ r := by
  induction h with
  | done roots => simp
  | other _ _ _ ih =>
    intro s hs
    obtain ⟨x, hx, hr⟩ := ih s hs
    exact ⟨x, List.mem_cons_of_mem _ hx, hr⟩
  | array _ ih =>
    intro s hs
    obtain ⟨x, hx, hr⟩ := ih s hs
    exact exists_of_entered hx hr
  | site _ _ _ ih =>
    intro s hs
    rcases List.mem_cons.mp hs with rfl | hs
    · exact ⟨_, List.mem_cons_self, [], by simp⟩
    · obtain ⟨x, hx, hr⟩ := ih s hs
      exact ⟨x, List.mem_cons_of_mem _ hx, hr⟩
  | skipped _ _ _ ih =>
    intro s hs
    rcases List.mem_cons.mp hs with rfl | hs
    · exact ⟨_, List.mem_cons_self, [], by simp⟩
    · obtain ⟨x, hx, hr⟩ := ih s hs
      exact exists_of_entered hx hr
  | failed _ _ =>
    intro s hs
    obtain rfl := List.mem_singleton.mp hs
    exact ⟨_, List.mem_cons_self, [], by simp⟩

theorem Walk.located (h : Walk limit pending roots stops out)
    (hpending : ∀ x ∈ pending, program.at? x.1 = some x.2) :
    ∀ s ∈ stops, program.at? s.position = some s.node ∧ s.node.kind?.isSome = true := by
  induction h with
  | done roots => simp
  | other _ _ _ ih => exact ih (List.forall_mem_cons.mp hpending).2
  | array _ ih =>
    obtain ⟨hfirst, hrest⟩ := List.forall_mem_cons.mp hpending
    exact ih (forall_entered_append hrest fun i c hc _ ↦ Json.at?_concat hfirst hc)
  | site hkind _ _ ih =>
    obtain ⟨hfirst, hrest⟩ := List.forall_mem_cons.mp hpending
    exact List.forall_mem_cons.mpr ⟨⟨hfirst, hkind⟩, ih hrest⟩
  | skipped hkind _ _ ih =>
    obtain ⟨hfirst, hrest⟩ := List.forall_mem_cons.mp hpending
    exact List.forall_mem_cons.mpr ⟨⟨hfirst, hkind⟩,
      ih (forall_entered_append hrest fun i c hc _ ↦ Json.at?_concat hfirst hc)⟩
  | failed hkind _ =>
    intro s hs
    obtain rfl := List.mem_singleton.mp hs
    exact ⟨(List.forall_mem_cons.mp hpending).1, hkind⟩

theorem Walk.increasing (h : Walk limit pending roots stops out)
    (hpending : pending.Pairwise fun x y ↦ Position.LeftOf x.1 y.1) :
    stops.Pairwise fun s t ↦ s.position < t.position := by
  induction h with
  | done roots => exact List.Pairwise.nil
  | other _ _ _ ih => exact ih (List.pairwise_cons.mp hpending).2
  | array _ ih => exact ih (pairwise_entered_append hpending)
  | site _ _ hwalk ih =>
    obtain ⟨hfirst, hrest⟩ := List.pairwise_cons.mp hpending
    refine List.pairwise_cons.mpr ⟨fun s hs ↦ ?_, ih hrest⟩
    obtain ⟨x, hx, r, hr⟩ := hwalk.exists_prefix s hs
    rw [hr]
    simpa using ((hfirst x hx).append [] r).lt
  | @skipped p node rest roots stops out _ _ hwalk ih =>
    obtain ⟨hfirst, hrest⟩ := List.pairwise_cons.mp hpending
    refine List.pairwise_cons.mpr ⟨fun s hs ↦ ?_, ih (pairwise_entered_append hpending)⟩
    -- What comes next is inside the node, or to the right of it.
    obtain ⟨x, hx, r, hr⟩ := hwalk.exists_prefix s hs
    rw [hr]
    rcases List.mem_append.mp hx with hx | hx
    · obtain ⟨i, c, -, -, rfl⟩ := mem_entered_iff.mp hx
      simpa using Position.lt_append_cons p (0 + i) r
    · simpa using ((hfirst x hx).append [] r).lt
  | failed _ _ => exact List.pairwise_singleton _ _

theorem Walk.threaded (h : Walk limit pending roots stops out) : Stop.Threaded roots stops := by
  induction h with
  | done roots => trivial
  | other _ _ _ ih => exact ih
  | array _ ih => exact ih
  | site _ _ _ ih => exact ⟨rfl, ih⟩
  | skipped _ _ _ ih => exact ⟨rfl, ih⟩
  | failed _ _ => exact ⟨rfl, trivial⟩

/-- How the stops of a walk fail: none if it ends in roots, and only the last if it ends in a
failure, which then is that of the walk. -/
structure Ending (limit : Nat) (stops : List Stop) (out : Except Failure Roots) : Prop where
  ok : ∀ last, out = .ok last → ∀ s ∈ stops, ∀ failure, s.verdict limit ≠ .failed failure
  error : ∀ failure, out = .error failure → ∃ before last, stops = before ++ [last] ∧
    last.verdict limit = .failed failure ∧
      ∀ s ∈ before, ∀ failure, s.verdict limit ≠ .failed failure

theorem Ending.cons {s : Stop} (hs : ∀ failure, s.verdict limit ≠ .failed failure)
    (h : Ending limit stops out) : Ending limit (s :: stops) out where
  ok last hout := List.forall_mem_cons.mpr ⟨hs, h.ok last hout⟩
  error := by
    intro failure hout
    obtain ⟨before, last, rfl, hlast, hbefore⟩ := h.error failure hout
    exact ⟨s :: before, last, rfl, hlast, List.forall_mem_cons.mpr ⟨hs, hbefore⟩⟩

theorem Walk.ending (h : Walk limit pending roots stops out) : Ending limit stops out := by
  induction h with
  | done roots => exact ⟨by simp, by simp⟩
  | other _ _ _ ih => exact ih
  | array _ ih => exact ih
  | site _ hsite _ ih => exact ih.cons fun failure hfailed ↦ by cases hsite.symm.trans hfailed
  | skipped _ hskip _ ih => exact ih.cons fun failure hfailed ↦ by cases hskip.symm.trans hfailed
  | failed _ hfailed =>
    refine ⟨by simp, fun failure hout ↦ ?_⟩
    cases hout
    exact ⟨[], _, rfl, hfailed, by simp⟩

/-! ### Stops are not passed over -/

/-- The way on from a position through one of its children is open: the value there is an array, or
a stop that is skipped and does not pass over the key. -/
def Open (limit : Nat) (program : Json) (stops : List Stop) (q : Position) (i : Nat) : Prop :=
  ∃ v, program.at? q = some v ∧ ((∃ items, v = .array items) ∨
    ∃ s ∈ stops, s.position = q ∧ s.node = v ∧ s.verdict limit = .skipped ∧
      ∀ key w, v.children[i]? = some (some key, w) → isPassedOver s.roots s.node key = false)

/-- The way to a position is open all along. -/
def Reached (limit : Nat) (program : Json) (stops : List Stop) (p : Position) : Prop :=
  ∀ q i r, p = q ++ i :: r → Open limit program stops q i

theorem Reached.concat {p : Position} {i : Nat} (h : Reached limit program all p)
    (hi : Open limit program all p i) : Reached limit program all (p ++ [i]) := by
  intro q j r hp
  rcases List.eq_nil_or_concat r with rfl | ⟨r, k, rfl⟩
  · obtain ⟨rfl, hij⟩ := List.append_inj' hp rfl
    cases hij
    exact hi
  · have hp' : p ++ [i] = (q ++ j :: r) ++ [k] := by simpa using hp
    exact h q j r (List.append_inj' hp' rfl).1

/-- What a walk has to visit is in the program, and the way to it is open. -/
def Accessible (limit : Nat) (program : Json) (stops : List Stop) (x : Position × Json) : Prop :=
  program.at? x.1 = some x.2 ∧ Reached limit program stops x.1

theorem Accessible.child {p : Position} {v : Json} {i : Nat} {c : Option String × Json}
    (h : Accessible limit program all (p, v)) (hc : v.children[i]? = some c)
    (hi : Open limit program all p i) : Accessible limit program all (p ++ [i], c.2) :=
  ⟨Json.at?_concat h.1 hc, h.2.concat hi⟩

theorem Walk.reached (h : Walk limit pending roots stops out) (hall : ∀ s ∈ stops, s ∈ all)
    (hpending : ∀ x ∈ pending, Accessible limit program all x) :
    ∀ s ∈ stops, Reached limit program all s.position := by
  induction h with
  | done roots => simp
  | other _ _ _ ih => exact ih hall (List.forall_mem_cons.mp hpending).2
  | array _ ih =>
    obtain ⟨hfirst, hrest⟩ := List.forall_mem_cons.mp hpending
    refine ih hall (forall_entered_append hrest fun i c hc _ ↦ hfirst.child hc ?_)
    exact ⟨_, hfirst.1, Or.inl ⟨_, rfl⟩⟩
  | site _ _ _ ih =>
    obtain ⟨hfirst, hrest⟩ := List.forall_mem_cons.mp hpending
    exact List.forall_mem_cons.mpr ⟨hfirst.2, ih (List.forall_mem_cons.mp hall).2 hrest⟩
  | skipped _ hskip _ ih =>
    obtain ⟨hfirst, hrest⟩ := List.forall_mem_cons.mp hpending
    obtain ⟨hstop, hall⟩ := List.forall_mem_cons.mp hall
    refine List.forall_mem_cons.mpr ⟨hfirst.2, ih hall
      (forall_entered_append hrest fun i c hc hopen ↦ hfirst.child hc ?_)⟩
    refine ⟨_, hfirst.1, Or.inr ⟨_, hstop, rfl, rfl, hskip, fun key w hkey ↦ ?_⟩⟩
    rw [hc] at hkey
    cases hkey
    exact hopen
  | failed _ _ =>
    intro s hs
    obtain rfl := List.mem_singleton.mp hs
    exact (List.forall_mem_cons.mp hpending).1.2

theorem eq_of_position_eq (hincreasing : all.Pairwise fun s t ↦ s.position < t.position)
    {s t : Stop} (hs : s ∈ all) (ht : t ∈ all) (h : s.position = t.position) : s = t := by
  have hnodup : (all.map Stop.position).Nodup :=
    List.pairwise_map.mpr (hincreasing.imp fun hlt ↦ ne_of_lt hlt)
  exact List.inj_on_of_nodup_map hnodup hs ht h

/-- A position whose way is open is in none of the places that are passed over. -/
theorem Reached.not_passedOver {p : Position} (h : Reached limit program all p)
    (hlocated : ∀ s ∈ all, program.at? s.position = some s.node ∧ s.node.kind?.isSome = true)
    (hincreasing : all.Pairwise fun s t ↦ s.position < t.position) :
    ¬PassedOver limit program all p := by
  -- At a stop the way on is open only if that stop is skipped and does not pass over the key.
  have hstop : ∀ s ∈ all, ∀ i r, p = s.position ++ i :: r → s.verdict limit = .skipped ∧
      ∀ key w, s.node.children[i]? = some (some key, w) →
        isPassedOver s.roots s.node key = false := by
    intro s hs i r hp
    obtain ⟨hat, hkind⟩ := hlocated s hs
    obtain ⟨v, hv, ⟨items, rfl⟩ | ⟨t, ht, hposition, rfl, hskip, hopen⟩⟩ := h _ i r hp
    · rw [hat] at hv
      rw [Option.some.inj hv] at hkind
      cases hkind
    · obtain rfl := eq_of_position_eq hincreasing ht hs hposition
      exact ⟨hskip, hopen⟩
  intro hpassed
  cases hpassed with
  | site hs hsite hp => cases hsite.symm.trans (hstop _ hs _ _ hp).1
  | @trivia q r i v w key hq hi hkey hp =>
    obtain ⟨v', hv', ⟨items, rfl⟩ | ⟨t, ht, -, rfl, -, hopen⟩⟩ := h q i r hp
    · cases hq.symm.trans hv'
      simp [Json.children] at hi
    · cases hq.symm.trans hv'
      simpa [isPassedOver, hkey] using hopen key w hi
  | target hs hkind _ hi hp => simpa [isPassedOver, hkind] using (hstop _ hs _ _ hp).2 _ _ hi
  | misdirected hs hkind hwrite hi hp =>
    simpa [isPassedOver, hkind, hwrite] using (hstop _ hs _ _ hp).2 _ _ hi
  | @kindless q r i entries hq hkind hp =>
    obtain ⟨v, hv, ⟨items, rfl⟩ | ⟨t, ht, hposition, rfl, -, -⟩⟩ := h q i r hp
    · cases hq.symm.trans hv
    · obtain ⟨-, hsome⟩ := hlocated t ht
      rw [← Option.some.inj (hq.symm.trans hv), Json.kind?, hkind] at hsome
      cases hsome

/-! ### Nodes that are not passed over are stops -/

/-- The child under a key that is passed over is in one of the places where nothing is looked at, or
is the kind of the node. -/
theorem passedOver_of_isPassedOver {s : Stop} {i : Nat} {key : String} {w : Json} {r : Position}
    (hs : s ∈ all) (hat : program.at? s.position = some s.node) (hskip : s.verdict limit = .skipped)
    (hi : s.node.children[i]? = some (some key, w))
    (hkey : isPassedOver s.roots s.node key = true) :
    key = "type" ∨ PassedOver limit program all (s.position ++ i :: r) := by
  rw [isPassedOver, Bool.or_eq_true, Bool.or_eq_true, Bool.and_eq_true, Bool.or_eq_true,
    Bool.and_eq_true, beq_iff_eq, beq_iff_eq, beq_iff_eq] at hkey
  rcases hkey with (htrivia | htype) | ⟨hkind, rfl | ⟨rfl, hwrite⟩⟩
  · exact Or.inr (.trivia hat hi htrivia rfl)
  · exact Or.inl htype
  · exact Or.inr (.target hs hkind hskip hi rfl)
  · exact Or.inr (.misdirected hs hkind hwrite hi rfl)

/-- The kind of a node is a text. -/
theorem exists_string_of_type {node : Json} (hkeys : node.distinctKeys = true)
    (hkind : node.kind?.isSome = true) {i : Nat} {w : Json}
    (hi : node.children[i]? = some (some "type", w)) : ∃ text, w = .string text := by
  cases node with
  | object entries =>
    have hmem : ("type", w) ∈ entries := by
      obtain ⟨⟨key, v⟩, he, heq⟩ := List.mem_map.mp (List.mem_of_getElem? hi)
      cases heq
      exact he
    rw [Json.distinctKeys, Bool.and_eq_true, decide_eq_true_iff] at hkeys
    rw [Json.kind?, Json.kindOf?, Json.find?_of_mem_nodup hkeys.1 hmem] at hkind
    cases w with
    | string text => exact ⟨text, rfl⟩
    | _ => cases hkind
  | _ => cases hkind

/-- Whether a walk gets as far as a position: everywhere if it ends in roots, and otherwise up to
the stop that fails. -/
def Reaches (limit : Nat) (stops : List Stop) (out : Except Failure Roots) (p : Position) : Prop :=
  (∃ last, out = .ok last) ∨ ∃ s ∈ stops, (∃ failure, s.verdict limit = .failed failure) ∧
    p ≤ s.position

theorem Reaches.of_cons {s : Stop} {p : Position} (h : Reaches limit (s :: stops) out p)
    (hs : ∀ failure, s.verdict limit ≠ .failed failure) : Reaches limit stops out p := by
  rcases h with hok | ⟨t, ht, ⟨failure, hfailed⟩, hle⟩
  · exact Or.inl hok
  · rcases List.mem_cons.mp ht with rfl | ht
    · exact absurd hfailed (hs failure)
    · exact Or.inr ⟨t, ht, ⟨failure, hfailed⟩, hle⟩

/-- A node is accounted for: it is a stop, or passed over. -/
def Accounted (limit : Nat) (program : Json) (all stops : List Stop) (p : Position) : Prop :=
  (∃ s ∈ stops, s.position = p) ∨ PassedOver limit program all p

theorem Accounted.cons {s : Stop} {p : Position} (h : Accounted limit program all stops p) :
    Accounted limit program all (s :: stops) p := by
  rcases h with ⟨t, ht, hp⟩ | hpassed
  · exact Or.inl ⟨t, List.mem_cons_of_mem _ ht, hp⟩
  · exact Or.inr hpassed

/-- Every node in a value is accounted for, as far as the walk reaches. -/
def Covered (limit : Nat) (program : Json) (all stops : List Stop) (out : Except Failure Roots)
    (x : Position × Json) : Prop :=
  ∀ (r : Position) (node : Json), x.2.at? r = some node → node.kind?.isSome = true →
    Reaches limit stops out (x.1 ++ r) → Accounted limit program all stops (x.1 ++ r)

theorem Covered.cons {x : Position × Json} {s : Stop} (h : Covered limit program all stops out x)
    (hs : ∀ failure, s.verdict limit ≠ .failed failure) :
    Covered limit program all (s :: stops) out x :=
  fun r node hr hnode hreaches ↦ (h r node hr hnode (hreaches.of_cons hs)).cons

/-- A value is covered if it is accounted for itself and what is below it is, child by child. -/
theorem covered_of_children {p : Position} {v : Json}
    (hself : v.kind?.isSome = true → Accounted limit program all stops p)
    (hchildren : ∀ i c, v.children[i]? = some c →
      Covered limit program all stops out (p ++ [i], c.2)) :
    Covered limit program all stops out (p, v) := by
  intro r node hr hnode hreaches
  cases r with
  | nil =>
    cases hr
    rw [List.append_nil]
    exact hself hnode
  | cons i r =>
    obtain ⟨c, hc, hr⟩ := Json.at?_cons_eq_some_iff.mp hr
    have hchild := hchildren i c hc r node hr hnode
    rw [List.append_assoc, List.singleton_append] at hchild
    exact hchild hreaches

theorem covered_kindless {p : Position} {v : Json} (hat : program.at? p = some v)
    (harray : ∀ items, v ≠ .array items) (hkind : v.kind? = none) :
    Covered limit program all stops out (p, v) := by
  intro r node hr hnode _
  cases r with
  | nil =>
    cases hr
    rw [hkind] at hnode
    cases hnode
  | cons i r =>
    -- Only an object has something inside, and it has no kind.
    cases v with
    | array items => exact absurd rfl (harray items)
    | object entries => exact Or.inr (.kindless hat hkind rfl)
    | _ => cases Json.eq_nil_of_at? rfl hr

/-- Whatever is inside a site is passed over. -/
theorem covered_site {s : Stop} {command : Command} (hs : s ∈ all)
    (hsite : s.verdict limit = .matched command) :
    Covered limit program all (s :: stops) out (s.position, s.node) := by
  intro r node hr _ _
  cases r with
  | nil => exact Or.inl ⟨s, List.mem_cons_self, by simp⟩
  | cons i r => exact Or.inr (.site hs hsite rfl)

/-- At a node that is skipped, a child is entered or passed over. -/
theorem covered_skipped {s : Stop} (hs : s ∈ all) (hat : program.at? s.position = some s.node)
    (hkeys : s.node.distinctKeys = true) (hkind : s.node.kind?.isSome = true)
    (hskip : s.verdict limit = .skipped)
    (hentered : ∀ i c, s.node.children[i]? = some c →
      c.1.any (isPassedOver s.roots s.node) = false →
        Covered limit program all stops out (s.position ++ [i], c.2)) :
    Covered limit program all (s :: stops) out (s.position, s.node) := by
  have hfails : ∀ failure, s.verdict limit ≠ .failed failure := by simp [hskip]
  refine covered_of_children (fun _ ↦ Or.inl ⟨s, List.mem_cons_self, rfl⟩) fun i c hc ↦ ?_
  obtain ⟨key, w⟩ := c
  cases hkey : key.any (isPassedOver s.roots s.node) with
  | false => exact (hentered i _ hc hkey).cons hfails
  | true =>
    cases key with
    | none => cases hkey
    | some key =>
      intro r node hr hnode _
      rcases passedOver_of_isPassedOver (r := r) hs hat hskip hc hkey with rfl | hpassed
      · -- Under the kind there is only its text.
        obtain ⟨text, rfl⟩ := exists_string_of_type hkeys hkind hc
        cases Json.eq_nil_of_at? rfl hr
        cases hr
        cases hnode
      · rw [List.append_assoc, List.singleton_append]
        exact Or.inr hpassed

theorem Reaches.le_of_failed {s : Stop} {failure : Failure} {q : Position}
    (h : Reaches limit [s] (.error failure) q) : q ≤ s.position := by
  rcases h with ⟨last, hlast⟩ | ⟨t, ht, -, hle⟩
  · cases hlast
  · rwa [List.mem_singleton.mp ht] at hle

theorem Walk.covered (h : Walk limit pending roots stops out) (hall : ∀ s ∈ stops, s ∈ all)
    (hkeys : program.distinctKeys = true)
    (hapart : pending.Pairwise fun x y ↦ Position.LeftOf x.1 y.1)
    (hpending : ∀ x ∈ pending, program.at? x.1 = some x.2) :
    ∀ x ∈ pending, Covered limit program all stops out x := by
  induction h with
  | done roots => simp
  | @other p v rest roots stops out harray hkind _ ih =>
    obtain ⟨hfirst, hrest⟩ := List.forall_mem_cons.mp hpending
    exact List.forall_mem_cons.mpr ⟨covered_kindless hfirst harray hkind,
      ih hall (List.pairwise_cons.mp hapart).2 hrest⟩
  | @array p items rest roots stops out _ ih =>
    obtain ⟨hfirst, hrest⟩ := List.forall_mem_cons.mp hpending
    have hnext := ih hall (pairwise_entered_append hapart)
      (forall_entered_append hrest fun i c hc _ ↦ Json.at?_concat hfirst hc)
    refine List.forall_mem_cons.mpr ⟨covered_of_children (fun hkind ↦ ?_) fun i c hc ↦ ?_,
      fun x hx ↦ hnext x (List.mem_append_right _ hx)⟩
    · cases hkind
    have hkey : c.1.any (fun _ ↦ false) = false := by
      cases c.1 <;> rfl
    exact hnext _ (mem_entered_append hc hkey)
  | @site p node rest roots stops out command _ hsite _ ih =>
    obtain ⟨hstop, hall⟩ := List.forall_mem_cons.mp hall
    have hnext := ih hall (List.pairwise_cons.mp hapart).2 (List.forall_mem_cons.mp hpending).2
    exact List.forall_mem_cons.mpr ⟨covered_site hstop hsite, fun x hx ↦
      (hnext x hx).cons (by simp [hsite])⟩
  | @skipped p node rest roots stops out hkind hskip _ ih =>
    obtain ⟨hstop, hall⟩ := List.forall_mem_cons.mp hall
    obtain ⟨hfirst, hrest⟩ := List.forall_mem_cons.mp hpending
    have hnext := ih hall (pairwise_entered_append hapart)
      (forall_entered_append hrest fun i c hc _ ↦ Json.at?_concat hfirst hc)
    refine List.forall_mem_cons.mpr ⟨?_, fun x hx ↦
      (hnext x (List.mem_append_right _ hx)).cons (by simp [hskip])⟩
    exact covered_skipped hstop hfirst (Json.distinctKeys_of_at? hkeys hfirst) hkind hskip
      fun i c hc hkey ↦ hnext _ (mem_entered_append hc hkey)
  | @failed p node rest roots failure _ hfailed =>
    -- The walk reaches nothing after the stop that fails.
    obtain ⟨hleft, -⟩ := List.pairwise_cons.mp hapart
    refine List.forall_mem_cons.mpr ⟨fun r node hr _ hreaches ↦ ?_,
      fun x hx r node hr _ hreaches ↦ ?_⟩
    · cases r with
      | nil => exact Or.inl ⟨_, List.mem_cons_self, by simp⟩
      | cons i r =>
        exact absurd (Position.lt_append_cons p i r) (not_lt_of_ge hreaches.le_of_failed)
    · have hlt := ((hleft x hx).append [] r).lt
      rw [List.append_nil] at hlt
      exact absurd hlt (not_lt_of_ge hreaches.le_of_failed)

/-! ## Visits are walks -/

theorem visitItems_append (first second : List Json) (roots : Roots) :
    visitItems limit (first ++ second) roots = (do
      let a ← visitItems limit first roots
      let b ← visitItems limit second a.roots
      return ⟨b.roots, a.sites ++ b.sites⟩) := by
  have hlawful := Traced.lawfulMonad
  induction first generalizing roots with
  | nil => simp [visitItems]
  | cons v rest ih => simp [visitItems, ih, List.append_assoc]

theorem result_declare (roots : Roots) (node : Json) :
    (declare roots node).result = .ok (roots.extended node) := by
  rw [declare, Roots.extended]
  split
  · cases roots.declaration node with
    | skip why => rfl
    | matched found =>
      obtain ⟨name, binding⟩ := found
      by_cases hcontains : roots.contains name = true
      · simp only [hcontains, if_true, Roots.declare]
        rfl
      · simp only [hcontains]
        rfl
  · rfl

/-- What a node is offered for is what a stop there comes to. -/
theorem result_offer (limit : Nat) (p : Position) (node : Json) (roots : Roots) :
    (offer limit roots node).result =
      match (Stop.mk p node roots).verdict limit with
      | .matched command => .ok (some command)
      | .skipped => .ok none
      | .failed failure => .error failure := by
  rw [offer, Stop.verdict]
  cases node.kind?.bind Recognizer.ofKind? with
  | none => rfl
  | some r =>
    dsimp only
    generalize r.recognize roots limit node = t
    obtain ⟨events, result⟩ := t
    cases result with
    | error failure => rfl
    | ok outcome => cases outcome <;> rfl

/-- A visit unrolls into a walk over some values: whatever walk goes on after it, the two together
are a walk, and the sites of the visit are those at its own stops. -/
structure Unrolls (limit : Nat) (t : Traced Visited) (front : List (Position × Json))
    (roots : Roots) : Prop where
  ok : ∀ visited, t.result = .ok visited → ∀ rest stops out,
    Walk limit rest visited.roots stops out →
      ∃ own, own.filterMap (Stop.site? limit) = visited.sites ∧
        Walk limit (front ++ rest) roots (own ++ stops) out
  error : ∀ failure, t.result = .error failure → ∀ rest,
    ∃ own, Walk limit (front ++ rest) roots own (.error failure)

theorem unrolls_nothing (roots : Roots) : Unrolls limit (pure ⟨roots, []⟩) [] roots where
  ok := by
    intro visited hresult rest stops out hwalk
    cases hresult
    exact ⟨[], rfl, hwalk⟩
  error := by
    intro failure hresult
    cases hresult

theorem Unrolls.append {first : Traced Visited} {rest : Roots → Traced Visited}
    {front back : List (Position × Json)} (hfirst : Unrolls limit first front roots)
    (hrest : ∀ roots, Unrolls limit (rest roots) back roots) :
    Unrolls limit (do
      let a ← first
      let b ← rest a.roots
      return ⟨b.roots, a.sites ++ b.sites⟩) (front ++ back) roots where
  ok := by
    intro visited hresult after stops out hwalk
    obtain ⟨a, ha, hresult⟩ := Traced.result_bind_eq_ok_iff.mp hresult
    obtain ⟨b, hb, hresult⟩ := Traced.result_bind_eq_ok_iff.mp hresult
    cases hresult
    obtain ⟨second, hsecond, hwalk⟩ := (hrest a.roots).ok b hb after stops out hwalk
    obtain ⟨own, hown, hwalk⟩ := hfirst.ok a ha _ _ out hwalk
    refine ⟨own ++ second, by rw [List.filterMap_append, hown, hsecond], ?_⟩
    rwa [List.append_assoc, List.append_assoc]
  error := by
    intro failure hresult after
    rcases Traced.result_bind_eq_error_iff.mp hresult with hresult | ⟨a, ha, hresult⟩
    · obtain ⟨own, hwalk⟩ := hfirst.error failure hresult (back ++ after)
      exact ⟨own, by rwa [List.append_assoc]⟩
    · rcases Traced.result_bind_eq_error_iff.mp hresult with hresult | ⟨b, hb, hresult⟩
      · obtain ⟨own, hwalk⟩ := (hrest a.roots).error failure hresult after
        obtain ⟨before, -, hwalk⟩ := hfirst.ok a ha _ _ _ hwalk
        exact ⟨before ++ own, by rwa [List.append_assoc]⟩
      · cases hresult

theorem unrolls_other {p : Position} {v : Json} (harray : ∀ items, v ≠ .array items)
    (hkind : v.kind? = none) : Unrolls limit (pure ⟨roots, []⟩) [(p, v)] roots where
  ok := by
    intro visited hresult rest stops out hwalk
    cases hresult
    exact ⟨[], rfl, .other harray hkind hwalk⟩
  error := by
    intro failure hresult
    cases hresult

theorem unrolls_array {p : Position} {items : List Json} {t : Traced Visited}
    (h : Unrolls limit t (entered p (fun _ ↦ false) 0 (Json.array items).children) roots) :
    Unrolls limit t [(p, .array items)] roots where
  ok := by
    intro visited hresult rest stops out hwalk
    obtain ⟨own, hown, hwalk⟩ := h.ok visited hresult rest stops out hwalk
    exact ⟨own, hown, .array hwalk⟩
  error := by
    intro failure hresult rest
    obtain ⟨own, hwalk⟩ := h.error failure hresult rest
    exact ⟨own, .array hwalk⟩

/-- The visit of a node looks at it with its own declaration made, and goes on to its entries if it
is skipped. -/
theorem unrolls_node {p : Position} {node : Json} {inside : Roots → Traced Visited}
    (hkind : node.kind?.isSome = true)
    (hinside : ∀ roots, Unrolls limit (inside roots)
      (entered p (isPassedOver roots node) 0 node.children) roots) :
    Unrolls limit (do
      let roots ← declare roots node
      match ← offer limit roots node with
      | some command => return ⟨roots, [⟨node.span?, command⟩]⟩
      | none => inside roots) [(p, node)] roots where
  ok := by
    intro visited hresult rest stops out hwalk
    obtain ⟨after, hafter, hresult⟩ := Traced.result_bind_eq_ok_iff.mp hresult
    cases (result_declare roots node).symm.trans hafter
    obtain ⟨found, hfound, hresult⟩ := Traced.result_bind_eq_ok_iff.mp hresult
    rw [result_offer limit p] at hfound
    cases hverdict : (Stop.mk p node (roots.extended node)).verdict limit with
    | matched command =>
      simp only [hverdict] at hfound
      cases hfound
      cases hresult
      refine ⟨[⟨p, node, roots.extended node⟩], ?_, .site hkind hverdict hwalk⟩
      rw [List.filterMap_cons, Stop.site?, hverdict]
      rfl
    | skipped =>
      simp only [hverdict] at hfound
      cases hfound
      obtain ⟨own, hown, hwalk⟩ := (hinside _).ok visited hresult rest stops out hwalk
      refine ⟨⟨p, node, roots.extended node⟩ :: own, ?_, .skipped hkind hverdict hwalk⟩
      rw [List.filterMap_cons, Stop.site?, hverdict]
      exact hown
    | failed failure =>
      simp only [hverdict] at hfound
      cases hfound
  error := by
    intro failure hresult rest
    rcases Traced.result_bind_eq_error_iff.mp hresult with hresult | ⟨after, hafter, hresult⟩
    · cases (result_declare roots node).symm.trans hresult
    cases (result_declare roots node).symm.trans hafter
    rw [Traced.result_bind_eq_error_iff, result_offer limit p] at hresult
    cases hverdict : (Stop.mk p node (roots.extended node)).verdict limit with
    | matched command =>
      simp only [hverdict] at hresult
      rcases hresult with hresult | ⟨found, hfound, hresult⟩
      · cases hresult
      · cases hfound
        cases hresult
    | skipped =>
      simp only [hverdict] at hresult
      rcases hresult with hresult | ⟨found, hfound, hresult⟩
      · cases hresult
      · cases hfound
        obtain ⟨own, hwalk⟩ := (hinside _).error failure hresult rest
        exact ⟨_, .skipped hkind hverdict hwalk⟩
    | failed failure' =>
      simp only [hverdict] at hresult
      rcases hresult with hresult | ⟨found, hfound, -⟩
      · cases hresult
        exact ⟨_, .failed hkind hverdict⟩
      · cases hfound

-- The visit of a value, of items and of entries follow each other in one recursion over the tree.
mutual

theorem unrolls_visit : ∀ (v : Json) (p : Position) (roots : Roots),
    Unrolls limit (visit limit v roots) [(p, v)] roots
  | .null, _, _ => unrolls_other (by simp) rfl
  | .bool _, _, _ => unrolls_other (by simp) rfl
  | .number _, _, _ => unrolls_other (by simp) rfl
  | .string _, _, _ => unrolls_other (by simp) rfl
  | .array items, p, roots => unrolls_array (unrolls_visitItems items p 0 roots)
  | .object entries, p, roots => by
    rw [visit]
    split
    · next hkind => exact unrolls_node hkind fun after ↦ unrolls_visitEntries _ entries p 0 after
    · next hkind => exact unrolls_other (by simp) (by simpa [Json.kind?] using hkind)

theorem unrolls_visitItems : ∀ (items : List Json) (p : Position) (k : Nat) (roots : Roots),
    Unrolls limit (visitItems limit items roots)
      (entered p (fun _ ↦ false) k (Json.array items).children) roots
  | [], _, _, roots => unrolls_nothing roots
  | v :: rest, p, k, roots =>
    (unrolls_visit v (p ++ [k]) roots).append (unrolls_visitItems rest p (k + 1))

theorem unrolls_visitEntries : ∀ (passedOver : String → Bool) (entries : List (String × Json))
    (p : Position) (k : Nat) (roots : Roots),
    Unrolls limit (visitEntries limit passedOver entries roots)
      (entered p passedOver k (Json.object entries).children) roots
  | _, [], _, _, roots => unrolls_nothing roots
  | passedOver, (key, v) :: rest, p, k, roots => by
    rw [visitEntries, Json.children, List.map_cons, entered, Option.any_some]
    split
    · exact unrolls_visitEntries passedOver rest p (k + 1) roots
    · exact (unrolls_visit v (p ++ [k]) roots).append
        (unrolls_visitEntries passedOver rest p (k + 1))

end

/-- The visit of a value is a walk over it, which leaves the same roots and the same sites. -/
theorem walk_of_visit (limit : Nat) (v : Json) (roots : Roots) :
    ∃ stops out, Walk limit [([], v)] roots stops out ∧ (visit limit v roots).result =
      out.map fun last ↦ ⟨last, stops.filterMap (Stop.site? limit)⟩ := by
  have hunrolls : Unrolls limit (visit limit v roots) [([], v)] roots := unrolls_visit v [] roots
  cases hresult : (visit limit v roots).result with
  | error failure =>
    obtain ⟨own, hwalk⟩ := hunrolls.error failure hresult []
    exact ⟨own, _, hwalk, rfl⟩
  | ok visited =>
    obtain ⟨own, hown, hwalk⟩ := hunrolls.ok visited hresult [] [] _ (.done _)
    simp only [List.append_nil] at hwalk
    refine ⟨own, _, hwalk, ?_⟩
    rw [Except.map, hown]

/-- The analysis of a program is a walk over it. -/
theorem walk_of_analyze {config : Config} (hconfig : config.validate = .ok ()) (program : Json) :
    ∃ stops out, Walk config.recursionLimit [([], program)] (Roots.ofConfig config) stops out ∧
      (analyze config program).result =
        out.map fun _ ↦ stops.filterMap (Stop.site? config.recursionLimit) := by
  obtain ⟨stops, out, hwalk, hresult⟩ :=
    walk_of_visit config.recursionLimit program (Roots.ofConfig config)
  refine ⟨stops, out, hwalk, ?_⟩
  simp only [analyze, hconfig, Traced.result_bind, hresult]
  cases out <;> rfl

/-! ## Where the sites are -/

theorem Walk.reached_of_program (h : Walk limit [([], program)] roots stops out) :
    ∀ s ∈ stops, Reached limit program stops s.position := by
  refine h.reached (fun s hs ↦ hs) fun x hx ↦ ?_
  obtain rfl := List.mem_singleton.mp hx
  exact ⟨rfl, fun q i r hp ↦ by simp at hp⟩

/-- A walk over a whole program makes the stops of a survey. -/
theorem Walk.survey (h : Walk limit [([], program)] roots stops out) :
    Survey limit roots program stops := by
  have hlocated : ∀ s ∈ stops,
      program.at? s.position = some s.node ∧ s.node.kind?.isSome = true :=
    h.located (by simp [Json.at?])
  have hincreasing := h.increasing (List.pairwise_singleton _ _)
  exact ⟨hlocated, hincreasing, h.threaded,
    fun s hs ↦ (h.reached_of_program s hs).not_passedOver hlocated hincreasing⟩

/-- No stop is in the right side of an assignment that, wherever the walk looks at it, misses its
collection. The assignment may also be in a place where nothing is looked at. -/
theorem Walk.not_inside_right (h : Walk limit [([], program)] roots stops out) {p : Position}
    {node w : Json} {i : Nat} (hp : program.at? p = some node)
    (hkind : node.isKind Kind.assignment = true) (hi : node.children[i]? = some (some "right", w))
    (hwrite : ∀ s ∈ stops, s.position = p → isMisdirectedWrite node s.roots = true) :
    ∀ t ∈ stops, ¬p ++ [i] <+: t.position := by
  rintro t ht ⟨r, hr⟩
  rw [List.append_assoc, List.singleton_append] at hr
  obtain ⟨v, hv, ⟨items, rfl⟩ | ⟨s, hs, hposition, rfl, -, hopen⟩⟩ :=
    h.reached_of_program t ht p i r hr.symm
  · cases hp.symm.trans hv
    cases hkind
  · cases hp.symm.trans hv
    simpa [isPassedOver, hkind, hwrite s hs hposition] using hopen _ w hi

theorem Walk.accounted_of_reaches (h : Walk limit [([], program)] roots stops out)
    (hkeys : program.distinctKeys = true) {p : Position} {node : Json}
    (hp : program.at? p = some node) (hnode : node.kind?.isSome = true)
    (hreaches : Reaches limit stops out p) : Accounted limit program stops stops p :=
  h.covered (fun s hs ↦ hs) hkeys (List.pairwise_singleton _ _) (by simp [Json.at?]) _
    List.mem_cons_self p node hp hnode hreaches

theorem site?_eq_some_iff {s : Stop} {site : Site} :
    s.site? limit = some site ↔
      site.span = s.node.span? ∧ s.verdict limit = .matched site.command := by
  obtain ⟨span, command⟩ := site
  rw [Stop.site?]
  cases s.verdict limit with
  | matched found => simp [eq_comm]
  | skipped => simp
  | failed failure => simp

/-- The sites of some stops are those of the stops that are recognized, in order. -/
theorem forall₂_filterMap_site? (limit : Nat) (stops : List Stop) :
    List.Forall₂ (fun (site : Site) s ↦ site.span = s.node.span? ∧
        s.verdict limit = .matched site.command)
      (stops.filterMap (Stop.site? limit)) (stops.filter fun s ↦ (s.site? limit).isSome) := by
  induction stops with
  | nil => exact .nil
  | cons s rest ih =>
    cases hsite : s.site? limit with
    | none =>
      rw [List.filterMap_cons_none hsite, List.filter_cons_of_neg (by simp [hsite])]
      exact ih
    | some site =>
      rw [List.filterMap_cons_some hsite, List.filter_cons_of_pos (by simp [hsite])]
      exact .cons (site?_eq_some_iff.mp hsite) ih

/-- Sites follow each other in the order of the document, and none is inside another. -/
theorem Survey.pairwise_sites {start : Roots} (h : Survey limit start program stops) :
    (stops.filter fun s ↦ (s.site? limit).isSome).Pairwise
      fun s t ↦ s.position < t.position ∧ ¬s.position <+: t.position := by
  rw [List.pairwise_filter]
  refine h.increasing.imp_of_mem fun hs ht hlt hsite _ ↦ ⟨hlt, ?_⟩
  rintro ⟨r, hr⟩
  cases r with
  | nil =>
    rw [List.append_nil] at hr
    exact ne_of_lt hlt hr
  | cons i r =>
    obtain ⟨site, hsite⟩ := Option.isSome_iff_exists.mp hsite
    exact h.sound _ ht (.site hs (site?_eq_some_iff.mp hsite).2 hr.symm)

/-- **Where the sites of a program are.** If the analysis succeeds, its sites are those stops of a
survey of the program that are recognized, each with the span of its node and the command of its
recognizer under the roots known there. They follow each other in the order of the document, and
none is inside another. Every other node is a stop that is skipped, or is passed over. If the
analysis fails, its failure is that of the recognizer at the first node, among those that are not
passed over, at which one fails. -/
theorem analyze_surveyed {config : Config} (hconfig : config.validate = .ok ()) {program : Json}
    (hkeys : program.distinctKeys = true) :
    (∀ sites, (analyze config program).result = .ok sites →
      ∃ stops places : List Stop,
        Survey config.recursionLimit (Roots.ofConfig config) program stops ∧
        places.Sublist stops ∧
        places.Pairwise (fun s t ↦ s.position < t.position ∧ ¬s.position <+: t.position) ∧
        List.Forall₂ (fun (site : Site) s ↦ site.span = s.node.span? ∧
          s.verdict config.recursionLimit = .matched site.command) sites places ∧
        ∀ p node, program.at? p = some node → node.kind?.isSome = true →
          (∃ s ∈ places, s.position = p) ∨
          (∃ s ∈ stops, s.position = p ∧ s.verdict config.recursionLimit = .skipped) ∨
          PassedOver config.recursionLimit program stops p) ∧
    ∀ failure, (analyze config program).result = .error failure →
      ∃ (before : List Stop) (last : Stop),
        Survey config.recursionLimit (Roots.ofConfig config) program (before ++ [last]) ∧
        last.verdict config.recursionLimit = .failed failure ∧
        ∀ p node, program.at? p = some node → node.kind?.isSome = true → p < last.position →
          (∃ s ∈ before, s.position = p ∧
            ∀ failure, s.verdict config.recursionLimit ≠ .failed failure) ∨
          PassedOver config.recursionLimit program (before ++ [last]) p := by
  obtain ⟨stops, out, hwalk, hresult⟩ := walk_of_analyze hconfig program
  have hsurvey := hwalk.survey
  have hending := hwalk.ending
  constructor
  · intro sites hsites
    cases out with
    | error failure => cases hresult.symm.trans hsites
    | ok last =>
      cases hresult.symm.trans hsites
      refine ⟨stops, _, hsurvey, List.filter_sublist, hsurvey.pairwise_sites,
        forall₂_filterMap_site? _ stops, fun p node hp hnode ↦ ?_⟩
      rcases hwalk.accounted_of_reaches hkeys hp hnode (Or.inl ⟨last, rfl⟩) with
        ⟨s, hs, hposition⟩ | hpassed
      · cases hverdict : s.verdict config.recursionLimit with
        | matched command =>
          refine Or.inl ⟨s, List.mem_filter.mpr ⟨hs, ?_⟩, hposition⟩
          have hsite : s.site? config.recursionLimit = some ⟨s.node.span?, command⟩ :=
            site?_eq_some_iff.mpr ⟨rfl, hverdict⟩
          rw [hsite]
          rfl
        | skipped => exact Or.inr (Or.inl ⟨s, hs, hposition, hverdict⟩)
        | failed failure => exact absurd hverdict (hending.ok last rfl s hs failure)
      · exact Or.inr (Or.inr hpassed)
  · intro failure hfailure
    cases out with
    | ok last => cases hresult.symm.trans hfailure
    | error failure' =>
      cases hresult.symm.trans hfailure
      obtain ⟨before, last, rfl, hlast, hbefore⟩ := hending.error failure rfl
      refine ⟨before, last, hsurvey, hlast, fun p node hp hnode hlt ↦ ?_⟩
      have hreaches : Reaches config.recursionLimit (before ++ [last]) (.error failure) p :=
        Or.inr ⟨last, List.mem_append_right _ List.mem_cons_self, ⟨failure, hlast⟩, le_of_lt hlt⟩
      rcases hwalk.accounted_of_reaches hkeys hp hnode hreaches with ⟨s, hs, rfl⟩ | hpassed
      · -- The stop is not the last one, which comes later.
        rcases List.mem_append.mp hs with hs | hs
        · exact Or.inl ⟨s, hs, rfl, hbefore s hs⟩
        · rw [List.mem_singleton.mp hs] at hlt
          exact absurd hlt (lt_irrefl _)
      · exact Or.inr hpassed

theorem toOption_eq_some_iff {α : Type} {r : Except Failure α} {a : α} :
    r.toOption = some a ↔ r = .ok a := by
  cases r <;> simp [Except.toOption]

theorem toOption_eq_none_iff {α : Type} {r : Except Failure α} :
    r.toOption = none ↔ ∃ failure, r = .error failure := by
  cases r <;> simp [Except.toOption]

/-- In `const db = connect("app"); db.users = db.todos.filter(x => x.done); log(db.todos.length)`
the only site is the length. With `db.todos.map(x => x)` after it, the analysis fails there. -/
theorem analyze_surveyed_connector :
    let config : Config := { connectors := ["connect"], recursionLimit := 3 }
    let todos := Tree.member (Tree.identifier "db") "todos"
    let done := Tree.member (Tree.identifier "x") "done"
    let statements :=
      [Tree.constant "db" (Tree.call (Tree.identifier "connect") [Tree.string "app"]),
        Tree.expressionStatement (Tree.assignment (Tree.member (Tree.identifier "db") "users")
          (Tree.method todos "filter" [Tree.arrow ["x"] done])),
        Tree.expressionStatement (Tree.call (Tree.identifier "log") [Tree.member todos "length"])]
    let program := Tree.program statements
    let longer := Tree.program (statements ++
      [Tree.expressionStatement (Tree.method todos "map" [Tree.arrow ["x"] (Tree.identifier "x")])])
    let site : Site := ⟨none, .value "length" (.collection ⟨"app", "todos"⟩)⟩
    config.validate = .ok () ∧ program.distinctKeys = true ∧ longer.distinctKeys = true ∧
      (analyze config program).result = .ok [site] ∧
      (∃ stops places : List Stop, Survey 3 (Roots.ofConfig config) program stops ∧
        places.Sublist stops ∧ List.Forall₂ (fun (site : Site) s ↦ site.span = s.node.span? ∧
          s.verdict 3 = .matched site.command) [site] places) ∧
      ∃ (before : List Stop) (last : Stop) (failure : Failure),
        (analyze config longer).result = .error failure ∧
          Survey 3 (Roots.ofConfig config) longer (before ++ [last]) ∧
            last.verdict 3 = .failed failure := by
  intro config todos done statements program longer site
  have hconfig : config.validate = .ok () := rfl
  have hprogram : program.distinctKeys = true := by decide
  have hlonger : longer.distinctKeys = true := by decide
  have hsites : (analyze config program).result = .ok [site] :=
    toOption_eq_some_iff.mp (by decide +kernel)
  obtain ⟨failure, hfailure⟩ : ∃ failure, (analyze config longer).result = .error failure :=
    toOption_eq_none_iff.mp (by decide +kernel)
  obtain ⟨stops, places, hsurvey, hsublist, -, hforall, -⟩ :=
    (analyze_surveyed hconfig hprogram).1 _ hsites
  obtain ⟨before, last, hfailed, hlast, -⟩ := (analyze_surveyed hconfig hlonger).2 _ hfailure
  exact ⟨hconfig, hprogram, hlonger, hsites, ⟨stops, places, hsurvey, hsublist, hforall⟩,
    before, last, failure, hfailure, hfailed, hlast⟩

end Program

end FluentQuery
