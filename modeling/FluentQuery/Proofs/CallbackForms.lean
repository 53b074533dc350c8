import FluentQuery.Proofs.ComparatorGrammar
import FluentQuery.Proofs.Declaration
import FluentQuery.Proofs.RecognizeAlike
import FluentQuery.Proofs.Writes
import Mathlib.Logic.Relation

/-!
# The form of a callback does not matter

A callback that gives back an expression can be written in three forms: as an arrow function with
the expression for its body, as an arrow function with a block that returns it, and as a function
expression with such a block. The shape of functions looks for all of them, and what it binds comes
from the parameters and from the expression alone. So a call that passes a callback in one form
resolves like the same call with another form, wherever in a chain the call stands, and so does an
assignment of such a call.

What is compared is everything but the reasons, which quote the form that was found.
-/

namespace FluentQuery

namespace Json

/-! ## Forms of functions -/

/-- A block whose only statement returns an expression. -/
structure Returning (v e : Json) : Prop where
  block : v.unparen.isKind Kind.block = true
  statement : ∃ s, v.unparen.get? "body" = some (.array [s]) ∧
    s.unparen.isKind Kind.returned = true ∧ s.unparen.get? "argument" = some e

/-- A function with the parameters `ps` that gives back `e`, in one of its forms. Its other entries
are left open, and so are parentheses around it. -/
inductive WrittenOut (ps : List Json) (e f : Json) : Prop
  /-- `ps => e` -/
  | arrow (hkind : f.unparen.isKind Kind.arrowFunction = true)
      (hparams : f.unparen.get? "params" = some (.array ps))
      (hbody : f.unparen.get? "body" = some e) : WrittenOut ps e f
  /-- `ps => { return e }` -/
  | arrowBlock {body : Json} (hkind : f.unparen.isKind Kind.arrowFunction = true)
      (hparams : f.unparen.get? "params" = some (.array ps))
      (hbody : f.unparen.get? "body" = some body) (hreturning : body.Returning e) :
      WrittenOut ps e f
  /-- `function (ps) { return e }` -/
  | function {body : Json} (hkind : f.unparen.isKind Kind.function = true)
      (hparams : f.unparen.get? "params" = some (.array ps))
      (hbody : f.unparen.get? "body" = some body) (hreturning : body.Returning e) :
      WrittenOut ps e f

/-- Two functions with the same parameters that give back the same. -/
structure SameFunction (f g : Json) : Prop where
  left : f.isFunction = true
  right : g.isFunction = true
  params : f.field? "params" = g.field? "params"
  returned : returned? (.orNull (f.field? "body")) = returned? (.orNull (g.field? "body"))

theorem SameFunction.symm {f g : Json} (h : f.SameFunction g) : g.SameFunction f :=
  ⟨h.right, h.left, h.params.symm, h.returned.symm⟩

theorem SameFunction.unparen {f g : Json} (h : f.SameFunction g) :
    f.unparen.SameFunction g.unparen where
  left := by rw [isFunction, unparen_unparen, ← isFunction, h.left]
  right := by rw [isFunction, unparen_unparen, ← isFunction, h.right]
  params := by rw [field?_unparen, field?_unparen, h.params]
  returned := by rw [field?_unparen, field?_unparen, h.returned]

theorem number?_eq_none_of_isFunction {f : Json} (h : f.isFunction = true) : f.number? = none := by
  rw [← number?_unparen]
  rw [isFunction, Bool.or_eq_true, isKind_iff, isKind_iff] at h
  cases hf : f.unparen with
  | object entries =>
    rw [hf] at h
    change kindOf? entries = some _ ∨ kindOf? entries = some _ at h
    rcases h with h | h <;> simp [number?, h, Kind.arrowFunction, Kind.function,
      Kind.parenthesized, Kind.literal, Kind.unary]
  | _ => rfl

theorem Returning.returned?_eq {v e : Json} (h : v.Returning e) :
    returned? v.unparen = some e.unparen := by
  obtain ⟨s, hbody, hs, hargument⟩ := h.statement
  have hitems : (v.unparen.field? "body").bind asArray? = some [s] := by
    rw [field?_unparen, field?, hbody]
    rfl
  have hresult : s.field? "argument" = some e.unparen := by
    rw [field?, hargument]
    rfl
  rw [returned?, unparen_unparen, if_pos h.block, hitems]
  simp only [hs, if_true, hresult, orNull, Option.getD_some]

/-- In all forms, a function has its parameters and gives back its expression. -/
theorem WrittenOut.gives {ps : List Json} {e f : Json} (he : e.unparen.isKind Kind.block = false)
    (h : WrittenOut ps e f) : f.isFunction = true ∧ f.field? "params" = some (.array ps) ∧
      returned? (.orNull (f.field? "body")) = some e.unparen := by
  have hfield : ∀ {name : String} {v : Json}, f.unparen.get? name = some v →
      f.field? name = some v.unparen := by
    intro name v hget
    rw [field?, hget]
    rfl
  cases h with
  | arrow hkind hparams hbody =>
    refine ⟨by rw [isFunction, hkind, Bool.true_or], hfield hparams, ?_⟩
    rw [hfield hbody, orNull, Option.getD_some, returned?, unparen_unparen, he]
    rfl
  | arrowBlock hkind hparams hbody hreturning =>
    refine ⟨by rw [isFunction, hkind, Bool.true_or], hfield hparams, ?_⟩
    rw [hfield hbody]
    exact hreturning.returned?_eq
  | function hkind hparams hbody hreturning =>
    refine ⟨by rw [isFunction, hkind, Bool.or_true], hfield hparams, ?_⟩
    rw [hfield hbody]
    exact hreturning.returned?_eq

/-- Any two forms are of the same function. -/
theorem WrittenOut.sameFunction {ps : List Json} {e f g : Json}
    (he : e.unparen.isKind Kind.block = false) (hf : WrittenOut ps e f) (hg : WrittenOut ps e g) :
    f.SameFunction g := by
  obtain ⟨hleft, hparams, hreturned⟩ := hf.gives he
  obtain ⟨hright, hparams', hreturned'⟩ := hg.gives he
  exact ⟨hleft, hright, hparams.trans hparams'.symm, hreturned.trans hreturned'.symm⟩

/-! ## Replacing a callback -/

/-- Two nodes have the same entries, but for those of one key. -/
def SameBut (key : String) (a b : Json) : Prop :=
  ∀ k, k ≠ key → a.unparen.get? k = b.unparen.get? k

/-- Two calls differ only in that one passes `g` where the other passes `f`. -/
structure Passes (f g a b : Json) : Prop where
  call : a.unparen.isKind Kind.call = true
  sameBut : SameBut "arguments" a b
  arguments : ∃ before after, a.unparen.get? "arguments" = some (.array (before ++ f :: after)) ∧
    b.unparen.get? "arguments" = some (.array (before ++ g :: after))

/-- Two expressions differ only in that one passes `g` to a call where the other passes `f`. The
call is the expression itself or stands further in along its chain, or it is what an assignment
assigns. -/
inductive Swaps (f g : Json) : Json → Json → Prop
  | passed {a b : Json} (h : Passes f g a b) : Swaps f g a b
  | callee {a b x y : Json} (hkind : a.unparen.isKind Kind.call = true)
      (hbut : SameBut "callee" a b) (hx : a.unparen.get? "callee" = some x)
      (hy : b.unparen.get? "callee" = some y) (h : Swaps f g x y) : Swaps f g a b
  | object {a b x y : Json} (hkind : a.unparen.isKind Kind.member = true)
      (hbut : SameBut "object" a b) (hx : a.unparen.get? "object" = some x)
      (hy : b.unparen.get? "object" = some y) (h : Swaps f g x y) : Swaps f g a b
  | assigned {a b x y : Json} (hkind : a.unparen.isKind Kind.assignment = true)
      (hbut : SameBut "right" a b) (hx : a.unparen.get? "right" = some x)
      (hy : b.unparen.get? "right" = some y) (h : Passes f g x y) : Swaps f g a b

namespace SameBut

variable {key : String} {a b : Json}

theorem unparen (h : SameBut key a b) : SameBut key a.unparen b.unparen := by
  intro k hk
  rw [unparen_unparen, unparen_unparen, h k hk]

theorem field?_eq (h : SameBut key a b) {k : String} (hk : k ≠ key) : a.field? k = b.field? k := by
  rw [field?, field?, h k hk]

theorem isKind_eq (h : SameBut key a b) (hkey : "type" ≠ key) (kind : String) :
    a.unparen.isKind kind = b.unparen.isKind kind := by
  have hget : ∀ v : Json, v.kind? = ((v.get? "type").bind asString?).map canonicalKind := by
    intro v
    cases v <;> rfl
  rw [isKind, isKind, hget, hget, h _ hkey]

theorem identName?_eq (h : SameBut key a b) (hkey : "type" ≠ key) (hname : "name" ≠ key) :
    a.identName? = b.identName? := by
  rw [identName?, identName?, h.isKind_eq hkey, h _ hname]

theorem staticProperty?_eq (h : SameBut key a b) (hkey : "type" ≠ key)
    (hproperty : "property" ≠ key) (hname : "key" ≠ key) (hcomputed : "computed" ≠ key) :
    a.staticProperty? = b.staticProperty? := by
  simp only [staticProperty?, field?_unparen, isComputed, h.isKind_eq hkey, h.field?_eq hproperty,
    h.field?_eq hname, h _ hcomputed]

end SameBut

/-! ## What is the same -/

/-- The keys under which a callback is replaced: as an argument of a call, further in along a chain,
or in what is assigned. -/
def swapKeys : List String := ["arguments", "callee", "object", "right"]

theorem rel_reflGen_of_eq {R : Json → Json → Prop} {x y : Option Json} (h : x = y) :
    Option.Rel (Relation.ReflGen R) x y := by
  subst h
  cases x with
  | none => exact .none
  | some v => exact .some .refl

namespace Passes

variable {f g a b : Json}

theorem unparen (h : Passes f g a b) : Passes f g a.unparen b.unparen where
  call := by rw [unparen_unparen, h.call]
  sameBut := h.sameBut.unparen
  arguments := by
    rw [unparen_unparen, unparen_unparen]
    exact h.arguments

theorem symm (h : Passes f g a b) : Passes g f b a := by
  obtain ⟨before, after, ha, hb⟩ := h.arguments
  refine ⟨?_, fun k hk ↦ (h.sameBut k hk).symm, before, after, hb, ha⟩
  rw [← h.sameBut.isKind_eq (by decide), h.call]

theorem exists_arguments (h : Passes f g a b) : ∃ before after,
    (a.field? "arguments").bind asArray? = some (before ++ f :: after) ∧
      (b.field? "arguments").bind asArray? = some (before ++ g :: after) := by
  obtain ⟨before, after, ha, hb⟩ := h.arguments
  refine ⟨before, after, ?_, ?_⟩
  · rw [field?, ha]
    rfl
  · rw [field?, hb]
    rfl

/-- If one of the calls has a single argument, that is the callback, and so for the other. -/
theorem single_argument (h : Passes f g a b) {x : Json}
    (hx : (a.field? "arguments").bind asArray? = some [x]) :
    x = f ∧ (b.field? "arguments").bind asArray? = some [g] := by
  obtain ⟨before, after, ha, hb⟩ := h.exists_arguments
  rw [ha] at hx
  cases before with
  | nil =>
    obtain ⟨rfl, rfl⟩ := List.cons.inj (Option.some.inj hx)
    exact ⟨rfl, hb⟩
  | cons y before =>
    have hnil := (List.cons.inj (Option.some.inj hx)).2
    exact absurd hnil (by simp)

theorem calls_iff (h : Passes f g a b) {object : Json} {method : String} :
    a.Calls object method ↔ b.Calls object method := by
  have himp : ∀ {f g a b : Json}, Passes f g a b → a.Calls object method →
      b.Calls object method := by
    rintro f g a b h ⟨hcall, callee, hcallee, hrest⟩
    exact ⟨h.symm.call, callee, (h.sameBut.field?_eq (by decide)).symm.trans hcallee, hrest⟩
  exact ⟨himp h, himp h.symm⟩

/-- The two calls have the same parameter and result in their callbacks. -/
theorem callsBack_iff (hfg : f.SameFunction g) (h : Passes f g a b) {param : Option String}
    {result : Json} : a.CallsBack param result ↔ b.CallsBack param result := by
  have himp : ∀ {f g a b : Json}, f.SameFunction g → Passes f g a b →
      a.CallsBack param result → b.CallsBack param result := by
    rintro f g a b hfg h ⟨-, x, hx, -, hparam, hreturned⟩
    obtain ⟨rfl, hg⟩ := h.single_argument hx
    refine ⟨h.symm.call, g, hg, hfg.right, ?_, hfg.returned.symm.trans hreturned⟩
    rwa [← hfg.params]
  exact ⟨himp hfg h, himp hfg.symm h.symm⟩

end Passes

namespace Swaps

variable {f g a b : Json}

theorem exists_sameBut (h : Swaps f g a b) : ∃ key ∈ swapKeys, SameBut key a b := by
  cases h with
  | passed h => exact ⟨_, by decide, h.sameBut⟩
  | callee _ hbut => exact ⟨_, by decide, hbut⟩
  | object _ hbut => exact ⟨_, by decide, hbut⟩
  | assigned _ hbut => exact ⟨_, by decide, hbut⟩

theorem unparen (h : Swaps f g a b) : Swaps f g a.unparen b.unparen := by
  cases h with
  | passed h => exact .passed h.unparen
  | callee hkind hbut hx hy h =>
    exact .callee (by rwa [unparen_unparen]) hbut.unparen (by rwa [unparen_unparen])
      (by rwa [unparen_unparen]) h
  | object hkind hbut hx hy h =>
    exact .object (by rwa [unparen_unparen]) hbut.unparen (by rwa [unparen_unparen])
      (by rwa [unparen_unparen]) h
  | assigned hkind hbut hx hy h =>
    exact .assigned (by rwa [unparen_unparen]) hbut.unparen (by rwa [unparen_unparen])
      (by rwa [unparen_unparen]) h

theorem symm (h : Swaps f g a b) : Swaps g f b a := by
  have hback : ∀ {key : String} {a b : Json}, SameBut key a b → SameBut key b a :=
    fun h k hk ↦ (h k hk).symm
  induction h with
  | passed h => exact .passed h.symm
  | callee hkind hbut hx hy _ ih =>
    exact .callee (by rwa [← hbut.isKind_eq (by decide)]) (hback hbut) hy hx ih
  | object hkind hbut hx hy _ ih =>
    exact .object (by rwa [← hbut.isKind_eq (by decide)]) (hback hbut) hy hx ih
  | assigned hkind hbut hx hy h =>
    exact .assigned (by rwa [← hbut.isKind_eq (by decide)]) (hback hbut) hy hx h.symm

theorem isKind_eq (h : Swaps f g a b) (kind : String) :
    a.unparen.isKind kind = b.unparen.isKind kind := by
  obtain ⟨key, hkey, hbut⟩ := h.exists_sameBut
  exact hbut.isKind_eq (ne_of_mem_of_not_mem hkey (by decide)).symm kind

theorem field?_eq (h : Swaps f g a b) {name : String} (hname : name ∉ swapKeys) :
    a.field? name = b.field? name := by
  obtain ⟨key, hkey, hbut⟩ := h.exists_sameBut
  exact hbut.field?_eq (ne_of_mem_of_not_mem hkey hname).symm

theorem identName?_eq (h : Swaps f g a b) : a.identName? = b.identName? := by
  obtain ⟨key, hkey, hbut⟩ := h.exists_sameBut
  exact hbut.identName?_eq (ne_of_mem_of_not_mem hkey (by decide)).symm
    (ne_of_mem_of_not_mem hkey (by decide)).symm

theorem staticProperty?_eq (h : Swaps f g a b) : a.staticProperty? = b.staticProperty? := by
  obtain ⟨key, hkey, hbut⟩ := h.exists_sameBut
  have hne : ∀ {k : String}, k ∉ swapKeys → k ≠ key := fun hk ↦
    (ne_of_mem_of_not_mem hkey hk).symm
  exact hbut.staticProperty?_eq (hne (by decide)) (hne (by decide)) (hne (by decide))
    (hne (by decide))

/-- A child is the same on both sides, or a callback in it is replaced. -/
theorem rel_field? (h : Swaps f g a b) (name : String)
    (hname : name ≠ "arguments" ∧ name ≠ "right") :
    Option.Rel (Relation.ReflGen (Swaps f g)) (a.field? name) (b.field? name) := by
  -- The child is the one in which the callback stands, or another one, which is the same.
  have hchild : ∀ {key : String} {x y : Json}, SameBut key a b → a.unparen.get? key = some x →
      b.unparen.get? key = some y → Swaps f g x y →
        Option.Rel (Relation.ReflGen (Swaps f g)) (a.field? name) (b.field? name) := by
    intro key x y hbut hx hy h
    by_cases hkey : name = key
    · rw [hkey, field?, field?, hx, hy]
      exact .some (.single h.unparen)
    · exact rel_reflGen_of_eq (hbut.field?_eq hkey)
  cases h with
  | passed h => exact rel_reflGen_of_eq (h.sameBut.field?_eq hname.1)
  | callee _ hbut hx hy h => exact hchild hbut hx hy h
  | object _ hbut hx hy h => exact hchild hbut hx hy h
  | assigned _ hbut => exact rel_reflGen_of_eq (hbut.field?_eq hname.2)

/-- What is assigned is the same on both sides, or it is a call that passes the callback. -/
theorem rel_right (h : Swaps f g a b) :
    Option.Rel (Relation.ReflGen (Passes f g)) (a.field? "right") (b.field? "right") := by
  cases h with
  | passed h => exact rel_reflGen_of_eq (h.sameBut.field?_eq (by decide))
  | callee _ hbut => exact rel_reflGen_of_eq (hbut.field?_eq (by decide))
  | object _ hbut => exact rel_reflGen_of_eq (hbut.field?_eq (by decide))
  | assigned _ _ hx hy h =>
    rw [field?, field?, hx, hy]
    exact .some (.single h.unparen)

/-- The targets of assignments are the same, since callbacks are replaced in what is assigned. -/
theorem exists_assigns (h : Swaps f g a b) {target right : Json} (ha : a.Assigns target right) :
    ∃ right', b.Assigns target right' ∧ Relation.ReflGen (Passes f g) right right' := by
  have hright := h.rel_right
  rw [ha.right] at hright
  generalize hb : b.field? "right" = y at hright
  cases hright with
  | @some _ right' hpasses =>
    refine ⟨right', ⟨?_, ?_, ?_, hb⟩, hpasses⟩
    · rw [← h.isKind_eq, ha.assignment]
    · rw [← h.field?_eq (by decide), ha.operator]
    · rw [← h.field?_eq (by decide), ha.target]

end Swaps

end Json

open Json

namespace Attachment

variable {f g a b : Json} (attachment : Attachment)

theorem nameOf?_eq_of_swaps (h : Swaps f g a b) : attachment.nameOf? a = attachment.nameOf? b := by
  cases attachment with
  | call =>
    have hcallee := h.rel_field? "callee" (by decide)
    rw [nameOf?, nameOf?]
    generalize a.field? "callee" = x at hcallee ⊢
    generalize b.field? "callee" = y at hcallee ⊢
    cases hcallee with
    | none => rfl
    | some hxy =>
      cases hxy with
      | refl => rfl
      | single hxy => exact hxy.staticProperty?_eq
  | member => exact h.staticProperty?_eq
  | identifier => rfl
  | assignment => rfl

theorem rel_predecessor?_of_swaps (h : Swaps f g a b) :
    Option.Rel (Relation.ReflGen (Swaps f g)) (attachment.predecessor? a)
      (attachment.predecessor? b) := by
  cases attachment with
  | call =>
    have hcallee := h.rel_field? "callee" (by decide)
    rw [predecessor?, predecessor?]
    generalize a.field? "callee" = x at hcallee ⊢
    generalize b.field? "callee" = y at hcallee ⊢
    cases hcallee with
    | none => exact .none
    | @some x y hxy =>
      cases hxy with
      | refl => exact rel_reflGen_of_eq rfl
      | single hxy => exact hxy.rel_field? "object" (by decide)
  | member => exact h.rel_field? "object" (by decide)
  | identifier => exact .none
  | assignment => exact h.rel_field? "left" (by decide)

end Attachment

/-! ## Arguments of calls -/

open Pattern Shapes

variable {f g a b : Json}

/-- A comparator has the same sort key in all forms. -/
theorem Comparator.agree_normalize_of_sameFunction (h : f.SameFunction g) :
    Outcome.Agree Eq (normalize f) (normalize g) := by
  have himp : ∀ {f g : Json} {x y : String} {e : Json}, f.SameFunction g → Reads f x y e →
      Reads g x y e := by
    rintro f g x y e h ⟨-, hparams, hreturned⟩
    exact ⟨h.right, by rwa [← h.params], h.returned.symm.trans hreturned⟩
  have hreads : ∀ {x y : String} {e : Json}, Reads f x y e ↔ Reads g x y e :=
    ⟨himp h, himp h.symm⟩
  refine .of_iff fun key ↦ ?_
  simp only [normalize_iff_readAs, ReadAs, hreads]

/-- The bounds of a slice are numbers. -/
theorem isSome_number?_of_slicePattern {bs : Bindings} {items : List Json}
    (h : slicePattern.bindings a = .matched bs)
    (hitems : (a.field? "arguments").bind asArray? = some items) :
    ∀ x ∈ items, x.number?.isSome = true := by
  obtain ⟨-, h⟩ := node_singleton_iff.mp h
  obtain ⟨_, harray, h⟩ := seq_iff.mp h
  obtain rfl := Option.some.inj ((orNull_eq_array_iff.mp harray).symm.trans hitems)
  obtain ⟨x, rest, own, mid, rfl, hown, -, h⟩ := bindSlots_one_iff.mp h
  obtain ⟨n, hn, -⟩ := numberAs_iff.mp hown
  obtain ⟨rfl, -⟩ | ⟨y, own', rfl, hown', -⟩ := bindSlots_optional_iff.mp h
  · simp [hn]
  · obtain ⟨m, hm, -⟩ := numberAs_iff.mp hown'
    simp [hn, hm]

namespace Json.Passes

theorem agree_callbackOf (hfg : f.SameFunction g) (h : Passes f g a b) (body : Pattern) :
    Outcome.Agree Eq ((callbackOf body).bindings a) ((callbackOf body).bindings b) := by
  refine .of_iff fun bs ↦ ?_
  simp only [callbackOf_iff, h.callsBack_iff hfg]

/-- A function is no number, so neither call is a slice. -/
theorem agree_slicePattern (hfg : f.SameFunction g) (h : Passes f g a b) :
    Outcome.Agree Eq (slicePattern.bindings a) (slicePattern.bindings b) := by
  have hnone : ∀ {f g a b : Json}, f.isFunction = true → Passes f g a b →
      ∀ bs, slicePattern.bindings a ≠ .matched bs := by
    intro f g a b hf h bs hbs
    obtain ⟨before, after, harguments, -⟩ := h.exists_arguments
    have hsome := isSome_number?_of_slicePattern hbs harguments f (by simp)
    rw [number?_eq_none_of_isFunction hf] at hsome
    cases hsome
  exact .of_iff fun bs ↦
    ⟨fun hbs ↦ absurd hbs (hnone hfg.left h bs), fun hbs ↦ absurd hbs (hnone hfg.right h.symm bs)⟩

/-- Both calls are sorts by their callback, or neither is a sort. -/
theorem agree_sortPattern (h : Passes f g a b) : Outcome.Agree
    (fun m m' ↦ m = [("comparator", f.unparen)] ∧ m' = [("comparator", g.unparen)])
    (sortPattern.bindings a) (sortPattern.bindings b) := by
  have hmatch : ∀ {f g a b : Json} {m : Bindings}, Passes f g a b →
      sortPattern.bindings a = .matched m → m = [("comparator", f.unparen)] ∧
        sortPattern.bindings b = .matched [("comparator", g.unparen)] := by
    intro f g a b m h hm
    obtain ⟨-, hm⟩ := node_singleton_iff.mp hm
    obtain ⟨x, hx, hm⟩ := seq_singleton_iff.mp hm
    obtain ⟨rfl, hg⟩ := h.single_argument (orNull_eq_array_iff.mp hx)
    refine ⟨bound_iff.mp hm, node_singleton_iff.mpr ⟨h.symm.call, ?_⟩⟩
    exact seq_singleton_iff.mpr ⟨g, orNull_eq_array_iff.mpr hg, bound_iff.mpr rfl⟩
  refine .of_matched (fun m hm ↦ ⟨_, (hmatch h hm).2, (hmatch h hm).1, rfl⟩) fun m hm ↦ ?_
  exact ⟨_, (hmatch h.symm hm).2⟩

end Json.Passes

/-- An extractor takes the same from nodes that differ in one callback. -/
def Extractor.Ignores (f g : Json) (extract : Extractor) : Prop :=
  ∀ ⦃a b : Json⦄, Swaps f g a b → ∀ roots, Outcome.Agree Eq (extract a roots) (extract b roots)

/-- The arguments of a call are the same, unless it is the call that passes the callback. -/
theorem agree_argumentsPattern (h : Swaps f g a b) (slots : List (Slot Pattern))
    (hpasses : Passes f g a b → Outcome.Agree Eq ((argumentsPattern slots).bindings a)
      ((argumentsPattern slots).bindings b)) :
    Outcome.Agree Eq ((argumentsPattern slots).bindings a)
      ((argumentsPattern slots).bindings b) := by
  have hsame : a.field? "arguments" = b.field? "arguments" →
      Outcome.Agree Eq ((argumentsPattern slots).bindings a)
        ((argumentsPattern slots).bindings b) := by
    intro harguments
    refine .of_iff fun bs ↦ ?_
    rw [argumentsPattern, node_singleton_iff, node_singleton_iff, h.isKind_eq, harguments]
  cases h with
  | passed h => exact hpasses h
  | callee _ hbut => exact hsame (hbut.field?_eq (by decide))
  | object _ hbut => exact hsame (hbut.field?_eq (by decide))
  | assigned _ hbut => exact hsame (hbut.field?_eq (by decide))

section Reads

variable (hfg : f.SameFunction g)
include hfg

theorem ignores_filterArguments : Extractor.Ignores f g filterArguments := by
  intro a b h roots
  have hcallback := agree_argumentsPattern h _ fun h ↦ h.agree_callbackOf hfg (bound "body")
  refine (hcallback.mapSkip _ _).bind fun m m' hm ↦ ?_
  subst hm
  exact .refl _

theorem ignores_mapArguments : Extractor.Ignores f g mapArguments := by
  intro a b h roots
  have hcallback := agree_argumentsPattern h _ fun h ↦ h.agree_callbackOf hfg
    (node Kind.object [("properties", .seq [.rest .any (some "properties")])])
  refine (hcallback.mapSkip _ _).bind fun m m' hm ↦ ?_
  subst hm
  exact .refl _

theorem ignores_sliceArguments : Extractor.Ignores f g sliceArguments := by
  intro a b h roots
  have hbounds := agree_argumentsPattern h _ fun h ↦ h.agree_slicePattern hfg
  refine (hbounds.mapSkip _ _).bind fun m m' hm ↦ ?_
  subst hm
  exact .refl _

theorem ignores_sortArguments : Extractor.Ignores f g sortArguments := by
  intro a b h roots
  by_cases hpasses : Passes f g a b
  · -- What is bound differs here, but it is read as the same key.
    refine (hpasses.agree_sortPattern.mapSkip _ _).bind fun m m' hm ↦ ?_
    obtain ⟨rfl, rfl⟩ := hm
    refine (Comparator.agree_normalize_of_sameFunction hfg.unparen).bind fun key key' hkey ↦ ?_
    subst hkey
    exact .refl _
  · have harguments := agree_argumentsPattern h [.one (bound "comparator")]
      fun h ↦ absurd h hpasses
    refine (harguments.mapSkip _ _).bind fun m m' hm ↦ ?_
    subst hm
    exact .refl _

end Reads

/-! ## Assignments -/

/-- An assignment reads its callback in what is assigned. -/
theorem agree_callback_right (hfg : f.SameFunction g) (h : Relation.ReflGen (Passes f g) a b) :
    Outcome.Agree Eq (callback.bindings a) (callback.bindings b) := by
  cases h with
  | refl => exact .refl _
  | single h => exact h.agree_callbackOf hfg (bound "body")

theorem ignores_removeArguments (hfg : f.SameFunction g) :
    Extractor.Ignores f g removeArguments := by
  intro a b h roots
  refine (Outcome.Agree.ofOption h.rel_right _).bind fun call call' hcall ↦ ?_
  refine ((agree_callback_right hfg hcall).mapSkip _ _).bind fun m m' hm ↦ ?_
  subst hm
  exact .refl _

theorem ignores_updateArguments (hfg : f.SameFunction g) :
    Extractor.Ignores f g updateArguments := by
  intro a b h roots
  refine (Outcome.Agree.ofOption h.rel_right _).bind fun call call' hcall ↦ ?_
  refine ((agree_callback_right hfg hcall).mapSkip _ _).bind fun m m' hm ↦ ?_
  subst hm
  exact .refl _

/-- Assignments that differ in a callback match a pattern alike, if what they assign does. -/
theorem agree_assigned {p : Pattern} (hnull : p.RefusesNull)
    (hp : ∀ {f g x y : Json}, Passes f g x y → ∀ own, p.bindings x = .matched own →
      p.bindings y = .matched own) (h : Swaps f g a b) :
    Outcome.Agree Eq ((assigned p).bindings a) ((assigned p).bindings b) := by
  -- One direction is enough, since the functions can change places.
  have himp : ∀ {f g a b : Json} {bs : Bindings}, Swaps f g a b →
      (assigned p).bindings a = .matched bs → (assigned p).bindings b = .matched bs := by
    intro f g a b bs h hbs
    obtain ⟨target, right, own, hassigns, hown, hmerge⟩ := (assigned_iff hnull).mp hbs
    obtain ⟨right', hassigns', hright⟩ := h.exists_assigns hassigns
    refine (assigned_iff hnull).mpr ⟨target, right', own, hassigns', ?_, hmerge⟩
    cases hright with
    | refl => exact hown
    | single hpasses => exact hp hpasses own hown
  exact .of_iff fun bs ↦ ⟨himp h, himp h.symm⟩

theorem agree_reassignedVia (h : Swaps f g a b) (method : String) :
    Outcome.Agree Eq ((reassignedVia method).bindings a) ((reassignedVia method).bindings b) := by
  refine agree_assigned (refusesNull_node _ _) (fun hpasses own hown ↦ ?_) h
  simpa only [call_memberNamed_iff, hpasses.calls_iff] using hown

theorem agree_reassignedFrom (h : Swaps f g a b) :
    Outcome.Agree Eq (reassignedFrom.bindings a) (reassignedFrom.bindings b) := by
  refine agree_assigned (refusesNull_node _ _) (fun hpasses own hown ↦ ?_) h
  simpa only [call_memberAs_iff (show "source" ≠ "method" by decide), hpasses.calls_iff] using hown

/-- What passes a callback is no array. -/
theorem agree_appended (h : Swaps f g a b) :
    Outcome.Agree Eq (appended.bindings a) (appended.bindings b) := by
  refine agree_assigned (refusesNull_node _ _) (fun hpasses own hown ↦ ?_) h
  have hkind := (isKind_iff.mp hpasses.call).symm.trans
    (isKind_iff.mp (node_singleton_iff.mp hown).1)
  exact absurd hkind (by decide)

theorem ignores_insertArguments : Extractor.Ignores f g insertArguments := by
  intro a b h roots
  refine (agree_appended h).bind fun m m' hm ↦ ?_
  subst hm
  exact .refl _

/-- Of two assignments that differ in the form of a callback, both miss their collection or none. -/
theorem isMisdirectedWrite_eq_of_swaps (hfg : f.SameFunction g) (h : Swaps f g a b)
    (roots : Roots) : isMisdirectedWrite a roots = isMisdirectedWrite b roots := by
  rw [isMisdirectedWrite, isMisdirectedWrite]
  have hfrom := agree_reassignedFrom h
  have hright := h.rel_right
  generalize reassignedFrom.bindings a = x at hfrom ⊢
  generalize reassignedFrom.bindings b = y at hfrom ⊢
  generalize a.field? "right" = p at hright ⊢
  generalize b.field? "right" = q at hright ⊢
  cases hfrom with
  | skip why why' => rfl
  | @matched m _ hm =>
    subst hm
    cases hright with
    | none => rfl
    | @some v w hvw =>
      have hcallback := agree_callback_right hfg hvw
      dsimp only
      cases m.get? "target" with
      | none => rfl
      | some target =>
        cases m.get? "source" with
        | none => rfl
        | some source =>
          dsimp only
          split
          · rfl
          · generalize callback.bindings v = c at hcallback ⊢
            generalize callback.bindings w = c' at hcallback ⊢
            cases hcallback with
            | skip why why' => rfl
            | matched hc => rw [hc]

/-! ## Recognition -/

theorem databaseMember_object_eq (h : Swaps f g a b) :
    (a.field? "object").bind identName? = (b.field? "object").bind identName? := by
  have hobject := h.rel_field? "object" (by decide)
  generalize a.field? "object" = x at hobject ⊢
  generalize b.field? "object" = y at hobject ⊢
  cases hobject with
  | none => rfl
  | some hxy =>
    cases hxy with
    | refl => rfl
    | single hxy => exact hxy.identName?_eq

namespace Operation

variable {op : Operation} {roots : Roots}

theorem agree_commit_of_extract (h : Outcome.Agree Eq (op.extract a roots) (op.extract b roots))
    (source : Option Command) : Verdict.Agree Eq (op.commit roots a source).verdict
      (op.commit roots b source).verdict := by
  rw [Operation.commit, Operation.commit]
  generalize op.extract a roots = x at h ⊢
  generalize op.extract b roots = y at h ⊢
  cases h with
  | skip why why' => exact .failed (.of_operation rfl rfl)
  | matched hxy =>
    subst hxy
    dsimp only
    split
    · exact .failed (.of_operation rfl rfl)
    · exact .refl _

/-- An operation treats two forms of a callback alike if its shape and its extractor do. -/
theorem simulates_of_ignores (hshape : ∀ {a b : Json}, Swaps f g a b →
      (op.testShape roots a).isMatch = (op.testShape roots b).isMatch)
    (hextract : op.extract.Ignores f g) :
    op.Simulates (Relation.ReflGen (Swaps f g)) Eq roots where
  applies h := by
    cases h with
    | refl => rfl
    | single h =>
      rw [applies, applies, Attachment.accepts, Attachment.accepts, h.isKind_eq,
        op.attachment.nameOf?_eq_of_swaps h.unparen]
  shape h := by
    cases h with
    | refl => rfl
    | single h => exact hshape h.unparen
  predecessor h := by
    cases h with
    | refl => exact rel_reflGen_of_eq rfl
    | single h => exact op.attachment.rel_predecessor?_of_swaps h.unparen
  start h := by
    cases h with
    | refl => exact .refl _
    | single h => exact agree_commit_of_extract (hextract h.unparen roots) none
  next h hbefore := by
    subst hbefore
    cases h with
    | refl => exact .refl _
    | single h => exact agree_commit_of_extract (hextract h.unparen roots) _

end Operation

namespace Table

variable (hfg : f.SameFunction g) (roots : Roots)
include hfg

theorem ignores_read (read : Read) : read.operation.extract.Ignores f g := by
  rw [read.operation_extract]
  cases read with
  | filter => exact ignores_filterArguments hfg
  | map => exact ignores_mapArguments hfg
  | slice => exact ignores_sliceArguments hfg
  | sort => exact ignores_sortArguments hfg
  | length => exact fun a b _ roots ↦ .refl _

theorem simulates_standard : ∀ op ∈ standard.operations,
    op.Simulates (Relation.ReflGen (Swaps f g)) Eq roots := by
  intro op hop
  cases standardRow_of_mem hop with
  | databaseRoot =>
    refine Operation.simulates_of_ignores (fun {a b} h ↦ ?_) fun a b h roots ↦ ?_
    · change (databaseMember a roots).isMatch = (databaseMember b roots).isMatch
      rw [databaseMember, databaseMember, databaseMember_object_eq h, h.staticProperty?_eq]
    · change Outcome.Agree Eq (databaseMemberArguments a roots) (databaseMemberArguments b roots)
      rw [databaseMemberArguments, databaseMemberArguments, databaseMember_object_eq h,
        h.staticProperty?_eq]
      exact .refl _
  | collectionRoot =>
    refine Operation.simulates_of_ignores (fun {a b} h ↦ ?_) fun a b h roots ↦ ?_
    · change (collectionIdentifier a roots).isMatch = (collectionIdentifier b roots).isMatch
      rw [collectionIdentifier, collectionIdentifier, h.identName?_eq]
    · change Outcome.Agree Eq (collectionIdentifierArguments a roots)
        (collectionIdentifierArguments b roots)
      rw [collectionIdentifierArguments, collectionIdentifierArguments, h.identName?_eq]
      exact .refl _
  | read read =>
    refine Operation.simulates_of_ignores (fun _ ↦ ?_) (ignores_read hfg read)
    rw [read.operation_testShape, read.operation_testShape]
  | insert =>
    exact Operation.simulates_of_ignores
      (fun h ↦ ((agree_appended h).map (S := Eq) fun _ _ _ ↦ rfl).isMatch_eq)
      ignores_insertArguments
  | update =>
    exact Operation.simulates_of_ignores
      (fun h ↦ ((agree_reassignedVia h "map").map (S := Eq) fun _ _ _ ↦ rfl).isMatch_eq)
      (ignores_updateArguments hfg)
  | remove =>
    exact Operation.simulates_of_ignores
      (fun h ↦ ((agree_reassignedVia h "filter").map (S := Eq) fun _ _ _ ↦ rfl).isMatch_eq)
      (ignores_removeArguments hfg)

end Table

/-- **The form of a callback does not matter.** Let a callback give back an expression that is no
block, and let two expressions differ only in the form in which they pass it: to a call anywhere
along a chain, or to the call that an assignment assigns. Recognizing them comes to the same
command, to skipping both, or to failures of the same operation (the same failure, if no operation
is at fault). And both are writes that miss their collection, or neither is. -/
theorem Recognizer.recognize_writtenOut (r : Recognizer) {ps : List Json} {e : Json}
    (he : e.unparen.isKind Kind.block = false) (hf : WrittenOut ps e f) (hg : WrittenOut ps e g)
    (h : Swaps f g a b) (roots : Roots) (limit : Nat) :
    Verdict.Agree Eq (r.recognize roots limit a).verdict (r.recognize roots limit b).verdict ∧
      isMisdirectedWrite a roots = isMisdirectedWrite b roots := by
  have hfg := hf.sameFunction he hg
  refine ⟨?_, isMisdirectedWrite_eq_of_swaps hfg h roots⟩
  rw [verdict_recognize, verdict_recognize]
  exact (Table.agree_resolveAt_of_simulates (fun _ _ ↦ congrArg Resolved.id)
    (Table.simulates_standard hfg roots) (.single h) limit limit _).map fun _ _ ↦
      congrArg Resolved.command

theorem passes_call (callee f g : Json) :
    Passes f g (Tree.call callee [f]) (Tree.call callee [g]) := by
  refine ⟨rfl, fun k hk ↦ ?_, [], [], rfl, rfl⟩
  change find? k _ = find? k _
  simp [find?_cons, hk.symm]

theorem swaps_assignment (target : Json) (h : Passes f g a b) :
    Swaps f g (Tree.assignment target a) (Tree.assignment target b) := by
  refine .assigned rfl (fun k hk ↦ ?_) rfl rfl h
  change find? k _ = find? k _
  simp [find?_cons, hk.symm]

/-- `db.todos = db.todos.filter(function (x) { return x.done })` is the removal that
`db.todos = db.todos.filter(x => x.done)` is. -/
theorem recognize_writtenOut_todos :
    let roots : Roots := ⟨[("db", ⟨"app", none⟩)], []⟩
    let todos := Tree.member (Tree.identifier "db") "todos"
    let keep := Tree.member (Tree.identifier "x") "done"
    let short := Tree.arrow ["x"] keep
    let long := Tree.node Kind.function
      [("params", .array [Tree.identifier "x"]), ("body", Tree.returning keep)]
    let removal := fun f ↦ Tree.assignment todos (Tree.method todos "filter" [f])
    WrittenOut [Tree.identifier "x"] keep short ∧ WrittenOut [Tree.identifier "x"] keep long ∧
      Swaps short long (removal short) (removal long) ∧
      (Recognizer.assignment.recognize roots 2 (removal short)).verdict =
        .matched (.modification (.remove (negate keep)) (.collection ⟨"app", "todos"⟩)) ∧
      (Recognizer.assignment.recognize roots 2 (removal long)).verdict =
        .matched (.modification (.remove (negate keep)) (.collection ⟨"app", "todos"⟩)) := by
  intro roots todos keep short long removal
  have hshort : WrittenOut [Tree.identifier "x"] keep short := .arrow rfl rfl rfl
  have hlong : WrittenOut [Tree.identifier "x"] keep long :=
    .function rfl rfl rfl ⟨rfl, _, rfl, rfl, rfl⟩
  have hswaps : Swaps short long (removal short) (removal long) :=
    swaps_assignment todos (passes_call _ short long)
  have hremoval : (Recognizer.assignment.recognize roots 2 (removal short)).verdict =
      .matched (.modification (.remove (negate keep)) (.collection ⟨"app", "todos"⟩)) := rfl
  refine ⟨hshort, hlong, hswaps, hremoval, ?_⟩
  have hagree := (Recognizer.recognize_writtenOut .assignment rfl hshort hlong hswaps roots 2).1
  rw [hremoval] at hagree
  generalize (Recognizer.assignment.recognize roots 2 (removal long)).verdict = v at hagree ⊢
  cases hagree with
  | matched h => rw [h]

end FluentQuery
