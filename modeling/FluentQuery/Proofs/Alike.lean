import FluentQuery.Proofs.Pattern
import FluentQuery.Proofs.Plain
import Mathlib.Data.List.Forall2

/-!
# Matching the same expression twice

Two values are *alike* if they have the same plain form and their parentheses enclose what some test
allows. The accessors cannot tell alike values apart, and so neither can a pattern whose own tests
and computed values cannot: on alike values it matches both or none, and binds the same names to
related values.

What the bound values are related by is left open between the likeness of the values matched and the
equality of plain forms. A later step that looks into a bound value needs the former, while for a
computed value only the latter may be known.
-/

namespace FluentQuery

/-! ## Outcomes that agree -/

/-- Two outcomes both match, with related results, or both skip. -/
inductive Outcome.Agree {α β : Type} (R : α → β → Prop) : Outcome α → Outcome β → Prop
  | matched {a : α} {b : β} (h : R a b) : Agree R (.matched a) (.matched b)
  | skip (why why' : Skip) : Agree R (.skip why) (.skip why')

namespace Outcome.Agree

variable {α α' β β' : Type} {R : α → α' → Prop} {S : β → β' → Prop} {o : Outcome α}
  {o' : Outcome α'}

theorem bind (h : Agree R o o') {f : α → Outcome β} {g : α' → Outcome β'}
    (hfg : ∀ a a', R a a' → Agree S (f a) (g a')) : Agree S (o >>= f) (o' >>= g) := by
  cases h with
  | matched hR => exact hfg _ _ hR
  | skip why why' => exact .skip why why'

theorem map (h : Agree R o o') {f : α → β} {g : α' → β'} (hfg : ∀ a a', R a a' → S (f a) (g a')) :
    Agree S (o.map f) (o'.map g) := by
  cases h with
  | matched hR => exact .matched (hfg _ _ hR)
  | skip why why' => exact .skip why why'

theorem imp (h : Agree R o o') {R' : α → α' → Prop} (hR : ∀ a a', R a a' → R' a a') :
    Agree R' o o' := by
  cases h with
  | matched hab => exact .matched (hR _ _ hab)
  | skip why why' => exact .skip why why'

theorem mapSkip (h : Agree R o o') (f g : Skip → Skip) : Agree R (o.mapSkip f) (o'.mapSkip g) := by
  cases h with
  | matched hR => exact .matched hR
  | skip why why' => exact .skip _ _

theorem isMatch_eq (h : Agree R o o') : o.isMatch = o'.isMatch := by
  cases h <;> rfl

theorem refl (o : Outcome α) : Agree Eq o o := by
  cases o with
  | matched a => exact .matched rfl
  | skip why => exact .skip why why

theorem of_eq {o o' : Outcome α} (h : o = o') : Agree Eq o o' := h ▸ refl o

/-- Outcomes agree if each match of the first goes with a match of the second, and if the second
matches only if the first does. -/
theorem of_matched {R : α → α → Prop} {o o' : Outcome α}
    (hforth : ∀ a, o = .matched a → ∃ b, o' = .matched b ∧ R a b)
    (hback : ∀ b, o' = .matched b → ∃ a, o = .matched a) : Agree R o o' := by
  cases o with
  | matched a =>
    obtain ⟨b, rfl, hab⟩ := hforth a rfl
    exact .matched hab
  | skip why =>
    cases o' with
    | matched b =>
      obtain ⟨a, ha⟩ := hback b rfl
      cases ha
    | skip why' => exact .skip why why'

theorem of_iff {o o' : Outcome α} (h : ∀ a, o = .matched a ↔ o' = .matched a) : Agree Eq o o' :=
  of_matched (fun a ha ↦ ⟨a, (h a).mp ha, rfl⟩) fun a ha ↦ ⟨a, (h a).mpr ha⟩

theorem ofOption {x : Option α} {y : Option α'} (h : Option.Rel R x y) (reason : String) :
    Agree R (.ofOption reason x) (.ofOption reason y) := by
  cases h with
  | some hR => exact .matched hR
  | none => exact .skip _ _

end Outcome.Agree

/-! ## Values that are alike -/

/-- Two values are the same expression, with only what a test allows in parentheses. -/
structure Alike (e : Enclosure) (a b : Json) : Prop where
  plain_eq : a.plain = b.plain
  left : a.encloses e.test = true
  right : b.encloses e.test = true

variable {e : Enclosure}

/-- Optional values with the same plain forms are alike, if they are allowed. -/
theorem rel_alike {x y : Option Json} (h : x.map Json.plain = y.map Json.plain)
    (hx : ∀ v, x = some v → v.encloses e.test = true)
    (hy : ∀ v, y = some v → v.encloses e.test = true) : Option.Rel (Alike e) x y := by
  cases rel_of_map_eq h with
  | none => exact .none
  | @some v w hvw => exact .some ⟨hvw, hx v rfl, hy w rfl⟩

/-- Lists with the same plain forms are alike item by item, if they are allowed. -/
theorem forall₂_alike {xs ys : List Json} (h : xs.map Json.plain = ys.map Json.plain)
    (hx : ∀ v ∈ xs, v.encloses e.test = true) (hy : ∀ v ∈ ys, v.encloses e.test = true) :
    List.Forall₂ (Alike e) xs ys := by
  induction xs generalizing ys with
  | nil =>
    cases ys with
    | nil => exact .nil
    | cons w ys => cases h
  | cons v xs ih =>
    cases ys with
    | nil => cases h
    | cons w ys =>
      rw [List.map_cons, List.map_cons, List.cons.injEq] at h
      obtain ⟨hv, hxs⟩ := List.forall_mem_cons.mp hx
      obtain ⟨hw, hys⟩ := List.forall_mem_cons.mp hy
      exact .cons ⟨h.1, hv, hw⟩ (ih h.2 hxs hys)

namespace Alike

variable {a b : Json}

theorem refl {v : Json} (h : v.encloses e.test = true) : Alike e v v := ⟨rfl, h, h⟩

theorem symm (h : Alike e a b) : Alike e b a := ⟨h.plain_eq.symm, h.right, h.left⟩

theorem unparen (h : Alike e a b) : Alike e a.unparen b.unparen where
  plain_eq := by rw [Json.plain_unparen, Json.plain_unparen, h.plain_eq]
  left := Json.encloses_unparen h.left
  right := Json.encloses_unparen h.right

theorem kind?_unparen (h : Alike e a b) : a.unparen.kind? = b.unparen.kind? := by
  rw [← Json.kind?_plain, h.plain_eq, Json.kind?_plain]

theorem isKind_unparen (h : Alike e a b) (kind : String) :
    a.unparen.isKind kind = b.unparen.isKind kind := by
  rw [Json.isKind, Json.isKind, h.kind?_unparen]

/-- Where a kind is never put into parentheses, it is seen without looking through them. -/
theorem isKind_eq (h : Alike e a b) {kind : String}
    (htest : ∀ w, e.test (some w) = true → w.isKind kind = false)
    (hne : kind ≠ Kind.parenthesized) : a.isKind kind = b.isKind kind := by
  have himp : ∀ {x y : Json}, Alike e x y → x.isKind kind = true → y.isKind kind = true := by
    intro x y hxy hx
    refine Json.isKind_of_unparen hxy.right htest ?_
    rw [← hxy.isKind_unparen, Json.unparen_of_isKind hx hne]
    exact hx
  exact Bool.eq_iff_iff.mpr ⟨himp h, himp h.symm⟩

variable {name : String}

theorem get?_unparen (h : Alike e a b) (htrivia : isTrivia name = false) (htype : name ≠ "type") :
    Option.Rel (Alike e) (a.unparen.get? name) (b.unparen.get? name) := by
  refine rel_alike ?_ (fun v ↦ Json.encloses_of_get? h.unparen.left htrivia)
    fun v ↦ Json.encloses_of_get? h.unparen.right htrivia
  rw [← Json.get?_plain htrivia htype, h.plain_eq, Json.get?_plain htrivia htype]

theorem field? (h : Alike e a b) (htrivia : isTrivia name = false) (htype : name ≠ "type") :
    Option.Rel (Alike e) (a.field? name) (b.field? name) := by
  refine rel_alike ?_ (fun v ↦ Json.encloses_of_field? h.left htrivia)
    fun v ↦ Json.encloses_of_field? h.right htrivia
  rw [← Json.field?_plain htrivia htype, h.plain_eq, Json.field?_plain htrivia htype]

theorem asString? (h : Alike e a b) : a.asString? = b.asString? := by
  rw [← Json.asString?_plain h.left, h.plain_eq, Json.asString?_plain h.right]

theorem asBool? (h : Alike e a b) : a.asBool? = b.asBool? := by
  rw [← Json.asBool?_plain h.left, h.plain_eq, Json.asBool?_plain h.right]

theorem asBinary64? (h : Alike e a b) :
    a.asBinary64?.map Binary64.unsignedZero = b.asBinary64?.map Binary64.unsignedZero := by
  rw [← Json.asBinary64?_plain h.left, h.plain_eq, Json.asBinary64?_plain h.right]

theorem asArray? (h : Alike e a b) :
    Option.Rel (List.Forall₂ (Alike e)) a.asArray? b.asArray? := by
  have heq : a.asArray?.map (List.map Json.plain) = b.asArray?.map (List.map Json.plain) := by
    rw [← Json.asArray?_plain h.left, h.plain_eq, Json.asArray?_plain h.right]
  cases a with
  | array items =>
    cases b with
    | array items' =>
      exact .some (forall₂_alike (Option.some.inj heq) (fun v ↦ Json.encloses_of_mem h.left)
        fun v ↦ Json.encloses_of_mem h.right)
    | _ => cases heq
  | _ =>
    cases b with
    | array items' => cases heq
    | _ => exact .none

theorem exists_object {entries : List (String × Json)} (h : Alike e (.object entries) b) :
    ∃ entries', b = .object entries' := by
  obtain ⟨plain, hplain⟩ := Json.exists_plain_object h.left
  rw [h.plain_eq] at hplain
  cases b with
  | object entries' => exact ⟨entries', rfl⟩
  | _ => cases hplain

theorem eq_null_iff (h : Alike e a b) : a = .null ↔ b = .null := by
  rw [← Json.plain_eq_null_iff h.left, h.plain_eq, Json.plain_eq_null_iff h.right]

theorem identName? (h : Alike e a b) : a.identName? = b.identName? := by
  rw [← Json.identName?_plain h.left, h.plain_eq, Json.identName?_plain h.right]

theorem string? (h : Alike e a b) : a.string? = b.string? := by
  rw [← Json.string?_plain h.left, h.plain_eq, Json.string?_plain h.right]

theorem staticProperty? (h : Alike e a b) : a.staticProperty? = b.staticProperty? := by
  rw [← Json.staticProperty?_plain h.left, h.plain_eq, Json.staticProperty?_plain h.right]

theorem number? (h : Alike e a b) :
    a.number?.map Binary64.unsignedZero = b.number?.map Binary64.unsignedZero := by
  rw [← Json.number?_plain a h.left, h.plain_eq, Json.number?_plain b h.right]

theorem sameNode_eq {a' b' : Json} (h : a.plain = b.plain) (h' : a'.plain = b'.plain) :
    Json.sameNode a a' = Json.sameNode b b' := by
  rw [Json.sameNode, Json.sameNode, h, h']

theorem array {items items' : List Json} (h : List.Forall₂ (Alike e) items items') :
    Alike e (.array items) (.array items') := by
  induction h with
  | nil => exact refl rfl
  | cons hv _ ih =>
    obtain ⟨hplain, hleft, hright⟩ := ih
    rw [Json.plain, Json.plain, Json.array.injEq] at hplain
    rw [Json.encloses] at hleft hright
    refine ⟨?_, ?_, ?_⟩
    · rw [Json.plain, Json.plain, Json.plainItems, Json.plainItems, hv.plain_eq, hplain]
    · rw [Json.encloses, Json.enclosesItems, hv.left, hleft]
      rfl
    · rw [Json.encloses, Json.enclosesItems, hv.right, hright]
      rfl

theorem orNull {x y : Option Json} (h : Option.Rel (Alike e) x y) :
    Alike e (.orNull x) (.orNull y) := by
  cases h with
  | some hv => exact hv
  | none => exact refl rfl

end Alike

/-- Two lists of entries are alike by look-up, trivia and kind apart. -/
def EntriesAlike (e : Enclosure) (entries entries' : List (String × Json)) : Prop :=
  ∀ name, isTrivia name = false → name ≠ "type" →
    Option.Rel (Alike e) (Json.find? name entries) (Json.find? name entries')

/-! ## Bindings -/

namespace Bindings

/-- The same names in the same order, bound to related values. -/
def Related (R : Json → Json → Prop) (bs bs' : Bindings) : Prop :=
  List.Forall₂ (fun x y ↦ x.1 = y.1 ∧ R x.2 y.2) bs bs'

namespace Related

variable {R : Json → Json → Prop} {bs bs' : Bindings}

theorem get? (h : Related R bs bs') (name : String) :
    Option.Rel R (bs.get? name) (bs'.get? name) := by
  induction h with
  | nil => exact .none
  | @cons x y xs ys hxy _ ih =>
    obtain ⟨k, v⟩ := x
    obtain ⟨k', w⟩ := y
    obtain ⟨rfl, hR⟩ := hxy
    rw [get?_cons, get?_cons]
    split
    · exact .some hR
    · exact ih

theorem insert (hplain : ∀ a b, R a b → a.plain = b.plain) (h : Related R bs bs') (name : String)
    {v w : Json} (hvw : R v w) :
    Outcome.Agree (Related R) (bs.insert name v) (bs'.insert name w) := by
  rw [Bindings.insert, Bindings.insert]
  generalize hx : bs.get? name = x
  generalize hy : bs'.get? name = y
  have hget := h.get? name
  rw [hx, hy] at hget
  cases hget with
  | none => exact .matched (List.rel_append h (.cons ⟨rfl, hvw⟩ .nil))
  | @some a b hab =>
    -- Whether a name is bound to the same expression again is a matter of plain forms.
    have hsame : Json.sameNode a v = Json.sameNode b w :=
      Alike.sameNode_eq (hplain a b hab) (hplain v w hvw)
    dsimp only
    rw [hsame]
    split
    · exact .matched h
    · exact .skip _ _

theorem merge (hplain : ∀ a b, R a b → a.plain = b.plain) {own own' : Bindings}
    (h : Related R bs bs') (hown : Related R own own') :
    Outcome.Agree (Related R) (bs.merge own) (bs'.merge own') := by
  induction hown generalizing bs bs' with
  | nil => exact .matched h
  | @cons x y xs ys hxy _ ih =>
    obtain ⟨k, v⟩ := x
    obtain ⟨k', w⟩ := y
    obtain ⟨rfl, hR⟩ := hxy
    rw [Bindings.merge, Bindings.merge]
    exact (h.insert hplain k hR).bind fun _ _ hmid ↦ ih hmid

end Related

end Bindings

/-! ## Patterns -/

namespace Pattern

/-- A computed value is related on alike values. -/
def ComputeRespects (e : Enclosure) (R : Json → Json → Prop) (compute : Option (Json → Json)) :
    Prop :=
  ∀ f, compute = some f → ∀ a b, Alike e a b → R (f a) (f b)

mutual

/-- No test and no computed value of a pattern tells alike values apart, and no trivia and no kind
is looked at as a child. -/
def Respects (e : Enclosure) (R : Json → Json → Prop) : Pattern → Prop
  | .any => True
  | .literal _ => True
  | .shape fields => FieldsRespect e R fields
  | .seq slots => SlotsRespect e R slots
  | .oneOf branches => AllRespect e R branches
  | .all parts => AllRespect e R parts
  | .capture _ none compute => ComputeRespects e R compute
  | .capture _ (some inner) compute => inner.Respects e R ∧ ComputeRespects e R compute
  | .satisfies _ test => ∀ a b, Alike e a b → test a = test b

/-- The patterns of some children respect likeness, and the children may be looked at. -/
def FieldsRespect (e : Enclosure) (R : Json → Json → Prop) : List (String × Pattern) → Prop
  | [] => True
  | (name, p) :: rest =>
    isTrivia name = false ∧ name ≠ "type" ∧ p.Respects e R ∧ FieldsRespect e R rest

/-- Some patterns respect likeness. -/
def AllRespect (e : Enclosure) (R : Json → Json → Prop) : List Pattern → Prop
  | [] => True
  | p :: rest => p.Respects e R ∧ AllRespect e R rest

/-- The patterns of some places respect likeness. -/
def SlotsRespect (e : Enclosure) (R : Json → Json → Prop) : List (Slot Pattern) → Prop
  | [] => True
  | .one p :: rest => p.Respects e R ∧ SlotsRespect e R rest
  | .optional p :: rest => p.Respects e R ∧ SlotsRespect e R rest
  | .rest each _ :: rest => each.Respects e R ∧ SlotsRespect e R rest

end

variable {R : Json → Json → Prop}

theorem alike_child {entries entries' : List (String × Json)} (h : EntriesAlike e entries entries')
    {name : String} (htrivia : isTrivia name = false) (htype : name ≠ "type") :
    Alike e (child entries name) (child entries' name) := by
  rw [child, child]
  refine Alike.orNull ?_
  have hfind := h name htrivia htype
  generalize Json.find? name entries = x at hfind ⊢
  generalize Json.find? name entries' = y at hfind ⊢
  cases hfind with
  | none => exact .none
  | some hvw => exact .some hvw.unparen

theorem firstSkip?_isSome_eq {α : Type} {test : Json → Outcome α} {S : α → α → Prop}
    (htest : ∀ a b, Alike e a b → Outcome.Agree S (test a) (test b)) {items items' : List Json}
    (h : List.Forall₂ (Alike e) items items') (place : Nat) :
    (firstSkip? test place items).isSome = (firstSkip? test place items').isSome := by
  induction h generalizing place with
  | nil => rfl
  | @cons a b items items' hab _ ih =>
    rw [firstSkip?, firstSkip?]
    have hagree := htest a b hab
    generalize test a = x at hagree ⊢
    generalize test b = y at hagree ⊢
    cases hagree with
    | matched _ => exact ih (place + 1)
    | skip why why' => rfl

theorem related_bindRest (hR : ∀ a b, Alike e a b → R a b)
    (hplain : ∀ a b, R a b → a.plain = b.plain) (kept : Option String) {items items' : List Json}
    (hitems : List.Forall₂ (Alike e) items items') {before before' : Bindings}
    (h : Bindings.Related R before before') :
    Outcome.Agree (Bindings.Related R) (bindRest kept items before)
      (bindRest kept items' before') := by
  cases kept with
  | none => exact .matched h
  | some name => exact h.insert hplain name (hR _ _ (.array hitems))

-- One recursion over patterns, their fields, branches, parts and places, as in matching itself.
mutual

/-- **Matching respects likeness.** On alike values, a pattern matches both or none, and binds the
same names in the same order to related values. -/
theorem agree_bindings (hR : ∀ a b, Alike e a b → R a b)
    (hplain : ∀ a b, R a b → a.plain = b.plain) : ∀ (p : Pattern) {a b : Json}, p.Respects e R →
      Alike e a b → Outcome.Agree (Bindings.Related R) (p.bindings a) (p.bindings b)
  | .any, a, b, _, _ => .matched .nil
  | .literal expected, a, b, _, h => by
    rw [bindings, bindings, Alike.sameNode_eq rfl h.plain_eq]
    split
    · exact .matched .nil
    · exact .skip _ _
  | .shape fields, a, b, hp, h => by
    rw [bindings, bindings]
    have hinner := h.unparen
    have hentries : ∀ name, isTrivia name = false → name ≠ "type" →
        Option.Rel (Alike e) (a.unparen.get? name) (b.unparen.get? name) :=
      fun name ↦ h.get?_unparen
    generalize a.unparen = x at hinner hentries ⊢
    generalize b.unparen = y at hinner hentries ⊢
    cases x with
    | object entries =>
      obtain ⟨entries', rfl⟩ := hinner.exists_object
      exact agree_bindFields hR hplain fields hp hentries .nil
    | _ =>
      cases y with
      | object entries' =>
        obtain ⟨entries, hobject⟩ := hinner.symm.exists_object
        cases hobject
      | _ => exact .skip _ _
  | .seq slots, a, b, hp, h => by
    have harray := h.asArray?
    cases a with
    | array items =>
      cases b with
      | array items' =>
        cases harray with
        | some hitems => exact agree_bindSlots hR hplain slots hp hitems .nil
      | _ => cases harray
    | _ =>
      cases b with
      | array items' => cases harray
      | _ => exact .skip _ _
  | .oneOf branches, a, b, hp, h => agree_bindFirst hR hplain branches hp h [] []
  | .all parts, a, b, hp, h => agree_bindAll hR hplain parts hp h .nil
  | .capture name none none, a, b, _, h => .matched (.cons ⟨rfl, hR _ _ h.unparen⟩ .nil)
  | .capture name none (some f), a, b, hp, h => .matched (.cons ⟨rfl, hp f rfl a b h⟩ .nil)
  | .capture name (some inner) none, a, b, hp, h =>
    (agree_bindings hR hplain inner hp.1 h).bind fun _ _ hown ↦
      hown.insert hplain name (hR _ _ h.unparen)
  | .capture name (some inner) (some f), a, b, hp, h =>
    (agree_bindings hR hplain inner hp.1 h).bind fun _ _ hown ↦
      hown.insert hplain name (hp.2 f rfl a b h)
  | .satisfies reason test, a, b, hp, h => by
    rw [bindings, bindings, hp a b h]
    split
    · exact .matched .nil
    · exact .skip _ _

theorem agree_bindFields (hR : ∀ a b, Alike e a b → R a b)
    (hplain : ∀ a b, R a b → a.plain = b.plain) : ∀ (fields : List (String × Pattern))
      {entries entries' : List (String × Json)} {before before' : Bindings},
      FieldsRespect e R fields → EntriesAlike e entries entries' →
      Bindings.Related R before before' → Outcome.Agree (Bindings.Related R)
        (bindFields fields entries before) (bindFields fields entries' before')
  | [], entries, entries', before, before', _, _, h => .matched h
  | (name, p) :: rest, entries, entries', before, before', hp, hentries, h => by
    rw [bindFields, bindFields]
    refine ((agree_bindings hR hplain p hp.2.2.1
      (alike_child hentries hp.1 hp.2.1)).mapSkip _ _).bind fun own own' hown ↦ ?_
    refine (h.merge hplain hown).bind fun mid mid' hmid ↦ ?_
    exact agree_bindFields hR hplain rest hp.2.2.2 hentries hmid

theorem agree_bindFirst (hR : ∀ a b, Alike e a b → R a b)
    (hplain : ∀ a b, R a b → a.plain = b.plain) : ∀ (branches : List Pattern) {a b : Json},
      AllRespect e R branches → Alike e a b → ∀ refused refused' : List Skip,
      Outcome.Agree (Bindings.Related R) (bindFirst branches a refused)
        (bindFirst branches b refused')
  | [], a, b, _, _, refused, refused' => .skip _ _
  | p :: rest, a, b, hp, h, refused, refused' => by
    rw [bindFirst, bindFirst]
    have hagree := agree_bindings hR hplain p hp.1 h
    generalize p.bindings a = x at hagree ⊢
    generalize p.bindings b = y at hagree ⊢
    cases hagree with
    | matched hown => exact .matched hown
    | skip why why' => exact agree_bindFirst hR hplain rest hp.2 h _ _

theorem agree_bindAll (hR : ∀ a b, Alike e a b → R a b)
    (hplain : ∀ a b, R a b → a.plain = b.plain) : ∀ (parts : List Pattern) {a b : Json}
      {before before' : Bindings}, AllRespect e R parts → Alike e a b →
      Bindings.Related R before before' → Outcome.Agree (Bindings.Related R)
        (bindAll parts a before) (bindAll parts b before')
  | [], a, b, before, before', _, _, hbefore => .matched hbefore
  | p :: rest, a, b, before, before', hp, h, hbefore => by
    rw [bindAll, bindAll]
    refine (agree_bindings hR hplain p hp.1 h).bind fun own own' hown ↦ ?_
    refine (hbefore.merge hplain hown).bind fun mid mid' hmid ↦ ?_
    exact agree_bindAll hR hplain rest hp.2 h hmid

theorem agree_bindSlots (hR : ∀ a b, Alike e a b → R a b)
    (hplain : ∀ a b, R a b → a.plain = b.plain) : ∀ (slots : List (Slot Pattern))
      {items items' : List Json} {before before' : Bindings}, SlotsRespect e R slots →
      List.Forall₂ (Alike e) items items' → Bindings.Related R before before' →
      Outcome.Agree (Bindings.Related R) (bindSlots slots items before)
        (bindSlots slots items' before')
  | [], [], [], before, before', _, .nil, h => .matched h
  | [], _ :: _, _ :: _, before, before', _, .cons _ _, h => .skip _ _
  | .one p :: rest, [], [], before, before', _, .nil, h => .skip _ _
  | .one p :: rest, a :: items, b :: items', before, before', hp, .cons hab hitems, h => by
    rw [bindSlots, bindSlots]
    refine (agree_bindings hR hplain p hp.1 hab).bind fun own own' hown ↦ ?_
    refine (h.merge hplain hown).bind fun mid mid' hmid ↦ ?_
    exact agree_bindSlots hR hplain rest hp.2 hitems hmid
  | .optional p :: rest, [], [], before, before', hp, .nil, h => by
    rw [bindSlots, bindSlots]
    exact agree_bindSlots hR hplain rest hp.2 .nil h
  | .optional p :: rest, a :: items, b :: items', before, before', hp, .cons hab hitems, h => by
    rw [bindSlots, bindSlots]
    -- Taking the item goes well on both sides or on none.
    have htaken : Outcome.Agree (Bindings.Related R)
        (p.bindings a >>= before.merge >>= bindSlots rest items)
        (p.bindings b >>= before'.merge >>= bindSlots rest items') :=
      ((agree_bindings hR hplain p hp.1 hab).bind fun _ _ hown ↦ h.merge hplain hown).bind
        fun _ _ hmid ↦ agree_bindSlots hR hplain rest hp.2 hitems hmid
    generalize (p.bindings a >>= before.merge >>= bindSlots rest items) = x at htaken ⊢
    generalize (p.bindings b >>= before'.merge >>= bindSlots rest items') = y at htaken ⊢
    cases htaken with
    | matched hdone => exact .matched hdone
    | skip why why' => exact agree_bindSlots hR hplain rest hp.2 (.cons hab hitems) h
  | .rest each kept :: rest, items, items', before, before', hp, hitems, h => by
    rw [bindSlots, bindSlots, ← hitems.length_eq]
    have hskip := firstSkip?_isSome_eq (fun _ _ ↦ agree_bindings hR hplain each hp.1)
      (List.forall₂_take (items.length - Slot.required rest) hitems) 0
    have hleft := List.forall₂_drop (items.length - Slot.required rest) hitems
    have htaken := List.forall₂_take (items.length - Slot.required rest) hitems
    generalize firstSkip? each.bindings 0 (items.take (items.length - Slot.required rest)) = x
      at hskip ⊢
    generalize firstSkip? each.bindings 0 (items'.take (items.length - Slot.required rest)) = y
      at hskip ⊢
    cases x with
    | none =>
      cases y with
      | none =>
        refine (related_bindRest hR hplain kept htaken h).bind fun mid mid' hmid ↦ ?_
        exact agree_bindSlots hR hplain rest hp.2 hleft hmid
      | some why => cases hskip
    | some why =>
      cases y with
      | none => cases hskip
      | some why' => exact .skip _ _

end

end Pattern

end FluentQuery
