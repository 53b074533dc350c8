import FluentQuery.Command.Encode
import Mathlib.Data.List.Forall2
import Mathlib.Data.Option.Basic

/-!
# Commands can be read back

The JSON form of a command puts the variant of the command, the method and the entries of its
operation and its source into one object, and a missing option is `null` there. Nothing is lost by
this: `Command.ofJson?` reads a command back from its JSON form. It takes every entry by its key,
the variant first and then the method, so that the two operations with an entry `fields` are told
apart before the entry is read. Only a predicate of an update that is itself `null` cannot be told
from none.

JSON values are also equal if their objects list their entries in different orders, and doubles are
equal if they have the same value. A reader by keys cannot tell such values apart, so what it reads
from them is equal in the same sense. Hence commands whose JSON forms are equal are equal, for
equality of values as well as for identity.
-/

namespace FluentQuery

/-! ## Equal values -/

/-- Numbers are equal if they are the same integer, or doubles of the same value. -/
inductive Number.Equal : Number → Number → Prop
  | int (n : Int) : Equal (.int n) (.int n)
  | real {x y : Binary64} (h : x.value = y.value) : Equal (.real x) (.real y)

/-- JSON values are equal if they are of one sort with equal parts. The parts of an object are found
by their keys, in whatever order they stand. -/
inductive Json.Equal : Json → Json → Prop
  | null : Equal .null .null
  | bool (b : Bool) : Equal (.bool b) (.bool b)
  | number {m n : Number} (h : m.Equal n) : Equal (.number m) (.number n)
  | string (s : String) : Equal (.string s) (.string s)
  | array {xs ys : List Json} (hlength : xs.length = ys.length)
      (hitems : ∀ (i : Nat) (v w : Json), xs[i]? = some v → ys[i]? = some w → Equal v w) :
      Equal (.array xs) (.array ys)
  | object {xs ys : List (String × Json)}
      (hkeys : ∀ key, (Json.find? key xs).isSome = (Json.find? key ys).isSome)
      (hentries : ∀ key v w, Json.find? key xs = some v → Json.find? key ys = some w → Equal v w) :
      Equal (.object xs) (.object ys)

/-- Two entries, or two properties that are set, have the same name and equal values. -/
def Json.EntryEqual (x y : String × Json) : Prop := x.1 = y.1 ∧ x.2.Equal y.2

/-- Reads are equal if their parts are, with predicates equal as values. -/
inductive QueryOp.Equal : QueryOp → QueryOp → Prop
  | filter {p q : Json} (h : p.Equal q) : Equal (.filter p) (.filter q)
  | map (fields : List Projection) : Equal (.map fields) (.map fields)
  | slice (start : Int) (stop : Option Int) : Equal (.slice start stop) (.slice start stop)
  | sort (keys : List SortKey) : Equal (.sort keys) (.sort keys)

/-- Changes are equal if their parts are, with expressions equal as values. -/
inductive ModOp.Equal : ModOp → ModOp → Prop
  | insert {values values' : List Json} (h : List.Forall₂ Json.Equal values values') :
      Equal (.insert values) (.insert values')
  | update {changes changes' : List (String × Json)} {predicate predicate' : Option Json}
      (hchanges : List.Forall₂ Json.EntryEqual changes changes')
      (hpredicate : Option.Rel Json.Equal predicate predicate') :
      Equal (.update changes predicate) (.update changes' predicate')
  | remove {p q : Json} (h : p.Equal q) : Equal (.remove p) (.remove q)

/-- Commands are equal if they are of one variant with equal parts. -/
inductive Command.Equal : Command → Command → Prop
  | collection (ref : CollectionRef) : Equal (.collection ref) (.collection ref)
  | query {op op' : QueryOp} {source source' : Command} (hop : op.Equal op')
      (hsource : Equal source source') : Equal (.query op source) (.query op' source')
  | value (property : String) {source source' : Command} (hsource : Equal source source') :
      Equal (.value property source) (.value property source')
  | modification {op op' : ModOp} {source source' : Command} (hop : op.Equal op')
      (hsource : Equal source source') : Equal (.modification op source) (.modification op' source')

/-! ## Reading -/

namespace Json

/-- The integer that a number is. -/
def asInt? : Json → Option Int
  | .number (.int n) => some n
  | _ => none

/-- What is read from a value, or nothing if the value is `null`. -/
def optional? {α : Type} (read : Json → Option α) : Json → Option (Option α)
  | .null => some none
  | v => (read v).map some

/-- What is read from the items of an array. -/
def list? {α : Type} (read : Json → Option α) (v : Json) : Option (List α) :=
  v.asArray?.bind (List.mapM read)

/-- What is read from the entry of a key. -/
def entry? {α : Type} (v : Json) (key : String) (read : Json → Option α) : Option α :=
  (v.get? key).bind read

end Json

open Json

/-- A property of a projection, from its JSON form. -/
def Projection.ofJson? (v : Json) : Option Projection := do
  return ⟨← v.entry? "name" asString?, ← v.entry? "field" asString?⟩

/-- A key of an order, from its JSON form. -/
def SortKey.ofJson? (v : Json) : Option SortKey := do
  return ⟨← v.entry? "field" asString?, ← v.entry? "ascending" asBool?⟩

/-- A property that is set, from its JSON form. -/
def changeOfJson? (v : Json) : Option (String × Json) :=
  v.asArray?.bind fun items ↦
    match items with
    | [name, value] => name.asString?.map fun name ↦ (name, value)
    | _ => none

/-- A read, from the object that holds its entries. -/
def QueryOp.ofJson? (v : Json) : Option QueryOp := do
  let method ← v.entry? "method" asString?
  if method = "filter" then return .filter (← v.get? "predicate")
  else if method = "map" then return .map (← v.entry? "fields" (list? Projection.ofJson?))
  else if method = "slice" then
    return .slice (← v.entry? "from" asInt?) (← v.entry? "to" (optional? asInt?))
  else if method = "sort" then return .sort (← v.entry? "fields" (list? SortKey.ofJson?))
  else none

/-- A change, from the object that holds its entries. -/
def ModOp.ofJson? (v : Json) : Option ModOp := do
  let method ← v.entry? "method" asString?
  if method = "insert" then return .insert (← v.entry? "values" asArray?)
  else if method = "update" then
    return .update (← v.entry? "update" (list? changeOfJson?))
      (← v.entry? "predicate" (optional? some))
  else if method = "remove" then return .remove (← v.get? "predicate")
  else none

namespace Command

/-- A command from its object, given what is read from its source. -/
def assemble? (v : Json) (source : Option Command) : Option Command := do
  let variant ← v.entry? "type" asString?
  if variant = "CollectionRef" then
    return .collection ⟨← v.entry? "db" asString?, ← v.entry? "collection" asString?⟩
  else if variant = "Query" then return .query (← QueryOp.ofJson? v) (← source)
  else if variant = "Value" then return .value (← v.entry? "property" asString?) (← source)
  else if variant = "Modification" then return .modification (← ModOp.ofJson? v) (← source)
  else none

mutual

/-- A command, from its JSON form. -/
def ofJson? : Json → Option Command
  | .object entries => assemble? (.object entries) (sourceIn? entries)
  | _ => none

/-- The command in the entry of the source. -/
def sourceIn? : List (String × Json) → Option Command
  | [] => none
  | (k, v) :: rest => if k = "source" then ofJson? v else sourceIn? rest

end

theorem sourceIn?_eq (entries : List (String × Json)) :
    sourceIn? entries = (find? "source" entries).bind ofJson? := by
  induction entries with
  | nil => rfl
  | cons e rest ih =>
    obtain ⟨k, v⟩ := e
    by_cases hk : k = "source" <;> simp [sourceIn?, find?_cons, hk, ih]

theorem ofJson?_object (entries : List (String × Json)) :
    ofJson? (.object entries) =
      assemble? (.object entries) ((find? "source" entries).bind ofJson?) := by
  rw [ofJson?, sourceIn?_eq]

end Command

/-! ## Reading what was written -/

theorem mapM_map_eq_some {α : Type} {read : Json → Option α} {write : α → Json}
    (h : ∀ a, read (write a) = some a) (items : List α) :
    (items.map write).mapM read = some items := by
  induction items with
  | nil => rfl
  | cons a rest ih => rw [List.map_cons, List.mapM_cons, h, ih]; rfl

/-- The predicate of an update is not `null`, which stands for none in the JSON form. -/
def ModOp.IsDefinite : ModOp → Prop
  | .update _ predicate => predicate ≠ some .null
  | _ => True

/-- No update in the pipeline has `null` for its predicate. -/
def Command.IsDefinite : Command → Prop
  | .collection _ => True
  | .query _ source => source.IsDefinite
  | .value _ source => source.IsDefinite
  | .modification op source => op.IsDefinite ∧ source.IsDefinite

theorem Projection.ofJson?_toJson (p : Projection) : ofJson? p.toJson = some p := rfl

theorem SortKey.ofJson?_toJson (k : SortKey) : ofJson? k.toJson = some k := rfl

theorem changeOfJson?_changeToJson (change : String × Json) :
    changeOfJson? (changeToJson change) = some change := rfl

theorem Json.optional?_stop (stop : Option Int) :
    optional? asInt? (.orNull (stop.map .ofInt)) = some stop := by
  cases stop <;> rfl

theorem Json.optional?_predicate {predicate : Option Json} (h : predicate ≠ some .null) :
    optional? some (.orNull predicate) = some predicate := by
  cases predicate with
  | none => rfl
  | some p =>
    rw [orNull, Option.getD_some, optional?]
    · rfl
    · exact fun hnull ↦ h (congrArg some hnull)

variable (variant source : Json)

theorem QueryOp.ofJson?_entries (op : QueryOp) :
    ofJson? (.object (("type", variant) :: (op.entries ++ [("source", source)]))) = some op := by
  cases op with
  | filter predicate => rfl
  | map fields =>
    change (((fields.map Projection.toJson).mapM Projection.ofJson?).bind fun fields ↦ _) = _
    rw [mapM_map_eq_some Projection.ofJson?_toJson]
    rfl
  | slice start stop =>
    change ((optional? asInt? (.orNull (stop.map .ofInt))).bind fun stop ↦ _) = _
    rw [optional?_stop]
    rfl
  | sort keys =>
    change (((keys.map SortKey.toJson).mapM SortKey.ofJson?).bind fun keys ↦ _) = _
    rw [mapM_map_eq_some SortKey.ofJson?_toJson]
    rfl

theorem ModOp.ofJson?_entries {op : ModOp} (h : op.IsDefinite) :
    ofJson? (.object (("type", variant) :: (op.entries ++ [("source", source)]))) = some op := by
  cases op with
  | insert values => rfl
  | update changes predicate =>
    change (((changes.map changeToJson).mapM changeOfJson?).bind fun changes ↦
      (optional? some (.orNull predicate)).bind fun predicate ↦ _) = _
    rw [mapM_map_eq_some changeOfJson?_changeToJson, optional?_predicate h]
    rfl
  | remove predicate => rfl

theorem QueryOp.find?_source (op : QueryOp) :
    find? "source" (("type", variant) :: (op.entries ++ [("source", source)])) = some source := by
  cases op <;> rfl

theorem ModOp.find?_source (op : ModOp) :
    find? "source" (("type", variant) :: (op.entries ++ [("source", source)])) = some source := by
  cases op <;> rfl

/-- **A command can be read back from its JSON form**, unless an update in it has `null` for its
predicate. -/
theorem Command.ofJson?_toJson {c : Command} (h : c.IsDefinite) : ofJson? c.toJson = some c := by
  induction c with
  | collection ref => rfl
  | query op source ih =>
    rw [toJson, ofJson?_object, QueryOp.find?_source, Option.bind_some, ih h]
    change ((QueryOp.ofJson? _).bind fun op ↦ _) = _
    rw [QueryOp.ofJson?_entries]
    rfl
  | value property source ih =>
    change (ofJson? source.toJson).bind _ = _
    rw [ih h]
    rfl
  | modification op source ih =>
    rw [toJson, ofJson?_object, ModOp.find?_source, Option.bind_some, ih h.2]
    change ((ModOp.ofJson? _).bind fun op ↦ _) = _
    rw [ModOp.ofJson?_entries _ _ h.1]
    rfl

/-! ## Equal values read alike -/

/-- What two readers give is related, or neither gives anything; so is what comes of it. -/
theorem rel_bind {α β γ δ : Type} {R : α → β → Prop} {S : γ → δ → Prop} {x : Option α}
    {y : Option β} (h : Option.Rel R x y) {f : α → Option γ} {g : β → Option δ}
    (hfg : ∀ a b, R a b → Option.Rel S (f a) (g b)) : Option.Rel S (x.bind f) (y.bind g) := by
  cases h with
  | none => exact .none
  | some hab => exact hfg _ _ hab

theorem rel_eq_iff {α : Type} {x y : Option α} : Option.Rel Eq x y ↔ x = y := by
  constructor
  · rintro (rfl | _)
    · rfl
    · rfl
  · rintro rfl
    cases x with
    | none => exact .none
    | some a => exact .some rfl

theorem rel_mapM {α : Type} {R : α → α → Prop} {read : Json → Option α}
    (hread : ∀ v w, Json.Equal v w → Option.Rel R (read v) (read w)) {xs ys : List Json}
    (h : List.Forall₂ Json.Equal xs ys) :
    Option.Rel (List.Forall₂ R) (xs.mapM read) (ys.mapM read) := by
  induction h with
  | nil => exact .some .nil
  | cons hvw _ ih =>
    rw [List.mapM_cons, List.mapM_cons]
    exact rel_bind (hread _ _ hvw) fun a b hab ↦ rel_bind ih fun as bs habs ↦
      .some (.cons hab habs)

variable {a b : Json}

namespace Json.Equal

theorem rel_asString? (h : a.Equal b) : Option.Rel Eq a.asString? b.asString? := by
  refine rel_eq_iff.mpr ?_
  cases h <;> rfl

theorem rel_asBool? (h : a.Equal b) : Option.Rel Eq a.asBool? b.asBool? := by
  refine rel_eq_iff.mpr ?_
  cases h <;> rfl

theorem rel_asInt? (h : a.Equal b) : Option.Rel Eq a.asInt? b.asInt? := by
  refine rel_eq_iff.mpr ?_
  cases h with
  | number hmn => cases hmn <;> rfl
  | _ => rfl

theorem rel_asArray? (h : a.Equal b) :
    Option.Rel (List.Forall₂ Json.Equal) a.asArray? b.asArray? := by
  cases h with
  | array hlength hitems =>
    refine .some (List.forall₂_iff_get.mpr ⟨hlength, fun i hx hy ↦ ?_⟩)
    exact hitems i _ _ (List.getElem?_eq_getElem hx) (List.getElem?_eq_getElem hy)
  | _ => exact .none

theorem rel_get? (h : a.Equal b) (key : String) :
    Option.Rel Json.Equal (a.get? key) (b.get? key) := by
  cases h with
  | @object xs ys hkeys hentries =>
    have hsome := hkeys key
    rw [get?, get?]
    cases hx : find? key xs <;> cases hy : find? key ys <;> simp [hx, hy] at hsome
    · exact .none
    · exact .some (hentries key _ _ hx hy)
  | _ => exact .none

variable {α : Type} {R : α → α → Prop} {read : Json → Option α}

theorem rel_entry? (h : a.Equal b) (key : String)
    (hread : ∀ {v w : Json}, v.Equal w → Option.Rel R (read v) (read w)) :
    Option.Rel R (a.entry? key read) (b.entry? key read) :=
  rel_bind (h.rel_get? key) fun _ _ ↦ hread

theorem rel_optional? (h : a.Equal b)
    (hread : ∀ {v w : Json}, v.Equal w → Option.Rel R (read v) (read w)) :
    Option.Rel (Option.Rel R) (optional? read a) (optional? read b) := by
  have hsome : Option.Rel (Option.Rel R) ((read a).map some) ((read b).map some) := by
    have hrel := hread h
    generalize read a = x at hrel ⊢
    generalize read b = y at hrel ⊢
    cases hrel with
    | none => exact .none
    | some hab => exact .some (.some hab)
  cases h with
  | null => exact .some .none
  | _ => exact hsome

theorem rel_list? (h : a.Equal b)
    (hread : ∀ {v w : Json}, v.Equal w → Option.Rel R (read v) (read w)) :
    Option.Rel (List.Forall₂ R) (list? read a) (list? read b) :=
  rel_bind h.rel_asArray? fun _ _ ↦ rel_mapM fun _ _ ↦ hread

end Json.Equal

theorem Projection.rel_ofJson? (h : a.Equal b) : Option.Rel Eq (ofJson? a) (ofJson? b) := by
  refine rel_bind (h.rel_entry? "name" Equal.rel_asString?) fun name _ hname ↦ ?_
  refine rel_bind (h.rel_entry? "field" Equal.rel_asString?) fun field _ hfield ↦ .some ?_
  rw [hname, hfield]

theorem SortKey.rel_ofJson? (h : a.Equal b) : Option.Rel Eq (ofJson? a) (ofJson? b) := by
  refine rel_bind (h.rel_entry? "field" Equal.rel_asString?) fun field _ hfield ↦ ?_
  refine rel_bind (h.rel_entry? "ascending" Equal.rel_asBool?) fun _ _ hascending ↦ .some ?_
  rw [hfield, hascending]

theorem rel_changeOfJson? (h : a.Equal b) :
    Option.Rel EntryEqual (changeOfJson? a) (changeOfJson? b) := by
  refine rel_bind h.rel_asArray? fun xs ys hitems ↦ ?_
  cases hitems with
  | nil => exact .none
  | cons hname hitems =>
    cases hitems with
    | nil => exact .none
    | cons hvalue hitems =>
      cases hitems with
      | nil =>
        dsimp only
        have hrel := hname.rel_asString?
        generalize asString? _ = x at hrel ⊢
        generalize asString? _ = y at hrel ⊢
        cases hrel with
        | none => exact .none
        | some heq => exact .some ⟨heq, hvalue⟩
      | cons _ _ => exact .none

theorem QueryOp.rel_ofJson? (h : a.Equal b) : Option.Rel QueryOp.Equal (ofJson? a) (ofJson? b) := by
  refine rel_bind (h.rel_entry? "method" Equal.rel_asString?) fun method _ hmethod ↦ ?_
  subst hmethod
  split
  · exact rel_bind (h.rel_get? "predicate") fun _ _ hpredicate ↦ .some (.filter hpredicate)
  split
  · refine rel_bind (h.rel_entry? "fields" fun hfields ↦
      hfields.rel_list? Projection.rel_ofJson?) fun fields _ hfields ↦ .some ?_
    rw [List.forall₂_eq_eq_eq] at hfields
    exact hfields ▸ .map fields
  split
  · refine rel_bind (h.rel_entry? "from" Equal.rel_asInt?) fun start _ hstart ↦ ?_
    refine rel_bind (h.rel_entry? "to" fun hto ↦ hto.rel_optional? Equal.rel_asInt?)
      fun stop _ hstop ↦ .some ?_
    exact hstart ▸ rel_eq_iff.mp hstop ▸ .slice start stop
  split
  · refine rel_bind (h.rel_entry? "fields" fun hfields ↦
      hfields.rel_list? SortKey.rel_ofJson?) fun keys _ hkeys ↦ .some ?_
    rw [List.forall₂_eq_eq_eq] at hkeys
    exact hkeys ▸ .sort keys
  · exact .none

theorem ModOp.rel_ofJson? (h : a.Equal b) : Option.Rel ModOp.Equal (ofJson? a) (ofJson? b) := by
  refine rel_bind (h.rel_entry? "method" Equal.rel_asString?) fun method _ hmethod ↦ ?_
  subst hmethod
  split
  · exact rel_bind (h.rel_entry? "values" Equal.rel_asArray?) fun _ _ hvalues ↦
      .some (.insert hvalues)
  split
  · refine rel_bind (h.rel_entry? "update" fun hchanges ↦
      hchanges.rel_list? rel_changeOfJson?) fun _ _ hchanges ↦ ?_
    exact rel_bind (h.rel_entry? "predicate" fun hpredicate ↦
      hpredicate.rel_optional? Option.Rel.some) fun _ _ hpredicate ↦
        .some (.update hchanges hpredicate)
  split
  · exact rel_bind (h.rel_get? "predicate") fun _ _ hpredicate ↦ .some (.remove hpredicate)
  · exact .none

namespace Command

theorem rel_assemble? (h : a.Equal b) {source source' : Option Command}
    (hsource : Option.Rel Command.Equal source source') :
    Option.Rel Command.Equal (assemble? a source) (assemble? b source') := by
  refine rel_bind (h.rel_entry? "type" Equal.rel_asString?) fun variant _ hvariant ↦ ?_
  subst hvariant
  split
  · refine rel_bind (h.rel_entry? "db" Equal.rel_asString?) fun db _ hdb ↦ ?_
    refine rel_bind (h.rel_entry? "collection" Equal.rel_asString?) fun name _ hname ↦ .some ?_
    exact hdb ▸ hname ▸ .collection ⟨db, name⟩
  split
  · exact rel_bind (QueryOp.rel_ofJson? h) fun _ _ hop ↦ rel_bind hsource fun _ _ hsource ↦
      .some (.query hop hsource)
  split
  · refine rel_bind (h.rel_entry? "property" Equal.rel_asString?) fun property _ hproperty ↦ ?_
    refine rel_bind hsource fun _ _ hsource ↦ .some ?_
    exact hproperty ▸ .value property hsource
  split
  · exact rel_bind (ModOp.rel_ofJson? h) fun _ _ hop ↦ rel_bind hsource fun _ _ hsource ↦
      .some (.modification hop hsource)
  · exact .none

/-- From equal values equal commands are read, or from neither. -/
theorem rel_ofJson? (h : a.Equal b) : Option.Rel Command.Equal (ofJson? a) (ofJson? b) := by
  induction h with
  | @object xs ys hkeys hentries ih =>
    rw [ofJson?_object, ofJson?_object]
    refine rel_assemble? (.object hkeys hentries) ?_
    have hsource := hkeys "source"
    cases hx : find? "source" xs <;> cases hy : find? "source" ys <;> simp [hx, hy] at hsource
    · exact .none
    · exact ih "source" _ _ hx hy
  | _ => exact .none

end Command

/-! ## Equal commands are written alike -/

namespace Json.Equal

theorem array_of_forall₂ {xs ys : List Json} (h : List.Forall₂ Json.Equal xs ys) :
    Json.Equal (.array xs) (.array ys) := by
  refine .array h.length_eq fun i v w hv hw ↦ ?_
  obtain ⟨hx, rfl⟩ := List.getElem?_eq_some_iff.mp hv
  obtain ⟨hy, rfl⟩ := List.getElem?_eq_some_iff.mp hw
  exact h.get hx hy

/-- Objects are equal if they have the same keys in the same order, with equal values. -/
theorem object_of_forall₂ {xs ys : List (String × Json)}
    (h : List.Forall₂ EntryEqual xs ys) :
    Json.Equal (.object xs) (.object ys) := by
  have hrel : ∀ key, Option.Rel Json.Equal (find? key xs) (find? key ys) := by
    intro key
    induction h with
    | nil => exact .none
    | @cons x y xs ys hxy _ ih =>
      obtain ⟨k, v⟩ := x
      obtain ⟨k', w⟩ := y
      obtain ⟨rfl, hvw⟩ := hxy
      rw [find?_cons, find?_cons]
      split
      · exact .some hvw
      · exact ih
  refine .object (fun key ↦ ?_) fun key v w hv hw ↦ ?_
  · have hkey := hrel key
    generalize find? key xs = x at hkey ⊢
    generalize find? key ys = y at hkey ⊢
    cases hkey <;> rfl
  · have hkey := hrel key
    rw [hv, hw] at hkey
    cases hkey with
    | some hvw => exact hvw

-- One recursion over a value, its items and its entries.
mutual

theorem refl : ∀ v : Json, v.Equal v
  | .null => .null
  | .bool b => .bool b
  | .number (.int n) => .number (.int n)
  | .number (.real _) => .number (.real rfl)
  | .string s => .string s
  | .array items => array_of_forall₂ (refl_items items)
  | .object entries => object_of_forall₂ (refl_entries entries)

theorem refl_items : ∀ items : List Json, List.Forall₂ Json.Equal items items
  | [] => .nil
  | v :: rest => .cons (refl v) (refl_items rest)

theorem refl_entries : ∀ entries : List (String × Json),
    List.Forall₂ EntryEqual entries entries
  | [] => .nil
  | (_, v) :: rest => .cons ⟨rfl, refl v⟩ (refl_entries rest)

end

theorem orNull {x y : Option Json} (h : Option.Rel Json.Equal x y) :
    Json.Equal (.orNull x) (.orNull y) := by
  cases h with
  | none => exact .null
  | some hvw => exact hvw

end Json.Equal

theorem QueryOp.Equal.entries {op op' : QueryOp} (h : op.Equal op') :
    List.Forall₂ EntryEqual op.entries op'.entries := by
  cases h with
  | filter hpq => exact .cons ⟨rfl, .string _⟩ (.cons ⟨rfl, hpq⟩ .nil)
  | map fields => exact Equal.refl_entries _
  | slice start stop => exact Equal.refl_entries _
  | sort keys => exact Equal.refl_entries _

theorem ModOp.Equal.entries {op op' : ModOp} (h : op.Equal op') :
    List.Forall₂ EntryEqual op.entries op'.entries := by
  cases h with
  | insert hvalues =>
    exact .cons ⟨rfl, .string _⟩ (.cons ⟨rfl, Equal.array_of_forall₂ hvalues⟩ .nil)
  | @update changes changes' _ _ hchanges hpredicate =>
    have hpairs : List.Forall₂ Json.Equal (changes.map changeToJson)
        (changes'.map changeToJson) := by
      rw [List.forall₂_map_left_iff, List.forall₂_map_right_iff]
      refine hchanges.imp fun x y hxy ↦ ?_
      rw [changeToJson, changeToJson, hxy.1]
      exact Equal.array_of_forall₂ (.cons (.string _) (.cons hxy.2 .nil))
    exact .cons ⟨rfl, .string _⟩ (.cons ⟨rfl, Equal.array_of_forall₂ hpairs⟩
      (.cons ⟨rfl, Equal.orNull hpredicate⟩ .nil))
  | remove hpq => exact .cons ⟨rfl, .string _⟩ (.cons ⟨rfl, hpq⟩ .nil)

namespace Command

theorem Equal.toJson {c d : Command} (h : c.Equal d) : c.toJson.Equal d.toJson := by
  induction h with
  | collection ref => exact Json.Equal.refl _
  | query hop _ ih =>
    exact Json.Equal.object_of_forall₂ (.cons ⟨rfl, .string _⟩
      (List.rel_append hop.entries (.cons ⟨rfl, ih⟩ .nil)))
  | value property _ ih =>
    exact Json.Equal.object_of_forall₂ (.cons ⟨rfl, .string _⟩ (.cons ⟨rfl, .string _⟩
      (.cons ⟨rfl, ih⟩ .nil)))
  | modification hop _ ih =>
    exact Json.Equal.object_of_forall₂ (.cons ⟨rfl, .string _⟩
      (List.rel_append hop.entries (.cons ⟨rfl, ih⟩ .nil)))

/-- **The JSON form of a command is faithful.** Whatever a command says can be read back from its
JSON form, as long as no update in it has `null` for its predicate. So two such commands have the
same JSON form only if they are the same, and JSON forms that are equal as values exactly if they
are equal themselves. -/
theorem toJson_faithful {c d : Command} (hc : c.IsDefinite) (hd : d.IsDefinite) :
    ofJson? c.toJson = some c ∧ (c.toJson = d.toJson → c = d) ∧
      (c.toJson.Equal d.toJson ↔ c.Equal d) := by
  refine ⟨ofJson?_toJson hc, fun h ↦ ?_, fun h ↦ ?_, Equal.toJson⟩
  · have hread := congrArg ofJson? h
    rw [ofJson?_toJson hc, ofJson?_toJson hd] at hread
    exact Option.some.inj hread
  · have hread := rel_ofJson? h
    rw [ofJson?_toJson hc, ofJson?_toJson hd] at hread
    cases hread with
    | some hcd => exact hcd

/-- Two updates whose tests list their entries in opposite orders have different JSON forms, which
are equal as values. -/
theorem toJson_faithful_reordered :
    let update := fun test ↦
      modification (.update [("done", .bool true)] (some test)) (collection ⟨"main", "todos"⟩)
    let c := update (.object [("type", .string "Identifier"), ("name", .string "late")])
    let d := update (.object [("name", .string "late"), ("type", .string "Identifier")])
    c.IsDefinite ∧ d.IsDefinite ∧ ofJson? c.toJson = some c ∧ c.toJson ≠ d.toJson ∧
      c.toJson.Equal d.toJson ∧ c.Equal d := by
  intro update c d
  have hc : c.IsDefinite := ⟨by simp [ModOp.IsDefinite], trivial⟩
  have hd : d.IsDefinite := ⟨by simp [ModOp.IsDefinite], trivial⟩
  have htests : Json.Equal (.object [("type", .string "Identifier"), ("name", .string "late")])
      (.object [("name", .string "late"), ("type", .string "Identifier")]) := by
    refine .object (fun key ↦ ?_) fun key v w hv hw ↦ ?_
    · by_cases hname : "name" = key <;> by_cases htype : "type" = key <;>
        simp [find?_cons, hname, htype]
    · by_cases htype : "type" = key
      · subst htype
        cases hv
        cases hw
        exact .string _
      · by_cases hname : "name" = key
        · subst hname
          cases hv
          cases hw
          exact .string _
        · simp [find?_cons, htype, hname] at hv
  have hequal : c.Equal d :=
    .modification (.update (Json.Equal.refl_entries _) (.some htests)) (.collection _)
  obtain ⟨hread, heq, hiff⟩ := toJson_faithful hc hd
  exact ⟨hc, hd, hread, fun h ↦ absurd (heq h) (by decide), hiff.mpr hequal, hequal⟩

-- An update whose predicate is `null` is written like one that has none.
example (changes : List (String × Json)) (source : Command) :
    (modification (.update changes (some .null)) source).toJson =
      (modification (.update changes none) source).toJson := rfl

end Command

end FluentQuery
