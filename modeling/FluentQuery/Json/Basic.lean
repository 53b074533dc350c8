import FluentQuery.Decimal.Binary64

/-!
# JSON values

JSON as data whose objects keep their entries in order. A number written without point and exponent
is an integer and any other is a double; the two kinds are different values even where they are
equal as numbers, and are compared as numbers through `Number.toBinary64`.

An object is a list of entries. The reader makes no object with two entries of one key, and `set`
keeps it so; look-ups take the first entry.
-/

namespace FluentQuery

/-- A JSON number: an integer, or a double. -/
inductive Number where
  /-- A number written as an integer. -/
  | int (n : Int)
  /-- A number written with a point or an exponent, or too large for an integer. -/
  | real (x : Binary64)
deriving DecidableEq, Repr, Inhabited

namespace Number

/-- The number as a double. -/
def toBinary64 : Number → Binary64
  | .int n => .ofInt n
  | .real x => x

/-- A number that is written as a natural number. -/
def toNat? : Number → Option Nat
  | .int (.ofNat n) => some n
  | _ => none

end Number

/-- A JSON value. -/
inductive Json where
  | null
  | bool (b : Bool)
  | number (n : Number)
  | string (s : String)
  | array (items : List Json)
  | object (entries : List (String × Json))
deriving Repr, Inhabited

namespace Json

/-! ## Equality -/

mutual

/-- Equality of values is decidable. -/
def decEq : (a b : Json) → Decidable (a = b)
  | .null, .null => isTrue rfl
  | .bool a, .bool b =>
    if h : a = b then isTrue (by rw [h]) else isFalse (by simp [h])
  | .number a, .number b =>
    if h : a = b then isTrue (by rw [h]) else isFalse (by simp [h])
  | .string a, .string b =>
    if h : a = b then isTrue (by rw [h]) else isFalse (by simp [h])
  | .array a, .array b =>
    match decEqItems a b with
    | isTrue h => isTrue (by rw [h])
    | isFalse h => isFalse (by simp [h])
  | .object a, .object b =>
    match decEqEntries a b with
    | isTrue h => isTrue (by rw [h])
    | isFalse h => isFalse (by simp [h])
  | .null, .bool _ | .null, .number _ | .null, .string _ | .null, .array _ | .null, .object _
  | .bool _, .null | .bool _, .number _ | .bool _, .string _ | .bool _, .array _
  | .bool _, .object _
  | .number _, .null | .number _, .bool _ | .number _, .string _ | .number _, .array _
  | .number _, .object _
  | .string _, .null | .string _, .bool _ | .string _, .number _ | .string _, .array _
  | .string _, .object _
  | .array _, .null | .array _, .bool _ | .array _, .number _ | .array _, .string _
  | .array _, .object _
  | .object _, .null | .object _, .bool _ | .object _, .number _ | .object _, .string _
  | .object _, .array _ => isFalse (by simp)

/-- Equality of item lists is decidable. -/
def decEqItems : (a b : List Json) → Decidable (a = b)
  | [], [] => isTrue rfl
  | [], _ :: _ => isFalse (by simp)
  | _ :: _, [] => isFalse (by simp)
  | a :: as, b :: bs =>
    match decEq a b, decEqItems as bs with
    | isTrue h, isTrue hs => isTrue (by rw [h, hs])
    | isFalse h, _ => isFalse (by simp [h])
    | _, isFalse hs => isFalse (by simp [hs])

/-- Equality of entry lists is decidable. -/
def decEqEntries : (a b : List (String × Json)) → Decidable (a = b)
  | [], [] => isTrue rfl
  | [], _ :: _ => isFalse (by simp)
  | _ :: _, [] => isFalse (by simp)
  | (k, a) :: as, (l, b) :: bs =>
    match decEq a b, decEqEntries as bs with
    | isTrue h, isTrue hs =>
      if hk : k = l then isTrue (by rw [h, hs, hk]) else isFalse (by simp [hk])
    | isFalse h, _ => isFalse (by simp [h])
    | _, isFalse hs => isFalse (by simp [hs])

end

instance : DecidableEq Json := decEq

/-! ## Views -/

/-- The value of the first entry with the given key. -/
def find? (key : String) : List (String × Json) → Option Json
  | [] => none
  | (k, v) :: rest => if k = key then some v else find? key rest

/-- The value of an object's entry. -/
def get? (v : Json) (key : String) : Option Json :=
  match v with
  | .object entries => find? key entries
  | _ => none

/-- The text of a string. -/
def asString? : Json → Option String
  | .string s => some s
  | _ => none

/-- The truth value of a boolean. -/
def asBool? : Json → Option Bool
  | .bool b => some b
  | _ => none

/-- The items of an array. -/
def asArray? : Json → Option (List Json)
  | .array items => some items
  | _ => none

/-- The entries of an object. -/
def asObject? : Json → Option (List (String × Json))
  | .object entries => some entries
  | _ => none

/-- The value of a number, as a double. -/
def asBinary64? : Json → Option Binary64
  | .number n => some n.toBinary64
  | _ => none

/-- The value of a number that is written as a natural number. -/
def asNat? : Json → Option Nat
  | .number n => n.toNat?
  | _ => none

@[simp] theorem find?_nil (key : String) : find? key [] = none := rfl

theorem find?_cons (key k : String) (v : Json) (rest : List (String × Json)) :
    find? key ((k, v) :: rest) = if k = key then some v else find? key rest := rfl

theorem mem_of_find? {key : String} {v : Json} {entries : List (String × Json)}
    (h : find? key entries = some v) : (key, v) ∈ entries := by
  induction entries with
  | nil => simp at h
  | cons e rest ih =>
    obtain ⟨k, w⟩ := e
    rw [find?_cons] at h
    split at h
    · next hk => simp_all
    · exact List.mem_cons_of_mem _ (ih h)

/-! ## Building -/

/-- Entries with one value set: an entry of the key keeps its place, a new one goes to the end. -/
def set (key : String) (v : Json) : List (String × Json) → List (String × Json)
  | [] => [(key, v)]
  | (k, w) :: rest => if k = key then (k, v) :: rest else (k, w) :: set key v rest

/-- An integer. -/
def ofInt (n : Int) : Json := .number (.int n)

/-- A natural number. -/
def ofNat (n : Nat) : Json := .number (.int n)

/-- A double. -/
def ofBinary64 (x : Binary64) : Json := .number (.real x)

/-- A value that may be missing, with `null` in its place. -/
def orNull (v : Option Json) : Json := v.getD .null

end Json

end FluentQuery
