/-!
# Finite doubles

A finite double is a sign and a whole number of units of `2⁻¹⁰⁷⁴`, the least positive double. Every
operation below is exact arithmetic on units followed by one rounding, so that comparing two
doubles, taking a sign or testing for a whole number is a statement about integers. There is no
NaN and no infinity: an operation that leaves the range answers `none`.
-/

namespace FluentQuery

/-- A finite double: its sign and its magnitude in units of `2⁻¹⁰⁷⁴`. Zero has both signs. -/
structure Binary64 where
  /-- Whether the sign is minus, also for zero. -/
  negative : Bool
  /-- The magnitude, counted in units of `2⁻¹⁰⁷⁴`. -/
  units : Nat
deriving DecidableEq, Repr, Inhabited

namespace Binary64

/-! ## Units and rounding -/

/-- The number of units in the number one. -/
def unitsPerOne : Nat := .pow 2 1074

/-- The least magnitude that is out of range, `2¹⁰²⁴`, in units. -/
def unitsLimit : Nat := .pow 2 2098

/-- The fraction `num / den`, in units, rounded to 53 significant bits or to a whole unit,
whichever is coarser. A half goes to the even neighbour. -/
def roundUnits (num den : Nat) : Nat :=
  let step := den * .pow 2 ((num / den).log2 - 52)
  let whole := num / step
  let twice := 2 * (num % step)
  let nearest := if step < twice || (twice == step && whole % 2 == 1) then whole + 1 else whole
  nearest * .pow 2 ((num / den).log2 - 52)

/-- The double nearest to a natural number below `2¹⁰²⁴`. -/
def ofNat (n : Nat) : Binary64 := ⟨false, roundUnits (n * unitsPerOne) 1⟩

/-- The double nearest to an integer of magnitude below `2¹⁰²⁴`. -/
def ofInt (n : Int) : Binary64 := ⟨decide (n < 0), roundUnits (n.natAbs * unitsPerOne) 1⟩

/-! ## Value and sign -/

/-- The value in units, an integer. Both zeros have value zero. -/
def value (x : Binary64) : Int := if x.negative then -(x.units : Int) else x.units

/-- The double of the opposite sign. -/
def neg (x : Binary64) : Binary64 := ⟨!x.negative, x.units⟩

/-- The sign of the value: `1`, `-1` or `0`. -/
def sign (x : Binary64) : Int := x.value.sign

/-- Whether the value is a whole number. -/
def isWhole (x : Binary64) : Bool := x.units % unitsPerOne == 0

/-- Whether the magnitude is below a natural number. -/
def magnitudeBelow (x : Binary64) (bound : Nat) : Bool := decide (x.units < bound * unitsPerOne)

/-- The value of a whole number; any other value is rounded toward zero. -/
def toInt (x : Binary64) : Int := x.value.tdiv unitsPerOne

@[simp] theorem value_neg (x : Binary64) : x.neg.value = -x.value := by
  cases x with
  | mk negative units => cases negative <;> simp [neg, value]

theorem sign_neg (x : Binary64) : x.neg.sign = -x.sign := by
  simp [sign]

/-! ## Reading a decimal

A decimal `significand · 10^exponent` is read by rounding its significand, then multiplying or
dividing by the rounded power of ten, with a rounding of its own. This is the nearest double
whenever the significand is below `2⁵³` and the exponent is at most 22 in magnitude. -/

/-- The greatest exponent whose power of ten is a double. -/
def maxPower : Nat := 308

/-- The rounded power `10^k`, in units. -/
def powerUnits (k : Nat) : Nat := roundUnits (.pow 10 k * unitsPerOne) 1

/-- The product with the rounded power `10^k`, if it is in range. -/
def timesPower? (x : Binary64) (k : Nat) : Option Binary64 :=
  let units := roundUnits (x.units * powerUnits k) unitsPerOne
  if units < unitsLimit then some ⟨x.negative, units⟩ else none

/-- The quotient by the rounded power `10^k`. -/
def overPower (x : Binary64) (k : Nat) : Binary64 :=
  ⟨x.negative, roundUnits (x.units * unitsPerOne) (powerUnits k)⟩

/-- The quotient by `10^k` for a power that may itself be out of range: the greatest power in
range is divided out as long as a larger one is left. -/
def shrink (x : Binary64) (k : Nat) : Binary64 :=
  if _h : k ≤ maxPower then x.overPower k
  else if x.units = 0 then x
  else (x.overPower maxPower).shrink (k - maxPower)
termination_by k
decreasing_by
  have : 0 < maxPower := by decide
  omega

/-- The double written `significand · 10^exponent`, or `none` if that is out of range. -/
def ofDecimal? (significand : Nat) : Int → Option Binary64
  | .ofNat k =>
    if k ≤ maxPower then (ofNat significand).timesPower? k
    else if significand = 0 then some (ofNat 0)
    else none
  | .negSucc k => some ((ofNat significand).shrink (k + 1))

end Binary64

end FluentQuery
