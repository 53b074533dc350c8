import FluentQuery.Decimal.Binary64

/-!
# The shortest decimal of a double

A double of `u` units is exactly `u · 5¹⁰⁷⁴` units of `10⁻¹⁰⁷⁴`, so its decimal expansion is the
expansion of a natural number. The shortest decimal is found on grids of growing fineness: on the
grid that keeps `n` digits only the two neighbours of the value can read back as the same double,
and the first grid with such a neighbour decides.
-/

namespace FluentQuery.Binary64

/-- Which way a value goes that lies halfway between two equally short decimals. -/
inductive Tie where
  /-- To the neighbour whose last digit is even. -/
  | even
  /-- Away from zero. -/
  | up
deriving DecidableEq, Repr

/-- The number of decimal places in which every double is exact. -/
def places : Nat := 1074

/-- A magnitude in units of `10⁻¹⁰⁷⁴`. -/
def exactDecimal (units : Nat) : Nat := units * .pow 5 places

/-- Whether a decimal, in units of `10⁻¹⁰⁷⁴`, rounds to the given magnitude. -/
def readsBack (units decimal : Nat) : Bool := roundUnits decimal (.pow 5 places) == units

/-- The nearer of the two grid points around a value that read back, if one does. -/
def onGrid? (tie : Tie) (units grid : Nat) : Option Nat :=
  let exact := exactDecimal units
  let below := exact / grid * grid
  let above := below + grid
  match readsBack units below, readsBack units above with
  | true, true =>
    let twice := 2 * (exact - below)
    let goesUp := match tie with
      | .even => (exact / grid) % 2 == 1
      | .up => true
    some (if grid < twice || (twice == grid && goesUp) then above else below)
  | true, false => some below
  | false, true => some above
  | false, false => none

/-- The decimal with the fewest digits that reads back, in units of `10⁻¹⁰⁷⁴`. Seventeen digits
always suffice. -/
def shortest (tie : Tie) (units : Nat) : Nat :=
  let exact := exactDecimal units
  let length := (Nat.toDigits 10 exact).length
  ((List.range 17).findSome? fun n ↦ onGrid? tie units (.pow 10 (length - (n + 1)))).getD exact

end FluentQuery.Binary64
