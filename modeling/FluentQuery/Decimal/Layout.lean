import FluentQuery.Decimal.Shortest

/-!
# Decimal notation

How the digits of a double are laid out: positionally or with an exponent, and with or without a
fraction on a whole number. The choices of one output format are a `Layout`.
-/

namespace FluentQuery

/-- The choices of a format that writes doubles. -/
structure Layout where
  /-- How a tie between two equally short decimals is broken. -/
  tie : Binary64.Tie
  /-- Which decimal exponents, as in `d.ddd · 10^e`, are written positionally. -/
  positional : Int → Bool
  /-- Whether a whole number written positionally ends in `.0`. -/
  keepsPoint : Bool

namespace Layout

/-- Digits without the zeros at their end. -/
def significant (digits : List Char) : List Char :=
  (digits.reverse.dropWhile (· == '0')).reverse

/-- Zeros. -/
def zeros (n : Nat) : List Char := List.replicate n '0'

/-- `digits` read as `d.ddd · 10^e`, written without an exponent. -/
def positionally (layout : Layout) (digits : List Char) : Int → List Char
  | .ofNat e =>
    let whole := digits.take (e + 1) ++ zeros (e + 1 - digits.length)
    match digits.drop (e + 1) with
    | [] => if layout.keepsPoint then whole ++ ['.', '0'] else whole
    | fraction => whole ++ '.' :: fraction
  | .negSucc e => '0' :: '.' :: (zeros e ++ digits)

/-- `digits` read as `d.ddd · 10^e`, written with a signed exponent. -/
def scientifically (digits : List Char) (e : Int) : List Char :=
  let mantissa := match digits with
    | d :: f :: rest => d :: '.' :: f :: rest
    | short => short
  let mark := if e < 0 then ['e', '-'] else ['e', '+']
  mantissa ++ mark ++ Nat.toDigits 10 e.natAbs

/-- The text of a double. -/
def write (layout : Layout) (x : Binary64) : String :=
  let sign := if x.negative then ['-'] else []
  let body :=
    if x.units = 0 then if layout.keepsPoint then ['0', '.', '0'] else ['0']
    else
      let digits := Nat.toDigits 10 (Binary64.shortest layout.tie x.units)
      let e : Int := (digits.length : Int) - 1 - Binary64.places
      if layout.positional e then layout.positionally (significant digits) e
      else scientifically (significant digits) e
  String.ofList (sign ++ body)

/-- Every digit is written out, and a whole number has no point. -/
def plain : Layout where
  tie := .up
  positional := fun _ ↦ true
  keepsPoint := false

end Layout

end FluentQuery
