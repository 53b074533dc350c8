import FluentQuery.Json.Basic
import FluentQuery.Json.Fault

/-!
# Numerals

A number as it is written, and the JSON number it stands for. A numeral without point and exponent
is an integer if it fits into 64 bits; minus zero and everything else is a double. The significand
of a double is cut to 64 bits: digits that no longer fit count only by their place.
-/

namespace FluentQuery.Json

/-- A number as it is written. -/
structure Numeral where
  /-- Whether it starts with a minus sign. -/
  negative : Bool
  /-- The digits before the point. -/
  whole : List Char
  /-- The digits after the point, if there is one. -/
  fraction : Option (List Char)
  /-- The exponent, if there is one. -/
  exponent : Option Int
deriving DecidableEq, Repr

namespace Numeral

/-! ## Value -/

/-- The digit that a decimal character stands for. -/
def digitValue (c : Char) : Nat := c.toNat - '0'.toNat

/-- The number that a list of decimal digits stands for. -/
def digitsValue (digits : List Char) : Nat :=
  digits.foldl (fun n c ↦ 10 * n + digitValue c) 0

/-- Append digits to a significand as long as it fits into 64 bits. The second component counts the
digits taken. -/
def absorb (significand : Nat) : List Char → Nat × Nat
  | [] => (significand, 0)
  | c :: rest =>
    let next := 10 * significand + digitValue c
    if next < .pow 2 64 then
      let (final, taken) := absorb next rest
      (final, taken + 1)
    else (significand, 0)

/-- The double that a numeral stands for, if it is in range. -/
def toBinary64? (m : Numeral) : Option Binary64 :=
  let (upper, takenWhole) := absorb 0 m.whole
  let (significand, takenFraction) := absorb upper (m.fraction.getD [])
  let exponent : Int :=
    (m.whole.length : Int) - takenWhole - takenFraction + m.exponent.getD 0
  (Binary64.ofDecimal? significand exponent).map fun x ↦ ⟨m.negative, x.units⟩

/-- The integer that a numeral stands for, if it is written as one and fits into 64 bits. -/
def toInt? (m : Numeral) : Option Int :=
  let n := digitsValue m.whole
  match m.fraction, m.exponent, m.negative with
  | none, none, false => if n < .pow 2 64 then some n else none
  | none, none, true => if 0 < n ∧ n ≤ .pow 2 63 then some (-n) else none
  | _, _, _ => none

/-- The number that a numeral stands for, if it is in range. -/
def toNumber? (m : Numeral) : Option Number :=
  match m.toInt? with
  | some n => some (.int n)
  | none => m.toBinary64?.map .real

/-! ## Reading -/

/-- The digits that a text starts with, and the rest. -/
def takeDigits (cs : List Char) : List Char × List Char :=
  (cs.takeWhile Char.isDigit, cs.dropWhile Char.isDigit)

theorem takeDigits_length (cs : List Char) : (takeDigits cs).2.length ≤ cs.length :=
  (List.dropWhile_sublist _).length_le

/-- The digits before the point. No further digit follows a leading zero. -/
def readWhole : List Char → Except Fault (List Char × List Char)
  | [] => .error .endInValue
  | c :: rest =>
    if c = '0' then
      if (takeDigits rest).1 = [] then .ok ([c], rest) else .error .malformedNumber
    else if c.isDigit then .ok (c :: (takeDigits rest).1, (takeDigits rest).2)
    else .error .malformedNumber

/-- At least one digit. -/
def readDigits (cs : List Char) : Except Fault (List Char × List Char) :=
  match takeDigits cs with
  | ([], []) => .error .endInValue
  | ([], _ :: _) => .error .malformedNumber
  | (digits, rest) => .ok (digits, rest)

/-- The point and the digits after it. -/
def readFraction : List Char → Except Fault (Option (List Char) × List Char)
  | '.' :: rest => (readDigits rest).map fun (digits, rest') ↦ (some digits, rest')
  | cs => .ok (none, cs)

/-- The sign of an exponent; none counts as plus. -/
def readSign : List Char → Bool × List Char
  | '+' :: rest => (false, rest)
  | '-' :: rest => (true, rest)
  | cs => (false, cs)

/-- The exponent mark, its sign and its digits. -/
def readExponent : List Char → Except Fault (Option Int × List Char)
  | [] => .ok (none, [])
  | c :: rest =>
    if c = 'e' ∨ c = 'E' then
      let (negative, unsigned) := readSign rest
      (readDigits unsigned).map fun (digits, rest') ↦
        let n : Int := digitsValue digits
        (some (if negative then -n else n), rest')
    else .ok (none, c :: rest)

/-- A numeral after its sign. -/
def readUnsigned (negative : Bool) (cs : List Char) : Except Fault (Numeral × List Char) := do
  let (whole, rest) ← readWhole cs
  let (fraction, rest) ← readFraction rest
  let (exponent, rest) ← readExponent rest
  return (⟨negative, whole, fraction, exponent⟩, rest)

/-- A number, and the text after it. -/
def readNumber (cs : List Char) : Except Fault (Number × List Char) := do
  let (m, rest) ← match cs with
    | '-' :: rest => readUnsigned true rest
    | _ => readUnsigned false cs
  match m.toNumber? with
  | some n => return (n, rest)
  | none => throw .numberTooLarge

/-! ## Reading consumes text -/

theorem readWhole_length {cs rest : List Char} {whole : List Char}
    (h : readWhole cs = .ok (whole, rest)) : rest.length < cs.length := by
  cases cs with
  | nil => simp [readWhole] at h
  | cons c tail =>
    have := takeDigits_length tail
    simp only [readWhole] at h
    grind

theorem readDigits_length {cs rest digits : List Char}
    (h : readDigits cs = .ok (digits, rest)) : rest.length ≤ cs.length := by
  have := takeDigits_length cs
  unfold readDigits at h
  grind

theorem readFraction_length {cs rest : List Char} {fraction : Option (List Char)}
    (h : readFraction cs = .ok (fraction, rest)) : rest.length ≤ cs.length := by
  unfold readFraction at h
  split at h
  · next tail =>
    cases hd : readDigits tail with
    | error e => simp [hd, Except.map] at h
    | ok p =>
      obtain ⟨digits, after⟩ := p
      have := readDigits_length hd
      simp [hd, Except.map] at h
      grind
  · grind

theorem readSign_length (cs : List Char) : (readSign cs).2.length ≤ cs.length := by
  unfold readSign
  split <;> simp

theorem readExponent_length {cs rest : List Char} {exponent : Option Int}
    (h : readExponent cs = .ok (exponent, rest)) : rest.length ≤ cs.length := by
  cases cs with
  | nil => simp [readExponent] at h; simp [h]
  | cons c tail =>
    have hs := readSign_length tail
    simp only [readExponent] at h
    split at h
    · cases hd : readDigits (readSign tail).2 with
      | error e => simp [hd, Except.map] at h
      | ok p =>
        obtain ⟨digits, after⟩ := p
        have := readDigits_length hd
        simp [hd, Except.map] at h
        grind
    · grind

theorem readUnsigned_length {cs rest : List Char} {negative : Bool} {m : Numeral}
    (h : readUnsigned negative cs = .ok (m, rest)) : rest.length < cs.length := by
  unfold readUnsigned at h
  cases hw : readWhole cs with
  | error e => simp [hw, bind, Except.bind] at h
  | ok w =>
    obtain ⟨whole, r₁⟩ := w
    cases hf : readFraction r₁ with
    | error e => simp [hw, hf, bind, Except.bind] at h
    | ok f =>
      obtain ⟨fraction, r₂⟩ := f
      cases he : readExponent r₂ with
      | error e => simp [hw, hf, he, bind, Except.bind] at h
      | ok x =>
        obtain ⟨exponent, r₃⟩ := x
        have := readWhole_length hw
        have := readFraction_length hf
        have := readExponent_length he
        simp [hw, hf, he, bind, Except.bind, pure, Except.pure] at h
        grind

theorem readNumber_length {cs rest : List Char} {n : Number}
    (h : readNumber cs = .ok (n, rest)) : rest.length < cs.length := by
  unfold readNumber at h
  split at h
  · next tail =>
    cases hu : readUnsigned true tail with
    | error e => simp [hu, bind, Except.bind] at h
    | ok p =>
      obtain ⟨m, after⟩ := p
      have := readUnsigned_length hu
      simp only [hu, bind, Except.bind] at h
      split at h
      · simp_all [pure, Except.pure]
        omega
      · simp [throw, throwThe, MonadExceptOf.throw] at h
  · cases hu : readUnsigned false cs with
    | error e => simp [hu, bind, Except.bind] at h
    | ok p =>
      obtain ⟨m, after⟩ := p
      have := readUnsigned_length hu
      simp only [hu, bind, Except.bind] at h
      split at h <;> simp_all [pure, Except.pure, throw, throwThe, MonadExceptOf.throw]

end Numeral

end FluentQuery.Json
