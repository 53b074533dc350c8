import FluentQuery.Decimal.Layout
import FluentQuery.Json.Basic

/-!
# Writing JSON

The text of a JSON value, in one line or indented. Entries are written in their order. Only quotes,
backslashes and control characters are escaped.
-/

namespace FluentQuery

/-- Doubles are written positionally from `10⁻⁵` up to below `10¹⁶`, with at least one digit after
the point, and with a signed exponent beyond. -/
def Json.realLayout : Layout where
  tie := .even
  positional := fun e ↦ -5 ≤ e && e ≤ 15
  keepsPoint := true

/-- The text of a number. -/
def Number.text : Number → String
  | .int n => toString n
  | .real x => Json.realLayout.write x

namespace Json

/-- A control character by its code point, in four digits. -/
def escapedControl (c : Char) : List Char :=
  let digits := Nat.toDigits 16 c.toNat
  ['\\', 'u'] ++ List.replicate (4 - digits.length) '0' ++ digits

/-- One character as it stands in a string. -/
def escapedChar (c : Char) : List Char :=
  if c = '"' then ['\\', '"']
  else if c = '\\' then ['\\', '\\']
  else if c = '\x08' then ['\\', 'b']
  else if c = '\t' then ['\\', 't']
  else if c = '\n' then ['\\', 'n']
  else if c = '\x0c' then ['\\', 'f']
  else if c = '\r' then ['\\', 'r']
  else if c.toNat < 0x20 then escapedControl c
  else [c]

/-- The text of a string. -/
def stringText (s : String) : String :=
  String.ofList ('"' :: (s.toList.flatMap escapedChar ++ ['"']))

/-! ## In one line -/

mutual

/-- The text of a value in one line, without blanks. -/
def compact : Json → String
  | .null => "null"
  | .bool b => if b then "true" else "false"
  | .number n => n.text
  | .string s => stringText s
  | .array items => "[" ++ ",".intercalate (compactItems items) ++ "]"
  | .object entries => "\x7b" ++ ",".intercalate (compactEntries entries) ++ "\x7d"

/-- The texts of items. -/
def compactItems : List Json → List String
  | [] => []
  | v :: rest => v.compact :: compactItems rest

/-- The texts of entries. -/
def compactEntries : List (String × Json) → List String
  | [] => []
  | (k, v) :: rest => (stringText k ++ ":" ++ v.compact) :: compactEntries rest

end

/-! ## Indented -/

/-- A new line at some depth of nesting; each level is two blanks. -/
def lineBreak (depth : Nat) : String := "\n" ++ String.ofList (List.replicate (2 * depth) ' ')

/-- Texts in brackets, each on a line of its own. -/
def bracketed (opening closing : String) (depth : Nat) (texts : List String) : String :=
  if texts.isEmpty then opening ++ closing
  else
    let lines := (("," ++ lineBreak (depth + 1)).intercalate texts)
    opening ++ lineBreak (depth + 1) ++ lines ++ lineBreak depth ++ closing

mutual

/-- The text of a value that stands at some depth of nesting. -/
def prettyAt (depth : Nat) : Json → String
  | .null => "null"
  | .bool b => if b then "true" else "false"
  | .number n => n.text
  | .string s => stringText s
  | .array items => bracketed "[" "]" depth (prettyItems (depth + 1) items)
  | .object entries => bracketed "\x7b" "\x7d" depth (prettyEntries (depth + 1) entries)

/-- The texts of items. -/
def prettyItems (depth : Nat) : List Json → List String
  | [] => []
  | v :: rest => v.prettyAt depth :: prettyItems depth rest

/-- The texts of entries. -/
def prettyEntries (depth : Nat) : List (String × Json) → List String
  | [] => []
  | (k, v) :: rest => (stringText k ++ ": " ++ v.prettyAt depth) :: prettyEntries depth rest

end

/-- The text of a value on many lines, two blanks a level. -/
def pretty (v : Json) : String := v.prettyAt 0

end Json

end FluentQuery
