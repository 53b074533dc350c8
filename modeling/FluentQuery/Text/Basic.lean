import FluentQuery.Text.Alphabetic
import FluentQuery.Text.Combining
import FluentQuery.Text.Numeric
import FluentQuery.Text.Unprintable

/-!
# Classes of characters, identifiers and quoted text

A class of characters is a list of closed ranges of code points, each with its first and its last
one. ASCII is left out of the lists, because each class has a short rule for it.

An identifier is a name that a program can bind: it starts with a letter, an underscore or a dollar
sign, and goes on with these or with digits, of any script. Text is put between double quotes for
diagnostics; a character that cannot be told apart by eye there, because it has no visible form or
is drawn onto its neighbour, is written by its code point.
-/

namespace FluentQuery.Text

/-! ## Classes -/

/-- Whether a character lies in one of the ranges. -/
def inRanges (ranges : List (Nat × Nat)) (c : Char) : Bool :=
  ranges.any fun r ↦ r.1 ≤ c.toNat && c.toNat ≤ r.2

/-- Whether a character is alphabetic. -/
def isAlphabetic (c : Char) : Bool := c.isAlpha || inRanges alphabeticRanges c

/-- Whether a character is numeric. -/
def isNumeric (c : Char) : Bool := c.isDigit || inRanges numericRanges c

/-- Whether a character is drawn onto the one before it. -/
def isCombining (c : Char) : Bool := inRanges combiningRanges c

/-- Whether a character has a visible form, or is the space. -/
def isPrintable (c : Char) : Bool :=
  if c.toNat < 0x80 then 0x20 ≤ c.toNat && c.toNat != 0x7F else !inRanges unprintableRanges c

/-! ## Identifiers -/

/-- Whether a character may stand in an identifier beside letters and digits. -/
def isNameMark (c : Char) : Bool := c == '_' || c == '$'

/-- Whether a character may start an identifier. -/
def isNameStart (c : Char) : Bool := isNameMark c || isAlphabetic c

/-- Whether a character may continue an identifier. -/
def isNamePart (c : Char) : Bool := isNameStart c || isNumeric c

/-- Whether a text is an identifier. -/
def isIdentifier (name : String) : Bool :=
  match name.toList with
  | [] => false
  | first :: rest => isNameStart first && rest.all isNamePart

/-! ## Quoted text -/

/-- A code point in braces, in lower-case hexadecimal. -/
def codePoint (c : Char) : List Char :=
  ['\\', 'u', '\x7b'] ++ Nat.toDigits 16 c.toNat ++ ['\x7d']

/-- One character as it stands between quotes. -/
def quotedChar (c : Char) : List Char :=
  if c = '\x00' then ['\\', '0']
  else if c = '\t' then ['\\', 't']
  else if c = '\r' then ['\\', 'r']
  else if c = '\n' then ['\\', 'n']
  else if c = '\\' then ['\\', '\\']
  else if c = '"' then ['\\', '"']
  else if isCombining c then codePoint c
  else if isPrintable c then [c]
  else codePoint c

/-- Text between double quotes. -/
def quoted (s : String) : String :=
  String.ofList ('"' :: (s.toList.flatMap quotedChar ++ ['"']))

/-- Quoted texts as a list in brackets. -/
def quotedList (texts : List String) : String :=
  "[" ++ ", ".intercalate (texts.map quoted) ++ "]"

end FluentQuery.Text
