/-!
# Faults of JSON text

The ways in which a text fails to be JSON. Reading goes from left to right and stops at the first
fault.
-/

namespace FluentQuery

/-- What is wrong with a text that should be JSON. -/
inductive Json.Fault where
  /-- The text ends where a value should stand, or in the middle of one. -/
  | endInValue
  /-- The text ends inside an array. -/
  | endInArray
  /-- The text ends inside an object. -/
  | endInObject
  /-- The text ends inside a string. -/
  | endInString
  /-- Something else stands where a value should. -/
  | expectedValue
  /-- A word other than `true`, `false` and `null`. -/
  | unknownWord
  /-- A key is not followed by a colon. -/
  | expectedColon
  /-- An item is followed neither by a comma nor by the end of its array. -/
  | expectedItemEnd
  /-- An entry is followed neither by a comma nor by the end of its object. -/
  | expectedEntryEnd
  /-- A key is not a string. -/
  | keyNotString
  /-- A comma stands before a closing bracket. -/
  | trailingComma
  /-- Something follows the value. -/
  | trailingText
  /-- A number is malformed. -/
  | malformedNumber
  /-- A number is too large for a double. -/
  | numberTooLarge
  /-- A backslash starts no escape. -/
  | unknownEscape
  /-- The first half of a surrogate pair is not followed by an escape. -/
  | brokenPair
  /-- One half of a surrogate pair stands alone. -/
  | loneSurrogate
  /-- A control character stands in a string. -/
  | rawControl
  /-- Arrays and objects are nested too deeply. -/
  | tooDeep
deriving DecidableEq, Repr

namespace Json.Fault

/-- The wording of a fault, without its place in the text: tokens do not keep where they stand, so
that the ending ` at line L column C` of such messages is left out. -/
def message : Fault → String
  | endInValue => "EOF while parsing a value"
  | endInArray => "EOF while parsing a list"
  | endInObject => "EOF while parsing an object"
  | endInString => "EOF while parsing a string"
  | expectedValue => "expected value"
  | unknownWord => "expected ident"
  | expectedColon => "expected `:`"
  | expectedItemEnd => "expected `,` or `]`"
  | expectedEntryEnd => "expected `,` or `\x7d`"
  | keyNotString => "key must be a string"
  | trailingComma => "trailing comma"
  | trailingText => "trailing characters"
  | malformedNumber => "invalid number"
  | numberTooLarge => "number out of range"
  | unknownEscape => "invalid escape"
  | brokenPair => "unexpected end of hex escape"
  | loneSurrogate => "lone leading surrogate in hex escape"
  | rawControl => "control character (\\u0000-\\u001F) found while parsing a string"
  | tooDeep => "recursion limit exceeded"

end Json.Fault

end FluentQuery
