import FluentQuery.Json.Writer
import FluentQuery.Pattern.Basic

/-!
# Patterns as text

A one-line form of patterns for diagnostics. Captures stand behind what they capture, as `@name`;
tests and computed values are shown by their names only.
-/

namespace FluentQuery

/-- Texts in square brackets. -/
def Pattern.listText (texts : List String) : String := "[" ++ ", ".intercalate texts ++ "]"

/-- A capture behind what it captures. -/
def Pattern.captureText (pattern name : String) : String := pattern ++ " @" ++ name

namespace Pattern

mutual

/-- The text of a pattern. -/
def text : Pattern → String
  | .any => "_"
  | .literal expected => expected.compact
  | .shape fields => "\x7b" ++ ", ".intercalate (fieldTexts fields) ++ "\x7d"
  | .seq slots => listText (slotTexts slots)
  | .oneOf branches => "one_of" ++ listText (texts branches)
  | .all parts => "all" ++ listText (texts parts)
  | .capture name none _ => captureText "_" name
  | .capture name (some inner) _ => captureText inner.text name
  | .satisfies reason _ => "exists(" ++ Text.quoted reason ++ ")"

/-- The texts of patterns. -/
def texts : List Pattern → List String
  | [] => []
  | p :: rest => p.text :: texts rest

/-- The texts of children. -/
def fieldTexts : List (String × Pattern) → List String
  | [] => []
  | (name, p) :: rest => (Text.quoted name ++ ": " ++ p.text) :: fieldTexts rest

/-- The texts of places in a sequence. -/
def slotTexts : List (Slot Pattern) → List String
  | [] => []
  | .one p :: rest => p.text :: slotTexts rest
  | .optional p :: rest => (p.text ++ "?") :: slotTexts rest
  | .rest each none :: rest => (each.text ++ "*") :: slotTexts rest
  | .rest each (some name) :: rest => captureText (each.text ++ "*") name :: slotTexts rest

end

end Pattern

end FluentQuery
