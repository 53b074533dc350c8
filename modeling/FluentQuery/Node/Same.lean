import FluentQuery.Node.Basic

/-!
# When two nodes are the same expression

Two nodes are the same if they differ only in positions, comments, parentheses, the spelling of
kinds and the order of entries. That is: their plain forms, in which all this is settled one way,
are equal. Numbers are the same if they have the same value as doubles.
-/

namespace FluentQuery

/-- Zero without a sign; any other double as it is. -/
def Binary64.unsignedZero (x : Binary64) : Binary64 := if x.units = 0 then ⟨false, 0⟩ else x

namespace Json

/-- An entry put in its place among entries sorted by key. -/
def insertEntry (key : String) (v : Json) : List (String × Json) → List (String × Json)
  | [] => [(key, v)]
  | (k, w) :: rest => if k < key then (k, w) :: insertEntry key v rest else (key, v) :: (k, w) :: rest

/-- A `type` entry with its kind under its common name. One that is no string names no kind. -/
def plainKind (v : Json) : Json := orNull (v.asString?.map fun kind ↦ .string (canonicalKind kind))

mutual

/-- A value without parentheses and trivia, with kinds under their common names, numbers as doubles
and entries sorted by key. -/
def plain : Json → Json
  | .null => .null
  | .bool b => .bool b
  | .number n => .number (.real n.toBinary64.unsignedZero)
  | .string s => .string s
  | .array items => .array (plainItems items)
  | .object entries =>
    if kindOf? entries = some Kind.parenthesized then
      (find? "expression" (plainEntries entries)).getD (.object (plainEntries entries))
    else .object (plainEntries entries)

/-- The plain forms of items. -/
def plainItems : List Json → List Json
  | [] => []
  | v :: rest => v.plain :: plainItems rest

/-- The plain forms of entries. -/
def plainEntries : List (String × Json) → List (String × Json)
  | [] => []
  | (k, v) :: rest =>
    if isTrivia k then plainEntries rest
    else if k = "type" then insertEntry k (plainKind v) (plainEntries rest)
    else insertEntry k v.plain (plainEntries rest)

end

/-- Whether two nodes are the same expression. -/
def sameNode (a b : Json) : Bool := decide (a.plain = b.plain)

theorem sameNode_iff {a b : Json} : sameNode a b = true ↔ a.plain = b.plain := by
  simp [sameNode]

end Json

end FluentQuery
