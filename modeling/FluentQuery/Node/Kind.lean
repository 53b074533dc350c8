/-!
# Kinds of nodes

The kinds of ESTree nodes that matter here, under their names in the `type` entry. Some parsers
spell a few kinds differently; `canonicalKind` folds the spellings into one.
-/

namespace FluentQuery

namespace Kind

abbrev identifier := "Identifier"
abbrev literal := "Literal"
abbrev member := "MemberExpression"
abbrev call := "CallExpression"
abbrev assignment := "AssignmentExpression"
abbrev conditional := "ConditionalExpression"
abbrev binary := "BinaryExpression"
abbrev logical := "LogicalExpression"
abbrev unary := "UnaryExpression"
abbrev arrowFunction := "ArrowFunctionExpression"
abbrev function := "FunctionExpression"
abbrev object := "ObjectExpression"
abbrev property := "Property"
abbrev spread := "SpreadElement"
abbrev array := "ArrayExpression"
abbrev block := "BlockStatement"
abbrev returned := "ReturnStatement"
abbrev declarator := "VariableDeclarator"
abbrev parenthesized := "ParenthesizedExpression"

end Kind

/-- The common name of a kind. -/
def canonicalKind (kind : String) : String :=
  if kind = "NumericLiteral" ∨ kind = "StringLiteral" ∨ kind = "BooleanLiteral"
      ∨ kind = "NullLiteral" then Kind.literal
  else if kind = "ObjectProperty" then Kind.property
  else if kind = "OptionalMemberExpression" then Kind.member
  else if kind = "OptionalCallExpression" then Kind.call
  else kind

/-- The keys under which a parser records positions, source text and comments. Nodes that differ
only there denote the same expression. -/
def triviaKeys : List String :=
  ["start", "end", "loc", "range", "raw", "extra", "comments", "leadingComments",
    "trailingComments", "innerComments"]

/-- Whether a key holds trivia. -/
def isTrivia (key : String) : Bool := triviaKeys.contains key

end FluentQuery
