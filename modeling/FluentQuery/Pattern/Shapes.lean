import FluentQuery.Pattern.Basic

/-!
# Shapes of expressions

The patterns of callbacks and comparisons that several recognizers share.
-/

namespace FluentQuery.Shapes

open Pattern

/-- What a function gives back: its body, unless that is a block, or what a block of one statement
returns. -/
def returned (body : Pattern) : Pattern :=
  .oneOf
    [(satisfies "expected an expression body" fun v ↦ !v.unparen.isKind Kind.block).and body,
      node Kind.block
        [("body", .seq [.one (node Kind.returned [("argument", body)])])]]

/-- An arrow function or function expression with the given parameters and result. -/
def function (params body : Pattern) : Pattern :=
  .oneOf
    [node Kind.arrowFunction [("params", params), ("body", returned body)],
      node Kind.function [("params", params), ("body", returned body)]]

/-- One parameter, an identifier, with its name bound. -/
def oneParam (name : String) : Pattern := .seq [.one (identifierAs name)]

/-- Two parameters, identifiers, with their names bound. -/
def twoParams (first second : String) : Pattern :=
  .seq [.one (identifierAs first), .one (identifierAs second)]

/-- `identifier.property`, with both names bound. -/
def fieldOf (object property : String) : Pattern := memberAs (identifierAs object) property

/-- The operators that order their operands. -/
def relational : List String := [">", ">=", "<", "<="]

/-- The operators that order or equate their operands. -/
def comparison : List String := [">", ">=", "<", "<=", "==", "==="]

/-- `left.field operator right.field` for one of some operators. Both sides bind `field`, so that
they name the same property. -/
def compare (operators : List String) (operator left right : String) : Pattern :=
  node Kind.binary
    [("operator", (textIn operators).captured operator), ("left", fieldOf left "field"),
      ("right", fieldOf right "field")]

end FluentQuery.Shapes
