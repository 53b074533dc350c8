import FluentQuery.Node.Basic

/-!
# Building nodes

Constructors for the nodes that a parser would produce, without positions. Each lists its entries in
the order in which they are written.
-/

namespace FluentQuery

/-- A number that a program can hold, also one that no JSON number stands for. -/
inductive Quantity where
  | finite (x : Binary64)
  | infinite (negative : Bool)
  | undefined
deriving DecidableEq, Repr

namespace Tree

/-- A node with its kind and its other entries. -/
def node (kind : String) (entries : List (String × Json)) : Json :=
  .object (("type", .string kind) :: entries)

/-- A literal. -/
def literal (v : Json) : Json := node Kind.literal [("value", v)]

/-- An identifier. -/
def identifier (name : String) : Json := node Kind.identifier [("name", .string name)]

/-- `operator argument` -/
def unary (operator : String) (argument : Json) : Json :=
  node Kind.unary
    [("operator", .string operator), ("prefix", .bool true), ("argument", argument)]

/-- A finite number. Integers of magnitude below `10¹⁵` are written as such, and a minus sign is an
operator. -/
def finite (x : Binary64) : Json :=
  if x.isWhole && x.magnitudeBelow (.pow 10 15) then
    if x.toInt < 0 then unary "-" (literal (.ofInt (-x.toInt))) else literal (.ofInt x.toInt)
  else if x.value < 0 then unary "-" (literal (.ofBinary64 x.neg))
  else literal (.ofBinary64 x)

/-- A number. One that no JSON number stands for is a literal of `null`. -/
def number : Quantity → Json
  | .finite x => finite x
  | .infinite true => unary "-" (literal .null)
  | .infinite false => literal .null
  | .undefined => literal .null

/-- A string literal. -/
def string (s : String) : Json := literal (.string s)

/-- A boolean literal. -/
def boolean (b : Bool) : Json := literal (.bool b)

/-- `object.property` -/
def member (object : Json) (property : String) : Json :=
  node Kind.member
    [("object", object), ("property", identifier property), ("computed", .bool false)]

/-- `object[property]` -/
def index (object property : Json) : Json :=
  node Kind.member [("object", object), ("property", property), ("computed", .bool true)]

/-- Nested member accesses from a dotted path: `a.b.c`. -/
def path (dotted : String) : Json :=
  match dotted.splitOn "." with
  | [] => identifier ""
  | head :: rest => rest.foldl member (identifier head)

/-- `callee(arguments)` -/
def call (callee : Json) (arguments : List Json) : Json :=
  node Kind.call [("callee", callee), ("arguments", .array arguments)]

/-- `object.name(arguments)` -/
def method (object : Json) (name : String) (arguments : List Json) : Json :=
  call (member object name) arguments

/-- An arrow function whose body is an expression. -/
def arrow (params : List String) (body : Json) : Json :=
  node Kind.arrowFunction
    [("params", .array (params.map identifier)), ("body", body), ("expression", .bool true)]

/-- A block that returns an expression. -/
def returning (v : Json) : Json :=
  node Kind.block [("body", .array [node Kind.returned [("argument", v)]])]

/-- An arrow function whose body is a block that returns an expression. -/
def arrowBlock (params : List String) (v : Json) : Json :=
  node Kind.arrowFunction
    [("params", .array (params.map identifier)), ("body", returning v), ("expression", .bool false)]

/-- `left operator right` -/
def binary (operator : String) (left right : Json) : Json :=
  node Kind.binary [("operator", .string operator), ("left", left), ("right", right)]

/-- `left operator right`, for an operator that may leave out its right side -/
def logical (operator : String) (left right : Json) : Json :=
  node Kind.logical [("operator", .string operator), ("left", left), ("right", right)]

/-- `test ? consequent : alternate` -/
def conditional (test consequent alternate : Json) : Json :=
  node Kind.conditional
    [("test", test), ("consequent", consequent), ("alternate", alternate)]

/-- `left = right` -/
def assignment (left right : Json) : Json :=
  node Kind.assignment [("operator", .string "="), ("left", left), ("right", right)]

/-- `(expression)` -/
def parenthesized (expression : Json) : Json :=
  node Kind.parenthesized [("expression", expression)]

/-- `key: value` in an object literal -/
def property (key : String) (v : Json) : Json :=
  node Kind.property
    [("key", identifier key), ("value", v), ("kind", .string "init"), ("computed", .bool false),
      ("shorthand", .bool false), ("method", .bool false)]

/-- `...argument` -/
def spread (argument : Json) : Json := node Kind.spread [("argument", argument)]

/-- An object literal. -/
def object (properties : List Json) : Json := node Kind.object [("properties", .array properties)]

/-- An array literal. -/
def array (elements : List Json) : Json := node Kind.array [("elements", .array elements)]

/-- An expression as a statement. -/
def expressionStatement (expression : Json) : Json :=
  node "ExpressionStatement" [("expression", expression)]

/-- `const name = init;` -/
def constant (name : String) (init : Json) : Json :=
  node "VariableDeclaration"
    [("kind", .string "const"),
      ("declarations", .array [node Kind.declarator [("id", identifier name), ("init", init)]])]

/-- A program of statements. -/
def program (body : List Json) : Json :=
  node "Program" [("sourceType", .string "module"), ("body", .array body)]

end Tree

end FluentQuery
