import FluentQuery.Operation.Resolve
import FluentQuery.Operation.Standard

/-!
# Recognizers

One recognizer for each kind of expression that can be a query or a write. Each resolves a node over
the built-in operations, of which only some may be outermost. A skip means that the node is ordinary
code.
-/

namespace FluentQuery

/-- The kinds of expressions that can be a query or a write. -/
inductive Recognizer where
  /-- `root.c.filter(...)`, `root.c.sort(...).slice(0, 5)` -/
  | call
  /-- `root.c`, `root.c.length` -/
  | member
  /-- `root.c = ...` -/
  | assignment
deriving DecidableEq, Repr

namespace Recognizer

/-- The operations that may be outermost. -/
def operations : Recognizer → List OpId
  | .call => [.filter, .map, .slice, .sort]
  | .member => [.root, .length]
  | .assignment => [.insert, .update, .remove]

/-- The recognizer for nodes of some kind. -/
def ofKind? (kind : String) : Option Recognizer :=
  if kind = Kind.assignment then some .assignment
  else if kind = Kind.call then some .call
  else if kind = Kind.member then some .member
  else none

/-- The command that a node stands for. -/
def recognize (r : Recognizer) (roots : Roots) (limit : Nat) (node : Json) :
    Traced (Outcome Command) := do
  return (← Table.standard.analyze roots limit r.operations node).map Resolved.command

end Recognizer

end FluentQuery
