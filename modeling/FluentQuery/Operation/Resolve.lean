import FluentQuery.Operation.Basic
import FluentQuery.Trace

/-!
# Resolving chains

A node is resolved inside out: the operations of the table are tried on it in order, and one that
follows others first resolves the node before it. Each such step counts against the recursion limit.
Once its predecessor is known to be one it may follow, a node is committed to an operation, and
arguments that cannot be read are a failure and no longer a skip.
-/

namespace FluentQuery

/-- A resolved node: its operation, and the command it stands for. -/
structure Resolved where
  id : OpId
  command : Command
deriving DecidableEq, Repr

namespace Operation

/-- Read the arguments of a committed node and build its command. -/
def commit (op : Operation) (roots : Roots) (node : Json) (source : Option Command) :
    Traced (Outcome Resolved) :=
  match op.extract node roots with
  | .skip why => .fail (.malformed op.id why node.span?)
  | .matched arguments =>
    match op.build source arguments with
    | none => .fail (.unbuildable op.id node.span?)
    | some command => pure (.matched ⟨op.id, command⟩)

/-- Resolve the node before an operation, and commit to the operation if it may follow. -/
def attemptAfter (resolve : Json → Traced (Outcome Resolved)) (op : Operation) (roots : Roots)
    (node : Json) : Traced (Outcome Resolved) :=
  match op.attachment.predecessor? node with
  | none => pure (.refuse "operation has no source expression")
  | some inner => do
    match ← resolve inner with
    | .skip why => return .skip (.within "source" why)
    | .matched before =>
      if op.follows.contains before.id then op.commit roots node (some before.command)
      else
        Traced.emit (.rejected op.id before.id node)
        return .refuse ("`" ++ op.id.text ++ "` cannot follow `" ++ before.id.text ++ "`")

/-- Test the shape of a node. -/
def testShape (op : Operation) (roots : Roots) (node : Json) : Outcome Unit :=
  match op.shape with
  | none => .matched ()
  | some test => test node roots

/-- Try an operation on a node. -/
def attempt (resolve : Json → Traced (Outcome Resolved)) (op : Operation) (roots : Roots)
    (node : Json) : Traced (Outcome Resolved) :=
  match op.testShape roots node with
  | .skip why => pure (.skip why)
  | .matched () =>
    if op.isInitial then op.commit roots node none else op.attemptAfter resolve roots node

end Operation

namespace Table

/-- The skip of a node that no operation matched, given the reasons. -/
def noMatch (node : Json) (refused : List Skip) : Skip :=
  if refused.isEmpty then .because ("no operation applies to " ++ node.kind?.getD "value")
  else .noneOf "operation" refused

/-- Try operations on a node until one matches, given the reasons of those before, the newest
first. -/
def tryAll (resolve : Json → Traced (Outcome Resolved)) (roots : Roots) (node : Json) :
    List Operation → List Skip → Traced (Outcome Resolved)
  | [], refused => pure (.skip (noMatch node refused.reverse))
  | op :: rest, refused => do
    Traced.emit (.candidate op.id node)
    match ← op.attempt resolve roots node with
    | .matched resolved =>
      Traced.emit (.built resolved.command node)
      return .matched resolved
    | .skip why =>
      Traced.emit (.skipped op.id.text node why)
      tryAll resolve roots node rest (.within op.id.text why :: refused)

/-- The operations that are to be tried on a node; if there is a whitelist, only those on it. -/
def candidates (table : Table) (whitelist : Option (List OpId)) (node : Json) : List Operation :=
  table.operations.filter fun op ↦
    (match whitelist with
    | none => true
    | some ids => ids.contains op.id) && op.applies node

/-- One level of resolution, given how to resolve the node before. -/
def resolveStep (table : Table) (roots : Roots) (resolve : Json → Traced (Outcome Resolved))
    (whitelist : Option (List OpId)) (node : Json) : Traced (Outcome Resolved) :=
  tryAll resolve roots node.unparen (table.candidates whitelist node.unparen) []

/-- Resolve a node with `depth` levels left out of `limit`. -/
def resolveAt (table : Table) (roots : Roots) (limit : Nat) :
    Nat → Option (List OpId) → Json → Traced (Outcome Resolved)
  | 0, _, _ => .fail (.tooDeep limit)
  | depth + 1, whitelist, node =>
    table.resolveStep roots (table.resolveAt roots limit depth none) whitelist node

/-- Resolve a node as one of some operations. Only the outermost operation is restricted. -/
def analyze (table : Table) (roots : Roots) (limit : Nat) (whitelist : List OpId) (node : Json) :
    Traced (Outcome Resolved) :=
  table.resolveAt roots limit limit (some whitelist) node

end Table

end FluentQuery
