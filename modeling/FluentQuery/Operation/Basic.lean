import FluentQuery.Roots
import FluentQuery.Operation.Id
import FluentQuery.Command.Basic

/-!
# Operations

An operation is a row of a table: the kind of node it stands on, the name it is called by, what the
node must look like, which operations it may follow, what it reads from the node, and the command it
builds. The table is data, and `FluentQuery.Operation.Resolve` is its only interpreter.
-/

namespace FluentQuery

/-- The kind of node that an operation stands on. It also says where the operation before it
stands. -/
inductive Attachment where
  | call
  | member
  | identifier
  | assignment
deriving DecidableEq, Repr

namespace Attachment

/-- The kind of node. -/
def kind : Attachment → String
  | .call => Kind.call
  | .member => Kind.member
  | .identifier => Kind.identifier
  | .assignment => Kind.assignment

/-- Whether a node is of the right kind. -/
def accepts (a : Attachment) (node : Json) : Bool := node.isKind a.kind

/-- The name by which a node calls an operation: of the method, or of the property. -/
def nameOf? (a : Attachment) (node : Json) : Option String :=
  match a with
  | .call => (node.field? "callee").bind Json.staticProperty?
  | .member => node.staticProperty?
  | .identifier => none
  | .assignment => none

/-- The node that the operation before stands on: the object of the method or property, or the
target of the assignment. -/
def predecessor? (a : Attachment) (node : Json) : Option Json :=
  match a with
  | .call => (node.field? "callee").bind (·.field? "object")
  | .member => node.field? "object"
  | .identifier => none
  | .assignment => node.field? "left"

end Attachment

/-- What an operation reads from its node. -/
inductive Arguments where
  | collection (ref : CollectionRef)
  | query (op : QueryOp)
  | value (property : String)
  | modification (op : ModOp)
deriving DecidableEq, Repr

/-- A test of a node against the roots. -/
abbrev ShapeTest := Json → Roots → Outcome Unit

/-- Reads arguments from a node that is committed to an operation. -/
abbrev Extractor := Json → Roots → Outcome Arguments

/-- Builds a command from the one before and arguments, if they fit. -/
abbrev Builder := Option Command → Arguments → Option Command

/-- One operation. -/
structure Operation where
  id : OpId
  attachment : Attachment
  /-- The name that the node must call; any if there is none. -/
  name : Option String
  shape : Option ShapeTest
  /-- The operations that may come before. One that follows none starts a chain. -/
  follows : List OpId
  extract : Extractor
  build : Builder

namespace Operation

/-- Whether the operation starts a chain. -/
def isInitial (op : Operation) : Bool := op.follows.isEmpty

/-- Whether the operation is to be tried on a node, by kind and name. -/
def applies (op : Operation) (node : Json) : Bool :=
  op.attachment.accepts node &&
    (match op.name with
    | none => true
    | some name => op.attachment.nameOf? node == some name)

end Operation

/-! ## Builders -/

/-- A collection, at the start of a chain. -/
def buildCollection : Builder
  | none, .collection ref => some (.collection ref)
  | _, _ => none

/-- A read of the command before. -/
def buildQuery : Builder
  | some source, .query op => some (.query op source)
  | _, _ => none

/-- A value of the command before. -/
def buildValue : Builder
  | some source, .value property => some (.value property source)
  | _, _ => none

/-- A change of the command before. -/
def buildModification : Builder
  | some source, .modification op => some (.modification op source)
  | _, _ => none

/-! ## Tables -/

/-- Operations in the order in which they are tried. -/
structure Table where
  operations : List Operation

namespace Table

/-- The table without operations. -/
def empty : Table := ⟨[]⟩

/-- One more operation, tried last. -/
def register (table : Table) (op : Operation) : Table := ⟨table.operations ++ [op]⟩

/-- Without the operations of a name. -/
def without (table : Table) (id : OpId) : Table :=
  ⟨table.operations.filter fun op ↦ op.id != id⟩

/-- With other operations before those of a name. -/
def withFollows (table : Table) (id : OpId) (follows : List OpId) : Table :=
  ⟨table.operations.map fun op ↦ if op.id = id then { op with follows := follows } else op⟩

/-- The operations of a name. -/
def get (table : Table) (id : OpId) : List Operation :=
  table.operations.filter fun op ↦ op.id == id

/-- Whether one operation may follow another. -/
def canFollow (table : Table) (id predecessor : OpId) : Bool :=
  (table.get id).any fun op ↦ op.follows.contains predecessor

end Table

end FluentQuery
