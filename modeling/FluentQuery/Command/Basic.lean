import FluentQuery.Json.Basic

/-!
# Commands

What a recognized chain means: a pipeline that starts at a collection and goes through reads, to
which a final value or a change of the collection may be added. Expressions that a command carries,
such as predicates, are kept as they are and not looked into.
-/

namespace FluentQuery

/-- A collection of a database. -/
structure CollectionRef where
  db : String
  collection : String
deriving DecidableEq, Repr

/-- One property of a projection: its new name, and the property it is read from. -/
structure Projection where
  name : String
  field : String
deriving DecidableEq, Repr

/-- One key of an order. -/
structure SortKey where
  field : String
  ascending : Bool
deriving DecidableEq, Repr

/-- A read that gives documents from documents. -/
inductive QueryOp where
  /-- Keep the documents on which the predicate holds. -/
  | filter (predicate : Json)
  /-- Take some properties of each document. -/
  | map (fields : List Projection)
  /-- Keep the documents from one place up to another, or to the end. -/
  | slice (start : Int) (stop : Option Int)
  /-- Put the documents in order. -/
  | sort (keys : List SortKey)
deriving DecidableEq, Repr

/-- A change of a collection. -/
inductive ModOp where
  /-- Add documents. -/
  | insert (values : List Json)
  /-- Set properties of the documents on which the predicate holds, or of all. -/
  | update (changes : List (String × Json)) (predicate : Option Json)
  /-- Remove the documents on which the predicate holds. -/
  | remove (predicate : Json)
deriving DecidableEq, Repr

/-- A pipeline of operations that starts at a collection. -/
inductive Command where
  | collection (ref : CollectionRef)
  | query (op : QueryOp) (source : Command)
  | value (property : String) (source : Command)
  | modification (op : ModOp) (source : Command)
deriving DecidableEq, Repr

/-- The name of a read. -/
def QueryOp.method : QueryOp → String
  | .filter _ => "filter"
  | .map _ => "map"
  | .slice _ _ => "slice"
  | .sort _ => "sort"

/-- The name of a change. -/
def ModOp.method : ModOp → String
  | .insert _ => "insert"
  | .update _ _ => "update"
  | .remove _ => "remove"

namespace Command

/-- The command that comes before. -/
def source? : Command → Option Command
  | .collection _ => none
  | .query _ source => some source
  | .value _ source => some source
  | .modification _ source => some source

/-- The collection at which the pipeline starts. -/
def root : Command → CollectionRef
  | .collection ref => ref
  | .query _ source => source.root
  | .value _ source => source.root
  | .modification _ source => source.root

/-- The number of commands in the pipeline. -/
def depth : Command → Nat
  | .collection _ => 1
  | .query _ source => 1 + source.depth
  | .value _ source => 1 + source.depth
  | .modification _ source => 1 + source.depth

/-- The name of a read or a change. -/
def method? : Command → Option String
  | .collection _ => none
  | .query op _ => some op.method
  | .value _ _ => none
  | .modification op _ => some op.method

/-- Whether no command may come after. -/
def isTerminal : Command → Bool
  | .collection _ => false
  | .query _ _ => false
  | .value _ _ => true
  | .modification _ _ => true

end Command

end FluentQuery
