import FluentQuery.Operation.Writes

/-!
# The built-in operations

The table of the operations that are recognized, with what each may follow.
-/

namespace FluentQuery.Table

/-- A member of a database. -/
def databaseRoot : Operation where
  id := .root
  attachment := .member
  name := none
  shape := some databaseMember
  follows := []
  extract := databaseMemberArguments
  build := buildCollection

/-- An identifier bound to a collection. -/
def collectionRoot : Operation where
  id := .root
  attachment := .identifier
  name := none
  shape := some collectionIdentifier
  follows := []
  extract := collectionIdentifierArguments
  build := buildCollection

/-- A read that is called as a method of its own name. -/
def queryMethod (id : OpId) (follows : List OpId) (extract : Extractor) : Operation where
  id := id
  attachment := .call
  name := some id.text
  shape := none
  follows := follows
  extract := extract
  build := buildQuery

/-- The number of documents. -/
def lengthProperty : Operation where
  id := .length
  attachment := .member
  name := some "length"
  shape := none
  follows := [.root, .filter, .map, .slice, .sort]
  extract := lengthArguments
  build := buildValue

/-- A change of a collection by an assignment. -/
def write (id : OpId) (pattern : Pattern) (extract : Extractor) : Operation where
  id := id
  attachment := .assignment
  name := none
  shape := some (shapeOf pattern)
  follows := [.root]
  extract := extract
  build := buildModification

/-- The table of the built-in operations. -/
def standard : Table where
  operations :=
    [databaseRoot,
      collectionRoot,
      queryMethod .filter [.root, .filter, .sort] filterArguments,
      queryMethod .sort [.root, .filter] sortArguments,
      queryMethod .slice [.root, .filter, .sort, .map] sliceArguments,
      queryMethod .map [.root, .filter, .sort, .slice] mapArguments,
      lengthProperty,
      write .insert appended insertArguments,
      write .update (reassignedVia "map") updateArguments,
      write .remove (reassignedVia "filter") removeArguments]

end FluentQuery.Table
