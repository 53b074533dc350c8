/-!
# Names of operations

The operations that a chain is made of. They are also the states of a chain: what may come next
depends on the operation that came last.
-/

namespace FluentQuery

/-- The name of an operation. -/
inductive OpId where
  | root
  | filter
  | map
  | slice
  | sort
  | length
  | insert
  | update
  | remove
  /-- An operation that is not built in. -/
  | custom (name : String)
deriving DecidableEq, Repr

namespace OpId

/-- The text of a name. -/
def text : OpId → String
  | .root => "root"
  | .filter => "filter"
  | .map => "map"
  | .slice => "slice"
  | .sort => "sort"
  | .length => "length"
  | .insert => "insert"
  | .update => "update"
  | .remove => "remove"
  | .custom name => name

/-- The built-in operations. -/
def builtin : List OpId :=
  [.root, .filter, .map, .slice, .sort, .length, .insert, .update, .remove]

/-- The operation of a name; one that is not built in is custom. -/
def ofText (name : String) : OpId :=
  (builtin.find? fun id ↦ id.text == name).getD (.custom name)

end OpId

end FluentQuery
