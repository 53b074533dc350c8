import FluentQuery.Command.Basic

/-!
# Commands as JSON

The JSON form of a command, for the tools that run it. Each object names its variant first and its
source last; an option that is absent is `null`.
-/

namespace FluentQuery

/-- The JSON form of one property of a projection. -/
def Projection.toJson (p : Projection) : Json :=
  .object [("name", .string p.name), ("field", .string p.field)]

/-- The JSON form of a key of an order. -/
def SortKey.toJson (k : SortKey) : Json :=
  .object [("field", .string k.field), ("ascending", .bool k.ascending)]

/-- The entries of a read. -/
def QueryOp.entries : QueryOp → List (String × Json)
  | .filter predicate => [("method", .string "filter"), ("predicate", predicate)]
  | .map fields => [("method", .string "map"), ("fields", .array (fields.map Projection.toJson))]
  | .slice start stop =>
    [("method", .string "slice"), ("from", .ofInt start), ("to", .orNull (stop.map .ofInt))]
  | .sort keys => [("method", .string "sort"), ("fields", .array (keys.map SortKey.toJson))]

/-- The JSON form of a property that is set: its name and its value. -/
def changeToJson (change : String × Json) : Json := .array [.string change.1, change.2]

/-- The entries of a change. -/
def ModOp.entries : ModOp → List (String × Json)
  | .insert values => [("method", .string "insert"), ("values", .array values)]
  | .update changes predicate =>
    [("method", .string "update"), ("update", .array (changes.map changeToJson)),
      ("predicate", .orNull predicate)]
  | .remove predicate => [("method", .string "remove"), ("predicate", predicate)]

namespace Command

/-- The JSON form of a command. -/
def toJson : Command → Json
  | .collection ref =>
    .object [("type", .string "CollectionRef"), ("db", .string ref.db),
      ("collection", .string ref.collection)]
  | .query op source =>
    .object (("type", .string "Query") :: (op.entries ++ [("source", source.toJson)]))
  | .value property source =>
    .object [("type", .string "Value"), ("property", .string property), ("source", source.toJson)]
  | .modification op source =>
    .object (("type", .string "Modification") :: (op.entries ++ [("source", source.toJson)]))

end Command

end FluentQuery
