import FluentQuery.Config.Basic
import FluentQuery.Pattern.Rule

/-!
# Roots

The identifiers known to denote a database or a collection at some point of a program. The roots of
the configuration come first; each declaration that calls a connector may add one. A name keeps the
binding that it gets first.
-/

namespace FluentQuery

/-- What an identifier denotes: a database, or one collection of it. -/
structure RootBinding where
  db : String
  collection : Option String
deriving DecidableEq, Repr

/-- The identifiers that denote a database or a collection, in the order of discovery. -/
structure Roots where
  bindings : List (String × RootBinding)
  /-- The functions whose call in a declaration gives a binding. -/
  connectors : List String
deriving DecidableEq, Repr

namespace Roots

/-- What a name denotes. -/
def get? (roots : Roots) (name : String) : Option RootBinding := roots.bindings.lookup name

/-- Whether a name is bound. -/
def contains (roots : Roots) (name : String) : Bool := (roots.get? name).isSome

/-- Whether a name is that of a connector. -/
def isConnector (roots : Roots) (name : String) : Bool := roots.connectors.contains name

/-- Bind a name, unless it is bound. -/
def declare (roots : Roots) (name : String) (binding : RootBinding) : Roots :=
  if roots.contains name then roots
  else { roots with bindings := roots.bindings ++ [(name, binding)] }

/-- The roots of a configuration. -/
def ofConfig (config : Config) : Roots :=
  config.roots.foldl (fun roots name ↦ roots.declare name ⟨config.database.getD name, none⟩)
    ⟨[], config.connectors⟩

/-! ## Declarations -/

open Pattern

/-- `name = connector("db")` or `name = connector("db", "collection")` in a declaration. -/
def declarationRule : Rule Roots (String × RootBinding) where
  name := "connector declaration"
  pattern := node Kind.declarator
    [("id", identifierAs "name"),
      ("init", node Kind.call
        [("callee", identifierAs "connector"),
          ("arguments", .seq [.one (stringAs "db"), .optional (stringAs "collection")])])]
  build := fun roots m ↦
    match m.bindings.string? "name", m.bindings.string? "connector", m.bindings.string? "db" with
    | some name, some connector, some db =>
      if roots.isConnector connector then
        .matched (name, ⟨db, m.bindings.string? "collection"⟩)
      else .refuse s!"`{connector}` is not a configured connector"
    | _, _, _ => .refuse "malformed connector declaration"

/-- The binding that a declaration makes. -/
def declaration (roots : Roots) (declarator : Json) : Outcome (String × RootBinding) :=
  declarationRule.apply roots declarator

end Roots

end FluentQuery
