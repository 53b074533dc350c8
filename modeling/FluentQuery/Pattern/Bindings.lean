import FluentQuery.Node.Same
import FluentQuery.Outcome

/-!
# Bindings

The values that a match has captured, by name and in the order of capture. A name may be captured
more than once, and then all its values must be the same expression; the first is kept.
-/

namespace FluentQuery

/-- Captured values by name, in the order of capture. -/
abbrev Bindings := List (String × Json)

namespace Bindings

/-- The value bound to a name. -/
def get? (bindings : Bindings) (name : String) : Option Json := Json.find? name bindings

/-- The text bound to a name. -/
def string? (bindings : Bindings) (name : String) : Option String :=
  (bindings.get? name).bind Json.asString?

/-- The number bound to a name. -/
def number? (bindings : Bindings) (name : String) : Option Binary64 :=
  (bindings.get? name).bind Json.asBinary64?

/-- Bind one more name. -/
def insert (bindings : Bindings) (name : String) (v : Json) : Outcome Bindings :=
  match bindings.get? name with
  | none => .matched (bindings ++ [(name, v)])
  | some w =>
    if Json.sameNode w v then .matched bindings
    else .refuse s!"capture `{name}` bound to two different values"

/-- Bind more names, one after the other. -/
def merge (bindings : Bindings) : Bindings → Outcome Bindings
  | [] => .matched bindings
  | (name, v) :: rest => do (← bindings.insert name v).merge rest

end Bindings

end FluentQuery
