import FluentQuery.Command.Encode
import FluentQuery.Recognize

/-!
# Programs

A program is visited in source order. Declarations that call a connector extend the roots, and each
call, member access and assignment is offered to its recognizer. A node that is recognized is a site,
and nothing inside it is visited.
-/

namespace FluentQuery

/-- A recognized expression. -/
structure Site where
  span : Option Span
  command : Command
deriving DecidableEq, Repr

/-- The JSON form of a position. -/
def Span.toJson (span : Span) : Json := .array [.ofNat span.start, .ofNat span.stop]

/-- The JSON form of a site. -/
def Site.toJson (site : Site) : Json :=
  .object [("span", .orNull (site.span.map Span.toJson)), ("command", site.command.toJson)]

namespace Program

/-- What a visit leaves behind: the roots, and the sites found. -/
structure Visited where
  roots : Roots
  sites : List Site
deriving DecidableEq, Repr

/-- Extend the roots by the binding that a declaration makes, if the name is new. -/
def declare (roots : Roots) (node : Json) : Traced Roots :=
  if node.isKind Kind.declarator then
    match roots.declaration node with
    | .skip _ => pure roots
    | .matched (name, binding) =>
      if roots.contains name then pure roots
      else do
        Traced.emit (.root name binding)
        return roots.declare name binding
  else pure roots

/-- Offer a node to the recognizer of its kind, if there is one. -/
def offer (limit : Nat) (roots : Roots) (node : Json) : Traced (Option Command) :=
  match node.kind?.bind Recognizer.ofKind? with
  | none => pure none
  | some r => do return (← r.recognize roots limit node).toOption

/-- Whether the entry of a node under some key is passed over: trivia, the kind, the target of an
assignment, and the right side of a write that misses its collection. -/
def isPassedOver (roots : Roots) (node : Json) (key : String) : Bool :=
  isTrivia key || key == "type" ||
    (node.isKind Kind.assignment &&
      (key == "left" || (key == "right" && isMisdirectedWrite node roots)))

mutual

/-- Visit a value. Objects without a kind are passed over. -/
def visit (limit : Nat) : Json → Roots → Traced Visited
  | .array items, roots => visitItems limit items roots
  | .object entries, roots =>
    if (Json.kindOf? entries).isSome then do
      let node := Json.object entries
      let roots ← declare roots node
      match ← offer limit roots node with
      | some command => return ⟨roots, [⟨node.span?, command⟩]⟩
      | none => visitEntries limit (isPassedOver roots node) entries roots
    else pure ⟨roots, []⟩
  | _, roots => pure ⟨roots, []⟩

/-- Visit items one after the other. -/
def visitItems (limit : Nat) : List Json → Roots → Traced Visited
  | [], roots => pure ⟨roots, []⟩
  | v :: rest, roots => do
    let first ← visit limit v roots
    let others ← visitItems limit rest first.roots
    return ⟨others.roots, first.sites ++ others.sites⟩

/-- Visit entries one after the other, but for those that are passed over. -/
def visitEntries (limit : Nat) (passedOver : String → Bool) :
    List (String × Json) → Roots → Traced Visited
  | [], roots => pure ⟨roots, []⟩
  | (key, v) :: rest, roots =>
    if passedOver key then visitEntries limit passedOver rest roots
    else do
      let first ← visit limit v roots
      let others ← visitEntries limit passedOver rest first.roots
      return ⟨others.roots, first.sites ++ others.sites⟩

end

/-- The sites of a program, in source order. The configuration is checked first. -/
def analyze (config : Config) (program : Json) : Traced (List Site) :=
  match config.validate with
  | .error fault => .fail (.invalidConfig fault)
  | .ok () => do
    return (← visit config.recursionLimit program (Roots.ofConfig config)).sites

end Program

end FluentQuery
