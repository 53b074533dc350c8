import FluentQuery.Pattern.Match
import FluentQuery.Pattern.Text

/-!
# Rules

A rule is a pattern with a function that makes something of a match. The function runs only on a
match, and may still skip for reasons that a pattern cannot express.
-/

namespace FluentQuery

/-- A pattern and what to make of a match, in some context. -/
structure Rule (C T : Type) where
  name : String
  pattern : Pattern
  build : C → Matched → Outcome T

namespace Rule

variable {C T : Type}

/-- Match, then build. -/
def apply (rule : Rule C T) (context : C) (v : Json) : Outcome T := do
  rule.build context (← rule.pattern.matched v)

/-- The first rule that applies, given the reasons of those before, the newest first. -/
def firstFrom (context : C) (v : Json) : List (Rule C T) → List Skip → Outcome T
  | [], refused => .skip (.noneOf "rule" refused.reverse)
  | rule :: rest, refused =>
    match rule.apply context v with
    | .matched a => .matched a
    | .skip why => firstFrom context v rest (.within rule.name why :: refused)

/-- The first rule that applies. -/
def firstOf (rules : List (Rule C T)) (context : C) (v : Json) : Outcome T :=
  firstFrom context v rules []

/-- The text of a rule, for diagnostics. -/
def text (rule : Rule C T) : String :=
  "Rule \x7b name: " ++ Text.quoted rule.name ++ ", pattern: " ++ rule.pattern.text ++ ", .. \x7d"

end Rule

end FluentQuery
