/-!
# Outcomes

A test of a node either matches, with a result, or skips, with a reason. A skip is data and not an
error: the node is simply not an instance of what was tested, and the next alternative is tried.
Reasons form a tree, which `Skip.reason` puts into words.
-/

namespace FluentQuery

/-- Why a node does not match. -/
inductive Skip where
  /-- A plain reason. -/
  | because (reason : String)
  /-- A reason that arose at some place. -/
  | within (place : String) (cause : Skip)
  /-- An expectation that was not met, and why. -/
  | unmet (expectation : String) (cause : Skip)
  /-- Everything of one sort that was tried, each with its reason. -/
  | noneOf (sort : String) (causes : List Skip)
deriving Inhabited

namespace Skip

mutual

/-- The wording of a reason. -/
def reason : Skip → String
  | .because text => text
  | .within place cause => place ++ ": " ++ cause.reason
  | .unmet expectation cause => expectation ++ " (" ++ cause.reason ++ ")"
  | .noneOf sort causes =>
    "no " ++ sort ++ " matched (" ++ "; ".intercalate (reasons causes) ++ ")"

/-- The wordings of reasons. -/
def reasons : List Skip → List String
  | [] => []
  | cause :: rest => cause.reason :: reasons rest

end

end Skip

/-- The result of a test: a match, or the reason why there is none. -/
inductive Outcome (α : Type) where
  | matched (a : α)
  | skip (why : Skip)
deriving Inhabited

namespace Outcome

variable {α β γ : Type}

/-- A skip with a plain reason. -/
def refuse (reason : String) : Outcome α := .skip (.because reason)

/-- Apply a function to the result of a match. -/
def map (f : α → β) : Outcome α → Outcome β
  | .matched a => .matched (f a)
  | .skip why => .skip why

/-- Go on with the result of a match. -/
def bind (o : Outcome α) (f : α → Outcome β) : Outcome β :=
  match o with
  | .matched a => f a
  | .skip why => .skip why

instance : Monad Outcome where
  pure := .matched
  bind := Outcome.bind

/-- Change the reason of a skip. -/
def mapSkip (f : Skip → Skip) : Outcome α → Outcome α
  | .matched a => .matched a
  | .skip why => .skip (f why)

/-- The result of a match. -/
def toOption : Outcome α → Option α
  | .matched a => some a
  | .skip _ => none

/-- Whether the outcome is a match. -/
def isMatch : Outcome α → Bool
  | .matched _ => true
  | .skip _ => false

/-- Whether the outcome is a skip. -/
def isSkip : Outcome α → Bool
  | .matched _ => false
  | .skip _ => true

/-- The wording of a skip. -/
def reason? : Outcome α → Option String
  | .matched _ => none
  | .skip why => some why.reason

/-- A match of a present value, or a skip with a plain reason. -/
def ofOption (reason : String) : Option α → Outcome α
  | some a => .matched a
  | none => refuse reason

@[simp] theorem pure_eq (a : α) : (pure a : Outcome α) = .matched a := rfl

@[simp] theorem matched_bind (a : α) (f : α → Outcome β) : (Outcome.matched a >>= f) = f a := rfl

@[simp] theorem skip_bind (why : Skip) (f : α → Outcome β) :
    (Outcome.skip why >>= f) = .skip why := rfl

theorem bind_eq_matched_iff {o : Outcome α} {f : α → Outcome β} {b : β} :
    (o >>= f) = .matched b ↔ ∃ a, o = .matched a ∧ f a = .matched b := by
  cases o <;> simp

theorem bind_assoc (o : Outcome α) (f : α → Outcome β) (g : β → Outcome γ) :
    (o >>= f >>= g) = o >>= fun a ↦ f a >>= g := by
  cases o <;> rfl

@[simp] theorem isMatch_eq_true_iff {o : Outcome α} : o.isMatch = true ↔ ∃ a, o = .matched a := by
  cases o <;> simp [isMatch]

end Outcome

end FluentQuery
