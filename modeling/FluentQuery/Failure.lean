import FluentQuery.Config.Basic
import FluentQuery.Node.Basic
import FluentQuery.Operation.Id
import FluentQuery.Outcome

/-!
# Failures

What stops an analysis. Unlike a skip, a failure means that the program commits to an operation and
then breaks one of its rules, or that the analysis cannot be carried out at all.
-/

namespace FluentQuery

/-- Why an analysis stops. -/
inductive Failure where
  /-- The configuration is not usable. -/
  | invalidConfig (fault : Config.Fault)
  /-- An operation is malformed. -/
  | malformed (op : OpId) (why : Skip) (span : Option Span)
  /-- An operation gives arguments of which its command cannot be built. -/
  | unbuildable (op : OpId) (span : Option Span)
  /-- A chain has more operations than the limit. -/
  | tooDeep (limit : Nat)
deriving Inhabited

namespace Failure

/-- The wording of a malformed operation. -/
def operationMessage (op : OpId) (reason : String) : String :=
  "invalid `" ++ op.text ++ "` operation: " ++ reason

/-- The wording of a failure. -/
def message : Failure → String
  | .invalidConfig fault => "invalid configuration: " ++ fault.message
  | .malformed op why _ => operationMessage op why.reason
  | .unbuildable op _ => operationMessage op "builder rejected the extracted arguments"
  | .tooDeep limit => s!"operation chain deeper than the recursion limit ({limit})"

/-- The operation that is at fault, with its position. -/
def operation? : Failure → Option (OpId × Option Span)
  | .invalidConfig _ => none
  | .malformed op _ span => some (op, span)
  | .unbuildable op span => some (op, span)
  | .tooDeep _ => none

end Failure

end FluentQuery
