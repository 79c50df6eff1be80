/-
How a completed call is counted.

A call is a success exactly if it completed with an answer; a refusal and the
lack of any usable reply both count as errors.
-/
import ExecutionLink.Error

namespace ExecutionLink

/-- The two outcomes that are counted apart. -/
inductive Outcome where
  | success
  | error
  deriving Repr, DecidableEq

namespace Outcome

/-- The outcome's label. -/
def label : Outcome → String
  | .success => "SUCCESS"
  | .error => "ERROR"

/-- The outcome of a response. -/
def ofResponse {α : Type} (r : Response α) : Outcome :=
  if r.isSuccess then .success else .error

/-- The outcome of a result whose values have outcomes themselves. -/
def ofExcept {ε α : Type} (outcome : α → Outcome) : Except ε α → Outcome
  | .ok a => outcome a
  | .error _ => .error

/-- The outcome of a call. -/
def ofCall {α : Type} (r : CallResult α) : Outcome :=
  ofExcept ofResponse r

end Outcome

end ExecutionLink
