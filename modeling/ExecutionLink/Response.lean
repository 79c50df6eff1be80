/-
What comes back from a remote call.

A call that completed has a `Response`: the remote side either gave an answer
or refused with a message.  A call that never got a usable reply is an error of
another kind and is kept apart (see `CallResult` in the module on errors).
-/

namespace ExecutionLink

/-- The outcome of a call that completed: an answer, or a refusal in the remote
side's own words. -/
inductive Response (α : Type) where
  | success (payload : α)
  | failure (message : String)
  deriving Repr, DecidableEq

namespace Response

variable {α β : Type}

/-- Whether there is an answer. -/
def isSuccess : Response α → Bool
  | .success _ => true
  | .failure _ => false

/-- Whether the call was refused. -/
def isFailure : Response α → Bool
  | .success _ => false
  | .failure _ => true

/-- The answer, if there is one. -/
def payload? : Response α → Option α
  | .success a => some a
  | .failure _ => none

/-- The refusal's message, if there is one. -/
def message? : Response α → Option String
  | .success _ => none
  | .failure m => some m

/-- Applies a function to the answer. -/
def map (f : α → β) : Response α → Response β
  | .success a => .success (f a)
  | .failure m => .failure m

/-- The response as a result whose errors are refusals. -/
def toExcept : Response α → Except String α
  | .success a => .ok a
  | .failure m => .error m

/-- The response that a result is. -/
def ofExcept : Except String α → Response α
  | .ok a => .success a
  | .error m => .failure m

@[simp] theorem ofExcept_toExcept (r : Response α) : ofExcept r.toExcept = r := by
  cases r <;> rfl

end Response

end ExecutionLink
