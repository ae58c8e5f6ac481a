import Mathlib.Logic.Basic

/-!
# The execution lifecycle

`execution.py`: the statuses of a job or run and the allowed transitions.
-/

namespace GrowthOs.Execution

/-- `ExecutionStatus`. -/
inductive ExecutionStatus where
  | queued
  | running
  | awaitingApproval
  | approved
  | rejected
  | succeeded
  | failed
  | cancelled
  deriving DecidableEq, Repr

/-- `TERMINAL_STATUSES`. -/
def terminalStatuses : List ExecutionStatus := [.rejected, .succeeded, .failed, .cancelled]

/-- `ALLOWED_TRANSITIONS`. -/
def allowedTransitions : ExecutionStatus → List ExecutionStatus
  | .queued => [.running, .cancelled]
  | .running => [.awaitingApproval, .succeeded, .failed, .cancelled]
  | .awaitingApproval => [.approved, .rejected, .cancelled]
  | .approved => [.running, .cancelled]
  | .rejected => []
  | .succeeded => []
  | .failed => []
  | .cancelled => []

/-- `validate_transition`: whether it accepts the transition. -/
def validateTransition (current target : ExecutionStatus) : Bool :=
  target ∈ allowedTransitions current

/-- Exactly the terminal statuses have no transition. -/
theorem terminal_iff (status : ExecutionStatus) :
    status ∈ terminalStatuses ↔ allowedTransitions status = [] := by
  cases status <;> decide

end GrowthOs.Execution
