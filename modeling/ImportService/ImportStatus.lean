/-
This file models the statuses of an import and of its job, with the transition table
the domain layer declares for imports. A job has one status more than its import,
`CLAIMED`, which its import does not see.
-/

namespace ImportService

/-- The statuses of an import. -/
inductive ImportStatus
  | PENDING
  | PROCESSING
  | CANCELLING
  | COMPLETED
  | FAILED
  | CANCELLED
  deriving DecidableEq, Repr

/-- The statuses of its job. -/
inductive JobStatus
  | PENDING
  | CLAIMED
  | PROCESSING
  | CANCELLING
  | COMPLETED
  | FAILED
  | CANCELLED
  deriving DecidableEq, Repr

namespace ImportStatus

/-- The statuses an import ends with. -/
def TERMINAL_STATUSES : List ImportStatus := [COMPLETED, FAILED, CANCELLED]

/-- The statuses that may follow a status. -/
def ALLOWED_TRANSITIONS : ImportStatus → List ImportStatus
  | PENDING => [PROCESSING, CANCELLING, CANCELLED, FAILED]
  | PROCESSING => [COMPLETED, FAILED, CANCELLING, PENDING]
  | CANCELLING => [CANCELLED, COMPLETED, FAILED]
  | COMPLETED => []
  | FAILED => []
  | CANCELLED => []

/-- The import has ended. -/
def isTerminal (status : ImportStatus) : Bool := TERMINAL_STATUSES.contains status

/-- The second status may follow the first. -/
def canTransition (first second : ImportStatus) : Bool :=
  (ALLOWED_TRANSITIONS first).contains second

/-- The statuses of an import nobody has asked to cancel and that has not ended. -/
def isOpen : ImportStatus → Bool
  | PENDING | PROCESSING => true
  | CANCELLING | COMPLETED | FAILED | CANCELLED => false

/-- The job status of the same name. -/
def toJob : ImportStatus → JobStatus
  | PENDING => .PENDING
  | PROCESSING => .PROCESSING
  | CANCELLING => .CANCELLING
  | COMPLETED => .COMPLETED
  | FAILED => .FAILED
  | CANCELLED => .CANCELLED

/-- The transition table lets no terminal status go. -/
theorem canTransition_of_isTerminal (first second : ImportStatus)
    (terminal : first.isTerminal = true) : canTransition first second = false := by
  cases first <;> first | rfl | cases terminal

end ImportStatus

namespace JobStatus

/-- The job has ended. -/
def isTerminal : JobStatus → Bool
  | COMPLETED | FAILED | CANCELLED => true
  | PENDING | CLAIMED | PROCESSING | CANCELLING => false

/-- The job can be executed or cancelled. -/
def isOpen : JobStatus → Bool
  | PENDING | CLAIMED | PROCESSING => true
  | CANCELLING | COMPLETED | FAILED | CANCELLED => false

end JobStatus

end ImportService
