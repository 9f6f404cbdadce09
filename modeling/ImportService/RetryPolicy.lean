/-
This file models the errors of the service as its retry policy reads them, and asks
whether wrapping a database error keeps its retry class. The policy retries what a
`DomainError` declares retryable, and otherwise what carries a code of an allow-list
somewhere in its cause chain. `wrapDatabaseError` declares every error it wraps
retryable, so the class is kept exactly for the errors that were retryable before
(`retry_class_kept_iff`): a constraint violation in a batch is retried like a lost
connection (`constraint_violation_retried`).
-/

import ImportService.JsString

namespace ImportService

/-! ### Errors -/

/-- The categories of errors. -/
inductive ErrorCategory
  | REQUEST_VALIDATION
  | RECORD_VALIDATION
  | BUSINESS_RULE
  | INFRASTRUCTURE
  | CANCELLATION
  deriving DecidableEq

/-- What a `DomainError` declares about itself. -/
structure DomainErrorClass where
  category : ErrorCategory
  retryable : Bool
  deriving DecidableEq

/-- A thrown object. A code that is not a string is `none`, as it is skipped. -/
structure ErrorObject where
  /-- `none` for an object that is not `instanceof DomainError`. -/
  domainError : Option DomainErrorClass
  code : Option JsString
  originalCode : Option JsString
  /-- `context.operation` -/
  operation : Option JsString

/-- A thrown value with its cause, the cause of that, and so on; `none` is a value that is not
an object. The chain of an error that is its own cause never ends. -/
abbrev ErrorChain := Nat → Option ErrorObject

namespace ErrorChain

/-- The error behind the first one. -/
def cause (error : ErrorChain) : ErrorChain := fun link => error (link + 1)

/-- `error instanceof DomainError` -/
def domainError (error : ErrorChain) : Option DomainErrorClass :=
  (error 0).bind ErrorObject.domainError

/-- An error of the driver or of the language, as it is before it is wrapped. -/
def IsRaw (error : ErrorChain) : Prop := error.domainError = none

end ErrorChain

/-- A database error is wrapped, with the error itself as its cause. -/
def wrapDatabaseError (cause : ErrorChain) (operation : JsString) : ErrorChain
  | 0 => some
      { domainError := some { category := .INFRASTRUCTURE, retryable := true }
        code := some (JsString.ofString "DATABASE_UNAVAILABLE")
        originalCode := none
        operation := some operation }
  | link + 1 => cause link

namespace ExponentialBackoffRetryPolicy

/-! ### Classification -/

/-- The states of PostgreSQL that are worth a retry. -/
def RETRYABLE_PG_CODES : List JsString :=
  ["08000", "08003", "08006", "08001", "08004", "40001", "40P01", "53300", "57P01", "57P02",
    "57P03", "55P03"].map JsString.ofString

/-- The codes of a lost or refused connection. -/
def RETRYABLE_NODE_CODES : List JsString :=
  ["ECONNRESET", "ECONNREFUSED", "ETIMEDOUT", "EPIPE", "EHOSTUNREACH", "ENETUNREACH"].map
    JsString.ofString

/-- One of the two lists has the code. -/
def isRetryableCode (code : JsString) : Bool :=
  RETRYABLE_PG_CODES.contains code || RETRYABLE_NODE_CODES.contains code

/-- The codes an error carries. -/
def codes (candidate : ErrorObject) : List JsString :=
  [candidate.code, candidate.originalCode].filterMap id

/-- The links `hasRetryableCause` looks at: the depths 0 to 5. -/
def CAUSE_LINKS : Nat := 6

/-- `hasRetryableCause`, by the number of links it may still look at. -/
def hasRetryableCause : Nat → ErrorChain → Bool
  | 0, _ => false
  | links + 1, error =>
      match error 0 with
      | none => false
      | some candidate =>
          (codes candidate).any isRetryableCode || hasRetryableCause links error.cause

/-- A declared error is retried where it says so. Otherwise the codes of its causes decide, but a
cancellation is never retried. -/
def isRetryable (error : ErrorChain) : Bool :=
  match error.domainError with
  | some declared =>
      if declared.category == .CANCELLATION then false
      else if declared.retryable then true
      else hasRetryableCause CAUSE_LINKS error.cause
  | none => hasRetryableCause CAUSE_LINKS error

/-- The link of the chain at a depth is an object with a code of the allow-lists. -/
def TransientAt (error : ErrorChain) (depth : Nat) : Prop :=
  ∃ candidate, error depth = some candidate ∧ ∃ code ∈ codes candidate, isRetryableCode code = true

/-- The error or one of its next causes, down to depth 5, carries a code of the allow-lists. -/
def IsTransient (error : ErrorChain) : Prop :=
  ∃ depth < CAUSE_LINKS, (∀ above < depth, (error above).isSome = true) ∧ TransientAt error depth

theorem transientAt_zero {error : ErrorChain} {candidate : ErrorObject}
    (object : error 0 = some candidate) :
    TransientAt error 0 ↔ (codes candidate).any isRetryableCode = true := by
  simp [TransientAt, object, List.any_eq_true]

theorem hasRetryableCause_iff (links : Nat) (error : ErrorChain) :
    hasRetryableCause links error = true ↔
      ∃ depth < links, (∀ above < depth, (error above).isSome = true) ∧
        TransientAt error depth := by
  induction links generalizing error with
  | zero => simp [hasRetryableCause]
  | succ links inductionHypothesis =>
    cases object : error 0 with
    | none =>
      simp only [hasRetryableCause, object, Bool.false_eq_true, false_iff]
      rintro ⟨depth, _, above, candidate, found, _⟩
      cases depth with
      | zero => exact nomatch object.symm.trans found
      | succ depth =>
        have first := above 0 (Nat.succ_pos depth)
        rw [object] at first
        cases first
    | some candidate =>
      simp only [hasRetryableCause, object, Bool.or_eq_true]
      rw [inductionHypothesis, ← transientAt_zero object]
      constructor
      · rintro (here | ⟨depth, within, above, transient⟩)
        · exact ⟨0, Nat.succ_pos links, fun _ impossible => absurd impossible (Nat.not_lt_zero _),
            here⟩
        · refine ⟨depth + 1, Nat.succ_lt_succ within, fun link before => ?_, transient⟩
          cases link with
          | zero => rw [object]; rfl
          | succ link => exact above link (Nat.lt_of_succ_lt_succ before)
      · rintro ⟨depth, within, above, transient⟩
        cases depth with
        | zero => exact Or.inl transient
        | succ depth =>
          refine Or.inr ⟨depth, Nat.lt_of_succ_lt_succ within, fun link before => ?_, transient⟩
          exact above (link + 1) (Nat.succ_lt_succ before)

/-- The policy reads a raw error by its codes alone. -/
theorem isRetryable_of_isRaw {error : ErrorChain} (raw : error.IsRaw) :
    isRetryable error = true ↔ IsTransient error := by
  rw [isRetryable, raw]
  exact hasRetryableCause_iff CAUSE_LINKS error

theorem isRetryable_wrapDatabaseError (error : ErrorChain) (operation : JsString) :
    isRetryable (wrapDatabaseError error operation) = true := rfl

/-! ### Retrying -/

/-- How an operation ended under the policy, and how often it was tried. -/
structure Execution (Result : Type) where
  attempts : Nat
  outcome : Except ErrorChain Result

/-- The attempts from one on, when `left` of them are allowed. -/
def executeFrom {Result : Type} (fn : Nat → Except ErrorChain Result) (attempt : Nat) :
    Nat → Execution Result
  | 0 => { attempts := attempt - 1, outcome := .error fun _ => none }
  | left + 1 =>
      match fn attempt with
      | .ok result => { attempts := attempt, outcome := .ok result }
      | .error err =>
          if !isRetryable err then { attempts := attempt, outcome := .error err }
          else if left = 0 then { attempts := attempt, outcome := .error err }
          else executeFrom fn (attempt + 1) left

/-- `execute`; the outcome of an attempt is given by its number. -/
def execute {Result : Type} (maxAttempts : Nat) (fn : Nat → Except ErrorChain Result) :
    Execution Result :=
  executeFrom fn 1 maxAttempts

/-- The outcomes of `persistBatch`, which wraps every raw error inside it. -/
def batchWrite {Result : Type} (raw : Nat → Except ErrorChain Result) (attempt : Nat) :
    Except ErrorChain Result :=
  (raw attempt).mapError fun err =>
    wrapDatabaseError err (JsString.ofString "TransactionRepository.persistBatch")

theorem le_attempts_executeFrom {Result : Type} (fn : Nat → Except ErrorChain Result)
    (attempt left : Nat) (some_left : 0 < left) :
    attempt ≤ (executeFrom fn attempt left).attempts := by
  induction left generalizing attempt with
  | zero => cases some_left
  | succ left inductionHypothesis =>
    rw [executeFrom]
    split
    · exact Nat.le_refl attempt
    · split
      · exact Nat.le_refl attempt
      · split
        · exact Nat.le_refl attempt
        · rename_i notLast
          exact Nat.le_of_succ_le
            (inductionHypothesis (attempt + 1) (Nat.pos_of_ne_zero notLast))

/-- A batch write is tried again after any error at all, as long as an attempt is left. -/
theorem batchWrite_retried {Result : Type} {maxAttempts : Nat} (several : 1 < maxAttempts)
    {raw : Nat → Except ErrorChain Result} {error : ErrorChain} (failed : raw 1 = .error error) :
    1 < (execute maxAttempts (batchWrite raw)).attempts := by
  obtain ⟨left, rfl⟩ := Nat.exists_eq_add_of_le several
  have wrapped : batchWrite raw 1 = .error
      (wrapDatabaseError error (JsString.ofString "TransactionRepository.persistBatch")) := by
    rw [batchWrite, failed]
    rfl
  have retries : execute (1 + 1 + left) (batchWrite raw) =
      executeFrom (batchWrite raw) 2 (left + 1) := by
    rw [execute, show 1 + 1 + left = left + 1 + 1 by omega, executeFrom, wrapped]
    simp only [isRetryable_wrapDatabaseError]
    rfl
  rw [retries]
  exact le_attempts_executeFrom _ 2 (left + 1) (Nat.succ_pos left)

/-! ### The retry class -/

/-- Wrapping keeps the retry class of an error, so that a batch write that fails with it is
tried again only if it is transient. -/
structure KeepsRetryClass (error : ErrorChain) : Prop where
  wrapped : ∀ operation, isRetryable (wrapDatabaseError error operation) = isRetryable error
  retried : ∀ (maxAttempts : Nat) (raw : Nat → Except ErrorChain Unit), 1 < maxAttempts →
    raw 1 = .error error → 1 < (execute maxAttempts (batchWrite raw)).attempts →
      IsTransient error

/-- Wrapping keeps the retry class of a raw error exactly when the error is transient. -/
theorem retry_class_kept_iff (error : ErrorChain) (raw : error.IsRaw) :
    KeepsRetryClass error ↔ IsTransient error := by
  rw [← isRetryable_of_isRaw raw]
  constructor
  · intro keeps
    rw [← keeps.wrapped []]
    exact isRetryable_wrapDatabaseError error []
  · intro retryable
    exact ⟨fun operation => (isRetryable_wrapDatabaseError error operation).trans retryable.symm,
      fun _ _ _ _ _ => (isRetryable_of_isRaw raw).mp retryable⟩

/-- The driver's error for a violated unique constraint. -/
def uniqueViolation : ErrorChain
  | 0 => some
      { domainError := none, code := some (JsString.ofString "23505"), originalCode := none,
        operation := none }
  | _ + 1 => none

theorem retry_class_kept_iff_uniqueViolation :
    KeepsRetryClass uniqueViolation ↔ IsTransient uniqueViolation :=
  retry_class_kept_iff uniqueViolation rfl

/-- A violated constraint is retried once it is wrapped, and was not to be retried before. -/
theorem constraint_violation_retried : ¬ KeepsRetryClass uniqueViolation := by
  intro keeps
  have kept := keeps.wrapped []
  rw [isRetryable_wrapDatabaseError] at kept
  exact absurd kept (by decide)

end ExponentialBackoffRetryPolicy

end ImportService
