/-
This file models the errors the service declares and `AppExceptionFilter`, which turns whatever
reaches it into a reply and a line of the log.

What a reply says is fixed by the class of the error, but for the reason of an
`InvalidRequestBodyError`. What the error carries besides, its context and its cause, is logged,
and so is everything about an error that the service does not declare, for which there is one
reply (`isSafe_of_isExpected`).
-/

import ImportService.Json
import ImportService.Logging
import ImportService.RetryPolicy

namespace ImportService

open JsString

/-! ### Errors -/

/-- A thrown value that is no `DomainError`: an `Error`, or another value with the texts that
`String` and `typeof` have for it. -/
inductive Raised
  | error (name message : JsString) (stack : Option JsString)
  | other (value : LogValue) (text typeName : JsString)

/-- One constructor for each class, with what its constructor takes. -/
inductive DomainError
  | MissingIdempotencyKeyError
  | InvalidFileTypeError (received : JsString)
  | InvalidRequestBodyError (reason : JsString)
  | NoFileUploadedError
  | ShutdownInterruptedError (component : JsString)
  | TooManyConcurrentUploadsError (limit : JsNumber)
  | FileTooLargeError (limitBytes : Nat)
  | ImportNotFoundError (id : JsString)
  | ImportAlreadyFinishedError (id currentStatus : JsString)
  | ImportCancelledError (id : JsString)
  | InfrastructureError (code safeMessage operation : JsString) (cause : Raised)
      (retryable : Bool)

/-- The name under which a category is logged. -/
def ErrorCategory.name : ErrorCategory → JsString
  | .REQUEST_VALIDATION => ofString "REQUEST_VALIDATION"
  | .RECORD_VALIDATION => ofString "RECORD_VALIDATION"
  | .BUSINESS_RULE => ofString "BUSINESS_RULE"
  | .INFRASTRUCTURE => ofString "INFRASTRUCTURE"
  | .CANCELLATION => ofString "CANCELLATION"

namespace DomainError

/-- The code a client is told. -/
def code : DomainError → JsString
  | MissingIdempotencyKeyError => ofString "MISSING_IDEMPOTENCY_KEY"
  | InvalidFileTypeError _ => ofString "INVALID_FILE_TYPE"
  | InvalidRequestBodyError _ => ofString "INVALID_REQUEST_BODY"
  | NoFileUploadedError => ofString "NO_FILE_UPLOADED"
  | ShutdownInterruptedError _ => ofString "SHUTDOWN_INTERRUPTED"
  | TooManyConcurrentUploadsError _ => ofString "TOO_MANY_CONCURRENT_UPLOADS"
  | FileTooLargeError _ => ofString "IMPORT_FILE_TOO_LARGE"
  | ImportNotFoundError _ => ofString "IMPORT_NOT_FOUND"
  | ImportAlreadyFinishedError _ _ => ofString "IMPORT_ALREADY_FINISHED"
  | ImportCancelledError _ => ofString "IMPORT_CANCELLED"
  | InfrastructureError code _ _ _ _ => code

/-- The status of the reply. -/
def httpStatus : DomainError → Nat
  | MissingIdempotencyKeyError | InvalidFileTypeError _ | InvalidRequestBodyError _
  | NoFileUploadedError => 400
  | ImportNotFoundError _ => 404
  | ImportAlreadyFinishedError _ _ | ImportCancelledError _ => 409
  | FileTooLargeError _ => 413
  | ShutdownInterruptedError _ | TooManyConcurrentUploadsError _
  | InfrastructureError _ _ _ _ _ => 503

/-- What kind of error it is. -/
def category : DomainError → ErrorCategory
  | MissingIdempotencyKeyError | InvalidFileTypeError _ | InvalidRequestBodyError _
  | NoFileUploadedError | FileTooLargeError _ => .REQUEST_VALIDATION
  | TooManyConcurrentUploadsError _ | ImportNotFoundError _ | ImportAlreadyFinishedError _ _ =>
      .BUSINESS_RULE
  | ShutdownInterruptedError _ | ImportCancelledError _ => .CANCELLATION
  | InfrastructureError _ _ _ _ _ => .INFRASTRUCTURE

/-- Only an infrastructure error can say that it is worth a retry. -/
def retryable : DomainError → Bool
  | InfrastructureError _ _ _ _ retryable => retryable
  | _ => false

/-- The text of the error. -/
def message : DomainError → JsString
  | MissingIdempotencyKeyError => ofString "Idempotency-Key header is required."
  | InvalidFileTypeError _ => ofString "Unsupported file type. Allowed: .ndjson, .jsonl, .json"
  | InvalidRequestBodyError reason => reason
  | NoFileUploadedError => ofString "No file part found in multipart request."
  | ShutdownInterruptedError _ =>
      ofString "Operation interrupted because the process is shutting down."
  | TooManyConcurrentUploadsError _ =>
      ofString "Too many uploads in progress. Please retry shortly."
  | FileTooLargeError _ => ofString "The uploaded file exceeds the allowed size"
  | ImportNotFoundError _ => ofString "The requested import does not exist."
  | ImportAlreadyFinishedError _ _ =>
      ofString "This import has already finished and cannot be modified."
  | ImportCancelledError _ => ofString "This import was cancelled."
  | InfrastructureError _ safeMessage _ _ _ => safeMessage

/-- An object with one member. -/
def single (name : String) (value : Json) : Option Json := some (.object [(ofString name, value)])

/-- What is logged beside the message. -/
def context : DomainError → Option Json
  | MissingIdempotencyKeyError | InvalidRequestBodyError _ | NoFileUploadedError => none
  | InvalidFileTypeError received => single "received" (.string received)
  | ShutdownInterruptedError component => single "component" (.string component)
  | TooManyConcurrentUploadsError limit => single "limit" (.number limit)
  | FileTooLargeError limitBytes => single "limitBytes" (.number (.finite limitBytes))
  | ImportNotFoundError id | ImportCancelledError id => single "importId" (.string id)
  | ImportAlreadyFinishedError id currentStatus => some (.object
      [(ofString "importId", .string id), (ofString "currentStatus", .string currentStatus)])
  | InfrastructureError _ _ operation _ _ => single "operation" (.string operation)

/-- The error that was wrapped, if there was one. -/
def cause : DomainError → Option Raised
  | InfrastructureError _ _ _ cause _ => some cause
  | _ => none

/-- What the retry policy reads of an error. -/
def declared (error : DomainError) : DomainErrorClass where
  category := error.category
  retryable := error.retryable

/-- What a repository makes of an error of the database. -/
def wrapDatabaseError (cause : Raised) (operation : String) : DomainError :=
  InfrastructureError (ofString "DATABASE_UNAVAILABLE") (ofString "A database operation failed.")
    (ofString operation) cause true

/-- The retry policy sees the class that the wrapped error declares. -/
theorem domainError_wrapDatabaseError (cause : Raised) (chain : ErrorChain) (operation : String) :
    (ImportService.wrapDatabaseError chain (ofString operation)).domainError =
      some (wrapDatabaseError cause operation).declared := rfl

end DomainError

/-- What reaches the filter. -/
inductive Exception
  | domain (error : DomainError)
  | raised (raised : Raised)

/-! ### The filter -/

/-- The body of a failure. -/
structure ErrorBody where
  code : JsString
  message : JsString
  requestId : JsString
  deriving DecidableEq

/-- A failure as the client gets it. -/
structure ErrorReply where
  status : Nat
  error : ErrorBody
  deriving DecidableEq

/-- The body has the code and the text of the error, and neither its context nor its cause. -/
def DomainError.toSafeResponse (requestId : JsString) (error : DomainError) : ErrorBody where
  code := error.code
  message := error.message
  requestId := requestId

namespace AppExceptionFilter

/-- The reply to an error nobody expected. -/
def internalError (requestId : JsString) : ErrorReply where
  status := 500
  error :=
    { code := ofString "INTERNAL_ERROR"
      message := ofString "An unexpected error occurred."
      requestId := requestId }

/-- What `catch` sends for an exception. -/
def reply (requestId : JsString) : Exception → ErrorReply
  | .domain error => { status := error.httpStatus, error := error.toSafeResponse requestId }
  | .raised _ => internalError requestId

/-- `exception.cause instanceof Error ? exception.cause.message : exception.cause` -/
def loggedCause : Option Raised → LogValue
  | none => .undefined
  | some (.error _ message _) => .string message
  | some (.other value _ _) => value

/-- Errors of the infrastructure are logged as errors, and the others as warnings. -/
def logLevel (exception : DomainError) : LogLevel :=
  if exception.category = .INFRASTRUCTURE then .error else .warn

/-- The line for an error of the domain. -/
def logDomainError (requestId : JsString) (exception : DomainError) : LogLine where
  level := logLevel exception
  message := exception.message
  context :=
    [(ofString "requestId", .string requestId),
      (ofString "code", .string exception.code),
      (ofString "category", .string exception.category.name),
      (ofString "retryable", .bool exception.retryable),
      (ofString "context", (exception.context.map LogValue.json).getD .undefined),
      (ofString "cause", loggedCause exception.cause)]

/-- The line for an error nobody expected. -/
def logUnhandled (requestId : JsString) (exception : Raised) : LogLine where
  level := .error
  message := ofString "Unhandled exception"
  context :=
    match exception with
    | .error name message stack =>
        [(ofString "requestId", .string requestId), (ofString "message", .string message),
          (ofString "stack", (stack.map LogValue.string).getD .undefined),
          (ofString "name", .string name)]
    | .other _ text typeName =>
        [(ofString "requestId", .string requestId), (ofString "message", .string text),
          (ofString "stack", .undefined), (ofString "name", .string typeName)]

/-- What `catch` logs for an exception. -/
def logged (requestId : JsString) : Exception → LogLine
  | .domain error => logDomainError requestId error
  | .raised raised => logUnhandled requestId raised

/-! ### What a reply can say -/

/-- A failure as its client and the log see it. -/
structure SafeReply where
  status : Nat
  code : String
  message : String
  level : LogLevel

/-- The failures whose message is fixed. -/
def SAFE_REPLIES : List SafeReply :=
  [⟨400, "MISSING_IDEMPOTENCY_KEY", "Idempotency-Key header is required.", .warn⟩,
    ⟨400, "INVALID_FILE_TYPE", "Unsupported file type. Allowed: .ndjson, .jsonl, .json", .warn⟩,
    ⟨400, "NO_FILE_UPLOADED", "No file part found in multipart request.", .warn⟩,
    ⟨404, "IMPORT_NOT_FOUND", "The requested import does not exist.", .warn⟩,
    ⟨409, "IMPORT_ALREADY_FINISHED",
      "This import has already finished and cannot be modified.", .warn⟩,
    ⟨413, "IMPORT_FILE_TOO_LARGE", "The uploaded file exceeds the allowed size", .warn⟩,
    ⟨500, "INTERNAL_ERROR", "An unexpected error occurred.", .error⟩,
    ⟨503, "TOO_MANY_CONCURRENT_UPLOADS",
      "Too many uploads in progress. Please retry shortly.", .warn⟩,
    ⟨503, "DATABASE_UNAVAILABLE", "A database operation failed.", .error⟩]

/-- An error whose reply says one of these texts, or why a body is invalid. -/
inductive IsExpected : Exception → Prop
  | invalidRequestBody (reason : JsString) : IsExpected (.domain (.InvalidRequestBodyError reason))
  | listed {error : DomainError} {safe : SafeReply} (member : safe ∈ SAFE_REPLIES)
      (status : error.httpStatus = safe.status) (code : error.code = ofString safe.code)
      (message : error.message = ofString safe.message) (level : logLevel error = safe.level) :
      IsExpected (.domain error)
  | raised (raised : Raised) : IsExpected (.raised raised)

/-- A reply and the line that is logged with it name the request. The status, the code and the
message are listed ones, except that a 400 gives the reason for which the body was refused: that
text is not limited here. -/
structure IsSafe (requestId : JsString) (reply : ErrorReply) (line : LogLine) : Prop where
  replied : reply.error.requestId = requestId
  logged : line.context.lookup (ofString "requestId") = some (.string requestId)
  text : reply.status = 400 ∧ reply.error.code = ofString "INVALID_REQUEST_BODY" ∧
      line.level = .warn ∨
    ∃ safe ∈ SAFE_REPLIES, reply.status = safe.status ∧ reply.error.code = ofString safe.code ∧
      reply.error.message = ofString safe.message ∧ line.level = safe.level

theorem isSafe_of_isExpected {exception : Exception} (expected : IsExpected exception)
    (requestId : JsString) :
    IsSafe requestId (reply requestId exception) (logged requestId exception) := by
  have found (rest : List (JsString × LogValue)) :
      ((ofString "requestId", LogValue.string requestId) :: rest).lookup (ofString "requestId") =
        some (.string requestId) := List.lookup_cons_self
  cases expected with
  | invalidRequestBody reason => exact ⟨rfl, found _, Or.inl ⟨rfl, rfl, rfl⟩⟩
  | listed member status code message level =>
    exact ⟨rfl, found _, Or.inr ⟨_, member, status, code, message, level⟩⟩
  | raised raised =>
    have member : (⟨500, "INTERNAL_ERROR", "An unexpected error occurred.", .error⟩ : SafeReply) ∈
        SAFE_REPLIES := List.mem_of_getElem? (i := 6) rfl
    cases raised with
    | error => exact ⟨rfl, found _, Or.inr ⟨_, member, rfl, rfl, rfl, rfl⟩⟩
    | other => exact ⟨rfl, found _, Or.inr ⟨_, member, rfl, rfl, rfl, rfl⟩⟩

end AppExceptionFilter

end ImportService
