/-
This file models `ProcessImportFileUseCase.execute` as a process that stops at every
`await`. A `Point` is the call `execute` waits for, with the local variables that live
across it; `resume` is the code from one call to the next. Whether a call succeeds,
fails, or takes effect and fails all the same is in the `Reply`.

The semaphore is left out, as it cannot be seen (`Backpressure.limiter_unseen`), and so are
the metrics, the log lines and the `totals` that only the log reads.
-/

import ImportService.Statements

namespace ImportService

open JobRepository

/-! ### Ports -/

/-- What the scoring pool is given for a transaction. -/
structure ScoringInput where
  transaction : ValidatedTransaction
  fingerprint : JsString
  deriving DecidableEq

/-- What it answers. -/
structure ScoringOutput where
  score : Rat
  level : RiskLevel
  fingerprint : JsString
  deriving DecidableEq

/-- The files an execution reads, and the host functions. -/
structure Ports where
  runtime : Runtime
  /-- The lines `readLines` yields for a path. -/
  readLines : JsString → List JsString
  countLines : JsString → Nat
  /-- `computeRiskScore`, which works on floating-point numbers. -/
  computeRiskScore : ValidatedTransaction → JsString → Rat × RiskLevel

/-- The scoring pool scores the inputs of a batch one by one, in their order. -/
def Ports.scoreBatch (ports : Ports) (inputs : List ScoringInput) : List ScoringOutput :=
  inputs.map fun input =>
    let assessment := ports.computeRiskScore input.transaction input.fingerprint
    { score := assessment.1, level := assessment.2, fingerprint := input.fingerprint }

namespace ProcessImportFile

/-- The number of lines between two checks of the job. -/
def CANCELLATION_CHECK_INTERVAL : Nat := 500

/-- The time between two renewals of the lease, in milliseconds. -/
def HEARTBEAT_INTERVAL_MS : Nat := 30000

/-- What a renewal asks for, in milliseconds. -/
def LEASE_DURATION_MS : Nat := 2 * 60 * 1000

/-- The length to which the text of a rejected line is cut. -/
def RAW_VALUE_CAP : Nat := 2000

/-! ### One line -/

/-- What a line of the file comes to. -/
inductive LineOutcome
  | blank
  | rejected (record : RejectedRecordInput)
  | accepted (input : ScoringInput)
  deriving DecidableEq

/-- A line is parsed and validated. A rejection keeps the text of the line, or of the value on
it. -/
def handleLine (ports : Ports) (fallbackProvider rawLine : JsString) (lineNumber : Nat) :
    LineOutcome :=
  match parseNdjsonLine ports.runtime rawLine lineNumber with
  | .blank => .blank
  | .rejected lineNumber errorCode message rawValueTruncated =>
      .rejected
        { lineNumber, errorCode := .line errorCode, message,
          rawValueTruncated := rawValueTruncated.take RAW_VALUE_CAP }
  | .valid lineNumber data =>
      match validateTransaction ports.runtime data fallbackProvider with
      | .error failure =>
          .rejected
            { lineNumber, errorCode := .validation failure.errorCode,
              message := JsString.ofString failure.message,
              rawValueTruncated := (Json.stringify ports.runtime data).take RAW_VALUE_CAP }
      | .ok transaction =>
          .accepted
            { transaction, fingerprint := computeFingerprint ports.runtime transaction }

/-! ### Local state -/

/-- The accumulators for the current batch. -/
structure Batch where
  pendingScoring : List ScoringInput
  pendingRejected : List RejectedRecordInput
  pendingLineCount : Nat
  deriving DecidableEq

namespace Batch

/-- A batch without lines. -/
def empty : Batch where
  pendingScoring := []
  pendingRejected := []
  pendingLineCount := 0

/-- There is nothing to score and nothing to reject. -/
def isEmpty (batch : Batch) : Bool :=
  batch.pendingScoring.isEmpty && batch.pendingRejected.isEmpty

/-- `pendingScoring.length + pendingRejected.length` -/
def size (batch : Batch) : Nat := batch.pendingScoring.length + batch.pendingRejected.length

/-- A line is added to the batch. A blank one is not. -/
def add (batch : Batch) : LineOutcome → Batch
  | .blank => batch
  | .rejected record =>
      { batch with
        pendingLineCount := batch.pendingLineCount + 1
        pendingRejected := batch.pendingRejected ++ [record] }
  | .accepted input =>
      { batch with
        pendingLineCount := batch.pendingLineCount + 1
        pendingScoring := batch.pendingScoring ++ [input] }

end Batch

/-- The local variables of the loop. `rest` is what the reader has still to yield. -/
structure Locals where
  fallbackProvider : JsString
  rest : List JsString
  lineNumber : Nat
  wasCancelled : Bool
  lastHeartbeat : Nat
  pending : Batch
  deriving DecidableEq

/-- What is thrown: the interruption by a shutdown, another `Error`, or something else. -/
inductive Failure
  | shutdownInterrupted
  | error (message : JsString)
  | unknown
  deriving DecidableEq

/-- `err instanceof Error ? err.message : 'Unknown processing error.'` -/
def Failure.message : Failure → JsString
  | .shutdownInterrupted =>
      JsString.ofString "Operation interrupted because the process is shutting down."
  | .error message => message
  | .unknown => JsString.ofString "Unknown processing error."

/-- The statement of `updateBoth` that is awaited. -/
inductive Stage
  | job
  | importRow
  deriving DecidableEq

/-- The place `updateBoth` was called from. -/
inductive Caller
  | fileMissing
  | fileFound (file : ImportFileLocation)
  | loopEnded
  | caught
  deriving DecidableEq

/-- The call an execution waits for. `last` tells the flush after the loop from the ones in
it. -/
inductive Point
  | findByImportId
  | countLines (file : ImportFileLocation)
  | updateBoth (mark : Mark) (stage : Stage) (caller : Caller)
  | readLine (locals : Locals)
  | renewLease (locals : Locals) (rawLine : JsString)
  | getStatus (locals : Locals) (rawLine : JsString)
  | scoreBatch (locals : Locals) (batch : Batch) (last : Bool)
  | persistBatch (locals : Locals) (input : PersistBatchInput) (last : Bool)
  deriving DecidableEq

/-- How an execution goes on: it waits for a call, returns, or throws. -/
inductive Outcome
  | awaiting (point : Point)
  | resolved
  | rejected (failure : Failure)
  deriving DecidableEq

/-- How a call ends. A write that fails may have been committed, and `retry` is a failed
`persistBatch` that the retry policy runs again. -/
inductive Reply
  | ok
  | fail (committed : Bool) (failure : Failure)
  | retry (committed : Bool)
  deriving DecidableEq

/-- The write a call makes. -/
def Point.statement (job : ClaimedJob) : Point → Option Statement
  | .updateBoth mark .job _ => some (.updateBothJob job.id mark)
  | .updateBoth mark .importRow _ => some (.updateBothImport job.importId mark)
  | .renewLease _ _ => some (.renewLease job.id job.workerId LEASE_DURATION_MS)
  | .persistBatch _ input _ => some (.persistBatch input)
  | .findByImportId | .countLines _ | .readLine _ | .getStatus _ _ | .scoreBatch _ _ _ => none

/-- The calls that write, with their statements. -/
inductive Calls (job : ClaimedJob) : Point → Statement → Prop
  | updateBothJob {mark : Mark} {caller : Caller} :
      Calls job (.updateBoth mark .job caller) (.updateBothJob job.id mark)
  | updateBothImport {mark : Mark} {caller : Caller} :
      Calls job (.updateBoth mark .importRow caller) (.updateBothImport job.importId mark)
  | renewLease {locals : Locals} {rawLine : JsString} :
      Calls job (.renewLease locals rawLine)
        (.renewLease job.id job.workerId LEASE_DURATION_MS)
  | persistBatch {locals : Locals} {input : PersistBatchInput} {last : Bool} :
      Calls job (.persistBatch locals input last) (.persistBatch input)

theorem Calls.jobId {job : ClaimedJob} {point : Point} {jobId : JobId} {mark : Mark}
    (calls : Calls job point (.updateBothJob jobId mark)) : job.id = jobId := by
  cases calls
  rfl

theorem Calls.importId {job : ClaimedJob} {point : Point} {importId : ImportId} {mark : Mark}
    (calls : Calls job point (.updateBothImport importId mark)) : job.importId = importId := by
  cases calls
  rfl

theorem calls_of_statement {job : ClaimedJob} {point : Point} {statement : Statement}
    (writes : point.statement job = some statement) : Calls job point statement := by
  cases point with
  | updateBoth mark stage caller =>
    cases stage <;> cases writes
    · exact .updateBothJob
    · exact .updateBothImport
  | renewLease locals rawLine =>
    cases writes
    exact .renewLease
  | persistBatch locals input last =>
    cases writes
    exact .persistBatch
  | findByImportId | countLines | readLine | getStatus | scoreBatch => cases writes

/-- The transaction of the call has been committed, whatever the caller was told. -/
def Reply.committed : Reply → Bool
  | .ok => true
  | .fail committed _ | .retry committed => committed

/-- The write that is committed when a call ends with a reply. -/
def issued (job : ClaimedJob) (point : Point) (reply : Reply) : Option Statement :=
  if reply.committed then point.statement job else none

/-! ### From one call to the next -/

/-- The code after a flush, in the loop and after it. -/
def afterFlush (now : Nat) (locals : Locals) (last : Bool) : Outcome :=
  if !last then .awaiting (.readLine locals)
  else if locals.wasCancelled then .awaiting (.updateBoth (.cancelled now) .job .loopEnded)
  else .awaiting (.updateBoth (.completed now) .job .loopEnded)

/-- The transactions with their scores, in the same order. -/
def scoredTransactions (scoringBatch : List ScoringInput) (scored : List ScoringOutput) :
    List ScoredTransaction :=
  List.zipWith (fun input output =>
    { transaction := input.transaction, fingerprint := input.fingerprint,
      riskScore := output.score, riskLevel := output.level }) scoringBatch scored

/-- What is handed to `persistBatch`. -/
def persistInput (job : ClaimedJob) (batch : Batch) (scored : List ScoringOutput) :
    PersistBatchInput where
  importId := job.importId
  scored := scoredTransactions batch.pendingScoring scored
  rejected := batch.pendingRejected
  processedDelta := batch.pendingLineCount

/-- The batch is sent off. One that has only rejections is not scored. -/
def flush (job : ClaimedJob) (now : Nat) (locals : Locals) (last : Bool) : Outcome :=
  if locals.pending.isEmpty then afterFlush now locals last
  else
    let batch := locals.pending
    let locals := { locals with pending := Batch.empty }
    if batch.pendingScoring.isEmpty then
      .awaiting (.persistBatch locals (persistInput job batch []) last)
    else .awaiting (.scoreBatch locals batch last)

/-- The body of the loop from the parser on. A blank line skips the check of the batch
size. -/
def accumulate (ports : Ports) (batchSize : Nat) (job : ClaimedJob) (now : Nat)
    (locals : Locals) (rawLine : JsString) : Outcome :=
  match handleLine ports locals.fallbackProvider rawLine locals.lineNumber with
  | .blank => .awaiting (.readLine locals)
  | outcome =>
      let locals := { locals with pending := locals.pending.add outcome }
      if batchSize ≤ locals.pending.size then flush job now locals false
      else .awaiting (.readLine locals)

/-- Every 500 lines the status of the job is read. -/
def checkCancellation (ports : Ports) (batchSize : Nat) (job : ClaimedJob) (now : Nat)
    (locals : Locals) (rawLine : JsString) : Outcome :=
  if locals.lineNumber % CANCELLATION_CHECK_INTERVAL = 0 then .awaiting (.getStatus locals rawLine)
  else accumulate ports batchSize job now locals rawLine

/-- The lease is renewed when the last time was long enough ago. -/
def heartbeat (ports : Ports) (batchSize : Nat) (job : ClaimedJob) (now : Nat)
    (locals : Locals) (rawLine : JsString) : Outcome :=
  if locals.lastHeartbeat + HEARTBEAT_INTERVAL_MS < now then .awaiting (.renewLease locals rawLine)
  else checkCancellation ports batchSize job now locals rawLine

/-- The variables when the loop starts. -/
def initialLocals (ports : Ports) (file : ImportFileLocation) (now : Nat) : Locals where
  fallbackProvider := file.provider.getD []
  rest := ports.readLines file.storagePath
  lineNumber := 0
  wasCancelled := false
  lastHeartbeat := now
  pending := Batch.empty

/-- The code after a call that succeeds. -/
def succeeded (ports : Ports) (batchSize : Nat) (db : Database) (now : Nat) (job : ClaimedJob) :
    Point → Outcome
  | .findByImportId =>
      match ImportFileRepository.findByImportId job.importId db with
      | none =>
          .awaiting (.updateBoth
            (.failed (JsString.ofString "Import file record not found.") now) .job .fileMissing)
      | some file => .awaiting (.countLines file)
  | .countLines file =>
      .awaiting
        (.updateBoth (.processing (ports.countLines file.storagePath) now) .job (.fileFound file))
  | .updateBoth mark .job caller => .awaiting (.updateBoth mark .importRow caller)
  | .updateBoth _ .importRow (.fileFound file) =>
      .awaiting (.readLine (initialLocals ports file now))
  | .updateBoth _ .importRow _ => .resolved
  | .readLine locals =>
      match locals.rest with
      | [] => flush job now locals true
      | rawLine :: rest =>
          let locals := { locals with rest, lineNumber := locals.lineNumber + 1 }
          heartbeat ports batchSize job now locals rawLine
  | .renewLease locals rawLine =>
      checkCancellation ports batchSize job now { locals with lastHeartbeat := now } rawLine
  | .getStatus locals rawLine =>
      if JobRepository.getStatus job.id db = some .CANCELLING then
        flush job now { locals with wasCancelled := true } true
      else accumulate ports batchSize job now locals rawLine
  | .scoreBatch locals batch last =>
      .awaiting (.persistBatch locals
        (persistInput job batch (ports.scoreBatch batch.pendingScoring)) last)
  | .persistBatch locals _ last => afterFlush now locals last

/-- The `catch` block. -/
def caught (now : Nat) : Failure → Outcome
  | .shutdownInterrupted => .rejected .shutdownInterrupted
  | failure => .awaiting (.updateBoth (.failed failure.message now) .job .caught)

/-- The code after a call that fails. Only calls inside the `try` reach the `catch` block. -/
def failed (now : Nat) (failure : Failure) : Point → Outcome
  | .findByImportId | .countLines _ => .rejected failure
  | .updateBoth _ _ .loopEnded => caught now failure
  | .updateBoth _ _ _ => .rejected failure
  | .readLine _ | .renewLease _ _ | .getStatus _ _ | .scoreBatch _ _ _ | .persistBatch _ _ _ =>
      caught now failure

/-- The code from a reply to the next call. -/
def resume (ports : Ports) (batchSize : Nat) (db : Database) (now : Nat) (job : ClaimedJob)
    (point : Point) : Reply → Option Outcome
  | .ok => some (succeeded ports batchSize db now job point)
  | .fail _ failure => some (failed now failure point)
  | .retry _ =>
      match point with
      | .persistBatch _ _ _ => some (.awaiting point)
      | _ => none

end ProcessImportFile

end ImportService
