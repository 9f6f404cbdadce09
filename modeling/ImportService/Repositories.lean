/-
This file models the writes of the three repositories, each as the change one committed
unit makes to the tables: a single statement, or a transaction, whose statements take
effect together when it commits.

Under READ COMMITTED a transaction's writes hold their row locks until the commit and
are seen by nobody before it, so a transaction is placed at its commit. What it read
without locking is an argument of its write, as other sessions may have changed those
rows since: the status `requestCancellation` read, the jobs a sweep found, and the
imports a sweep passed over because they were not `PROCESSING` yet.
-/

import ImportService.Database

namespace ImportService

open KeyedTable JsString

/-! ### JobRepository -/

/-- What `claimNext` returns of the row. -/
structure ClaimedJob where
  id : JobId
  importId : ImportId
  status : JobStatus
  attemptCount : Nat
  workerId : WorkerId
  deriving DecidableEq

namespace JobRepository

/-- Whole seconds, rounded up and at least one. -/
def leaseSeconds (leaseDurationMs : Nat) : Nat := max 1 ((leaseDurationMs + 999) / 1000)

/-- `now() + leaseSeconds * interval '1 second'` -/
def leaseEnd (leaseDurationMs now : Nat) : Nat := now + leaseSeconds leaseDurationMs * 1000

/-- `"leasedUntil" < now()`, which a `NULL` does not meet. -/
def leaseExpired (now : Nat) (row : JobRow) : Bool := row.leasedUntil.any fun limit => limit < now

/-- `status IN ('CLAIMED', 'PROCESSING')` -/
def isLeasedStatus (status : JobStatus) : Bool := status == .CLAIMED || status == .PROCESSING

/-- The `WHERE` of the subquery of `claimNext`. -/
def isClaimable (now : Nat) (row : JobRow) : Bool :=
  row.status == .PENDING || (isLeasedStatus row.status && leaseExpired now row)

theorem isOpen_of_isLeasedStatus {status : JobStatus} (leased : isLeasedStatus status = true) :
    status.isOpen = true := by
  cases status <;> first | rfl | cases leased

theorem isOpen_of_isClaimable {now : Nat} {row : JobRow} (claimable : isClaimable now row = true) :
    row.status.isOpen = true := by
  rcases Bool.or_eq_true_iff.mp claimable with pending | expired
  · rw [eq_of_beq pending]
    rfl
  · exact isOpen_of_isLeasedStatus (Bool.and_eq_true_iff.mp expired).1

/-- The update of a claim. -/
def claimData (workerId : WorkerId) (leaseDurationMs now : Nat) (row : JobRow) : JobRow :=
  { row with
    status := .CLAIMED
    leasedBy := some workerId
    leasedUntil := some (leaseEnd leaseDurationMs now)
    attemptCount := row.attemptCount + 1 }

/-- The update of `claimNext`, on the job its subquery picked. -/
def claimNext (jobId : JobId) (workerId : WorkerId) (leaseDurationMs now : Nat) :
    Database → Database :=
  Database.updateJobs now (fun row => row.id == jobId) (claimData workerId leaseDurationMs now)

/-- The row `claimNext` returns, read off the row it picked. -/
def claimed (workerId : WorkerId) (row : JobRow) : ClaimedJob where
  id := row.id
  importId := row.importId
  status := .CLAIMED
  attemptCount := row.attemptCount + 1
  workerId := workerId

/-- The `WHERE` of `renewLease`. -/
def isLeasedBy (jobId : JobId) (workerId : WorkerId) (row : JobRow) : Bool :=
  row.id == jobId && row.leasedBy == some workerId

/-- The update of a renewal. -/
def renewData (leaseDurationMs now : Nat) (row : JobRow) : JobRow :=
  { row with leasedUntil := some (leaseEnd leaseDurationMs now) }

/-- The holder of the lease, and nobody else, gets it for another duration. -/
def renewLease (jobId : JobId) (workerId : WorkerId) (leaseDurationMs now : Nat) :
    Database → Database :=
  Database.updateJobs now (isLeasedBy jobId workerId) (renewData leaseDurationMs now)

/-- The status of the job, if it is there. -/
def getStatus (jobId : JobId) (db : Database) : Option JobStatus :=
  (db.findJob jobId).map JobRow.status

/-- The arguments `markProcessing`, `markCompleted`, `markFailed` and `markCancelled` pass to
`updateBoth`. The `new Date()` of the import data is taken when the method is called. -/
inductive Mark
  | processing (totalRecords startedAt : Nat)
  | completed (completedAt : Nat)
  | failed (reason : JsString) (completedAt : Nat)
  | cancelled (completedAt : Nat)
  deriving DecidableEq

/-- The status a mark writes to the import, and under the same name to the job. -/
def Mark.status : Mark → ImportStatus
  | .processing _ _ => .PROCESSING
  | .completed _ => .COMPLETED
  | .failed _ _ => .FAILED
  | .cancelled _ => .CANCELLED

/-- What a mark writes to the job. A reason is stored in UTF-8. -/
def Mark.jobData : Mark → JobRow → JobRow
  | .failed reason _, row =>
      { row with status := .FAILED, lastError := some (toWellFormed reason) }
  | mark, row => { row with status := mark.status.toJob }

/-- What a mark writes to the import. -/
def Mark.importData : Mark → ImportRow → ImportRow
  | .processing totalRecords startedAt, row =>
      { row with status := .PROCESSING, startedAt := some startedAt, totalRecords := totalRecords }
  | .completed completedAt, row =>
      { row with status := .COMPLETED, completedAt := some completedAt }
  | .failed reason completedAt, row =>
      { row with
        status := .FAILED, failureReason := some (toWellFormed reason),
        completedAt := some completedAt }
  | .cancelled completedAt, row =>
      { row with status := .CANCELLED, completedAt := some completedAt }

@[simp] theorem Mark.jobData_status (mark : Mark) (row : JobRow) :
    (mark.jobData row).status = mark.status.toJob := by
  cases mark <;> rfl

@[simp] theorem Mark.importData_status (mark : Mark) (row : ImportRow) :
    (mark.importData row).status = mark.status := by
  cases mark <;> rfl

/-- The first statement of `updateBoth`. It runs on its own, outside any transaction. -/
def updateBothJob (jobId : JobId) (mark : Mark) (now : Nat) : Database → Database :=
  Database.updateJobs now (fun row => row.id == jobId) mark.jobData

/-- The second statement of `updateBoth`. -/
def updateBothImport (importId : ImportId) (mark : Mark) (now : Nat) : Database → Database :=
  Database.updateImports now (fun row => row.id == importId) mark.importData

/-- The `where` of the first statement of `releaseLease`. -/
def isReleasable (jobId : JobId) (workerId : WorkerId) (row : JobRow) : Bool :=
  isLeasedBy jobId workerId row && isLeasedStatus row.status

/-- A job that waits again has no holder. -/
def toPending (row : JobRow) : JobRow :=
  { row with status := .PENDING, leasedBy := none, leasedUntil := none }

/-- The first statement of `releaseLease`. -/
def releaseJob (jobId : JobId) (workerId : WorkerId) (now : Nat) : Database → Database :=
  Database.updateJobs now (isReleasable jobId workerId) toPending

/-- An import that waits again. -/
def toPendingImport (row : ImportRow) : ImportRow := { row with status := .PENDING }

/-- The last statement of `releaseLease`, run when the first one matched a row. -/
def releaseImport (importId : ImportId) (now : Nat) : Database → Database :=
  Database.updateImports now (fun row => row.id == importId && row.status == .PROCESSING)
    toPendingImport

/-- What a sweep selects of an expired job. -/
structure ExpiredJob where
  id : JobId
  importId : ImportId
  attemptCount : Nat
  deriving DecidableEq

/-- What `reclaimExpiredLeases` knows when it starts its transaction: the time it started, and
the jobs its `findMany` returned. -/
structure Sweep where
  startedAt : Nat
  expired : List ExpiredJob
  deriving DecidableEq

/-- The `where` of the `findMany` of a sweep. -/
def isExpired (now : Nat) (row : JobRow) : Bool := isLeasedStatus row.status && leaseExpired now row

/-- The first query of a sweep. -/
def findExpired (now : Nat) (db : Database) : Sweep where
  startedAt := now
  expired := (db.jobs.filter (isExpired now)).map fun row =>
    { id := row.id, importId := row.importId, attemptCount := row.attemptCount }

/-- The jobs that have used up their attempts. -/
def Sweep.toFail (sweep : Sweep) (maxAttempts : Nat) : List ExpiredJob :=
  sweep.expired.filter fun job => maxAttempts ≤ job.attemptCount

/-- The jobs that are put back. -/
def Sweep.toReset (sweep : Sweep) (maxAttempts : Nat) : List ExpiredJob :=
  sweep.expired.filter fun job => job.attemptCount < maxAttempts

theorem Sweep.toFail_subset (sweep : Sweep) (maxAttempts : Nat) :
    sweep.toFail maxAttempts ⊆ sweep.expired := List.filter_sublist.subset

theorem Sweep.toReset_subset (sweep : Sweep) (maxAttempts : Nat) :
    sweep.toReset maxAttempts ⊆ sweep.expired := List.filter_sublist.subset

/-- What a sweep writes to a job and an import it gives up. -/
def failureReason : JsString :=
  JsString.ofString "Abandoned by a crashed worker; exceeded max attempts."

/-- `id: { in: jobs.map((j) => j.id) }` -/
def selectsJob (jobs : List ExpiredJob) (row : JobRow) : Bool :=
  jobs.any fun job => job.id == row.id

/-- `id: { in: jobs.map((j) => j.importId) }` -/
def selectsImport (jobs : List ExpiredJob) (row : ImportRow) : Bool :=
  jobs.any fun job => job.importId == row.id

/-- The update of a job that is given up. -/
def abandonJob (row : JobRow) : JobRow :=
  { row with
    status := .FAILED, leasedBy := none, leasedUntil := none, lastError := some failureReason }

/-- The update of its import. The time is that of the start of the sweep. -/
def abandonImport (startedAt : Nat) (row : ImportRow) : ImportRow :=
  { row with
    status := .FAILED, failureReason := some failureReason, completedAt := some startedAt }

/-- The `where` of the last statement of a sweep. -/
def isResettable (jobs : List ExpiredJob) (passed : List ImportId) (row : ImportRow) : Bool :=
  selectsImport jobs row && row.status == .PROCESSING && !passed.contains row.id

/-- The transaction of `reclaimExpiredLeases`. An empty list selects no row, so the tests for
empty lists are left out. The imports `passed` over turned `PROCESSING` between the last
statement and the commit. -/
def reclaimExpiredLeases (maxAttempts : Nat) (sweep : Sweep) (passed : List ImportId) (now : Nat)
    (db : Database) : Database :=
  let toFail := sweep.toFail maxAttempts
  let toReset := sweep.toReset maxAttempts
  let db := Database.updateJobs now (selectsJob toFail) abandonJob db
  let db := Database.updateImports now (selectsImport toFail) (abandonImport sweep.startedAt) db
  let db := Database.updateJobs now (selectsJob toReset) toPending db
  Database.updateImports now (isResettable toReset passed) toPendingImport db

end JobRepository

/-! ### ImportRepository -/

namespace ImportRepository

/-- The row of a new import: all its counters are zero. -/
def newImport (importId : ImportId) (createdAt now : Nat) : ImportRow where
  id := importId
  provider := none
  status := .PENDING
  totalRecords := 0
  processedCount := 0
  acceptedCount := 0
  rejectedCount := 0
  duplicateCount := 0
  startedAt := none
  completedAt := none
  failureReason := none
  createdAt := createdAt
  updatedAt := now

/-- The row of its job, which nobody has claimed. -/
def newJob (importId : ImportId) (jobId : JobId) (now : Nat) : JobRow where
  id := jobId
  importId := importId
  status := .PENDING
  attemptCount := 0
  leasedBy := none
  leasedUntil := none
  lastError := none
  createdAt := now
  updatedAt := now

/-- The transaction of `createOrReturnExisting` for a new idempotency key. -/
def create (importId : ImportId) (jobId : JobId) (storagePath : JsString) (createdAt now : Nat)
    (db : Database) : Database :=
  { db with
    imports := db.imports ++ [newImport importId createdAt now]
    importFiles := db.importFiles ++ [{ importId, storagePath, createdAt := now }]
    jobs := db.jobs ++ [newJob importId jobId now] }

/-- What `requestCancellation` returns at once for the status it read: a terminal status, or
`CANCELLING` when it is already set. Otherwise it goes on to its writes. -/
def settledAnswer (existing : ImportStatus) : Option ImportStatus :=
  if [ImportStatus.COMPLETED, .FAILED, .CANCELLED].contains existing then some existing
  else if existing == .CANCELLING then some .CANCELLING
  else none

/-- The update of an import that is cancelled. -/
def cancelImport (row : ImportRow) : ImportRow := { row with status := .CANCELLING }

/-- The update of its job. -/
def cancelJob (row : JobRow) : JobRow := { row with status := .CANCELLING }

/-- The two writes of `requestCancellation`. They do not look at the status again. -/
def cancel (importId : ImportId) (now : Nat) (db : Database) : Database :=
  let db := Database.updateImports now (fun row => row.id == importId) cancelImport db
  Database.updateJobs now (fun row => row.importId == importId) cancelJob db

end ImportRepository

/-! ### ImportFileRepository -/

/-- What an execution needs to know of its file. -/
structure ImportFileLocation where
  storagePath : JsString
  provider : Option JsString
  deriving DecidableEq

namespace ImportFileRepository

/-- `orderBy: { createdAt: 'asc' }` and the first row. -/
def earliest : List ImportFileRow → Option ImportFileRow
  | [] => none
  | file :: rest =>
      match earliest rest with
      | none => some file
      | some other => some (if file.createdAt ≤ other.createdAt then file else other)

/-- The earliest file of the import, with its provider. -/
def findByImportId (importId : ImportId) (db : Database) : Option ImportFileLocation := do
  let file ← earliest (db.importFiles.filter fun file => file.importId == importId)
  let row ← db.findImport importId
  some { storagePath := file.storagePath, provider := row.provider }

end ImportFileRepository

/-! ### TransactionRepository -/

/-- A batch with its scores. -/
structure PersistBatchInput where
  importId : ImportId
  scored : List ScoredTransaction
  rejected : List RejectedRecordInput
  processedDelta : Nat
  deriving DecidableEq

/-- What a batch has added. -/
structure BatchPersistResult where
  insertedCount : Nat
  duplicateCount : Nat
  rejectedCount : Nat
  deriving DecidableEq

namespace TransactionRepository

/-- The row of the `VALUES` list for a scored transaction. -/
def transactionRow (importId : ImportId) (scored : ScoredTransaction) : TransactionRow :=
  { scored with transaction := scored.transaction.stored, importId }

/-- The row of `createMany` for a rejection. The value is stored as JSON, which takes it as it is
or refuses it. -/
def rejectedRow (importId : ImportId) (rejected : RejectedRecordInput) : RejectedRecordRow :=
  { rejected with message := toWellFormed rejected.message, importId }

/-- The rows of the `VALUES` list, in batch order. -/
def values (input : PersistBatchInput) : List TransactionRow :=
  input.scored.map (transactionRow input.importId)

/-- The rows `INSERT ... ON CONFLICT (provider, "transactionId") DO NOTHING` inserts, of which
`RETURNING id` returns the ids. -/
def inserted (input : PersistBatchInput) (db : Database) : List TransactionRow :=
  landing TransactionRow.key db.transactions (values input)

/-- The numbers that the transaction returns: what was not inserted is a duplicate. -/
def persistBatchResult (input : PersistBatchInput) (db : Database) : BatchPersistResult :=
  let insertedCount := (inserted input db).length
  { insertedCount, duplicateCount := input.scored.length - insertedCount,
    rejectedCount := input.rejected.length }

/-- The rows of `rejectedRecord.createMany`. -/
def rejections (input : PersistBatchInput) : List RejectedRecordRow :=
  input.rejected.map (rejectedRow input.importId)

/-- The counters of the import after a batch. -/
def countBatch (processedDelta : Nat) (result : BatchPersistResult) (row : ImportRow) :
    ImportRow :=
  { row with
    processedCount := row.processedCount + processedDelta
    acceptedCount := row.acceptedCount + result.insertedCount
    duplicateCount := row.duplicateCount + result.duplicateCount
    rejectedCount := row.rejectedCount + result.rejectedCount }

/-- The transaction of `persistBatch`. -/
def persistBatch (input : PersistBatchInput) (now : Nat) (db : Database) : Database :=
  let result := persistBatchResult input db
  let db := { db with
    transactions := insertMissing TransactionRow.key db.transactions (values input)
    rejectedRecords := db.rejectedRecords ++ rejections input }
  Database.updateImports now (fun row => row.id == input.importId)
    (countBatch input.processedDelta result) db

end TransactionRepository

end ImportService
