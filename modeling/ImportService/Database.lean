/-
This file models the PostgreSQL tables the service works on, as keyed tables of rows.

A text column holds a text as the driver sends it, in UTF-8: an unpaired surrogate of a
JavaScript string is stored as U+FFFD, and so keys that differ only in such code units
are one key in the table (`ValidatedTransaction.stored`).

Identifiers are UUIDs of which the code only ever tests equality, so they are natural
numbers here. Times are milliseconds; the application clock and the database clock are
one clock. The generated `id` and `createdAt` of transactions and rejected records and the
table of idempotency keys are left out; `ImportQuery` and `CreateImport` add what they
read of them.
-/

import ImportService.Lib.KeyedTable
import ImportService.ImportStatus
import ImportService.TransactionRecord

namespace ImportService

open KeyedTable JsString

/-- The id of an import. A UUID in the source; only equality is used. -/
abbrev ImportId := Nat

/-- The id of a job. -/
abbrev JobId := Nat

/-- The id of a worker. -/
abbrev WorkerId := Nat

/-! ### Rows -/

/-- A row of `imports`. Times are milliseconds. -/
structure ImportRow where
  id : ImportId
  provider : Option JsString
  status : ImportStatus
  totalRecords : Nat
  processedCount : Nat
  acceptedCount : Nat
  rejectedCount : Nat
  duplicateCount : Nat
  startedAt : Option Nat
  completedAt : Option Nat
  failureReason : Option JsString
  createdAt : Nat
  updatedAt : Nat
  deriving DecidableEq

/-- A row of `import_files`. -/
structure ImportFileRow where
  importId : ImportId
  storagePath : JsString
  createdAt : Nat
  deriving DecidableEq

/-- A row of `processing_jobs`. The lease is both its columns. -/
structure JobRow where
  id : JobId
  importId : ImportId
  status : JobStatus
  attemptCount : Nat
  leasedBy : Option WorkerId
  leasedUntil : Option Nat
  lastError : Option JsString
  createdAt : Nat
  updatedAt : Nat
  deriving DecidableEq

/-- The levels of a score. -/
inductive RiskLevel
  | LOW
  | MEDIUM
  | HIGH
  deriving DecidableEq, Repr

/-- A transaction with its fingerprint and the assessment of the scoring pool. -/
structure ScoredTransaction where
  transaction : ValidatedTransaction
  fingerprint : JsString
  riskScore : Rat
  riskLevel : RiskLevel
  deriving DecidableEq

/-- The code of a rejection, from the parser or from the validator. -/
inductive RejectionCode
  | line (code : LineErrorCode)
  | validation (code : ValidationErrorCode)
  deriving DecidableEq, Repr

/-- What is kept of a rejected line. -/
structure RejectedRecordInput where
  lineNumber : Nat
  errorCode : RejectionCode
  message : JsString
  rawValueTruncated : JsString
  deriving DecidableEq

/-- A row of `transactions`. -/
structure TransactionRow extends ScoredTransaction where
  importId : ImportId
  deriving DecidableEq

/-- A row of `rejected_records`. -/
structure RejectedRecordRow extends RejectedRecordInput where
  importId : ImportId
  deriving DecidableEq

/-- The unique key of the transactions table. -/
abbrev TransactionKey := JsString × JsString

/-- The provider and the id of a transaction, as the validator leaves them. -/
def ValidatedTransaction.key (transaction : ValidatedTransaction) : TransactionKey :=
  (transaction.provider, transaction.transactionId)

/-- The key of a row, by which the table compares it. -/
def TransactionRow.key (row : TransactionRow) : TransactionKey := row.transaction.key

/-- A key as the table compares it. -/
def storedKey (key : TransactionKey) : TransactionKey := (toWellFormed key.1, toWellFormed key.2)

/-- A transaction as the columns hold it. The currency, three letters, stays as it is. -/
def ValidatedTransaction.stored (transaction : ValidatedTransaction) : ValidatedTransaction :=
  { transaction with
    provider := toWellFormed transaction.provider
    transactionId := toWellFormed transaction.transactionId
    accountId := toWellFormed transaction.accountId
    merchantId := toWellFormed transaction.merchantId
    description := transaction.description.map toWellFormed }

@[simp] theorem ValidatedTransaction.key_stored (transaction : ValidatedTransaction) :
    transaction.stored.key = storedKey transaction.key := rfl

/-- A stored text stays as it is when it is stored again. -/
@[simp] theorem ValidatedTransaction.stored_stored (transaction : ValidatedTransaction) :
    transaction.stored.stored = transaction.stored := by
  simp only [ValidatedTransaction.stored, toWellFormed_toWellFormed, Option.map_map,
    Function.comp_def]

@[simp] theorem storedKey_storedKey (key : TransactionKey) :
    storedKey (storedKey key) = storedKey key := by
  rw [storedKey, storedKey, toWellFormed_toWellFormed, toWellFormed_toWellFormed]

/-! ### Tables -/

/-- The tables. -/
structure Database where
  imports : List ImportRow
  importFiles : List ImportFileRow
  jobs : List JobRow
  transactions : List TransactionRow
  rejectedRecords : List RejectedRecordRow

namespace Database

/-- Tables without rows. -/
def empty : Database where
  imports := []
  importFiles := []
  jobs := []
  transactions := []
  rejectedRecords := []

/-- The row of an import. -/
def findImport (db : Database) (importId : ImportId) : Option ImportRow :=
  lookup ImportRow.id db.imports importId

/-- The row of a job. -/
def findJob (db : Database) (jobId : JobId) : Option JobRow := lookup JobRow.id db.jobs jobId

/-- The job of an import, by the unique index on `importId`. -/
def findJobOf (db : Database) (importId : ImportId) : Option JobRow :=
  lookup JobRow.importId db.jobs importId

/-- The transactions an import owns. -/
def transactionsOf (db : Database) (importId : ImportId) : List TransactionRow :=
  db.transactions.filter fun row => row.importId == importId

/-- The rejected records of an import. -/
def rejectedRecordsOf (db : Database) (importId : ImportId) : List RejectedRecordRow :=
  db.rejectedRecords.filter fun row => row.importId == importId

/-- Prisma's `update` and `updateMany` on imports, which also set `updatedAt`. Rows are never
deleted, so the `where: { id }` of an `update` always finds its row. -/
def updateImports (now : Nat) (selects : ImportRow → Bool) (data : ImportRow → ImportRow)
    (db : Database) : Database :=
  { db with
    imports := updateWhere selects (fun row => { data row with updatedAt := now }) db.imports }

/-- An update of the jobs that are selected. It touches `updatedAt`. -/
def updateJobs (now : Nat) (selects : JobRow → Bool) (data : JobRow → JobRow)
    (db : Database) : Database :=
  { db with
    jobs := updateWhere selects (fun row => { data row with updatedAt := now }) db.jobs }

end Database

end ImportService
