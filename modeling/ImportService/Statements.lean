/-
This file gathers the writes of the repositories as one type of statements, each a
unit that commits as a whole, and reads off what a statement does to a single row.

Except for the two inserts, a statement changes every table row by row: `onJob` and
`onImport` are those row functions, and `commit_findJob` and its companions say that
looking a row up after the commit is applying the row function to the row looked up
before it. Everything later about statuses, leases and attempts is a fact about these
functions of one row.
-/

import ImportService.Repositories

namespace ImportService

open KeyedTable JobRepository

/-- The statements that write, with what they are issued with. -/
inductive Statement
  | create (importId : ImportId) (jobId : JobId) (storagePath : JsString) (createdAt : Nat)
  | claimNext (jobId : JobId) (workerId : WorkerId) (leaseDurationMs : Nat)
  | renewLease (jobId : JobId) (workerId : WorkerId) (leaseDurationMs : Nat)
  | updateBothJob (jobId : JobId) (mark : Mark)
  | updateBothImport (importId : ImportId) (mark : Mark)
  | releaseJob (jobId : JobId) (workerId : WorkerId)
  | releaseImport (importId : ImportId)
  | reclaim (maxAttempts : Nat) (sweep : Sweep) (passed : List ImportId)
  | cancel (importId : ImportId)
  | persistBatch (input : PersistBatchInput)

namespace Statement

/-- The tables after a statement commits at a time. -/
def commit (now : Nat) : Statement → Database → Database
  | .create importId jobId storagePath createdAt =>
      ImportRepository.create importId jobId storagePath createdAt now
  | .claimNext jobId workerId leaseDurationMs =>
      JobRepository.claimNext jobId workerId leaseDurationMs now
  | .renewLease jobId workerId leaseDurationMs =>
      JobRepository.renewLease jobId workerId leaseDurationMs now
  | .updateBothJob jobId mark => JobRepository.updateBothJob jobId mark now
  | .updateBothImport importId mark => JobRepository.updateBothImport importId mark now
  | .releaseJob jobId workerId => JobRepository.releaseJob jobId workerId now
  | .releaseImport importId => JobRepository.releaseImport importId now
  | .reclaim maxAttempts sweep passed =>
      JobRepository.reclaimExpiredLeases maxAttempts sweep passed now
  | .cancel importId => ImportRepository.cancel importId now
  | .persistBatch input => TransactionRepository.persistBatch input now

/-! ### The effect on one row -/

/-- An update of one job row. -/
def setJob (now : Nat) (selects : JobRow → Bool) (data : JobRow → JobRow) : JobRow → JobRow :=
  updateRow selects fun row => { data row with updatedAt := now }

/-- An update of one import row. -/
def setImport (now : Nat) (selects : ImportRow → Bool) (data : ImportRow → ImportRow) :
    ImportRow → ImportRow :=
  updateRow selects fun row => { data row with updatedAt := now }

/-- A field other than `updatedAt` of a job row after an update. -/
theorem setJob_field {Value : Type} (field : JobRow → Value)
    (ignoresTime : ∀ row time, field { row with updatedAt := time } = field row) (now : Nat)
    (selects : JobRow → Bool) (data : JobRow → JobRow) (row : JobRow) :
    field (setJob now selects data row) = if selects row then field (data row) else field row := by
  unfold setJob updateRow
  split
  · exact ignoresTime (data row) now
  · rfl

/-- A field other than `updatedAt` of an import row after an update. -/
theorem setImport_field {Value : Type} (field : ImportRow → Value)
    (ignoresTime : ∀ row time, field { row with updatedAt := time } = field row) (now : Nat)
    (selects : ImportRow → Bool) (data : ImportRow → ImportRow) (row : ImportRow) :
    field (setImport now selects data row) =
      if selects row then field (data row) else field row := by
  unfold setImport updateRow
  split
  · exact ignoresTime (data row) now
  · rfl

theorem setJob_of_not_selected (now : Nat) {selects : JobRow → Bool} (data : JobRow → JobRow)
    {row : JobRow} (notSelected : selects row = false) : setJob now selects data row = row := by
  rw [setJob, updateRow, notSelected]
  rfl

theorem setImport_of_not_selected (now : Nat) {selects : ImportRow → Bool}
    (data : ImportRow → ImportRow) {row : ImportRow} (notSelected : selects row = false) :
    setImport now selects data row = row := by
  rw [setImport, updateRow, notSelected]
  rfl

theorem setJob_of_id_ne (now : Nat) (data : JobRow → JobRow) {row : JobRow} {jobId : JobId}
    (other : row.id ≠ jobId) : setJob now (fun row => row.id == jobId) data row = row :=
  setJob_of_not_selected now data (beq_eq_false_iff_ne.mpr other)

theorem setJob_of_importId_ne (now : Nat) (data : JobRow → JobRow) {row : JobRow}
    {importId : ImportId} (other : row.importId ≠ importId) :
    setJob now (fun row => row.importId == importId) data row = row :=
  setJob_of_not_selected now data (beq_eq_false_iff_ne.mpr other)

theorem setImport_of_id_ne (now : Nat) (data : ImportRow → ImportRow) {row : ImportRow}
    {importId : ImportId} (other : row.id ≠ importId) :
    setImport now (fun row => row.id == importId) data row = row :=
  setImport_of_not_selected now data (beq_eq_false_iff_ne.mpr other)

@[simp] theorem setJob_status (now : Nat) (selects : JobRow → Bool) (data : JobRow → JobRow)
    (row : JobRow) :
    (setJob now selects data row).status =
      if selects row then (data row).status else row.status :=
  setJob_field JobRow.status (fun _ _ => rfl) now selects data row

@[simp] theorem setImport_status (now : Nat) (selects : ImportRow → Bool)
    (data : ImportRow → ImportRow) (row : ImportRow) :
    (setImport now selects data row).status =
      if selects row then (data row).status else row.status :=
  setImport_field ImportRow.status (fun _ _ => rfl) now selects data row

/-- What a statement does to a job row. -/
def onJob (now : Nat) : Statement → JobRow → JobRow
  | .claimNext jobId workerId leaseDurationMs =>
      setJob now (fun row => row.id == jobId) (claimData workerId leaseDurationMs now)
  | .renewLease jobId workerId leaseDurationMs =>
      setJob now (isLeasedBy jobId workerId) (renewData leaseDurationMs now)
  | .updateBothJob jobId mark => setJob now (fun row => row.id == jobId) mark.jobData
  | .releaseJob jobId workerId => setJob now (isReleasable jobId workerId) toPending
  | .reclaim maxAttempts sweep _ => fun row =>
      setJob now (selectsJob (sweep.toReset maxAttempts)) toPending
        (setJob now (selectsJob (sweep.toFail maxAttempts)) abandonJob row)
  | .cancel importId =>
      setJob now (fun row => row.importId == importId) ImportRepository.cancelJob
  | .create _ _ _ _ | .updateBothImport _ _ | .releaseImport _ | .persistBatch _ => id

/-- What a statement does to an import row. The counts of a batch depend on the rows already
stored. -/
def onImport (now : Nat) (db : Database) : Statement → ImportRow → ImportRow
  | .updateBothImport importId mark => setImport now (fun row => row.id == importId) mark.importData
  | .releaseImport importId =>
      setImport now (fun row => row.id == importId && row.status == .PROCESSING) toPendingImport
  | .reclaim maxAttempts sweep passed => fun row =>
      setImport now (isResettable (sweep.toReset maxAttempts) passed) toPendingImport
        (setImport now (selectsImport (sweep.toFail maxAttempts)) (abandonImport sweep.startedAt)
          row)
  | .cancel importId =>
      setImport now (fun row => row.id == importId) ImportRepository.cancelImport
  | .persistBatch input =>
      setImport now (fun row => row.id == input.importId)
        (TransactionRepository.countBatch input.processedDelta
          (TransactionRepository.persistBatchResult input db))
  | .create _ _ _ _ | .claimNext _ _ _ | .renewLease _ _ _ | .updateBothJob _ _
  | .releaseJob _ _ => id

/-- The job rows a statement adds. -/
def newJobs (now : Nat) : Statement → List JobRow
  | .create importId jobId _ _ => [ImportRepository.newJob importId jobId now]
  | _ => []

/-- The import rows a statement adds. -/
def newImports (now : Nat) : Statement → List ImportRow
  | .create importId _ _ createdAt => [ImportRepository.newImport importId createdAt now]
  | _ => []

theorem selectsImport_iff {jobs : List ExpiredJob} {row : ImportRow} :
    selectsImport jobs row = true ↔ ∃ job ∈ jobs, job.importId = row.id := by
  simp [selectsImport]

theorem selectsJob_iff {jobs : List ExpiredJob} {row : JobRow} :
    selectsJob jobs row = true ↔ ∃ job ∈ jobs, job.id = row.id := by
  simp [selectsJob]

theorem isResettable_eq_false (jobs : List ExpiredJob) (passed : List ImportId) {row : ImportRow}
    (notProcessing : row.status ≠ .PROCESSING) : isResettable jobs passed row = false := by
  simp [isResettable, notProcessing]

/-- The guarded write of a sweep passes an import over that is not processing, so the sweep
only acts on it by failing it. -/
theorem onImport_reclaim (now : Nat) (db : Database) (maxAttempts : Nat) (sweep : Sweep)
    (passed : List ImportId) {row : ImportRow} (notProcessing : row.status ≠ .PROCESSING) :
    (reclaim maxAttempts sweep passed).onImport now db row =
      setImport now (selectsImport (sweep.toFail maxAttempts)) (abandonImport sweep.startedAt)
        row := by
  refine setImport_of_not_selected now toPendingImport (isResettable_eq_false _ passed ?_)
  rw [setImport_status]
  split
  · exact ImportStatus.noConfusion
  · exact notProcessing

theorem commit_jobs (now : Nat) (statement : Statement) (db : Database) :
    (statement.commit now db).jobs =
      db.jobs.map (statement.onJob now) ++ statement.newJobs now := by
  cases statement with
  | reclaim maxAttempts sweep passed =>
    show updateWhere _ _ (updateWhere _ _ db.jobs) = _ ++ []
    rw [updateWhere, updateWhere, List.map_map, List.append_nil]
    rfl
  | create | updateBothImport | releaseImport | persistBatch =>
    show _ = db.jobs.map id ++ _
    rw [List.map_id]
    first | rfl | exact (List.append_nil _).symm
  | claimNext | renewLease | updateBothJob | releaseJob | cancel => exact (List.append_nil _).symm

theorem commit_imports (now : Nat) (statement : Statement) (db : Database) :
    (statement.commit now db).imports =
      db.imports.map (statement.onImport now db) ++ statement.newImports now := by
  cases statement with
  | reclaim maxAttempts sweep passed =>
    show updateWhere _ _ (updateWhere _ _ db.imports) = _ ++ []
    rw [updateWhere, updateWhere, List.map_map, List.append_nil]
    rfl
  | create | claimNext | renewLease | updateBothJob | releaseJob =>
    show _ = db.imports.map id ++ _
    rw [List.map_id]
    first | rfl | exact (List.append_nil _).symm
  | updateBothImport | releaseImport | cancel | persistBatch => exact (List.append_nil _).symm

/-- The transaction rows a statement adds. -/
def newTransactions (db : Database) : Statement → List TransactionRow
  | .persistBatch input => TransactionRepository.inserted input db
  | _ => []

/-- The rejected-record rows a statement adds. -/
def newRejections : Statement → List RejectedRecordRow
  | .persistBatch input => TransactionRepository.rejections input
  | _ => []

/-- The file rows a statement adds. -/
def newImportFiles (now : Nat) : Statement → List ImportFileRow
  | .create importId _ storagePath _ => [{ importId, storagePath, createdAt := now }]
  | _ => []

theorem commit_transactions (now : Nat) (statement : Statement) (db : Database) :
    (statement.commit now db).transactions = db.transactions ++ statement.newTransactions db := by
  cases statement <;> first | rfl | exact (List.append_nil _).symm

theorem commit_rejectedRecords (now : Nat) (statement : Statement) (db : Database) :
    (statement.commit now db).rejectedRecords = db.rejectedRecords ++ statement.newRejections := by
  cases statement <;> first | rfl | exact (List.append_nil _).symm

theorem commit_importFiles (now : Nat) (statement : Statement) (db : Database) :
    (statement.commit now db).importFiles = db.importFiles ++ statement.newImportFiles now := by
  cases statement <;> first | rfl | exact (List.append_nil _).symm

/-- A batch stores its rows under its own import. -/
theorem importId_of_inserted {input : PersistBatchInput} {db : Database} {row : TransactionRow}
    (member : row ∈ TransactionRepository.inserted input db) : row.importId = input.importId := by
  obtain ⟨scored, _, rfl⟩ := List.mem_map.mp
    ((landing_sublist TransactionRow.key db.transactions
      (TransactionRepository.values input)).subset member)
  rfl

theorem importId_of_rejections {input : PersistBatchInput} {row : RejectedRecordRow}
    (member : row ∈ TransactionRepository.rejections input) : row.importId = input.importId := by
  obtain ⟨rejected, _, rfl⟩ := List.mem_map.mp member
  rfl

/-! ### What no statement changes -/

theorem setJob_keeps {Value : Type} (field : JobRow → Value) (now : Nat)
    (selects : JobRow → Bool) (data : JobRow → JobRow)
    (keeps : ∀ row, field { data row with updatedAt := now } = field row) (row : JobRow) :
    field (setJob now selects data row) = field row :=
  updateRow_key field keeps row

theorem setImport_keeps {Value : Type} (field : ImportRow → Value) (now : Nat)
    (selects : ImportRow → Bool) (data : ImportRow → ImportRow)
    (keeps : ∀ row, field { data row with updatedAt := now } = field row) (row : ImportRow) :
    field (setImport now selects data row) = field row :=
  updateRow_key field keeps row

/-- The failing half of a sweep changes no id, so its resetting half finds the same jobs. -/
theorem selectsJob_abandonJob (jobs failed : List ExpiredJob) (now : Nat) (row : JobRow) :
    selectsJob jobs (setJob now (selectsJob failed) abandonJob row) = selectsJob jobs row :=
  setJob_keeps (selectsJob jobs) now (selectsJob failed) abandonJob (fun _ => rfl) row

/-- A sweep leaves a job alone that it neither fails nor resets. -/
theorem onJob_reclaim_of_not_selected (now maxAttempts : Nat) {sweep : Sweep}
    (passed : List ImportId) {row : JobRow}
    (notFailed : selectsJob (sweep.toFail maxAttempts) row = false)
    (notReset : selectsJob (sweep.toReset maxAttempts) row = false) :
    (reclaim maxAttempts sweep passed).onJob now row = row := by
  simp only [onJob]
  rw [setJob_of_not_selected now abandonJob notFailed,
    setJob_of_not_selected now toPending notReset]

theorem onImport_reclaim_of_not_selected (now : Nat) (db : Database) (maxAttempts : Nat)
    {sweep : Sweep} (passed : List ImportId) {row : ImportRow}
    (notFailed : selectsImport (sweep.toFail maxAttempts) row = false)
    (notReset : selectsImport (sweep.toReset maxAttempts) row = false) :
    (reclaim maxAttempts sweep passed).onImport now db row = row := by
  simp only [onImport]
  rw [setImport_of_not_selected now (abandonImport sweep.startedAt) notFailed,
    setImport_of_not_selected now toPendingImport (by rw [isResettable, notReset]; rfl)]

/-- No statement rewrites the ids of a job. -/
theorem onJob_ids (now : Nat) (statement : Statement) (row : JobRow) :
    ((statement.onJob now row).id, (statement.onJob now row).importId) =
      (row.id, row.importId) := by
  have kept (selects : JobRow → Bool) (data : JobRow → JobRow)
      (keeps : ∀ row, ((data row).id, (data row).importId) = (row.id, row.importId))
      (row : JobRow) :
      ((setJob now selects data row).id, (setJob now selects data row).importId) =
        (row.id, row.importId) :=
    setJob_keeps (fun row => (row.id, row.importId)) now selects data keeps row
  cases statement with
  | claimNext jobId workerId duration =>
    exact kept _ (claimData workerId duration now) (fun _ => rfl) row
  | renewLease jobId workerId duration => exact kept _ (renewData duration now) (fun _ => rfl) row
  | updateBothJob jobId mark => exact kept _ mark.jobData (fun row => by cases mark <;> rfl) row
  | releaseJob jobId workerId => exact kept _ toPending (fun _ => rfl) row
  | reclaim maxAttempts sweep passed =>
    exact (kept _ toPending (fun _ => rfl) _).trans (kept _ abandonJob (fun _ => rfl) row)
  | cancel importId => exact kept _ ImportRepository.cancelJob (fun _ => rfl) row
  | create | updateBothImport | releaseImport | persistBatch => rfl

theorem onJob_id (now : Nat) (statement : Statement) (row : JobRow) :
    (statement.onJob now row).id = row.id :=
  congrArg Prod.fst (onJob_ids now statement row)

theorem onJob_importId (now : Nat) (statement : Statement) (row : JobRow) :
    (statement.onJob now row).importId = row.importId :=
  congrArg Prod.snd (onJob_ids now statement row)

/-- No statement rewrites the id or the provider of an import. -/
theorem onImport_id_provider (now : Nat) (db : Database) (statement : Statement)
    (row : ImportRow) :
    ((statement.onImport now db row).id, (statement.onImport now db row).provider) =
      (row.id, row.provider) := by
  have kept (selects : ImportRow → Bool) (data : ImportRow → ImportRow)
      (keeps : ∀ row, ((data row).id, (data row).provider) = (row.id, row.provider))
      (row : ImportRow) :
      ((setImport now selects data row).id, (setImport now selects data row).provider) =
        (row.id, row.provider) :=
    setImport_keeps (fun row => (row.id, row.provider)) now selects data keeps row
  cases statement with
  | updateBothImport importId mark =>
    exact kept _ mark.importData (fun row => by cases mark <;> rfl) row
  | releaseImport importId => exact kept _ toPendingImport (fun _ => rfl) row
  | reclaim maxAttempts sweep passed =>
    exact (kept _ toPendingImport (fun _ => rfl) _).trans
      (kept _ (abandonImport sweep.startedAt) (fun _ => rfl) row)
  | cancel importId => exact kept _ ImportRepository.cancelImport (fun _ => rfl) row
  | persistBatch input =>
    exact kept _ (TransactionRepository.countBatch input.processedDelta
      (TransactionRepository.persistBatchResult input db)) (fun _ => rfl) row
  | create | claimNext | renewLease | updateBothJob | releaseJob => rfl

theorem onImport_id (now : Nat) (db : Database) (statement : Statement) (row : ImportRow) :
    (statement.onImport now db row).id = row.id :=
  congrArg Prod.fst (onImport_id_provider now db statement row)

/-! ### Looking rows up after a commit -/

theorem commit_findJob {db : Database} {jobId : JobId} {row : JobRow} (now : Nat)
    (statement : Statement) (found : db.findJob jobId = some row) :
    (statement.commit now db).findJob jobId = some (statement.onJob now row) := by
  rw [Database.findJob] at found ⊢
  rw [commit_jobs, lookup_append, lookup_map _ _ (onJob_id now statement), found]
  rfl

theorem commit_findJobOf {db : Database} {importId : ImportId} {row : JobRow} (now : Nat)
    (statement : Statement) (found : db.findJobOf importId = some row) :
    (statement.commit now db).findJobOf importId = some (statement.onJob now row) := by
  rw [Database.findJobOf] at found ⊢
  rw [commit_jobs, lookup_append, lookup_map _ _ (onJob_importId now statement), found]
  rfl

theorem commit_findImport {db : Database} {importId : ImportId} {row : ImportRow} (now : Nat)
    (statement : Statement) (found : db.findImport importId = some row) :
    (statement.commit now db).findImport importId = some (statement.onImport now db row) := by
  rw [Database.findImport] at found ⊢
  rw [commit_imports, lookup_append, lookup_map _ _ (onImport_id now db statement), found]
  rfl

/-- The job of an import found after a commit was there before it or is new. -/
theorem findJobOf_commit {db : Database} {importId : ImportId} {row : JobRow} {now : Nat}
    {statement : Statement}
    (found : (statement.commit now db).findJobOf importId = some row) :
    (∃ old, db.findJobOf importId = some old ∧ row = statement.onJob now old) ∨
      row ∈ statement.newJobs now := by
  rw [Database.findJobOf, commit_jobs, lookup_append,
    lookup_map _ _ (onJob_importId now statement)] at found
  cases before : db.findJobOf importId with
  | none =>
    rw [Database.findJobOf] at before
    rw [before] at found
    exact Or.inr (lookup_mem JobRow.importId found)
  | some old =>
    rw [Database.findJobOf] at before
    rw [before] at found
    exact Or.inl ⟨old, rfl, (Option.some.inj found).symm⟩

/-- A job found after a commit was there before it or is new. -/
theorem findJob_commit {db : Database} {jobId : JobId} {row : JobRow} {now : Nat}
    {statement : Statement} (found : (statement.commit now db).findJob jobId = some row) :
    (∃ old, db.findJob jobId = some old ∧ row = statement.onJob now old) ∨
      row ∈ statement.newJobs now := by
  rw [Database.findJob, commit_jobs, lookup_append, lookup_map _ _ (onJob_id now statement)]
    at found
  cases before : db.findJob jobId with
  | none =>
    rw [Database.findJob] at before
    rw [before] at found
    exact Or.inr (lookup_mem JobRow.id found)
  | some old =>
    rw [Database.findJob] at before
    rw [before] at found
    exact Or.inl ⟨old, rfl, (Option.some.inj found).symm⟩

/-- An import found after a commit was there before it or is new. -/
theorem findImport_commit {db : Database} {importId : ImportId} {row : ImportRow} {now : Nat}
    {statement : Statement}
    (found : (statement.commit now db).findImport importId = some row) :
    (∃ old, db.findImport importId = some old ∧ row = statement.onImport now db old) ∨
      db.findImport importId = none ∧ row ∈ statement.newImports now := by
  rw [Database.findImport, commit_imports, lookup_append,
    lookup_map _ _ (onImport_id now db statement)] at found
  cases before : db.findImport importId with
  | none =>
    rw [Database.findImport] at before
    rw [before] at found
    exact Or.inr ⟨rfl, lookup_mem ImportRow.id found⟩
  | some old =>
    rw [Database.findImport] at before
    rw [before] at found
    exact Or.inl ⟨old, rfl, (Option.some.inj found).symm⟩

end Statement

end ImportService
