/-
This file asks whether an accepted cancellation lasts: once `requestCancellation` has
returned `CANCELLING`, neither the import nor its job should be `PENDING`, `CLAIMED` or
`PROCESSING` again. The claim query and the release look at the status and pass a
cancelled job over. `markProcessing` and the sweep do not, and they are all that can go
wrong (`cancellation_kept_iff`): a single worker that marks a job cancelled during the
scan of its file undoes the cancellation (`cancelled_then_processing`).
-/

import ImportService.Integrity

namespace ImportService

open JobRepository ProcessImportFile JobPollerService

/-! ### The statements that reopen a row -/

theorem Mark.isOpen_iff (mark : Mark) :
    mark.status.toJob.isOpen = true ↔ mark.status = .PROCESSING := by
  cases mark <;> simp [Mark.status, ImportStatus.toJob, JobStatus.isOpen]

theorem Mark.import_isOpen_iff (mark : Mark) :
    mark.status.isOpen = true ↔ mark.status = .PROCESSING := by
  cases mark <;> simp [Mark.status, ImportStatus.isOpen]

namespace Statement

/-- The statement makes a closed job row open. -/
def ReopensJob (row : JobRow) : Statement → Prop
  | .updateBothJob jobId mark => jobId = row.id ∧ mark.status = .PROCESSING
  | .reclaim maxAttempts sweep _ => ∃ job ∈ sweep.toReset maxAttempts, job.id = row.id
  | .create _ _ _ _ | .claimNext _ _ _ | .renewLease _ _ _ | .updateBothImport _ _
  | .releaseJob _ _ | .releaseImport _ | .cancel _ | .persistBatch _ => False

/-- The statement makes a closed import row open. -/
def ReopensImport (importId : ImportId) : Statement → Prop
  | .updateBothImport selected mark => selected = importId ∧ mark.status = .PROCESSING
  | .create _ _ _ _ | .claimNext _ _ _ | .renewLease _ _ _ | .updateBothJob _ _
  | .releaseJob _ _ | .releaseImport _ | .reclaim _ _ _ | .cancel _ | .persistBatch _ => False

theorem isReleasable_eq_false (jobId : JobId) (workerId : WorkerId) {row : JobRow}
    (closed : row.status.isOpen = false) : isReleasable jobId workerId row = false := by
  have notLeased : isLeasedStatus row.status = false := by
    cases status : row.status <;> rw [status] at closed <;> first | rfl | cases closed
  rw [isReleasable, notLeased, Bool.and_false]

/-- A closed job is opened by these statements and by no other, as a claim never picks it. -/
theorem onJob_isOpen_iff (now : Nat) (statement : Statement) {row : JobRow}
    (closed : row.status.isOpen = false)
    (notClaimed : ∀ jobId workerId duration, statement = .claimNext jobId workerId duration →
      row.id ≠ jobId) :
    (statement.onJob now row).status.isOpen = true ↔ statement.ReopensJob row := by
  cases statement with
  | claimNext jobId workerId duration =>
    have other := notClaimed jobId workerId duration rfl
    simp [onJob, ReopensJob, other, closed]
  | renewLease jobId workerId duration => simp [onJob, ReopensJob, renewData, closed]
  | updateBothJob jobId mark =>
    simp only [onJob, setJob_status, ReopensJob, Mark.jobData_status, beq_iff_eq]
    by_cases selected : row.id = jobId
    · simp [selected, Mark.isOpen_iff]
    · simp [selected, Ne.symm selected, closed]
  | releaseJob jobId workerId =>
    simp [onJob, ReopensJob, isReleasable_eq_false jobId workerId closed, closed]
  | reclaim maxAttempts sweep passed =>
    have failedClosed :
        (setJob now (selectsJob (sweep.toFail maxAttempts)) abandonJob row).status.isOpen =
          false := by
      rw [setJob_status]
      split
      · rfl
      · exact closed
    simp only [onJob, ReopensJob]
    rw [setJob_status, selectsJob_abandonJob, ← selectsJob_iff]
    split
    · rename_i selected
      exact ⟨fun _ => selected, fun _ => rfl⟩
    · rename_i notSelected
      rw [failedClosed]
      exact ⟨fun isOpen => absurd isOpen Bool.false_ne_true,
        fun selected => absurd selected notSelected⟩
  | cancel importId =>
    simp only [onJob, setJob_status, ReopensJob, ImportRepository.cancelJob]
    split
    · simp [JobStatus.isOpen]
    · simp [closed]
  | create | updateBothImport | releaseImport | persistBatch => simp [onJob, ReopensJob, closed]

/-- A closed import is opened by `markProcessing` alone. -/
theorem onImport_isOpen_iff (now : Nat) (db : Database) (statement : Statement)
    {row : ImportRow} (closed : row.status.isOpen = false) :
    (statement.onImport now db row).status.isOpen = true ↔ statement.ReopensImport row.id := by
  have notProcessing : row.status ≠ .PROCESSING := by
    intro processing
    rw [processing] at closed
    cases closed
  cases statement with
  | updateBothImport importId mark =>
    simp only [onImport, setImport_status, ReopensImport, Mark.importData_status, beq_iff_eq]
    by_cases selected : row.id = importId
    · simp [selected, Mark.import_isOpen_iff]
    · simp [selected, Ne.symm selected, closed]
  | releaseImport importId => simp [onImport, ReopensImport, notProcessing, closed]
  | reclaim maxAttempts sweep passed =>
    rw [onImport_reclaim now db maxAttempts sweep passed notProcessing, setImport_status]
    split
    · simp [abandonImport, ImportStatus.isOpen, ReopensImport]
    · simp [closed, ReopensImport]
  | cancel importId =>
    simp only [onImport, setImport_status, ReopensImport, ImportRepository.cancelImport]
    split
    · simp [ImportStatus.isOpen]
    · simp [closed]
  | persistBatch input =>
    simp [onImport, ReopensImport, TransactionRepository.countBatch, closed]
  | create | claimNext | renewLease | updateBothJob | releaseJob =>
    simp [onImport, ReopensImport, closed]

end Statement

/-! ### Runs -/

namespace System

/-- A call of `requestCancellation` for the import has returned `CANCELLING`. -/
def Accepted (state : State) (importId : ImportId) : Prop :=
  ∃ requestId, state.requests requestId = .returned importId .CANCELLING

/-- The import and its job are cancelling or at an end. -/
def Closed (db : Database) (importId : ImportId) : Prop :=
  (∀ row, db.findImport importId = some row → row.status.isOpen = false) ∧
    ∀ row, db.findJobOf importId = some row → row.status.isOpen = false

/-- Every import whose cancellation was accepted is closed. -/
def CancellationsKept (state : State) : Prop :=
  ∀ importId, Accepted state importId → Closed state.db importId

/-- The step commits no statement that reopens a cancelled import or its job, and no request
answers that an import is cancelling while its job is open. -/
def ReopensNothing (ports : Ports) (config : Config) (state : State) (action : Action)
    (_ : State) : Prop :=
  (∀ importId statement, Accepted state importId →
    emitted ports config state action = some statement →
      ¬ statement.ReopensImport importId ∧
        ∀ row, state.db.findJobOf importId = some row → ¬ statement.ReopensJob row) ∧
  ∀ requestId importId, action = .requestCancellation requestId importId →
    afterRead importId state.db = .returned importId .CANCELLING → Closed state.db importId

section

variable {ports : Ports} {config : Config} {state next : State} {action : Action}

theorem accepted_step (enabled : step ports config state action = some next)
    {importId : ImportId} (accepted : Accepted state importId) : Accepted next importId := by
  obtain ⟨requestId, returned⟩ := accepted
  refine ⟨requestId, ?_⟩
  rcases step_request enabled requestId with
    same | ⟨_, _, unsent, _⟩ | ⟨_, _, _, writing, _⟩
  · exact same.trans returned
  · cases unsent.symm.trans returned
  · cases writing.symm.trans returned

theorem Accepted.findImport (coherent : Coherent ports state) {importId : ImportId}
    (accepted : Accepted state importId) : ∃ row, state.db.findImport importId = some row := by
  obtain ⟨requestId, returned⟩ := accepted
  have holds := coherent.requests requestId
  rw [returned] at holds
  exact Option.isSome_iff_exists.mp holds

/-- A step creates neither the import of an accepted cancellation nor its job. -/
theorem not_created (coherent : Coherent ports state) {importId : ImportId}
    (accepted : Accepted state importId) {jobId : JobId} {storagePath : JsString}
    {createdAt : Nat} :
    emitted ports config state action ≠
      some (.create importId jobId storagePath createdAt) := by
  intro emits
  obtain ⟨row, found⟩ := accepted.findImport coherent
  have fresh := (Statement.isFresh_iff.mp (emitted_admissible coherent emits)).1
  rw [found] at fresh
  cases fresh

theorem not_claimed (coherent : Coherent ports state) {importId : ImportId} {row : JobRow}
    (found : state.db.findJobOf importId = some row) (closed : row.status.isOpen = false)
    {statement : Statement} (emits : emitted ports config state action = some statement)
    (jobId : JobId) (workerId : WorkerId) (duration : Nat)
    (claims : statement = .claimNext jobId workerId duration) : row.id ≠ jobId := by
  subst claims
  rintro rfl
  have same := coherent.wellFormed.findJob_of_findJobOf found
  cases emitted_origin emits with
  | claimNext polling picked claimable =>
    rw [same] at picked
    cases picked
    rw [isOpen_of_isClaimable claimable] at closed
    cases closed
  | execute executing calls => cases calls

/-- The rows of an import whose cancellation was accepted stay closed in a step exactly when
the step does not reopen them. -/
theorem closed_step_iff (coherent : Coherent ports state)
    (enabled : step ports config state action = some next) {importId : ImportId}
    (accepted : Accepted state importId) (closed : Closed state.db importId) :
    Closed next.db importId ↔
      ∀ statement, emitted ports config state action = some statement →
        ¬ statement.ReopensImport importId ∧
          ∀ row, state.db.findJobOf importId = some row → ¬ statement.ReopensJob row := by
  constructor
  · intro after statement emits
    constructor
    · obtain ⟨row, found⟩ := accepted.findImport coherent
      have rowId : row.id = importId := KeyedTable.lookup_key ImportRow.id found
      have stays := after.1 _ (step_findImport enabled found)
      rw [emits, onImport] at stays
      rw [← rowId, ← Statement.onImport_isOpen_iff state.now state.db statement
        (closed.1 row found), stays]
      exact Bool.false_ne_true
    · intro row found
      have stays := after.2 _ (step_findJobOf enabled found)
      rw [emits, onJob] at stays
      rw [← Statement.onJob_isOpen_iff state.now statement (closed.2 row found)
        (not_claimed coherent found (closed.2 row found) emits), stays]
      exact Bool.false_ne_true
  · intro reopensNot
    constructor
    · intro row found
      rcases findImport_step enabled found with ⟨old, foundOld, rfl⟩ | ⟨_, _, _, creates, _⟩
      · have rowId : old.id = importId := KeyedTable.lookup_key ImportRow.id foundOld
        cases emits : emitted ports config state action with
        | none => exact closed.1 old foundOld
        | some statement =>
          rw [onImport, ← Bool.not_eq_true, Statement.onImport_isOpen_iff state.now state.db
            statement (closed.1 old foundOld), rowId]
          exact (reopensNot statement emits).1
      · exact absurd creates (not_created coherent accepted)
    · intro row found
      rcases findJobOf_step enabled found with ⟨old, foundOld, rfl⟩ | ⟨_, _, _, creates, _⟩
      · cases emits : emitted ports config state action with
        | none => exact closed.2 old foundOld
        | some statement =>
          rw [onJob, ← Bool.not_eq_true, Statement.onJob_isOpen_iff state.now statement
            (closed.2 old foundOld) (not_claimed coherent foundOld (closed.2 old foundOld) emits)]
          exact (reopensNot statement emits).2 old foundOld
      · exact absurd creates (not_created coherent accepted)

theorem afterRead_importId {importId other : ImportId} {db : Database} {status : ImportStatus}
    (answers : afterRead importId db = .returned other status) : importId = other := by
  unfold afterRead at answers
  split at answers
  · cases answers
  · split at answers <;> cases answers
    rfl

/-- A read changes no row and leaves the request with its answer. -/
theorem step_requestCancellation {requestId : RequestId} {importId : ImportId}
    (enabled : step ports config state (.requestCancellation requestId importId) = some next) :
    next.db = state.db ∧ next.requests requestId = afterRead importId state.db := by
  obtain ⟨effect, acts, rfl⟩ := step_eq_some enabled
  rw [act] at acts
  split at acts <;> cases acts
  exact ⟨rfl, Function.update_self _ _ _⟩

/-- The writes of `requestCancellation` close the import and its job. -/
theorem closed_of_cancel (enabled : step ports config state action = some next)
    {importId : ImportId} (emits : emitted ports config state action = some (.cancel importId)) :
    Closed next.db importId := by
  constructor
  · intro row found
    rcases findImport_step enabled found with ⟨old, foundOld, rfl⟩ | ⟨_, _, _, creates, _⟩
    · have rowId : old.id = importId := KeyedTable.lookup_key ImportRow.id foundOld
      simp [emits, onImport, Statement.onImport, rowId, ImportRepository.cancelImport,
        ImportStatus.isOpen]
    · cases emits.symm.trans creates
  · intro row found
    rcases findJobOf_step enabled found with ⟨old, foundOld, rfl⟩ | ⟨_, _, _, creates, _⟩
    · have rowId : old.importId = importId := KeyedTable.lookup_key JobRow.importId foundOld
      simp [emits, onJob, Statement.onJob, rowId, ImportRepository.cancelJob, JobStatus.isOpen]
    · cases emits.symm.trans creates

/-- A step keeps the accepted cancellations exactly when it reopens nothing. -/
theorem cancellationsKept_step_iff (coherent : Coherent ports state)
    (kept : CancellationsKept state) (enabled : step ports config state action = some next) :
    CancellationsKept next ↔ ReopensNothing ports config state action next := by
  constructor
  · intro keptAfter
    constructor
    · intro importId statement accepted
      have after := keptAfter importId (accepted_step enabled accepted)
      exact (closed_step_iff coherent enabled accepted (kept importId accepted)).mp after statement
    · rintro requestId importId rfl answers
      obtain ⟨sameDb, returned⟩ := step_requestCancellation enabled
      rw [← sameDb]
      exact keptAfter importId ⟨requestId, returned.trans answers⟩
  · rintro ⟨reopensNot, answersClosed⟩ importId ⟨requestId, returned⟩
    rcases step_request enabled requestId with
      same | ⟨read, rfl, _, after⟩ | ⟨written, ack, _, _, emits, after⟩
    · have accepted : Accepted state importId := ⟨requestId, same.symm.trans returned⟩
      refine (closed_step_iff coherent enabled accepted (kept importId accepted)).mpr ?_
      exact fun statement => reopensNot importId statement accepted
    · have answers := after.symm.trans returned
      obtain rfl := afterRead_importId answers
      rw [(step_requestCancellation enabled).1]
      exact answersClosed requestId read rfl answers
    · have answers := after.symm.trans returned
      cases ack with
      | acknowledged =>
        cases answers
        exact closed_of_cancel enabled emits
      | lost | failed => cases answers

/-- In a run from empty tables, accepted cancellations last in every state exactly when no
step reopens a cancelled import or its job. -/
theorem cancellation_kept_iff (now : Nat) (schedule : List Action) :
    Transition.Always (step ports config) CancellationsKept (initial now Database.empty)
        schedule ↔
      Transition.Every (step ports config) (ReopensNothing ports config)
        (initial now Database.empty) schedule := by
  refine Transition.always_iff_every (Coherent ports)
    (fun _ _ _ coherent enabled => coherent_step coherent enabled) ?_
    (coherent_initial ports now Database.wellFormed_empty) ?_ schedule
  · exact fun state action next coherent kept enabled =>
      cancellationsKept_step_iff coherent kept enabled
  · rintro importId ⟨requestId, returned⟩
    cases returned

end

/-- Worker 1 has claimed the job and looked its file up when the cancellation is accepted; it
then counts the lines and marks the job. -/
def cancelDuringScan : List Action :=
  [upload 1] ++ startUp 1 ++ [.work 1 (.claimNext 1 .acknowledged)] ++ replies 1 1 ++
    [.requestCancellation 0 1, .cancel 0 .acknowledged] ++ replies 1 2

/-- With a single worker and no failure, `markProcessing` undoes the cancellation. -/
theorem cancelled_then_processing :
    ¬ Transition.Always (step emptyFilePorts defaultConfig) CancellationsKept
      (initial 0 Database.empty) cancelDuringScan := by
  intro always
  obtain ⟨state, kept, seen⟩ := always.observe
    (fun state => (state.requests 0, (state.db.findJobOf 1).map JobRow.status))
    (show _ = some (.returned 1 .CANCELLING, some .PROCESSING) by decide)
  obtain ⟨returned, status⟩ := Prod.mk.inj seen
  obtain ⟨row, found, processing⟩ := Option.map_eq_some_iff.mp status
  have closed := (kept 1 ⟨0, returned⟩).2 row found
  rw [processing] at closed
  cases closed

end System

end ImportService
