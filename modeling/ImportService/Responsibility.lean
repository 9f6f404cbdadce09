/-
This file asks whether somebody is responsible for every import that has not ended: a
live worker that executes its job, or the claim and sweep queries, which pick pending
jobs and jobs with a lease up. Two things can leave an import to nobody. A cancellation
takes the job out of the reach of both queries and relies on an execution to see it. And
an execution that ends early, by a crash or an error that escapes it, may leave the job
cancelling or at an end with the import still open. These are the only two
(`not_stranded_iff`); `cancelled_before_claim` is a run of the first kind.
-/

import ImportService.Integrity

namespace ImportService

open KeyedTable JobRepository ProcessImportFile JobPollerService

/-- `claimNext` or `reclaimExpiredLeases` can pick the job up, now or after its lease has run
out. -/
def JobRow.isRecoverable (row : JobRow) : Bool :=
  row.status == .PENDING || isLeasedStatus row.status && row.leasedUntil.isSome

/-- The import has ended, or its job is in reach of the claim and sweep queries. -/
def Covered (importRow : ImportRow) (jobRow : JobRow) : Prop :=
  importRow.status.isTerminal = true ∨ jobRow.isRecoverable = true

namespace Statement

theorem isRecoverable_setJob_toPending {now : Nat} {selects : JobRow → Bool} {row : JobRow}
    (selected : selects row = true) : (setJob now selects toPending row).isRecoverable = true := by
  rw [setJob_field JobRow.isRecoverable (fun _ _ => rfl), if_pos selected]
  rfl

/-- An update that leaves every job it selects recoverable makes no job unrecoverable. -/
theorem isRecoverable_setJob {now : Nat} {selects : JobRow → Bool} {data : JobRow → JobRow}
    {row : JobRow} (ofData : (data row).isRecoverable = true)
    (recoverable : row.isRecoverable = true) :
    (setJob now selects data row).isRecoverable = true := by
  rw [setJob_field JobRow.isRecoverable (fun _ _ => rfl)]
  split
  · exact ofData
  · exact recoverable

theorem isRecoverable_renewData {leaseDurationMs now : Nat} {row : JobRow}
    (recoverable : row.isRecoverable = true) :
    (renewData leaseDurationMs now row).isRecoverable = true := by
  simp only [JobRow.isRecoverable, renewData, Option.isSome_some, Bool.and_true]
  rcases Bool.or_eq_true_iff.mp recoverable with pending | leased
  · rw [pending]
    rfl
  · rw [(Bool.and_eq_true_iff.mp leased).1, Bool.or_true]

theorem reclaim_covered {now : Nat} {db : Database} {maxAttempts : Nat} {sweep : Sweep}
    {passed : List ImportId} {importRow : ImportRow} {jobRow : JobRow}
    (covered : Covered importRow jobRow)
    (belongs : ∀ job ∈ sweep.expired, job.id = jobRow.id ↔ job.importId = importRow.id) :
    Covered ((reclaim maxAttempts sweep passed).onImport now db importRow)
      ((reclaim maxAttempts sweep passed).onJob now jobRow) := by
  have selectsSame : ∀ jobs : List ExpiredJob, jobs ⊆ sweep.expired →
      selectsImport jobs importRow = selectsJob jobs jobRow := by
    intro jobs subset
    rw [Bool.eq_iff_iff, selectsImport_iff, selectsJob_iff]
    constructor
    · rintro ⟨job, member, same⟩
      exact ⟨job, member, (belongs job (subset member)).mpr same⟩
    · rintro ⟨job, member, same⟩
      exact ⟨job, member, (belongs job (subset member)).mp same⟩
  cases reset : selectsJob (sweep.toReset maxAttempts) jobRow with
  | true => exact Or.inr (isRecoverable_setJob_toPending ((selectsJob_abandonJob ..).trans reset))
  | false =>
    cases fail : selectsJob (sweep.toFail maxAttempts) jobRow with
    | true =>
      have failImport := (selectsSame _ (sweep.toFail_subset maxAttempts)).trans fail
      have failed : (setImport now (selectsImport (sweep.toFail maxAttempts))
          (abandonImport sweep.startedAt) importRow).status = .FAILED := by
        rw [setImport_status, if_pos failImport]
        rfl
      refine Or.inl ?_
      simp only [onImport]
      rw [setImport_of_not_selected now toPendingImport, failed]
      · rfl
      · exact isResettable_eq_false _ _ (by rw [failed]; exact ImportStatus.noConfusion)
    | false =>
      rw [onJob_reclaim_of_not_selected now maxAttempts passed fail reset,
        onImport_reclaim_of_not_selected now db maxAttempts passed
          ((selectsSame _ (sweep.toFail_subset maxAttempts)).trans fail)
          ((selectsSame _ (sweep.toReset_subset maxAttempts)).trans reset)]
      exact covered

/-- Only a cancellation and the marks of an execution can uncover an import. -/
theorem onImport_onJob_covered {now : Nat} {db : Database} {statement : Statement}
    {importRow : ImportRow} {jobRow : JobRow} (covered : Covered importRow jobRow)
    (ownJob : jobRow.importId = importRow.id)
    (notCancelled : statement ≠ .cancel importRow.id)
    (jobNotMarked : ∀ mark, statement ≠ .updateBothJob jobRow.id mark)
    (importNotMarked : ∀ mark, statement ≠ .updateBothImport importRow.id mark)
    (belongs : ∀ maxAttempts sweep passed, statement = .reclaim maxAttempts sweep passed →
      ∀ job ∈ sweep.expired, job.id = jobRow.id ↔ job.importId = importRow.id) :
    Covered (statement.onImport now db importRow) (statement.onJob now jobRow) := by
  cases statement with
  | reclaim maxAttempts sweep passed =>
    exact reclaim_covered covered (belongs maxAttempts sweep passed rfl)
  | cancel importId =>
    have other : importRow.id ≠ importId := fun same => notCancelled (by rw [same])
    have otherJob : jobRow.importId ≠ importId := by rwa [ownJob]
    simp only [onImport, onJob]
    rw [setImport_of_id_ne now _ other, setJob_of_importId_ne now _ otherJob]
    exact covered
  | updateBothJob jobId mark =>
    have other : jobRow.id ≠ jobId := fun same => jobNotMarked mark (by rw [same])
    simp only [onImport, onJob]
    rw [setJob_of_id_ne now _ other]
    exact covered
  | updateBothImport importId mark =>
    have other : importRow.id ≠ importId := fun same => importNotMarked mark (by rw [same])
    simp only [onImport, onJob]
    rw [setImport_of_id_ne now _ other]
    exact covered
  | claimNext jobId workerId duration =>
    exact covered.imp id fun recoverable => isRecoverable_setJob rfl recoverable
  | renewLease jobId workerId duration =>
    refine covered.imp id fun recoverable => ?_
    exact isRecoverable_setJob (isRecoverable_renewData recoverable) recoverable
  | releaseJob jobId workerId =>
    exact covered.imp id fun recoverable => isRecoverable_setJob rfl recoverable
  | releaseImport importId =>
    refine covered.imp (fun terminal => ?_) id
    have notProcessing : importRow.status ≠ .PROCESSING := by
      intro processing
      rw [processing] at terminal
      cases terminal
    simp only [onImport]
    rw [setImport_of_not_selected now _ (by simp [notProcessing])]
    exact terminal
  | persistBatch input =>
    refine covered.imp (fun terminal => ?_) id
    simp only [onImport]
    rw [setImport_status]
    split <;> exact terminal
  | create => exact covered

end Statement

namespace System

/-! ### What is asked -/

/-- The worker is live and executes the job of the import. -/
def Executes (state : State) (workerId : WorkerId) (importId : ImportId) : Prop :=
  ∃ job point, (state.workers workerId).phase = .executing job point ∧ job.importId = importId

/-- No import is stranded: unless it has ended, a live worker executes its job, or its job is
in reach of the claim and sweep queries. -/
def NotStranded (state : State) : Prop :=
  ∀ importId importRow, state.db.findImport importId = some importRow →
    importRow.status.isTerminal = false →
      (∃ workerId, Executes state workerId importId) ∨
        ∃ jobRow, state.db.findJobOf importId = some jobRow ∧ jobRow.isRecoverable = true

/-- The worker gives the job up before its end: it crashes, or an error escapes `execute`. -/
def GivesUp (ports : Ports) (config : Config) (state : State) (action : Action)
    (workerId : WorkerId) (job : ClaimedJob) : Prop :=
  ∃ point, (state.workers workerId).phase = .executing job point ∧
    (action = .work workerId .crash ∨ ∃ reply failure, action = .work workerId (.reply reply) ∧
      resume ports (config.batchSize workerId) state.db state.now job point reply =
        some (.rejected failure))

/-- The import is open when its last worker is gone: it has not ended, and the worker does not end
it with its last write, or that write makes it `PROCESSING` again. -/
inductive StaysOpen (written : Option Statement) (importRow : ImportRow) : Prop
  | unmarked (unmarked : ∀ mark, written ≠ some (.updateBothImport importRow.id mark))
      (notEnded : importRow.status.isTerminal = false)
  | reopened {mark : Mark} (marks : written = some (.updateBothImport importRow.id mark))
      (notEnded : mark.status.isTerminal = false)

/-- Why nobody picks the job up when its last worker is gone. -/
inductive LeftToNobody (written : Option Statement) (jobRow : JobRow) : Prop
  /-- A cancellation has been accepted. The worker was the one to see it. -/
  | cancelling (unmarked : ∀ mark, written ≠ some (.updateBothJob jobRow.id mark))
      (accepted : jobRow.status = .CANCELLING)
  /-- An `updateBoth` has ended the job, and nobody goes on to its second statement. -/
  | halfDone (unmarked : ∀ mark, written ≠ some (.updateBothJob jobRow.id mark))
      (ended : jobRow.status.isTerminal = true)
  /-- The worker is gone with the first statement of an `updateBoth` that ends the job. -/
  | halfDoneNow {mark : Mark} (marks : written = some (.updateBothJob jobRow.id mark))
      (ends : mark.status.isTerminal = true)
  /-- A sweep or another worker has taken the lease away, and the job has been marked since. -/
  | unleased (unmarked : ∀ mark, written ≠ some (.updateBothJob jobRow.id mark))
      (marked : isLeasedStatus jobRow.status = true) (noLease : jobRow.leasedUntil = none)
  /-- The worker marks a job whose lease has been taken away. -/
  | unleasedNow {mark : Mark} (marks : written = some (.updateBothJob jobRow.id mark))
      (processes : mark.status = .PROCESSING) (noLease : jobRow.leasedUntil = none)

/-- A cancellation is written while a live worker executes the job, and no worker gives a job up as
the last one, for one of these reasons, while the import is open. -/
def LeavesNothingBehind (ports : Ports) (config : Config) (state : State) (action : Action)
    (_ : State) : Prop :=
  (∀ importId, emitted ports config state action = some (.cancel importId) →
    ∃ workerId, Executes state workerId importId) ∧
  ∀ workerId job, GivesUp ports config state action workerId job →
    (∀ other, other ≠ workerId → ¬ Executes state other job.importId) →
      ∀ importRow jobRow, state.db.findImport job.importId = some importRow →
        state.db.findJobOf job.importId = some jobRow →
          StaysOpen (emitted ports config state action) importRow →
            ¬ LeftToNobody (emitted ports config state action) jobRow

/-! ### The last write of a worker -/

/-- A job that has been claimed by a worker has a lease until some time. -/
def HasLimits (db : Database) : Prop :=
  ∀ row ∈ db.jobs, row.leasedBy.isSome = true → row.leasedUntil.isSome = true

section

variable {now : Nat} {db : Database} {importRow : ImportRow} {jobRow : JobRow}
  {written : Option Statement}

/-- The import is open after a write exactly when it stays open. -/
theorem isTerminal_onImport_iff
    (ofWorker : written = none ∨ ∃ job point statement, Calls job point statement ∧
      written = some statement) :
    (onImport now db written importRow).status.isTerminal = false ↔
      StaysOpen written importRow := by
  have ofUnmarked (unmarked : ∀ mark, written ≠ some (.updateBothImport importRow.id mark))
      (same : (onImport now db written importRow).status = importRow.status) :
      (onImport now db written importRow).status.isTerminal = false ↔
        StaysOpen written importRow := by
    rw [same]
    refine ⟨fun notEnded => .unmarked unmarked notEnded, fun staysOpen => ?_⟩
    cases staysOpen with
    | unmarked _ notEnded => exact notEnded
    | reopened marks => exact absurd marks (unmarked _)
  rcases ofWorker with rfl | ⟨job, point, statement, calls, rfl⟩
  · exact ofUnmarked (fun _ => by simp) rfl
  · cases calls with
    | updateBothJob | renewLease => exact ofUnmarked (fun _ => by simp) rfl
    | persistBatch =>
      refine ofUnmarked (fun _ => by simp) ?_
      rw [onImport, Statement.onImport, Statement.setImport_status]
      exact ite_self _
    | @updateBothImport mark caller =>
      by_cases own : importRow.id = job.importId
      · have marked : (onImport now db (some (.updateBothImport job.importId mark))
            importRow).status = mark.status := by
          rw [onImport, Statement.onImport, Statement.setImport_status, own, beq_self_eq_true,
            if_pos rfl, Mark.importData_status]
        rw [marked, ← own]
        refine ⟨fun notEnded => .reopened rfl notEnded, fun staysOpen => ?_⟩
        cases staysOpen with
        | unmarked unmarked => exact absurd rfl (unmarked mark)
        | reopened marks notEnded =>
          cases marks
          exact notEnded
      · refine ofUnmarked (fun other same => own ?_) ?_
        · exact (Statement.updateBothImport.inj (Option.some.inj same)).1.symm
        · rw [onImport, Statement.onImport, Statement.setImport_of_id_ne now _ own]

/-- A job that the last write does not mark is left to nobody when it is not recoverable. -/
theorem leftToNobody_iff (unmarked : ∀ mark, written ≠ some (.updateBothJob jobRow.id mark)) :
    LeftToNobody written jobRow ↔ jobRow.isRecoverable = false := by
  unfold JobRow.isRecoverable
  constructor
  · intro left
    cases left with
    | cancelling _ accepted =>
      rw [accepted]
      rfl
    | halfDone _ ended =>
      cases status : jobRow.status <;> rw [status] at ended <;> first | rfl | cases ended
    | halfDoneNow marks => exact absurd marks (unmarked _)
    | unleased _ marked noLease =>
      rw [noLease, Option.isSome_none, Bool.and_false, Bool.or_false]
      cases status : jobRow.status <;> rw [status] at marked <;> first | rfl | cases marked
    | unleasedNow marks => exact absurd marks (unmarked _)
  · intro lost
    obtain ⟨notPending, noLease⟩ := Bool.or_eq_false_iff.mp lost
    cases status : jobRow.status with
    | PENDING =>
      rw [status] at notPending
      cases notPending
    | CLAIMED | PROCESSING =>
      rw [status] at noLease
      refine .unleased unmarked (by rw [status]; rfl) ?_
      exact Option.isSome_eq_false_iff.mp noLease |> Option.isNone_iff_eq_none.mp
    | CANCELLING => exact .cancelling unmarked status
    | COMPLETED | FAILED | CANCELLED => exact .halfDone unmarked (by rw [status]; rfl)

/-- The job is out of reach after a write exactly when it is left to nobody. -/
theorem isRecoverable_onJob_iff
    (hasLimit : jobRow.leasedBy.isSome = true → jobRow.leasedUntil.isSome = true)
    (ofWorker : written = none ∨ ∃ job point statement, Calls job point statement ∧
      written = some statement) :
    (onJob now written jobRow).isRecoverable = false ↔ LeftToNobody written jobRow := by
  rcases ofWorker with rfl | ⟨job, point, statement, calls, rfl⟩
  · exact (leftToNobody_iff fun _ => by simp).symm
  · cases calls with
    | updateBothImport | persistBatch => exact (leftToNobody_iff fun _ => by simp).symm
    | renewLease =>
      rw [leftToNobody_iff fun _ => by simp]
      have unchanged : (onJob now (some (.renewLease job.id job.workerId LEASE_DURATION_MS))
          jobRow).isRecoverable = jobRow.isRecoverable := by
        rw [onJob, Statement.onJob, Statement.setJob_field JobRow.isRecoverable (fun _ _ => rfl)]
        split
        · rename_i leased
          have byWorker := eq_of_beq (Bool.and_eq_true_iff.mp leased).2
          have limit := hasLimit (by rw [byWorker]; rfl)
          simp only [JobRow.isRecoverable, renewData, Option.isSome_some, limit]
        · rfl
      rw [unchanged]
    | @updateBothJob mark caller =>
      by_cases own : jobRow.id = job.id
      · have marked : (onJob now (some (.updateBothJob job.id mark)) jobRow).isRecoverable =
            (mark.status.toJob == .PENDING ||
              isLeasedStatus mark.status.toJob && jobRow.leasedUntil.isSome) := by
          rw [onJob, Statement.onJob, Statement.setJob_field JobRow.isRecoverable (fun _ _ => rfl),
            own, beq_self_eq_true, if_pos rfl, JobRow.isRecoverable, Mark.jobData_status]
          cases mark <;> rfl
        rw [marked, ← own]
        constructor
        · intro lost
          cases mark with
          | processing total startedAt =>
            refine .unleasedNow rfl rfl ?_
            exact Option.isSome_eq_false_iff.mp lost |> Option.isNone_iff_eq_none.mp
          | completed | failed | cancelled => exact .halfDoneNow rfl rfl
        · intro left
          cases left with
          | cancelling unmarked => exact absurd rfl (unmarked mark)
          | halfDone unmarked => exact absurd rfl (unmarked mark)
          | unleased unmarked => exact absurd rfl (unmarked mark)
          | halfDoneNow marks ends =>
            cases marks
            cases mark <;> first | rfl | cases ends
          | unleasedNow marks processes noLease =>
            cases marks
            rw [processes, noLease]
            rfl
      · have unmarked : ∀ other,
            some (Statement.updateBothJob job.id mark) ≠ some (.updateBothJob jobRow.id other) := by
          intro other same
          exact own (Statement.updateBothJob.inj (Option.some.inj same)).1.symm
        rw [leftToNobody_iff unmarked, onJob, Statement.onJob,
          Statement.setJob_of_id_ne now _ own]

/-- An import is covered after the last write of its worker unless it stays open and its job is
left to nobody. -/
theorem covered_iff
    (hasLimit : jobRow.leasedBy.isSome = true → jobRow.leasedUntil.isSome = true)
    (ofWorker : written = none ∨ ∃ job point statement, Calls job point statement ∧
      written = some statement) :
    Covered (onImport now db written importRow) (onJob now written jobRow) ↔
      (StaysOpen written importRow → ¬ LeftToNobody written jobRow) := by
  rw [← isTerminal_onImport_iff ofWorker, ← isRecoverable_onJob_iff hasLimit ofWorker, Covered]
  cases (onImport now db written importRow).status.isTerminal <;>
    cases (onJob now written jobRow).isRecoverable <;> simp

end

theorem Statement.hasLimit_onJob (now : Nat) (statement : Statement) {row : JobRow}
    (hasLimit : row.leasedBy.isSome = true → row.leasedUntil.isSome = true) :
    (statement.onJob now row).leasedBy.isSome = true →
      (statement.onJob now row).leasedUntil.isSome = true := by
  have kept {selects : JobRow → Bool} {data : JobRow → JobRow} {row : JobRow}
      (ofRow : row.leasedBy.isSome = true → row.leasedUntil.isSome = true)
      (ofData : (data row).leasedBy.isSome = true → (data row).leasedUntil.isSome = true) :
      (Statement.setJob now selects data row).leasedBy.isSome = true →
        (Statement.setJob now selects data row).leasedUntil.isSome = true := by
    unfold Statement.setJob updateRow
    split
    · exact ofData
    · exact ofRow
  have cleared {data : JobRow → JobRow} (noWorker : ∀ row, (data row).leasedBy = none)
      (row : JobRow) (leased : (data row).leasedBy.isSome = true) :
      (data row).leasedUntil.isSome = true := by
    rw [noWorker row] at leased
    cases leased
  cases statement with
  | claimNext jobId workerId duration =>
    exact @kept _ (claimData workerId duration now) _ hasLimit fun _ => rfl
  | renewLease jobId workerId duration =>
    exact @kept _ (renewData duration now) _ hasLimit fun _ => rfl
  | updateBothJob jobId mark =>
    refine @kept _ mark.jobData _ hasLimit ?_
    cases mark <;> exact hasLimit
  | releaseJob => exact kept hasLimit (cleared (fun _ => rfl) row)
  | cancel => exact @kept _ ImportRepository.cancelJob _ hasLimit hasLimit
  | reclaim maxAttempts sweep passed =>
    exact kept (kept hasLimit (@cleared abandonJob (fun _ => rfl) row))
      (@cleared toPending (fun _ => rfl) _)
  | create | updateBothImport | releaseImport | persistBatch => exact hasLimit

/-! ### One step -/

section

variable {ports : Ports} {config : Config} {state next : State} {action : Action}

/-- No import is stranded when each is covered by its two rows or executed by a live worker. -/
theorem notStranded_iff (coherent : Coherent ports state) :
    NotStranded state ↔ ∀ importId importRow jobRow,
      state.db.findImport importId = some importRow →
        state.db.findJobOf importId = some jobRow →
          Covered importRow jobRow ∨ ∃ workerId, Executes state workerId importId := by
  constructor
  · intro notStranded importId importRow jobRow foundImport foundJob
    cases terminal : importRow.status.isTerminal with
    | true => exact Or.inl (Or.inl terminal)
    | false =>
      rcases notStranded importId importRow foundImport terminal with
        executes | ⟨found, foundIs, recoverable⟩
      · exact Or.inr executes
      · rw [foundJob] at foundIs
        rw [← Option.some.inj foundIs] at recoverable
        exact Or.inl (Or.inr recoverable)
  · intro attended importId importRow foundImport running
    have importRowId : importRow.id = importId := lookup_key ImportRow.id foundImport
    obtain ⟨jobRow, foundJob⟩ := Option.isSome_iff_exists.mp
      (coherent.wellFormed.imports importRow (lookup_mem ImportRow.id foundImport))
    rw [importRowId] at foundJob
    rcases attended importId importRow jobRow foundImport foundJob with
      (terminal | recoverable) | executes
    · rw [running] at terminal
      cases terminal
    · exact Or.inr ⟨jobRow, foundJob, recoverable⟩
    · exact Or.inl executes

/-- A worker that executes a job goes on with it, gives it up, or writes a terminal status to
its import. -/
theorem executes_step (coherent : Coherent ports state)
    (enabled : step ports config state action = some next) {workerId : WorkerId}
    {job : ClaimedJob} {point : Point}
    (executing : (state.workers workerId).phase = .executing job point) :
    Executes next workerId job.importId ∨ GivesUp ports config state action workerId job ∨
      ∃ mark, emitted ports config state action = some (.updateBothImport job.importId mark) ∧
        mark.status.isTerminal = true := by
  rcases step_worker enabled workerId with same | ⟨event, rfl, moved⟩
  · exact Or.inl ⟨job, point, by rw [same, executing], rfl⟩
  · rcases step_from_executing executing moved with
      ⟨rfl, _, _⟩ | ⟨reply, outcome, rfl, resumed, emits, after⟩
    · exact Or.inr (Or.inl ⟨point, executing, Or.inl rfl⟩)
    · cases outcome with
      | awaiting nextPoint => exact Or.inl ⟨job, nextPoint, by rw [after]; rfl, rfl⟩
      | rejected failure =>
        exact Or.inr (Or.inl ⟨point, executing, Or.inr ⟨reply, failure, rfl, resumed⟩⟩)
      | resolved =>
        have holds := coherent.executing executing
        rcases exists_tracks _ _ _ holds.2.2 resumed with
          ⟨_, _, _, impossible⟩ | ⟨rfl, mark, caller, rfl, terminal⟩
        · exact impossible.elim
        · exact Or.inr (Or.inr ⟨mark, emits, terminal⟩)

/-- A worker with whom an import is left goes on executing. -/
theorem executes_other (enabled : step ports config state action = some next)
    {workerId other : WorkerId} {job : ClaimedJob}
    (gaveUp : GivesUp ports config state action workerId job) (different : other ≠ workerId)
    {importId : ImportId} :
    Executes next other importId ↔ Executes state other importId := by
  obtain ⟨point, _, rfl | ⟨reply, failure, rfl, _⟩⟩ := gaveUp <;>
    rw [Executes, Executes, step_other different enabled]

theorem not_executes_of_givesUp (enabled : step ports config state action = some next)
    {workerId : WorkerId} {job : ClaimedJob}
    (gaveUp : GivesUp ports config state action workerId job) {importId : ImportId} :
    ¬ Executes next workerId importId := by
  rintro ⟨entered, enteredPoint, phase, _⟩
  obtain ⟨point, executing, rfl | ⟨reply, failure, rfl, rejected⟩⟩ := gaveUp
  · rcases step_from_executing executing (step_mover enabled) with
      ⟨_, _, crashed⟩ | ⟨_, _, impossible, _⟩
    · cases crashed.symm.trans phase
    · cases impossible
  · rcases step_from_executing executing (step_mover enabled) with
      ⟨impossible, _⟩ | ⟨_, outcome, same, resumed, _, after⟩
    · cases impossible
    · cases same
      rw [rejected] at resumed
      cases resumed
      rw [after] at phase
      cases failure <;> cases phase

theorem written_of_givesUp {workerId : WorkerId} {job : ClaimedJob}
    (gaveUp : GivesUp ports config state action workerId job) :
    emitted ports config state action = none ∨ ∃ job point statement,
      Calls job point statement ∧ emitted ports config state action = some statement := by
  cases emits : emitted ports config state action with
  | none => exact Or.inl rfl
  | some statement =>
    obtain ⟨point, _, rfl | ⟨reply, failure, rfl, _⟩⟩ := gaveUp
    · cases emitted_origin emits
    · cases emitted_origin emits with
      | execute _ calls => exact Or.inr ⟨_, _, statement, calls, rfl⟩

/-- A worker that gives a job up leaves the import covered unless it leaves the job to nobody. -/
theorem covered_of_givesUp (limits : HasLimits state.db) {workerId : WorkerId} {job : ClaimedJob}
    (gaveUp : GivesUp ports config state action workerId job) {importId : ImportId}
    (importRow : ImportRow) {jobRow : JobRow}
    (foundJob : state.db.findJobOf importId = some jobRow) :
    Covered (onImport state.now state.db (emitted ports config state action) importRow)
        (onJob state.now (emitted ports config state action) jobRow) ↔
      (StaysOpen (emitted ports config state action) importRow →
        ¬ LeftToNobody (emitted ports config state action) jobRow) :=
  covered_iff (limits jobRow (lookup_mem JobRow.importId foundJob)) (written_of_givesUp gaveUp)

theorem hasLimits_step (limits : HasLimits state.db)
    (enabled : step ports config state action = some next) : HasLimits next.db := by
  rw [step_db enabled]
  cases emitted ports config state action with
  | none => exact limits
  | some statement =>
    intro row member
    rw [committed, Statement.commit_jobs, List.mem_append] at member
    rcases member with kept | added
    · obtain ⟨old, oldMember, rfl⟩ := List.mem_map.mp kept
      exact Statement.hasLimit_onJob state.now statement (limits old oldMember)
    · cases statement with
      | create importId jobId storagePath createdAt =>
        rw [List.mem_singleton.mp added]
        intro leased
        cases leased
      | _ => cases added

theorem attended_step (coherent : Coherent ports state) (limits : HasLimits state.db)
    (enabled : step ports config state action = some next)
    (leavesNothing : LeavesNothingBehind ports config state action next) {importId : ImportId}
    {importRow : ImportRow} {jobRow : JobRow}
    (foundImport : state.db.findImport importId = some importRow)
    (foundJob : state.db.findJobOf importId = some jobRow)
    (attended : Covered importRow jobRow ∨ ∃ workerId, Executes state workerId importId) :
    Covered (onImport state.now state.db (emitted ports config state action) importRow)
        (onJob state.now (emitted ports config state action) jobRow) ∨
      ∃ workerId, Executes next workerId importId := by
  have importRowId : importRow.id = importId := lookup_key ImportRow.id foundImport
  have jobRowImport : jobRow.importId = importId := lookup_key JobRow.importId foundJob
  by_cases executed : ∃ workerId, Executes state workerId importId
  · obtain ⟨workerId, job, point, executing, rfl⟩ := executed
    rcases executes_step coherent enabled executing with
      goesOn | gaveUp | ⟨mark, emits, terminal⟩
    · exact Or.inr ⟨workerId, goesOn⟩
    · by_cases others : ∃ other, other ≠ workerId ∧ Executes state other job.importId
      · obtain ⟨other, different, executes⟩ := others
        exact Or.inr ⟨other, (executes_other enabled gaveUp different).mpr executes⟩
      · have last : ∀ other, other ≠ workerId → ¬ Executes state other job.importId :=
          fun other different executes => others ⟨other, different, executes⟩
        refine Or.inl ((covered_of_givesUp limits gaveUp importRow foundJob).mpr ?_)
        exact leavesNothing.2 workerId job gaveUp last importRow jobRow foundImport foundJob
    · refine Or.inl (Or.inl ?_)
      rw [emits, onImport, Statement.onImport, Statement.setImport_status, importRowId,
        beq_self_eq_true, if_pos rfl, Mark.importData_status]
      exact terminal
  · have covered := attended.resolve_right executed
    refine Or.inl ?_
    cases emits : emitted ports config state action with
    | none => exact covered
    | some statement =>
      have ownJob : state.db.findJobOf jobRow.importId = some jobRow := by
        rw [jobRowImport, foundJob]
      refine Statement.onImport_onJob_covered covered (jobRowImport.trans importRowId.symm)
        ?_ ?_ ?_ ?_
      · rintro rfl
        rw [importRowId] at emits
        exact executed (leavesNothing.1 importId emits)
      · rintro mark rfl
        cases emitted_origin emits with
        | execute executing calls =>
          rename_i workerId job point reply
          have holds := coherent.executing executing
          have same := (coherent.wellFormed.holdsJob_iff holds.1 ownJob).mp calls.jobId
          exact executed ⟨workerId, job, point, executing, same.trans jobRowImport⟩
      · rintro mark rfl
        cases emitted_origin emits with
        | execute executing calls =>
          rename_i workerId job point reply
          exact executed ⟨workerId, job, point, executing, calls.importId.trans importRowId⟩
      · rintro maxAttempts sweep passed rfl
        cases emitted_origin emits with
        | reclaim sweeping =>
          rename_i workerId ack
          intro job member
          have holds := coherent.sweeping sweeping
          rw [coherent.wellFormed.holdsJob_iff (holds job member) ownJob, jobRowImport, importRowId]
        | execute executing calls => cases calls

theorem leavesNothingBehind_of_notStranded (coherent : Coherent ports state)
    (limits : HasLimits state.db)
    (enabled : step ports config state action = some next) (notStranded : NotStranded next) :
    LeavesNothingBehind ports config state action next := by
  have attended := (notStranded_iff (coherent_step coherent enabled)).mp notStranded
  constructor
  · intro importId emits
    cases emitted_origin emits with
    | cancel writing =>
      rename_i requestId ack
      have holds := coherent.requests requestId
      rw [writing] at holds
      obtain ⟨importRow, foundImport⟩ := Option.isSome_iff_exists.mp holds
      have importRowId : importRow.id = importId := lookup_key ImportRow.id foundImport
      obtain ⟨jobRow, foundJob⟩ := Option.isSome_iff_exists.mp
        (coherent.wellFormed.imports importRow (lookup_mem ImportRow.id foundImport))
      rw [importRowId] at foundJob
      have jobRowImport : jobRow.importId = importId := lookup_key JobRow.importId foundJob
      rcases attended importId _ _ (step_findImport enabled foundImport)
          (step_findJobOf enabled foundJob) with (terminal | recoverable) | ⟨workerId, executes⟩
      · rw [emits, onImport, Statement.onImport, Statement.setImport_status, importRowId,
          beq_self_eq_true] at terminal
        cases terminal
      · rw [emits, onJob, Statement.onJob,
          Statement.setJob_field JobRow.isRecoverable (fun _ _ => rfl), jobRowImport,
          beq_self_eq_true] at recoverable
        cases recoverable
      · refine ⟨workerId, ?_⟩
        rcases step_worker enabled workerId with same | ⟨_, acts, _⟩
        · rwa [Executes, same] at executes
        · cases acts
    | execute executing calls => cases calls
  · intro workerId job gaveUp last importRow jobRow foundImport foundJob
    rcases attended job.importId _ _ (step_findImport enabled foundImport)
        (step_findJobOf enabled foundJob) with covered | ⟨other, executes⟩
    · exact (covered_of_givesUp limits gaveUp importRow foundJob).mp covered
    · by_cases same : other = workerId
      · subst same
        exact absurd executes (not_executes_of_givesUp enabled gaveUp)
      · exact absurd ((executes_other enabled gaveUp same).mp executes) (last other same)

/-- A step strands no import exactly when it leaves nothing behind. -/
theorem notStranded_step_iff (coherent : Coherent ports state) (limits : HasLimits state.db)
    (notStranded : NotStranded state)
    (enabled : step ports config state action = some next) :
    NotStranded next ↔ LeavesNothingBehind ports config state action next := by
  refine ⟨leavesNothingBehind_of_notStranded coherent limits enabled, fun leavesNothing => ?_⟩
  have attended := (notStranded_iff coherent).mp notStranded
  refine (notStranded_iff (coherent_step coherent enabled)).mpr ?_
  intro importId importRow jobRow foundImport foundJob
  rcases findImport_step enabled foundImport with ⟨oldImport, oldFound, rfl⟩ | created
  · have importRowId : oldImport.id = importId := lookup_key ImportRow.id oldFound
    obtain ⟨oldJob, oldFoundJob⟩ := Option.isSome_iff_exists.mp
      (coherent.wellFormed.imports oldImport (lookup_mem ImportRow.id oldFound))
    rw [importRowId] at oldFoundJob
    have after := step_findJobOf enabled oldFoundJob
    rw [foundJob] at after
    rw [Option.some.inj after]
    exact attended_step coherent limits enabled leavesNothing oldFound oldFoundJob
      (attended importId oldImport oldJob oldFound oldFoundJob)
  · obtain ⟨jobId, storagePath, createdAt, emits, missing, rfl⟩ := created
    have fresh := (Statement.isFresh_iff.mp (emitted_admissible coherent emits)).2.1
    rcases findJobOf_step enabled foundJob with ⟨oldJob, oldFoundJob, _⟩ | ⟨_, _, _, _, rfl⟩
    · rw [fresh] at oldFoundJob
      cases oldFoundJob
    · exact Or.inl (Or.inr rfl)

/-! ### Runs -/

/-- In a run from empty tables, no import is stranded in any state exactly when every
cancellation is written while a live worker executes the job, and no worker crashes or lets an
error escape as the last one to execute a job, with the import open, when a cancellation has been
accepted, an `updateBoth` has ended the job alone, or the job is marked without a lease. -/
theorem not_stranded_iff (now : Nat) (schedule : List Action) :
    Transition.Always (step ports config) NotStranded (initial now Database.empty) schedule ↔
      Transition.Every (step ports config) (LeavesNothingBehind ports config)
        (initial now Database.empty) schedule := by
  refine Transition.always_iff_every (fun state => Coherent ports state ∧ HasLimits state.db)
    ?_ ?_ ⟨coherent_initial ports now Database.wellFormed_empty, fun _ member => nomatch member⟩
    ?_ schedule
  · exact fun _ _ _ invariant enabled =>
      ⟨coherent_step invariant.1 enabled, hasLimits_step invariant.2 enabled⟩
  · exact fun _ _ _ invariant notStranded enabled =>
      notStranded_step_iff invariant.1 invariant.2 notStranded enabled
  · exact fun importId importRow found => nomatch found

end

/-- The import is cancelled before any worker has claimed its job. -/
def cancelBeforeClaim : List Action :=
  [upload 1, .requestCancellation 0 1, .cancel 0 .acknowledged]

/-- The import stays cancelling and nobody picks its job up. -/
theorem cancelled_before_claim :
    ¬ Transition.Always (step emptyFilePorts defaultConfig) NotStranded
      (initial 0 Database.empty) cancelBeforeClaim := by
  intro always
  have trace : (Transition.run (step emptyFilePorts defaultConfig) (initial 0 Database.empty)
      cancelBeforeClaim).map (fun state => ((state.db.findImport 1).map ImportRow.status,
        (state.db.findJobOf 1).map JobRow.isRecoverable)) =
      some (some .CANCELLING, some false) := by decide
  obtain ⟨state, reaches, seen⟩ := Option.map_eq_some_iff.mp trace
  obtain ⟨status, recovers⟩ := Prod.mk.inj seen
  obtain ⟨importRow, foundImport, cancelling⟩ := Option.map_eq_some_iff.mp status
  obtain ⟨jobRow, foundJob, notRecoverable⟩ := Option.map_eq_some_iff.mp recovers
  rcases always.last reaches 1 importRow foundImport (by rw [cancelling]; rfl) with
    ⟨workerId, job, point, executing, _⟩ | ⟨found, foundIs, recoverable⟩
  · have idle : ∀ workerId, (state.workers workerId).phase = .notStarted := by
      intro workerId
      cases reaches
      rfl
    cases (idle workerId).symm.trans executing
  · rw [foundJob] at foundIs
    rw [← Option.some.inj foundIs, notRecoverable] at recoverable
    cases recoverable

end System

end ImportService
