/-
This file asks whether a job and its import stay in step when operations fail midway.
Operations run one after the other here. An operation is the list of units it commits, and a
call commits the first few of them: all, or those before the statement that failed or the
crash.

Of the operations that write both statuses, `requestCancellation` and
`reclaimExpiredLeases` are one unit, and `updateBoth` is two. So the two rows drift apart
exactly when an `updateBoth` stops between its statements and neither row had the new
status already (`never_drifts_iff`).
-/

import ImportService.Integrity

namespace ImportService

open KeyedTable JobRepository

/-! ### Operations -/

/-- The operations that write. `updateBoth` stands for the four marks. -/
inductive Operation
  | createOrReturnExisting (importId : ImportId) (jobId : JobId) (storagePath : JsString)
      (createdAt : Nat)
  | claimNext (jobId : JobId) (workerId : WorkerId) (leaseDurationMs : Nat)
  | renewLease (jobId : JobId) (workerId : WorkerId) (leaseDurationMs : Nat)
  | updateBoth (jobId : JobId) (importId : ImportId) (mark : Mark)
  | releaseLease (jobId : JobId) (workerId : WorkerId)
  | reclaimExpiredLeases (maxAttempts : Nat)
  | requestCancellation (importId : ImportId)
  | persistBatch (input : PersistBatchInput)

namespace Operation

/-- The units of an operation on the tables it starts from. A mark is called for a job together
with the import of that job. -/
def statements (now : Nat) (db : Database) : Operation → Option (List Statement)
  | .createOrReturnExisting importId jobId storagePath createdAt =>
      if System.isFresh importId jobId db then
        some [.create importId jobId storagePath createdAt]
      else none
  | .claimNext jobId workerId leaseDurationMs =>
      if (db.findJob jobId).any (isClaimable now) then
        some [.claimNext jobId workerId leaseDurationMs]
      else none
  | .renewLease jobId workerId leaseDurationMs =>
      some [.renewLease jobId workerId leaseDurationMs]
  | .updateBoth jobId importId mark =>
      if (db.findJob jobId).map JobRow.importId = some importId then
        some [.updateBothJob jobId mark, .updateBothImport importId mark]
      else none
  | .releaseLease jobId workerId =>
      match (db.findJob jobId).filter (isReleasable jobId workerId) with
      | some row => some [.releaseJob jobId workerId, .releaseImport row.importId]
      | none => some [.releaseJob jobId workerId]
  | .reclaimExpiredLeases maxAttempts => some [.reclaim maxAttempts (findExpired now db) []]
  | .requestCancellation importId =>
      match System.afterRead importId db with
      | .writing importId => some [.cancel importId]
      | _ => some []
  | .persistBatch input =>
      if (db.findImport input.importId).isSome then some [.persistBatch input] else none

/-- The status an operation sets out to write to an import and to its job. -/
def target (now : Nat) (db : Database) (importId : ImportId) : Operation → Option ImportStatus
  | .updateBoth _ marked mark => if marked = importId then some mark.status else none
  | .requestCancellation cancelled =>
      if cancelled = importId ∧ System.afterRead importId db = .writing importId then
        some .CANCELLING
      else none
  | .reclaimExpiredLeases maxAttempts =>
      ((db.findJobOf importId).filter (isExpired now)).map fun job =>
        if maxAttempts ≤ job.attemptCount then .FAILED else .PENDING
  | .createOrReturnExisting _ _ _ _ | .claimNext _ _ _ | .renewLease _ _ _
  | .releaseLease _ _ | .persistBatch _ => none

end Operation

/-- A call of an operation, of which the first `completed` units are committed. -/
structure Call where
  now : Nat
  operation : Operation
  completed : Nat

/-- The tables after some statements. -/
def commitAll (now : Nat) (statements : List Statement) (db : Database) : Database :=
  statements.foldl (fun db statement => statement.commit now db) db

/-- A call may stop midway: only its first statements are committed. -/
def Call.step (db : Database) (call : Call) : Option Database :=
  (call.operation.statements call.now db).map fun statements =>
    commitAll call.now (statements.take call.completed) db

/-! ### Rows in step -/

/-- The job has ended as its import has, and is being cancelled when its import is. -/
structure InStep (job : JobStatus) (row : ImportStatus) : Prop where
  terminal : job.isTerminal = true ∨ row.isTerminal = true → job = row.toJob
  cancelling : job = .CANCELLING ↔ row = .CANCELLING

theorem InStep.of_open {job : JobStatus} {row : ImportStatus} (jobOpen : job.isOpen = true)
    (rowOpen : row.isOpen = true) : InStep job row := by
  cases job <;> cases row <;>
    first | (cases jobOpen; done) | (cases rowOpen; done) | (constructor <;> decide)

theorem InStep.toJob (status : ImportStatus) : InStep status.toJob status where
  terminal := fun _ => rfl
  cancelling := by cases status <;> decide

/-- A job and an import that are in step are both open, or neither is. -/
theorem InStep.isOpen {job : JobStatus} {row : ImportStatus} (inStep : InStep job row) :
    job.isOpen = row.isOpen := by
  obtain ⟨terminal, cancelling⟩ := inStep
  cases row with
  | CANCELLING =>
    rw [cancelling.mpr rfl]
    rfl
  | COMPLETED | FAILED | CANCELLED =>
    rw [terminal (Or.inr rfl)]
    rfl
  | PENDING | PROCESSING =>
    cases job with
    | PENDING | CLAIMED | PROCESSING => rfl
    | CANCELLING => cases cancelling.mp rfl
    | COMPLETED | FAILED | CANCELLED => cases terminal (Or.inl rfl)

theorem pending_or_processing {status : ImportStatus} (isOpen : status.isOpen = true) :
    status = .PENDING ∨ status = .PROCESSING := by
  cases status <;> first | exact Or.inl rfl | exact Or.inr rfl | cases isOpen

/-- Every job is in step with its import. -/
def Database.InStep (db : Database) : Prop :=
  ∀ importId job row, db.findJobOf importId = some job → db.findImport importId = some row →
    ImportService.InStep job.status row.status

section

variable {db : Database} {now : Nat}

/-- The rows are in step after a commit if each pair that was there is. -/
theorem inStep_commit {statement : Statement} (admissible : statement.Admissible db)
    (keeps : ∀ importId job row, db.findJobOf importId = some job →
      db.findImport importId = some row →
      InStep (statement.onJob now job).status (statement.onImport now db row).status) :
    (statement.commit now db).InStep := by
  intro importId job row foundJob foundImport
  rcases Statement.findJobOf_commit foundJob with ⟨oldJob, oldFoundJob, rfl⟩ | newJob
  · rcases Statement.findImport_commit foundImport with ⟨oldRow, oldFoundRow, rfl⟩ | ⟨_, newRow⟩
    · exact keeps importId oldJob oldRow oldFoundJob oldFoundRow
    · cases statement with
      | create newId jobId storagePath createdAt =>
        have same : importId = newId := by
          rw [← lookup_key ImportRow.id foundImport, List.mem_singleton.mp newRow]
          rfl
        rw [same, (Statement.isFresh_iff.mp admissible).2.1] at oldFoundJob
        cases oldFoundJob
      | _ => cases newRow
  · cases statement with
    | create newId jobId storagePath createdAt =>
      have same : importId = newId := by
        rw [← lookup_key JobRow.importId foundJob, List.mem_singleton.mp newJob]
        rfl
      rcases Statement.findImport_commit foundImport with ⟨oldRow, oldFoundRow, _⟩ | ⟨_, newRow⟩
      · rw [same, (Statement.isFresh_iff.mp admissible).1] at oldFoundRow
        cases oldFoundRow
      · rw [List.mem_singleton.mp newJob, List.mem_singleton.mp newRow]
        exact InStep.of_open rfl rfl
    | _ => cases newJob

/-! ### What a sweep selects -/

/-- A sweep that starts on these tables has read the expired jobs, each under its own id and
under that of its import. -/
theorem exists_expired_iff (keep : Nat → Bool) (idOf : ExpiredJob → Nat) (rowId : JobRow → Nat)
    (reads : ∀ row : JobRow, idOf ⟨row.id, row.importId, row.attemptCount⟩ = rowId row)
    (distinct : (db.jobs.map rowId).Nodup) {job : JobRow} (member : job ∈ db.jobs) :
    (∃ expired ∈ (findExpired now db).expired.filter fun expired => keep expired.attemptCount,
        idOf expired = rowId job) ↔
      isExpired now job = true ∧ keep job.attemptCount = true := by
  constructor
  · rintro ⟨expired, selected, same⟩
    obtain ⟨read, kept⟩ := List.mem_filter.mp selected
    obtain ⟨row, inTable, rfl⟩ := List.mem_map.mp read
    obtain ⟨rowMember, rowExpired⟩ := List.mem_filter.mp inTable
    have sameRow : some row = some job := by
      rw [← lookup_of_mem rowId distinct rowMember, ← lookup_of_mem rowId distinct member,
        ← reads row, same]
    obtain rfl := Option.some.inj sameRow
    exact ⟨rowExpired, kept⟩
  · rintro ⟨jobExpired, kept⟩
    exact ⟨_, List.mem_filter.mpr ⟨List.mem_map_of_mem (List.mem_filter.mpr ⟨member, jobExpired⟩),
      kept⟩, reads job⟩

theorem selects_iff_expired (wellFormed : db.WellFormed) (keep : Nat → Bool)
    {importId : ImportId} {job : JobRow} (found : db.findJobOf importId = some job) :
    (∀ seen : JobRow, seen.id = job.id →
        selectsJob ((findExpired now db).expired.filter fun expired => keep expired.attemptCount)
          seen = (isExpired now job && keep job.attemptCount)) ∧
      ∀ seen : ImportRow, seen.id = importId →
        selectsImport ((findExpired now db).expired.filter fun expired => keep expired.attemptCount)
          seen = (isExpired now job && keep job.attemptCount) := by
  have member := lookup_mem JobRow.importId found
  constructor
  · intro seen sameId
    rw [Bool.eq_iff_iff, Bool.and_eq_true, Statement.selectsJob_iff, sameId]
    exact exists_expired_iff keep ExpiredJob.id JobRow.id (fun _ => rfl) wellFormed.jobIds member
  · intro seen sameId
    rw [Bool.eq_iff_iff, Bool.and_eq_true, Statement.selectsImport_iff, sameId,
      ← lookup_key JobRow.importId found]
    exact exists_expired_iff keep ExpiredJob.importId JobRow.importId (fun _ => rfl)
      wellFormed.jobImportIds member

/-- What a sweep writes to a job it finds expired, and to the import of the job. -/
def sweptStatus (maxAttempts : Nat) (job : JobRow) : ImportStatus :=
  if maxAttempts ≤ job.attemptCount then .FAILED else .PENDING

/-- A sweep that nothing comes between takes an expired job and its import along together. -/
theorem reclaim_status (wellFormed : db.WellFormed) (maxAttempts : Nat) {importId : ImportId}
    {job : JobRow} {row : ImportRow} (foundJob : db.findJobOf importId = some job)
    (foundImport : db.findImport importId = some row) (inStep : InStep job.status row.status) :
    ((Statement.reclaim maxAttempts (findExpired now db) []).onJob now job).status =
        (if isExpired now job then (sweptStatus maxAttempts job).toJob else job.status) ∧
      ((Statement.reclaim maxAttempts (findExpired now db) []).onImport now db row).status =
        (if isExpired now job then sweptStatus maxAttempts job else row.status) := by
  have rowId : row.id = importId := lookup_key ImportRow.id foundImport
  obtain ⟨failsJob, failsImport⟩ :
      (∀ seen : JobRow, seen.id = job.id → selectsJob ((findExpired now db).toFail maxAttempts)
        seen = (isExpired now job && decide (maxAttempts ≤ job.attemptCount))) ∧
      ∀ seen : ImportRow, seen.id = importId →
        selectsImport ((findExpired now db).toFail maxAttempts) seen =
          (isExpired now job && decide (maxAttempts ≤ job.attemptCount)) :=
    selects_iff_expired wellFormed (fun count => maxAttempts ≤ count) foundJob
  obtain ⟨resetsJob, resetsImport⟩ :
      (∀ seen : JobRow, seen.id = job.id → selectsJob ((findExpired now db).toReset maxAttempts)
        seen = (isExpired now job && decide (job.attemptCount < maxAttempts))) ∧
      ∀ seen : ImportRow, seen.id = importId →
        selectsImport ((findExpired now db).toReset maxAttempts) seen =
          (isExpired now job && decide (job.attemptCount < maxAttempts)) :=
    selects_iff_expired wellFormed (fun count => count < maxAttempts) foundJob
  have jobId : (Statement.setJob now (selectsJob ((findExpired now db).toFail maxAttempts))
      abandonJob job).id = job.id :=
    Statement.setJob_keeps JobRow.id now _ abandonJob (fun _ => rfl) job
  have importIdKept : (Statement.setImport now
      (selectsImport ((findExpired now db).toFail maxAttempts))
      (abandonImport (findExpired now db).startedAt) row).id = importId :=
    (Statement.setImport_keeps ImportRow.id now _ (abandonImport _) (fun _ => rfl) row).trans rowId
  simp only [Statement.onJob, Statement.onImport, Statement.setJob_status,
    Statement.setImport_status, isResettable, resetsJob _ jobId, failsJob job rfl,
    resetsImport _ importIdKept, failsImport row rowId, sweptStatus]
  by_cases expired : isExpired now job = true
  · have rowOpen : row.status.isOpen = true :=
      inStep.isOpen ▸ isOpen_of_isLeasedStatus (Bool.and_eq_true_iff.mp expired).1
    by_cases spent : maxAttempts ≤ job.attemptCount
    · simp [expired, spent, Nat.not_lt.mpr spent, abandonJob, abandonImport, ImportStatus.toJob]
    · have below : job.attemptCount < maxAttempts := Nat.lt_of_not_le spent
      rcases pending_or_processing rowOpen with pending | processing
      · simp [expired, spent, below, pending, toPending, ImportStatus.toJob]
      · simp [expired, spent, below, processing, toPending, toPendingImport, ImportStatus.toJob]
  · simp [expired]

/-! ### One call -/

/-- A claim takes a job that nobody is cancelling and that has not ended. -/
theorem claimNext_inStep (wellFormed : db.WellFormed) (inStep : db.InStep) {jobId : JobId}
    (workerId : WorkerId) (leaseDurationMs : Nat)
    (claimable : (db.findJob jobId).any (isClaimable now) = true) :
    ((Statement.claimNext jobId workerId leaseDurationMs).commit now db).InStep := by
  refine inStep_commit trivial fun importId job row foundJob foundImport => ?_
  have pair := inStep importId job row foundJob foundImport
  simp only [Statement.onJob, Statement.onImport, Statement.setJob_status, id, beq_iff_eq]
  split
  · rename_i selected
    rw [← selected, wellFormed.findJob_of_findJobOf foundJob] at claimable
    exact InStep.of_open rfl (pair.isOpen ▸ isOpen_of_isClaimable claimable)
  · exact pair

theorem renewLease_inStep (inStep : db.InStep) (jobId : JobId) (workerId : WorkerId)
    (leaseDurationMs : Nat) :
    ((Statement.renewLease jobId workerId leaseDurationMs).commit now db).InStep := by
  refine inStep_commit trivial fun importId job row foundJob foundImport => ?_
  simp only [Statement.onJob, Statement.onImport, Statement.setJob_status, renewData, ite_self, id]
  exact inStep importId job row foundJob foundImport

theorem persistBatch_inStep (inStep : db.InStep) {input : PersistBatchInput}
    (known : (db.findImport input.importId).isSome = true) :
    ((Statement.persistBatch input).commit now db).InStep := by
  refine inStep_commit known fun importId job row foundJob foundImport => ?_
  simp only [Statement.onJob, Statement.onImport, Statement.setImport_status,
    TransactionRepository.countBatch, ite_self, id]
  exact inStep importId job row foundJob foundImport

theorem releaseJob_inStep (inStep : db.InStep) (jobId : JobId) (workerId : WorkerId) :
    ((Statement.releaseJob jobId workerId).commit now db).InStep := by
  refine inStep_commit trivial fun importId job row foundJob foundImport => ?_
  have pair := inStep importId job row foundJob foundImport
  simp only [Statement.onJob, Statement.onImport, Statement.setJob_status, id]
  split
  · rename_i selected
    have leased := (Bool.and_eq_true_iff.mp selected).2
    exact InStep.of_open rfl (pair.isOpen ▸ isOpen_of_isLeasedStatus leased)
  · exact pair

theorem releaseImport_inStep (inStep : db.InStep) (released : ImportId) :
    ((Statement.releaseImport released).commit now db).InStep := by
  refine inStep_commit trivial fun importId job row foundJob foundImport => ?_
  have pair := inStep importId job row foundJob foundImport
  simp only [Statement.onJob, Statement.onImport, Statement.setImport_status, id]
  split
  · rename_i selected
    have processing : row.status = .PROCESSING := eq_of_beq (Bool.and_eq_true_iff.mp selected).2
    have jobOpen : job.status.isOpen = true := by
      rw [pair.isOpen, processing]
      rfl
    exact InStep.of_open jobOpen rfl
  · exact pair

theorem cancel_inStep (inStep : db.InStep) (cancelled : ImportId) :
    ((Statement.cancel cancelled).commit now db).InStep := by
  refine inStep_commit trivial fun importId job row foundJob foundImport => ?_
  have sameImport : job.importId = row.id :=
    (lookup_key JobRow.importId foundJob).trans (lookup_key ImportRow.id foundImport).symm
  simp only [Statement.onJob, Statement.onImport, Statement.setJob_status,
    Statement.setImport_status, sameImport]
  split
  · exact InStep.toJob .CANCELLING
  · exact inStep importId job row foundJob foundImport

theorem reclaim_inStep (wellFormed : db.WellFormed) (inStep : db.InStep) (maxAttempts : Nat) :
    ((Statement.reclaim maxAttempts (findExpired now db) []).commit now db).InStep := by
  refine inStep_commit trivial fun importId job row foundJob foundImport => ?_
  have pair := inStep importId job row foundJob foundImport
  obtain ⟨jobStatus, rowStatus⟩ :=
    reclaim_status wellFormed maxAttempts foundJob foundImport pair
  rw [jobStatus, rowStatus]
  split
  · exact InStep.toJob _
  · exact pair

/-- Both statements of a mark, one after the other. -/
theorem updateBoth_inStep (wellFormed : db.WellFormed) (inStep : db.InStep) {jobId : JobId}
    {marked : ImportId} (holds : db.HoldsJob jobId marked) (mark : Mark) :
    ((Statement.updateBothImport marked mark).commit now
      ((Statement.updateBothJob jobId mark).commit now db)).InStep := by
  refine inStep_commit trivial fun importId job row foundJob foundImport => ?_
  rcases Statement.findJobOf_commit foundJob with ⟨oldJob, oldFoundJob, rfl⟩ | newJob
  · rcases Statement.findImport_commit foundImport with ⟨_, foundRow, rfl⟩ | ⟨_, newRow⟩
    · have sameImport : oldJob.importId = row.id :=
        (lookup_key JobRow.importId oldFoundJob).trans (lookup_key ImportRow.id foundImport).symm
      have same := wellFormed.holdsJob_iff holds
        (lookup_key JobRow.importId oldFoundJob ▸ oldFoundJob)
      rw [sameImport] at same
      simp only [Statement.onJob, Statement.onImport, Statement.setJob_status,
        Statement.setImport_status, id, beq_iff_eq, Mark.jobData_status, Mark.importData_status]
      by_cases selected : row.id = marked
      · rw [if_pos selected, if_pos (same.mpr selected.symm).symm]
        exact InStep.toJob mark.status
      · rw [if_neg selected, if_neg fun selects => selected (same.mp selects.symm).symm]
        exact inStep importId oldJob row oldFoundJob foundRow
    · cases newRow
  · cases newJob

end

/-! ### What a call leaves -/

/-- The tables a call leaves: nothing was committed, or all of the operation, or the first of
two units. -/
inductive Ran (db : Database) (call : Call) : Operation → Database → Prop
  | nothing {operation : Operation} : Ran db call operation db
  | create {importId : ImportId} {jobId : JobId} {storagePath : JsString} {createdAt : Nat}
      (fresh : System.isFresh importId jobId db = true) :
      Ran db call (.createOrReturnExisting importId jobId storagePath createdAt)
        ((Statement.create importId jobId storagePath createdAt).commit call.now db)
  | claimNext {jobId : JobId} {workerId : WorkerId} {leaseDurationMs : Nat}
      (claimable : (db.findJob jobId).any (isClaimable call.now) = true) :
      Ran db call (.claimNext jobId workerId leaseDurationMs)
        ((Statement.claimNext jobId workerId leaseDurationMs).commit call.now db)
  | renewLease {jobId : JobId} {workerId : WorkerId} {leaseDurationMs : Nat} :
      Ran db call (.renewLease jobId workerId leaseDurationMs)
        ((Statement.renewLease jobId workerId leaseDurationMs).commit call.now db)
  | torn {jobId : JobId} {importId : ImportId} {mark : Mark} (holds : db.HoldsJob jobId importId)
      (stopped : call.completed = 1) :
      Ran db call (.updateBoth jobId importId mark)
        ((Statement.updateBothJob jobId mark).commit call.now db)
  | updateBoth {jobId : JobId} {importId : ImportId} {mark : Mark}
      (holds : db.HoldsJob jobId importId) :
      Ran db call (.updateBoth jobId importId mark)
        ((Statement.updateBothImport importId mark).commit call.now
          ((Statement.updateBothJob jobId mark).commit call.now db))
  | releaseJob {jobId : JobId} {workerId : WorkerId} :
      Ran db call (.releaseLease jobId workerId)
        ((Statement.releaseJob jobId workerId).commit call.now db)
  | releaseImport {jobId : JobId} {workerId : WorkerId} {importId : ImportId} :
      Ran db call (.releaseLease jobId workerId)
        ((Statement.releaseImport importId).commit call.now
          ((Statement.releaseJob jobId workerId).commit call.now db))
  | reclaim {maxAttempts : Nat} :
      Ran db call (.reclaimExpiredLeases maxAttempts)
        ((Statement.reclaim maxAttempts (findExpired call.now db) []).commit call.now db)
  | cancel {importId : ImportId} (writing : System.afterRead importId db = .writing importId) :
      Ran db call (.requestCancellation importId) ((Statement.cancel importId).commit call.now db)
  | persistBatch {input : PersistBatchInput}
      (known : (db.findImport input.importId).isSome = true) :
      Ran db call (.persistBatch input) ((Statement.persistBatch input).commit call.now db)

section

variable {db next : Database} {call : Call}

theorem holdsJob_iff_map {jobId : JobId} {importId : ImportId} :
    db.HoldsJob jobId importId ↔ (db.findJob jobId).map JobRow.importId = some importId :=
  Option.map_eq_some_iff.symm

theorem ran_of_single {operation : Operation} {statement : Statement}
    (all : Ran db call operation (statement.commit call.now db)) :
    Ran db call operation (commitAll call.now ([statement].take call.completed) db) := by
  cases call.completed with
  | zero => exact .nothing
  | succ more =>
    rw [List.take_succ_cons, List.take_nil]
    exact all

theorem ran_of_pair {operation : Operation} {first second : Statement}
    (half : call.completed = 1 → Ran db call operation (first.commit call.now db))
    (all : Ran db call operation (second.commit call.now (first.commit call.now db))) :
    Ran db call operation (commitAll call.now ([first, second].take call.completed) db) := by
  match stopped : call.completed with
  | 0 => exact .nothing
  | 1 => exact half stopped
  | more + 2 =>
    rw [List.take_succ_cons, List.take_succ_cons, List.take_nil]
    exact all

theorem afterRead_writing {importId written : ImportId}
    (writing : System.afterRead importId db = .writing written) : written = importId := by
  unfold System.afterRead at writing
  split at writing
  · cases writing
  · split at writing <;> cases writing
    rfl

theorem step_ran (enabled : call.step db = some next) : Ran db call call.operation next := by
  obtain ⟨statements, runs, rfl⟩ := Option.map_eq_some_iff.mp enabled
  cases operation : call.operation with
  | createOrReturnExisting importId jobId storagePath createdAt =>
    rw [operation, Operation.statements] at runs
    split at runs <;> cases runs
    rename_i fresh
    exact ran_of_single (.create fresh)
  | claimNext jobId workerId leaseDurationMs =>
    rw [operation, Operation.statements] at runs
    split at runs <;> cases runs
    rename_i claimable
    exact ran_of_single (.claimNext claimable)
  | renewLease jobId workerId leaseDurationMs =>
    rw [operation] at runs
    cases runs
    exact ran_of_single .renewLease
  | updateBoth jobId importId mark =>
    rw [operation, Operation.statements] at runs
    split at runs <;> cases runs
    rename_i holds
    exact ran_of_pair (.torn (holdsJob_iff_map.mpr holds))
      (.updateBoth (holdsJob_iff_map.mpr holds))
  | releaseLease jobId workerId =>
    rw [operation, Operation.statements] at runs
    split at runs <;> cases runs
    · exact ran_of_pair (fun _ => .releaseJob) .releaseImport
    · exact ran_of_single .releaseJob
  | reclaimExpiredLeases maxAttempts =>
    rw [operation] at runs
    cases runs
    exact ran_of_single .reclaim
  | requestCancellation importId =>
    rw [operation, Operation.statements] at runs
    split at runs <;> cases runs
    · rename_i written writing
      obtain rfl := afterRead_writing writing
      exact ran_of_single (.cancel writing)
    · rw [List.take_nil]
      exact .nothing
  | persistBatch input =>
    rw [operation, Operation.statements] at runs
    split at runs <;> cases runs
    rename_i known
    exact ran_of_single (.persistBatch known)

theorem wellFormed_step (wellFormed : db.WellFormed) (enabled : call.step db = some next) :
    next.WellFormed := by
  have ran := step_ran enabled
  generalize call.operation = operation at ran
  cases ran with
  | nothing => exact wellFormed
  | create fresh => exact Statement.wellFormed_commit wellFormed fresh
  | persistBatch known => exact Statement.wellFormed_commit wellFormed known
  | updateBoth | releaseImport =>
    exact Statement.wellFormed_commit (Statement.wellFormed_commit wellFormed trivial) trivial
  | claimNext | renewLease | torn | releaseJob | reclaim | cancel =>
    exact Statement.wellFormed_commit wellFormed trivial

end

/-! ### Runs of calls -/

/-- Both rows take the status the operation sets out to write, or neither changes. -/
def AllOrNothing (db : Database) (call : Call) (next : Database) : Prop :=
  ∀ importId job row target, db.findJobOf importId = some job →
    db.findImport importId = some row →
    call.operation.target call.now db importId = some target →
    ∃ nextJob nextRow, next.findJobOf importId = some nextJob ∧
      next.findImport importId = some nextRow ∧
      (nextJob.status = target.toJob ∧ nextRow.status = target ∨
        nextJob.status = job.status ∧ nextRow.status = row.status)

/-- A call that writes both rows or neither and leaves all rows in step. -/
def NeverDrifts (db : Database) (call : Call) (next : Database) : Prop :=
  AllOrNothing db call next ∧ next.InStep

/-- An `updateBoth` that stops between its statements finds its status in one of the rows. -/
def NotTorn (db : Database) (call : Call) (_ : Database) : Prop :=
  ∀ jobId importId mark, call.operation = .updateBoth jobId importId mark → call.completed = 1 →
    ∀ job row, db.findJobOf importId = some job → db.findImport importId = some row →
      row.status = mark.status ∨ job.status = mark.status.toJob

section

variable {db next : Database} {call : Call}

/-- What the first statement of a mark leaves of the job. -/
theorem updateBothJob_status (wellFormed : db.WellFormed) {jobId : JobId}
    {marked importId : ImportId} (holds : db.HoldsJob jobId marked) (mark : Mark) (now : Nat)
    {job : JobRow}
    (foundJob : db.findJobOf importId = some job) :
    ((Statement.updateBothJob jobId mark).onJob now job).status =
      if marked = importId then mark.status.toJob else job.status := by
  have belongs : job.importId = importId := lookup_key JobRow.importId foundJob
  have same := wellFormed.holdsJob_iff holds (belongs ▸ foundJob)
  rw [belongs] at same
  rw [Statement.onJob, Statement.setJob_status, Mark.jobData_status]
  by_cases selected : marked = importId
  · rw [if_pos selected, if_pos (beq_iff_eq.mpr (same.mpr selected).symm)]
  · rw [if_neg selected, if_neg fun selects => selected (same.mp (beq_iff_eq.mp selects).symm)]

/-- A torn mark whose status one of the rows already has. -/
theorem torn_inStep (wellFormed : db.WellFormed) (inStep : db.InStep) {jobId : JobId}
    {marked : ImportId} (holds : db.HoldsJob jobId marked) (mark : Mark) (now : Nat)
    (either : ∀ job row, db.findJobOf marked = some job → db.findImport marked = some row →
      row.status = mark.status ∨ job.status = mark.status.toJob) :
    ((Statement.updateBothJob jobId mark).commit now db).InStep := by
  refine inStep_commit trivial fun importId job row foundJob foundImport => ?_
  rw [updateBothJob_status wellFormed holds mark now foundJob]
  have pair := inStep importId job row foundJob foundImport
  split
  · rename_i sameImport
    subst sameImport
    rcases either job row foundJob foundImport with already | already
    · rw [← already]
      exact InStep.toJob row.status
    · rw [← already]
      exact pair
  · exact pair

theorem inStep_step (wellFormed : db.WellFormed) (inStep : db.InStep)
    (enabled : call.step db = some next) (notTorn : NotTorn db call next) : next.InStep := by
  have ran := step_ran enabled
  generalize operation : call.operation = called at ran
  cases ran with
  | nothing => exact inStep
  | create fresh =>
    exact inStep_commit fresh inStep
  | claimNext claimable => exact claimNext_inStep wellFormed inStep _ _ claimable
  | renewLease => exact renewLease_inStep inStep _ _ _
  | torn holds stopped =>
    exact torn_inStep wellFormed inStep holds _ call.now (notTorn _ _ _ operation stopped)
  | updateBoth holds => exact updateBoth_inStep wellFormed inStep holds _
  | releaseJob => exact releaseJob_inStep inStep _ _
  | releaseImport => exact releaseImport_inStep (releaseJob_inStep inStep _ _) _
  | reclaim => exact reclaim_inStep wellFormed inStep _
  | cancel writing => exact cancel_inStep inStep _
  | persistBatch known => exact persistBatch_inStep inStep known

theorem allOrNothing_step (wellFormed : db.WellFormed) (inStep : db.InStep)
    (enabled : call.step db = some next) (notTorn : NotTorn db call next) :
    AllOrNothing db call next := by
  intro importId job row target foundJob foundImport writes
  have ran := step_ran enabled
  generalize operation : call.operation = called at ran
  rw [operation] at writes
  cases ran with
  | nothing => exact ⟨job, row, foundJob, foundImport, Or.inr ⟨rfl, rfl⟩⟩
  | create | claimNext | renewLease | releaseJob | releaseImport | persistBatch => cases writes
  | torn holds stopped =>
    rename_i jobId marked mark
    obtain ⟨sameImport, sameStatus⟩ := Option.ite_none_right_eq_some.mp writes
    obtain rfl := Option.some.inj sameStatus
    refine ⟨_, _, Statement.commit_findJobOf call.now _ foundJob,
      Statement.commit_findImport call.now _ foundImport, ?_⟩
    rw [updateBothJob_status wellFormed holds mark call.now foundJob, if_pos sameImport]
    subst sameImport
    rcases notTorn _ _ _ operation stopped job row foundJob foundImport with already | already
    · exact Or.inl ⟨rfl, already⟩
    · exact Or.inr ⟨already.symm, rfl⟩
  | updateBoth holds =>
    rename_i jobId marked mark
    obtain ⟨sameImport, sameStatus⟩ := Option.ite_none_right_eq_some.mp writes
    obtain rfl := Option.some.inj sameStatus
    have rowId : row.id = importId := lookup_key ImportRow.id foundImport
    refine ⟨_, _, Statement.commit_findJobOf call.now _
        (Statement.commit_findJobOf call.now _ foundJob),
      Statement.commit_findImport call.now _
        (Statement.commit_findImport call.now _ foundImport), Or.inl ⟨?_, ?_⟩⟩
    · show ((Statement.updateBothJob jobId mark).onJob call.now job).status = _
      rw [updateBothJob_status wellFormed holds mark call.now foundJob, if_pos sameImport]
    · simp [Statement.onImport, sameImport, rowId]
  | reclaim =>
    rename_i maxAttempts
    obtain ⟨expired, selects, sameStatus⟩ := Option.map_eq_some_iff.mp writes
    obtain ⟨found, isExpired⟩ := Option.filter_eq_some_iff.mp selects
    rw [foundJob] at found
    obtain rfl := Option.some.inj found
    obtain ⟨jobStatus, rowStatus⟩ := reclaim_status wellFormed maxAttempts foundJob foundImport
      (inStep importId job row foundJob foundImport)
    rw [if_pos isExpired] at jobStatus rowStatus
    rw [← sameStatus]
    exact ⟨_, _, Statement.commit_findJobOf call.now _ foundJob,
      Statement.commit_findImport call.now _ foundImport, Or.inl ⟨jobStatus, rowStatus⟩⟩
  | cancel writing =>
    rename_i cancelled
    obtain ⟨⟨sameImport, _⟩, sameStatus⟩ := Option.ite_none_right_eq_some.mp writes
    obtain rfl := Option.some.inj sameStatus
    have belongs : job.importId = importId := lookup_key JobRow.importId foundJob
    have rowId : row.id = importId := lookup_key ImportRow.id foundImport
    refine ⟨_, _, Statement.commit_findJobOf call.now _ foundJob,
      Statement.commit_findImport call.now _ foundImport, Or.inl ⟨?_, ?_⟩⟩
    · simp [Statement.onJob, sameImport, belongs, ImportRepository.cancelJob, ImportStatus.toJob]
    · simp [Statement.onImport, sameImport, rowId, ImportRepository.cancelImport]

/-- A torn mark that writes both rows or neither finds its status in one of them. -/
theorem notTorn_of_allOrNothing (wellFormed : db.WellFormed) (enabled : call.step db = some next)
    (allOrNothing : AllOrNothing db call next) : NotTorn db call next := by
  intro jobId importId mark operation stopped job row foundJob foundImport
  obtain ⟨statements, runs, rfl⟩ := Option.map_eq_some_iff.mp enabled
  rw [operation, Operation.statements] at runs
  split at runs <;> cases runs
  rename_i holds
  rw [stopped] at allOrNothing
  have half : AllOrNothing db call ((Statement.updateBothJob jobId mark).commit call.now db) :=
    allOrNothing
  have writes : call.operation.target call.now db importId = some mark.status := by
    rw [operation]
    exact if_pos rfl
  obtain ⟨nextJob, nextRow, foundNextJob, foundNextRow, both⟩ :=
    half importId job row mark.status foundJob foundImport writes
  have jobStatus := updateBothJob_status wellFormed (holdsJob_iff_map.mpr holds) mark call.now
    foundJob
  rw [if_pos rfl] at jobStatus
  have sameJob := Option.some.inj
    (foundNextJob.symm.trans (Statement.commit_findJobOf call.now _ foundJob))
  have sameRow := Option.some.inj
    (foundNextRow.symm.trans (Statement.commit_findImport call.now _ foundImport))
  rcases both with ⟨_, taken⟩ | ⟨unchanged, _⟩
  · refine Or.inl ?_
    rw [← taken, sameRow]
    rfl
  · refine Or.inr ?_
    rw [← unchanged, sameJob, jobStatus]

end

/-- In every run of calls that may each stop midway, every call writes both rows or neither and
leaves all jobs in step with their imports exactly when no call tears a mark apart. -/
theorem never_drifts_iff (calls : List Call) :
    Transition.Every Call.step NeverDrifts Database.empty calls ↔
      Transition.Every Call.step NotTorn Database.empty calls := by
  have start : Database.empty.WellFormed ∧ Database.empty.InStep :=
    ⟨Database.wellFormed_empty, fun _ _ _ found => nomatch found⟩
  constructor
  · refine Transition.Every.imp (fun db => db.WellFormed ∧ db.InStep) ?_ ?_ start
    · exact fun db call next holds enabled stays => ⟨wellFormed_step holds.1 enabled, stays.2⟩
    · exact fun db call next holds enabled stays =>
        notTorn_of_allOrNothing holds.1 enabled stays.1
  · refine Transition.Every.imp (fun db => db.WellFormed ∧ db.InStep) ?_ ?_ start
    · exact fun db call next holds enabled notTorn =>
        ⟨wellFormed_step holds.1 enabled, inStep_step holds.1 holds.2 enabled notTorn⟩
    · exact fun db call next holds enabled notTorn =>
        ⟨allOrNothing_step holds.1 holds.2 enabled notTorn,
          inStep_step holds.1 holds.2 enabled notTorn⟩

/-- A job runs to the end of its file, and the process dies between the two statements of
`markCompleted`. -/
def completeHalfway : List Call :=
  [⟨0, .createOrReturnExisting 1 1 [] 0, 1⟩, ⟨0, .claimNext 1 1 120000, 1⟩,
    ⟨0, .updateBoth 1 1 (.processing 0 0), 2⟩]

/-- The job is completed and its import is not. -/
theorem completed_halfway :
    ¬ Transition.Every Call.step NeverDrifts Database.empty
      (completeHalfway ++ [⟨0, .updateBoth 1 1 (.completed 0), 1⟩]) := by
  intro every
  obtain ⟨db, next, ⟨_, inStep⟩, _, after⟩ := every.observe
    (fun db => ((db.findJobOf 1).map JobRow.status, (db.findImport 1).map ImportRow.status))
    (show _ = some ((some .PROCESSING, some .PROCESSING), (some .COMPLETED, some .PROCESSING))
      by decide)
  obtain ⟨jobAfter, importAfter⟩ := Prod.mk.inj after
  obtain ⟨job, foundJob, jobStatus⟩ := Option.map_eq_some_iff.mp jobAfter
  obtain ⟨row, foundImport, rowStatus⟩ := Option.map_eq_some_iff.mp importAfter
  have ended := (inStep 1 job row foundJob foundImport).terminal
    (Or.inl (by rw [jobStatus]; rfl))
  rw [jobStatus, rowStatus] at ended
  cases ended

end ImportService
