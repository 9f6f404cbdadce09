/-
This file asks whether the number of claims of a job is bounded by `MAX_JOB_ATTEMPTS`.
Only `claimNext` counts an attempt and it does not look at the count, so the bound holds
exactly as long as every job it picks is below the limit (`attempts_bounded_iff`). Three
paths hand it a job at the limit: its own query picks a job whose lease has expired, the
release on shutdown re-queues any job, and a sweep resets a job that was claimed again
since the sweep read it. Were all three to check the count, the bound would hold
(`attempts_bounded_of_recovers`). The first path alone breaks it, before any sweep has
run (`claimed_past_limit`).
-/

import ImportService.System

namespace ImportService

open JobRepository ProcessImportFile JobPollerService

namespace Statement

/-- The statement claims the job. -/
def claims (jobId : JobId) : Statement → Bool
  | .claimNext claimed _ _ => claimed == jobId
  | .create _ _ _ _ | .renewLease _ _ _ | .updateBothJob _ _ | .updateBothImport _ _
  | .releaseJob _ _ | .releaseImport _ | .reclaim _ _ _ | .cancel _ | .persistBatch _ => false

/-- The statement takes the job out of its lease, to claim it or to queue it again. -/
def recovers (row : JobRow) : Statement → Bool
  | .claimNext jobId _ _ => jobId == row.id && isLeasedStatus row.status
  | .releaseJob jobId workerId => isReleasable jobId workerId row
  | .reclaim maxAttempts sweep _ => selectsJob (sweep.toReset maxAttempts) row
  | .create _ _ _ _ | .renewLease _ _ _ | .updateBothJob _ _ | .updateBothImport _ _
  | .releaseImport _ | .cancel _ | .persistBatch _ => false

theorem setJob_attemptCount (now : Nat) (selects : JobRow → Bool) (data : JobRow → JobRow)
    (keeps : ∀ row, (data row).attemptCount = row.attemptCount) (row : JobRow) :
    (setJob now selects data row).attemptCount = row.attemptCount :=
  setJob_keeps JobRow.attemptCount now selects data keeps row

theorem jobData_attemptCount (mark : Mark) (row : JobRow) :
    (mark.jobData row).attemptCount = row.attemptCount := by
  cases mark <;> rfl

/-- A claim counts one attempt, and nothing else changes the count. -/
theorem onJob_attemptCount (now : Nat) (statement : Statement) (row : JobRow) :
    (statement.onJob now row).attemptCount =
      if statement.claims row.id then row.attemptCount + 1 else row.attemptCount := by
  cases statement with
  | claimNext jobId workerId duration =>
    rw [onJob, setJob_field JobRow.attemptCount (fun _ _ => rfl), claims, Bool.beq_comm]
    rfl
  | renewLease jobId workerId duration =>
    exact setJob_attemptCount now _ (renewData duration now) (fun _ => rfl) row
  | updateBothJob jobId mark =>
    exact setJob_attemptCount now _ mark.jobData (jobData_attemptCount mark) row
  | releaseJob jobId workerId => exact setJob_attemptCount now _ toPending (fun _ => rfl) row
  | reclaim maxAttempts sweep passed =>
    exact (setJob_attemptCount now _ toPending (fun _ => rfl) _).trans
      (setJob_attemptCount now _ abandonJob (fun _ => rfl) row)
  | cancel importId =>
    exact setJob_attemptCount now _ ImportRepository.cancelJob (fun _ => rfl) row
  | create | updateBothImport | releaseImport | persistBatch => rfl

/-- A job pending after a statement was pending before it or was queued again, and the
statement did not claim it. -/
theorem onJob_pending {now : Nat} {statement : Statement} {row : JobRow}
    (pending : (statement.onJob now row).status = .PENDING) :
    (row.status = .PENDING ∨ statement.recovers row = true) ∧
      statement.claims row.id = false := by
  cases statement with
  | claimNext jobId workerId duration =>
    simp only [onJob, setJob_status, claimData] at pending
    split at pending
    · cases pending
    · rename_i notSelected
      refine ⟨Or.inl pending, ?_⟩
      rwa [claims, Bool.beq_comm, ← Bool.not_eq_true]
  | renewLease jobId workerId duration =>
    simp only [onJob, setJob_status, renewData, ite_self] at pending
    exact ⟨Or.inl pending, rfl⟩
  | updateBothJob jobId mark =>
    simp only [onJob, setJob_status, Mark.jobData_status] at pending
    split at pending
    · cases mark <;> cases pending
    · exact ⟨Or.inl pending, rfl⟩
  | releaseJob jobId workerId =>
    simp only [onJob, setJob_status] at pending
    split at pending
    · rename_i selected
      exact ⟨Or.inr selected, rfl⟩
    · exact ⟨Or.inl pending, rfl⟩
  | reclaim maxAttempts sweep passed =>
    refine ⟨?_, rfl⟩
    simp only [onJob, setJob_status, selectsJob_abandonJob] at pending
    split at pending
    · rename_i selected
      exact Or.inr selected
    · split at pending
      · cases pending
      · exact Or.inl pending
  | cancel importId =>
    simp only [onJob, setJob_status] at pending
    split at pending
    · cases pending
    · exact ⟨Or.inl pending, rfl⟩
  | create | updateBothImport | releaseImport | persistBatch => exact ⟨Or.inl pending, rfl⟩

end Statement

namespace System

/-- No job was claimed more often than the limit. -/
def AttemptsBounded (config : Config) (state : State) : Prop :=
  ∀ jobId row, state.db.findJob jobId = some row → row.attemptCount ≤ config.maxJobAttempts

/-- If the step claims a job, the job is below the limit. -/
def ClaimsBelowLimit (ports : Ports) (config : Config) (state : State) (action : Action)
    (_ : State) : Prop :=
  ∀ jobId row statement, state.db.findJob jobId = some row →
    emitted ports config state action = some statement → statement.claims jobId = true →
      row.attemptCount < config.maxJobAttempts

/-- If the step recovers a job, by a claim after its lease has expired, a release or a sweep,
the job is below the limit. -/
def RecoversBelowLimit (ports : Ports) (config : Config) (state : State) (action : Action)
    (_ : State) : Prop :=
  ∀ jobId row statement, state.db.findJob jobId = some row →
    emitted ports config state action = some statement → statement.recovers row = true →
      row.attemptCount < config.maxJobAttempts

/-- A pending job may be claimed once more. -/
def PendingBelowLimit (config : Config) (state : State) : Prop :=
  ∀ jobId row, state.db.findJob jobId = some row → row.status = .PENDING →
    row.attemptCount < config.maxJobAttempts

variable {ports : Ports} {config : Config} {state next : State} {action : Action}

theorem attemptsBounded_step_iff (bounded : AttemptsBounded config state)
    (enabled : step ports config state action = some next) :
    AttemptsBounded config next ↔ ClaimsBelowLimit ports config state action next := by
  constructor
  · intro boundedAfter jobId row statement found emits claims
    have rowId : row.id = jobId := KeyedTable.lookup_key JobRow.id found
    have after := boundedAfter jobId _ (step_findJob enabled found)
    rw [emits, onJob, Statement.onJob_attemptCount, rowId, if_pos claims] at after
    exact after
  · intro below jobId row found
    rcases findJob_step enabled found with ⟨old, foundOld, rfl⟩ | ⟨_, _, _, _, rfl⟩
    · cases emits : emitted ports config state action with
      | none => exact bounded jobId old foundOld
      | some statement =>
        have rowId : old.id = jobId := KeyedTable.lookup_key JobRow.id foundOld
        rw [onJob, Statement.onJob_attemptCount, rowId]
        split
        · rename_i claims
          exact below jobId old statement foundOld emits claims
        · exact bounded jobId old foundOld
    · exact Nat.zero_le _

/-- In a run from empty tables, the number of claims of every job stays within the limit in
every state exactly when every claim picks a job below the limit. -/
theorem attempts_bounded_iff (now : Nat) (schedule : List Action) :
    Transition.Always (step ports config) (AttemptsBounded config) (initial now Database.empty)
        schedule ↔
      Transition.Every (step ports config) (ClaimsBelowLimit ports config)
        (initial now Database.empty) schedule := by
  refine Transition.always_iff_every (fun _ => True) (fun _ _ _ _ _ => trivial) ?_ trivial ?_
    schedule
  · exact fun state action next _ bounded enabled => attemptsBounded_step_iff bounded enabled
  · exact fun jobId row found => nomatch found

/-- Workers 2, 3 and 4 each claim the job after its lease has expired, and no worker sweeps
in the meantime. -/
def claimAfterExpiry : List Action :=
  [upload 1] ++ startUp 1 ++ startUp 2 ++ startUp 3 ++ startUp 4 ++
    [.work 1 (.claimNext 1 .acknowledged), .work 1 .crash, .advance 120001,
      .work 2 (.claimNext 1 .acknowledged), .work 2 .crash, .advance 120001,
      .work 3 (.claimNext 1 .acknowledged), .work 3 .crash, .advance 120001,
      .work 4 (.claimNext 1 .acknowledged)]

/-- With a limit of three attempts, the job is claimed a fourth time. -/
theorem claimed_past_limit :
    ¬ Transition.Always (step emptyFilePorts defaultConfig) (AttemptsBounded defaultConfig)
      (initial 0 Database.empty) claimAfterExpiry := by
  intro always
  obtain ⟨state, bounded, seen⟩ := always.observe
    (fun state => (state.db.findJob 1).map JobRow.attemptCount)
    (show _ = some (some 4) by decide)
  obtain ⟨row, found, attempts⟩ := Option.map_eq_some_iff.mp seen
  have within := bounded 1 row found
  rw [attempts] at within
  exact absurd within (by decide)

/-! ### The paths to a job at the limit -/

theorem pendingBelowLimit_step (positive : 1 ≤ config.maxJobAttempts)
    (pendingBelow : PendingBelowLimit config state)
    (enabled : step ports config state action = some next)
    (recoversBelow : RecoversBelowLimit ports config state action next) :
    PendingBelowLimit config next := by
  intro jobId row found pending
  rcases findJob_step enabled found with ⟨old, foundOld, rfl⟩ | ⟨_, _, _, _, rfl⟩
  · cases emits : emitted ports config state action with
    | none =>
      rw [emits] at pending
      exact pendingBelow jobId old foundOld pending
    | some statement =>
      rw [emits] at pending
      obtain ⟨before, notClaimed⟩ := Statement.onJob_pending pending
      rw [onJob, Statement.onJob_attemptCount, notClaimed, if_neg Bool.false_ne_true]
      rcases before with wasPending | recovered
      · exact pendingBelow jobId old foundOld wasPending
      · exact recoversBelow jobId old statement foundOld emits recovered
  · exact positive

theorem claimsBelowLimit_of_recovers (pendingBelow : PendingBelowLimit config state)
    (recoversBelow : RecoversBelowLimit ports config state action next) :
    ClaimsBelowLimit ports config state action next := by
  intro jobId row statement found emits claims
  have rowId : row.id = jobId := KeyedTable.lookup_key JobRow.id found
  have recovers := recoversBelow jobId row statement found emits
  cases emitted_origin emits with
  | claimNext polling picked claimable =>
    obtain rfl := beq_iff_eq.mp claims
    rw [found] at picked
    cases picked
    rcases Bool.or_eq_true_iff.mp claimable with pending | expired
    · exact pendingBelow _ row found (beq_iff_eq.mp pending)
    · refine recovers ?_
      rw [Statement.recovers, rowId, beq_self_eq_true, (Bool.and_eq_true_iff.mp expired).1]
      rfl
  | execute executing calls => cases calls <;> cases claims
  | create | cancel | reclaim | releaseJob | releaseImport => cases claims

/-- The bound holds in every state of a run in which every path that recovers a job checks the
number of its claims. -/
theorem attempts_bounded_of_recovers (positive : 1 ≤ config.maxJobAttempts) (now : Nat)
    (schedule : List Action)
    (recoversBelow : Transition.Every (step ports config) (RecoversBelowLimit ports config)
      (initial now Database.empty) schedule) :
    Transition.Always (step ports config) (AttemptsBounded config) (initial now Database.empty)
      schedule := by
  refine (attempts_bounded_iff now schedule).mpr ?_
  refine Transition.Every.imp (PendingBelowLimit config) ?_ ?_ ?_ recoversBelow
  · exact fun state action next pendingBelow enabled below =>
      pendingBelowLimit_step positive pendingBelow enabled below
  · exact fun state action next pendingBelow _ below =>
      claimsBelowLimit_of_recovers pendingBelow below
  · exact fun jobId row found => nomatch found

/-- A test for a step that recovers no job at the limit. -/
def recoversBelowLimit (ports : Ports) (config : Config) (state : State) (action : Action) :
    Bool :=
  (emitted ports config state action).all fun statement =>
    state.db.jobs.all fun row => !statement.recovers row || row.attemptCount < config.maxJobAttempts

theorem recoversBelowLimit_of_test
    (below : recoversBelowLimit ports config state action = true) :
    RecoversBelowLimit ports config state action next := by
  intro jobId row statement found emits recovers
  rw [recoversBelowLimit, emits, Option.all_some, List.all_eq_true] at below
  have belowRow := below row (KeyedTable.lookup_mem JobRow.id found)
  rw [recovers, Bool.not_true, Bool.false_or] at belowRow
  exact of_decide_eq_true belowRow

/-- One more attempt than by default. -/
def fourAttempts : Config := { defaultConfig with maxJobAttempts := 4 }

/-- An error escapes worker 1, which stops and releases the job. Worker 2 claims it and crashes,
and worker 3 sweeps it when its lease has run out. Worker 3 claims it and crashes, and worker 4
claims it when that lease has run out, for the fourth time. -/
def recoverThrice : List Action :=
  [upload 1] ++ startUp 1 ++ startUp 2 ++ startUp 4 ++
    [.work 1 (.claimNext 1 .acknowledged), .work 1 (.reply (.fail false .unknown)),
      .work 1 .stop, .work 1 (.releaseJob .acknowledged), .work 1 (.releaseImport .acknowledged),
      .work 2 (.claimNext 1 .acknowledged), .work 2 .crash, .advance 120001, .work 3 .start,
      .work 3 (.findExpired true), .work 3 (.reclaim .acknowledged []),
      .work 3 (.claimNext 1 .acknowledged), .work 3 .crash, .advance 120001,
      .work 4 (.claimNext 1 .acknowledged)]

theorem attempts_bounded_recoverThrice :
    (Transition.run (step emptyFilePorts fourAttempts) (initial 0 Database.empty)
        recoverThrice).bind (fun state => (state.db.findJob 1).map JobRow.attemptCount) = some 4 ∧
      Transition.Always (step emptyFilePorts fourAttempts) (AttemptsBounded fourAttempts)
        (initial 0 Database.empty) recoverThrice :=
  ⟨by decide +kernel, attempts_bounded_of_recovers (by decide) 0 recoverThrice
    (Transition.every_of_checkEvery (fun _ _ _ => recoversBelowLimit_of_test)
      (by decide +kernel))⟩

end System

end ImportService
