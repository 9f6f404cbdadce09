/-
This file models a worker process: `JobPollerService` from its start to its stop, with
the execution of the job it has claimed as one of its phases.

A worker takes one step for each call that ends. A crash can come between any two of
them; a crash while a write is on its way is the lost answer followed by the crash. A
process that starts again has a new worker id, so it is another worker here.
-/

import ImportService.ProcessImportFile

namespace ImportService

open JobRepository ProcessImportFile

/-- The environment variables. The batch size may differ from process to process. -/
structure Config where
  batchSize : WorkerId → Nat
  leaseDurationMs : Nat
  maxJobAttempts : Nat
  reclaimIntervalMs : Nat

/-- How a write ends for its caller: answered, committed with the answer lost, or not
committed. -/
inductive Ack
  | acknowledged
  | lost
  | failed
  deriving DecidableEq

/-- The statement is committed, whether the party is told so or not. -/
def Ack.committed : Ack → Bool
  | .acknowledged | .lost => true
  | .failed => false

/-- A write, if it was committed. -/
def Ack.issued (ack : Ack) (statement : Statement) : Option Statement :=
  if ack.committed then some statement else none

namespace JobPollerService

/-- Where a worker is. `stopping` is `stop` after the loop has ended, and `releasing` is
between the two statements of `releaseLease`. -/
inductive Phase
  | notStarted
  | reclaiming
  | sweeping (sweep : Sweep)
  | polling
  | executing (job : ClaimedJob) (point : Point)
  | stopping
  | releasing (importId : ImportId)
  | stopped
  | crashed
  deriving DecidableEq

/-- A worker and what it remembers. -/
structure Worker where
  phase : Phase
  currentJob : Option ClaimedJob
  lastReclaimAt : Nat

/-- A worker that has not started. -/
def Worker.new : Worker where
  phase := .notStarted
  currentJob := none
  lastReclaimAt := 0

/-- What happens to a worker: the answer to what it awaits, the signal to stop, or its end. -/
inductive Event
  | start
  | findExpired (answered : Bool)
  | reclaim (ack : Ack) (passed : List ImportId)
  | claimNone
  | claimNext (jobId : JobId) (ack : Ack)
  | reply (reply : Reply)
  | stop
  | releaseJob (ack : Ack)
  | releaseImport (ack : Ack)
  | crash

/-- The `findMany` of a sweep. Errors of a sweep are caught and logged. -/
def afterFindExpired (now : Nat) (db : Database) (answered : Bool) : Phase :=
  if answered && !(findExpired now db).expired.isEmpty then .sweeping (findExpired now db)
  else .polling

/-- `claimNext` answers `null`, as no job is claimable or other claims hold the locks. -/
def afterClaimNone (reclaimIntervalMs now : Nat) (worker : Worker) : Worker :=
  if worker.lastReclaimAt + reclaimIntervalMs < now then
    { worker with phase := .reclaiming, lastReclaimAt := now }
  else worker

/-- A claim whose answer does not come is one the worker knows nothing of. -/
def afterClaim (workerId : WorkerId) (row : JobRow) (worker : Worker) : Ack → Worker
  | .acknowledged =>
      { worker with
        phase := .executing (claimed workerId row) .findByImportId
        currentJob := some (claimed workerId row) }
  | .lost | .failed => worker

/-- The poller after `execute` goes on, returns or throws. -/
def afterExecute (job : ClaimedJob) (worker : Worker) : Outcome → Worker
  | .awaiting point => { worker with phase := .executing job point }
  | .resolved => { worker with phase := .polling, currentJob := none }
  | .rejected .shutdownInterrupted => { worker with phase := .stopping }
  | .rejected _ => { worker with phase := .polling }

/-- `releaseLease` after its first statement. -/
def afterReleaseJob (workerId : WorkerId) (job : ClaimedJob) (db : Database) : Ack → Phase
  | .acknowledged =>
      match db.findJob job.id with
      | some row => if isReleasable job.id workerId row then .releasing row.importId else .stopped
      | none => .stopped
  | .lost | .failed => .stopped

/-- The write an event commits, and the worker after it; `none` if the worker is not at the
call the event ends. -/
def step (ports : Ports) (config : Config) (db : Database) (now : Nat) (workerId : WorkerId)
    (worker : Worker) : Event → Option (Option Statement × Worker)
  | .start =>
      match worker.phase with
      | .notStarted => some (none, { worker with phase := .reclaiming, lastReclaimAt := now })
      | _ => none
  | .findExpired answered =>
      match worker.phase with
      | .reclaiming => some (none, { worker with phase := afterFindExpired now db answered })
      | _ => none
  | .reclaim ack passed =>
      match worker.phase with
      | .sweeping sweep =>
          some (ack.issued (.reclaim config.maxJobAttempts sweep passed),
            { worker with phase := .polling })
      | _ => none
  | .claimNone =>
      match worker.phase with
      | .polling => some (none, afterClaimNone config.reclaimIntervalMs now worker)
      | _ => none
  | .claimNext jobId ack =>
      match worker.phase, db.findJob jobId with
      | .polling, some row =>
          if isClaimable now row then
            some (ack.issued (.claimNext jobId workerId config.leaseDurationMs),
              afterClaim workerId row worker ack)
          else none
      | _, _ => none
  | .reply reply =>
      match worker.phase with
      | .executing job point =>
          (resume ports (config.batchSize workerId) db now job point reply).map fun outcome =>
            (issued job point reply, afterExecute job worker outcome)
      | _ => none
  | .stop =>
      match worker.phase with
      | .polling => some (none, { worker with phase := .stopping })
      | .stopping =>
          if worker.currentJob.isNone then some (none, { worker with phase := .stopped }) else none
      | _ => none
  | .releaseJob ack =>
      match worker.phase, worker.currentJob with
      | .stopping, some job =>
          some (ack.issued (.releaseJob job.id workerId),
            { worker with phase := afterReleaseJob workerId job db ack, currentJob := none })
      | _, _ => none
  | .releaseImport ack =>
      match worker.phase with
      | .releasing importId =>
          some (ack.issued (.releaseImport importId), { worker with phase := .stopped })
      | _ => none
  | .crash =>
      match worker.phase with
      | .stopped | .crashed => none
      | _ => some (none, { worker with phase := .crashed })

/-! ### What a worker enters -/

/-- A phase that carries no data. -/
def Phase.isBare : Phase → Bool
  | .sweeping _ | .executing _ _ | .releasing _ => false
  | .notStarted | .reclaiming | .polling | .stopping | .stopped | .crashed => true

/-- The ways into the phases that carry data. -/
inductive Entered (ports : Ports) (config : Config) (db : Database) (now : Nat)
    (workerId : WorkerId) (worker : Worker) : Event → Option Statement → Phase → Prop
  | claimed {jobId : JobId} {row : JobRow} (polling : worker.phase = .polling)
      (found : db.findJob jobId = some row) (claimable : isClaimable now row = true) :
      Entered ports config db now workerId worker (.claimNext jobId .acknowledged)
        (some (.claimNext jobId workerId config.leaseDurationMs))
        (.executing (claimed workerId row) .findByImportId)
  | resumed {job : ClaimedJob} {old point : Point} {reply : Reply}
      (executing : worker.phase = .executing job old)
      (awaiting : resume ports (config.batchSize workerId) db now job old reply =
        some (.awaiting point)) :
      Entered ports config db now workerId worker (.reply reply) (issued job old reply)
        (.executing job point)
  | swept : Entered ports config db now workerId worker (.findExpired true) none
      (.sweeping (findExpired now db))
  | released {job : ClaimedJob} {row : JobRow} (current : worker.currentJob = some job)
      (found : db.findJob job.id = some row)
      (releasable : isReleasable job.id workerId row = true) :
      Entered ports config db now workerId worker (.releaseJob .acknowledged)
        (some (.releaseJob job.id workerId)) (.releasing row.importId)
  | bare {event : Event} {statement : Option Statement} {phase : Phase}
      (isBare : phase.isBare = true) :
      Entered ports config db now workerId worker event statement phase

section

variable {ports : Ports} {config : Config} {db : Database} {now : Nat} {workerId : WorkerId}
  {worker : Worker}

theorem entered_findExpired (answered : Bool) :
    Entered ports config db now workerId worker (.findExpired answered) none
      (afterFindExpired now db answered) := by
  cases answered with
  | false => exact .bare rfl
  | true =>
    unfold afterFindExpired
    split
    · exact .swept
    · exact .bare rfl

theorem entered_claim {jobId : JobId} {row : JobRow} (polling : worker.phase = .polling)
    (found : db.findJob jobId = some row) (claimable : isClaimable now row = true) (ack : Ack) :
    Entered ports config db now workerId worker (.claimNext jobId ack)
      (ack.issued (.claimNext jobId workerId config.leaseDurationMs))
      (afterClaim workerId row worker ack).phase := by
  cases ack with
  | acknowledged => exact .claimed polling found claimable
  | lost | failed => exact .bare (by rw [afterClaim, polling]; rfl)

theorem entered_execute {job : ClaimedJob} {old : Point} {reply : Reply} {outcome : Outcome}
    (executing : worker.phase = .executing job old)
    (resumed : resume ports (config.batchSize workerId) db now job old reply = some outcome) :
    Entered ports config db now workerId worker (.reply reply) (issued job old reply)
      (afterExecute job worker outcome).phase := by
  cases outcome with
  | awaiting point => exact .resumed executing resumed
  | resolved => exact .bare rfl
  | rejected failure => cases failure <;> exact .bare rfl

theorem entered_releaseJob {job : ClaimedJob} (current : worker.currentJob = some job)
    (ack : Ack) :
    Entered ports config db now workerId worker (.releaseJob ack)
      (ack.issued (.releaseJob job.id workerId)) (afterReleaseJob workerId job db ack) := by
  cases ack with
  | acknowledged =>
    simp only [afterReleaseJob]
    split
    · rename_i row found
      split
      · rename_i releasable
        exact .released current found releasable
      · exact .bare rfl
    · exact .bare rfl
  | lost | failed => exact .bare rfl

/-- Every step enters a phase in one of these ways. -/
theorem step_entered {event : Event} {statement : Option Statement} {next : Worker}
    (enabled : step ports config db now workerId worker event = some (statement, next)) :
    Entered ports config db now workerId worker event statement next.phase := by
  cases event with
  | findExpired answered =>
    rw [step] at enabled
    split at enabled <;> cases enabled
    exact entered_findExpired answered
  | claimNext jobId ack =>
    rw [step] at enabled
    split at enabled
    · rename_i row polling found
      split at enabled <;> cases enabled
      rename_i claimable
      exact entered_claim polling found claimable ack
    · cases enabled
  | claimNone =>
    rw [step] at enabled
    split at enabled <;> cases enabled
    rename_i polling
    unfold afterClaimNone
    split
    · exact .bare rfl
    · exact .bare (by rw [polling]; rfl)
  | reply reply =>
    rw [step] at enabled
    split at enabled
    · rename_i job old executing
      obtain ⟨outcome, resumed, result⟩ := Option.map_eq_some_iff.mp enabled
      cases result
      exact entered_execute executing resumed
    · cases enabled
  | releaseJob ack =>
    rw [step] at enabled
    split at enabled <;> cases enabled
    rename_i job stopping current
    exact entered_releaseJob current ack
  | stop =>
    rw [step] at enabled
    split at enabled
    · cases enabled
      exact .bare rfl
    · split at enabled <;> cases enabled
      exact .bare rfl
    · cases enabled
  | start | reclaim | releaseImport | crash =>
    rw [step] at enabled
    split at enabled <;> cases enabled
    exact .bare rfl

/-- A worker that executes a job crashes or gets a reply. -/
theorem step_from_executing {job : ClaimedJob} {point : Point} {event : Event}
    {statement : Option Statement} {next : Worker}
    (executing : worker.phase = .executing job point)
    (enabled : step ports config db now workerId worker event = some (statement, next)) :
    (event = .crash ∧ statement = none ∧ next.phase = .crashed) ∨
      ∃ reply outcome, event = .reply reply ∧
        resume ports (config.batchSize workerId) db now job point reply = some outcome ∧
        statement = issued job point reply ∧ next = afterExecute job worker outcome := by
  cases event with
  | crash =>
    rw [step, executing] at enabled
    cases enabled
    exact Or.inl ⟨rfl, rfl, rfl⟩
  | reply reply =>
    rw [step, executing] at enabled
    obtain ⟨outcome, resumed, result⟩ := Option.map_eq_some_iff.mp enabled
    cases result
    exact Or.inr ⟨reply, outcome, rfl, resumed, rfl, rfl⟩
  | start | findExpired | reclaim | claimNone | claimNext | stop | releaseJob | releaseImport =>
    rw [step, executing] at enabled
    cases enabled

end

end JobPollerService

end ImportService
