/-
This file asks what a worker leaves behind when it stops: no job should be `CLAIMED` or
`PROCESSING` under its lease, and it should have put no job back that it had completed.

The poller remembers one job, and `stop` gives that one back. After an error that escaped
`execute` the loop goes on, and the next claim overwrites the job whose lease the worker
still has; nobody gives that lease back (`escaped_then_claimed`). The same becomes of a
claim that is committed while its answer is lost, and of a job that another worker marks
`PROCESSING` again after this one has ended it. These are the only ways
(`gives_back_of_spared`).
-/

import ImportService.Cancellation

namespace ImportService.Releases

open KeyedTable JobRepository ProcessImportFile JobPollerService ImportService.System

/-! ### What a worker has done -/

/-- A run as one worker goes through it: the jobs it has completed, those of them it has put
back since, and whether a statement of its `releaseLease` has failed. -/
structure Watched where
  system : System.State
  completed : List JobId
  requeued : List JobId
  releaseFailed : Bool

/-- The system before its first step. -/
def start (now : Nat) : Watched where
  system := initial now Database.empty
  completed := []
  requeued := []
  releaseFailed := false

/-- The worker makes the step. -/
def isStepOf (workerId : WorkerId) : Action → Bool
  | .work mover _ => mover == workerId
  | .advance _ | .create _ _ _ _ | .requestCancellation _ _ | .cancel _ _ => false

/-- The job a step of the worker marks `COMPLETED`. -/
def completedBy (workerId : WorkerId) (action : Action) : Option Statement → List JobId
  | some (.updateBothJob jobId (.completed _)) => if isStepOf workerId action then [jobId] else []
  | _ => []

/-- The jobs of a list that a step of the worker turns `PENDING`. -/
def requeuedBy (workerId : WorkerId) (action : Action) (before after : Database)
    (jobs : List JobId) : List JobId :=
  if isStepOf workerId action then
    jobs.filter fun jobId =>
      JobRepository.getStatus jobId before != some .PENDING &&
        JobRepository.getStatus jobId after == some .PENDING
  else []

/-- A statement of the worker's `releaseLease` fails, or its answer is lost. -/
def failsRelease (workerId : WorkerId) : Action → Bool
  | .work mover (.releaseJob ack) | .work mover (.releaseImport ack) =>
      mover == workerId && ack != .acknowledged
  | _ => false

/-- A step of the system with what is observed of it. -/
def step (ports : Ports) (config : Config) (workerId : WorkerId) (watched : Watched)
    (action : Action) : Option Watched :=
  (System.step ports config watched.system action).map fun next =>
    { system := next
      completed :=
        completedBy workerId action (emitted ports config watched.system action) ++
          watched.completed
      requeued :=
        requeuedBy workerId action watched.system.db next.db watched.completed ++
          watched.requeued
      releaseFailed := watched.releaseFailed || failsRelease workerId action }

/-! ### What is asked -/

/-- The job is `CLAIMED` or `PROCESSING` under the worker's lease. -/
def Held (workerId : WorkerId) (row : JobRow) : Prop :=
  row.leasedBy = some workerId ∧ isLeasedStatus row.status = true

/-- The worker holds no job once it has stopped, unless a release failed, and has put back no job
it had completed. -/
structure GivesBack (workerId : WorkerId) (watched : Watched) : Prop where
  released : (watched.system.workers workerId).phase = .stopped → watched.releaseFailed = false →
    ∀ row ∈ watched.system.db.jobs, ¬Held workerId row
  requeued : watched.requeued = []

/-- The worker would give the job back, if it stopped where its execution throws. Once only the
last call of the execution is left, it would not. -/
def Remembers (worker : Worker) (jobId : JobId) : Prop :=
  (∃ job, worker.currentJob = some job ∧ job.id = jobId) ∧
    ∀ job point, worker.phase = .executing job point → point.isLast = false

/-- No answer to a claim of the worker is lost, it gets no other job while it holds the one it
remembers, and no other party reopens a job it has completed or marks a job `PROCESSING` that
was left under its lease and that it does not remember. -/
structure Spared (ports : Ports) (config : Config) (workerId : WorkerId) (watched : Watched)
    (action : Action) : Prop where
  answered : ∀ jobId, action ≠ .work workerId (.claimNext jobId .lost)
  claims : ∀ jobId, action = .work workerId (.claimNext jobId .acknowledged) →
    ∀ job row, (watched.system.workers workerId).currentJob = some job →
      watched.system.db.findJob job.id = some row → Held workerId row → job.id = jobId
  reopens : ∀ statement, isStepOf workerId action = false →
    emitted ports config watched.system action = some statement →
    ∀ jobId row, watched.system.db.findJob jobId = some row → statement.ReopensJob row →
      jobId ∉ watched.completed
  marks : ∀ jobId mark, isStepOf workerId action = false →
    emitted ports config watched.system action = some (.updateBothJob jobId mark) →
    mark.status = .PROCESSING →
    ∀ row, watched.system.db.findJob jobId = some row → row.leasedBy = some workerId →
      Held workerId row ∨ Remembers (watched.system.workers workerId) jobId

/-! ### The memory of a worker -/

section

variable {ports : Ports} {config : Config} {db : Database} {now : Nat} {workerId : WorkerId}
  {worker next : Worker} {event : Event} {statement : Option Statement}

/-- The worker remembers the job it executes, and no job once it has released. -/
structure Mindful (worker : Worker) : Prop where
  executing : ∀ job point, worker.phase = .executing job point → worker.currentJob = some job
  stopped : worker.phase = .stopped → worker.currentJob = none
  releasing : ∀ importId, worker.phase = .releasing importId → worker.currentJob = none

/-- Phases in which nothing is asked of the memory. -/
def Phase.isIdle : Phase → Bool
  | .executing _ _ | .stopped | .releasing _ => false
  | .notStarted | .reclaiming | .sweeping _ | .polling | .stopping | .crashed => true

theorem mindful_of_isIdle (isIdle : Phase.isIdle worker.phase = true) : Mindful worker where
  executing := fun job point executing => by rw [executing] at isIdle; cases isIdle
  stopped := fun stopped => by rw [stopped] at isIdle; cases isIdle
  releasing := fun importId releasing => by rw [releasing] at isIdle; cases isIdle

theorem mindful_of_forgotten (notExecuting : ∀ job point, worker.phase ≠ .executing job point)
    (forgotten : worker.currentJob = none) : Mindful worker where
  executing := fun job point executing => absurd executing (notExecuting job point)
  stopped := fun _ => forgotten
  releasing := fun _ _ => forgotten

theorem mindful_of_executing {job : ClaimedJob} {point : Point}
    (executing : worker.phase = .executing job point) (current : worker.currentJob = some job) :
    Mindful worker where
  executing := by
    intro other later same
    cases executing.symm.trans same
    exact current
  stopped := fun stopped => by cases executing.symm.trans stopped
  releasing := fun importId releasing => by cases executing.symm.trans releasing

theorem mindful_afterExecute (mindful : Mindful worker) {job : ClaimedJob} {point : Point}
    (executing : worker.phase = .executing job point) (outcome : Outcome) :
    Mindful (afterExecute job worker outcome) := by
  cases outcome with
  | awaiting later => exact mindful_of_executing rfl (mindful.executing job point executing)
  | resolved => exact mindful_of_isIdle rfl
  | rejected failure => cases failure <;> exact mindful_of_isIdle rfl

theorem mindful_step (mindful : Mindful worker)
    (moved : JobPollerService.step ports config db now workerId worker event =
      some (statement, next)) : Mindful next := by
  cases event with
  | findExpired answered =>
    rw [JobPollerService.step] at moved
    split at moved <;> cases moved
    refine mindful_of_isIdle ?_
    simp only [afterFindExpired]
    split <;> rfl
  | claimNone =>
    rw [JobPollerService.step] at moved
    split at moved <;> cases moved
    rename_i polling
    unfold afterClaimNone
    split
    · exact mindful_of_isIdle rfl
    · exact mindful
  | claimNext jobId ack =>
    rw [JobPollerService.step] at moved
    split at moved
    · split at moved <;> cases moved
      cases ack with
      | acknowledged => exact mindful_of_executing rfl rfl
      | lost | failed => exact mindful
    · cases moved
  | reply reply =>
    rw [JobPollerService.step] at moved
    split at moved
    · rename_i job point executing
      obtain ⟨outcome, _, result⟩ := Option.map_eq_some_iff.mp moved
      cases result
      exact mindful_afterExecute mindful executing outcome
    · cases moved
  | stop =>
    rw [JobPollerService.step] at moved
    split at moved
    · cases moved
      exact mindful_of_isIdle rfl
    · split at moved <;> cases moved
      rename_i forgotten
      exact mindful_of_forgotten (fun _ _ => Phase.noConfusion)
        (Option.isNone_iff_eq_none.mp forgotten)
    · cases moved
  | releaseJob ack =>
    rw [JobPollerService.step] at moved
    split at moved <;> cases moved
    refine mindful_of_forgotten (fun job point => ?_) rfl
    cases ack with
    | acknowledged =>
      simp only [afterReleaseJob]
      split
      · split <;> exact Phase.noConfusion
      · exact Phase.noConfusion
    | lost | failed => exact Phase.noConfusion
  | releaseImport ack =>
    rw [JobPollerService.step] at moved
    split at moved <;> cases moved
    rename_i importId releasing
    exact mindful_of_forgotten (fun _ _ => Phase.noConfusion)
      (mindful.releasing importId releasing)
  | start | reclaim | crash =>
    rw [JobPollerService.step] at moved
    split at moved <;> cases moved
    exact mindful_of_isIdle rfl

theorem isLast_eq_false_of_inLoop {outcome : Outcome} {later : Point}
    (inLoop : outcome.InLoop now) (awaits : outcome = .awaiting later) : later.isLast = false := by
  subst awaits
  cases later with
  | updateBoth mark stage caller =>
    cases stage with
    | job => rfl
    | importRow => cases inLoop
  | _ => rfl

theorem isLast_eq_false_of_caught {failure : Failure} {later : Point}
    (awaits : caught now failure = .awaiting later) : later.isLast = false := by
  cases failure <;> cases awaits <;> rfl

/-- The last call of an execution comes after the first statement of its last mark. -/
theorem isLast_of_resume {job : ClaimedJob} {batchSize : Nat} {point later : Point}
    {reply : Reply}
    (resumed : resume ports batchSize db now job point reply = some (.awaiting later))
    (isLast : later.isLast = true) :
    reply = .ok ∧ ∃ mark caller, point = .updateBoth mark .job caller ∧
      later = .updateBoth mark .importRow caller := by
  have notLast (isFalse : later.isLast = false) : False :=
    Bool.false_ne_true (isFalse.symm.trans isLast)
  cases reply with
  | ok =>
    have awaits := Option.some.inj resumed
    cases point with
    | findByImportId =>
      simp only [succeeded] at awaits
      split at awaits <;> cases awaits <;> cases isLast
    | countLines file =>
      cases awaits
      cases isLast
    | updateBoth mark stage caller =>
      cases stage with
      | job =>
        cases awaits
        exact ⟨rfl, mark, caller, rfl, rfl⟩
      | importRow =>
        cases caller with
        | fileFound file =>
          cases awaits
          cases isLast
        | fileMissing | loopEnded | caught => cases awaits
    | readLine | renewLease | getStatus | scoreBatch | persistBatch =>
      exact (notLast
        (isLast_eq_false_of_inLoop (succeeded_inLoop batchSize db now rfl) awaits)).elim
  | fail committed failure =>
    have awaits := Option.some.inj resumed
    cases point with
    | findByImportId | countLines => cases awaits
    | updateBoth mark stage caller =>
      cases caller with
      | loopEnded => exact (notLast (isLast_eq_false_of_caught awaits)).elim
      | fileMissing | fileFound | caught => cases awaits
    | readLine | renewLease | getStatus | scoreBatch | persistBatch =>
      exact (notLast (isLast_eq_false_of_caught awaits)).elim
  | retry committed =>
    cases point with
    | persistBatch locals input last =>
      cases resumed
      cases isLast
    | _ => cases resumed

/-- An execution returns from its last call and from no other. -/
theorem isLast_of_resolved {job : ClaimedJob} {batchSize : Nat} {point : Point} {reply : Reply}
    (resumed : resume ports batchSize db now job point reply = some .resolved) :
    point.isLast = true := by
  have notCaught (failure : Failure) : caught now failure ≠ .resolved := by
    cases failure <;> exact Outcome.noConfusion
  cases reply with
  | ok =>
    have returns := Option.some.inj resumed
    cases point with
    | findByImportId =>
      simp only [succeeded] at returns
      split at returns <;> cases returns
    | countLines => cases returns
    | updateBoth mark stage caller => cases stage <;> cases caller <;> first | rfl | cases returns
    | readLine | renewLease | getStatus | scoreBatch | persistBatch =>
      have inLoop : Outcome.resolved.InLoop now :=
        returns ▸ succeeded_inLoop batchSize db now rfl
      cases inLoop
  | fail committed failure =>
    have returns := Option.some.inj resumed
    cases point with
    | findByImportId | countLines => cases returns
    | updateBoth mark stage caller =>
      cases caller with
      | loopEnded => exact absurd returns (notCaught failure)
      | fileMissing | fileFound | caught => cases returns
    | readLine | renewLease | getStatus | scoreBatch | persistBatch =>
      exact absurd returns (notCaught failure)
  | retry committed => cases point <;> cases resumed

/-- No mark has ended the job in this execution. -/
def precedesEnd : Point → Bool
  | .updateBoth _ _ .loopEnded | .updateBoth _ _ .caught => false
  | _ => true

/-- An execution does not come back to the calls before its end. -/
theorem precedesEnd_of_resume {job : ClaimedJob} {batchSize : Nat} {point later : Point}
    {reply : Reply}
    (resumed : resume ports batchSize db now job point reply = some (.awaiting later))
    (precedes : precedesEnd later = true) : precedesEnd point = true := by
  cases point with
  | updateBoth mark stage caller =>
    cases reply with
    | ok => cases stage <;> cases caller <;> cases resumed <;> first | rfl | cases precedes
    | fail committed failure =>
      cases caller with
      | loopEnded => cases failure <;> cases resumed <;> cases precedes
      | fileMissing | fileFound | caught => cases resumed
    | retry committed => cases resumed
  | _ => rfl

/-- The ways in which a step makes a worker forget a job. -/
inductive Forgets (config : Config) (workerId : WorkerId) (next : Worker) (jobId : JobId) :
    Event → Option Statement → Prop
  | claims {other : JobId} (differs : jobId ≠ other) :
      Forgets config workerId next jobId (.claimNext other .acknowledged)
        (some (.claimNext other workerId config.leaseDurationMs))
  | settles {job : ClaimedJob} {mark : Mark} {caller : Caller}
      (executing : next.phase = .executing job (.updateBoth mark .importRow caller))
      (isLast : (Point.updateBoth mark .importRow caller).isLast = true) :
      Forgets config workerId next jobId (.reply .ok) (some (.updateBothJob jobId mark))
  | releases {ack : Ack} :
      Forgets config workerId next jobId (.releaseJob ack)
        (ack.issued (.releaseJob jobId workerId))

theorem forgets_of_executing (mindful : Mindful worker) {job : ClaimedJob} {point : Point}
    {reply : Reply} {outcome : Outcome} (executing : worker.phase = .executing job point)
    (resumed : resume ports (config.batchSize workerId) db now job point reply = some outcome)
    {jobId : JobId} (remembers : Remembers worker jobId)
    (forgotten : ¬Remembers (afterExecute job worker outcome) jobId) :
    Forgets config workerId (afterExecute job worker outcome) jobId (.reply reply)
      (issued job point reply) := by
  obtain ⟨⟨current, currentIs, sameId⟩, notLast⟩ := remembers
  have isCurrent : job = current :=
    Option.some.inj ((mindful.executing job point executing).symm.trans currentIs)
  subst isCurrent
  cases outcome with
  | awaiting later =>
    cases isLast : later.isLast with
    | false =>
      refine absurd ⟨⟨job, currentIs, sameId⟩, fun other place same => ?_⟩ forgotten
      obtain ⟨_, rfl⟩ := Phase.executing.inj same
      exact isLast
    | true =>
      obtain ⟨rfl, mark, caller, rfl, rfl⟩ := isLast_of_resume resumed isLast
      subst sameId
      exact .settles rfl isLast
  | resolved =>
    cases (notLast job point executing).symm.trans (isLast_of_resolved resumed)
  | rejected failure =>
    refine absurd ⟨⟨job, ?_, sameId⟩, fun other place same => ?_⟩ forgotten
    · cases failure <;> exact currentIs
    · cases failure <;> cases same

theorem remembers_afterClaim {jobId : JobId} {row : JobRow}
    (found : db.findJob jobId = some row) :
    Remembers (afterClaim workerId row worker .acknowledged) jobId := by
  refine ⟨⟨_, rfl, lookup_key JobRow.id found⟩, fun job point executing => ?_⟩
  obtain ⟨_, rfl⟩ := Phase.executing.inj executing
  rfl

/-- A worker that forgets a job does so in one of these ways. -/
theorem forgets_of_step (mindful : Mindful worker)
    (moved : JobPollerService.step ports config db now workerId worker event =
      some (statement, next)) {jobId : JobId} (remembers : Remembers worker jobId)
    (forgotten : ¬Remembers next jobId) :
    Forgets config workerId next jobId event statement := by
  have kept {phase : Phase} {lastReclaimAt : Nat}
      (notExecuting : ∀ job point, phase ≠ .executing job point) :
      Remembers { worker with phase, lastReclaimAt } jobId :=
    ⟨remembers.1, fun job point executing => absurd executing (notExecuting job point)⟩
  cases event with
  | claimNext other ack =>
    rw [JobPollerService.step] at moved
    split at moved
    · rename_i row polling found
      split at moved <;> cases moved
      cases ack with
      | acknowledged =>
        refine .claims fun same => forgotten ?_
        subst same
        exact remembers_afterClaim found
      | lost | failed => exact absurd remembers forgotten
    · cases moved
  | reply reply =>
    rw [JobPollerService.step] at moved
    split at moved
    · rename_i job point executing
      obtain ⟨outcome, resumed, result⟩ := Option.map_eq_some_iff.mp moved
      cases result
      exact forgets_of_executing mindful executing resumed remembers forgotten
    · cases moved
  | releaseJob ack =>
    rw [JobPollerService.step] at moved
    split at moved <;> cases moved
    rename_i job stopping current
    obtain ⟨other, currentIs, sameId⟩ := remembers.1
    have isCurrent : job = other := Option.some.inj (current.symm.trans currentIs)
    rw [isCurrent, sameId]
    exact .releases
  | claimNone =>
    rw [JobPollerService.step] at moved
    split at moved <;> cases moved
    refine absurd ?_ forgotten
    unfold afterClaimNone
    split
    · exact kept fun _ _ => Phase.noConfusion
    · exact remembers
  | findExpired answered =>
    rw [JobPollerService.step] at moved
    split at moved <;> cases moved
    refine absurd (kept fun job point => ?_) forgotten
    simp only [afterFindExpired]
    split <;> exact Phase.noConfusion
  | stop =>
    rw [JobPollerService.step] at moved
    split at moved
    · cases moved
      exact absurd (kept fun _ _ => Phase.noConfusion) forgotten
    · split at moved <;> cases moved
      exact absurd (kept fun _ _ => Phase.noConfusion) forgotten
    · cases moved
  | start | reclaim | releaseImport | crash =>
    rw [JobPollerService.step] at moved
    split at moved <;> cases moved
    exact absurd (kept fun _ _ => Phase.noConfusion) forgotten

end

/-! ### The rows a worker holds -/

section

variable {now : Nat} {workerId : WorkerId} {statement : Statement} {row : JobRow}

theorem held_setJob (selects : JobRow → Bool) (data : JobRow → JobRow) (row : JobRow) :
    Held workerId (Statement.setJob now selects data row) =
      if selects row then Held workerId (data row) else Held workerId row :=
  Statement.setJob_field (Held workerId) (fun _ _ => rfl) now selects data row

/-- An update that takes no lease leaves only jobs held that it does not select. -/
theorem held_of_dropped {selects : JobRow → Bool} {data : JobRow → JobRow} {row : JobRow}
    (held : Held workerId (Statement.setJob now selects data row))
    (dropped : ¬Held workerId (data row)) : selects row = false ∧ Held workerId row := by
  rw [held_setJob] at held
  split at held
  · exact absurd held dropped
  · rename_i notSelected
    exact ⟨Bool.eq_false_iff.mpr notSelected, held⟩

theorem not_held_toPending (row : JobRow) : ¬Held workerId (toPending row) :=
  fun held => nomatch held.1

theorem Mark.jobData_leasedBy (mark : Mark) (row : JobRow) :
    (mark.jobData row).leasedBy = row.leasedBy := by
  cases mark <;> rfl

theorem Mark.isLeasedStatus_iff (mark : Mark) :
    isLeasedStatus mark.status.toJob = true ↔ mark.status = .PROCESSING := by
  cases mark <;> simp [Mark.status, ImportStatus.toJob, isLeasedStatus]

/-- A job comes under a worker's lease by a claim of this worker, or by a mark of a job that was
left under it. -/
theorem held_onJob (held : Held workerId (statement.onJob now row)) :
    Held workerId row ∨
      (∃ duration, statement = .claimNext row.id workerId duration) ∨
      ∃ mark, statement = .updateBothJob row.id mark ∧ mark.status = .PROCESSING ∧
        row.leasedBy = some workerId := by
  cases statement with
  | claimNext jobId claimer duration =>
    simp only [Statement.onJob] at held
    rw [held_setJob] at held
    split at held
    · rename_i selected
      obtain rfl : claimer = workerId := Option.some.inj held.1
      exact Or.inr (Or.inl ⟨duration, by rw [eq_of_beq selected]⟩)
    · exact Or.inl held
  | updateBothJob jobId mark =>
    simp only [Statement.onJob] at held
    rw [held_setJob] at held
    split at held
    · rename_i selected
      obtain ⟨leasedBy, leased⟩ := held
      rw [Mark.jobData_leasedBy] at leasedBy
      rw [Mark.jobData_status] at leased
      exact Or.inr (Or.inr ⟨mark, by rw [eq_of_beq selected],
        (Mark.isLeasedStatus_iff mark).mp leased, leasedBy⟩)
    · exact Or.inl held
  | renewLease jobId renewer duration =>
    simp only [Statement.onJob] at held
    rw [held_setJob] at held
    split at held <;> exact Or.inl held
  | releaseJob jobId releaser => exact Or.inl (held_of_dropped held (not_held_toPending row)).2
  | reclaim maxAttempts sweep passed =>
    have kept := (held_of_dropped held (not_held_toPending _)).2
    exact Or.inl (held_of_dropped kept fun abandoned => by cases abandoned.1).2
  | cancel importId => exact Or.inl (held_of_dropped held fun cancelled => by cases cancelled.2).2
  | create | updateBothImport | releaseImport | persistBatch => exact Or.inl held

/-- A release takes the job from the worker. -/
theorem not_held_onJob_releaseJob :
    ¬Held workerId ((Statement.releaseJob row.id workerId).onJob now row) := by
  intro held
  obtain ⟨notSelected, leasedBy, leased⟩ := held_of_dropped held (not_held_toPending row)
  rw [isReleasable, isLeasedBy, leasedBy, leased, beq_self_eq_true, beq_self_eq_true] at notSelected
  cases notSelected

/-- A last mark takes the job from everybody. -/
theorem not_held_onJob_mark {mark : Mark} (terminal : mark.status.isTerminal = true) :
    ¬Held workerId ((Statement.updateBothJob row.id mark).onJob now row) := by
  intro held
  simp only [Statement.onJob] at held
  rw [held_setJob, if_pos (beq_self_eq_true row.id)] at held
  have leased := held.2
  rw [Mark.jobData_status, Mark.isLeasedStatus_iff] at leased
  rw [leased] at terminal
  cases terminal

end

/-! ### One step -/

/-- What holds along a run whose steps are spared. -/
structure Tracked (ports : Ports) (workerId : WorkerId) (watched : Watched) : Prop where
  coherent : Coherent ports watched.system
  mindful : Mindful (watched.system.workers workerId)
  held : watched.releaseFailed = false → ∀ jobId row,
    watched.system.db.findJob jobId = some row → Held workerId row →
      Remembers (watched.system.workers workerId) jobId
  closed : ∀ jobId ∈ watched.completed, ∃ row,
    watched.system.db.findJob jobId = some row ∧ row.status.isOpen = false
  sweeping : ∀ sweep, (watched.system.workers workerId).phase = .sweeping sweep →
    ∀ job ∈ sweep.expired, job.id ∉ watched.completed
  executing : ∀ job point, (watched.system.workers workerId).phase = .executing job point →
    precedesEnd point = true → job.id ∉ watched.completed
  requeued : watched.requeued = []

theorem tracked_start (ports : Ports) (workerId : WorkerId) (now : Nat) :
    Tracked ports workerId (start now) where
  coherent := coherent_initial ports now Database.wellFormed_empty
  mindful := mindful_of_isIdle rfl
  held := fun _ _ _ found => nomatch found
  closed := fun _ member => nomatch member
  sweeping := fun _ sweeping => nomatch sweeping
  executing := fun _ _ executing => nomatch executing
  requeued := rfl

section

variable {ports : Ports} {config : Config} {workerId : WorkerId} {watched : Watched}
  {next : System.State} {action : Action}

theorem isStepOf_eq_true (own : isStepOf workerId action = true) :
    ∃ event, action = .work workerId event := by
  cases action with
  | work mover event =>
    obtain rfl : mover = workerId := eq_of_beq own
    exact ⟨event, rfl⟩
  | advance | create | requestCancellation | cancel => cases own

/-- A step of another party leaves the worker as it is. -/
theorem worker_of_foreign (foreign : isStepOf workerId action = false)
    (enabled : System.step ports config watched.system action = some next) :
    next.workers workerId = watched.system.workers workerId := by
  rcases step_worker enabled workerId with same | ⟨event, rfl, _⟩
  · exact same
  · exact absurd ((beq_self_eq_true workerId).symm.trans foreign) (Ne.symm Bool.false_ne_true)

/-- A claim of the worker leads to a job it remembers, unless its answer is lost. -/
theorem remembers_of_claim (spared : Spared ports config workerId watched action)
    (enabled : System.step ports config watched.system action = some next) {jobId : JobId}
    {duration : Nat} (emits : emitted ports config watched.system action =
      some (.claimNext jobId workerId duration)) :
    Remembers (next.workers workerId) jobId := by
  have origin := emitted_origin emits
  cases origin with
  | execute executing calls => cases calls
  | claimNext polling found claimable =>
    rename_i ack row
    have moved := step_mover enabled
    rw [JobPollerService.step, polling, found] at moved
    simp only at moved
    rw [if_pos claimable] at moved
    obtain ⟨commits, after⟩ := Prod.mk.inj (Option.some.inj moved)
    rw [← after]
    cases ack with
    | acknowledged => exact remembers_afterClaim found
    | lost => exact absurd rfl (spared.answered jobId)
    | failed => cases commits.trans emits

/-- A job the worker marks is the one it remembers. -/
theorem remembers_of_mark (tracked : Tracked ports workerId watched)
    (own : isStepOf workerId action = true) {jobId : JobId} {mark : Mark}
    (emits : emitted ports config watched.system action = some (.updateBothJob jobId mark)) :
    Remembers (watched.system.workers workerId) jobId := by
  have origin := emitted_origin emits
  cases origin with
  | execute executing calls =>
    rename_i mover job point reply
    obtain rfl : mover = workerId := eq_of_beq own
    cases calls
    refine ⟨⟨job, tracked.mindful.executing _ _ executing, rfl⟩, fun other later same => ?_⟩
    obtain ⟨_, rfl⟩ := Phase.executing.inj (executing.symm.trans same)
    rfl

/-- A job that is held after a step was held before it, or the worker claims it, or it is marked
where it was left. -/
theorem held_before {row : JobRow}
    (held : Held workerId (onJob watched.system.now
      (emitted ports config watched.system action) row)) :
    Held workerId row ∨
      (∃ duration, emitted ports config watched.system action =
        some (.claimNext row.id workerId duration)) ∨
      ∃ mark, emitted ports config watched.system action = some (.updateBothJob row.id mark) ∧
        mark.status = .PROCESSING ∧ row.leasedBy = some workerId := by
  cases emits : emitted ports config watched.system action with
  | none =>
    rw [emits] at held
    exact Or.inl held
  | some statement =>
    rw [emits] at held
    rcases held_onJob held with before | ⟨duration, rfl⟩ | ⟨mark, rfl, marked⟩
    · exact Or.inl before
    · exact Or.inr (Or.inl ⟨duration, rfl⟩)
    · exact Or.inr (Or.inr ⟨mark, rfl, marked⟩)

/-- A worker that takes a step still remembers a job it holds after it, unless a release fails. -/
theorem remembers_own (tracked : Tracked ports workerId watched)
    (spared : Spared ports config workerId watched action)
    (enabled : System.step ports config watched.system action = some next)
    (own : isStepOf workerId action = true) (answered : failsRelease workerId action = false)
    {row : JobRow} (found : watched.system.db.findJob row.id = some row)
    (held : Held workerId (onJob watched.system.now
      (emitted ports config watched.system action) row))
    (remembers : Remembers (watched.system.workers workerId) row.id)
    (heldBefore : Held workerId row ∨ ∃ mark,
      emitted ports config watched.system action = some (.updateBothJob row.id mark)) :
    Remembers (next.workers workerId) row.id := by
  by_contra forgotten
  obtain ⟨event, rfl⟩ := isStepOf_eq_true own
  have coherentNext := coherent_step tracked.coherent enabled
  have moved := step_mover enabled
  have forgets := forgets_of_step tracked.mindful moved remembers forgotten
  generalize emits : emitted ports config watched.system (.work workerId event) = statement
    at forgets held heldBefore
  cases forgets with
  | claims differs =>
    rcases heldBefore with before | ⟨mark, marks⟩
    · obtain ⟨job, current, sameId⟩ := remembers.1
      have same := spared.claims _ rfl job row current (sameId ▸ found) before
      exact differs (sameId.symm.trans same)
    · cases marks
  | settles executing isLast =>
    obtain ⟨_, _, file, sent, stop, tracks⟩ := coherentNext.executing executing
    obtain ⟨mark, caller, same, terminal⟩ := terminal_of_isLast tracks isLast
    cases same
    exact not_held_onJob_mark terminal held
  | releases =>
    rename_i ack
    cases ack with
    | acknowledged => exact not_held_onJob_releaseJob held
    | lost | failed => simp [failsRelease] at answered

/-- Unless a release fails, the worker remembers every job it holds. -/
theorem held_step (tracked : Tracked ports workerId watched)
    (spared : Spared ports config workerId watched action)
    (enabled : System.step ports config watched.system action = some next)
    (releaseAnswered : watched.releaseFailed = false)
    (answered : failsRelease workerId action = false) {jobId : JobId} {row : JobRow}
    (found : next.db.findJob jobId = some row) (held : Held workerId row) :
    Remembers (next.workers workerId) jobId := by
  rcases findJob_step enabled found with ⟨old, foundOld, rfl⟩ | ⟨_, _, _, _, rfl⟩
  · have oldId : old.id = jobId := lookup_key JobRow.id foundOld
    subst oldId
    have remembersHeld := tracked.held releaseAnswered old.id old foundOld
    rcases held_before held with before | ⟨duration, claims⟩ | ⟨mark, marks, processing, leased⟩
    · have remembers := remembersHeld before
      cases own : isStepOf workerId action with
      | false => rwa [worker_of_foreign own enabled]
      | true =>
        exact remembers_own tracked spared enabled own answered foundOld held remembers
          (Or.inl before)
    · exact remembers_of_claim spared enabled claims
    · cases own : isStepOf workerId action with
      | false =>
        rw [worker_of_foreign own enabled]
        rcases spared.marks old.id mark own marks processing old foundOld leased with
          before | remembers
        · exact remembersHeld before
        · exact remembers
      | true =>
        exact remembers_own tracked spared enabled own answered foundOld held
          (remembers_of_mark tracked own marks) (Or.inr ⟨mark, marks⟩)
  · obtain ⟨⟨⟩, _⟩ := held

/-- A worker completes the job it executes, at the end of its execution. -/
theorem completedBy_spec (coherent : Coherent ports watched.system) {jobId : JobId}
    (member : jobId ∈ completedBy workerId action (emitted ports config watched.system action)) :
    ∃ job point completedAt,
      emitted ports config watched.system action =
        some (.updateBothJob jobId (.completed completedAt)) ∧
      (watched.system.workers workerId).phase = .executing job point ∧ job.id = jobId ∧
      precedesEnd point = false := by
  unfold completedBy at member
  split at member
  · rename_i marked completedAt emits
    split at member
    · rename_i own
      obtain rfl := List.mem_singleton.mp member
      have origin := emitted_origin emits
      cases origin with
      | execute executing calls =>
        rename_i mover job point reply
        obtain rfl : mover = workerId := eq_of_beq own
        obtain ⟨_, _, file, sent, stop, tracks⟩ := coherent.executing executing
        cases calls with
        | updateBothJob =>
          rename_i caller
          refine ⟨job, _, completedAt, emits, executing, rfl, ?_⟩
          cases caller with
          | fileMissing => cases tracks
          | fileFound => cases tracks.1
          | loopEnded | caught => rfl
    · cases member
  · cases member

/-- A step that reopens a closed job has been left out, or it is the worker's own mark or sweep,
which reach no job it has completed. -/
theorem not_reopens (tracked : Tracked ports workerId watched)
    (spared : Spared ports config workerId watched action) {jobId : JobId}
    (completed : jobId ∈ watched.completed) {row : JobRow}
    (found : watched.system.db.findJob jobId = some row) {statement : Statement}
    (emits : emitted ports config watched.system action = some statement) :
    ¬statement.ReopensJob row := by
  intro reopens
  cases own : isStepOf workerId action with
  | false => exact spared.reopens statement own emits jobId row found reopens completed
  | true =>
    have rowId : row.id = jobId := lookup_key JobRow.id found
    have origin := emitted_origin emits
    cases origin with
    | execute executing calls =>
      rename_i mover job point reply
      obtain rfl : mover = workerId := eq_of_beq own
      cases calls with
      | updateBothJob =>
        rename_i mark caller
        obtain ⟨sameId, processing⟩ := reopens
        obtain ⟨_, _, file, sent, stop, tracks⟩ := tracked.coherent.executing executing
        have precedes : precedesEnd (.updateBoth mark .job caller) = true := by
          cases caller with
          | fileMissing | fileFound => rfl
          | loopEnded =>
            rw [tracks.1] at processing
            cases stop <;> cases processing
          | caught => cases processing.symm.trans tracks
        rw [← rowId, ← sameId] at completed
        exact tracked.executing job _ executing precedes completed
      | updateBothImport | renewLease | persistBatch => exact reopens
    | reclaim sweeping =>
      rename_i mover sweep ack passed
      obtain rfl : mover = workerId := eq_of_beq own
      obtain ⟨job, member, sameId⟩ := reopens
      rw [← rowId, ← sameId] at completed
      exact tracked.sweeping sweep sweeping job (sweep.toReset_subset _ member) completed
    | create | cancel | claimNext | releaseJob | releaseImport => exact reopens

/-- A job the worker has completed stays closed. -/
theorem closed_step (tracked : Tracked ports workerId watched)
    (spared : Spared ports config workerId watched action)
    (enabled : System.step ports config watched.system action = some next) {jobId : JobId}
    (completed : jobId ∈ watched.completed) :
    ∃ row, next.db.findJob jobId = some row ∧ row.status.isOpen = false := by
  obtain ⟨row, found, closed⟩ := tracked.closed jobId completed
  refine ⟨_, step_findJob enabled found, ?_⟩
  cases emits : emitted ports config watched.system action with
  | none => exact closed
  | some statement =>
    have notClaimed : ∀ claimed claimer duration, statement = .claimNext claimed claimer duration →
        row.id ≠ claimed := by
      rintro claimed claimer duration rfl same
      have origin := emitted_origin emits
      have rowId : row.id = jobId := lookup_key JobRow.id found
      cases origin with
      | execute executing calls => cases calls
      | claimNext polling foundClaimed claimable =>
        rw [← same, rowId, found] at foundClaimed
        obtain rfl := Option.some.inj foundClaimed
        cases closed.symm.trans (isOpen_of_isClaimable claimable)
    rw [← Bool.not_eq_true]
    exact mt (Statement.onJob_isOpen_iff _ statement closed notClaimed).mp
      (not_reopens tracked spared completed found emits)

/-- A job is closed when the worker completes it. -/
theorem closed_completedBy (coherent : Coherent ports watched.system)
    (enabled : System.step ports config watched.system action = some next) {jobId : JobId}
    (member : jobId ∈ completedBy workerId action (emitted ports config watched.system action)) :
    ∃ row, next.db.findJob jobId = some row ∧ row.status.isOpen = false := by
  obtain ⟨job, point, completedAt, emits, executing, rfl, _⟩ := completedBy_spec coherent member
  obtain ⟨row, found, _⟩ := (coherent.executing executing).1
  refine ⟨_, step_findJob enabled found, ?_⟩
  rw [emits]
  have rowId : row.id = job.id := lookup_key JobRow.id found
  show (Statement.setJob _ _ _ row).status.isOpen = false
  rw [Statement.setJob_status, rowId, if_pos (beq_self_eq_true job.id)]
  rfl

/-- A job that is open is none the worker has completed. -/
theorem not_completed_of_isOpen (tracked : Tracked ports workerId watched) {row : JobRow}
    (found : watched.system.db.findJob row.id = some row) (isOpen : row.status.isOpen = true) :
    row.id ∉ watched.completed := by
  intro completed
  obtain ⟨other, foundOther, closed⟩ := tracked.closed row.id completed
  obtain rfl := Option.some.inj (found.symm.trans foundOther)
  cases closed.symm.trans isOpen

/-- A sweep the worker starts reads no job the worker has completed. -/
theorem sweeping_step (tracked : Tracked ports workerId watched)
    (enabled : System.step ports config watched.system action = some next) {sweep : Sweep}
    (sweeping : (next.workers workerId).phase = .sweeping sweep) {job : ExpiredJob}
    (member : job ∈ sweep.expired) :
    job.id ∉ completedBy workerId action (emitted ports config watched.system action) ++
      watched.completed := by
  rcases step_phase enabled workerId with same | ⟨event, rfl, entered⟩
  · have before := same.symm.trans sweeping
    rw [List.mem_append]
    rintro (added | completed)
    · obtain ⟨_, _, _, _, executing, _⟩ := completedBy_spec tracked.coherent added
      cases before.symm.trans executing
    · exact tracked.sweeping sweep before job member completed
  · rw [sweeping] at entered
    generalize emitted ports config watched.system (.work workerId event) = statement at entered ⊢
    cases entered with
    | swept =>
      obtain ⟨row, inTable, rfl⟩ := List.mem_map.mp member
      obtain ⟨inJobs, expired⟩ := List.mem_filter.mp inTable
      exact not_completed_of_isOpen tracked
        (lookup_of_mem JobRow.id tracked.coherent.wellFormed.jobIds inJobs)
        (isOpen_of_isLeasedStatus (Bool.and_eq_true_iff.mp expired).1)
    | bare isBare => cases isBare

/-- A job the worker executes is none it has completed, as long as its end is ahead. -/
theorem executing_step (tracked : Tracked ports workerId watched)
    (enabled : System.step ports config watched.system action = some next) {job : ClaimedJob}
    {point : Point} (executing : (next.workers workerId).phase = .executing job point)
    (precedes : precedesEnd point = true) :
    job.id ∉ completedBy workerId action (emitted ports config watched.system action) ++
      watched.completed := by
  have unique {current : ClaimedJob} {old : Point} (precedesOld : precedesEnd old = true)
      (before : (watched.system.workers workerId).phase = .executing current old) :
      ∀ job later, (watched.system.workers workerId).phase = .executing job later →
        precedesEnd later = true := by
    intro other later same
    obtain ⟨_, rfl⟩ := Phase.executing.inj (before.symm.trans same)
    exact precedesOld
  have ahead : (∀ job old, (watched.system.workers workerId).phase = .executing job old →
      precedesEnd old = true) ∧ job.id ∉ watched.completed := by
    rcases step_phase enabled workerId with same | ⟨event, rfl, entered⟩
    · have before := same.symm.trans executing
      exact ⟨unique precedes before, tracked.executing job point before precedes⟩
    · rw [executing] at entered
      generalize emitted ports config watched.system (.work workerId event) = statement at entered
      cases entered with
      | claimed polling found claimable =>
        rename_i jobId row
        have rowId : row.id = jobId := lookup_key JobRow.id found
        subst rowId
        refine ⟨fun other old before => ?_,
          not_completed_of_isOpen tracked found (isOpen_of_isClaimable claimable)⟩
        cases polling.symm.trans before
      | resumed before awaiting =>
        have precedesOld := precedesEnd_of_resume awaiting precedes
        exact ⟨unique precedesOld before, tracked.executing job _ before precedesOld⟩
      | bare isBare => cases isBare
  rw [List.mem_append]
  rintro (added | completed)
  · obtain ⟨other, old, _, _, before, _, ended⟩ := completedBy_spec tracked.coherent added
    cases ended.symm.trans (ahead.1 other old before)
  · exact ahead.2 completed

/-- No job the worker has completed turns `PENDING` by its step. -/
theorem requeuedBy_eq_nil (tracked : Tracked ports workerId watched)
    (spared : Spared ports config workerId watched action)
    (enabled : System.step ports config watched.system action = some next) :
    requeuedBy workerId action watched.system.db next.db watched.completed = [] := by
  unfold requeuedBy
  split
  · rw [List.filter_eq_nil_iff]
    intro jobId completed
    obtain ⟨row, found, closed⟩ := closed_step tracked spared enabled completed
    rw [Bool.and_eq_true_iff, JobRepository.getStatus, JobRepository.getStatus, found]
    rintro ⟨_, pending⟩
    rw [Option.some.inj (eq_of_beq pending)] at closed
    cases closed
  · rfl

theorem tracked_step (tracked : Tracked ports workerId watched) {after : Watched}
    (enabled : step ports config workerId watched action = some after)
    (spared : Spared ports config workerId watched action) : Tracked ports workerId after := by
  obtain ⟨next, moves, rfl⟩ := Option.map_eq_some_iff.mp enabled
  exact {
    coherent := coherent_step tracked.coherent moves
    mindful := by
      rcases step_worker moves workerId with same | ⟨event, _, moved⟩
      · rw [same]
        exact tracked.mindful
      · exact mindful_step tracked.mindful moved
    held := by
      intro releaseAnswered jobId row found held
      obtain ⟨before, answered⟩ := Bool.or_eq_false_iff.mp releaseAnswered
      exact held_step tracked spared moves before answered found held
    closed := by
      intro jobId member
      rcases List.mem_append.mp member with added | completed
      · exact closed_completedBy tracked.coherent moves added
      · exact closed_step tracked spared moves completed
    sweeping := fun sweep sweeping job member => sweeping_step tracked moves sweeping member
    executing := fun job point executing precedes =>
      executing_step tracked moves executing precedes
    requeued := by
      rw [requeuedBy_eq_nil tracked spared moves, tracked.requeued]
      rfl }

/-- A worker that has stopped remembers no job, and so it holds none. -/
theorem givesBack_of_tracked (tracked : Tracked ports workerId watched) :
    GivesBack workerId watched where
  released := by
    intro stopped releaseAnswered row member held
    have found := lookup_of_mem JobRow.id tracked.coherent.wellFormed.jobIds member
    obtain ⟨⟨job, current, _⟩, _⟩ := tracked.held releaseAnswered row.id row found held
    cases (tracked.mindful.stopped stopped).symm.trans current
  requeued := tracked.requeued

/-! ### Runs -/

/-- In a run from empty tables all of whose steps are spared, a worker that has stopped holds no
job, and it has put back none it had completed. -/
theorem gives_back_of_spared (now : Nat) (schedule : List Action)
    (spared : Transition.Every (step ports config workerId)
      (fun watched action _ => Spared ports config workerId watched action) (start now)
      schedule) :
    Transition.Always (step ports config workerId) (GivesBack workerId) (start now) schedule :=
  spared.always (Tracked ports workerId)
    (fun _ _ _ tracked enabled here => tracked_step tracked enabled here)
    (fun _ tracked => givesBack_of_tracked tracked) (tracked_start ports workerId now)

end

/-! ### A worker on its own -/

/-- The action is an upload, or a step of the worker other than a claim. -/
def isQuiet (workerId : WorkerId) : Action → Bool
  | .create _ _ _ _ => true
  | .work _ (.claimNext _ _) => false
  | .work mover _ => mover == workerId
  | .advance _ | .requestCancellation _ _ | .cancel _ _ => false

section

variable {ports : Ports} {config : Config} {workerId : WorkerId} {watched : Watched}

theorem spared_of_isQuiet {action : Action} (quiet : isQuiet workerId action = true) :
    Spared ports config workerId watched action := by
  cases action with
  | create importId jobId storagePath createdAt =>
    have creates {statement : Statement} (emits : emitted ports config watched.system
        (.create importId jobId storagePath createdAt) = some statement) :
        statement = .create importId jobId storagePath createdAt := by
      cases emitted_origin emits
      rfl
    exact {
      answered := fun _ => System.Action.noConfusion
      claims := fun _ same => System.Action.noConfusion same
      reopens := fun statement _ emits _ _ _ reopens => by
        cases creates emits
        exact reopens.elim
      marks := fun _ _ _ emits => by cases creates emits }
  | work mover event =>
    have own : isStepOf workerId (.work mover event) = true := by
      cases event <;> first | exact quiet | cases quiet
    exact {
      answered := by
        rintro jobId same
        cases same
        cases quiet
      claims := by
        rintro jobId same
        cases same
        cases quiet
      reopens := fun _ foreign => by cases own.symm.trans foreign
      marks := fun _ _ foreign => by cases own.symm.trans foreign }
  | advance | requestCancellation | cancel => cases quiet

/-- A worker that remembers no job may claim one. -/
theorem spared_of_claim (free : (watched.system.workers workerId).currentJob = none)
    (jobId : JobId) :
    Spared ports config workerId watched (.work workerId (.claimNext jobId .acknowledged)) where
  answered := fun other same => by cases same
  claims := fun _ _ job row current => by cases free.symm.trans current
  reopens := fun _ foreign => by cases (beq_self_eq_true workerId).symm.trans foreign
  marks := fun _ _ foreign => by cases (beq_self_eq_true workerId).symm.trans foreign

theorem every_spared_of_quiet (watched : Watched) {schedule : List Action}
    (quiet : ∀ action ∈ schedule, isQuiet workerId action = true) :
    Transition.Every (step ports config workerId)
      (fun watched action _ => Spared ports config workerId watched action) watched schedule :=
  Transition.Every.imp (fun _ => True) (fun _ _ _ _ _ _ => trivial)
    (fun _ _ _ _ _ here => spared_of_isQuiet here) trivial
    (Transition.every_of_labels _ (fun action => isQuiet workerId action = true) watched quiet)

end

/-- An error escapes the execution of the job worker 1 has claimed. -/
def escaped : List Action :=
  [.work 1 (.claimNext 1 .acknowledged), .work 1 (.reply (.fail false .unknown))]

/-- The worker stops and gives its job back. -/
def releases : List Action :=
  [.work 1 .stop, .work 1 (.releaseJob .acknowledged), .work 1 (.releaseImport .acknowledged)]

/-- A worker that stops after an error gives its job back. -/
theorem gives_back_of_spared_escaped :
    Transition.Always (step emptyFilePorts defaultConfig 1) (GivesBack 1) (start 0)
      ([upload 1] ++ startUp 1 ++ (escaped ++ releases)) := by
  refine gives_back_of_spared 0 _ ?_
  have seen : (Transition.run (step emptyFilePorts defaultConfig 1) (start 0)
      ([upload 1] ++ startUp 1)).map (fun watched => (watched.system.workers 1).currentJob) =
      some none := by decide
  obtain ⟨watched, reaches, free⟩ := Option.map_eq_some_iff.mp seen
  refine (every_spared_of_quiet (start 0) (by decide)).append reaches fun next _ => ?_
  exact ⟨spared_of_claim free 1, every_spared_of_quiet next (by decide)⟩

/-- A job is forgotten, and the worker claims another one. -/
def escapedThenClaimed : List Action :=
  [upload 1, upload 2] ++ startUp 1 ++ escaped ++
    [.work 1 (.claimNext 2 .acknowledged)] ++ replies 1 7 ++ [.work 1 .stop, .work 1 .stop]

/-- The worker completes job 2 and stops, and job 1 stays claimed by it. -/
theorem escaped_then_claimed :
    ¬ Transition.Always (step emptyFilePorts defaultConfig 1) (GivesBack 1) (start 0)
      escapedThenClaimed := by
  intro always
  obtain ⟨watched, givesBack, seen⟩ := always.observe
    (fun watched => ((watched.system.workers 1).phase, watched.releaseFailed,
      (watched.system.db.findJob 1).map fun row => (row.leasedBy, row.status)))
    (show _ = some (.stopped, false, some (some 1, .CLAIMED)) by decide)
  simp only [Prod.mk.injEq] at seen
  obtain ⟨stopped, notFailed, leased⟩ := seen
  obtain ⟨row, found, held⟩ := Option.map_eq_some_iff.mp leased
  obtain ⟨leasedBy, claimed⟩ := Prod.mk.inj held
  exact givesBack.released stopped notFailed row (lookup_mem JobRow.id found)
    ⟨leasedBy, by rw [claimed]; rfl⟩

end ImportService.Releases
