/-
This file asks how long a job can wait behind others. The subquery of `claimNext` orders by
`createdAt`, so as long as no row it would pick is locked by another transaction, every claim
goes to a job that is not younger than any that waits, and adds one to the attempts of that job.

So while a job waits, every claim goes to a job created no later than it (`goesAhead_run`), the
claims are exactly the attempts added to those jobs (`claimsOf_add`), and a job waits for at most
as many claims as they can have attempts together (`waits_boundedly`): later uploads never delay
it.
-/

import Mathlib.Algebra.Order.BigOperators.Group.List
import ImportService.Attempts
import ImportService.Integrity

namespace ImportService

open KeyedTable JobRepository JobPollerService

namespace JobRepository

/-- `ORDER BY "createdAt" LIMIT 1` over the claimable jobs. Of jobs created in one millisecond
any may come first. -/
def isNext (now : Nat) (jobs : List JobRow) (row : JobRow) : Bool :=
  isClaimable now row &&
    jobs.all fun other => !isClaimable now other || decide (row.createdAt ≤ other.createdAt)

/-- The row was created no later than a job of that time, and is another one. -/
def isAhead (jobId : JobId) (createdAt : Nat) (row : JobRow) : Bool :=
  row.id != jobId && decide (row.createdAt ≤ createdAt)

/-- The jobs ahead of a job. -/
def ahead (jobId : JobId) (createdAt : Nat) (db : Database) : List JobRow :=
  db.jobs.filter (isAhead jobId createdAt)

/-- All attempts of the jobs ahead of a job. -/
def attemptsAhead (jobId : JobId) (createdAt : Nat) (db : Database) : Nat :=
  ((ahead jobId createdAt db).map JobRow.attemptCount).sum

theorem le_createdAt_of_isNext {now : Nat} {jobs : List JobRow} {row other : JobRow}
    (next : isNext now jobs row = true) (member : other ∈ jobs)
    (claimable : isClaimable now other = true) : row.createdAt ≤ other.createdAt := by
  have first := List.all_eq_true.mp (Bool.and_eq_true_iff.mp next).2 other member
  rw [claimable, Bool.not_true, Bool.false_or] at first
  exact of_decide_eq_true first

end JobRepository

namespace Statement

/-- The statement is the update of `claimNext`. -/
def isClaim : Statement → Bool
  | .claimNext _ _ _ => true
  | .create _ _ _ _ | .renewLease _ _ _ | .updateBothJob _ _ | .updateBothImport _ _
  | .releaseJob _ _ | .releaseImport _ | .reclaim _ _ _ | .cancel _ | .persistBatch _ => false

theorem onJob_createdAt (now : Nat) (statement : Statement) (row : JobRow) :
    (statement.onJob now row).createdAt = row.createdAt := by
  have kept (selects : JobRow → Bool) (data : JobRow → JobRow)
      (keeps : ∀ row, (data row).createdAt = row.createdAt) (row : JobRow) :
      (setJob now selects data row).createdAt = row.createdAt :=
    setJob_keeps JobRow.createdAt now selects data keeps row
  cases statement with
  | claimNext jobId workerId duration =>
    exact kept _ (claimData workerId duration now) (fun _ => rfl) row
  | renewLease jobId workerId duration =>
    exact kept _ (renewData duration now) (fun _ => rfl) row
  | updateBothJob jobId mark =>
    exact kept _ mark.jobData (fun _ => by cases mark <;> rfl) row
  | releaseJob jobId workerId => exact kept _ toPending (fun _ => rfl) row
  | reclaim maxAttempts sweep passed =>
    exact (kept _ toPending (fun _ => rfl) _).trans (kept _ abandonJob (fun _ => rfl) row)
  | cancel importId => exact kept _ ImportRepository.cancelJob (fun _ => rfl) row
  | create | updateBothImport | releaseImport | persistBatch => rfl

theorem isAhead_onJob (now : Nat) (statement : Statement) (jobId : JobId) (createdAt : Nat)
    (row : JobRow) :
    isAhead jobId createdAt (statement.onJob now row) = isAhead jobId createdAt row := by
  rw [isAhead, isAhead, onJob_id, onJob_createdAt]

/-- No job that comes later gets ahead. -/
theorem ahead_commit {now : Nat} {db : Database} {jobId : JobId} {createdAt : Nat}
    (statement : Statement) (past : createdAt < now) :
    ahead jobId createdAt (statement.commit now db) =
      (ahead jobId createdAt db).map (statement.onJob now) := by
  have noneNew : (statement.newJobs now).filter (isAhead jobId createdAt) = [] := by
    cases statement with
    | create importId newId storagePath rowTime =>
      refine List.filter_eq_nil_iff.mpr fun row member => ?_
      obtain rfl := List.mem_singleton.mp member
      rw [isAhead, Bool.and_eq_true_iff]
      rintro ⟨_, older⟩
      exact absurd (of_decide_eq_true older) (Nat.not_le_of_lt past)
    | claimNext | renewLease | updateBothJob | updateBothImport | releaseJob | releaseImport
    | reclaim | cancel | persistBatch => rfl
  rw [ahead, commit_jobs, List.filter_append, noneNew, List.append_nil, List.filter_map]
  congr 2
  funext row
  exact isAhead_onJob now statement jobId createdAt row

/-- A statement adds to the attempts of a list of jobs how often it claims one of them. -/
theorem attempts_map_onJob (now : Nat) (statement : Statement) (rows : List JobRow) :
    ((rows.map (statement.onJob now)).map JobRow.attemptCount).sum =
      (rows.map JobRow.attemptCount).sum + rows.countP fun row => statement.claims row.id := by
  induction rows with
  | nil => rfl
  | cons row rest inductionHypothesis =>
    simp only [List.map_cons, List.sum_cons, List.countP_cons, onJob_attemptCount,
      inductionHypothesis]
    split <;> omega

/-- A claim of a job ahead counts once, and no other statement counts. -/
theorem countP_claims {rows : List JobRow} (distinct : (rows.map JobRow.id).Nodup)
    {statement : Statement}
    (inRows : ∀ jobId workerId duration, statement = .claimNext jobId workerId duration →
      jobId ∈ rows.map JobRow.id) :
    (rows.countP fun row => statement.claims row.id) = statement.isClaim.toNat := by
  cases statement with
  | claimNext jobId workerId duration =>
    have once := List.count_eq_one_of_mem distinct (inRows jobId workerId duration rfl)
    rw [List.count, List.countP_map] at once
    rw [isClaim, Bool.toNat_true, ← once]
    refine List.countP_congr fun row _ => ?_
    rw [claims, Function.comp_apply, Bool.beq_comm]
  | create | renewLease | updateBothJob | updateBothImport | releaseJob | releaseImport
  | reclaim | cancel | persistBatch =>
    exact List.countP_eq_zero.mpr fun _ _ => Bool.false_ne_true

end Statement

namespace System

/-- A claim that is committed goes to a job that is next. -/
def InOrder (ports : Ports) (config : Config) (state : State) (action : Action) (_ : State) :
    Prop :=
  ∀ jobId workerId duration,
    emitted ports config state action = some (.claimNext jobId workerId duration) →
      ∃ row, state.db.findJob jobId = some row ∧ isNext state.now state.db.jobs row = true

/-- A claim that is committed goes to a job ahead of this one. -/
def GoesAhead (ports : Ports) (config : Config) (jobId : JobId) (createdAt : Nat) (state : State)
    (action : Action) (_ : State) : Prop :=
  ∀ claimedId workerId duration,
    emitted ports config state action = some (.claimNext claimedId workerId duration) →
      claimedId ∈ (ahead jobId createdAt state.db).map JobRow.id

/-- The job, created at that time, could be claimed. -/
def Waits (jobId : JobId) (createdAt : Nat) (state : State) : Prop :=
  ∃ row, state.db.findJob jobId = some row ∧ isClaimable state.now row = true ∧
    row.createdAt = createdAt

/-- The step commits a claim. -/
def isClaim (ports : Ports) (config : Config) (state : State) (action : Action) : Bool :=
  (emitted ports config state action).any Statement.isClaim

/-- How many claims a schedule commits. -/
def claimsOf (ports : Ports) (config : Config) (start : State) (schedule : List Action) : Nat :=
  Transition.tally (step ports config) (isClaim ports config) start schedule

section

variable {ports : Ports} {config : Config} {state next : State} {action : Action}
  {jobId : JobId} {createdAt : Nat}

/-- Only the clock moves the time. -/
theorem step_now (enabled : step ports config state action = some next) :
    next.now = state.now ∨ ∃ milliseconds, action = .advance milliseconds ∧
      next.now = state.now + milliseconds := by
  obtain ⟨effect, acts, rfl⟩ := step_eq_some enabled
  cases action with
  | advance milliseconds =>
    cases acts
    exact Or.inr ⟨milliseconds, rfl, rfl⟩
  | create importId newId storagePath rowTime =>
    rw [act] at acts
    split at acts <;> cases acts
    exact Or.inl rfl
  | requestCancellation requestId importId =>
    rw [act] at acts
    split at acts <;> cases acts
    exact Or.inl rfl
  | cancel requestId ack =>
    rw [act] at acts
    split at acts <;> cases acts
    exact Or.inl rfl
  | work workerId event =>
    obtain ⟨result, _, rfl⟩ := Option.map_eq_some_iff.mp acts
    exact Or.inl rfl

theorem now_le_step (enabled : step ports config state action = some next) :
    state.now ≤ next.now := by
  rcases step_now enabled with same | ⟨milliseconds, _, later⟩ <;> omega

/-- Nobody can claim a job again right after it was claimed. -/
theorem not_waits_of_claims {workerId : WorkerId} {duration : Nat}
    (enabled : step ports config state action = some next)
    (emits : emitted ports config state action = some (.claimNext jobId workerId duration)) :
    ¬ Waits jobId createdAt next := by
  rintro ⟨row, found, claimable, _⟩
  have sameTime : next.now = state.now := by
    rcases step_now enabled with same | ⟨milliseconds, rfl, _⟩
    · exact same
    · cases emits
  rcases findJob_step enabled found with ⟨old, foundOld, rfl⟩ | ⟨_, _, _, emitsOther, _⟩
  · have selected : (old.id == jobId) = true := beq_iff_eq.mpr (lookup_key JobRow.id foundOld)
    rw [emits, sameTime, onJob, Statement.onJob, Statement.setJob, updateRow, if_pos selected]
      at claimable
    have expired : decide (leaseEnd duration state.now < state.now) = true := claimable
    exact absurd (of_decide_eq_true expired) (Nat.not_lt_of_le (Nat.le_add_right _ _))
  · rw [emits] at emitsOther
    cases emitsOther

/-- What is kept along the run. -/
structure Queued (ports : Ports) (createdAt : Nat) (state : State) : Prop where
  coherent : Coherent ports state
  past : createdAt < state.now

/-- While a job waits, no claim passes it by in favour of a younger one. -/
theorem goesAhead_of_waits (enabled : step ports config state action = some next)
    (inOrder : InOrder ports config state action next) (waits : Waits jobId createdAt state)
    (waitsOn : Waits jobId createdAt next) :
    GoesAhead ports config jobId createdAt state action next := by
  intro claimedId workerId duration emits
  obtain ⟨waiting, foundWaiting, claimable, rfl⟩ := waits
  obtain ⟨row, found, isNext⟩ := inOrder claimedId workerId duration emits
  have different : row.id ≠ jobId := by
    intro same
    have claimedIs : claimedId = jobId := (lookup_key JobRow.id found).symm.trans same
    rw [claimedIs] at emits
    exact not_waits_of_claims enabled emits waitsOn
  have older := le_createdAt_of_isNext isNext (lookup_mem JobRow.id foundWaiting) claimable
  have member : row ∈ ahead jobId waiting.createdAt state.db := by
    refine List.mem_filter.mpr ⟨lookup_mem JobRow.id found, ?_⟩
    rw [isAhead, bne_iff_ne.mpr different, decide_eq_true older]
    rfl
  exact List.mem_map.mpr ⟨row, member, lookup_key JobRow.id found⟩

/-- A step while a job waits adds one attempt ahead of it for a claim, and otherwise none. -/
theorem attemptsAhead_step (queued : Queued ports createdAt state)
    (enabled : step ports config state action = some next)
    (goesAhead : GoesAhead ports config jobId createdAt state action next) :
    attemptsAhead jobId createdAt next.db =
      attemptsAhead jobId createdAt state.db + (isClaim ports config state action).toNat := by
  rw [step_db enabled, isClaim]
  cases emits : emitted ports config state action with
  | none => rfl
  | some statement =>
    rw [committed, attemptsAhead, Statement.ahead_commit statement queued.past,
      Statement.attempts_map_onJob, Option.any_some, Statement.countP_claims, attemptsAhead]
    · have aheadOf : (ahead jobId createdAt state.db).Sublist state.db.jobs :=
        List.filter_sublist
      exact (aheadOf.map JobRow.id).nodup queued.coherent.wellFormed.jobIds
    · rintro claimedId workerId duration rfl
      exact goesAhead claimedId workerId duration emits

theorem length_ahead_step (queued : Queued ports createdAt state)
    (enabled : step ports config state action = some next) :
    (ahead jobId createdAt next.db).length = (ahead jobId createdAt state.db).length := by
  rw [step_db enabled]
  cases emitted ports config state action with
  | none => rfl
  | some statement =>
    rw [committed, Statement.ahead_commit statement queued.past, List.length_map]

theorem queued_step (queued : Queued ports createdAt state)
    (enabled : step ports config state action = some next) : Queued ports createdAt next where
  coherent := coherent_step queued.coherent enabled
  past := queued.past.trans_le (now_le_step enabled)

end

section

variable {ports : Ports} {config : Config} {start last : State} {schedule : List Action}
  {jobId : JobId} {createdAt : Nat}

/-- While a job waits, every claim goes to a job ahead of it. -/
theorem goesAhead_run
    (inOrder : Transition.Every (step ports config) (InOrder ports config) start schedule)
    (waits : Transition.Always (step ports config) (Waits jobId createdAt) start schedule) :
    Transition.Every (step ports config) (GoesAhead ports config jobId createdAt) start
      schedule :=
  Transition.Every.imp (fun _ => True) (fun _ _ _ _ _ _ => trivial)
    (fun _ _ _ _ enabled ⟨inOrder, waits, waitsOn⟩ =>
      goesAhead_of_waits enabled inOrder waits waitsOn)
    trivial (inOrder.and_always waits)

/-- While every claim goes to a job ahead of this one, the claims of all workers are exactly the
attempts added to those jobs. -/
theorem claimsOf_add (queued : Queued ports createdAt start)
    (goesAhead : Transition.Every (step ports config) (GoesAhead ports config jobId createdAt)
      start schedule)
    (reaches : Transition.run (step ports config) start schedule = some last) :
    attemptsAhead jobId createdAt start.db + claimsOf ports config start schedule =
      attemptsAhead jobId createdAt last.db :=
  goesAhead.tally_add (isClaim ports config) (Queued ports createdAt)
    (fun state => attemptsAhead jobId createdAt state.db)
    (fun _ _ _ queued enabled _ => queued_step queued enabled)
    (fun _ _ _ queued enabled goesAhead => attemptsAhead_step queued enabled goesAhead)
    queued reaches

theorem length_ahead_run (queued : Queued ports createdAt start)
    (reaches : Transition.run (step ports config) start schedule = some last) :
    (ahead jobId createdAt last.db).length = (ahead jobId createdAt start.db).length := by
  have kept := Transition.Reachable.invariant ⟨schedule, reaches⟩
    (fun state => Queued ports createdAt state ∧
      (ahead jobId createdAt state.db).length = (ahead jobId createdAt start.db).length)
    ⟨queued, rfl⟩
    fun _ _ _ ⟨queued, same⟩ enabled =>
      ⟨queued_step queued enabled, (length_ahead_step queued enabled).trans same⟩
  exact kept.2

end

/-- A job does not wait for ever: every claim goes to another job that was created no later, and
where no job ahead of it makes more attempts than a limit, it waits for at most as many claims as
there were jobs ahead of it, times the limit. The clock has passed the time of its creation, so no
job that comes later is ahead. -/
theorem waits_boundedly {ports : Ports} {config : Config} {now createdAt limit : Nat}
    {jobId : JobId} {start last : State} {schedule : List Action}
    (reachable : Transition.Reachable (step ports config) (initial now Database.empty) start)
    (past : createdAt < start.now)
    (inOrder : Transition.Every (step ports config) (InOrder ports config) start schedule)
    (waits : Transition.Always (step ports config) (Waits jobId createdAt) start schedule)
    (reaches : Transition.run (step ports config) start schedule = some last)
    (limited : ∀ row ∈ ahead jobId createdAt last.db, row.attemptCount ≤ limit) :
    Transition.Every (step ports config) (GoesAhead ports config jobId createdAt) start
        schedule ∧
      claimsOf ports config start schedule ≤ (ahead jobId createdAt start.db).length * limit := by
  have queued : Queued ports createdAt start :=
    ⟨coherent_reachable Database.wellFormed_empty reachable, past⟩
  have goesAhead := goesAhead_run inOrder waits
  refine ⟨goesAhead, ?_⟩
  have counted := claimsOf_add queued goesAhead reaches
  have atMost : attemptsAhead jobId createdAt last.db ≤
      (ahead jobId createdAt last.db).length * limit := by
    have bound := List.sum_le_card_nsmul ((ahead jobId createdAt last.db).map JobRow.attemptCount)
      limit (List.forall_mem_map.mpr limited)
    rwa [List.length_map, nsmul_eq_mul] at bound
  rw [length_ahead_run queued reaches] at atMost
  omega

/-- Two uploads, one after the other, and a worker that polls. -/
def twoUploads : List Action := [upload 1, .advance 1, upload 2, .advance 1] ++ startUp 1

/-- The second import is passed over once. -/
theorem waits_boundedly_once : ∃ start last,
    Transition.run (step emptyFilePorts defaultConfig) (initial 0 Database.empty) twoUploads =
        some start ∧
      Transition.run (step emptyFilePorts defaultConfig) start
        [.work 1 (.claimNext 1 .acknowledged)] = some last ∧
      Transition.Every (step emptyFilePorts defaultConfig)
        (GoesAhead emptyFilePorts defaultConfig 2 1) start
        [.work 1 (.claimNext 1 .acknowledged)] ∧
      claimsOf emptyFilePorts defaultConfig start [.work 1 (.claimNext 1 .acknowledged)] ≤
        (ahead 2 1 start.db).length * 1 := by
  refine ⟨_, _, rfl, rfl,
    waits_boundedly ⟨twoUploads, rfl⟩ (by decide) ?_ ?_ rfl (by decide)⟩
  · intro next enabled
    refine ⟨fun jobId workerId duration emits => ?_, trivial⟩
    cases emits
    exact ⟨_, rfl, rfl⟩
  · refine ⟨⟨_, rfl, rfl, rfl⟩, fun next enabled => ?_⟩
    cases enabled
    exact ⟨_, rfl, rfl, rfl⟩

end System

end ImportService
