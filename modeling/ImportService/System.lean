/-
This file puts the parties together: any number of workers and of API requests over one
set of tables and one clock. An action lets the clock advance or lets one party take one
step, and commits at most one statement. What a request or a worker knows beyond the
tables is its own state; it learns of the others only through the tables. The answer to a
statement arrives in the step that commits it, and any number of steps may pass before
the next call that is made on its strength.

`act` is the effect of an action, and `emitted` its statement. The tables after a step
are the tables before it with that statement committed (`step_db`), which is how
everything below about rows speaks of steps.
-/

import ImportService.JobPoller
import ImportService.Lib.Transition

namespace ImportService

open JobRepository ProcessImportFile JobPollerService

/-- The number of a request for a cancellation. -/
abbrev RequestId := Nat

/-- A call of `requestCancellation`. `writing` is between its read and its writes. -/
inductive Request
  | unsent
  | writing (importId : ImportId)
  | returned (importId : ImportId) (status : ImportStatus)
  | rejected
  deriving DecidableEq

namespace System

/-- The time, the tables, the workers and the requests. -/
structure State where
  now : Nat
  db : Database
  workers : WorkerId → Worker
  requests : RequestId → Request

/-- No worker has started and no request was sent. -/
def initial (now : Nat) (db : Database) : State where
  now := now
  db := db
  workers := fun _ => Worker.new
  requests := fun _ => .unsent

/-- The clock, an upload, a request for a cancellation, or a worker moves. -/
inductive Action
  | advance (milliseconds : Nat)
  | create (importId : ImportId) (jobId : JobId) (storagePath : JsString) (createdAt : Nat)
  | requestCancellation (requestId : RequestId) (importId : ImportId)
  | cancel (requestId : RequestId) (ack : Ack)
  | work (workerId : WorkerId) (event : Event)

/-- `requestCancellation` after its read. -/
def afterRead (importId : ImportId) (db : Database) : Request :=
  match db.findImport importId with
  | none => .rejected
  | some row =>
      match ImportRepository.settledAnswer row.status with
      | some status => .returned importId status
      | none => .writing importId

/-- A request after its write. A client whose answer is lost is told of a failure. -/
def afterCancel (importId : ImportId) : Ack → Request
  | .acknowledged => .returned importId .CANCELLING
  | .lost | .failed => .rejected

/-- The effect of an action: the time after it, the statement it commits, and the parties. -/
structure Effect where
  now : Nat
  statement : Option Statement
  workers : WorkerId → Worker
  requests : RequestId → Request

/-- An action that changes no party. -/
def Effect.ofState (state : State) (now : Nat) (statement : Option Statement) : Effect where
  now := now
  statement := statement
  workers := state.workers
  requests := state.requests

/-- A step of a request. -/
def Effect.ofRequest (state : State) (requestId : RequestId) (statement : Option Statement)
    (request : Request) : Effect :=
  { Effect.ofState state state.now statement with
    requests := Function.update state.requests requestId request }

/-- A step of a worker. -/
def Effect.ofWorker (state : State) (workerId : WorkerId) (statement : Option Statement)
    (worker : Worker) : Effect :=
  { Effect.ofState state state.now statement with
    workers := Function.update state.workers workerId worker }

/-- A new upload has fresh ids. -/
def isFresh (importId : ImportId) (jobId : JobId) (db : Database) : Bool :=
  (db.findImport importId).isNone && (db.findJobOf importId).isNone && (db.findJob jobId).isNone

/-- What an action does, if the party can move so. -/
def act (ports : Ports) (config : Config) (state : State) : Action → Option Effect
  | .advance milliseconds => some (.ofState state (state.now + milliseconds) none)
  | .create importId jobId storagePath createdAt =>
      if isFresh importId jobId state.db then
        some (.ofState state state.now (some (.create importId jobId storagePath createdAt)))
      else none
  | .requestCancellation requestId importId =>
      match state.requests requestId with
      | .unsent => some (.ofRequest state requestId none (afterRead importId state.db))
      | _ => none
  | .cancel requestId ack =>
      match state.requests requestId with
      | .writing importId =>
          some (.ofRequest state requestId (ack.issued (.cancel importId))
            (afterCancel importId ack))
      | _ => none
  | .work workerId event =>
      (JobPollerService.step ports config state.db state.now workerId (state.workers workerId)
        event).map fun result => .ofWorker state workerId result.1 result.2

/-- The tables with a statement committed, if there is one. -/
def committed (now : Nat) (statement : Option Statement) (db : Database) : Database :=
  match statement with
  | none => db
  | some statement => statement.commit now db

/-- The effect on the tables comes with that on the party. -/
def step (ports : Ports) (config : Config) (state : State) (action : Action) : Option State :=
  (act ports config state action).map fun effect =>
    { now := effect.now, db := committed state.now effect.statement state.db,
      workers := effect.workers, requests := effect.requests }

/-- The statement an action commits. -/
def emitted (ports : Ports) (config : Config) (state : State) (action : Action) :
    Option Statement :=
  (act ports config state action).bind Effect.statement

/-! ### What a step does -/

/-- Who commits a statement, and what that party has seen by then. -/
inductive Origin (config : Config) (state : State) : Action → Statement → Prop
  | create {importId : ImportId} {jobId : JobId} {storagePath : JsString} {createdAt : Nat}
      (fresh : isFresh importId jobId state.db = true) :
      Origin config state (.create importId jobId storagePath createdAt)
        (.create importId jobId storagePath createdAt)
  | cancel {requestId : RequestId} {importId : ImportId} {ack : Ack}
      (writing : state.requests requestId = .writing importId) :
      Origin config state (.cancel requestId ack) (.cancel importId)
  | reclaim {workerId : WorkerId} {sweep : Sweep} {ack : Ack} {passed : List ImportId}
      (sweeping : (state.workers workerId).phase = .sweeping sweep) :
      Origin config state (.work workerId (.reclaim ack passed))
        (.reclaim config.maxJobAttempts sweep passed)
  | claimNext {workerId : WorkerId} {jobId : JobId} {ack : Ack} {row : JobRow}
      (polling : (state.workers workerId).phase = .polling)
      (found : state.db.findJob jobId = some row)
      (claimable : isClaimable state.now row = true) :
      Origin config state (.work workerId (.claimNext jobId ack))
        (.claimNext jobId workerId config.leaseDurationMs)
  | execute {workerId : WorkerId} {job : ClaimedJob} {point : Point} {reply : Reply}
      {statement : Statement} (executing : (state.workers workerId).phase = .executing job point)
      (calls : Calls job point statement) :
      Origin config state (.work workerId (.reply reply)) statement
  | releaseJob {workerId : WorkerId} {job : ClaimedJob} {ack : Ack}
      (stopping : (state.workers workerId).phase = .stopping)
      (current : (state.workers workerId).currentJob = some job) :
      Origin config state (.work workerId (.releaseJob ack)) (.releaseJob job.id workerId)
  | releaseImport {workerId : WorkerId} {importId : ImportId} {ack : Ack}
      (releasing : (state.workers workerId).phase = .releasing importId) :
      Origin config state (.work workerId (.releaseImport ack)) (.releaseImport importId)

theorem calls_of_issued {job : ClaimedJob} {point : Point} {reply : Reply} {statement : Statement}
    (committed : issued job point reply = some statement) : Calls job point statement := by
  unfold issued at committed
  split at committed
  · exact calls_of_statement committed
  · cases committed

theorem Ack.issued_eq_some {ack : Ack} {given statement : Statement}
    (committed : ack.issued given = some statement) : statement = given := by
  unfold Ack.issued at committed
  split at committed
  · exact (Option.some.inj committed).symm
  · cases committed

section

variable {ports : Ports} {config : Config} {state next : State} {action : Action}

theorem work_origin {workerId : WorkerId} {event : Event} {statement : Statement}
    {worker : Worker}
    (moved : JobPollerService.step ports config state.db state.now workerId
      (state.workers workerId) event = some (some statement, worker)) :
    Origin config state (.work workerId event) statement := by
  cases event with
  | reclaim ack passed =>
    rw [JobPollerService.step] at moved
    split at moved
    · rename_i sweep sweeping
      obtain ⟨committed, _⟩ := Prod.mk.inj (Option.some.inj moved)
      rw [Ack.issued_eq_some committed]
      exact .reclaim sweeping
    · cases moved
  | claimNext jobId ack =>
    rw [JobPollerService.step] at moved
    split at moved
    · rename_i row polling found
      split at moved
      · rename_i claimable
        obtain ⟨committed, _⟩ := Prod.mk.inj (Option.some.inj moved)
        rw [Ack.issued_eq_some committed]
        exact .claimNext polling found claimable
      · cases moved
    · cases moved
  | reply reply =>
    rw [JobPollerService.step] at moved
    split at moved
    · rename_i job point executing
      obtain ⟨outcome, _, result⟩ := Option.map_eq_some_iff.mp moved
      exact .execute executing (calls_of_issued (Prod.mk.inj result).1)
    · cases moved
  | releaseJob ack =>
    rw [JobPollerService.step] at moved
    split at moved
    · rename_i job stopping current
      obtain ⟨committed, _⟩ := Prod.mk.inj (Option.some.inj moved)
      rw [Ack.issued_eq_some committed]
      exact .releaseJob stopping current
    · cases moved
  | releaseImport ack =>
    rw [JobPollerService.step] at moved
    split at moved
    · rename_i importId releasing
      obtain ⟨committed, _⟩ := Prod.mk.inj (Option.some.inj moved)
      rw [Ack.issued_eq_some committed]
      exact .releaseImport releasing
    · cases moved
  | stop =>
    rw [JobPollerService.step] at moved
    split at moved
    · cases moved
    · split at moved <;> cases moved
    · cases moved
  | start | findExpired | claimNone | crash =>
    rw [JobPollerService.step] at moved
    split at moved <;> cases moved

theorem emitted_origin {statement : Statement}
    (committed : emitted ports config state action = some statement) :
    Origin config state action statement := by
  obtain ⟨effect, acts, writes⟩ := Option.bind_eq_some_iff.mp committed
  cases action with
  | advance milliseconds =>
    cases acts
    cases writes
  | create importId jobId storagePath createdAt =>
    rw [act] at acts
    split at acts
    · rename_i fresh
      cases acts
      cases writes
      exact .create fresh
    · cases acts
  | requestCancellation requestId importId =>
    rw [act] at acts
    split at acts <;> cases acts
    cases writes
  | cancel requestId ack =>
    rw [act] at acts
    split at acts <;> cases acts
    rename_i importId writing
    rw [Ack.issued_eq_some writes]
    exact .cancel writing
  | work workerId event =>
    obtain ⟨⟨statement', worker⟩, moved, rfl⟩ := Option.map_eq_some_iff.mp acts
    cases writes
    exact work_origin moved

theorem step_eq_some (enabled : step ports config state action = some next) :
    ∃ effect, act ports config state action = some effect ∧
      next = { now := effect.now, db := committed state.now effect.statement state.db,
               workers := effect.workers, requests := effect.requests } := by
  obtain ⟨effect, acts, result⟩ := Option.map_eq_some_iff.mp enabled
  exact ⟨effect, acts, result.symm⟩

/-- The tables change by the emitted statement and by nothing else. -/
theorem step_db (enabled : step ports config state action = some next) :
    next.db = committed state.now (emitted ports config state action) state.db := by
  obtain ⟨effect, acts, rfl⟩ := step_eq_some enabled
  rw [emitted, acts]
  rfl

/-- The step of the worker that moves. -/
theorem step_mover {workerId : WorkerId} {event : Event}
    (enabled : step ports config state (.work workerId event) = some next) :
    JobPollerService.step ports config state.db state.now workerId (state.workers workerId) event =
      some (emitted ports config state (.work workerId event), next.workers workerId) := by
  obtain ⟨effect, acts, rfl⟩ := step_eq_some enabled
  obtain ⟨⟨statement, worker⟩, moved, rfl⟩ := Option.map_eq_some_iff.mp acts
  rw [emitted, acts, moved]
  simp only [Effect.ofWorker, Function.update_self]
  rfl

/-- A worker stays as it is, or the action is a step of this worker. -/
theorem step_worker (enabled : step ports config state action = some next)
    (workerId : WorkerId) :
    next.workers workerId = state.workers workerId ∨
      ∃ event, action = .work workerId event ∧
        JobPollerService.step ports config state.db state.now workerId (state.workers workerId)
          event = some (emitted ports config state action, next.workers workerId) := by
  cases action with
  | advance milliseconds =>
    obtain ⟨effect, acts, rfl⟩ := step_eq_some enabled
    cases acts
    exact Or.inl rfl
  | create | requestCancellation | cancel =>
    obtain ⟨effect, acts, rfl⟩ := step_eq_some enabled
    rw [act] at acts
    split at acts <;> cases acts
    exact Or.inl rfl
  | work mover event =>
    by_cases same : workerId = mover
    · subst same
      exact Or.inr ⟨event, rfl, step_mover enabled⟩
    · obtain ⟨effect, acts, rfl⟩ := step_eq_some enabled
      obtain ⟨result, moved, rfl⟩ := Option.map_eq_some_iff.mp acts
      exact Or.inl (Function.update_of_ne same _ _)

/-- A step of one worker leaves the others as they are. -/
theorem step_other {mover workerId : WorkerId} {event : Event} (other : workerId ≠ mover)
    (enabled : step ports config state (.work mover event) = some next) :
    next.workers workerId = state.workers workerId := by
  rcases step_worker enabled workerId with same | ⟨_, acts, _⟩
  · exact same
  · cases acts
    exact absurd rfl other

/-- The phase of a worker stays as it is, or its own step enters it. -/
theorem step_phase (enabled : step ports config state action = some next)
    (workerId : WorkerId) :
    (next.workers workerId).phase = (state.workers workerId).phase ∨
      ∃ event, action = .work workerId event ∧
        Entered ports config state.db state.now workerId (state.workers workerId) event
          (emitted ports config state action) (next.workers workerId).phase := by
  rcases step_worker enabled workerId with same | ⟨event, acts, moved⟩
  · exact Or.inl (congrArg Worker.phase same)
  · exact Or.inr ⟨event, acts, step_entered moved⟩

/-- A request stays as it is, or the action is its read or its write. -/
theorem step_request (enabled : step ports config state action = some next)
    (requestId : RequestId) :
    next.requests requestId = state.requests requestId ∨
      (∃ importId, action = .requestCancellation requestId importId ∧
        state.requests requestId = .unsent ∧
        next.requests requestId = afterRead importId state.db) ∨
      ∃ importId ack, action = .cancel requestId ack ∧
        state.requests requestId = .writing importId ∧
        emitted ports config state action = ack.issued (.cancel importId) ∧
        next.requests requestId = afterCancel importId ack := by
  obtain ⟨effect, acts, rfl⟩ := step_eq_some enabled
  cases action with
  | advance milliseconds =>
    cases acts
    exact Or.inl rfl
  | create =>
    rw [act] at acts
    split at acts <;> cases acts
    exact Or.inl rfl
  | work mover event =>
    obtain ⟨result, moved, rfl⟩ := Option.map_eq_some_iff.mp acts
    exact Or.inl rfl
  | requestCancellation sender importId =>
    rw [act] at acts
    split at acts <;> cases acts
    rename_i unsent
    by_cases same : requestId = sender
    · subst same
      exact Or.inr (Or.inl ⟨importId, rfl, unsent, Function.update_self _ _ _⟩)
    · exact Or.inl (Function.update_of_ne same _ _)
  | cancel sender ack =>
    have acting := acts
    rw [act] at acts
    split at acts <;> cases acts
    rename_i importId writing
    by_cases same : requestId = sender
    · subst same
      refine Or.inr (Or.inr ⟨importId, ack, rfl, writing, ?_, Function.update_self _ _ _⟩)
      rw [emitted, acting]
      rfl
    · exact Or.inl (Function.update_of_ne same _ _)

end

/-! ### Looking rows up after a step -/

/-- What a step that emits a statement does to a job row. -/
def onJob (now : Nat) : Option Statement → JobRow → JobRow
  | none, row => row
  | some statement, row => statement.onJob now row

/-- What a step that emits a statement does to an import row. -/
def onImport (now : Nat) (db : Database) : Option Statement → ImportRow → ImportRow
  | none, row => row
  | some statement, row => statement.onImport now db row

section

variable {ports : Ports} {config : Config} {state next : State} {action : Action}

theorem step_findJob (enabled : step ports config state action = some next) {jobId : JobId}
    {row : JobRow} (found : state.db.findJob jobId = some row) :
    next.db.findJob jobId =
      some (onJob state.now (emitted ports config state action) row) := by
  rw [step_db enabled]
  cases emitted ports config state action with
  | none => exact found
  | some statement => exact Statement.commit_findJob state.now statement found

theorem step_findJobOf (enabled : step ports config state action = some next)
    {importId : ImportId} {row : JobRow} (found : state.db.findJobOf importId = some row) :
    next.db.findJobOf importId =
      some (onJob state.now (emitted ports config state action) row) := by
  rw [step_db enabled]
  cases emitted ports config state action with
  | none => exact found
  | some statement => exact Statement.commit_findJobOf state.now statement found

theorem step_findImport (enabled : step ports config state action = some next)
    {importId : ImportId} {row : ImportRow} (found : state.db.findImport importId = some row) :
    next.db.findImport importId =
      some (onImport state.now state.db (emitted ports config state action) row) := by
  rw [step_db enabled]
  cases emitted ports config state action with
  | none => exact found
  | some statement => exact Statement.commit_findImport state.now statement found

/-- A job found after a step was there before it, or the step created it. -/
theorem findJob_step (enabled : step ports config state action = some next) {jobId : JobId}
    {row : JobRow} (found : next.db.findJob jobId = some row) :
    (∃ old, state.db.findJob jobId = some old ∧
        row = onJob state.now (emitted ports config state action) old) ∨
      ∃ importId storagePath createdAt,
        emitted ports config state action = some (.create importId jobId storagePath createdAt) ∧
        row = ImportRepository.newJob importId jobId state.now := by
  rw [step_db enabled] at found
  cases emits : emitted ports config state action with
  | none =>
    rw [emits] at found
    exact Or.inl ⟨row, found, rfl⟩
  | some statement =>
    rw [emits] at found
    rcases Statement.findJob_commit found with old | added
    · exact Or.inl old
    · cases statement with
      | create importId newId storagePath createdAt =>
        have rowEq := List.mem_singleton.mp added
        have same : newId = jobId := by
          rw [← KeyedTable.lookup_key JobRow.id found, rowEq]
          rfl
        subst same
        exact Or.inr ⟨importId, storagePath, createdAt, rfl, rowEq⟩
      | _ => cases added

/-- The job of an import found after a step was there before it, or the step created it. -/
theorem findJobOf_step (enabled : step ports config state action = some next)
    {importId : ImportId} {row : JobRow} (found : next.db.findJobOf importId = some row) :
    (∃ old, state.db.findJobOf importId = some old ∧
        row = onJob state.now (emitted ports config state action) old) ∨
      ∃ jobId storagePath createdAt,
        emitted ports config state action = some (.create importId jobId storagePath createdAt) ∧
        row = ImportRepository.newJob importId jobId state.now := by
  rw [step_db enabled] at found
  cases emits : emitted ports config state action with
  | none =>
    rw [emits] at found
    exact Or.inl ⟨row, found, rfl⟩
  | some statement =>
    rw [emits] at found
    rcases Statement.findJobOf_commit found with old | added
    · exact Or.inl old
    · cases statement with
      | create newId jobId storagePath createdAt =>
        have rowEq := List.mem_singleton.mp added
        have same : newId = importId := by
          rw [← KeyedTable.lookup_key JobRow.importId found, rowEq]
          rfl
        subst same
        exact Or.inr ⟨jobId, storagePath, createdAt, rfl, rowEq⟩
      | _ => cases added

/-- An import found after a step was there before it, or the step created it. -/
theorem findImport_step (enabled : step ports config state action = some next)
    {importId : ImportId} {row : ImportRow} (found : next.db.findImport importId = some row) :
    (∃ old, state.db.findImport importId = some old ∧
        row = onImport state.now state.db (emitted ports config state action) old) ∨
      ∃ jobId storagePath createdAt,
        emitted ports config state action = some (.create importId jobId storagePath createdAt) ∧
        state.db.findImport importId = none ∧
        row = ImportRepository.newImport importId createdAt state.now := by
  rw [step_db enabled] at found
  cases emits : emitted ports config state action with
  | none =>
    rw [emits] at found
    exact Or.inl ⟨row, found, rfl⟩
  | some statement =>
    rw [emits] at found
    rcases Statement.findImport_commit found with old | ⟨missing, added⟩
    · exact Or.inl old
    · cases statement with
      | create newId jobId storagePath createdAt =>
        have rowEq := List.mem_singleton.mp added
        have same : newId = importId := by
          rw [← KeyedTable.lookup_key ImportRow.id found, rowEq]
          rfl
        subst same
        exact Or.inr ⟨jobId, storagePath, createdAt, rfl, missing, rowEq⟩
      | _ => cases added

end

/-! ### Schedules on small files -/

/-- Every file is empty, so an execution has no line to score. -/
def emptyFilePorts : Ports where
  runtime :=
    { dateParse := fun _ => none, numberToString := fun _ => [], syntaxErrorMessage := id,
      sha256 := id }
  readLines := fun _ => []
  countLines := fun _ => 0
  computeRiskScore := fun _ _ => (0, .LOW)

/-- A record that is accepted. -/
def oneRecord : JsString :=
  JsString.ofString <|
    "\x7b\"transactionId\":\"t\",\"accountId\":\"a\",\"merchantId\":\"m\"," ++
    "\"amount\":1,\"currency\":\"EUR\",\"timestamp\":0\x7d"

/-- Every file holds one record. -/
def oneRecordPorts : Ports :=
  { emptyFilePorts with
    readLines := fun _ => [oneRecord]
    countLines := fun _ => 1 }

/-- The environment variables at their defaults. -/
def defaultConfig : Config where
  batchSize := fun _ => 500
  leaseDurationMs := 2 * 60 * 1000
  maxJobAttempts := 3
  reclaimIntervalMs := 30000

/-- An upload of an empty file, with its job under the same number. -/
def upload (importId : ImportId) : Action := .create importId importId [] 0

/-- The tables with import 1, which nobody has started on. -/
def uploaded : Database := (Statement.create 1 1 [] 0).commit 0 Database.empty

/-- A worker starts with nothing to reclaim. -/
def startUp (workerId : WorkerId) : List Action :=
  [.work workerId .start, .work workerId (.findExpired true)]

/-- The next calls of an execution all succeed. -/
def replies (workerId : WorkerId) (count : Nat) : List Action :=
  List.replicate count (.work workerId (.reply .ok))

end System

end ImportService
