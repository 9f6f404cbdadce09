/-
This file puts one worker process together, the poller with its execution and the scoring
pool, and asks what a shutdown does to the job that is being processed. `shutdown` can
come between any two calls, as a step of the graceful shutdown or as the hook Nest calls
on SIGTERM.

No port but the pool fails. The pool throws and rejects with plain errors, which the
`catch` block of `execute` takes for failures, and a task whose thread is terminated is
never settled. So a shutdown goes well just when it spares the scoring of the job: no
batch is handed to a pool that shuts down, and no thread exits with a task.
-/

import ImportService.ClosedRuns
import ImportService.ThreadPool

namespace ImportService

open KeyedTable JobRepository ProcessImportFile JobPollerService

namespace WorkerProcess

/-! ### A worker process -/

/-- The time, the tables, one worker and the pool of its process. -/
structure State where
  now : Nat
  db : Database
  worker : Worker
  pool : WorkerThreadPool

/-- The worker has not started, and the threads are free. -/
def initial (now : Nat) (db : Database) (poolSize : Nat) : State where
  now := now
  db := db
  worker := Worker.new
  pool := WorkerThreadPool.start poolSize

/-- `elsewhere` is a statement of another process, and `call` the end of a call that does not go
to the pool. -/
inductive Action
  | advance (milliseconds : Nat)
  | elsewhere (statement : Statement)
  | call (event : Event)
  | shutdown
  | message (index : Nat)
  | exit (index : Nat)

/-- The call ends with an answer. -/
def isAnswered : Event → Bool
  | .start | .claimNone | .stop => true
  | .findExpired answered => answered
  | .reclaim ack _ | .claimNext _ ack | .releaseJob ack | .releaseImport ack => ack == .acknowledged
  | .reply reply => reply == .ok
  | .crash => false

/-- The worker waits for the scores of a batch. -/
def isScoring : Phase → Bool
  | .executing _ (.scoreBatch _ _ _) => true
  | _ => false

/-- The worker after the promise of its batch is settled. -/
def settle (now : Nat) (worker : Worker) (settlement : Settlement) : Worker :=
  match worker.phase with
  | .executing job (.scoreBatch locals batch last) =>
      match settlement with
      | .resolved results =>
          afterExecute job worker
            (.awaiting (.persistBatch locals (persistInput job batch results) last))
      | .rejected message =>
          afterExecute job worker
            (failed now (.error message) (.scoreBatch locals batch last))
  | _ => worker

/-- The call of `scoreBatch`, when the execution has come to it. -/
def handOver (state : State) : State :=
  match state.worker.phase with
  | .executing _ (.scoreBatch _ batch _) =>
      match state.pool.scoreBatch batch.pendingScoring with
      | (pool, none) => { state with pool }
      | (pool, some settlement) =>
          { state with pool, worker := settle state.now state.worker settlement }
  | _ => state

/-- The clock, another party, a call of the worker, or the pool moves. -/
def step (ports : Ports) (config : Config) (workerId : WorkerId) (state : State) :
    Action → Option State
  | .advance milliseconds => some { state with now := state.now + milliseconds }
  | .elsewhere statement => some { state with db := statement.commit state.now state.db }
  | .call event =>
      if isAnswered event && !isScoring state.worker.phase then
        (JobPollerService.step ports config state.db state.now workerId state.worker event).map
          fun result => handOver { state with
            db := System.committed state.now result.1 state.db
            worker := result.2 }
      else none
  | .shutdown =>
      let result := state.pool.shutdown
      some { state with
        pool := result.1
        worker := result.2.foldl (settle state.now) state.worker }
  | .message index =>
      (state.pool.message ports index).map fun result =>
        { state with pool := result.1, worker := settle state.now state.worker result.2 }
  | .exit index => (state.pool.exit index).map fun pool => { state with pool }

/-! ### Batches that are next -/

/-- The line completes a batch with transactions. -/
def fillsBatch (ports : Ports) (batchSize : Nat) (locals : Locals) (rawLine : JsString) : Bool :=
  match handleLine ports locals.fallbackProvider rawLine locals.lineNumber with
  | .blank => false
  | outcome =>
      let pending := locals.pending.add outcome
      decide (batchSize ≤ pending.size) && !pending.pendingScoring.isEmpty

/-- The code after the call comes to a batch with transactions before it comes to another call:
at the end of the file, at a cancellation, or with the line that completes the batch. -/
def scoresNext (ports : Ports) (batchSize : Nat) (db : Database) (now : Nat) (job : ClaimedJob) :
    Point → Bool
  | .readLine locals =>
      match locals.rest with
      | [] => !locals.pending.pendingScoring.isEmpty
      | rawLine :: rest =>
          !decide (locals.lastHeartbeat + HEARTBEAT_INTERVAL_MS < now) &&
            !decide ((locals.lineNumber + 1) % CANCELLATION_CHECK_INTERVAL = 0) &&
            fillsBatch ports batchSize { locals with rest, lineNumber := locals.lineNumber + 1 }
              rawLine
  | .renewLease locals rawLine =>
      !decide (locals.lineNumber % CANCELLATION_CHECK_INTERVAL = 0) &&
        fillsBatch ports batchSize { locals with lastHeartbeat := now } rawLine
  | .getStatus locals rawLine =>
      if JobRepository.getStatus job.id db = some .CANCELLING then
        !locals.pending.pendingScoring.isEmpty
      else fillsBatch ports batchSize locals rawLine
  | .findByImportId | .countLines _ | .updateBoth _ _ _ | .scoreBatch _ _ _
  | .persistBatch _ _ _ => false

/-- The end of the call makes the execution hand a batch to the pool. -/
def handsOver (ports : Ports) (config : Config) (workerId : WorkerId) (state : State) : Bool :=
  match state.worker.phase with
  | .executing job point =>
      scoresNext ports (config.batchSize workerId) state.db state.now job point
  | _ => false

/-! ### What a shutdown may do -/

/-- The action is the end of a call. -/
def isAnswer : Action → Bool
  | .call _ | .message _ => true
  | .advance _ | .elsewhere _ | .shutdown | .exit _ => false

/-- What one step does to the job that is being processed: it is not marked `FAILED`, its next
call can end, and every call brings its end nearer; it ends after the mark `COMPLETED` or
`CANCELLED`, or by the interruption by a shutdown, and then `stop` returns it to `PENDING`. -/
structure EndsWell (ports : Ports) (config : Config) (workerId : WorkerId) (state : State)
    (action : Action) (next : State) : Prop where
  unmarked : ∀ job mark stage caller,
    next.worker.phase = .executing job (.updateBoth mark stage caller) → mark.status ≠ .FAILED
  answered : ∀ job point, next.worker.phase = .executing job point →
    ∃ answer, isAnswer answer = true ∧ (step ports config workerId next answer).isSome = true
  nearer : ∀ job point, state.worker.phase = .executing job point →
    isAnswer action = false ∧ next.worker = state.worker ∨
      ∀ later, next.worker.phase = .executing job later → later ≠ .findByImportId ∧
        (point = .findByImportId ∨
          later.callsLeft ports ⟨[], none⟩ < point.callsLeft ports ⟨[], none⟩)
  ended : ∀ job point, state.worker.phase = .executing job point →
    (∃ later, next.worker.phase = .executing job later) ∨
      (next.worker.currentJob = none ∧ ∃ mark, point = .updateBoth mark .importRow .loopEnded ∧
        (mark.status = .COMPLETED ∨ mark.status = .CANCELLED)) ∨
      (next.worker.phase = .stopping ∧ next.worker.currentJob = some job)
  released : ∀ job, state.worker.phase = .stopping → state.worker.currentJob = some job →
    next.worker.phase ≠ .stopping →
    (next.db.findJob job.id).map JobRow.status = some .PENDING

/-- No call ends before a batch while the pool shuts down, and no thread exits with a task. -/
structure SparesScoring (ports : Ports) (config : Config) (workerId : WorkerId) (state : State)
    (action : Action) : Prop where
  batches : state.pool.shuttingDown = true → ∀ event, action = .call event →
    handsOver ports config workerId state = false
  threads : ∀ index slot, action = .exit index → state.pool.slots[index]? = some slot →
    slot.current = none

/-! ### Imports have their files -/

/-- Every import with a job has a file, as `createOrReturnExisting` has it. -/
def HasFiles (db : Database) : Prop :=
  ∀ row ∈ db.jobs, (ImportFileRepository.findByImportId row.importId db).isSome = true

section

variable {db : Database} {importId : ImportId}

theorem isSome_earliest {files : List ImportFileRow} :
    (ImportFileRepository.earliest files).isSome = true ↔ files ≠ [] := by
  cases files with
  | nil => simp [ImportFileRepository.earliest]
  | cons file rest =>
    rw [ImportFileRepository.earliest]
    cases ImportFileRepository.earliest rest <;> simp

theorem isSome_findByImportId :
    (ImportFileRepository.findByImportId importId db).isSome = true ↔
      (∃ file ∈ db.importFiles, file.importId = importId) ∧
        (db.findImport importId).isSome = true := by
  have filtered : (∃ file ∈ db.importFiles, file.importId = importId) ↔
      (ImportFileRepository.earliest
        (db.importFiles.filter fun file => file.importId == importId)).isSome = true := by
    rw [isSome_earliest, ne_eq, List.filter_eq_nil_iff]
    simp
  rw [filtered, ImportFileRepository.findByImportId]
  cases ImportFileRepository.earliest (db.importFiles.filter fun file =>
    file.importId == importId) <;> cases db.findImport importId <;> simp

/-- Files and imports stay. -/
theorem isSome_findByImportId_commit (now : Nat) (statement : Statement)
    (found : (ImportFileRepository.findByImportId importId db).isSome = true) :
    (ImportFileRepository.findByImportId importId (statement.commit now db)).isSome = true := by
  obtain ⟨⟨file, member, belongs⟩, known⟩ := isSome_findByImportId.mp found
  refine isSome_findByImportId.mpr ⟨⟨file, ?_, belongs⟩, Statement.isSome_findImport known⟩
  rw [Statement.commit_importFiles]
  exact List.mem_append_left _ member

theorem hasFiles_commit (now : Nat) (statement : Statement) (hasFiles : HasFiles db) :
    HasFiles (statement.commit now db) := by
  intro row member
  rw [Statement.commit_jobs] at member
  rcases List.mem_append.mp member with changed | new
  · obtain ⟨before, beforeMember, rfl⟩ := List.mem_map.mp changed
    rw [Statement.onJob_importId]
    exact isSome_findByImportId_commit now statement (hasFiles before beforeMember)
  · cases statement with
    | create importId jobId storagePath createdAt =>
      rw [List.mem_singleton.mp new]
      refine isSome_findByImportId.mpr ⟨⟨⟨importId, storagePath, now⟩, ?_, rfl⟩,
        Statement.findImport_create importId jobId storagePath createdAt⟩
      exact List.mem_append_right _ (List.mem_singleton_self _)
    | _ => cases new

theorem hasFiles_committed (now : Nat) (statement : Option Statement) (hasFiles : HasFiles db) :
    HasFiles (System.committed now statement db) := by
  cases statement with
  | none => exact hasFiles
  | some statement => exact hasFiles_commit now statement hasFiles

theorem isSome_findByImportId_committed (now : Nat) (statement : Option Statement)
    (found : (ImportFileRepository.findByImportId importId db).isSome = true) :
    (ImportFileRepository.findByImportId importId (System.committed now statement db)).isSome =
      true := by
  cases statement with
  | none => exact found
  | some statement => exact isSome_findByImportId_commit now statement found

end

/-! ### The calls before a batch -/

section

variable {ports : Ports} {batchSize now : Nat} {job : ClaimedJob} {locals : Locals}
  {rawLine : JsString}

/-- The outcome waits for the scores of a batch. -/
def awaitsScores : Outcome → Bool
  | .awaiting (.scoreBatch _ _ _) => true
  | _ => false

theorem awaitsScores_flush (last : Bool) :
    awaitsScores (flush job now locals last) = !locals.pending.pendingScoring.isEmpty := by
  unfold flush
  split
  · rename_i empty
    rw [(Bool.and_eq_true_iff.mp empty).1]
    unfold afterFlush
    split
    · rfl
    · split <;> rfl
  · simp only
    split
    · rename_i noScoring
      rw [noScoring]
      rfl
    · rename_i scoring
      rw [Bool.eq_false_iff.mpr scoring]
      rfl

theorem awaitsScores_accumulate :
    awaitsScores (accumulate ports batchSize job now locals rawLine) =
      fillsBatch ports batchSize locals rawLine := by
  rw [accumulate, fillsBatch]
  cases handleLine ports locals.fallbackProvider rawLine locals.lineNumber with
  | blank => rfl
  | rejected | accepted =>
    simp only
    split
    · rename_i full
      rw [awaitsScores_flush, decide_eq_true full, Bool.true_and]
    · rename_i notFull
      rw [decide_eq_false notFull, Bool.false_and]
      rfl

theorem awaitsScores_checkCancellation :
    awaitsScores (checkCancellation ports batchSize job now locals rawLine) =
      (!decide (locals.lineNumber % CANCELLATION_CHECK_INTERVAL = 0) &&
        fillsBatch ports batchSize locals rawLine) := by
  unfold checkCancellation
  split
  · rename_i checks
    rw [decide_eq_true checks]
    rfl
  · rename_i goesOn
    rw [awaitsScores_accumulate, decide_eq_false goesOn, Bool.not_false, Bool.true_and]

theorem awaitsScores_heartbeat :
    awaitsScores (heartbeat ports batchSize job now locals rawLine) =
      (!decide (locals.lastHeartbeat + HEARTBEAT_INTERVAL_MS < now) &&
        !decide (locals.lineNumber % CANCELLATION_CHECK_INTERVAL = 0) &&
        fillsBatch ports batchSize locals rawLine) := by
  unfold heartbeat
  split
  · rename_i due
    rw [decide_eq_true due]
    rfl
  · rename_i notDue
    rw [awaitsScores_checkCancellation, decide_eq_false notDue, Bool.not_false, Bool.true_and]

theorem awaitsScores_succeeded (db : Database) (point : Point) :
    awaitsScores (succeeded ports batchSize db now job point) =
      scoresNext ports batchSize db now job point := by
  cases point with
  | readLine locals =>
    rw [succeeded, scoresNext]
    cases locals.rest with
    | nil => exact awaitsScores_flush true
    | cons rawLine rest => exact awaitsScores_heartbeat
  | renewLease locals rawLine => exact awaitsScores_checkCancellation
  | getStatus locals rawLine =>
    rw [succeeded, scoresNext]
    split
    · exact awaitsScores_flush true
    · exact awaitsScores_accumulate
  | findByImportId =>
    rw [succeeded]
    split <;> rfl
  | updateBoth mark stage caller =>
    cases stage with
    | job => rfl
    | importRow => cases caller <;> rfl
  | persistBatch locals input last =>
    rw [succeeded, afterFlush]
    split
    · rfl
    · split <;> rfl
  | countLines | scoreBatch => rfl

theorem isScoring_afterExecute (worker : Worker) (outcome : Outcome) :
    isScoring (afterExecute job worker outcome).phase = awaitsScores outcome := by
  cases outcome with
  | awaiting point => cases point <;> rfl
  | resolved => rfl
  | rejected failure => cases failure <;> rfl

end

/-! ### Executions that are on their way -/

/-- The call of an execution none of whose calls has failed. -/
def OnItsWay : Point → Prop
  | .updateBoth mark _ (.fileFound _) => mark.status = .PROCESSING
  | .updateBoth mark _ .loopEnded => mark.status = .COMPLETED ∨ mark.status = .CANCELLED
  | .updateBoth _ _ .fileMissing | .updateBoth _ _ .caught => False
  | .findByImportId | .countLines _ | .readLine _ | .renewLease _ _ | .getStatus _ _
  | .scoreBatch _ _ _ | .persistBatch _ _ _ => True

/-- The next call is on its way too, and nearer to the end. -/
def GoesOnFrom (ports : Ports) (point : Point) (outcome : Outcome) : Prop :=
  ∃ later, outcome = .awaiting later ∧ OnItsWay later ∧ later ≠ .findByImportId ∧
    (point = .findByImportId ∨
      later.callsLeft ports ⟨[], none⟩ < point.callsLeft ports ⟨[], none⟩)

section

variable {ports : Ports} {batchSize now : Nat} {db : Database} {job : ClaimedJob} {point : Point}

theorem not_failed_of_onItsWay {mark : Mark} {stage : Stage} {caller : Caller}
    (onItsWay : OnItsWay (.updateBoth mark stage caller)) : mark.status ≠ .FAILED := by
  cases caller with
  | fileMissing | caught => cases onItsWay
  | fileFound file =>
    rw [show mark.status = .PROCESSING from onItsWay]
    decide
  | loopEnded => rcases onItsWay with status | status <;> rw [status] <;> decide

theorem onItsWay_of_inLoop {outcome : Outcome} (inLoop : outcome.InLoop now) :
    ∃ later, outcome = .awaiting later ∧ OnItsWay later := by
  cases outcome with
  | resolved | rejected => cases inLoop
  | awaiting later =>
    refine ⟨later, rfl, ?_⟩
    cases later with
    | findByImportId | countLines => cases inLoop
    | updateBoth mark stage caller =>
      cases stage with
      | importRow => cases inLoop
      | job =>
        cases caller with
        | fileMissing | fileFound | caught => cases inLoop
        | loopEnded =>
          rcases inLoop with rfl | rfl
          · exact Or.inl rfl
          · exact Or.inr rfl
    | _ => trivial

theorem succeeded_onItsWay (batchSize now : Nat)
    (found : (ImportFileRepository.findByImportId job.importId db).isSome = true)
    (onItsWay : OnItsWay point) :
    (∃ later, succeeded ports batchSize db now job point = .awaiting later ∧ OnItsWay later) ∨
      succeeded ports batchSize db now job point = .resolved ∧
        ∃ mark, point = .updateBoth mark .importRow .loopEnded ∧
          (mark.status = .COMPLETED ∨ mark.status = .CANCELLED) := by
  cases point with
  | findByImportId =>
    obtain ⟨file, finds⟩ := Option.isSome_iff_exists.mp found
    rw [succeeded, finds]
    exact Or.inl ⟨_, rfl, trivial⟩
  | countLines file => exact Or.inl ⟨_, rfl, rfl⟩
  | updateBoth mark stage caller =>
    cases stage with
    | job => exact Or.inl ⟨_, rfl, by cases caller <;> exact onItsWay⟩
    | importRow =>
      cases caller with
      | fileMissing | caught => cases onItsWay
      | fileFound file => exact Or.inl ⟨_, rfl, trivial⟩
      | loopEnded => exact Or.inr ⟨rfl, mark, rfl, onItsWay⟩
  | readLine | renewLease | getStatus | scoreBatch | persistBatch =>
    exact Or.inl (onItsWay_of_inLoop (succeeded_inLoop batchSize db now rfl))

theorem succeeded_goesOnFrom (ports : Ports) (batchSize now : Nat)
    (found : (ImportFileRepository.findByImportId job.importId db).isSome = true)
    (onItsWay : OnItsWay point) :
    GoesOnFrom ports point (succeeded ports batchSize db now job point) ∨
      succeeded ports batchSize db now job point = .resolved ∧
        ∃ mark, point = .updateBoth mark .importRow .loopEnded ∧
          (mark.status = .COMPLETED ∨ mark.status = .CANCELLED) := by
  refine (succeeded_onItsWay batchSize now found onItsWay).imp_left fun awaits => ?_
  obtain ⟨later, next, laterOnItsWay⟩ := awaits
  by_cases first : point = .findByImportId
  · refine ⟨later, next, laterOnItsWay, ?_, Or.inl first⟩
    obtain ⟨file, finds⟩ := Option.isSome_iff_exists.mp found
    rw [first, succeeded, finds] at next
    cases next
    exact Point.noConfusion
  · obtain ⟨notFirst, calls⟩ := endsWithin_succeeded batchSize db now ⟨[], none⟩ first later next
    have positive : 0 < point.callsLeft ports ⟨[], none⟩ := point.callsLeft_pos
    exact ⟨later, next, laterOnItsWay, notFirst, Or.inr (by omega)⟩

end

/-! ### The invariant of a run -/

/-- The worker executes a job. -/
def IsExecuting (phase : Phase) : Prop := ∃ job point, phase = .executing job point

/-- What is known of the tables and of the worker, whatever the pool does. -/
structure Tracked (state : State) : Prop where
  hasFiles : HasFiles state.db
  healthy : state.pool.Healthy
  executing : ∀ job point, state.worker.phase = .executing job point →
    state.worker.currentJob = some job ∧ OnItsWay point ∧
      (ImportFileRepository.findByImportId job.importId state.db).isSome = true
  released : ¬IsExecuting state.worker.phase → state.worker.currentJob = none

/-- The pool has a task just while the execution waits for it. -/
structure Good (state : State) : Prop extends Tracked state where
  serves : ∀ job locals batch last,
    state.worker.phase = .executing job (.scoreBatch locals batch last) →
      state.pool.Serves batch.pendingScoring
  free : isScoring state.worker.phase = false → state.pool.Idle

theorem good_initial (now : Nat) {db : Database} (hasFiles : HasFiles db) (poolSize : Nat) :
    Good (initial now db poolSize) where
  hasFiles := hasFiles
  healthy := WorkerThreadPool.healthy_start poolSize
  executing := by
    intro _ _ executing
    cases executing
  released := fun _ => rfl
  serves := by
    intro _ _ _ _ executing
    cases executing
  free := fun _ => WorkerThreadPool.idle_start poolSize

/-- The execution is at a later call of the job, or it has ended with its mark. -/
def Progresses (ports : Ports) (job : ClaimedJob) (point : Point) (worker : Worker) : Prop :=
  (∃ later, worker.phase = .executing job later ∧ later ≠ .findByImportId ∧
    (point = .findByImportId ∨
      later.callsLeft ports ⟨[], none⟩ < point.callsLeft ports ⟨[], none⟩)) ∨
  (worker.currentJob = none ∧ ∃ mark, point = .updateBoth mark .importRow .loopEnded ∧
    (mark.status = .COMPLETED ∨ mark.status = .CANCELLED))

section

variable {ports : Ports} {config : Config} {workerId : WorkerId} {state next : State}

theorem isScoring_eq_true {phase : Phase} :
    isScoring phase = true ↔
      ∃ job locals batch last, phase = .executing job (.scoreBatch locals batch last) := by
  constructor
  · intro scoring
    unfold isScoring at scoring
    split at scoring
    · exact ⟨_, _, _, _, rfl⟩
    · cases scoring
  · rintro ⟨job, locals, batch, last, rfl⟩
    rfl

theorem not_isExecuting_of_isBare {phase : Phase} (isBare : phase.isBare = true) :
    ¬IsExecuting phase := by
  rintro ⟨job, point, rfl⟩
  cases isBare

/-- A running execution has a call that can end. -/
theorem Good.answered (good : Good next) {job : ClaimedJob} {point : Point}
    (executing : next.worker.phase = .executing job point) :
    ∃ answer, isAnswer answer = true ∧ (step ports config workerId next answer).isSome = true := by
  cases scoring : isScoring next.worker.phase with
  | true =>
    obtain ⟨_, locals, batch, last, isAt⟩ := isScoring_eq_true.mp scoring
    obtain ⟨index, pool, settlement, answers⟩ :=
      WorkerThreadPool.exists_message ports (good.serves _ locals batch last isAt)
    refine ⟨.message index, rfl, ?_⟩
    rw [step, answers]
    rfl
  | false =>
    refine ⟨.call (.reply .ok), rfl, ?_⟩
    have ends : (isAnswered (.reply .ok) && !isScoring next.worker.phase) = true := by
      rw [scoring]
      rfl
    rw [step, if_pos ends]
    simp only [JobPollerService.step, executing, resume]
    rfl

/-- What is left to show of a step when the state after it is known to be good. -/
theorem endsWell_of_good {action : Action} (good : Good state) (goodNext : Good next)
    (goesOn : ∀ job point, state.worker.phase = .executing job point →
      (isAnswer action = false ∧ next.worker = state.worker) ∨
        Progresses ports job point next.worker) :
    EndsWell ports config workerId state action next where
  unmarked := fun _ _ _ _ executing => not_failed_of_onItsWay (goodNext.executing _ _ executing).2.1
  answered := fun _ _ executing => goodNext.answered executing
  nearer := by
    intro job point executing
    rcases goesOn job point executing with same | ⟨later, isAt, notFirst, nearer⟩ | ⟨resolved, _⟩
    · exact Or.inl same
    · refine Or.inr fun other otherIs => ?_
      cases isAt.symm.trans otherIs
      exact ⟨notFirst, nearer⟩
    · refine Or.inr fun other otherIs => ?_
      cases resolved.symm.trans (goodNext.executing job other otherIs).1
  ended := by
    intro job point executing
    rcases goesOn job point executing with ⟨_, same⟩ | ⟨later, isAt, _⟩ | resolved
    · exact Or.inl ⟨point, same ▸ executing⟩
    · exact Or.inl ⟨later, isAt⟩
    · exact Or.inr (Or.inl resolved)
  released := by
    intro job stopping current
    have notExecuting : ¬IsExecuting state.worker.phase := by
      rintro ⟨other, point, executing⟩
      cases stopping.symm.trans executing
    cases (good.released notExecuting).symm.trans current

/-- A step that is no answer and leaves the worker as it is. -/
theorem endsWell_of_same {action : Action} (good : Good state) (goodNext : Good next)
    (noAnswer : isAnswer action = false) (same : next.worker = state.worker) :
    EndsWell ports config workerId state action next :=
  endsWell_of_good good goodNext fun _ _ _ => Or.inl ⟨noAnswer, same⟩

/-! ### Steps of the pool -/

theorem good_shutdown (good : Good state)
    (enabled : step ports config workerId state .shutdown = some next) :
    Good next ∧ next.worker = state.worker := by
  have empty : state.pool.queue = [] := by
    cases scoring : isScoring state.worker.phase with
    | false => exact (good.free scoring).queue
    | true =>
      obtain ⟨job, locals, batch, last, isAt⟩ := isScoring_eq_true.mp scoring
      exact (good.serves job locals batch last isAt).queue
  rw [step, WorkerThreadPool.shutdown_of_empty empty] at enabled
  cases enabled
  refine ⟨?_, rfl⟩
  exact
    { hasFiles := good.hasFiles
      healthy := ⟨good.healthy.notEmpty, fun isOpen => by cases isOpen⟩
      executing := good.executing
      released := good.released
      serves := fun job locals batch last isAt =>
        ⟨(good.serves job locals batch last isAt).queue,
          (good.serves job locals batch last isAt).slot⟩
      free := fun scoring => ⟨(good.free scoring).queue, (good.free scoring).slots⟩ }

theorem good_exit {index : Nat} (good : Good state)
    (spared : ∀ slot, state.pool.slots[index]? = some slot → slot.current = none)
    (enabled : step ports config workerId state (.exit index) = some next) :
    Good next ∧ next.worker = state.worker := by
  rw [step] at enabled
  obtain ⟨pool, exits, rfl⟩ := Option.map_eq_some_iff.mp enabled
  refine ⟨?_, rfl⟩
  exact
    { hasFiles := good.hasFiles
      healthy := WorkerThreadPool.healthy_of_exit good.healthy exits
      executing := good.executing
      released := good.released
      serves := fun job locals batch last isAt => WorkerThreadPool.serves_of_exit
        (good.serves job locals batch last isAt) spared exits
      free := fun scoring => WorkerThreadPool.idle_of_exit (good.free scoring) exits }

/-- A thread that exits with its task leaves an execution that has no call that can end. -/
theorem spared_of_exit {index : Nat} {slot : WorkerSlot} (good : Good state)
    (found : state.pool.slots[index]? = some slot)
    (enabled : step ports config workerId state (.exit index) = some next)
    (endsWell : EndsWell ports config workerId state (.exit index) next) : slot.current = none := by
  rw [step] at enabled
  obtain ⟨pool, exits, rfl⟩ := Option.map_eq_some_iff.mp enabled
  by_contra busy
  cases scoring : isScoring state.worker.phase with
  | false =>
    exact busy (WorkerThreadPool.not_busy_of_isIdle ((good.free scoring).getElem? found)).2
  | true =>
    obtain ⟨job, locals, batch, last, isAt⟩ := isScoring_eq_true.mp scoring
    obtain ⟨answer, isAnAnswer, ends⟩ := endsWell.answered job _ isAt
    cases answer with
    | advance | elsewhere | shutdown | exit => cases isAnAnswer
    | call event =>
      simp only [step, scoring, Bool.not_true, Bool.and_false, Bool.false_eq_true, if_false] at ends
      cases ends
    | message other =>
      rw [step, WorkerThreadPool.message_of_exit ports (good.serves job locals batch last isAt)
        found busy exits other] at ends
      cases ends

theorem callsLeft_persistBatch (ports : Ports) (file : ImportFileLocation) (locals : Locals)
    (batch : Batch) (input : PersistBatchInput) (last : Bool) :
    (Point.persistBatch locals input last).callsLeft ports file <
      (Point.scoreBatch locals batch last).callsLeft ports file := by
  cases last with
  | false => exact Nat.lt_succ_self _
  | true => exact Nat.lt_succ_self _

/-- The execution goes on to the write of its batch. -/
theorem good_persistBatch (locals : Locals) (input : PersistBatchInput) (last : Bool)
    {job : ClaimedJob} {pool : WorkerThreadPool} (hasFiles : HasFiles state.db)
    (current : state.worker.currentJob = some job)
    (found : (ImportFileRepository.findByImportId job.importId state.db).isSome = true)
    (healthy : pool.Healthy) (idle : pool.Idle) :
    Good { state with
      pool
      worker := afterExecute job state.worker (.awaiting (.persistBatch locals input last)) } where
  hasFiles := hasFiles
  healthy := healthy
  executing := by
    rintro other point ⟨⟩
    exact ⟨current, trivial, found⟩
  released := fun notExecuting => absurd ⟨_, _, rfl⟩ notExecuting
  serves := fun _ _ _ _ isAt => by cases isAt
  free := fun _ => idle

/-- The answer of the pool takes the execution to the write of its batch. -/
theorem good_message {index : Nat} (good : Good state)
    (enabled : step ports config workerId state (.message index) = some next) :
    Good next ∧ EndsWell ports config workerId state (.message index) next := by
  rw [step] at enabled
  obtain ⟨⟨pool, settlement⟩, answers, rfl⟩ := Option.map_eq_some_iff.mp enabled
  cases scoring : isScoring state.worker.phase with
  | false =>
    rw [WorkerThreadPool.message_of_idle ports (good.free scoring) index] at answers
    cases answers
  | true =>
    obtain ⟨job, locals, batch, last, isAt⟩ := isScoring_eq_true.mp scoring
    have serves := good.serves job locals batch last isAt
    obtain ⟨rfl, idle⟩ := WorkerThreadPool.idle_of_message serves answers
    obtain ⟨current, _, found⟩ := good.executing job _ isAt
    have settles : settle state.now state.worker
        (.resolved (ports.scoreBatch batch.pendingScoring)) =
          afterExecute job state.worker (.awaiting (.persistBatch locals
            (persistInput job batch (ports.scoreBatch batch.pendingScoring)) last)) := by
      simp only [settle, isAt]
    have goodNext := good_persistBatch locals
      (persistInput job batch (ports.scoreBatch batch.pendingScoring)) last good.hasFiles current
      found (WorkerThreadPool.healthy_of_message good.healthy serves.queue answers) idle
    simp only [settles]
    refine ⟨goodNext, endsWell_of_good good goodNext fun other point executing => ?_⟩
    cases isAt.symm.trans executing
    exact Or.inr (Or.inl ⟨_, rfl, Point.noConfusion, Or.inr (callsLeft_persistBatch ..)⟩)

/-! ### The calls that do not go to the pool -/

/-- The pool that shuts down throws, and the `catch` block marks the job `FAILED`. -/
theorem handOver_of_shuttingDown (closing : state.pool.shuttingDown = true) {job : ClaimedJob}
    {locals : Locals} {batch : Batch} {last : Bool}
    (isAt : state.worker.phase = .executing job (.scoreBatch locals batch last)) :
    handOver state = { state with
      worker := afterExecute job state.worker (.awaiting (.updateBoth
        (.failed (JsString.ofString "Risk scoring pool is shutting down.") state.now) .job
        .caught)) } := by
  simp only [handOver, isAt, WorkerThreadPool.scoreBatch_of_shuttingDown closing, settle]
  rfl

/-- A batch that is handed to a free pool is empty, or a thread has it. -/
theorem handOver_cases (healthy : state.pool.Healthy) (idle : state.pool.Idle)
    (isOpen : state.pool.shuttingDown = false) {job : ClaimedJob} {locals : Locals} {batch : Batch}
    {last : Bool} (isAt : state.worker.phase = .executing job (.scoreBatch locals batch last)) :
    (∃ pool, pool.Healthy ∧ pool.Serves batch.pendingScoring ∧
        handOver state = { state with pool }) ∨
      ∃ input, handOver state = { state with
        worker := afterExecute job state.worker
          (.awaiting (.persistBatch locals input last)) } := by
  by_cases empty : batch.pendingScoring = []
  · refine Or.inr ⟨persistInput job batch [], ?_⟩
    have calls : state.pool.scoreBatch batch.pendingScoring =
        (state.pool, some (.resolved [])) := by
      rw [empty, WorkerThreadPool.scoreBatch, isOpen]
      rfl
    simp only [handOver, isAt, calls, settle]
  · obtain ⟨pool, calls, serves, isHealthy⟩ :=
      WorkerThreadPool.serves_scoreBatch healthy idle isOpen empty
    refine Or.inl ⟨pool, isHealthy, serves, ?_⟩
    simp only [handOver, isAt, calls]

theorem handOver_of_not_scoring (notScoring : isScoring state.worker.phase = false) :
    handOver state = state := by
  unfold handOver
  split
  · rename_i isAt
    rw [isAt] at notScoring
    cases notScoring
  · rfl

/-- The worker after the end of a call that is none of an execution. -/
theorem idle_of_call {event : Event} {statement : Option Statement} {worker after : Worker}
    {db : Database} {now : Nat} (notExecuting : ¬IsExecuting worker.phase)
    (released : worker.currentJob = none)
    (ends : JobPollerService.step ports config db now workerId worker event =
      some (statement, after)) :
    (¬IsExecuting after.phase ∧ after.currentJob = none) ∨
      ∃ row ∈ db.jobs, after.phase = .executing (claimed workerId row) .findByImportId ∧
        after.currentJob = some (claimed workerId row) := by
  cases event with
  | claimNext jobId ack =>
    rw [JobPollerService.step] at ends
    split at ends
    · rename_i row polling found
      split at ends <;> cases ends
      cases ack with
      | acknowledged => exact Or.inr ⟨row, lookup_mem JobRow.id found, rfl, rfl⟩
      | lost | failed => exact Or.inl ⟨notExecuting, released⟩
    · cases ends
  | reply reply =>
    rw [JobPollerService.step] at ends
    split at ends
    · rename_i job point executing
      exact absurd ⟨job, point, executing⟩ notExecuting
    · cases ends
  | releaseJob ack =>
    rw [JobPollerService.step, released] at ends
    split at ends
    · rename_i current
      cases current
    · cases ends
  | findExpired answered =>
    rw [JobPollerService.step] at ends
    split at ends <;> cases ends
    refine Or.inl ⟨?_, released⟩
    rintro ⟨_, _, executing⟩
    simp only [afterFindExpired] at executing
    split at executing <;> cases executing
  | claimNone =>
    rw [JobPollerService.step] at ends
    split at ends <;> cases ends
    unfold afterClaimNone
    split
    · exact Or.inl ⟨not_isExecuting_of_isBare rfl, released⟩
    · exact Or.inl ⟨notExecuting, released⟩
  | stop =>
    rw [JobPollerService.step] at ends
    split at ends
    · cases ends
      exact Or.inl ⟨not_isExecuting_of_isBare rfl, released⟩
    · split at ends <;> cases ends
      exact Or.inl ⟨not_isExecuting_of_isBare rfl, released⟩
    · cases ends
  | start | reclaim | releaseImport | crash =>
    rw [JobPollerService.step] at ends
    split at ends <;> cases ends
    exact Or.inl ⟨not_isExecuting_of_isBare rfl, released⟩

/-- The end of a call of an execution, and the way the execution goes on. -/
theorem succeeded_of_call {event : Event} {statement : Option Statement} {worker after : Worker}
    {db : Database} {now : Nat} {job : ClaimedJob} {point : Point}
    (executing : worker.phase = .executing job point) (answered : isAnswered event = true)
    (ends : JobPollerService.step ports config db now workerId worker event =
      some (statement, after)) :
    after = afterExecute job worker
      (succeeded ports (config.batchSize workerId) db now job point) := by
  rcases step_from_executing executing ends with ⟨rfl, _⟩ | ⟨reply, outcome, rfl, resumed, _, rfl⟩
  · cases answered
  · have ok : reply = .ok := eq_of_beq answered
    rw [ok] at resumed
    rw [Option.some.inj resumed]

/-- The execution comes to a batch just after the calls that are said to come before one. -/
theorem isScoring_of_call {event : Event} {statement : Option Statement} {after : Worker}
    (good : Good state) (answered : isAnswered event = true)
    (ends : JobPollerService.step ports config state.db state.now workerId state.worker event =
      some (statement, after)) :
    isScoring after.phase = handsOver ports config workerId state := by
  by_cases isExecuting : IsExecuting state.worker.phase
  · obtain ⟨job, point, executing⟩ := isExecuting
    rw [succeeded_of_call executing answered ends, isScoring_afterExecute, awaitsScores_succeeded]
    simp only [handsOver, executing]
  · have notScoring : isScoring after.phase = false := by
      rcases idle_of_call isExecuting (good.released isExecuting) ends with
        ⟨notExecuting, _⟩ | ⟨row, _, claims, _⟩
      · cases scoring : isScoring after.phase with
        | false => rfl
        | true =>
          obtain ⟨job, _, _, _, isAt⟩ := isScoring_eq_true.mp scoring
          exact absurd ⟨job, _, isAt⟩ notExecuting
      · rw [claims]
        rfl
    rw [notScoring, handsOver]
    split
    · rename_i job point executing
      exact absurd ⟨job, point, executing⟩ isExecuting
    · rfl

/-- The worker after the end of a call, before the next batch is handed over. -/
theorem tracked_call {event : Event} {statement : Option Statement} {worker : Worker}
    (good : Good state) (answered : isAnswered event = true)
    (ends : JobPollerService.step ports config state.db state.now workerId state.worker event =
      some (statement, worker)) :
    Tracked { state with db := System.committed state.now statement state.db, worker } ∧
      ∀ job point, state.worker.phase = .executing job point →
        Progresses ports job point worker := by
  have hasFiles : HasFiles (System.committed state.now statement state.db) :=
    hasFiles_committed state.now statement good.hasFiles
  by_cases isExecuting : IsExecuting state.worker.phase
  · obtain ⟨job, point, executing⟩ := isExecuting
    obtain ⟨current, onItsWay, found⟩ := good.executing job point executing
    have foundNow := isSome_findByImportId_committed state.now statement found
    have goesOn := succeeded_goesOnFrom ports (config.batchSize workerId) state.now found onItsWay
    rw [succeeded_of_call executing answered ends]
    rcases goesOn with ⟨later, next, laterOnItsWay, nearer⟩ | ⟨next, ends⟩
    · rw [next]
      refine ⟨⟨hasFiles, good.healthy, ?_, fun notExecuting => absurd ⟨_, _, rfl⟩ notExecuting⟩, ?_⟩
      · rintro other point ⟨⟩
        exact ⟨current, laterOnItsWay, foundNow⟩
      · intro other before executingToo
        cases executing.symm.trans executingToo
        exact Or.inl ⟨later, rfl, nearer⟩
    · rw [next]
      refine ⟨⟨hasFiles, good.healthy, ?_, fun _ => rfl⟩, ?_⟩
      · rintro other point ⟨⟩
      · intro other before executingToo
        cases executing.symm.trans executingToo
        exact Or.inr ⟨rfl, ends⟩
  · refine ⟨?_, fun job point executing => absurd ⟨job, point, executing⟩ isExecuting⟩
    rcases idle_of_call isExecuting (good.released isExecuting) ends with
      ⟨notExecuting, released⟩ | ⟨row, member, claims, current⟩
    · exact ⟨hasFiles, good.healthy,
        fun job point executing => absurd ⟨job, point, executing⟩ notExecuting, fun _ => released⟩
    · refine ⟨hasFiles, good.healthy, ?_, fun notExecuting => absurd ⟨_, _, claims⟩ notExecuting⟩
      intro job point executing
      cases claims.symm.trans executing
      exact ⟨current, trivial,
        isSome_findByImportId_committed state.now statement (good.hasFiles row member)⟩

/-- The hand-over to a pool that is not shutting down. -/
theorem good_handOver (ports : Ports) (tracked : Tracked state) (idle : state.pool.Idle)
    (spared : state.pool.shuttingDown = true → isScoring state.worker.phase = false) :
    Good (handOver state) ∧ ∀ job point, Progresses ports job point state.worker →
      Progresses ports job point (handOver state).worker := by
  cases scoring : isScoring state.worker.phase with
  | false =>
    rw [handOver_of_not_scoring scoring]
    refine ⟨{ tracked with serves := ?_, free := fun _ => idle }, fun _ _ => id⟩
    intro job locals batch last isAt
    rw [isAt] at scoring
    cases scoring
  | true =>
    obtain ⟨job, locals, batch, last, isAt⟩ := isScoring_eq_true.mp scoring
    obtain ⟨current, _, found⟩ := tracked.executing job _ isAt
    have isOpen : state.pool.shuttingDown = false := by
      cases closing : state.pool.shuttingDown with
      | false => rfl
      | true => cases scoring.symm.trans (spared closing)
    rcases handOver_cases tracked.healthy idle isOpen isAt with
      ⟨pool, healthy, serves, handed⟩ | ⟨input, handed⟩
    · rw [handed]
      refine ⟨?_, fun _ _ => id⟩
      exact
        { hasFiles := tracked.hasFiles
          healthy := healthy
          executing := tracked.executing
          released := tracked.released
          serves := by
            intro other otherLocals otherBatch otherLast otherIs
            cases isAt.symm.trans otherIs
            exact serves
          free := by
            intro notScoring
            cases scoring.symm.trans notScoring }
    · rw [handed]
      refine ⟨good_persistBatch locals input last tracked.hasFiles current found tracked.healthy
        idle, fun other point progresses => ?_⟩
      rcases progresses with ⟨later, laterIs, _, nearer⟩ | ⟨resolved, _⟩
      · cases isAt.symm.trans laterIs
        have calls := callsLeft_persistBatch ports ⟨[], none⟩ locals batch input last
        exact Or.inl ⟨_, rfl, Point.noConfusion, nearer.imp_right (Nat.lt_trans calls)⟩
      · cases resolved.symm.trans current

/-- What the end of a call takes the process to. -/
theorem call_eq_some {event : Event}
    (enabled : step ports config workerId state (.call event) = some next) :
    isAnswered event = true ∧ isScoring state.worker.phase = false ∧
      ∃ statement worker,
        JobPollerService.step ports config state.db state.now workerId state.worker event =
          some (statement, worker) ∧
        next = handOver
          { state with db := System.committed state.now statement state.db, worker } := by
  rw [step] at enabled
  split at enabled
  · rename_i ends
    obtain ⟨answered, notScoring⟩ := Bool.and_eq_true_iff.mp ends
    obtain ⟨⟨statement, worker⟩, stepped, result⟩ := Option.map_eq_some_iff.mp enabled
    exact ⟨answered, Bool.not_eq_true' _ ▸ notScoring, statement, worker, stepped, result.symm⟩
  · cases enabled

theorem good_call {event : Event} (good : Good state)
    (spared : SparesScoring ports config workerId state (.call event))
    (enabled : step ports config workerId state (.call event) = some next) :
    Good next ∧ EndsWell ports config workerId state (.call event) next := by
  obtain ⟨answered, notScoring, statement, worker, ends, rfl⟩ := call_eq_some enabled
  obtain ⟨tracked, progresses⟩ := tracked_call good answered ends
  obtain ⟨goodNext, stays⟩ := good_handOver ports tracked (good.free notScoring)
    fun closing => (isScoring_of_call good answered ends).trans
      (spared.batches closing event rfl)
  refine ⟨goodNext, endsWell_of_good good goodNext fun job point executing => Or.inr ?_⟩
  exact stays job point (progresses job point executing)

/-- A batch that is handed to a pool that shuts down gets its job marked `FAILED`. -/
theorem spared_of_call {event : Event} (good : Good state)
    (enabled : step ports config workerId state (.call event) = some next)
    (endsWell : EndsWell ports config workerId state (.call event) next)
    (closing : state.pool.shuttingDown = true) : handsOver ports config workerId state = false := by
  obtain ⟨answered, _, statement, worker, ends, rfl⟩ := call_eq_some enabled
  rw [← isScoring_of_call good answered ends]
  by_contra scores
  obtain ⟨job, locals, batch, last, isAt⟩ :=
    isScoring_eq_true.mp (Bool.eq_true_of_not_eq_false scores)
  have marked : (handOver { state with
      db := System.committed state.now statement state.db, worker }).worker.phase =
        .executing job (.updateBoth
          (.failed (JsString.ofString "Risk scoring pool is shutting down.") state.now) .job
          .caught) := by
    rw [@handOver_of_shuttingDown { state with
      db := System.committed state.now statement state.db, worker } closing _ _ _ _ isAt]
    rfl
  exact endsWell.unmarked job _ .job .caught marked rfl

/-! ### Shutdowns of whole runs -/

/-- A good step keeps the invariant and ends well. -/
theorem good_step {action : Action} (good : Good state)
    (enabled : step ports config workerId state action = some next)
    (spares : SparesScoring ports config workerId state action) :
    Good next ∧ EndsWell ports config workerId state action next := by
  cases action with
  | advance milliseconds =>
    cases enabled
    have goodNext : Good { state with now := state.now + milliseconds } :=
      { good with }
    exact ⟨goodNext, endsWell_of_same good goodNext rfl rfl⟩
  | elsewhere statement =>
    cases enabled
    have goodNext : Good { state with db := statement.commit state.now state.db } :=
      { good with
        hasFiles := hasFiles_commit state.now statement good.hasFiles
        executing := by
          intro job point executing
          obtain ⟨current, onItsWay, found⟩ := good.executing job point executing
          exact ⟨current, onItsWay, isSome_findByImportId_commit state.now statement found⟩ }
    exact ⟨goodNext, endsWell_of_same good goodNext rfl rfl⟩
  | call event => exact good_call good spares enabled
  | message index => exact good_message good enabled
  | shutdown =>
    obtain ⟨goodNext, same⟩ := good_shutdown good enabled
    exact ⟨goodNext, endsWell_of_same good goodNext rfl same⟩
  | exit index =>
    obtain ⟨goodNext, same⟩ := good_exit good (fun slot => spares.threads index slot rfl) enabled
    exact ⟨goodNext, endsWell_of_same good goodNext rfl same⟩

/-- A step that ends well has spared the scoring. -/
theorem spares_of_endsWell {action : Action} (good : Good state)
    (enabled : step ports config workerId state action = some next)
    (endsWell : EndsWell ports config workerId state action next) :
    SparesScoring ports config workerId state action where
  batches := by
    rintro closing event rfl
    exact spared_of_call good enabled endsWell closing
  threads := by
    rintro index slot rfl found
    exact spared_of_exit good found enabled endsWell

end

/-- For every order of the steps of a worker process and of the statements of others, a shutdown
harms no job exactly when no batch is handed to the pool after it and no thread exits with a
task. -/
theorem shutdown_no_failure_iff (ports : Ports) (config : Config) (workerId : WorkerId)
    (now : Nat) (db : Database) (hasFiles : HasFiles db) (poolSize : Nat)
    (schedule : List Action) :
    Transition.Every (step ports config workerId) (EndsWell ports config workerId)
        (initial now db poolSize) schedule ↔
      Transition.Every (step ports config workerId)
        (fun state action _ => SparesScoring ports config workerId state action)
        (initial now db poolSize) schedule := by
  have initially : Good (initial now db poolSize) := good_initial now hasFiles poolSize
  constructor
  · refine Transition.Every.imp Good ?_ ?_ initially
    · intro current action next good enabled endsWell
      exact (good_step good enabled (spares_of_endsWell good enabled endsWell)).1
    · intro current action next good enabled endsWell
      exact spares_of_endsWell good enabled endsWell
  · refine Transition.Every.imp Good ?_ ?_ initially
    · exact fun current action next good enabled spares => (good_step good enabled spares).1
    · exact fun current action next good enabled spares => (good_step good enabled spares).2

/-! ### A shutdown before a batch -/

open ImportService.System (oneRecordPorts defaultConfig)

theorem hasFiles_uploaded : HasFiles System.uploaded := by
  refine hasFiles_commit 0 _ fun row member => ?_
  cases member

/-- Calls that are all answered. -/
def answers (count : Nat) : List Action := List.replicate count (.call (.reply .ok))

/-- The worker claims the job and reads its only line. -/
def untilLineRead : List Action :=
  [.call .start, .call (.findExpired true), .call (.claimNext 1 .acknowledged)] ++ answers 5

/-- The pool shuts down once the line has its scores, and the execution goes on. -/
def shutdownAfterBatch : List Action :=
  untilLineRead ++ [.call (.reply .ok), .message 0, .shutdown, .exit 0] ++ answers 3

/-- A shutdown after the only batch. -/
theorem shutdown_no_failure_iff_afterBatch :
    Transition.Every (step oneRecordPorts defaultConfig 1)
        (EndsWell oneRecordPorts defaultConfig 1) (initial 0 System.uploaded 1)
        shutdownAfterBatch ↔
      Transition.Every (step oneRecordPorts defaultConfig 1)
        (fun state action _ =>
          SparesScoring oneRecordPorts defaultConfig 1 state action)
        (initial 0 System.uploaded 1) shutdownAfterBatch :=
  shutdown_no_failure_iff oneRecordPorts defaultConfig 1 0 System.uploaded
    hasFiles_uploaded 1 shutdownAfterBatch

/-- The pool shuts down between the line and its batch. -/
def shutdownBeforeBatch : List Action := untilLineRead ++ [.shutdown]

/-- The status the worker is about to write. -/
def nextMark (state : State) : Option ImportStatus :=
  match state.worker.phase with
  | .executing _ (.updateBoth mark _ _) => some mark.status
  | _ => none

/-- No port fails but the pool, and import 1 is marked `FAILED` for a shutdown. -/
theorem shutdown_marks_failed :
    (Transition.run (step oneRecordPorts defaultConfig 1) (initial 0 System.uploaded 1)
        (shutdownBeforeBatch ++ answers 3)).map
          (fun state => (state.db.findImport 1).map ImportRow.status) =
        some (some .FAILED) ∧
      ¬Transition.Every (step oneRecordPorts defaultConfig 1)
        (EndsWell oneRecordPorts defaultConfig 1) (initial 0 System.uploaded 1)
        (shutdownBeforeBatch ++ answers 1) := by
  refine ⟨by decide +kernel, fun every => ?_⟩
  have trace : ((Transition.run (step oneRecordPorts defaultConfig 1)
      (initial 0 System.uploaded 1) shutdownBeforeBatch).bind fun state =>
        (step oneRecordPorts defaultConfig 1 state (.call (.reply .ok))).map
          fun next => (nextMark state, nextMark next)) = some (none, some .FAILED) := by
    decide +kernel
  obtain ⟨state, next, endsWell, _, marks⟩ := every.observe nextMark trace
  unfold nextMark at marks
  split at marks
  · rename_i job mark stage caller executing
    exact endsWell.unmarked job mark stage caller executing (Option.some.inj marks)
  · cases marks

end WorkerProcess

end ImportService
