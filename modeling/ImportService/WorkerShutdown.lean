/-
This file joins the graceful shutdown of a worker process to the system: the poller of one worker
moves only while its process lives, it stops only after a signal, and the first step of the
shutdown resolves when the poller has stopped. A process that ends before that crashes its worker.
All other parties do what they like.

So a call of `process.exit(0)` by a worker can be relied on (`exit_zero_gives_back`). A batch may be
settled here whether the scoring pool can settle it or not; the pool is joined to it in
`PooledShutdown`.
-/

import ImportService.GracefulShutdown
import ImportService.Recovery
import ImportService.Releases

namespace ImportService

open JobRepository ProcessImportFile JobPollerService GracefulShutdown

namespace WorkerShutdown

/-! ### A worker with its process -/

/-- The system, with what is observed of the worker, and the process of the worker. -/
structure State where
  watched : Releases.Watched
  process : Process

/-- A step of the system, or something that happens to the process. -/
inductive Action
  | system (action : System.Action)
  | event (event : GracefulShutdown.Event)

/-- The process awaits the end of `poller.stop`. -/
def awaitsStop (process : Process) : Bool :=
  match process.progress with
  | .running name _ _ => name == JsString.ofString "stop-poller-and-release-lease"
  | .idle | .closing => false

/-- The worker is where the event can come to it: the loop ends and `stop` goes on only once the
shutdown has begun. -/
def mayMove (process : Process) : JobPollerService.Event → Bool
  | .crash => false
  | .stop | .releaseJob _ | .releaseImport _ => process.exit.isNone && process.handling
  | .start | .findExpired _ | .reclaim _ _ | .claimNone | .claimNext _ _ | .reply _ =>
      process.exit.isNone

/-- The worker moves while its process lives, and stops after a signal only. -/
def allows (workerId : WorkerId) (process : Process) : System.Action → Bool
  | .work mover event => mover != workerId || mayMove process event
  | .advance _ | .create _ _ _ _ | .requestCancellation _ _ | .cancel _ _ => true

/-- The promise of `poller.stop` resolves when the poller has stopped, and never rejects. -/
def settles (phase : Phase) (process : Process) : GracefulShutdown.Event → Bool
  | .resolved => !awaitsStop process || phase == .stopped
  | .rejected _ => !awaitsStop process
  | .signal _ | .graceElapsed | .unhandledRejection _ | .drained | .killed => true

section

variable (runtime : Runtime) (options : Options) (ports : Ports) (config : Config)
  (workerId : WorkerId)

/-- The process has ended, and the worker with it, unless it had stopped. -/
def endWorker (watched : Releases.Watched) : Releases.Watched :=
  (Releases.step ports config workerId watched (.work workerId .crash)).getD watched

/-- A process that has ended takes its worker with it. -/
def afterEvent (watched : Releases.Watched) (process : Process) : State where
  watched := if process.exit.isSome then endWorker ports config workerId watched else watched
  process := process

/-- A step of the system that the process allows, or an event of the process, which may be that the
poller has stopped. -/
def step (state : State) : Action → Option State
  | .system action =>
      if allows workerId state.process action then
        (Releases.step ports config workerId state.watched action).map fun watched =>
          { state with watched }
      else none
  | .event event =>
      if settles (state.watched.system.workers workerId).phase state.process event then
        (handle runtime options state.watched.system.now state.process event).map
          (afterEvent ports config workerId state.watched)
      else none

end

/-- No worker and no process has begun. -/
def start (now : Nat) : State where
  watched := Releases.start now
  process := Process.new

/-! ### What is asked -/

/-- The steps of the other parties, and those of the worker, spare the worker. -/
def Spared (ports : Ports) (config : Config) (workerId : WorkerId) (state : State)
    (action : Action) (_ : State) : Prop :=
  ∀ systemAction, action = .system systemAction →
    Releases.Spared ports config workerId state.watched systemAction

/-- A process that has called `process.exit(0)` has stopped its worker, which holds no job, unless a
release failed, and has put back none it had completed. A process that has ended otherwise takes
its worker with it. -/
structure ExitTellsWorker (workerId : WorkerId) (state : State) : Prop where
  zero : state.process.exit = some (.called 0) →
    (state.watched.system.workers workerId).phase = .stopped ∧
      (state.watched.releaseFailed = false →
        ∀ row ∈ state.watched.system.db.jobs, ¬Releases.Held workerId row) ∧
      state.watched.requeued = []
  ended : state.process.exit.isSome = true →
    (state.watched.system.workers workerId).phase = .stopped ∨
      (state.watched.system.workers workerId).phase = .crashed

/-! ### The steps of the shutdown -/

/-- The name of the first step. -/
def stopName : JsString := JsString.ofString "stop-poller-and-release-lease"

/-- The name of the second step. -/
def poolName : JsString := JsString.ofString "shutdown-scoring-pool"

/-- Where the shutdown of a worker is: before the signal, at the first step, or behind it with a
poller that has stopped. -/
inductive Course (phase : Phase) (process : Process) : Prop
  | idle (progress : process.progress = .idle) (unhandled : process.handling = false)
  | stopping {started : Nat} (progress : process.progress = .running stopName started [poolName])
      (handling : process.handling = true)
  | stopped (progress : (∃ started, process.progress = .running poolName started []) ∨
        process.progress = .closing)
      (handling : process.handling = true) (stopped : phase = .stopped)

/-- What holds of the worker and its process in every run. -/
structure Coupled (workerId : WorkerId) (state : State) : Prop where
  course : state.process.exit = none →
    Course (state.watched.system.workers workerId).phase state.process
  alive : state.process.exit = none →
    (state.watched.system.workers workerId).phase ≠ .crashed
  zero : state.process.exit = some (.called 0) →
    (state.watched.system.workers workerId).phase = .stopped
  ended : state.process.exit.isSome = true →
    (state.watched.system.workers workerId).phase = .stopped ∨
      (state.watched.system.workers workerId).phase = .crashed

section

variable {runtime : Runtime} {options : Options} {ports : Ports} {config : Config}
  {workerId : WorkerId} {state next : State} {watched after : Releases.Watched}
  {process : Process}

/-- A worker that has stopped does nothing more. -/
theorem step_from_stopped {db : Database} {now : Nat} {worker : Worker}
    (stopped : worker.phase = .stopped) (event : JobPollerService.Event) :
    JobPollerService.step ports config db now workerId worker event = none := by
  cases event <;> rw [JobPollerService.step, stopped]

/-- Nor does one that has crashed. -/
theorem step_from_crashed {db : Database} {now : Nat} {worker : Worker}
    (crashed : worker.phase = .crashed) (event : JobPollerService.Event) :
    JobPollerService.step ports config db now workerId worker event = none := by
  cases event <;> rw [JobPollerService.step, crashed]

/-- The step of another party, or one of the worker that its process allows. -/
theorem phase_of_system {action : System.Action}
    (enabled : Releases.step ports config workerId watched action = some after) :
    after.system.workers workerId = watched.system.workers workerId ∨
      ∃ event, action = .work workerId event ∧
        (watched.system.workers workerId).phase ≠ .stopped ∧
        (watched.system.workers workerId).phase ≠ .crashed := by
  obtain ⟨system, moves, rfl⟩ := Option.map_eq_some_iff.mp enabled
  rcases System.step_worker moves workerId with same | ⟨event, rfl, moved⟩
  · exact Or.inl same
  · refine Or.inr ⟨event, rfl, fun stopped => ?_, fun crashed => ?_⟩
    · rw [step_from_stopped stopped] at moved
      cases moved
    · rw [step_from_crashed crashed] at moved
      cases moved

/-- Only a crash crashes a worker. -/
theorem crash_of_crashed {db : Database} {now : Nat} {worker later : Worker}
    {event : JobPollerService.Event} {statement : Option Statement}
    (moved : JobPollerService.step ports config db now workerId worker event =
      some (statement, later)) (crashed : later.phase = .crashed) : event = .crash := by
  cases event with
  | crash => rfl
  | start | reclaim | releaseImport =>
    rw [JobPollerService.step] at moved
    split at moved <;> cases moved
    cases crashed
  | findExpired answered =>
    rw [JobPollerService.step] at moved
    split at moved <;> cases moved
    rw [afterFindExpired] at crashed
    split at crashed <;> cases crashed
  | claimNone =>
    rw [JobPollerService.step] at moved
    split at moved <;> cases moved
    rename_i polling
    rw [afterClaimNone] at crashed
    split at crashed
    · cases crashed
    · cases polling.symm.trans crashed
  | claimNext jobId ack =>
    rw [JobPollerService.step] at moved
    split at moved
    · rename_i row polling found
      split at moved <;> cases moved
      cases ack with
      | acknowledged => cases crashed
      | lost | failed => cases polling.symm.trans crashed
    · cases moved
  | reply reply =>
    rw [JobPollerService.step] at moved
    split at moved
    · obtain ⟨outcome, _, result⟩ := Option.map_eq_some_iff.mp moved
      cases result
      cases outcome with
      | awaiting | resolved => cases crashed
      | rejected failure => cases failure <;> cases crashed
    · cases moved
  | stop =>
    rw [JobPollerService.step] at moved
    split at moved
    · cases moved
      cases crashed
    · split at moved <;> cases moved
      cases crashed
    · cases moved
  | releaseJob ack =>
    rw [JobPollerService.step] at moved
    split at moved <;> cases moved
    cases ack with
    | acknowledged =>
      simp only [afterReleaseJob] at crashed
      split at crashed
      · split at crashed <;> cases crashed
      · cases crashed
    | lost | failed => cases crashed

/-- With its process a worker crashes, unless it does nothing more anyway. -/
theorem endWorker_cases (ports : Ports) (config : Config) (workerId : WorkerId)
    (watched : Releases.Watched) :
    (((watched.system.workers workerId).phase = .stopped ∨
        (watched.system.workers workerId).phase = .crashed) ∧
      endWorker ports config workerId watched = watched) ∨
    ((watched.system.workers workerId).phase ≠ .stopped ∧
      Releases.step ports config workerId watched (.work workerId .crash) =
        some (endWorker ports config workerId watched) ∧
      ((endWorker ports config workerId watched).system.workers workerId).phase = .crashed) := by
  rw [endWorker]
  cases crashes : Releases.step ports config workerId watched (.work workerId .crash) with
  | none =>
    refine Or.inl ⟨?_, rfl⟩
    rw [Releases.step, Option.map_eq_none_iff, System.step, Option.map_eq_none_iff, System.act,
      Option.map_eq_none_iff, JobPollerService.step] at crashes
    split at crashes
    · rename_i stopped
      exact Or.inl stopped
    · rename_i crashed
      exact Or.inr crashed
    · cases crashes
  | some after =>
    obtain ⟨system, moves, rfl⟩ := Option.map_eq_some_iff.mp crashes
    have moved := System.step_mover moves
    refine Or.inr ⟨fun stopped => ?_, rfl, ?_⟩
    · rw [step_from_stopped stopped] at moved
      cases moved
    rw [JobPollerService.step] at moved
    split at moved
    · cases moved
    · cases moved
    · show (system.workers workerId).phase = .crashed
      rw [← (Prod.mk.inj (Option.some.inj moved)).2]

/-- A process that has ended otherwise than with 0 has no course. -/
theorem course_of_ended {phase : Phase} {exit : Exit} (ended : process.exit = some exit)
    (notZero : exit ≠ .called 0) :
    (process.exit = none → Course phase process) ∧
      (process.exit = some (.called 0) → phase = .stopped) := by
  refine ⟨fun unended => ?_, fun zero => ?_⟩
  · cases ended.symm.trans unended
  · exact absurd (Option.some.inj (ended.symm.trans zero)) notZero

/-- What an event does to the course of a shutdown. -/
theorem course_of_handle {graceMs : JsNumber} {now : Nat} {phase : Phase} {before : Process}
    {event : GracefulShutdown.Event} (course : Course phase before)
    (allowed : settles phase before event = true)
    (handled : handle runtime (workerOptions graceMs) now before event = some process) :
    (process.exit = none → Course phase process) ∧
      (process.exit = some (.called 0) → phase = .stopped) := by
  unfold handle at handled
  split at handled
  · cases handled
  · rename_i notEnded
    have alive : before.exit = none := Option.not_isSome_iff_eq_none.mp notEnded
    cases event with
    | signal signal =>
      cases handled
      rw [shutdown]
      split
      · exact course_of_ended rfl (by decide)
      · refine ⟨fun _ => .stopping rfl rfl, fun exit => ?_⟩
        cases alive.symm.trans exit
    | resolved =>
      simp only [resolved] at handled
      split at handled
      · cases handled
      · rename_i name started later running
        cases handled
        cases course with
        | idle progress => cases running.symm.trans progress
        | stopping progress handling =>
          cases running.symm.trans progress
          have stopped : phase = .stopped := by
            simp only [settles, awaitsStop, running] at allowed
            exact eq_of_beq allowed
          refine ⟨fun _ => .stopped (Or.inl ⟨now, rfl⟩) handling stopped, fun exit => ?_⟩
          cases alive.symm.trans exit
        | stopped progress handling stopped =>
          obtain ⟨_, atPool⟩ | closing := progress
          · cases running.symm.trans atPool
            refine ⟨fun _ => .stopped (Or.inr rfl) handling stopped, fun _ => stopped⟩
          · cases running.symm.trans closing
      · rename_i closing
        cases handled
        refine ⟨fun unended => (by cases unended), fun _ => ?_⟩
        cases course with
        | idle progress => cases closing.symm.trans progress
        | stopping progress => cases closing.symm.trans progress
        | stopped _ _ stopped => exact stopped
    | rejected message =>
      simp only [rejected] at handled
      split at handled
      · cases handled
      · cases handled
        exact course_of_ended rfl (by decide)
      · cases handled
        exact course_of_ended rfl (by decide)
    | graceElapsed =>
      simp only [graceElapsed] at handled
      split at handled
      · cases handled
      · split at handled
        · cases handled
          exact course_of_ended rfl (by decide)
        · cases handled
    | unhandledRejection message =>
      cases handled
      refine ⟨fun _ => ?_, fun exit => ?_⟩
      · cases course with
        | idle progress unhandled => exact .idle progress unhandled
        | stopping progress handling => exact .stopping progress handling
        | stopped progress handling stopped => exact .stopped progress handling stopped
      · cases alive.symm.trans exit
    | drained | killed =>
      cases handled
      exact course_of_ended rfl (by decide)

theorem alive_of_mayMove {event : JobPollerService.Event} (moves : mayMove process event = true) :
    process.exit = none := by
  have isNone : process.exit.isNone = true := by
    cases event with
    | crash => cases moves
    | stop | releaseJob | releaseImport => exact (Bool.and_eq_true_iff.mp moves).1
    | start | findExpired | reclaim | claimNone | claimNext | reply => exact moves
  exact Option.isNone_iff_eq_none.mp isNone

theorem coupled_start (workerId : WorkerId) (now : Nat) : Coupled workerId (start now) where
  course := fun _ => .idle rfl rfl
  alive := fun _ crashed => by cases crashed
  zero := fun exit => by cases exit
  ended := fun exit => by cases exit

theorem coupled_system {action : System.Action} (coupled : Coupled workerId state)
    (allowed : allows workerId state.process action = true)
    (enabled : Releases.step ports config workerId state.watched action = some after) :
    Coupled workerId { state with watched := after } := by
  rcases phase_of_system enabled with same | ⟨event, rfl, notStopped, notCrashed⟩
  · have samePhase := congrArg Worker.phase same
    constructor
    · intro alive
      show Course (after.system.workers workerId).phase state.process
      rw [samePhase]
      exact coupled.course alive
    · intro alive
      show (after.system.workers workerId).phase ≠ .crashed
      rw [samePhase]
      exact coupled.alive alive
    · intro exit
      exact samePhase.trans (coupled.zero exit)
    · intro ended
      exact (coupled.ended ended).imp samePhase.trans samePhase.trans
  · have moves : mayMove state.process event = true := by
      rw [allows, bne_self_eq_false, Bool.false_or] at allowed
      exact allowed
    have alive := alive_of_mayMove moves
    constructor
    · intro _
      cases coupled.course alive with
      | idle progress unhandled => exact .idle progress unhandled
      | stopping progress handling => exact .stopping progress handling
      | stopped _ _ stopped => exact absurd stopped notStopped
    · intro _ crashed
      obtain ⟨system, steps, rfl⟩ := Option.map_eq_some_iff.mp enabled
      cases crash_of_crashed (System.step_mover steps) crashed
      cases moves
    · intro exit
      cases alive.symm.trans exit
    · intro ended
      rw [alive] at ended
      cases ended

theorem coupled_step {graceMs : JsNumber} {action : Action} (coupled : Coupled workerId state)
    (enabled : step runtime (workerOptions graceMs) ports config workerId state action =
      some next) : Coupled workerId next := by
  cases action with
  | system action =>
    rw [step] at enabled
    split at enabled
    · rename_i allowed
      obtain ⟨after, moves, rfl⟩ := Option.map_eq_some_iff.mp enabled
      exact coupled_system coupled allowed moves
    · cases enabled
  | event event =>
    rw [step] at enabled
    split at enabled
    · rename_i allowed
      obtain ⟨process, handled, rfl⟩ := Option.map_eq_some_iff.mp enabled
      have alive : state.process.exit = none := by
        unfold handle at handled
        split at handled
        · cases handled
        · rename_i notEnded
          exact Option.not_isSome_iff_eq_none.mp notEnded
      obtain ⟨course, zero⟩ := course_of_handle (coupled.course alive) allowed handled
      cases exit : process.exit with
      | none =>
        have same : afterEvent ports config workerId state.watched process =
            { watched := state.watched, process } := by
          rw [afterEvent, exit]
          rfl
        rw [same]
        exact {
          course := fun _ => course exit
          alive := fun _ => coupled.alive alive
          zero := fun called => by cases exit.symm.trans called
          ended := fun ended => by
            rw [exit] at ended
            cases ended }
      | some code =>
        have same : afterEvent ports config workerId state.watched process =
            { watched := endWorker ports config workerId state.watched, process } := by
          rw [afterEvent, exit]
          rfl
        rw [same]
        rcases endWorker_cases ports config workerId state.watched with
          ⟨isOver, unchanged⟩ | ⟨notStopped, _, crashed⟩
        · rw [unchanged]
          exact {
            course := fun unended => by cases exit.symm.trans unended
            alive := fun unended => by cases exit.symm.trans unended
            zero := zero
            ended := fun _ => isOver }
        · exact {
            course := fun unended => by cases exit.symm.trans unended
            alive := fun unended => by cases exit.symm.trans unended
            zero := fun called => absurd (zero called) notStopped
            ended := fun _ => Or.inr crashed }
    · cases enabled

theorem tracked_step {action : Action} (tracked : Releases.Tracked ports workerId state.watched)
    (enabled : step runtime options ports config workerId state action = some next)
    (spared : Spared ports config workerId state action next) :
    Releases.Tracked ports workerId next.watched := by
  cases action with
  | system action =>
    rw [step] at enabled
    split at enabled
    · obtain ⟨after, moves, rfl⟩ := Option.map_eq_some_iff.mp enabled
      exact Releases.tracked_step tracked moves (spared action rfl)
    · cases enabled
  | event event =>
    rw [step] at enabled
    split at enabled
    · obtain ⟨process, _, rfl⟩ := Option.map_eq_some_iff.mp enabled
      rw [afterEvent]
      split
      · rcases endWorker_cases ports config workerId state.watched with
          ⟨_, unchanged⟩ | ⟨_, crashes, _⟩
        · rw [unchanged]
          exact tracked
        · exact Releases.tracked_step tracked crashes
            (Releases.spared_of_isQuiet (beq_self_eq_true workerId))
      · exact tracked
    · cases enabled

end

/-! ### The exit code of a worker -/

/-- In every run of the system whose steps spare the worker, with any signals, timers and failures
of its process: if the process has called `process.exit(0)`, the poller has stopped, no job is left
under the lease of the worker, unless a release failed, and no completed job was put back.
Whenever the process has ended, the worker has stopped or crashed. -/
theorem exit_zero_gives_back (runtime : Runtime) (graceMs : JsNumber) (ports : Ports)
    (config : Config) (workerId : WorkerId) (now : Nat) (schedule : List Action)
    (spared : Transition.Every (step runtime (workerOptions graceMs) ports config workerId)
      (Spared ports config workerId) (start now) schedule) :
    Transition.Always (step runtime (workerOptions graceMs) ports config workerId)
      (ExitTellsWorker workerId) (start now) schedule := by
  refine spared.always
    (fun state => Coupled workerId state ∧ Releases.Tracked ports workerId state.watched)
    ?_ ?_ ⟨coupled_start workerId now, Releases.tracked_start ports workerId now⟩
  · intro current action next holds enabled here
    exact ⟨coupled_step holds.1 enabled, tracked_step holds.2 enabled here⟩
  · intro current holds
    have givesBack := Releases.givesBack_of_tracked holds.2
    refine ⟨fun exit => ?_, holds.1.ended⟩
    have stopped := holds.1.zero exit
    exact ⟨stopped, givesBack.released stopped, givesBack.requeued⟩

/-- The action spares the worker in every state. -/
def isQuiet (workerId : WorkerId) : Action → Bool
  | .system action => Releases.isQuiet workerId action
  | .event _ => true

theorem every_spared_of_quiet {runtime : Runtime} {options : Options} {ports : Ports}
    {config : Config} {workerId : WorkerId} (state : State) {schedule : List Action}
    (quiet : ∀ action ∈ schedule, isQuiet workerId action = true) :
    Transition.Every (step runtime options ports config workerId) (Spared ports config workerId)
      state schedule := by
  refine Transition.Every.imp (fun _ => True) (fun _ _ _ _ _ _ => trivial) ?_ trivial
    (Transition.every_of_labels _ (fun action => isQuiet workerId action = true) state quiet)
  intro current action next _ _ here systemAction same
  rw [same] at here
  exact Releases.spared_of_isQuiet here

/-- A step at the defaults, of a system whose files are empty. -/
abbrev defaultStep : State → Action → Option State :=
  step silentRuntime (workerOptions (.finite 30000)) System.emptyFilePorts System.defaultConfig 1

/-- The worker starts with a job to claim. -/
def claimSchedule : List Action :=
  ([System.upload 1] ++ System.startUp 1).map .system

/-- The connection to the database is lost. -/
def lostConnection : Failure := .error (JsString.ofString "Connection terminated")

/-- A signal comes while the job is being processed, and an error escapes its execution. The loop
ends, the job is given back, and the shutdown goes through its steps. -/
def escapeSchedule : List Action :=
  [.event (.signal .SIGTERM), .system (.work 1 (.reply (.fail false lostConnection))),
    .system (.work 1 .stop), .system (.work 1 (.releaseJob .acknowledged)),
    .system (.work 1 (.releaseImport .acknowledged)), .event .resolved, .event .resolved,
    .event .resolved]

/-- The run up to the exit of the process. -/
def escapedRun : Option State :=
  Transition.run defaultStep (start 0)
    (claimSchedule ++ .system (.work 1 (.claimNext 1 .acknowledged)) :: escapeSchedule)

theorem exit_zero_gives_back_escaped :
    ∃ state, escapedRun = some state ∧ state.process.exit = some (.called 0) ∧
      ∀ row ∈ state.watched.system.db.jobs, ¬Releases.Held 1 row := by
  have seen : (Transition.run defaultStep (start 0) claimSchedule).map
      (fun state => (state.watched.system.workers 1).currentJob) = some none := by decide
  obtain ⟨claiming, claims, free⟩ := Option.map_eq_some_iff.mp seen
  have fromClaim : Transition.Every defaultStep
      (Spared System.emptyFilePorts System.defaultConfig 1) claiming
      (.system (.work 1 (.claimNext 1 .acknowledged)) :: escapeSchedule) := by
    refine fun next _ => ⟨fun systemAction same => ?_, every_spared_of_quiet next (by decide)⟩
    cases same
    exact Releases.spared_of_claim free 1
  have always := exit_zero_gives_back silentRuntime (.finite 30000) System.emptyFilePorts
    System.defaultConfig 1 0 _
    ((every_spared_of_quiet (start 0) (by decide)).append claims fromClaim)
  obtain ⟨state, reaches⟩ : ∃ state, escapedRun = some state :=
    Option.isSome_iff_exists.mp (by decide +kernel)
  have exit : state.process.exit = some (.called 0) :=
    Transition.view_of_run reaches (fun state => state.process.exit) (by decide +kernel)
  have answered : state.watched.releaseFailed = false :=
    Transition.view_of_run reaches (fun state => state.watched.releaseFailed) (by decide +kernel)
  exact ⟨state, reaches, exit, ((always.last reaches).zero exit).2.1 answered⟩

end WorkerShutdown

end ImportService
