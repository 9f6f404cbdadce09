/-
This file models `registerGracefulShutdown`: what a process does from the first signal to its exit.
The steps of the shutdown and the `close` of the Nest context are awaited one after the other; a
timer that is unreferenced exits the process when the grace period is over, and so does a second
signal. A promise that is awaited may resolve or reject at any time, or never; where nothing else
keeps the process alive it ends without an exit call, as the timer does not count.

The exit call and the log tell what has happened (`exit_tells`): `process.exit(0)` is called exactly
when every step and the context have been completed after one signal, and else the log names the
step that was not. The code of a process that ends without an exit call tells nothing: Node ends
with 0 too when nothing is left to wait for.
-/

import ImportService.JsArithmetic
import ImportService.Lib.Transition
import ImportService.Logging

namespace ImportService

open JsString

/-! ### The state of a shutdown -/

/-- Whether a shutdown has begun, and when. -/
structure ShutdownState where
  shuttingDown : Bool
  startedAt : Option Nat
  deriving DecidableEq

namespace ShutdownState

/-- No shutdown has begun. -/
def new : ShutdownState where
  shuttingDown := false
  startedAt := none

/-- Only the first call sets the time. -/
def begin (now : Nat) (state : ShutdownState) : ShutdownState :=
  if state.shuttingDown then state else { shuttingDown := true, startedAt := some now }

/-- The time since the shutdown began. -/
def elapsedMs (now : Nat) (state : ShutdownState) : Nat :=
  match state.startedAt with
  | some startedAt => now - startedAt
  | none => 0

end ShutdownState

namespace GracefulShutdown

/-! ### The process -/

/-- The signals that are handled. -/
inductive Signal
  | SIGTERM
  | SIGINT
  deriving DecidableEq

/-- The name of a signal in the log. -/
def Signal.name : Signal → JsString
  | .SIGTERM => ofString "SIGTERM"
  | .SIGINT => ofString "SIGINT"

/-- The steps are known by their names. What they do comes in as events. -/
structure Options where
  processName : JsString
  graceMs : JsNumber
  steps : List JsString

/-- What `shutdown` awaits: nothing yet, the `run` of a step with those that follow, or `close`. -/
inductive Progress
  | idle
  | running (step : JsString) (started : Nat) (later : List JsString)
  | closing
  deriving DecidableEq

/-- How a process ends: by `process.exit` with a code, or without, as nothing is left to wait for
or it is killed. Node's own code, which is 0 when nothing is left to wait for, is not modelled:
`called 0` is a call of `process.exit(0)`. -/
inductive Exit
  | called (code : Nat)
  | uncalled
  deriving DecidableEq

/-- `forceExit` is the time at which the timer goes off. -/
structure Process where
  handling : Bool
  shutdownState : ShutdownState
  currentStep : JsString
  progress : Progress
  forceExit : Option Nat
  exit : Option Exit
  log : List LogLine

/-- A process that has just started. -/
def Process.new : Process where
  handling := false
  shutdownState := ShutdownState.new
  currentStep := []
  progress := .idle
  forceExit := none
  exit := none
  log := []

/-- What happens to a process: a signal, what it awaits settles, its timer goes off, or it ends. -/
inductive Event
  | signal (signal : Signal)
  | resolved
  | rejected (message : JsString)
  | graceElapsed
  | unhandledRejection (message : JsString)
  | drained
  | killed
  deriving DecidableEq

/-- The delay of a timer, in whole milliseconds: `setTimeout` takes 1 for what is out of range. -/
def timerMs : JsNumber → Nat
  | .finite value => if 1 ≤ value ∧ value ≤ 2147483647 then ⌊value⌋.toNat else 1
  | .infinite _ | .nan => 1

/-- A number in a template literal. -/
def numberText (runtime : Runtime) : JsNumber → JsString
  | .finite value => runtime.numberToString value
  | .infinite false => ofString "Infinity"
  | .infinite true => ofString "-Infinity"
  | .nan => ofString "NaN"

/-- A line is logged. -/
def say (level : LogLevel) (message : JsString) (context : List (JsString × LogValue))
    (process : Process) : Process :=
  { process with log := process.log ++ [{ level, message, context }] }

/-- The process calls `process.exit`. -/
def exitWith (code : Nat) (process : Process) : Process :=
  { process with exit := some (.called code) }

/-- A number in the log. -/
def count (number : Nat) : LogValue := .number (.finite number)

section

variable (runtime : Runtime) (options : Options) (now : Nat)

/-- The loop over the steps up to its next `await`, and `close` behind it. -/
def goOn (steps : List JsString) (process : Process) : Process :=
  match steps with
  | step :: later => { process with currentStep := step, progress := .running step now later }
  | [] => { process with currentStep := ofString "nest-context-close", progress := .closing }

/-- `shutdown` up to its first `await`. -/
def shutdown (signal : Signal) (process : Process) : Process :=
  if process.handling then
    exitWith 1 (say .warn (options.processName ++ ofString ": second " ++ signal.name ++
      ofString " received — exiting immediately") [] process)
  else
    let begun := { process with
      handling := true, shutdownState := process.shutdownState.begin now }
    let logged := say .info (options.processName ++ ofString ": " ++ signal.name ++
      ofString " received, shutting down gracefully")
      [(ofString "graceMs", .number options.graceMs)] begun
    goOn now options.steps { logged with
      currentStep := ofString "starting"
      forceExit := some (now + timerMs options.graceMs) }

/-- The promise that is awaited resolves. -/
def resolved (process : Process) : Option Process :=
  match process.progress with
  | .idle => none
  | .running step started later =>
      some (goOn now later (say .info (options.processName ++ ofString ": shutdown step complete")
        [(ofString "step", .string step), (ofString "durationMs", count (now - started))] process))
  | .closing =>
      some (exitWith 0 (say .info (options.processName ++ ofString ": shutdown complete")
        [(ofString "totalMs", count (process.shutdownState.elapsedMs now))]
        { process with forceExit := none }))

/-- The promise that is awaited rejects. -/
def rejected (message : JsString) (process : Process) : Option Process :=
  match process.progress with
  | .idle => none
  | .running _ _ _ | .closing =>
      some (exitWith 1 (say .error (options.processName ++ ofString ": error during shutdown")
        [(ofString "step", .string process.currentStep), (ofString "error", .string message)]
        { process with forceExit := none }))

/-- The callback of the timer. -/
def graceElapsed (process : Process) : Option Process :=
  match process.forceExit with
  | none => none
  | some due =>
      if due ≤ now then
        some (exitWith 1 (say .error (options.processName ++
          ofString ": GRACE PERIOD EXCEEDED — forcing exit. Step \"" ++ process.currentStep ++
          ofString "\" did not complete within " ++ numberText runtime options.graceMs ++
          ofString "ms. In-flight work may be incomplete; leases will be reclaimed on next " ++
          ofString "worker start.")
          [(ofString "graceMs", .number options.graceMs),
            (ofString "stuckStep", .string process.currentStep)] process))
      else none

/-- What an event does to a process that has not ended. -/
def handle (process : Process) (event : Event) : Option Process :=
  if process.exit.isSome then none
  else
    match event with
    | .signal signal => some (shutdown options now signal process)
    | .resolved => resolved options now process
    | .rejected message => rejected options message process
    | .graceElapsed => graceElapsed runtime options now process
    | .unhandledRejection message =>
        some (say .error (options.processName ++ ofString ": unhandled promise rejection")
          [(ofString "reason", .string message)] process)
    | .drained | .killed => some { process with exit := some .uncalled }

end

/-! ### Runs -/

/-- A process with the clock it reads. -/
structure State where
  now : Nat
  process : Process

/-- The time passes, or something happens to the process. -/
inductive Action
  | advance (milliseconds : Nat)
  | event (event : Event)
  deriving DecidableEq

/-- A step of a process and of the clock. -/
def step (runtime : Runtime) (options : Options) (state : State) : Action → Option State
  | .advance milliseconds => some { state with now := state.now + milliseconds }
  | .event event =>
      (handle runtime options state.now state.process event).map fun process =>
        { state with process }

/-- A process at its start. -/
def initial (now : Nat) : State where
  now := now
  process := Process.new

/-! ### What has happened in a run -/

/-- A signal comes. -/
def isSignal : Action → Bool
  | .event (.signal _) => true
  | _ => false

/-- What is awaited resolves. -/
def isResolution : Action → Bool
  | .event .resolved => true
  | _ => false

/-- The shutdown fails: a promise rejects, or the timer goes off. -/
def isFailure : Action → Bool
  | .event (.rejected _) | .event .graceElapsed => true
  | _ => false

/-- All that is awaited, by its name in the log. -/
def awaited (options : Options) : List JsString :=
  options.steps ++ [ofString "nest-context-close"]

/-- The step that a line reports as completed. -/
def reportedStep (line : LogLine) : Option LogValue :=
  if line.level = .info then line.context.lookup (ofString "step") else none

/-- The step that a line blames for the exit. -/
def blamedStep (line : LogLine) : Option LogValue :=
  if line.level = .error then
    (line.context.lookup (ofString "step")).or (line.context.lookup (ofString "stuckStep"))
  else none

/-- What the exit call and the log say about the events so far. -/
structure Tells (options : Options) (schedule : List Action) (state : State) : Prop where
  completed : state.process.exit = some (.called 0) ↔
    schedule.countP isSignal = 1 ∧ schedule.countP isResolution = (awaited options).length ∧
      schedule.countP isFailure = 0
  aborted : state.process.exit = some (.called 1) ↔
    schedule.countP isSignal = 2 ∨ schedule.countP isFailure = 1
  reported : state.process.log.filterMap reportedStep =
    (options.steps.take (schedule.countP isResolution)).map .string
  blamed : ∀ step, .string step ∈ state.process.log.filterMap blamedStep ↔
    schedule.countP isFailure = 1 ∧ (awaited options)[schedule.countP isResolution]? = some step
  armed : state.process.exit = none → schedule.countP isSignal ≠ 0 →
    ∃ startedAt ≤ state.now, state.process.shutdownState.startedAt = some startedAt ∧
      state.process.forceExit = some (startedAt + timerMs options.graceMs)

/-- `shutdown` awaits what has a position among all that is awaited. -/
structure Awaits (options : Options) (position : Nat) (process : Process) : Prop where
  named : (awaited options)[position]? = some process.currentStep
  progress : process.progress = .closing ∧ position = options.steps.length ∨
    ∃ started later, process.progress = .running process.currentStep started later ∧
      options.steps.drop position = process.currentStep :: later

/-- How far a process is, with the numbers of signals, resolutions and failures so far. -/
inductive Stage (options : Options) (signals resolutions failures : Nat) (state : State) : Prop
  | idle (alive : state.process.exit = none) (unhandled : state.process.handling = false)
      (idle : state.process.progress = .idle)
      (notBegun : state.process.shutdownState = ShutdownState.new)
      (unarmed : state.process.forceExit = none)
      (noSignal : signals = 0) (noResolution : resolutions = 0) (noFailure : failures = 0)
  | awaiting (alive : state.process.exit = none) (handling : state.process.handling = true)
      (awaits : Awaits options resolutions state.process)
      (armed : ∃ startedAt ≤ state.now, state.process.shutdownState.startedAt = some startedAt ∧
        state.process.forceExit = some (startedAt + timerMs options.graceMs))
      (oneSignal : signals = 1) (noFailure : failures = 0)
  | completed (exit : state.process.exit = some (.called 0)) (oneSignal : signals = 1)
      (all : resolutions = (awaited options).length) (noFailure : failures = 0)
  | repeated (exit : state.process.exit = some (.called 1)) (twoSignals : signals = 2)
      (noFailure : failures = 0)
  | failed (exit : state.process.exit = some (.called 1)) (oneSignal : signals = 1)
      (oneFailure : failures = 1) (left : resolutions ≤ options.steps.length)
  | ended (exit : state.process.exit = some .uncalled) (signals : signals ≤ 1)
      (left : resolutions ≤ options.steps.length) (noFailure : failures = 0)

/-- What holds along every run. -/
structure Holds (options : Options) (schedule : List Action) (state : State) : Prop where
  stage : Stage options (schedule.countP isSignal) (schedule.countP isResolution)
    (schedule.countP isFailure) state
  reported : state.process.log.filterMap reportedStep =
    (options.steps.take (schedule.countP isResolution)).map .string
  blamed : state.process.log.filterMap blamedStep =
    if schedule.countP isFailure = 1 then
      ((awaited options)[schedule.countP isResolution]?.toList).map .string
    else []

section

variable {runtime : Runtime} {options : Options} {schedule : List Action} {state next : State}
  {process : Process} {position : Nat}

theorem countP_append_action (property : Action → Bool) (schedule : List Action)
    (action : Action) : (schedule ++ [action]).countP property =
      schedule.countP property + if property action then 1 else 0 := by
  rw [List.countP_append, List.countP_singleton]

theorem filterMap_append_line (property : LogLine → Option LogValue) (log : List LogLine)
    (line : LogLine) : (log ++ [line]).filterMap property =
      log.filterMap property ++ (property line).toList := by
  rw [List.filterMap_append, List.filterMap_cons, List.filterMap_nil]
  cases property line <;> rfl

/-- The loop changes only where it is. -/
theorem goOn_frame (now : Nat) (steps : List JsString) (process : Process) :
    (goOn now steps process).exit = process.exit ∧
      (goOn now steps process).handling = process.handling ∧
      (goOn now steps process).shutdownState = process.shutdownState ∧
      (goOn now steps process).forceExit = process.forceExit ∧
      (goOn now steps process).log = process.log := by
  cases steps <;> exact ⟨rfl, rfl, rfl, rfl, rfl⟩

/-- The loop comes to the step at its position, or to `close` behind all of them. -/
theorem awaits_goOn (now : Nat) {later : List JsString}
    (left : options.steps.drop position = later) (within : position ≤ options.steps.length) :
    Awaits options position (goOn now later process) := by
  cases later with
  | nil =>
    have atEnd : position = options.steps.length :=
      Nat.le_antisymm within (List.drop_eq_nil_iff.mp left)
    refine ⟨?_, Or.inl ⟨rfl, atEnd⟩⟩
    rw [awaited, List.getElem?_append_right (Nat.le_of_eq atEnd.symm), atEnd, Nat.sub_self]
    rfl
  | cons step rest =>
    refine ⟨?_, Or.inr ⟨now, rest, rfl, left⟩⟩
    have isStep : options.steps[position]? = some step := by
      rw [← List.head?_drop, left]
      rfl
    rw [awaited, List.getElem?_append_left (List.getElem?_eq_some_iff.mp isStep).1]
    exact isStep

theorem Awaits.le (awaits : Awaits options position process) :
    position ≤ options.steps.length := by
  have inRange := (List.getElem?_eq_some_iff.mp awaits.named).1
  rw [awaited, List.length_append, List.length_singleton] at inRange
  omega

/-- A stage in which the process goes on. -/
theorem stage_of_alive {signals resolutions failures : Nat}
    (stage : Stage options signals resolutions failures state)
    (alive : state.process.exit = none) :
    (signals = 0 ∧ resolutions = 0 ∧ failures = 0 ∧ state.process.handling = false ∧
      state.process.progress = .idle ∧ state.process.shutdownState = ShutdownState.new ∧
      state.process.forceExit = none) ∨
    (signals = 1 ∧ failures = 0 ∧ state.process.handling = true ∧
      Awaits options resolutions state.process ∧
      ∃ startedAt ≤ state.now, state.process.shutdownState.startedAt = some startedAt ∧
        state.process.forceExit = some (startedAt + timerMs options.graceMs)) := by
  cases stage with
  | idle _ unhandled idle notBegun unarmed noSignal noResolution noFailure =>
    exact Or.inl ⟨noSignal, noResolution, noFailure, unhandled, idle, notBegun, unarmed⟩
  | awaiting _ handling awaits armed oneSignal noFailure =>
    exact Or.inr ⟨oneSignal, noFailure, handling, awaits, armed⟩
  | completed exit | repeated exit | failed exit | ended exit =>
    cases alive.symm.trans exit

theorem holds_initial (options : Options) (now : Nat) : Holds options [] (initial now) where
  stage := .idle rfl rfl rfl rfl rfl rfl rfl rfl
  reported := rfl
  blamed := rfl

theorem holds_advance (holds : Holds options schedule state) (milliseconds : Nat) :
    Holds options (schedule ++ [.advance milliseconds])
      { state with now := state.now + milliseconds } := by
  obtain ⟨stage, reported, blamed⟩ := holds
  have same (property : Action → Bool) (uncounted : property (.advance milliseconds) = false) :
      (schedule ++ [Action.advance milliseconds]).countP property = schedule.countP property := by
    rw [countP_append_action, uncounted]
    rfl
  refine ⟨?_, ?_, ?_⟩
  · rw [same isSignal rfl, same isResolution rfl, same isFailure rfl]
    cases stage with
    | idle alive unhandled idle notBegun unarmed noSignal noResolution noFailure =>
      exact .idle alive unhandled idle notBegun unarmed noSignal noResolution noFailure
    | awaiting alive handling awaits armed oneSignal noFailure =>
      obtain ⟨startedAt, before, isStart, isArmed⟩ := armed
      have later : startedAt ≤ state.now + milliseconds :=
        Nat.le_trans before (Nat.le_add_right _ _)
      exact .awaiting alive handling awaits ⟨startedAt, later, isStart, isArmed⟩ oneSignal noFailure
    | completed exit oneSignal all noFailure => exact .completed exit oneSignal all noFailure
    | repeated exit twoSignals noFailure => exact .repeated exit twoSignals noFailure
    | failed exit oneSignal oneFailure left => exact .failed exit oneSignal oneFailure left
    | ended exit signals left noFailure => exact .ended exit signals left noFailure
  · rw [same isResolution rfl]
    exact reported
  · rw [same isResolution rfl, same isFailure rfl]
    exact blamed

/-- A line that names no step says nothing about the steps. -/
theorem Holds.of_say {action : Action} (holds : Holds options schedule state) {line : LogLine}
    (logged : process.log = state.process.log ++ [line]) (unreported : reportedStep line = none)
    (unblamed : blamedStep line = none) (notResolution : isResolution action = false)
    (notFailure : isFailure action = false)
    (stage : Stage options
      (schedule.countP isSignal + if isSignal action then 1 else 0)
      (schedule.countP isResolution) (schedule.countP isFailure) { state with process }) :
    Holds options (schedule ++ [action]) { state with process } := by
  have sameResolutions : (schedule ++ [action]).countP isResolution =
      schedule.countP isResolution := by
    rw [countP_append_action, notResolution]
    rfl
  have sameFailures : (schedule ++ [action]).countP isFailure = schedule.countP isFailure := by
    rw [countP_append_action, notFailure]
    rfl
  refine ⟨?_, ?_, ?_⟩
  · rw [sameResolutions, sameFailures, countP_append_action]
    exact stage
  · rw [sameResolutions, logged, filterMap_append_line, unreported, Option.toList_none,
      List.append_nil]
    exact holds.reported
  · rw [sameResolutions, sameFailures, logged, filterMap_append_line, unblamed,
      Option.toList_none, List.append_nil]
    exact holds.blamed

theorem holds_signal (holds : Holds options schedule state) (alive : state.process.exit = none)
    (signal : Signal) :
    Holds options (schedule ++ [.event (.signal signal)])
      { state with process := shutdown options state.now signal state.process } := by
  rcases stage_of_alive holds.stage alive with
    ⟨noSignal, noResolution, noFailure, unhandled, _, notBegun, _⟩ |
    ⟨oneSignal, noFailure, handling, _⟩
  · have isFirst : shutdown options state.now signal state.process =
        goOn state.now options.steps _ :=
      if_neg (Bool.eq_false_iff.mp unhandled)
    rw [isFirst]
    obtain ⟨sameExit, sameHandling, sameState, sameTimer, sameLog⟩ := goOn_frame state.now
      options.steps _
    refine holds.of_say (sameLog.trans rfl) rfl rfl rfl rfl ?_
    refine .awaiting (sameExit.trans alive) (sameHandling.trans rfl) ?_ ?_ ?_ noFailure
    · rw [noResolution]
      exact awaits_goOn state.now rfl (Nat.zero_le _)
    · refine ⟨state.now, Nat.le_refl _, ?_, sameTimer.trans rfl⟩
      rw [sameState]
      show (state.process.shutdownState.begin state.now).startedAt = _
      rw [notBegun]
      rfl
    · rw [noSignal]
      rfl
  · have isSecond : shutdown options state.now signal state.process = exitWith 1 _ :=
      if_pos handling
    rw [isSecond]
    refine holds.of_say rfl rfl rfl rfl rfl ?_
    refine .repeated rfl ?_ noFailure
    rw [oneSignal]
    rfl

theorem holds_resolved (holds : Holds options schedule state) (alive : state.process.exit = none)
    (handled : resolved options state.now state.process = some process) :
    Holds options (schedule ++ [.event .resolved]) { state with process } := by
  have signals : (schedule ++ [Action.event .resolved]).countP isSignal =
      schedule.countP isSignal := countP_append_action _ _ _
  have resolutions : (schedule ++ [Action.event .resolved]).countP isResolution =
      schedule.countP isResolution + 1 := countP_append_action _ _ _
  have failures : (schedule ++ [Action.event .resolved]).countP isFailure =
      schedule.countP isFailure := countP_append_action _ _ _
  rcases stage_of_alive holds.stage alive with
    ⟨_, _, _, _, idle, _⟩ | ⟨oneSignal, noFailure, handling, awaits, armed⟩
  · rw [resolved, idle] at handled
    cases handled
  · have unblamed : state.process.log.filterMap blamedStep = [] := by
      rw [holds.blamed, noFailure]
      rfl
    rcases awaits.progress with ⟨closing, atEnd⟩ | ⟨started, later, running, left⟩
    · rw [resolved, closing] at handled
      cases handled
      refine ⟨?_, ?_, ?_⟩
      · rw [signals, resolutions, failures]
        refine .completed rfl oneSignal ?_ noFailure
        rw [atEnd, awaited, List.length_append]
        rfl
      · have reported := holds.reported
        rw [atEnd, List.take_length] at reported
        rw [resolutions, List.take_of_length_le (by omega), ← reported]
        exact (filterMap_append_line _ _ _).trans (List.append_nil _)
      · rw [failures, if_neg (by omega), ← unblamed]
        exact (filterMap_append_line _ _ _).trans (List.append_nil _)
    · rw [resolved, running] at handled
      cases handled
      obtain ⟨sameExit, sameHandling, sameState, sameTimer, sameLog⟩ := goOn_frame state.now
        later _
      have within : schedule.countP isResolution < options.steps.length := by
        have notNil := congrArg List.length left
        rw [List.length_drop, List.length_cons] at notNil
        omega
      have isNext : options.steps.drop (schedule.countP isResolution + 1) = later := by
        rw [← List.tail_drop, left]
        rfl
      refine ⟨?_, ?_, ?_⟩
      · rw [signals, resolutions, failures]
        refine .awaiting (sameExit.trans alive) (sameHandling.trans handling)
          (awaits_goOn state.now isNext within) ?_ oneSignal noFailure
        obtain ⟨startedAt, before, isStart, isArmed⟩ := armed
        exact ⟨startedAt, before, (congrArg _ sameState).trans isStart, sameTimer.trans isArmed⟩
      · have isStep : options.steps[schedule.countP isResolution]? =
            some state.process.currentStep := by
          rw [← List.head?_drop, left]
          rfl
        rw [sameLog, resolutions, List.take_add_one, isStep, List.map_append, ← holds.reported]
        exact filterMap_append_line _ _ _
      · rw [sameLog, failures, if_neg (by omega), ← unblamed]
        exact (filterMap_append_line _ _ _).trans (List.append_nil _)

/-- The exit after a failure blames the step that is awaited. -/
theorem Holds.of_failure {event : Event} (holds : Holds options schedule state)
    (alive : state.process.exit = none) (isFailing : isFailure (.event event) = true)
    (begun : state.process.progress ≠ .idle) (exit : process.exit = some (.called 1))
    {line : LogLine} (logged : process.log = state.process.log ++ [line])
    (unreported : reportedStep line = none)
    (blames : blamedStep line = some (.string state.process.currentStep)) :
    Holds options (schedule ++ [.event event]) { state with process } := by
  have signals : (schedule ++ [Action.event event]).countP isSignal = schedule.countP isSignal := by
    rw [countP_append_action]
    cases event <;> first | rfl | cases isFailing
  have resolutions : (schedule ++ [Action.event event]).countP isResolution =
      schedule.countP isResolution := by
    rw [countP_append_action]
    cases event <;> first | rfl | cases isFailing
  rcases stage_of_alive holds.stage alive with
    ⟨_, _, _, _, idle, _⟩ | ⟨oneSignal, noFailure, _, awaits, _⟩
  · exact absurd idle begun
  · have failures : (schedule ++ [Action.event event]).countP isFailure = 1 := by
      rw [countP_append_action, noFailure, isFailing]
      rfl
    refine ⟨?_, ?_, ?_⟩
    · rw [signals, resolutions, failures]
      exact .failed exit oneSignal rfl awaits.le
    · rw [resolutions, logged, filterMap_append_line, unreported, ← holds.reported]
      exact List.append_nil _
    · rw [resolutions, failures, logged, filterMap_append_line, blames, holds.blamed, noFailure,
        awaits.named]
      rfl

/-- An end without an exit call leaves the log as it is. -/
theorem Holds.of_uncalled {action : Action} (holds : Holds options schedule state)
    (alive : state.process.exit = none) (exit : process.exit = some .uncalled)
    (logged : process.log = state.process.log) (notSignal : isSignal action = false)
    (notResolution : isResolution action = false) (notFailure : isFailure action = false) :
    Holds options (schedule ++ [action]) { state with process } := by
  have same {property : Action → Bool} (uncounted : property action = false) :
      (schedule ++ [action]).countP property = schedule.countP property := by
    rw [countP_append_action, uncounted]
    rfl
  refine ⟨?_, ?_, ?_⟩
  · rw [same notSignal, same notResolution, same notFailure]
    rcases stage_of_alive holds.stage alive with
      ⟨noSignal, noResolution, noFailure, _⟩ | ⟨oneSignal, noFailure, _, awaits, _⟩
    · exact .ended exit (by omega) (by omega) noFailure
    · exact .ended exit (by omega) awaits.le noFailure
  · rw [same notResolution, logged]
    exact holds.reported
  · rw [same notResolution, same notFailure, logged]
    exact holds.blamed

theorem holds_event {event : Event} (holds : Holds options schedule state)
    (handled : handle runtime options state.now state.process event = some process) :
    Holds options (schedule ++ [.event event]) { state with process } := by
  unfold handle at handled
  split at handled
  · cases handled
  · rename_i notEnded
    have alive : state.process.exit = none := Option.not_isSome_iff_eq_none.mp notEnded
    cases event with
    | signal signal =>
      cases handled
      exact holds_signal holds alive signal
    | resolved => exact holds_resolved holds alive handled
    | rejected message =>
      have begun : state.process.progress ≠ .idle := by
        intro idle
        simp only [rejected, idle] at handled
        cases handled
      simp only [rejected] at handled
      split at handled
      · rename_i idle
        exact absurd idle begun
      · cases handled
        exact holds.of_failure alive rfl begun rfl rfl rfl rfl
      · cases handled
        exact holds.of_failure alive rfl begun rfl rfl rfl rfl
    | graceElapsed =>
      simp only [graceElapsed] at handled
      split at handled
      · cases handled
      · rename_i due isDue
        have begun : state.process.progress ≠ .idle := by
          intro idle
          rcases stage_of_alive holds.stage alive with
            ⟨_, _, _, _, _, _, unarmed⟩ | ⟨_, _, _, awaits, _⟩
          · cases unarmed.symm.trans isDue
          · rcases awaits.progress with ⟨closing, _⟩ | ⟨_, _, running, _⟩
            · cases idle.symm.trans closing
            · cases idle.symm.trans running
        split at handled
        · cases handled
          exact holds.of_failure alive rfl begun rfl rfl rfl rfl
        · cases handled
    | unhandledRejection message =>
      cases handled
      refine holds.of_say rfl rfl rfl rfl rfl ?_
      rcases stage_of_alive holds.stage alive with
        ⟨noSignal, noResolution, noFailure, unhandled, idle, notBegun, unarmed⟩ |
        ⟨oneSignal, noFailure, handling, awaits, armed⟩
      · exact .idle alive unhandled idle notBegun unarmed noSignal noResolution noFailure
      · exact .awaiting alive handling ⟨awaits.named, awaits.progress⟩ armed oneSignal noFailure
    | drained =>
      cases handled
      exact holds.of_uncalled alive rfl rfl rfl rfl rfl
    | killed =>
      cases handled
      exact holds.of_uncalled alive rfl rfl rfl rfl rfl

theorem holds_step {action : Action} (holds : Holds options schedule state)
    (enabled : step runtime options state action = some next) :
    Holds options (schedule ++ [action]) next := by
  cases action with
  | advance milliseconds =>
    cases enabled
    exact holds_advance holds milliseconds
  | event event =>
    obtain ⟨process, handled, rfl⟩ := Option.map_eq_some_iff.mp enabled
    exact holds_event holds handled

theorem Holds.tells (holds : Holds options schedule state) : Tells options schedule state := by
  obtain ⟨stage, reported, blamed⟩ := holds
  have all : (awaited options).length = options.steps.length + 1 := List.length_append
  refine ⟨?_, ?_, reported, ?_, ?_⟩
  · cases stage with
    | idle alive _ _ _ _ noSignal => exact iff_of_false (by rw [alive]; nofun) (by omega)
    | awaiting alive _ awaits =>
      have left := awaits.le
      exact iff_of_false (by rw [alive]; nofun) (by omega)
    | completed exit oneSignal all noFailure => exact iff_of_true exit ⟨oneSignal, all, noFailure⟩
    | repeated exit twoSignals noFailure => exact iff_of_false (by rw [exit]; nofun) (by omega)
    | failed exit oneSignal oneFailure left => exact iff_of_false (by rw [exit]; nofun) (by omega)
    | ended exit signals left noFailure => exact iff_of_false (by rw [exit]; nofun) (by omega)
  · cases stage with
    | idle alive _ _ _ _ noSignal noResolution noFailure =>
      exact iff_of_false (by rw [alive]; nofun) (by omega)
    | awaiting alive _ _ _ oneSignal noFailure =>
      exact iff_of_false (by rw [alive]; nofun) (by omega)
    | completed exit oneSignal all noFailure => exact iff_of_false (by rw [exit]; nofun) (by omega)
    | repeated exit twoSignals noFailure => exact iff_of_true exit (Or.inl twoSignals)
    | failed exit oneSignal oneFailure left => exact iff_of_true exit (Or.inr oneFailure)
    | ended exit signals left noFailure => exact iff_of_false (by rw [exit]; nofun) (by omega)
  · intro step
    rw [blamed]
    split
    · rename_i oneFailure
      simp only [List.mem_map, Option.mem_toList, LogValue.string.injEq, exists_eq_right,
        oneFailure, true_and]
    · rename_i noFailure
      exact iff_of_false List.not_mem_nil fun blames => noFailure blames.1
  · intro alive someSignal
    rcases stage_of_alive stage alive with ⟨noSignal, _⟩ | ⟨_, _, _, _, armed⟩
    · exact absurd noSignal someSignal
    · exact armed

end

/-- In every run, whatever resolves, rejects or hangs and whenever signals come, the process calls
`process.exit(0)` exactly when all that is awaited has resolved after one signal, and
`process.exit(1)` exactly after a second signal or a failure; the log reports exactly the completed
steps, in their order, and blames exactly the step that was awaited when the shutdown failed. Until
its end a process that shuts down has its timer. -/
theorem exit_tells (runtime : Runtime) (options : Options) (now : Nat) (schedule : List Action)
    (state : State)
    (reaches : Transition.run (step runtime options) (initial now) schedule = some state) :
    Tells options schedule state :=
  (Transition.run_invariant reaches (Holds options) (holds_initial options now)
    fun _ _ _ _ holds enabled => holds_step holds enabled).tells

/-- The options of `worker.main.ts`. -/
def workerOptions (graceMs : JsNumber) : Options where
  processName := ofString "worker"
  graceMs := graceMs
  steps := [ofString "stop-poller-and-release-lease", ofString "shutdown-scoring-pool"]

/-- A host that prints nothing. -/
def silentRuntime : Runtime where
  dateParse _ := none
  numberToString _ := []
  syntaxErrorMessage _ := []
  sha256 _ := []

/-- The pool does not shut down in time. -/
def stuckSchedule : List Action :=
  [.event (.signal .SIGTERM), .advance 10, .event .resolved, .advance 29990, .event .graceElapsed]

/-- The process exits with 1, and the log blames the second step. -/
theorem exit_tells_stuck :
    ∃ state, Transition.run (step silentRuntime (workerOptions (.finite 30000))) (initial 5)
        stuckSchedule = some state ∧ state.process.exit = some (.called 1) ∧
      .string (ofString "shutdown-scoring-pool") ∈ state.process.log.filterMap blamedStep := by
  obtain ⟨state, reaches⟩ : ∃ state, Transition.run
      (step silentRuntime (workerOptions (.finite 30000))) (initial 5) stuckSchedule =
        some state := Option.isSome_iff_exists.mp rfl
  have tells := exit_tells silentRuntime _ 5 stuckSchedule state reaches
  exact ⟨state, reaches, tells.aborted.mpr (Or.inr rfl), (tells.blamed _).mpr ⟨rfl, rfl⟩⟩

end GracefulShutdown

end ImportService
