/-
This file proves that the limiter of an execution cannot be seen from outside. The execution
with its limiter makes the calls that the execution without it makes, one after another and
with the same batches: `Shows` says which call of the one the other has come to, and a step
either stays at it or is the end of it. The calls of the limiter and the waits for its
promises are the steps that stay.
-/

import ImportService.Backpressure
import ImportService.Progress

namespace ImportService.Backpressure

open ProcessImportFile

/-! ### The execution without the limiter -/

/-- What the end of a call brings: the tables and the time the code goes on with, and the
reply. -/
structure Answer where
  db : Database
  now : Nat
  reply : Reply

/-- The next outcome, if the execution still awaits an answer. -/
def answered (ports : Ports) (batchSize : Nat) (job : ClaimedJob) :
    Outcome → Answer → Option Outcome
  | .awaiting point, answer =>
      resume ports batchSize answer.db answer.now job point answer.reply
  | .resolved, _ | .rejected _, _ => none

/-- How far the execution without the limiter is. The waits after the loop and in the `catch`
block belong to the call before them. -/
inductive Shows (ports : Ports) (batchSize : Nat) (job : ClaimedJob) (execution : Execution) :
    Outcome → Prop
  | call {point : Point} (isAt : execution.position = .call point) :
      Shows ports batchSize job execution (.awaiting point)
  | persist {locals : Locals} {run : Nat} {last : Bool} {input : PersistBatchInput}
      (isAt : execution.position = .persist locals run last)
      (handed : (execution.inFlightPersists.map PersistPromise.input)[run]? = some input) :
      Shows ports batchSize job execution (.awaiting (.persistBatch locals input last))
  | persists {locals : Locals} {point : Point} (db : Database)
      (isAt : execution.position = .persists locals) (inLoop : point.inLoop = true)
      (ends : ∀ now, ProcessImportFile.succeeded ports batchSize db now job point =
        ProcessImportFile.afterFlush now locals true) :
      Shows ports batchSize job execution (.awaiting point)
  | settling {failure : Failure} {point : Point}
      (isAt : execution.position = .settling failure)
      (catches : ∀ now, ProcessImportFile.failed now failure point = caught now failure) :
      Shows ports batchSize job execution (.awaiting point)
  | resolved (isAt : execution.position = .resolved) :
      Shows ports batchSize job execution .resolved
  | rejected {failure : Failure} (isAt : execution.position = .rejected failure) :
      Shows ports batchSize job execution (.rejected failure)

/-! ### From one call to the next -/

section

variable {ports : Ports} {batchSize maxConcurrentPersists : Nat} {job : ClaimedJob}
  {execution next : Execution}

theorem shows_goTo (outcome : Outcome) (execution : Execution) :
    Shows ports batchSize job (execution.goTo (.ofOutcome outcome)) outcome := by
  cases outcome with
  | awaiting point => exact .call rfl
  | resolved => exact .resolved rfl
  | rejected failure => exact .rejected rfl

theorem failed_of_inLoop {point : Point} (inLoop : point.inLoop = true) (now : Nat)
    (failure : Failure) : ProcessImportFile.failed now failure point = caught now failure := by
  cases point with
  | readLine | renewLease | getStatus | scoreBatch | persistBatch => rfl
  | findByImportId | countLines | updateBoth => cases inLoop

theorem shows_persist (locals : Locals) (batch : Batch) (scored : List ScoringOutput)
    (last : Bool) (execution : Execution) :
    Shows ports batchSize job (persist job locals batch scored last execution)
      (.awaiting (.persistBatch locals (persistInput job batch scored) last)) := by
  refine .persist rfl ?_
  rw [persist, List.map_append, ← List.length_map PersistPromise.input]
  exact List.getElem?_concat_length

/-- A flush hands the same batch over, or the loop has ended and nothing is left to hand
over. -/
theorem shows_flush (now : Nat) (locals : Locals) (last : Bool) (execution : Execution) :
    Shows ports batchSize job (flush job locals last execution)
        (ProcessImportFile.flush job now locals last) ∨
      last = true ∧ locals.pending.isEmpty = true ∧
        (flush job locals last execution).position = .persists locals := by
  rw [flush, ProcessImportFile.flush]
  split
  · rename_i isEmpty
    cases last with
    | false => exact Or.inl (.call rfl)
    | true => exact Or.inr ⟨rfl, isEmpty, rfl⟩
  · simp only
    split
    · exact Or.inl (shows_persist _ _ _ _ _)
    · exact Or.inl (.call rfl)

theorem shows_accumulate (now : Nat) (locals : Locals) (rawLine : JsString)
    (execution : Execution) :
    Shows ports batchSize job
      (accumulate ports batchSize maxConcurrentPersists job locals rawLine execution)
      (ProcessImportFile.accumulate ports batchSize job now locals rawLine) := by
  rw [accumulate, ProcessImportFile.accumulate]
  generalize handleLine ports locals.fallbackProvider rawLine locals.lineNumber = outcome
  split
  · exact .call rfl
  · simp only
    split
    · rcases shows_flush now _ false _ with shows | ⟨isLast, _⟩
      · exact shows
      · cases isLast
    · exact .call rfl

theorem shows_checkCancellation (now : Nat) (locals : Locals) (rawLine : JsString)
    (execution : Execution) :
    Shows ports batchSize job
      (checkCancellation ports batchSize maxConcurrentPersists job locals rawLine execution)
      (ProcessImportFile.checkCancellation ports batchSize job now locals rawLine) := by
  rw [checkCancellation, ProcessImportFile.checkCancellation]
  split
  · exact .call rfl
  · exact shows_accumulate now locals rawLine execution

theorem shows_heartbeat (now : Nat) (locals : Locals) (rawLine : JsString)
    (execution : Execution) :
    Shows ports batchSize job
      (heartbeat ports batchSize maxConcurrentPersists job now locals rawLine execution)
      (ProcessImportFile.heartbeat ports batchSize job now locals rawLine) := by
  rw [heartbeat, ProcessImportFile.heartbeat]
  split
  · exact .call rfl
  · exact shows_checkCancellation now locals rawLine execution

/-! ### One step -/

/-- A step stays at the call or is the end of it. -/
def Advances (ports : Ports) (batchSize : Nat) (job : ClaimedJob) (outcome : Outcome)
    (next : Execution) : Prop :=
  ∃ later, (later = outcome ∨ ∃ answer, answered ports batchSize job outcome answer = some later) ∧
    Shows ports batchSize job next later

theorem Advances.stays {outcome : Outcome} (shows : Shows ports batchSize job next outcome) :
    Advances ports batchSize job outcome next :=
  ⟨outcome, Or.inl rfl, shows⟩

theorem Advances.succeeds {point : Point} (db : Database) (now : Nat)
    (shows : Shows ports batchSize job next
      (ProcessImportFile.succeeded ports batchSize db now job point)) :
    Advances ports batchSize job (.awaiting point) next :=
  ⟨_, Or.inr ⟨⟨db, now, .ok⟩, rfl⟩, shows⟩

theorem Advances.fails {point : Point} (now : Nat) (failure : Failure)
    (shows : Shows ports batchSize job next (ProcessImportFile.failed now failure point)) :
    Advances ports batchSize job (.awaiting point) next :=
  ⟨_, Or.inr ⟨⟨Database.empty, now, .fail false failure⟩, rfl⟩, shows⟩

/-- A call of the loop that leads to the last flush. -/
theorem advances_flush {point : Point} (inLoop : point.inLoop = true) (db : Database)
    {locals : Locals}
    (flushes : ∀ now, ProcessImportFile.succeeded ports batchSize db now job point =
      ProcessImportFile.flush job now locals true) (now : Nat) (execution : Execution) :
    Advances ports batchSize job (.awaiting point) (flush job locals true execution) := by
  rcases shows_flush now locals true execution with shows | ⟨_, isEmpty, isAt⟩
  · refine .succeeds db now ?_
    rw [flushes now]
    exact shows
  · refine .stays (.persists db isAt inLoop fun later => ?_)
    rw [flushes later, ProcessImportFile.flush, if_pos isEmpty]

theorem advances_succeeded (somePermit : 0 < maxConcurrentPersists) {point : Point}
    {db : Database} {now : Nat}
    (succeeds : succeeded ports batchSize maxConcurrentPersists job db now execution point =
      some next) : Advances ports batchSize job (.awaiting point) next := by
  cases point with
  | findByImportId | countLines =>
    cases succeeds
    exact .succeeds db now (shows_goTo _ execution)
  | updateBoth mark stage caller =>
    cases stage with
    | job =>
      cases succeeds
      exact .succeeds db now (shows_goTo _ execution)
    | importRow =>
      cases caller with
      | fileFound file =>
        cases succeeds
        refine .succeeds db now ?_
        rw [startLoop, if_neg (Nat.not_lt.mpr somePermit)]
        exact .call rfl
      | fileMissing | loopEnded | caught =>
        cases succeeds
        exact .succeeds db now (shows_goTo _ execution)
  | readLine locals =>
    rw [succeeded] at succeeds
    split at succeeds
    · rename_i noLine
      cases succeeds
      refine advances_flush rfl db (fun later => ?_) now execution
      simp only [ProcessImportFile.succeeded, noLine]
    · rename_i rawLine rest line
      cases succeeds
      refine .succeeds db now ?_
      simp only [ProcessImportFile.succeeded, line]
      exact shows_heartbeat now _ rawLine execution
  | renewLease locals rawLine =>
    cases succeeds
    exact .succeeds db now (shows_checkCancellation now _ rawLine execution)
  | getStatus locals rawLine =>
    rw [succeeded] at succeeds
    split at succeeds
    · rename_i cancelling
      cases succeeds
      refine advances_flush rfl db (fun later => ?_) now execution
      rw [ProcessImportFile.succeeded, if_pos cancelling]
    · rename_i goesOn
      cases succeeds
      refine .succeeds db now ?_
      rw [ProcessImportFile.succeeded, if_neg goesOn]
      exact shows_accumulate now locals rawLine execution
  | scoreBatch locals batch last =>
    cases succeeds
    exact .succeeds db now (shows_persist _ _ _ _ execution)
  | persistBatch locals input last => cases succeeds

theorem advances_failed (now : Nat) (failure : Failure) (point : Point) :
    Advances ports batchSize job (.awaiting point) (failed now failure execution point) := by
  cases point with
  | findByImportId | countLines => exact .fails now failure (shows_goTo _ execution)
  | updateBoth mark stage caller =>
    cases caller with
    | loopEnded => exact .stays (.settling rfl fun _ => rfl)
    | fileMissing | fileFound | caught => exact .fails now failure (shows_goTo _ execution)
  | readLine | renewLease | getStatus | scoreBatch | persistBatch =>
    exact .stays (.settling rfl fun _ => rfl)

/-- The progress of a call does not change what it persists. -/
theorem map_input_setProgress (run : Nat) (progress : Progress)
    (promises : List PersistPromise) :
    (setProgress run progress promises).map PersistPromise.input =
      promises.map PersistPromise.input := by
  induction promises generalizing run with
  | nil => rw [setProgress, List.modify_nil]
  | cons promise rest inductionHypothesis =>
    cases run with
    | zero => rfl
    | succ run =>
      rw [setProgress, List.modify_succ_cons, List.map_cons, List.map_cons]
      exact congrArg (promise.input :: ·) (inductionHypothesis run)

theorem map_input_finish (run : Nat) (failure : Option Failure) (execution : Execution) :
    (finish run failure execution).inFlightPersists.map PersistPromise.input =
      execution.inFlightPersists.map PersistPromise.input := by
  rw [finish]
  cases execution.persistLimiter.release with
  | mk persistLimiter waiter =>
    cases waiter with
    | none => exact map_input_setProgress _ _ _
    | some waiter => exact (map_input_setProgress _ _ _).trans (map_input_setProgress _ _ _)

/-- What happens within the limiter is not seen. -/
theorem Shows.within_limiter {outcome : Outcome}
    (shows : Shows ports batchSize job execution outcome)
    (sameAt : next.position = execution.position)
    (inputs : next.inFlightPersists.map PersistPromise.input =
      execution.inFlightPersists.map PersistPromise.input) :
    Shows ports batchSize job next outcome := by
  cases shows with
  | call isAt => exact .call (sameAt.trans isAt)
  | persist isAt handed => exact .persist (sameAt.trans isAt) (inputs ▸ handed)
  | persists db isAt inLoop ends => exact .persists db (sameAt.trans isAt) inLoop ends
  | settling isAt catches => exact .settling (sameAt.trans isAt) catches
  | resolved isAt => exact .resolved (sameAt.trans isAt)
  | rejected isAt => exact .rejected (sameAt.trans isAt)

theorem Shows.outcome_of_call {outcome : Outcome}
    (shows : Shows ports batchSize job execution outcome) {point : Point}
    (isCall : execution.position = .call point) : outcome = .awaiting point := by
  cases shows with
  | call isAt =>
    cases isAt.symm.trans isCall
    rfl
  | persist isAt | persists _ isAt | settling isAt | resolved isAt | rejected isAt =>
    cases isAt.symm.trans isCall

/-- After the waits the execution goes on as after the call itself. -/
theorem advances_goOn {outcome : Outcome} (shows : Shows ports batchSize job execution outcome)
    {now : Nat} (goesOn : goOn now execution = some next) :
    Advances ports batchSize job outcome next := by
  cases shows with
  | call isAt | resolved isAt | rejected isAt =>
    rw [goOn, isAt] at goesOn
    cases goesOn
  | persist isAt handed =>
    rename_i locals run last input
    simp only [goOn, isAt] at goesOn
    split at goesOn
    · cases goesOn
    · split at goesOn
      · cases goesOn
        cases last with
        | false => exact .succeeds Database.empty now (.call rfl)
        | true => exact .stays (.persists Database.empty rfl rfl fun _ => rfl)
      · cases goesOn
        exact .stays (.settling rfl fun _ => rfl)
      all_goals cases goesOn
  | persists db isAt inLoop ends =>
    simp only [goOn, isAt] at goesOn
    split at goesOn
    · cases goesOn
      exact .stays (.settling rfl fun later => failed_of_inLoop inLoop later _)
    · split at goesOn
      · cases goesOn
        refine .succeeds db now ?_
        rw [ends now]
        exact shows_goTo _ execution
      · cases goesOn
  | settling isAt catches =>
    rename_i failure point
    simp only [goOn, isAt] at goesOn
    split at goesOn
    · cases goesOn
      refine .fails now failure ?_
      rw [catches now]
      exact shows_goTo _ execution
    · cases goesOn

theorem advances_step (somePermit : 0 < maxConcurrentPersists) {outcome : Outcome}
    (shows : Shows ports batchSize job execution outcome) {event : Event}
    (steps : step ports batchSize maxConcurrentPersists job execution event = some next) :
    Advances ports batchSize job outcome next := by
  cases event with
  | answer now db reply =>
    simp only [step] at steps
    split at steps
    · rename_i point isCall
      rw [shows.outcome_of_call isCall]
      exact advances_succeeded somePermit steps
    · rename_i point committed failure isCall
      cases steps
      rw [shows.outcome_of_call isCall]
      exact advances_failed now failure point
    · cases steps
  | begin run =>
    simp only [step] at steps
    split at steps
    · cases steps
      exact .stays (shows.within_limiter rfl (map_input_setProgress run .persisting _))
    · cases steps
  | persisted run reply =>
    simp only [step] at steps
    split at steps
    · cases steps
      exact .stays (shows.within_limiter rfl (map_input_finish run none execution))
    · rename_i failure _
      cases steps
      exact .stays (shows.within_limiter rfl (map_input_finish run (some failure) execution))
    · cases steps
      exact .stays shows
    · cases steps
  | goOn now => exact advances_goOn shows steps

end

/-! ### Runs -/

/-- Wherever an execution with its limiter comes to, the execution without it comes to the call
that it shows. -/
theorem limiter_unseen (ports : Ports) (batchSize maxConcurrentPersists : Nat)
    (job : ClaimedJob) (somePermit : 1 ≤ maxConcurrentPersists) {execution : Execution}
    (reachable : Transition.Reachable (step ports batchSize maxConcurrentPersists job)
      (initial maxConcurrentPersists) execution) :
    ∃ outcome, Transition.Reachable (answered ports batchSize job)
        (.awaiting .findByImportId) outcome ∧
      Shows ports batchSize job execution outcome :=
  reachable.simulated (Shows ports batchSize job) (.call rfl)
    fun _ _ _ _ shows steps => advances_step somePermit shows steps

end ImportService.Backpressure
