/-
This file follows one call of `execute` from its first call of a port to its end, with
every call but the status writes free to fail, and asks how it closes. The calls inside of
the `try` fail into the `catch` block, which marks the import `FAILED` or passes a
shutdown on. The two calls before it have no such exit: when one of them fails, `execute`
throws what it was given and no status is written.

The outcomes of the calls are given in advance (`Turn`), with the tables each call finds.
`persistBatch` with its retries is one call here, as a batch write that is tried again
has failed before.
-/

import ImportService.Batching

namespace ImportService

open JobRepository

namespace ProcessImportFile

/-! ### A run of execute -/

/-- What a call finds, and how it ends if it is not a status write. -/
structure Turn where
  db : Database
  now : Nat
  failure : Option Failure

/-- What can be seen of a run: batches, failures, and the statuses it marks. -/
inductive Observation
  | batchStarted
  | batchSettled
  | failed (failure : Failure)
  | marked (status : ImportStatus)
  deriving DecidableEq

/-- The outcome so far and what has been seen. -/
structure Run where
  outcome : Outcome
  trace : List Observation

/-- The first call is made. -/
def Run.start : Run where
  outcome := .awaiting .findByImportId
  trace := []

/-- A status write never fails. -/
def Turn.reply (turn : Turn) : Point → Reply
  | .updateBoth _ _ _ => .ok
  | _ =>
      match turn.failure with
      | none => .ok
      | some failure => .fail false failure

/-- What is seen when a call ends. -/
def settled : Point → Reply → List Observation
  | .updateBoth mark .importRow _, _ => [.marked mark.status]
  | .persistBatch _ _ _, .fail _ failure => [.batchSettled, .failed failure]
  | .persistBatch _ _ _, _ => [.batchSettled]
  | _, .fail _ failure => [.failed failure]
  | _, _ => []

/-- What is seen when the next call is made. -/
def started : Outcome → List Observation
  | .awaiting (.persistBatch _ _ _) => [.batchStarted]
  | _ => []

/-- The run when its call has ended and the outcome is known. -/
def Run.goOn (run : Run) (point : Point) (reply : Reply) (outcome : Outcome) : Run where
  outcome := outcome
  trace := run.trace ++ settled point reply ++ started outcome

/-- The call of the run ends. -/
def Run.next (ports : Ports) (batchSize : Nat) (job : ClaimedJob) (turn : Turn) (run : Run) :
    Run :=
  match run.outcome with
  | .awaiting point =>
      let reply := turn.reply point
      match resume ports batchSize turn.db turn.now job point reply with
      | some outcome => run.goOn point reply outcome
      | none => run
  | .resolved | .rejected _ => run

/-- The run after a number of calls. -/
def runFor (ports : Ports) (batchSize : Nat) (job : ClaimedJob) (turns : Nat → Turn) : Nat → Run
  | 0 => Run.start
  | calls + 1 => (runFor ports batchSize job turns calls).next ports batchSize job (turns calls)

/-! ### Closed runs -/

/-- The status an observation marks. -/
def Observation.status? : Observation → Option ImportStatus
  | .marked status => some status
  | .batchStarted | .batchSettled | .failed _ => none

/-- The failure an observation is. -/
def Observation.failure? : Observation → Option Failure
  | .failed failure => some failure
  | .batchStarted | .batchSettled | .marked _ => none

/-- The statuses that were marked, in their order. -/
def Run.marks (run : Run) : List ImportStatus := run.trace.filterMap Observation.status?

/-- What the calls failed with. -/
def Run.failures (run : Run) : List Failure := run.trace.filterMap Observation.failure?

/-- The batch writes that have not settled. -/
def Run.batchesRunning (run : Run) : Nat :=
  run.trace.count .batchStarted - run.trace.count .batchSettled

/-- The last mark is the only terminal one. It is `FAILED` if a call failed with anything but the
interruption by a shutdown. -/
def EndsMarked (marks : List ImportStatus) (failures : List Failure) : Prop :=
  ∃ before status, marks = before ++ [status] ∧ status.isTerminal = true ∧
    (∀ earlier ∈ before, earlier.isTerminal = false) ∧
    ((∃ failure ∈ failures, failure ≠ .shutdownInterrupted) → status = .FAILED)

/-- A run that resolves has marked the import at its end. -/
structure Run.ResolvesMarked (run : Run) : Prop where
  resolved : run.outcome = .resolved
  mark : EndsMarked run.marks run.failures

/-- It is interrupted by a shutdown, without a terminal mark. -/
structure Run.IsInterrupted (run : Run) : Prop where
  rejected : run.outcome = .rejected .shutdownInterrupted
  unmarked : ∀ status ∈ run.marks, status.isTerminal = false

/-- The run has ended in one of the two ways, and no batch write is left running. -/
structure Run.Closed (run : Run) : Prop where
  ends : run.ResolvesMarked ∨ run.IsInterrupted
  settled : run.batchesRunning = 0

/-- The calls before the `try` do not fail, unless interrupted by a shutdown: `findByImportId`,
and `countLines` if there is a file. -/
structure StartsSafely (job : ClaimedJob) (turns : Nat → Turn) : Prop where
  findByImportId : ∀ failure, (turns 0).failure = some failure → failure = .shutdownInterrupted
  countLines : (turns 0).failure = none →
    (ImportFileRepository.findByImportId job.importId (turns 0).db).isSome = true →
      ∀ failure, (turns 1).failure = some failure → failure = .shutdownInterrupted

section

variable {ports : Ports} {batchSize : Nat} {job : ClaimedJob} {turn : Turn} {run : Run}
  {point : Point}

theorem next_of_ok (awaits : run.outcome = .awaiting point) (works : turn.failure = none) :
    run.next ports batchSize job turn =
      run.goOn point .ok (succeeded ports batchSize turn.db turn.now job point) := by
  have reply : turn.reply point = .ok := by
    rw [Turn.reply.eq_def, works]
    cases point <;> rfl
  rw [Run.next, awaits]
  simp only [reply, resume]

theorem next_of_fail {failure : Failure} (awaits : run.outcome = .awaiting point)
    (noWrite : ∀ mark stage caller, point ≠ .updateBoth mark stage caller)
    (fails : turn.failure = some failure) :
    run.next ports batchSize job turn =
      run.goOn point (.fail false failure) (failed turn.now failure point) := by
  have reply : turn.reply point = .fail false failure := by
    rw [Turn.reply.eq_def, fails]
    cases point with
    | updateBoth mark stage caller => exact absurd rfl (noWrite mark stage caller)
    | _ => rfl
  rw [Run.next, awaits]
  simp only [reply, resume]

/-- A call succeeds, or it is not a status write and fails as the turn says. -/
theorem next_cases (awaits : run.outcome = .awaiting point) :
    run.next ports batchSize job turn =
        run.goOn point .ok (succeeded ports batchSize turn.db turn.now job point) ∨
      (∀ mark stage caller, point ≠ .updateBoth mark stage caller) ∧
        ∃ failure, turn.failure = some failure ∧
          run.next ports batchSize job turn =
            run.goOn point (.fail false failure) (failed turn.now failure point) := by
  by_cases isWrite : ∃ mark stage caller, point = .updateBoth mark stage caller
  · obtain ⟨mark, stage, caller, rfl⟩ := isWrite
    refine Or.inl ?_
    rw [Run.next, awaits]
    rfl
  · have noWrite : ∀ mark stage caller, point ≠ .updateBoth mark stage caller :=
      fun mark stage caller same => isWrite ⟨mark, stage, caller, same⟩
    cases fails : turn.failure with
    | none => exact Or.inl (next_of_ok awaits fails)
    | some failure => exact Or.inr ⟨noWrite, failure, rfl, next_of_fail awaits noWrite fails⟩

theorem next_of_resolved (resolved : run.outcome = .resolved) :
    run.next ports batchSize job turn = run := by
  rw [Run.next, resolved]

theorem next_of_rejected {failure : Failure} (rejected : run.outcome = .rejected failure) :
    run.next ports batchSize job turn = run := by
  rw [Run.next, rejected]

end

/-! ### The marks of a run -/

/-- Only the `catch` block is reached after a failure, and it marks `FAILED`. -/
def Point.Marks (failures : List Failure) : Point → Prop
  | .updateBoth mark _ .fileMissing => mark.status = .FAILED ∧ failures = []
  | .updateBoth mark _ (.fileFound _) => mark.status.isTerminal = false ∧ failures = []
  | .updateBoth mark _ .loopEnded => mark.status.isTerminal = true ∧ failures = []
  | .updateBoth mark _ .caught => mark.status = .FAILED
  | .findByImportId | .countLines _ | .readLine _ | .renewLease _ _ | .getStatus _ _
  | .scoreBatch _ _ _ | .persistBatch _ _ _ => failures = []

/-- How the marks and the failures go with the place a run has come to. -/
def Outcome.Fits (marks : List ImportStatus) (failures : List Failure) : Outcome → Prop
  | .awaiting point => (∀ status ∈ marks, status.isTerminal = false) ∧ point.Marks failures
  | .resolved => EndsMarked marks failures
  | .rejected _ => ∀ status ∈ marks, status.isTerminal = false

section

variable {ports : Ports} {batchSize now : Nat} {db : Database} {job : ClaimedJob} {turn : Turn}
  {run : Run} {point : Point} {marks : List ImportStatus} {failures : List Failure}

theorem status?_started (outcome : Outcome) :
    (started outcome).filterMap Observation.status? = [] := by
  unfold started
  split <;> rfl

theorem failure?_started (outcome : Outcome) :
    (started outcome).filterMap Observation.failure? = [] := by
  unfold started
  split <;> rfl

theorem failure?_settled_ok (point : Point) :
    (settled point .ok).filterMap Observation.failure? = [] := by
  cases point with
  | updateBoth mark stage caller => cases stage <;> rfl
  | _ => rfl

theorem status?_settled_fail {failure : Failure}
    (noWrite : ∀ mark stage caller, point ≠ .updateBoth mark stage caller) :
    (settled point (.fail false failure)).filterMap Observation.status? = [] := by
  cases point with
  | updateBoth mark stage caller => exact absurd rfl (noWrite mark stage caller)
  | _ => rfl

/-- The calls of the loop mark nothing. -/
theorem status?_settled_ok (notLast : ∀ mark caller, point ≠ .updateBoth mark .importRow caller) :
    (settled point .ok).filterMap Observation.status? = [] := by
  cases point with
  | updateBoth mark stage caller =>
    cases stage with
    | job => rfl
    | importRow => exact absurd rfl (notLast mark caller)
  | _ => rfl

theorem fits_of_inLoop {outcome : Outcome} (inLoop : outcome.InLoop now)
    (unmarked : ∀ status ∈ marks, status.isTerminal = false) (unfailed : failures = []) :
    outcome.Fits marks failures := by
  cases outcome with
  | resolved | rejected => cases inLoop
  | awaiting point =>
    refine ⟨unmarked, ?_⟩
    cases point with
    | findByImportId | countLines => cases inLoop
    | updateBoth mark stage caller =>
      cases stage with
      | importRow => cases inLoop
      | job =>
        cases caller with
        | fileMissing | fileFound | caught => cases inLoop
        | loopEnded => rcases inLoop with rfl | rfl <;> exact ⟨rfl, unfailed⟩
    | _ => exact unfailed

/-- The second write of a mark makes it the last one, if it is terminal. -/
theorem fits_marked {mark : Mark} {caller : Caller}
    (unmarked : ∀ status ∈ marks, status.isTerminal = false)
    (markIs : (Point.updateBoth mark .importRow caller).Marks failures) :
    (succeeded ports batchSize db now job (.updateBoth mark .importRow caller)).Fits
      (marks ++ [mark.status]) failures := by
  cases caller with
  | fileFound file =>
    refine ⟨fun status member => ?_, markIs.2⟩
    rcases List.mem_append.mp member with before | last
    · exact unmarked status before
    · rw [List.mem_singleton.mp last, markIs.1]
  | fileMissing =>
    exact ⟨marks, mark.status, rfl, by rw [markIs.1]; rfl, unmarked, fun _ => markIs.1⟩
  | caught =>
    exact ⟨marks, mark.status, rfl, by rw [show mark.status = .FAILED from markIs]; rfl, unmarked,
      fun _ => markIs⟩
  | loopEnded =>
    refine ⟨marks, mark.status, rfl, markIs.1, unmarked, fun fails => ?_⟩
    obtain ⟨failure, member, _⟩ := fails
    rw [markIs.2] at member
    cases member

/-- A call that succeeds. -/
theorem fits_succeeded (fits : (Outcome.awaiting point).Fits marks failures) :
    (succeeded ports batchSize db now job point).Fits
      (marks ++ (settled point .ok).filterMap Observation.status?) failures := by
  obtain ⟨unmarked, markIs⟩ := fits
  by_cases writes : ∃ mark caller, point = .updateBoth mark .importRow caller
  · obtain ⟨mark, caller, rfl⟩ := writes
    exact fits_marked unmarked markIs
  · rw [status?_settled_ok fun mark caller same => writes ⟨mark, caller, same⟩, List.append_nil]
    cases point with
    | findByImportId =>
      rw [succeeded]
      cases ImportFileRepository.findByImportId job.importId db with
      | none => exact ⟨unmarked, rfl, markIs⟩
      | some file => exact ⟨unmarked, markIs⟩
    | countLines file => exact ⟨unmarked, rfl, markIs⟩
    | updateBoth mark stage caller =>
      cases stage with
      | job => exact ⟨unmarked, by cases caller <;> exact markIs⟩
      | importRow => exact absurd ⟨mark, caller, rfl⟩ writes
    | readLine | renewLease | getStatus | scoreBatch | persistBatch =>
      exact fits_of_inLoop (succeeded_inLoop batchSize db now rfl) unmarked markIs

theorem fits_caught {failure : Failure}
    (unmarked : ∀ status ∈ marks, status.isTerminal = false) :
    (caught now failure).Fits marks failures := by
  cases failure with
  | shutdownInterrupted => exact unmarked
  | error | unknown => exact ⟨unmarked, rfl⟩

/-- A call that fails. The calls before the `try` throw what they were given. -/
theorem fits_failed {failure : Failure}
    (noWrite : ∀ mark stage caller, point ≠ .updateBoth mark stage caller)
    (unmarked : ∀ status ∈ marks, status.isTerminal = false) :
    (failed now failure point).Fits marks failures := by
  cases point with
  | findByImportId | countLines => exact unmarked
  | updateBoth mark stage caller => exact absurd rfl (noWrite mark stage caller)
  | readLine | renewLease | getStatus | scoreBatch | persistBatch => exact fits_caught unmarked

theorem marks_goOn (reply : Reply) (outcome : Outcome) :
    (run.goOn point reply outcome).marks =
      run.marks ++ (settled point reply).filterMap Observation.status? := by
  rw [Run.marks, Run.goOn, List.filterMap_append, List.filterMap_append, status?_started,
    List.append_nil]
  rfl

theorem failures_goOn (reply : Reply) (outcome : Outcome) :
    (run.goOn point reply outcome).failures =
      run.failures ++ (settled point reply).filterMap Observation.failure? := by
  rw [Run.failures, Run.goOn, List.filterMap_append, List.filterMap_append, failure?_started,
    List.append_nil]
  rfl

theorem fits_next (fits : run.outcome.Fits run.marks run.failures) :
    (run.next ports batchSize job turn).outcome.Fits
      (run.next ports batchSize job turn).marks (run.next ports batchSize job turn).failures := by
  cases place : run.outcome with
  | resolved => rwa [next_of_resolved place]
  | rejected failure => rwa [next_of_rejected place]
  | awaiting point =>
    rw [place] at fits
    rcases next_cases place with next | ⟨noWrite, failure, _, next⟩
    · rw [next, marks_goOn, failures_goOn, failure?_settled_ok, List.append_nil]
      exact fits_succeeded fits
    · rw [next, marks_goOn, status?_settled_fail noWrite, List.append_nil]
      exact fits_failed noWrite fits.1

theorem fits_runFor (turns : Nat → Turn) (calls : Nat) :
    (runFor ports batchSize job turns calls).outcome.Fits
      (runFor ports batchSize job turns calls).marks
      (runFor ports batchSize job turns calls).failures := by
  induction calls with
  | zero => exact ⟨fun _ member => (nomatch member), rfl⟩
  | succ calls inductionHypothesis => exact fits_next inductionHypothesis

end

/-! ### The batch writes of a run -/

/-- A batch write that has started and not settled is the one the run waits for. -/
def Run.BatchesFit (run : Run) : Prop :=
  run.trace.count .batchStarted =
    run.trace.count .batchSettled + (started run.outcome).count .batchStarted

section

variable {ports : Ports} {batchSize : Nat} {job : ClaimedJob} {turn : Turn} {run : Run}
  {point : Point}

theorem count_settled (point : Point) (reply : Reply) :
    (settled point reply).count .batchStarted = 0 ∧
      (settled point reply).count .batchSettled =
        (started (.awaiting point)).count .batchStarted := by
  cases point with
  | updateBoth mark stage caller => cases stage <;> cases reply <;> exact ⟨rfl, rfl⟩
  | _ => cases reply <;> exact ⟨rfl, rfl⟩

theorem count_started (outcome : Outcome) : (started outcome).count .batchSettled = 0 := by
  unfold started
  split <;> rfl

theorem batchesFit_goOn (awaits : run.outcome = .awaiting point) (fits : run.BatchesFit)
    (reply : Reply) (outcome : Outcome) : (run.goOn point reply outcome).BatchesFit := by
  obtain ⟨noneStarted, settles⟩ := count_settled point reply
  rw [Run.BatchesFit, awaits] at fits
  rw [Run.BatchesFit, Run.goOn]
  simp only [List.count_append, noneStarted, settles, count_started]
  omega

theorem batchesFit_next (fits : run.BatchesFit) :
    (run.next ports batchSize job turn).BatchesFit := by
  cases place : run.outcome with
  | resolved => rwa [next_of_resolved place]
  | rejected failure => rwa [next_of_rejected place]
  | awaiting point =>
    rcases next_cases place with next | ⟨_, failure, _, next⟩ <;> rw [next]
    · exact batchesFit_goOn place fits _ _
    · exact batchesFit_goOn place fits _ _

theorem batchesFit_runFor (turns : Nat → Turn) (calls : Nat) :
    (runFor ports batchSize job turns calls).BatchesFit := by
  induction calls with
  | zero => rfl
  | succ calls inductionHypothesis => exact batchesFit_next inductionHypothesis

end

/-! ### The end of a run -/

/-- The call is one of the two before the `try`. -/
def Point.isEarly : Point → Bool
  | .findByImportId | .countLines _ => true
  | .updateBoth _ _ _ | .readLine _ | .renewLease _ _ | .getStatus _ _ | .scoreBatch _ _ _
  | .persistBatch _ _ _ => false

/-- The run can no longer throw anything but the interruption by a shutdown. -/
def Outcome.isLate : Outcome → Bool
  | .awaiting point => !point.isEarly
  | .resolved => true
  | .rejected failure => failure = .shutdownInterrupted

/-- The execution awaits no call any more. -/
def Outcome.hasEnded : Outcome → Bool
  | .awaiting _ => false
  | .resolved | .rejected _ => true

section

variable {ports : Ports} {batchSize : Nat} {job : ClaimedJob} {turn : Turn} {run : Run}
  {point : Point}

theorem next_of_hasEnded (ended : run.outcome.hasEnded = true) :
    run.next ports batchSize job turn = run := by
  cases place : run.outcome with
  | resolved => exact next_of_resolved place
  | rejected failure => exact next_of_rejected place
  | awaiting point =>
    rw [place] at ended
    cases ended

theorem runFor_of_hasEnded {turns : Nat → Turn} {calls : Nat}
    (ended : (runFor ports batchSize job turns calls).outcome.hasEnded = true) (later : Nat) :
    runFor ports batchSize job turns (calls + later) = runFor ports batchSize job turns calls := by
  induction later with
  | zero => rfl
  | succ later inductionHypothesis =>
    rw [Nat.add_succ, runFor, inductionHypothesis]
    exact next_of_hasEnded ended

theorem isLate_of_inLoop {now : Nat} {outcome : Outcome} (inLoop : outcome.InLoop now) :
    outcome.isLate = true := by
  cases outcome with
  | resolved | rejected => cases inLoop
  | awaiting point =>
    cases point with
    | findByImportId | countLines => cases inLoop
    | _ => rfl

theorem isLate_caught (now : Nat) (failure : Failure) : (caught now failure).isLate = true := by
  cases failure <;> rfl

theorem isLate_succeeded (batchSize : Nat) (db : Database) (now : Nat)
    (notFirst : point ≠ .findByImportId) :
    (succeeded ports batchSize db now job point).isLate = true := by
  cases point with
  | findByImportId => exact absurd rfl notFirst
  | countLines => rfl
  | updateBoth mark stage caller => cases stage <;> cases caller <;> rfl
  | readLine | renewLease | getStatus | scoreBatch | persistBatch =>
    exact isLate_of_inLoop (succeeded_inLoop batchSize db now rfl)

/-- Past the two early calls every failure reaches the `catch` block. -/
theorem failed_of_late (now : Nat) (failure : Failure) (late : point.isEarly = false)
    (noWrite : ∀ mark stage caller, point ≠ .updateBoth mark stage caller) :
    failed now failure point = caught now failure := by
  cases point with
  | findByImportId | countLines => cases late
  | updateBoth mark stage caller => exact absurd rfl (noWrite mark stage caller)
  | readLine | renewLease | getStatus | scoreBatch | persistBatch => rfl

theorem isLate_next (late : run.outcome.isLate = true) :
    (run.next ports batchSize job turn).outcome.isLate = true := by
  cases place : run.outcome with
  | resolved => rwa [next_of_resolved place]
  | rejected failure => rwa [next_of_rejected place]
  | awaiting point =>
    rw [place] at late
    have notEarly : point.isEarly = false := Bool.not_eq_true' _ ▸ late
    rcases next_cases place with next | ⟨noWrite, failure, _, next⟩ <;> rw [next]
    · refine isLate_succeeded batchSize turn.db turn.now fun same => ?_
      rw [same] at notEarly
      cases notEarly
    · rw [failed_of_late turn.now failure notEarly noWrite]
      exact isLate_caught turn.now failure

/-- If the outcome is a call, then from this call on at most `bound` calls are made. -/
def Outcome.EndsWithin (ports : Ports) (file : ImportFileLocation) (bound : Nat)
    (outcome : Outcome) : Prop :=
  ∀ point, outcome = .awaiting point →
    point ≠ .findByImportId ∧ point.callsLeft ports file ≤ bound

theorem endsWithin_of_isLate {file : ImportFileLocation} {bound : Nat} {outcome : Outcome}
    (late : outcome.isLate = true)
    (within : ∀ point, outcome = .awaiting point → point.callsLeft ports file ≤ bound) :
    outcome.EndsWithin ports file bound := by
  intro point awaits
  refine ⟨?_, within point awaits⟩
  rintro rfl
  rw [awaits] at late
  cases late

theorem endsWithin_succeeded (batchSize : Nat) (db : Database) (now : Nat)
    (file : ImportFileLocation) (notFirst : point ≠ .findByImportId) :
    (succeeded ports batchSize db now job point).EndsWithin ports file
      (point.callsLeft ports file - 1) := by
  refine endsWithin_of_isLate (isLate_succeeded batchSize db now notFirst) ?_
  intro later awaits
  by_cases quiet : point.isQuiet = true ∧ point.isLast = false
  · have goesOn : (succeeded ports batchSize db now job point).GoesOn ports file
        (point.callsLeft ports file - 1) :=
      succeeded_goesOn batchSize now (fun same => absurd same notFirst) quiet.1 quiet.2
    obtain ⟨next, nextIs, _, calls⟩ := goesOn
    rw [nextIs] at awaits
    obtain rfl := Outcome.awaiting.inj awaits
    exact calls
  · cases point with
    | updateBoth mark stage caller =>
      cases stage with
      | job =>
        cases caller with
        | fileFound | loopEnded => exact absurd ⟨rfl, rfl⟩ quiet
        | fileMissing | caught =>
          obtain rfl := Outcome.awaiting.inj awaits
          exact Nat.le_refl _
      | importRow =>
        cases caller with
        | fileFound => exact absurd ⟨rfl, rfl⟩ quiet
        | fileMissing | loopEnded | caught => cases awaits
    | _ => exact absurd ⟨rfl, rfl⟩ quiet

/-- The mark of the `catch` block takes two calls, and every call of the loop has more ahead. -/
theorem endsWithin_failed (now : Nat) (failure : Failure) (file : ImportFileLocation)
    (noWrite : ∀ mark stage caller, point ≠ .updateBoth mark stage caller) :
    (failed now failure point).EndsWithin ports file (point.callsLeft ports file - 1) := by
  intro later awaits
  have early : ∀ failure, Outcome.rejected failure ≠ .awaiting later := fun _ => Outcome.noConfusion
  have caughtLater : caught now failure = .awaiting later →
      later ≠ .findByImportId ∧ later.callsLeft ports file = 2 := by
    intro catches
    cases failure with
    | shutdownInterrupted => cases catches
    | error | unknown =>
      obtain rfl := Outcome.awaiting.inj catches
      exact ⟨Point.noConfusion, rfl⟩
  cases point with
  | findByImportId | countLines => exact absurd awaits (early failure)
  | updateBoth mark stage caller => exact absurd rfl (noWrite mark stage caller)
  | readLine | renewLease | getStatus =>
    obtain ⟨notFirst, two⟩ := caughtLater awaits
    refine ⟨notFirst, ?_⟩
    rw [two, Point.callsLeft]
    omega
  | scoreBatch locals batch last | persistBatch locals batch last =>
    obtain ⟨notFirst, two⟩ := caughtLater awaits
    refine ⟨notFirst, ?_⟩
    rw [two, Point.callsLeft]
    cases last <;> simp only [if_true, Bool.false_eq_true, if_false] <;> omega

/-- Each call brings the end nearer. -/
theorem endsWithin_next {file : ImportFileLocation} {bound : Nat}
    (within : run.outcome.EndsWithin ports file bound) :
    (run.next ports batchSize job turn).outcome.EndsWithin ports file (bound - 1) := by
  cases place : run.outcome with
  | resolved =>
    intro later awaits
    rw [next_of_resolved place, place] at awaits
    cases awaits
  | rejected failure =>
    intro later awaits
    rw [next_of_rejected place, place] at awaits
    cases awaits
  | awaiting point =>
    obtain ⟨notFirst, bounded⟩ := within point place
    have nearer : point.callsLeft ports file - 1 ≤ bound - 1 := Nat.sub_le_sub_right bounded 1
    intro later awaits
    rcases next_cases place with next | ⟨noWrite, failure, _, next⟩ <;> rw [next] at awaits
    · obtain ⟨laterNotFirst, calls⟩ := endsWithin_succeeded batchSize turn.db turn.now file
        notFirst later awaits
      exact ⟨laterNotFirst, Nat.le_trans calls nearer⟩
    · obtain ⟨laterNotFirst, calls⟩ := endsWithin_failed turn.now failure file noWrite later awaits
      exact ⟨laterNotFirst, Nat.le_trans calls nearer⟩

/-- A run whose calls are bounded ends. -/
theorem ends_of_endsWithin {turns : Nat → Turn} {file : ImportFileLocation} {bound calls : Nat}
    (within : (runFor ports batchSize job turns calls).outcome.EndsWithin ports file bound) :
    (runFor ports batchSize job turns (calls + bound)).outcome.hasEnded = true := by
  induction bound generalizing calls with
  | zero =>
    cases place : (runFor ports batchSize job turns calls).outcome with
    | awaiting point =>
      exact absurd (within point place).2 (Nat.not_le_of_gt point.callsLeft_pos)
    | resolved | rejected => rfl
  | succ bound inductionHypothesis =>
    have nearer : (runFor ports batchSize job turns (calls + 1)).outcome.EndsWithin ports file
        bound := endsWithin_next within
    rw [Nat.add_comm bound, ← Nat.add_assoc]
    exact inductionHypothesis nearer

end

/-! ### The early calls -/

section

variable {ports : Ports} {batchSize : Nat} {job : ClaimedJob} {turns : Nat → Turn}

/-- The run throws something else than the interruption by a shutdown. -/
def Run.Escapes (run : Run) : Prop :=
  ∃ failure, run.outcome = .rejected failure ∧ failure ≠ .shutdownInterrupted

/-- The run after a first call that fails. -/
theorem starts_of_fail {failure : Failure} (fails : (turns 0).failure = some failure) :
    (runFor ports batchSize job turns 2).outcome = .rejected failure := by
  have first : (runFor ports batchSize job turns 1).outcome = .rejected failure := by
    rw [runFor, runFor, next_of_fail rfl (fun _ _ _ => Point.noConfusion) fails]
    rfl
  rw [runFor, next_of_rejected first, first]

/-- The run after a first call that finds no file. -/
theorem starts_of_missing (works : (turns 0).failure = none)
    (missing : ImportFileRepository.findByImportId job.importId (turns 0).db = none) :
    (runFor ports batchSize job turns 1).outcome.isLate = true := by
  rw [runFor, runFor, next_of_ok rfl works]
  simp only [Run.goOn, succeeded, missing]
  rfl

theorem starts_of_found {file : ImportFileLocation} (works : (turns 0).failure = none)
    (found : ImportFileRepository.findByImportId job.importId (turns 0).db = some file) :
    (runFor ports batchSize job turns 1).outcome = .awaiting (.countLines file) := by
  rw [runFor, runFor, next_of_ok rfl works]
  simp only [Run.goOn, succeeded, found]

/-- The run is late after two calls, or it has thrown something else than the interruption. -/
theorem starts_cases (ports : Ports) (batchSize : Nat) (job : ClaimedJob) (turns : Nat → Turn) :
    StartsSafely job turns ∧ (runFor ports batchSize job turns 2).outcome.isLate = true ∨
      ¬StartsSafely job turns ∧ (runFor ports batchSize job turns 2).Escapes := by
  cases first : (turns 0).failure with
  | some failure =>
    have throws : (runFor ports batchSize job turns 2).outcome = .rejected failure :=
      starts_of_fail first
    by_cases interrupts : failure = .shutdownInterrupted
    · refine Or.inl ⟨⟨?_, ?_⟩, ?_⟩
      · intro other same
        exact (Option.some.inj (first.symm.trans same)).symm.trans interrupts
      · intro works
        cases first.symm.trans works
      · rw [throws, interrupts]
        rfl
    · exact Or.inr ⟨fun safe => interrupts (safe.findByImportId failure first), failure, throws,
        interrupts⟩
  | none =>
    have firstSafe : ∀ failure, (turns 0).failure = some failure →
        failure = .shutdownInterrupted := by
      intro failure fails
      cases first.symm.trans fails
    cases found : ImportFileRepository.findByImportId job.importId (turns 0).db with
    | none =>
      refine Or.inl ⟨⟨firstSafe, fun _ isFound => ?_⟩, isLate_next (starts_of_missing first found)⟩
      rw [found] at isFound
      cases isFound
    | some file =>
      have counts : (runFor ports batchSize job turns 1).outcome = .awaiting (.countLines file) :=
        starts_of_found first found
      cases second : (turns 1).failure with
      | none =>
        refine Or.inl ⟨⟨firstSafe, fun _ _ failure fails => ?_⟩, ?_⟩
        · cases second.symm.trans fails
        · rw [runFor, next_of_ok counts second]
          rfl
      | some failure =>
        have throws : (runFor ports batchSize job turns 2).outcome = .rejected failure := by
          rw [runFor, next_of_fail counts (fun _ _ _ => Point.noConfusion) second]
          rfl
        by_cases interrupts : failure = .shutdownInterrupted
        · refine Or.inl ⟨⟨firstSafe, fun _ _ other same => ?_⟩, ?_⟩
          · exact (Option.some.inj (second.symm.trans same)).symm.trans interrupts
          · rw [throws, interrupts]
            rfl
        · refine Or.inr ⟨fun safe => interrupts (safe.countLines first ?_ failure second), failure,
            throws, interrupts⟩
          rw [found]
          rfl

theorem isLate_runFor {calls : Nat}
    (late : (runFor ports batchSize job turns calls).outcome.isLate = true) (later : Nat) :
    (runFor ports batchSize job turns (calls + later)).outcome.isLate = true := by
  induction later with
  | zero => exact late
  | succ later inductionHypothesis => exact isLate_next inductionHypothesis

theorem Run.Escapes.hasEnded {run : Run} (escapes : run.Escapes) :
    run.outcome.hasEnded = true := by
  obtain ⟨failure, throws, _⟩ := escapes
  rw [throws]
  rfl

theorem Run.Escapes.not_closed {run : Run} (escapes : run.Escapes) : ¬run.Closed := by
  obtain ⟨failure, throws, notInterrupted⟩ := escapes
  intro closed
  rcases closed.ends with resolves | interrupted
  · cases throws.symm.trans resolves.resolved
  · exact notInterrupted (Outcome.rejected.inj (throws.symm.trans interrupted.rejected))

theorem exists_endsWithin {outcome : Outcome} (late : outcome.isLate = true) :
    ∃ bound, outcome.EndsWithin ports ⟨[], none⟩ bound := by
  cases place : outcome with
  | resolved | rejected => exact ⟨0, fun _ => Outcome.noConfusion⟩
  | awaiting point =>
    rw [place] at late
    refine ⟨point.callsLeft ports ⟨[], none⟩, endsWithin_of_isLate late fun later awaits => ?_⟩
    rw [Outcome.awaiting.inj awaits]

/-- A run that has ended without escaping is closed. -/
theorem closed_of_isLate {calls : Nat}
    (late : (runFor ports batchSize job turns calls).outcome.isLate = true)
    (ended : (runFor ports batchSize job turns calls).outcome.hasEnded = true) :
    (runFor ports batchSize job turns calls).Closed := by
  have fits : (runFor ports batchSize job turns calls).outcome.Fits
      (runFor ports batchSize job turns calls).marks
      (runFor ports batchSize job turns calls).failures := fits_runFor turns calls
  have batchesFit : (runFor ports batchSize job turns calls).BatchesFit :=
    batchesFit_runFor turns calls
  cases place : (runFor ports batchSize job turns calls).outcome with
  | awaiting point =>
    rw [place] at ended
    cases ended
  | resolved =>
    rw [place] at fits
    rw [Run.BatchesFit, place] at batchesFit
    exact ⟨Or.inl ⟨place, fits⟩, Nat.sub_eq_zero_of_le (Nat.le_of_eq batchesFit)⟩
  | rejected failure =>
    rw [place] at fits late
    rw [Run.BatchesFit, place] at batchesFit
    have interrupts : failure = .shutdownInterrupted := of_decide_eq_true late
    rw [interrupts] at place
    exact ⟨Or.inr ⟨place, fits⟩, Nat.sub_eq_zero_of_le (Nat.le_of_eq batchesFit)⟩

end

/-- Whatever its calls come to, a run ends, and it stays as it ends. It is closed just when the
calls before the `try` do not fail with anything but the interruption by a shutdown. -/
theorem closed_iff (ports : Ports) (batchSize : Nat) (job : ClaimedJob) (turns : Nat → Turn) :
    ∃ calls,
      (∀ later, runFor ports batchSize job turns (calls + later) =
        runFor ports batchSize job turns calls) ∧
      (runFor ports batchSize job turns calls).outcome.hasEnded = true ∧
      ((runFor ports batchSize job turns calls).Closed ↔ StartsSafely job turns) := by
  rcases starts_cases ports batchSize job turns with ⟨safe, late⟩ | ⟨notSafe, escapes⟩
  · obtain ⟨bound, within⟩ : ∃ bound, (runFor ports batchSize job turns 2).outcome.EndsWithin ports
        ⟨[], none⟩ bound := exists_endsWithin late
    have ended : (runFor ports batchSize job turns (2 + bound)).outcome.hasEnded = true :=
      ends_of_endsWithin within
    have closed : (runFor ports batchSize job turns (2 + bound)).Closed :=
      closed_of_isLate (isLate_runFor late bound) ended
    exact ⟨2 + bound, runFor_of_hasEnded ended, ended, fun _ => safe, fun _ => closed⟩
  · exact ⟨2, runFor_of_hasEnded escapes.hasEnded, escapes.hasEnded,
      fun closed => absurd closed escapes.not_closed, fun safe => absurd safe notSafe⟩

theorem Run.Closed.hasEnded {run : Run} (closed : run.Closed) : run.outcome.hasEnded = true := by
  rcases closed.ends with resolves | interrupted
  · rw [resolves.resolved]
    rfl
  · rw [interrupted.rejected]
    rfl

/-- The job of an upload. -/
def uploaded : ClaimedJob where
  id := 1
  importId := 1
  status := .CLAIMED
  attemptCount := 1
  workerId := 1

/-- The file was found, and it cannot be read. -/
def unreadable (call : Nat) : Turn where
  db := System.uploaded
  now := 0
  failure := if call = 0 then none else some (.error [])

/-- `countLines` fails: `execute` throws, and the import is never marked. The same failure of
`readLine` would have marked it `FAILED`. -/
theorem unreadable_file_not_closed :
    (runFor System.emptyFilePorts 1 uploaded unreadable 2).outcome = .rejected (.error []) ∧
      (runFor System.emptyFilePorts 1 uploaded unreadable 2).marks = [] ∧
      ∀ calls, ¬(runFor System.emptyFilePorts 1 uploaded unreadable calls).Closed := by
  have escapes : (runFor System.emptyFilePorts 1 uploaded unreadable 2).Escapes :=
    ⟨.error [], by decide, by decide⟩
  refine ⟨by decide, by decide, fun calls closed => ?_⟩
  match calls with
  | 0 => exact absurd closed.hasEnded (by decide)
  | 1 => exact absurd closed.hasEnded (by decide)
  | later + 2 =>
    rw [Nat.add_comm, runFor_of_hasEnded escapes.hasEnded] at closed
    exact escapes.not_closed closed

end ProcessImportFile

end ImportService
