/-
This file models `execute` with its `persistLimiter`. A call of `run` is in one of four places:
in `acquire`, before its function, in its function, or over; the callers that wait for a permit
get one in the order in which they came. Everything that happens to a call is an event of its
own, so several batches could be persisted at a time and lines could be read meanwhile. What
keeps them apart is only that the loop waits at `await flush()`.

So the loop is the one party that hands batches to the limiter, and it does so again only when
the last one is over (`Ready`): the limiter has all its permits at every threshold test, and the
test never finds it busy.
-/

import ImportService.Semaphore
import ImportService.System

namespace ImportService

open ProcessImportFile

namespace Backpressure

/-! ### Execution -/

/-- Where a call of `run` is. A call that is over has its promise settled, with what its function
threw if it did. -/
inductive Progress
  | acquiring
  | granted
  | persisting
  | settled (failure : Option Failure)
  deriving DecidableEq

/-- A call of `run` with the batch it persists. -/
structure PersistPromise where
  input : PersistBatchInput
  progress : Progress
  deriving DecidableEq

/-- What `execute` waits for: a call, the promise of the batch it has handed over, all promises
after the loop, or all of them in the `catch` block. -/
inductive Position
  | call (point : Point)
  | persist (locals : Locals) (run : Nat) (last : Bool)
  | persists (locals : Locals)
  | settling (failure : Failure)
  | resolved
  | rejected (failure : Failure)
  deriving DecidableEq

/-- What a threshold test finds. -/
structure ThresholdTest where
  pending : Nat
  inFlight : Nat
  queueDepth : Nat
  deriving DecidableEq

/-- `backpressureWaits` is the counter `backpressure_waits_total`, and `tests` are the threshold
tests so far. -/
structure Execution where
  position : Position
  persistLimiter : Semaphore
  inFlightPersists : List PersistPromise
  backpressureWaits : Nat
  tests : List ThresholdTest
  deriving DecidableEq

/-- Before the loop there is no limiter yet; the field has the one that will be made. -/
def initial (maxConcurrentPersists : Nat) : Execution where
  position := .call .findByImportId
  persistLimiter := Semaphore.new maxConcurrentPersists
  inFlightPersists := []
  backpressureWaits := 0
  tests := []

/-- The execution at another place. -/
def Execution.goTo (position : Position) (execution : Execution) : Execution :=
  { execution with position }

/-- The place an outcome leads to. -/
def Position.ofOutcome : Outcome → Position
  | .awaiting point => .call point
  | .resolved => .resolved
  | .rejected failure => .rejected failure

/-- The call of `persistLimiter.run`, and the wait for its promise. -/
def persist (job : ClaimedJob) (locals : Locals) (batch : Batch) (scored : List ScoringOutput)
    (last : Bool) (execution : Execution) : Execution :=
  let run := execution.inFlightPersists.length
  let (persistLimiter, goesOn) := execution.persistLimiter.acquire run
  { execution with
    position := .persist locals run last
    persistLimiter
    inFlightPersists := execution.inFlightPersists ++
      [{ input := persistInput job batch scored,
         progress := if goesOn then .granted else .acquiring }] }

/-- After the flush in the loop and the one behind it. -/
def afterFlush (locals : Locals) (last : Bool) (execution : Execution) : Execution :=
  execution.goTo (if last then .persists locals else .call (.readLine locals))

/-- `flush`: the batch is scored first unless it has only rejections. -/
def flush (job : ClaimedJob) (locals : Locals) (last : Bool) (execution : Execution) :
    Execution :=
  if locals.pending.isEmpty then afterFlush locals last execution
  else
    let batch := locals.pending
    let locals := { locals with pending := Batch.empty }
    if batch.pendingScoring.isEmpty then persist job locals batch [] last execution
    else execution.goTo (.call (.scoreBatch locals batch last))

/-- The test of the limiter when a batch is full. -/
def testThreshold (maxConcurrentPersists : Nat) (locals : Locals) (execution : Execution) :
    Execution :=
  let limiter := execution.persistLimiter
  { execution with
    backpressureWaits :=
      if 0 < limiter.queueDepth ∨ maxConcurrentPersists ≤ limiter.inFlight then
        execution.backpressureWaits + 1
      else execution.backpressureWaits
    tests := execution.tests ++
      [{ pending := locals.pending.size, inFlight := limiter.inFlight,
         queueDepth := limiter.queueDepth }] }

section

variable (ports : Ports) (batchSize maxConcurrentPersists : Nat) (job : ClaimedJob)

/-- The line goes into the batch, which is flushed when it is full. Only then the threshold is
tested. -/
def accumulate (locals : Locals) (rawLine : JsString) (execution : Execution) : Execution :=
  match handleLine ports locals.fallbackProvider rawLine locals.lineNumber with
  | .blank => execution.goTo (.call (.readLine locals))
  | outcome =>
      let locals := { locals with pending := locals.pending.add outcome }
      if batchSize ≤ locals.pending.size then
        flush job locals false (testThreshold maxConcurrentPersists locals execution)
      else execution.goTo (.call (.readLine locals))

/-- Every 500 lines the status of the job is read. -/
def checkCancellation (locals : Locals) (rawLine : JsString) (execution : Execution) :
    Execution :=
  if locals.lineNumber % CANCELLATION_CHECK_INTERVAL = 0 then
    execution.goTo (.call (.getStatus locals rawLine))
  else accumulate ports batchSize maxConcurrentPersists job locals rawLine execution

/-- The lease is renewed when the last time was long enough ago. -/
def heartbeat (now : Nat) (locals : Locals) (rawLine : JsString) (execution : Execution) :
    Execution :=
  if locals.lastHeartbeat + HEARTBEAT_INTERVAL_MS < now then
    execution.goTo (.call (.renewLease locals rawLine))
  else checkCancellation ports batchSize maxConcurrentPersists job locals rawLine execution

/-- The code after `markProcessing`, up to the loop. -/
def startLoop (now : Nat) (file : ImportFileLocation) (execution : Execution) : Execution :=
  if maxConcurrentPersists < 1 then
    execution.goTo
      (.rejected (.error (JsString.ofString "Semaphore limit must be at least 1.")))
  else
    { execution with
      position := .call (.readLine (initialLocals ports file now))
      persistLimiter := Semaphore.new maxConcurrentPersists }

/-- The code after a call that succeeds. `persistBatch` is called by the limiter. -/
def succeeded (db : Database) (now : Nat) (execution : Execution) : Point → Option Execution
  | .updateBoth _ .importRow (.fileFound file) =>
      some (startLoop ports maxConcurrentPersists now file execution)
  | .readLine locals =>
      match locals.rest with
      | [] => some (flush job locals true execution)
      | rawLine :: rest =>
          let locals := { locals with rest, lineNumber := locals.lineNumber + 1 }
          some (heartbeat ports batchSize maxConcurrentPersists job now locals rawLine execution)
  | .renewLease locals rawLine =>
      some (checkCancellation ports batchSize maxConcurrentPersists job
        { locals with lastHeartbeat := now } rawLine execution)
  | .getStatus locals rawLine =>
      if JobRepository.getStatus job.id db = some .CANCELLING then
        some (flush job { locals with wasCancelled := true } true execution)
      else
        some (accumulate ports batchSize maxConcurrentPersists job locals rawLine execution)
  | .scoreBatch locals batch last =>
      some (persist job locals batch (ports.scoreBatch batch.pendingScoring) last execution)
  | .persistBatch _ _ _ => none
  | point =>
      some (execution.goTo (.ofOutcome
        (ProcessImportFile.succeeded ports batchSize db now job point)))

/-- The code after a call that fails: an error in the `try` block is caught. -/
def failed (now : Nat) (failure : Failure) (execution : Execution) : Point → Execution
  | .updateBoth _ _ .loopEnded | .readLine _ | .renewLease _ _ | .getStatus _ _
  | .scoreBatch _ _ _ | .persistBatch _ _ _ => execution.goTo (.settling failure)
  | point => execution.goTo (.ofOutcome (ProcessImportFile.failed now failure point))

end

/-- The promise of a run gets on. -/
def setProgress (run : Nat) (progress : Progress) (promises : List PersistPromise) :
    List PersistPromise :=
  promises.modify run fun promise => { promise with progress }

/-- The end of a call of `run`: its permit is released, and its promise settled. -/
def finish (run : Nat) (failure : Option Failure) (execution : Execution) : Execution :=
  let (persistLimiter, next) := execution.persistLimiter.release
  let promises := setProgress run (.settled failure) execution.inFlightPersists
  { execution with
    persistLimiter
    inFlightPersists :=
      match next with
      | none => promises
      | some next => setProgress next .granted promises }

/-- The promise is fulfilled or rejected. -/
def PersistPromise.isSettled (promise : PersistPromise) : Bool :=
  match promise.progress with
  | .settled _ => true
  | .acquiring | .granted | .persisting => false

/-- What the promise was rejected with. -/
def PersistPromise.failure? (promise : PersistPromise) : Option Failure :=
  match promise.progress with
  | .settled failure => failure
  | .acquiring | .granted | .persisting => none

/-- The code behind an `await` of promises of the limiter, once they have settled. -/
def goOn (now : Nat) (execution : Execution) : Option Execution :=
  match execution.position with
  | .persist locals run last =>
      match execution.inFlightPersists[run]? with
      | none => none
      | some promise =>
          match promise.progress with
          | .settled none => some (afterFlush locals last execution)
          | .settled (some failure) => some (execution.goTo (.settling failure))
          | .acquiring | .granted | .persisting => none
  | .persists locals =>
      match execution.inFlightPersists.findSome? PersistPromise.failure? with
      | some failure => some (execution.goTo (.settling failure))
      | none =>
          if execution.inFlightPersists.all PersistPromise.isSettled then
            some (execution.goTo (.ofOutcome (ProcessImportFile.afterFlush now locals true)))
          else none
  | .settling failure =>
      if execution.inFlightPersists.all PersistPromise.isSettled then
        some (execution.goTo (.ofOutcome (caught now failure)))
      else none
  | .call _ | .resolved | .rejected _ => none

/-- `answer` is the end of a call of the execution, `persisted` that of a `persistBatch` of the
limiter, and `retry` one that the retry policy makes again. -/
inductive Event
  | answer (now : Nat) (db : Database) (reply : Reply)
  | begin (run : Nat)
  | persisted (run : Nat) (reply : Reply)
  | goOn (now : Nat)

/-- A call is answered, or the limiter or the database gets on with a run. -/
def step (ports : Ports) (batchSize maxConcurrentPersists : Nat) (job : ClaimedJob)
    (execution : Execution) : Event → Option Execution
  | .answer now db reply =>
      match execution.position, reply with
      | .call point, .ok =>
          succeeded ports batchSize maxConcurrentPersists job db now execution point
      | .call point, .fail _ failure => some (failed now failure execution point)
      | _, _ => none
  | .begin run =>
      match execution.inFlightPersists[run]? with
      | some ⟨_, .granted⟩ =>
          some { execution with
            inFlightPersists := setProgress run .persisting execution.inFlightPersists }
      | _ => none
  | .persisted run reply =>
      match execution.inFlightPersists[run]?, reply with
      | some ⟨_, .persisting⟩, .ok => some (finish run none execution)
      | some ⟨_, .persisting⟩, .fail _ failure => some (finish run (some failure) execution)
      | some ⟨_, .persisting⟩, .retry _ => some execution
      | _, _ => none
  | .goOn now => goOn now execution

/-! ### What is asked -/

/-- The accumulators of the loop. -/
def Position.pending : Position → Batch
  | .call (.readLine locals) | .call (.renewLease locals _) | .call (.getStatus locals _)
  | .call (.scoreBatch locals _ _) | .persist locals _ _ | .persists locals => locals.pending
  | _ => Batch.empty

/-- The execution waits for a line, or handles one. -/
def Position.isReading : Position → Bool
  | .call (.readLine _) | .call (.renewLease _ _) | .call (.getStatus _ _) => true
  | _ => false

/-- The execution waits for the scores of a batch. -/
def Position.isScoring : Position → Bool
  | .call (.scoreBatch _ _ _) => true
  | _ => false

/-- The number of batches that are being scored or persisted, or wait for it. -/
def Execution.active (execution : Execution) : Nat :=
  (if execution.position.isScoring then 1 else 0) +
    execution.inFlightPersists.countP fun promise => !promise.isSettled

/-- What one batch in flight means for the limiter: the threshold is never reached. -/
structure Bounded (batchSize : Nat) (execution : Execution) : Prop where
  pending : execution.position.pending.size ≤ batchSize
  oneBatch : execution.active ≤ 1
  pauses : execution.position.isReading = true → execution.active = 0
  tests : ∀ test ∈ execution.tests,
    test.pending ≤ batchSize ∧ test.inFlight = 0 ∧ test.queueDepth = 0
  backpressure : execution.backpressureWaits = 0

/-! ### The invariant -/

/-- The accumulators leave room for a line while the loop reads, and are empty from the flush of
a batch until the loop goes on. -/
def Within (batchSize : Nat) : Position → Prop
  | .call (.readLine locals) | .call (.renewLease locals _) | .call (.getStatus locals _) =>
      locals.pending.size < batchSize
  | .call (.scoreBatch locals _ _) | .persist locals _ _ | .persists locals =>
      locals.pending.size = 0
  | _ => True

/-- The limiter has all its permits, and everything handed to it is over. -/
structure Ready (maxConcurrentPersists : Nat) (execution : Execution) : Prop where
  limiter : execution.persistLimiter = Semaphore.new maxConcurrentPersists
  settled : ∀ promise ∈ execution.inFlightPersists, promise.isSettled = true

/-- The limiter with the permit of the last batch taken. -/
def taken (maxConcurrentPersists : Nat) : Semaphore where
  limit := maxConcurrentPersists
  available := maxConcurrentPersists - 1
  waiters := []

/-- The last batch handed to the limiter has a permit until it is over, and all others are
over. -/
structure Running (maxConcurrentPersists run : Nat) (execution : Execution)
    (earlier : List PersistPromise) (promise : PersistPromise) : Prop where
  promises : execution.inFlightPersists = earlier ++ [promise]
  isLast : earlier.length = run
  settled : ∀ promise ∈ earlier, promise.isSettled = true
  granted : promise.progress ≠ .acquiring
  limiter : execution.persistLimiter =
    if promise.isSettled then Semaphore.new maxConcurrentPersists else taken maxConcurrentPersists

/-- What the execution waits for at the limiter, by its place. -/
def LimiterWaits (maxConcurrentPersists : Nat) (execution : Execution) : Prop :=
  match execution.position with
  | .persist _ run _ => ∃ earlier promise,
      Running maxConcurrentPersists run execution earlier promise
  | _ => Ready maxConcurrentPersists execution

/-- No threshold test so far has found the limiter busy. -/
structure NeverBusy (batchSize : Nat) (execution : Execution) : Prop where
  tests : ∀ test ∈ execution.tests,
    test.pending ≤ batchSize ∧ test.inFlight = 0 ∧ test.queueDepth = 0
  backpressure : execution.backpressureWaits = 0

/-- What is kept from one step to the next. -/
structure Good (batchSize maxConcurrentPersists : Nat) (execution : Execution) : Prop where
  within : Within batchSize execution.position
  waits : LimiterWaits maxConcurrentPersists execution
  neverBusy : NeverBusy batchSize execution

theorem setProgress_last (earlier : List PersistPromise) (promise : PersistPromise)
    (progress : Progress) :
    setProgress earlier.length progress (earlier ++ [promise]) =
      earlier ++ [{ promise with progress }] := by
  induction earlier with
  | nil => rfl
  | cons first rest inductionHypothesis =>
    rw [setProgress] at inductionHypothesis ⊢
    rw [List.length_cons, List.cons_append, List.modify_succ_cons, inductionHypothesis,
      List.cons_append]

section

variable {ports : Ports} {batchSize maxConcurrentPersists : Nat} {job : ClaimedJob}
  {execution next : Execution}

theorem size_eq_zero_of_isEmpty {batch : Batch} (isEmpty : batch.isEmpty = true) :
    batch.size = 0 := by
  simp only [Batch.isEmpty, Bool.and_eq_true, List.isEmpty_iff] at isEmpty
  simp only [Batch.size, isEmpty, List.length_nil, Nat.add_zero]

theorem size_add_le (batch : Batch) (outcome : LineOutcome) :
    (batch.add outcome).size ≤ batch.size + 1 := by
  cases outcome <;>
    simp only [Batch.add, Batch.size, List.length_append, List.length_singleton] <;> omega

/-! ### From one call to the next -/

section

variable (ready : Ready maxConcurrentPersists execution)
  (neverBusy : NeverBusy batchSize execution)
include ready neverBusy

theorem good_goTo {position : Position} (within : Within batchSize position)
    (elsewhere : ∀ locals run last, position ≠ .persist locals run last) :
    Good batchSize maxConcurrentPersists (execution.goTo position) := by
  refine ⟨within, ?_, neverBusy.tests, neverBusy.backpressure⟩
  rw [LimiterWaits]
  split
  · rename_i locals run last persists
    exact absurd persists (elsewhere locals run last)
  · exact ⟨ready.limiter, ready.settled⟩

/-- The batch gets a permit at once. -/
theorem good_persist (somePermit : 0 < maxConcurrentPersists) {locals : Locals}
    (taken : locals.pending.size = 0) (batch : Batch) (scored : List ScoringOutput)
    (last : Bool) :
    Good batchSize maxConcurrentPersists (persist job locals batch scored last execution) := by
  have acquires : execution.persistLimiter.acquire execution.inFlightPersists.length =
      (Backpressure.taken maxConcurrentPersists, true) := by
    rw [ready.limiter]
    exact if_pos somePermit
  refine ⟨taken, ⟨execution.inFlightPersists, ⟨persistInput job batch scored, .granted⟩, ?_⟩,
    neverBusy.tests, neverBusy.backpressure⟩
  rw [persist, acquires]
  exact ⟨rfl, rfl, ready.settled, Progress.noConfusion, rfl⟩

theorem good_afterFlush (someBatch : 0 < batchSize) {locals : Locals}
    (taken : locals.pending.size = 0) (last : Bool) :
    Good batchSize maxConcurrentPersists (afterFlush locals last execution) := by
  cases last with
  | true => exact good_goTo ready neverBusy taken fun _ _ _ => Position.noConfusion
  | false =>
    refine good_goTo ready neverBusy ?_ fun _ _ _ => Position.noConfusion
    show locals.pending.size < batchSize
    rw [taken]
    exact someBatch

theorem good_flush (someBatch : 0 < batchSize) (somePermit : 0 < maxConcurrentPersists)
    (locals : Locals) (last : Bool) :
    Good batchSize maxConcurrentPersists (flush job locals last execution) := by
  rw [flush]
  split
  · rename_i isEmpty
    exact good_afterFlush ready neverBusy someBatch (size_eq_zero_of_isEmpty isEmpty) last
  · simp only
    split
    · exact good_persist ready neverBusy somePermit rfl _ _ _
    · exact good_goTo ready neverBusy rfl fun _ _ _ => Position.noConfusion

/-- A threshold test finds the limiter with all its permits. -/
theorem neverBusy_testThreshold (somePermit : 0 < maxConcurrentPersists) {locals : Locals}
    (within : locals.pending.size ≤ batchSize) :
    NeverBusy batchSize (testThreshold maxConcurrentPersists locals execution) := by
  have noneInFlight : execution.persistLimiter.inFlight = 0 := by
    rw [ready.limiter]
    exact Nat.sub_self _
  have noneWaits : execution.persistLimiter.queueDepth = 0 := by
    rw [ready.limiter]
    rfl
  constructor
  · intro test tested
    rcases List.mem_append.mp tested with before | isNew
    · exact neverBusy.tests test before
    · rw [List.mem_singleton.mp isNew]
      exact ⟨within, noneInFlight, noneWaits⟩
  · simp only [testThreshold, noneInFlight, noneWaits]
    rw [if_neg (by omega)]
    exact neverBusy.backpressure

theorem good_accumulate (someBatch : 0 < batchSize) (somePermit : 0 < maxConcurrentPersists)
    {locals : Locals} (within : locals.pending.size < batchSize) (rawLine : JsString) :
    Good batchSize maxConcurrentPersists
      (accumulate ports batchSize maxConcurrentPersists job locals rawLine execution) := by
  rw [accumulate]
  generalize handleLine ports locals.fallbackProvider rawLine locals.lineNumber = outcome
  split
  · exact good_goTo ready neverBusy within fun _ _ _ => Position.noConfusion
  · have added := size_add_le locals.pending outcome
    simp only
    split
    · have fits : (locals.pending.add outcome).size ≤ batchSize := by omega
      have tested : NeverBusy batchSize (testThreshold maxConcurrentPersists
          { locals with pending := locals.pending.add outcome } execution) :=
        neverBusy_testThreshold ready neverBusy somePermit fits
      have stillReady : Ready maxConcurrentPersists (testThreshold maxConcurrentPersists
          { locals with pending := locals.pending.add outcome } execution) :=
        ⟨ready.limiter, ready.settled⟩
      exact good_flush stillReady tested someBatch somePermit _ _
    · rename_i notFull
      exact good_goTo ready neverBusy (Nat.lt_of_not_le notFull)
        fun _ _ _ => Position.noConfusion

theorem good_checkCancellation (someBatch : 0 < batchSize)
    (somePermit : 0 < maxConcurrentPersists) {locals : Locals}
    (within : locals.pending.size < batchSize) (rawLine : JsString) :
    Good batchSize maxConcurrentPersists
      (checkCancellation ports batchSize maxConcurrentPersists job locals rawLine execution) := by
  rw [checkCancellation]
  split
  · exact good_goTo ready neverBusy within fun _ _ _ => Position.noConfusion
  · exact good_accumulate ready neverBusy someBatch somePermit within rawLine

theorem good_heartbeat (someBatch : 0 < batchSize) (somePermit : 0 < maxConcurrentPersists)
    {locals : Locals} (within : locals.pending.size < batchSize) (now : Nat)
    (rawLine : JsString) :
    Good batchSize maxConcurrentPersists
      (heartbeat ports batchSize maxConcurrentPersists job now locals rawLine execution) := by
  rw [heartbeat]
  split
  · exact good_goTo ready neverBusy within fun _ _ _ => Position.noConfusion
  · exact good_checkCancellation ready neverBusy someBatch somePermit within rawLine

end

theorem within_ofOutcome_caught (now : Nat) (failure : Failure) :
    Within batchSize (.ofOutcome (caught now failure)) := by
  cases failure <;> trivial

theorem within_ofOutcome_failed (now : Nat) (failure : Failure) (point : Point) :
    Within batchSize (.ofOutcome (ProcessImportFile.failed now failure point)) := by
  unfold ProcessImportFile.failed
  split
  all_goals first
    | trivial
    | exact within_ofOutcome_caught now failure

theorem ofOutcome_ne_persist (outcome : Outcome) (locals : Locals) (run : Nat) (last : Bool) :
    Position.ofOutcome outcome ≠ .persist locals run last := by
  cases outcome <;> exact Position.noConfusion

theorem Good.ready_of_call (good : Good batchSize maxConcurrentPersists execution)
    {point : Point} (isCall : execution.position = .call point) :
    Ready maxConcurrentPersists execution := by
  have waits := good.waits
  rw [LimiterWaits, isCall] at waits
  exact waits

theorem good_succeeded (someBatch : 0 < batchSize) (somePermit : 0 < maxConcurrentPersists)
    (good : Good batchSize maxConcurrentPersists execution) {point : Point}
    (isCall : execution.position = .call point) {db : Database} {now : Nat}
    (succeeds : succeeded ports batchSize maxConcurrentPersists job db now execution point =
      some next) : Good batchSize maxConcurrentPersists next := by
  have ready := good.ready_of_call isCall
  have neverBusy := good.neverBusy
  have within := good.within
  rw [isCall] at within
  cases point with
  | findByImportId =>
    cases succeeds
    simp only [ProcessImportFile.succeeded]
    split
    · exact good_goTo ready neverBusy trivial fun _ _ _ => Position.noConfusion
    · exact good_goTo ready neverBusy trivial fun _ _ _ => Position.noConfusion
  | countLines file =>
    cases succeeds
    exact good_goTo ready neverBusy trivial fun _ _ _ => Position.noConfusion
  | updateBoth mark stage caller =>
    cases stage with
    | job =>
      cases succeeds
      exact good_goTo ready neverBusy trivial fun _ _ _ => Position.noConfusion
    | importRow =>
      cases caller with
      | fileFound file =>
        cases succeeds
        rw [startLoop]
        split
        · exact good_goTo ready neverBusy trivial fun _ _ _ => Position.noConfusion
        · exact ⟨someBatch, ⟨rfl, ready.settled⟩, neverBusy.tests, neverBusy.backpressure⟩
      | fileMissing | loopEnded | caught =>
        cases succeeds
        exact good_goTo ready neverBusy trivial fun _ _ _ => Position.noConfusion
  | readLine locals =>
    rw [succeeded] at succeeds
    split at succeeds
    · cases succeeds
      exact good_flush ready neverBusy someBatch somePermit locals true
    · cases succeeds
      refine good_heartbeat ready neverBusy someBatch somePermit ?_ now _
      exact within
  | renewLease locals rawLine =>
    cases succeeds
    refine good_checkCancellation ready neverBusy someBatch somePermit ?_ rawLine
    exact within
  | getStatus locals rawLine =>
    rw [succeeded] at succeeds
    split at succeeds
    · cases succeeds
      exact good_flush ready neverBusy someBatch somePermit _ true
    · cases succeeds
      exact good_accumulate ready neverBusy someBatch somePermit within rawLine
  | scoreBatch locals batch last =>
    cases succeeds
    exact good_persist ready neverBusy somePermit within batch _ last
  | persistBatch locals input last => cases succeeds

theorem good_failed (good : Good batchSize maxConcurrentPersists execution) {point : Point}
    (isCall : execution.position = .call point) (now : Nat) (failure : Failure) :
    Good batchSize maxConcurrentPersists (failed now failure execution point) := by
  have ready := good.ready_of_call isCall
  have neverBusy := good.neverBusy
  unfold failed
  split
  case h_7 =>
    exact good_goTo ready neverBusy (within_ofOutcome_failed now failure point)
      (ofOutcome_ne_persist _)
  all_goals exact good_goTo ready neverBusy trivial fun _ _ _ => Position.noConfusion

/-! ### The calls of the limiter -/

/-- A call of the limiter that is not over is the one the execution waits for. -/
theorem Good.running (good : Good batchSize maxConcurrentPersists execution) {run : Nat}
    {promise : PersistPromise} (isAt : execution.inFlightPersists[run]? = some promise)
    (notOver : promise.isSettled = false) :
    ∃ locals last earlier, execution.position = .persist locals run last ∧
      Running maxConcurrentPersists run execution earlier promise := by
  have member := List.mem_of_getElem? isAt
  have waits := good.waits
  rw [LimiterWaits] at waits
  split at waits
  · rename_i locals awaited last position
    obtain ⟨earlier, current, running⟩ := waits
    rw [running.promises] at isAt
    rcases Nat.lt_trichotomy run earlier.length with before | same | beyond
    · rw [List.getElem?_append_left before] at isAt
      have ended := running.settled promise (List.mem_of_getElem? isAt)
      exact absurd (ended.symm.trans notOver) Bool.noConfusion
    · subst same
      rw [List.getElem?_concat_length, Option.some.injEq] at isAt
      subst isAt
      have isAwaited : awaited = earlier.length := running.isLast.symm
      subst isAwaited
      exact ⟨locals, last, earlier, position, running⟩
    · rw [List.getElem?_eq_none (by rw [List.length_append]; exact beyond)] at isAt
      cases isAt
  · exact absurd ((waits.settled promise member).symm.trans notOver) Bool.noConfusion

/-- The awaited call goes on to its function. -/
theorem good_begin (good : Good batchSize maxConcurrentPersists execution) {run : Nat}
    {input : PersistBatchInput}
    (isAt : execution.inFlightPersists[run]? = some ⟨input, .granted⟩) :
    Good batchSize maxConcurrentPersists
      { execution with
        inFlightPersists := setProgress run .persisting execution.inFlightPersists } := by
  obtain ⟨locals, last, earlier, position, running⟩ := good.running isAt rfl
  refine ⟨good.within, ?_, good.neverBusy.tests, good.neverBusy.backpressure⟩
  rw [LimiterWaits, position]
  refine ⟨earlier, ⟨input, .persisting⟩, ?_⟩
  have isLast := running.isLast
  subst isLast
  exact
    { promises := by
        show setProgress earlier.length _ execution.inFlightPersists = _
        rw [running.promises, setProgress_last]
      isLast := rfl
      settled := running.settled
      granted := Progress.noConfusion
      limiter := running.limiter }

/-- The permit of the awaited call is the only one that was taken. -/
theorem good_finish (somePermit : 0 < maxConcurrentPersists)
    (good : Good batchSize maxConcurrentPersists execution) {run : Nat}
    {input : PersistBatchInput}
    (isAt : execution.inFlightPersists[run]? = some ⟨input, .persisting⟩)
    (failure : Option Failure) :
    Good batchSize maxConcurrentPersists (finish run failure execution) := by
  obtain ⟨locals, last, earlier, position, running⟩ := good.running isAt rfl
  have gives : execution.persistLimiter.release =
      (Semaphore.new maxConcurrentPersists, none) := by
    have limiter := running.limiter
    rw [if_neg Bool.noConfusion] at limiter
    rw [limiter, Semaphore.release, taken, Semaphore.new]
    simp only [Nat.sub_add_cancel somePermit]
  have isLast := running.isLast
  subst isLast
  rw [finish, gives]
  refine ⟨good.within, ?_, good.neverBusy.tests, good.neverBusy.backpressure⟩
  rw [LimiterWaits]
  simp only [position]
  refine ⟨earlier, ⟨input, .settled failure⟩, ?_⟩
  exact
    { promises := by
        simp only
        rw [running.promises, setProgress_last]
      isLast := rfl
      settled := running.settled
      granted := Progress.noConfusion
      limiter := rfl }

theorem good_goOn (someBatch : 0 < batchSize)
    (good : Good batchSize maxConcurrentPersists execution) {now : Nat}
    (goesOn : goOn now execution = some next) : Good batchSize maxConcurrentPersists next := by
  have neverBusy := good.neverBusy
  have waits := good.waits
  have within := good.within
  rw [LimiterWaits] at waits
  unfold goOn at goesOn
  split at goesOn
  · rename_i locals run last position
    simp only [position] at waits within
    obtain ⟨earlier, awaited, running⟩ := waits
    have isAt : execution.inFlightPersists[run]? = some awaited := by
      rw [running.promises, ← running.isLast, List.getElem?_concat_length]
    have ready (ended : awaited.isSettled = true) : Ready maxConcurrentPersists execution := by
      refine ⟨running.limiter.trans (if_pos ended), fun promise member => ?_⟩
      rw [running.promises] at member
      rcases List.mem_append.mp member with before | isLast
      · exact running.settled promise before
      · rw [List.mem_singleton.mp isLast]
        exact ended
    simp only [isAt] at goesOn
    split at goesOn
    · rename_i ended
      cases goesOn
      refine good_afterFlush (ready ?_) neverBusy someBatch within last
      rw [PersistPromise.isSettled, ended]
    · rename_i failure ended
      cases goesOn
      refine good_goTo (ready ?_) neverBusy trivial fun _ _ _ => Position.noConfusion
      rw [PersistPromise.isSettled, ended]
    all_goals cases goesOn
  · rename_i locals position
    simp only [position] at waits
    split at goesOn
    · cases goesOn
      exact good_goTo waits neverBusy trivial fun _ _ _ => Position.noConfusion
    · split at goesOn
      · cases goesOn
        refine good_goTo waits neverBusy ?_ (ofOutcome_ne_persist _)
        rw [ProcessImportFile.afterFlush]
        split
        · trivial
        · split <;> trivial
      · cases goesOn
  · rename_i failure position
    simp only [position] at waits
    split at goesOn
    · cases goesOn
      exact good_goTo waits neverBusy (within_ofOutcome_caught now failure)
        (ofOutcome_ne_persist _)
    · cases goesOn
  all_goals cases goesOn

theorem good_step (someBatch : 0 < batchSize) (somePermit : 0 < maxConcurrentPersists)
    (good : Good batchSize maxConcurrentPersists execution) {event : Event}
    (steps : step ports batchSize maxConcurrentPersists job execution event = some next) :
    Good batchSize maxConcurrentPersists next := by
  cases event with
  | answer now db reply =>
    simp only [step] at steps
    split at steps
    · rename_i point isCall
      exact good_succeeded someBatch somePermit good isCall steps
    · rename_i point committed failure isCall
      cases steps
      exact good_failed good isCall now failure
    · cases steps
  | begin run =>
    simp only [step] at steps
    split at steps
    · rename_i input isAt
      cases steps
      exact good_begin good isAt
    · cases steps
  | persisted run reply =>
    simp only [step] at steps
    split at steps
    · rename_i input isAt
      cases steps
      exact good_finish somePermit good isAt none
    · rename_i input committed failure isAt
      cases steps
      exact good_finish somePermit good isAt (some failure)
    · cases steps
      exact good
    · cases steps
  | goOn now => exact good_goOn someBatch good steps

/-! ### Bounds -/

theorem pending_le_of_within {position : Position} (within : Within batchSize position) :
    position.pending.size ≤ batchSize := by
  cases position with
  | call point =>
    cases point with
    | readLine | renewLease | getStatus => exact Nat.le_of_lt within
    | scoreBatch => exact (Nat.le_of_eq within).trans (Nat.zero_le _)
    | findByImportId | countLines | updateBoth | persistBatch => exact Nat.zero_le _
  | persist | persists => exact (Nat.le_of_eq within).trans (Nat.zero_le _)
  | settling | resolved | rejected => exact Nat.zero_le _

theorem isScoring_of_isReading {position : Position} (reading : position.isReading = true) :
    position.isScoring = false := by
  unfold Position.isReading at reading
  split at reading
  all_goals first
    | rfl
    | cases reading

theorem countP_of_settled {promises : List PersistPromise}
    (settled : ∀ promise ∈ promises, promise.isSettled = true) :
    promises.countP (fun promise => !promise.isSettled) = 0 := by
  refine List.countP_eq_zero.mpr fun promise member => ?_
  rw [settled promise member]
  exact Bool.noConfusion

/-- Nothing but the awaited call of the limiter is active, and only while it is awaited. -/
theorem Good.bounded (good : Good batchSize maxConcurrentPersists execution) :
    Bounded batchSize execution := by
  have waits := good.waits
  rw [LimiterWaits] at waits
  have active : execution.active ≤ 1 ∧
      (execution.position.isReading = true → execution.active = 0) := by
    rw [Execution.active]
    split at waits
    · rename_i locals run last position
      obtain ⟨earlier, promise, running⟩ := waits
      rw [position, running.promises, List.countP_append, countP_of_settled running.settled,
        List.countP_singleton, Nat.zero_add]
      refine ⟨?_, Bool.noConfusion⟩
      show 0 + (if _ then 1 else 0) ≤ 1
      split <;> omega
    · rw [countP_of_settled waits.settled, Nat.add_zero]
      refine ⟨?_, fun reading => ?_⟩
      · split <;> omega
      · rw [isScoring_of_isReading reading]
        rfl
  exact
    { pending := pending_le_of_within good.within
      oneBatch := active.1
      pauses := active.2
      tests := good.neverBusy.tests
      backpressure := good.neverBusy.backpressure }

theorem good_initial (batchSize maxConcurrentPersists : Nat) :
    Good batchSize maxConcurrentPersists (initial maxConcurrentPersists) where
  within := trivial
  waits := ⟨rfl, fun _ member => absurd member List.not_mem_nil⟩
  neverBusy := ⟨fun _ member => absurd member List.not_mem_nil, rfl⟩

end

/-- For every file and every way its calls end: the accumulators hold at most one batch, at most
one batch is scored or persisted, no line is read meanwhile, and no threshold test finds the
limiter busy. -/
theorem execution_bounded (ports : Ports) (batchSize maxConcurrentPersists : Nat)
    (job : ClaimedJob) (someBatch : 1 ≤ batchSize) (somePermit : 1 ≤ maxConcurrentPersists)
    (schedule : List Event) :
    Transition.Always (step ports batchSize maxConcurrentPersists job) (Bounded batchSize)
      (initial maxConcurrentPersists) schedule :=
  Transition.always_of_invariant (Good batchSize maxConcurrentPersists)
    (fun _ _ _ good steps => good_step someBatch somePermit good steps)
    (fun _ good => good.bounded) (good_initial batchSize maxConcurrentPersists) schedule

/-- Calls that are all answered. -/
def answers (count : Nat) : List Event := List.replicate count (.answer 0 System.uploaded .ok)

/-- A file of one record, with a batch size of one. -/
def oneBatch : List Event :=
  answers 6 ++ [.begin 0, .persisted 0 (.retry false), .persisted 0 .ok, .goOn 0] ++
    answers 1 ++ [.goOn 0] ++ answers 2

/-- The run makes one threshold test. -/
theorem execution_bounded_oneBatch :
    Transition.Always
        (step System.oneRecordPorts 1 2 (JobRepository.claimed 1 (ImportRepository.newJob 1 1 0)))
        (Bounded 1) (initial 2) oneBatch ∧
      (Transition.run
        (step System.oneRecordPorts 1 2 (JobRepository.claimed 1 (ImportRepository.newJob 1 1 0)))
        (initial 2) oneBatch).map (fun execution => (execution.position, execution.tests)) =
          some (.resolved, [⟨1, 0, 0⟩]) :=
  ⟨execution_bounded System.oneRecordPorts 1 2 _ (Nat.le_refl 1) (by decide) oneBatch,
    by decide +kernel⟩

end Backpressure

end ImportService
