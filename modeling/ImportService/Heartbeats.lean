/-
This file asks whether a worker that makes steady progress keeps its lease. Three durations
meet: the configured one, for which `claimNext` grants the lease, and in `execute` the interval
of the heartbeat and the length of a renewal, which are constants. The clock runs between any
two events, and a write commits some time before its caller has the answer, so a renewed lease
is counted from an earlier time than the next heartbeat.

Nobody else writes the lease here. The heartbeat is only tested when a line arrives. So the
last line before a renewal may come thirty seconds and one step between lines after the time
the lease was counted from, and one more step may lie between that time and the heartbeat
(`Covers`). Where the lease is longer than that it is kept (`safe_step`), and where it is not,
a file of blank lines loses it.
-/

import ImportService.System

namespace ImportService

open JobRepository ProcessImportFile

namespace Heartbeats

/-! ### Execution in time -/

/-- An execution and the lease of its job. `committed` says whether the write the execution waits
for has been committed. `lastLine` is when the last line arrived, or the claim if none has. -/
structure Clocked where
  now : Nat
  leasedUntil : Nat
  lastLine : Nat
  committed : Bool
  outcome : Outcome

/-- The job has just been claimed. -/
def start (leaseDurationMs now : Nat) : Clocked where
  now := now
  leasedUntil := leaseEnd leaseDurationMs now
  lastLine := now
  committed := false
  outcome := .awaiting .findByImportId

/-- The time passes, a statement commits, or a call is answered. -/
inductive Event
  | advance (milliseconds : Nat)
  | commit
  | answer (db : Database) (reply : Reply)

/-- The event brings a line of the file to the loop. -/
def Clocked.readsLine (state : Clocked) : Event → Bool
  | .answer _ .ok =>
      match state.outcome with
      | .awaiting (.readLine locals) => !locals.rest.isEmpty
      | _ => false
  | _ => false

/-- The lease after a write of the execution. -/
def leaseAfter (now leasedUntil : Nat) : Statement → Nat
  | .renewLease _ _ leaseDurationMs => leaseEnd leaseDurationMs now
  | _ => leasedUntil

/-- The lease in the row of the job, as long as the worker is the one that holds it. -/
theorem onJob_leasedUntil {job : ClaimedJob} {point : Point} {statement : Statement}
    (writes : point.statement job = some statement) {row : JobRow}
    (leased : isLeasedBy job.id job.workerId row = true) {limit : Nat}
    (until_ : row.leasedUntil = some limit) (now : Nat) :
    (statement.onJob now row).leasedUntil = some (leaseAfter now limit statement) := by
  cases calls_of_statement writes with
  | updateBothJob =>
    rename_i mark caller
    show (Statement.onJob now (.updateBothJob job.id mark) row).leasedUntil = some limit
    rw [← until_]
    refine Statement.setJob_keeps JobRow.leasedUntil now _ mark.jobData (fun row => ?_) row
    cases mark <;> rfl
  | renewLease =>
    simp only [Statement.onJob]
    rw [Statement.setJob_field JobRow.leasedUntil (fun _ _ => rfl), if_pos leased]
    rfl
  | updateBothImport | persistBatch => exact until_

/-- A call that writes succeeds only after its commit. -/
def step (ports : Ports) (batchSize : Nat) (job : ClaimedJob) (state : Clocked) :
    Event → Option Clocked
  | .advance milliseconds => some { state with now := state.now + milliseconds }
  | .commit =>
      match state.outcome with
      | .awaiting point =>
          if state.committed then none
          else
            (point.statement job).map fun statement =>
              { state with
                committed := true
                leasedUntil := leaseAfter state.now state.leasedUntil statement }
      | _ => none
  | .answer db reply =>
      match state.outcome with
      | .awaiting point =>
          if reply = .ok ∧ (point.statement job).isSome ∧ state.committed = false then none
          else
            (resume ports batchSize db state.now job point reply).map fun outcome =>
              { state with
                lastLine :=
                  if state.readsLine (.answer db reply) then state.now else state.lastLine
                committed := false
                outcome }
      | _ => none

/-- From the claim to the first line, and from line to line, it takes at most a quarter of the
configured duration. -/
def Steady (leaseDurationMs : Nat) (state : Clocked) (event : Event) (_ : Clocked) : Prop :=
  state.readsLine event = true → 4 * (state.now - state.lastLine) ≤ leaseDurationMs

/-- The lease has not run out when a line arrives. -/
def InTime (state : Clocked) (event : Event) (_ : Clocked) : Prop :=
  state.readsLine event = true → state.now < state.leasedUntil

/-- Whatever the file and the answers are: while progress is steady, the lease is kept. -/
def KeepsLease (leaseDurationMs : Nat) : Prop :=
  ∀ (ports : Ports) (batchSize : Nat) (job : ClaimedJob) (claimedAt : Nat)
    (schedule : List Event),
    Transition.Every (step ports batchSize job) (Steady leaseDurationMs)
        (start leaseDurationMs claimedAt) schedule →
      Transition.Every (step ports batchSize job) InTime (start leaseDurationMs claimedAt)
        schedule

/-! ### Long leases are kept -/

/-- A lease of this length lasts from one step between lines before a heartbeat until one step
after the next heartbeat is due. -/
def Covers (leaseDurationMs length : Nat) : Prop :=
  2 * (leaseDurationMs / 4) + HEARTBEAT_INTERVAL_MS < length

/-- The lease lasts long enough even if it was counted from the last line. -/
def Fresh (leaseDurationMs lastLine leasedUntil : Nat) : Prop :=
  lastLine + 2 * (leaseDurationMs / 4) + HEARTBEAT_INTERVAL_MS < leasedUntil

/-- The lease lasts until one step after the next heartbeat is due, and the last line came no later
than that heartbeat. -/
def Beating (leaseDurationMs lastHeartbeat lastLine leasedUntil : Nat) : Prop :=
  lastLine ≤ lastHeartbeat + HEARTBEAT_INTERVAL_MS ∧
    lastHeartbeat + HEARTBEAT_INTERVAL_MS + leaseDurationMs / 4 < leasedUntil

/-- What is known of the lease at a call from which the execution may go on to a line. -/
def SafeAt (leaseDurationMs lastLine leasedUntil : Nat) (committed : Bool) : Point → Prop
  | .findByImportId | .countLines _ | .updateBoth _ _ (.fileFound _) =>
      Fresh leaseDurationMs lastLine leasedUntil
  | .updateBoth _ _ _ => True
  | .renewLease _ _ => committed = true → Fresh leaseDurationMs lastLine leasedUntil
  | .readLine locals | .getStatus locals _ | .scoreBatch locals _ _ | .persistBatch locals _ _ =>
      Beating leaseDurationMs locals.lastHeartbeat lastLine leasedUntil

/-- The same, unless the next line is late already. -/
structure Safe (leaseDurationMs : Nat) (state : Clocked) : Prop where
  ordered : state.lastLine ≤ state.now
  safeAt : ∀ point, state.outcome = .awaiting point →
    4 * (state.now - state.lastLine) ≤ leaseDurationMs →
      SafeAt leaseDurationMs state.lastLine state.leasedUntil state.committed point

section

variable {ports : Ports} {batchSize leaseDurationMs : Nat} {job : ClaimedJob}
  {lastLine leasedUntil : Nat}

/-- The code goes on to a call of the loop with this last heartbeat, or past the loop. -/
def SameHeartbeat (lastHeartbeat : Nat) : Outcome → Prop
  | .awaiting (.readLine locals) | .awaiting (.getStatus locals _)
  | .awaiting (.scoreBatch locals _ _) | .awaiting (.persistBatch locals _ _) =>
      locals.lastHeartbeat = lastHeartbeat
  | .awaiting (.updateBoth _ _ .loopEnded) | .resolved | .rejected _ => True
  | .awaiting _ => False

theorem sameHeartbeat_afterFlush (now : Nat) (locals : Locals) (last : Bool) :
    SameHeartbeat locals.lastHeartbeat (afterFlush now locals last) := by
  rw [afterFlush]
  split
  · rfl
  · split <;> trivial

theorem sameHeartbeat_flush (now : Nat) (locals : Locals) (last : Bool) :
    SameHeartbeat locals.lastHeartbeat (flush job now locals last) := by
  rw [flush]
  split
  · exact sameHeartbeat_afterFlush now locals last
  · simp only
    split <;> rfl

theorem sameHeartbeat_accumulate (now : Nat) (locals : Locals) (rawLine : JsString) :
    SameHeartbeat locals.lastHeartbeat (accumulate ports batchSize job now locals rawLine) := by
  rw [accumulate]
  split
  · rfl
  · simp only
    split
    · exact sameHeartbeat_flush now _ false
    · rfl

theorem sameHeartbeat_checkCancellation (now : Nat) (locals : Locals) (rawLine : JsString) :
    SameHeartbeat locals.lastHeartbeat
      (checkCancellation ports batchSize job now locals rawLine) := by
  rw [checkCancellation]
  split
  · rfl
  · exact sameHeartbeat_accumulate now locals rawLine

/-- A call of the loop inherits what is known of the lease. -/
theorem safeAt_of_sameHeartbeat {lastHeartbeat : Nat} {outcome : Outcome}
    (beating : Beating leaseDurationMs lastHeartbeat lastLine leasedUntil)
    (same : SameHeartbeat lastHeartbeat outcome) (committed : Bool) {point : Point}
    (awaits : outcome = .awaiting point) :
    SafeAt leaseDurationMs lastLine leasedUntil committed point := by
  subst awaits
  cases point with
  | readLine | getStatus | scoreBatch | persistBatch =>
    rw [SameHeartbeat] at same
    rw [SafeAt, same]
    exact beating
  | updateBoth mark stage caller =>
    cases caller with
    | loopEnded | fileMissing | caught => trivial
    | fileFound => exact absurd same not_false
  | findByImportId | countLines | renewLease => exact absurd same not_false

/-- A call that fails leads past the loop. -/
theorem safeAt_failed (now : Nat) (failure : Failure) (committed : Bool) {point next : Point}
    (awaits : failed now failure point = .awaiting next) :
    SafeAt leaseDurationMs lastLine leasedUntil committed next := by
  have caughtAt {after : Point} (awaits : caught now failure = .awaiting after) :
      SafeAt leaseDurationMs lastLine leasedUntil committed after := by
    cases failure <;> cases awaits <;> trivial
  unfold failed at awaits
  split at awaits
  all_goals first
    | exact caughtAt awaits
    | cases awaits

/-- A call that succeeds and brings no line. -/
theorem safeAt_succeeded (db : Database) {now : Nat} (ordered : lastLine ≤ now)
    (quarter : 4 * (now - lastLine) ≤ leaseDurationMs) {committed : Bool} {point next : Point}
    (safeAt : SafeAt leaseDurationMs lastLine leasedUntil committed point)
    (delivered : (point.statement job).isSome = true → committed = true)
    (noLine : ∀ locals, point = .readLine locals → locals.rest = [])
    (awaits : succeeded ports batchSize db now job point = .awaiting next) :
    SafeAt leaseDurationMs lastLine leasedUntil false next := by
  have beatingNow (fresh : Fresh leaseDurationMs lastLine leasedUntil) :
      Beating leaseDurationMs now lastLine leasedUntil := by
    unfold Fresh at fresh
    unfold Beating
    omega
  cases point with
  | findByImportId =>
    rw [succeeded] at awaits
    split at awaits
    · cases awaits
      trivial
    · cases awaits
      exact safeAt
  | countLines file =>
    cases awaits
    exact safeAt
  | updateBoth mark stage caller =>
    cases stage with
    | job =>
      cases awaits
      cases caller <;> exact safeAt
    | importRow =>
      cases caller with
      | fileFound file =>
        cases awaits
        exact beatingNow safeAt
      | fileMissing | loopEnded | caught => cases awaits
  | readLine locals =>
    rw [succeeded, noLine locals rfl] at awaits
    exact safeAt_of_sameHeartbeat safeAt (sameHeartbeat_flush now locals true) false awaits
  | renewLease locals rawLine =>
    exact safeAt_of_sameHeartbeat (beatingNow (safeAt (delivered rfl)))
      (sameHeartbeat_checkCancellation now _ rawLine) false awaits
  | getStatus locals rawLine =>
    rw [succeeded] at awaits
    split at awaits
    · exact safeAt_of_sameHeartbeat safeAt
        (sameHeartbeat_flush now { locals with wasCancelled := true } true) false awaits
    · exact safeAt_of_sameHeartbeat safeAt (sameHeartbeat_accumulate now locals rawLine) false
        awaits
  | scoreBatch locals batch last =>
    cases awaits
    exact safeAt
  | persistBatch locals input last =>
    exact safeAt_of_sameHeartbeat safeAt (sameHeartbeat_afterFlush now locals last) false awaits

/-- A line that brings no renewal came before the next heartbeat was due. -/
theorem safeAt_heartbeat {now : Nat} {locals : Locals} {rawLine : JsString} {next : Point}
    (awaits : heartbeat ports batchSize job now locals rawLine = .awaiting next)
    (beating : Beating leaseDurationMs locals.lastHeartbeat lastLine leasedUntil) :
    SafeAt leaseDurationMs now leasedUntil false next := by
  rw [heartbeat] at awaits
  split at awaits
  · cases awaits
    exact fun committed => absurd committed Bool.false_ne_true
  · rename_i notDue
    exact safeAt_of_sameHeartbeat ⟨Nat.le_of_not_lt notDue, beating.2⟩
      (sameHeartbeat_checkCancellation now locals rawLine) false awaits

section

variable {state next : Clocked} {event : Event}

theorem readsLine_iff :
    state.readsLine event = true ↔ ∃ db locals, event = .answer db .ok ∧
      state.outcome = .awaiting (.readLine locals) ∧ locals.rest ≠ [] := by
  constructor
  · intro readsLine
    unfold Clocked.readsLine at readsLine
    split at readsLine
    · rename_i db
      split at readsLine
      · rename_i locals awaits
        refine ⟨db, locals, rfl, awaits, fun noLines => ?_⟩
        rw [noLines] at readsLine
        exact Bool.false_ne_true readsLine
      · exact absurd readsLine Bool.false_ne_true
    · exact absurd readsLine Bool.false_ne_true
  · rintro ⟨db, locals, rfl, awaits, hasLine⟩
    simp only [Clocked.readsLine, awaits, Bool.not_eq_true', List.isEmpty_eq_false_iff]
    exact hasLine

/-- A line that comes in time finds the lease. -/
theorem inTime_of_safe (safe : Safe leaseDurationMs state)
    (steady : Steady leaseDurationMs state event next) : InTime state event next := by
  intro readsLine
  have quarter := steady readsLine
  have ordered := safe.ordered
  obtain ⟨db, locals, _, awaits, _⟩ := readsLine_iff.mp readsLine
  obtain ⟨beat, lasts⟩ := safe.safeAt _ awaits quarter
  omega

theorem fresh_renewed (long : Covers leaseDurationMs LEASE_DURATION_MS) {now : Nat}
    (ordered : lastLine ≤ now) :
    Fresh leaseDurationMs lastLine (leaseEnd LEASE_DURATION_MS now) := by
  unfold Covers LEASE_DURATION_MS at long
  unfold Fresh leaseEnd leaseSeconds LEASE_DURATION_MS
  omega

/-- The commit of a renewal counts the lease from after the last line. -/
theorem safe_commit (long : Covers leaseDurationMs LEASE_DURATION_MS)
    (safe : Safe leaseDurationMs state)
    (steps : step ports batchSize job state .commit = some next) : Safe leaseDurationMs next := by
  simp only [step] at steps
  split at steps
  · rename_i point awaits
    split at steps
    · cases steps
    · obtain ⟨statement, writes, rfl⟩ := Option.map_eq_some_iff.mp steps
      refine ⟨safe.ordered, fun other alsoAwaits quarter => ?_⟩
      have same : other = point := Outcome.awaiting.inj (alsoAwaits.symm.trans awaits)
      subst same
      have safeAt := safe.safeAt other awaits quarter
      cases calls_of_statement writes with
      | updateBothJob | updateBothImport =>
        rename_i mark caller
        cases caller <;> exact safeAt
      | renewLease => exact fun _ => fresh_renewed long safe.ordered
      | persistBatch => exact safeAt
  · cases steps

theorem safe_line (safe : Safe leaseDurationMs state) {locals : Locals}
    (awaits : state.outcome = .awaiting (.readLine locals)) (hasLine : locals.rest ≠ [])
    (quarter : 4 * (state.now - state.lastLine) ≤ leaseDurationMs) (db : Database) :
    Safe leaseDurationMs
      { state with
        lastLine := state.now
        committed := false
        outcome := succeeded ports batchSize db state.now job (.readLine locals) } := by
  refine ⟨Nat.le_refl _, fun next goesOn _ => ?_⟩
  have beating : Beating leaseDurationMs locals.lastHeartbeat state.lastLine state.leasedUntil :=
    safe.safeAt _ awaits quarter
  obtain ⟨rawLine, rest, lines⟩ := List.exists_cons_of_ne_nil hasLine
  simp only [succeeded, lines] at goesOn
  exact safeAt_heartbeat goesOn beating

theorem safe_answer (safe : Safe leaseDurationMs state) {db : Database} {reply : Reply}
    (steady : Steady leaseDurationMs state (.answer db reply) next)
    (steps : step ports batchSize job state (.answer db reply) = some next) :
    Safe leaseDurationMs next := by
  simp only [step] at steps
  split at steps
  · rename_i point awaits
    split at steps
    · cases steps
    · rename_i delivered
      obtain ⟨outcome, resumed, rfl⟩ := Option.map_eq_some_iff.mp steps
      cases readsLine : state.readsLine (.answer db reply) with
      | true =>
        obtain ⟨_, locals, isAnswer, atLine, hasLine⟩ := readsLine_iff.mp readsLine
        cases isAnswer
        rw [awaits, Outcome.awaiting.injEq] at atLine
        subst atLine
        cases resumed
        exact safe_line safe awaits hasLine (steady readsLine) db
      | false =>
        refine ⟨safe.ordered, fun after goesOn quarter => ?_⟩
        have safeAt := safe.safeAt point awaits quarter
        cases reply with
        | ok =>
          cases resumed
          refine safeAt_succeeded db safe.ordered quarter safeAt (fun writes => ?_) ?_ goesOn
          · by_contra notCommitted
            exact delivered ⟨rfl, writes, Bool.eq_false_iff.mpr notCommitted⟩
          · intro locals atLine
            subst atLine
            by_contra hasLine
            have reads := readsLine_iff.mpr ⟨db, locals, rfl, awaits, hasLine⟩
            exact Bool.false_ne_true (readsLine.symm.trans reads)
        | fail committed failure =>
          cases resumed
          exact safeAt_failed state.now failure false goesOn
        | retry committed =>
          cases point with
          | persistBatch =>
            cases resumed
            cases goesOn
            exact safeAt
          | _ => cases resumed
  · cases steps

theorem safe_step (long : Covers leaseDurationMs LEASE_DURATION_MS)
    (safe : Safe leaseDurationMs state)
    (steps : step ports batchSize job state event = some next)
    (steady : Steady leaseDurationMs state event next) : Safe leaseDurationMs next := by
  cases event with
  | advance milliseconds =>
    cases steps
    refine ⟨Nat.le_add_right_of_le safe.ordered, fun point awaits quarter => ?_⟩
    have quarter : 4 * (state.now + milliseconds - state.lastLine) ≤ leaseDurationMs := quarter
    exact safe.safeAt point awaits (by omega)
  | commit => exact safe_commit long safe steps
  | answer db reply => exact safe_answer safe steady steps

end

theorem safe_start (long : Covers leaseDurationMs (leaseSeconds leaseDurationMs * 1000))
    (claimedAt : Nat) : Safe leaseDurationMs (start leaseDurationMs claimedAt) := by
  refine ⟨Nat.le_refl _, fun point awaits _ => ?_⟩
  cases awaits
  show Fresh leaseDurationMs claimedAt (leaseEnd leaseDurationMs claimedAt)
  unfold Covers at long
  unfold Fresh leaseEnd
  omega

theorem keepsLease_of_covers
    (granted : Covers leaseDurationMs (leaseSeconds leaseDurationMs * 1000))
    (renewed : Covers leaseDurationMs LEASE_DURATION_MS) : KeepsLease leaseDurationMs := by
  intro ports batchSize job claimedAt schedule steady
  refine steady.imp (Safe leaseDurationMs) ?_ ?_ (safe_start granted claimedAt)
  · exact fun state event next safe steps steady => safe_step renewed safe steps steady
  · exact fun state event next safe _ steady => inTime_of_safe safe steady

end

/-! ### Short leases are lost -/

/-- A file of blank lines. -/
def blankPorts (lines : Nat) : Ports :=
  { System.emptyFilePorts with
    readLines := fun _ => List.replicate lines []
    countLines := fun _ => lines }

/-- The job of an upload, claimed by worker 1. -/
def uploadedJob : ClaimedJob := claimed 1 (ImportRepository.newJob 1 1 0)

/-- The execution waits for a line of the blank file. -/
def reading (now leasedUntil lastLine lastHeartbeat lineNumber lines : Nat) : Clocked where
  now := now
  leasedUntil := leasedUntil
  lastLine := lastLine
  committed := false
  outcome := .awaiting (.readLine
    { fallbackProvider := [], rest := List.replicate lines [], lineNumber, wasCancelled := false,
      lastHeartbeat, pending := Batch.empty })

/-- Some steady schedule leads from one state to the other. -/
def Reaches (leaseDurationMs lines : Nat) : Clocked → Clocked → Prop :=
  Transition.Leads (step (blankPorts lines) 1 uploadedJob) (Steady leaseDurationMs)

section

variable {leaseDurationMs file now leasedUntil lastLine lastHeartbeat lineNumber lines : Nat}
  {state next : Clocked}

theorem reaches_step (event : Event)
    (steps : step (blankPorts file) 1 uploadedJob state event = some next)
    (steady : Steady leaseDurationMs state event next) :
    Reaches leaseDurationMs file state next :=
  Transition.Leads.single steps steady

/-- A step that brings no line. -/
theorem reaches_quiet (event : Event)
    (steps : step (blankPorts file) 1 uploadedJob state event = some next)
    (noLine : state.readsLine event = false) : Reaches leaseDurationMs file state next :=
  reaches_step event steps
    fun readsLine => absurd (noLine.symm.trans readsLine) Bool.false_ne_true

theorem reaches_advance (milliseconds : Nat) :
    Reaches leaseDurationMs file
      (reading now leasedUntil lastLine lastHeartbeat lineNumber lines)
      (reading (now + milliseconds) leasedUntil lastLine lastHeartbeat lineNumber lines) :=
  reaches_quiet (.advance milliseconds) rfl rfl

/-- The loop starts some time after the claim. -/
theorem reaches_loop (claimTakes : Nat) :
    Reaches leaseDurationMs file (start leaseDurationMs 0)
      (reading claimTakes (leaseEnd leaseDurationMs 0) 0 claimTakes 0 file) := by
  have found : Reaches leaseDurationMs file (start leaseDurationMs 0)
      { now := 0 + claimTakes, leasedUntil := leaseEnd leaseDurationMs 0, lastLine := 0,
        committed := false, outcome := .awaiting (.countLines ⟨[], none⟩) } :=
    (reaches_quiet (.advance claimTakes) rfl rfl).trans
      (reaches_quiet (.answer System.uploaded .ok) rfl rfl)
  rw [Nat.zero_add] at found
  refine found.trans ((reaches_quiet (.answer System.uploaded .ok) rfl rfl).trans ?_)
  refine (reaches_quiet .commit rfl rfl).trans ?_
  refine (reaches_quiet (.answer System.uploaded .ok) rfl rfl).trans ?_
  refine (reaches_quiet .commit rfl rfl).trans ?_
  exact reaches_quiet (.answer System.uploaded .ok) rfl rfl

/-- A line of the file arrives. -/
theorem reaches_answer (quarter : 4 * (now - lastLine) ≤ leaseDurationMs) :
    Reaches leaseDurationMs file
      (reading now leasedUntil lastLine lastHeartbeat lineNumber (lines + 1))
      { now, leasedUntil, lastLine := now, committed := false,
        outcome := heartbeat (blankPorts file) 1 uploadedJob now
          { fallbackProvider := [], rest := List.replicate lines [], lineNumber := lineNumber + 1,
            wasCancelled := false, lastHeartbeat, pending := Batch.empty } [] } :=
  reaches_step (.answer System.uploaded .ok) rfl fun _ => quarter

theorem reaches_accumulate :
    Reaches leaseDurationMs file
      { now, leasedUntil, lastLine, committed := false,
        outcome := checkCancellation (blankPorts file) 1 uploadedJob now
          { fallbackProvider := [], rest := List.replicate lines [], lineNumber,
            wasCancelled := false, lastHeartbeat, pending := Batch.empty } [] }
      (reading now leasedUntil lastLine lastHeartbeat lineNumber lines) := by
  rw [checkCancellation]
  split
  · exact reaches_quiet (.answer System.uploaded .ok) rfl rfl
  · exact Transition.Leads.refl _

/-- A line that comes before the heartbeat is due. -/
theorem reaches_line (notDue : now ≤ lastHeartbeat + HEARTBEAT_INTERVAL_MS)
    (quarter : 4 * (now - lastLine) ≤ leaseDurationMs) :
    Reaches leaseDurationMs file
      (reading now leasedUntil lastLine lastHeartbeat lineNumber (lines + 1))
      (reading now leasedUntil now lastHeartbeat (lineNumber + 1) lines) := by
  have arrives : Reaches leaseDurationMs file
      (reading now leasedUntil lastLine lastHeartbeat lineNumber (lines + 1)) _ :=
    reaches_answer quarter
  rw [heartbeat, if_neg (Nat.not_lt_of_le notDue)] at arrives
  exact arrives.trans reaches_accumulate

/-- A line with a renewal, whose answer takes some time after its commit. -/
theorem reaches_renewal (due : lastHeartbeat + HEARTBEAT_INTERVAL_MS < now)
    (quarter : 4 * (now - lastLine) ≤ leaseDurationMs) (answerTakes : Nat) :
    Reaches leaseDurationMs file
      (reading now leasedUntil lastLine lastHeartbeat lineNumber (lines + 1))
      (reading (now + answerTakes) (leaseEnd LEASE_DURATION_MS now) now (now + answerTakes)
        (lineNumber + 1) lines) := by
  have arrives : Reaches leaseDurationMs file
      (reading now leasedUntil lastLine lastHeartbeat lineNumber (lines + 1)) _ :=
    reaches_answer quarter
  rw [heartbeat, if_pos due] at arrives
  refine arrives.trans ((reaches_quiet .commit rfl rfl).trans ?_)
  refine (reaches_quiet (.advance answerTakes) rfl rfl).trans ?_
  exact (reaches_quiet (.answer System.uploaded .ok) rfl rfl).trans reaches_accumulate

/-- A line every millisecond, up to the time at which the heartbeat is due. -/
theorem reaches_lines (fourMs : 4 ≤ leaseDurationMs) (count : Nat)
    (notDue : now + count ≤ lastHeartbeat + HEARTBEAT_INTERVAL_MS) :
    Reaches leaseDurationMs file
      (reading now leasedUntil now lastHeartbeat lineNumber (lines + count))
      (reading (now + count) leasedUntil (now + count) lastHeartbeat (lineNumber + count)
        lines) := by
  induction count generalizing now lineNumber with
  | zero => exact Transition.Leads.refl _
  | succ count inductionHypothesis =>
    have afterOne : now + 1 + count = now + (count + 1) := by omega
    have linesAfterOne : lineNumber + 1 + count = lineNumber + (count + 1) := by omega
    have later : Reaches leaseDurationMs file
        (reading (now + 1) leasedUntil (now + 1) lastHeartbeat (lineNumber + 1)
          (lines + count)) _ :=
      inductionHypothesis (by omega)
    rw [afterOne, linesAfterOne] at later
    refine ((reaches_advance 1).trans (reaches_line ?_ ?_)).trans later
    · omega
    · omega

/-- A line that comes too late. -/
theorem not_keepsLease_of_reaches
    (reaches : Reaches leaseDurationMs file (start leaseDurationMs 0)
      (reading now leasedUntil lastLine lastHeartbeat lineNumber (lines + 1)))
    (quarter : 4 * (now - lastLine) ≤ leaseDurationMs) (late : leasedUntil ≤ now) :
    ¬KeepsLease leaseDurationMs := by
  intro keeps
  have enabled : step (blankPorts file) 1 uploadedJob
      (reading now leasedUntil lastLine lastHeartbeat lineNumber (lines + 1))
      (.answer System.uploaded .ok) = some _ := rfl
  have inTime := reaches.conclude (keeps _ _ _ 0) enabled fun _ => quarter
  exact absurd (inTime rfl) (Nat.not_lt_of_le late)

end

section

variable {leaseDurationMs : Nat}

/-- A line comes when the heartbeat is due, and the next one after the end of the granted lease. -/
theorem not_keepsLease_of_granted (fourMs : 4 ≤ leaseDurationMs)
    (short : ¬Covers leaseDurationMs (leaseSeconds leaseDurationMs * 1000)) :
    ¬KeepsLease leaseDurationMs := by
  have loop : Reaches leaseDurationMs (1 + HEARTBEAT_INTERVAL_MS + 1) (start leaseDurationMs 0) _ :=
    reaches_loop (leaseDurationMs / 4)
  have first := loop.trans (reaches_line (by omega) (by omega))
  have due := first.trans (reaches_lines fourMs HEARTBEAT_INTERVAL_MS (Nat.le_refl _))
  have late := due.trans (reaches_advance (leaseDurationMs / 4))
  refine not_keepsLease_of_reaches late ?_ ?_
  · omega
  · unfold Covers at short
    unfold leaseEnd
    omega

/-- The answer to the first renewal takes one step between lines after its commit, and the first
line after the next heartbeat is due comes after the end of the renewed lease. -/
theorem not_keepsLease_of_renewed (long : 180000 ≤ leaseDurationMs) :
    ¬KeepsLease leaseDurationMs := by
  have interval : HEARTBEAT_INTERVAL_MS = 30000 := rfl
  have renewedUntil : leaseEnd LEASE_DURATION_MS (0 + 30001) = 150001 := by decide
  have loop : Reaches leaseDurationMs 4 (start leaseDurationMs 0) _ := reaches_loop 0
  have first := loop.trans (reaches_advance 30001)
  have renewed := first.trans (reaches_renewal (by decide) (by omega) (leaseDurationMs / 4))
  have second := renewed.trans (reaches_line (by omega) (by omega))
  have third := (second.trans (reaches_advance 30000)).trans (reaches_line (by omega) (by omega))
  have late := third.trans (reaches_advance (leaseDurationMs / 4))
  refine not_keepsLease_of_reaches late ?_ ?_
  · omega
  · rw [renewedUntil]
    omega

theorem covers_granted_iff (configured : 1000 ≤ leaseDurationMs) :
    Covers leaseDurationMs (leaseSeconds leaseDurationMs * 1000) ↔
      59000 < leaseDurationMs ∧ leaseDurationMs ≠ 60000 := by
  unfold Covers leaseSeconds HEARTBEAT_INTERVAL_MS
  omega

theorem covers_renewed_iff :
    Covers leaseDurationMs LEASE_DURATION_MS ↔ leaseDurationMs < 180000 := by
  unfold Covers HEARTBEAT_INTERVAL_MS LEASE_DURATION_MS
  omega

end

/-- A worker that makes steady progress keeps its lease, whatever its file is, exactly when the
configured duration is above 59 seconds, is not 60 seconds, and is below three minutes. -/
theorem keepsLease_iff (leaseDurationMs : Nat) (configured : 1000 ≤ leaseDurationMs) :
    KeepsLease leaseDurationMs ↔
      59000 < leaseDurationMs ∧ leaseDurationMs ≠ 60000 ∧ leaseDurationMs < 180000 := by
  constructor
  · intro keeps
    have granted : Covers leaseDurationMs (leaseSeconds leaseDurationMs * 1000) := by
      by_contra short
      exact not_keepsLease_of_granted (by omega) short keeps
    have renewed : leaseDurationMs < 180000 := by
      by_contra long
      exact not_keepsLease_of_renewed (Nat.le_of_not_lt long) keeps
    obtain ⟨aboveMinute, notMinute⟩ := (covers_granted_iff configured).mp granted
    exact ⟨aboveMinute, notMinute, renewed⟩
  · rintro ⟨aboveMinute, notMinute, renewed⟩
    exact keepsLease_of_covers ((covers_granted_iff configured).mpr ⟨aboveMinute, notMinute⟩)
      (covers_renewed_iff.mpr renewed)

/-- The default of `LEASE_DURATION_MS`. -/
theorem keepsLease_iff_default :
    KeepsLease 120000 ↔ 59000 < 120000 ∧ 120000 ≠ 60000 ∧ 120000 < 180000 :=
  keepsLease_iff 120000 (by decide)

/-- With 15 seconds, the fifth line of a file comes 18.75 seconds after the claim, one every 3.75
seconds, and finds that the lease has run out. -/
theorem shortLease_lost : ¬KeepsLease 15000 := by
  have loop : Reaches 15000 5 (start 15000 0) _ := reaches_loop 0
  have first := (loop.trans (reaches_advance 3750)).trans (reaches_line (by decide) (by decide))
  have second := (first.trans (reaches_advance 3750)).trans (reaches_line (by decide) (by decide))
  have third := (second.trans (reaches_advance 3750)).trans (reaches_line (by decide) (by decide))
  have fourth := (third.trans (reaches_advance 3750)).trans (reaches_line (by decide) (by decide))
  exact not_keepsLease_of_reaches (fourth.trans (reaches_advance 3750)) (by decide) (by decide)

end Heartbeats

end ImportService
