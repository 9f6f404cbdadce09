/-
This file asks from which states an import can still come to its end, whatever has happened
before: crashes, lost answers, failed writes, leases that ran out. It can just where a worker
executes its job or the claim query will pick the job up (`canEnd_iff`).

In one direction a single worker is enough, whose calls are all answered from then on
(`ends_with_one_worker`): every answer brings the end of an execution nearer. In the other
direction nothing that any party does brings back an import that nobody is responsible for, as
long as no sweep has read its job before.
-/

import ImportService.Lease
import ImportService.Responsibility
import ImportService.Shutdown

namespace ImportService

open KeyedTable JobRepository ProcessImportFile JobPollerService

namespace ProcessImportFile

/-- A successful call but the first and the last is followed by another one. -/
theorem exists_awaiting {ports : Ports} {job : ClaimedJob} {point : Point} (batchSize now : Nat)
    (db : Database) (notFirst : point ≠ .findByImportId) (notLast : point.isLast = false) :
    ∃ later, succeeded ports batchSize db now job point = .awaiting later := by
  have ofInLoop : ∀ {outcome : Outcome}, outcome.InLoop now →
      ∃ later, outcome = .awaiting later := by
    intro outcome inLoop
    cases outcome with
    | awaiting later => exact ⟨later, rfl⟩
    | resolved | rejected => cases inLoop
  cases point with
  | findByImportId => exact absurd rfl notFirst
  | countLines file => exact ⟨_, rfl⟩
  | updateBoth mark stage caller =>
    cases stage with
    | job => exact ⟨_, rfl⟩
    | importRow =>
      cases caller with
      | fileFound file => exact ⟨_, rfl⟩
      | fileMissing | loopEnded | caught => cases notLast
  | readLine | renewLease | getStatus | scoreBatch | persistBatch =>
    exact ofInLoop (succeeded_inLoop batchSize db now rfl)

end ProcessImportFile

/-- The holder of a lease and its end are both there or both missing. -/
def JobRow.LeaseWhole (row : JobRow) : Prop := row.leasedBy.isSome = row.leasedUntil.isSome

namespace Statement

theorem leaseWhole_onJob (now : Nat) (statement : Statement) {row : JobRow}
    (whole : row.LeaseWhole) : (statement.onJob now row).LeaseWhole := by
  have kept (selects : JobRow → Bool) (data : JobRow → JobRow) {before : JobRow}
      (wholeBefore : before.LeaseWhole)
      (keeps : selects before = true → (data before).LeaseWhole) :
      (setJob now selects data before).LeaseWhole := by
    unfold setJob updateRow
    split
    · rename_i selected
      exact keeps selected
    · exact wholeBefore
  cases statement with
  | claimNext jobId workerId duration => exact kept _ _ whole fun _ => rfl
  | renewLease jobId workerId duration =>
    refine kept _ _ whole fun selected => ?_
    have leased : row.leasedBy = some workerId :=
      eq_of_beq (Bool.and_eq_true_iff.mp selected).2
    show row.leasedBy.isSome = true
    rw [leased]
    rfl
  | updateBothJob jobId mark =>
    refine kept _ _ whole fun _ => ?_
    cases mark <;> exact whole
  | releaseJob jobId workerId => exact kept _ _ whole fun _ => rfl
  | reclaim maxAttempts sweep passed =>
    exact kept _ toPending (kept _ abandonJob whole fun _ => rfl) fun _ => rfl
  | cancel importId => exact kept _ _ whole fun _ => whole
  | create | updateBothImport | releaseImport | persistBatch => exact whole

/-- A statement that neither claims nor marks the job, nor sweeps it, does not bring it back in
reach. -/
theorem isRecoverable_onJob_eq_false {now : Nat} {statement : Statement} {row : JobRow}
    (lost : row.isRecoverable = false) (whole : row.LeaseWhole)
    (notClaimed : ∀ jobId workerId duration, statement = .claimNext jobId workerId duration →
      row.id ≠ jobId)
    (notMarked : ∀ jobId mark, statement = .updateBothJob jobId mark → row.id ≠ jobId)
    (notSwept : ∀ maxAttempts sweep passed, statement = .reclaim maxAttempts sweep passed →
      ∀ job ∈ sweep.expired, job.id ≠ row.id) :
    (statement.onJob now row).isRecoverable = false := by
  -- A job that is leased by somebody has an end of its lease, so it is in reach.
  have notLeased : ∀ workerId, row.leasedBy = some workerId →
      isLeasedStatus row.status = false := by
    intro workerId leasedBy
    have hasLimit : row.leasedUntil.isSome = true := by rw [← whole, leasedBy]; rfl
    rw [JobRow.isRecoverable, hasLimit, Bool.and_true, Bool.or_eq_false_iff] at lost
    exact lost.2
  cases statement with
  | claimNext jobId workerId duration =>
    simp only [onJob]
    rw [setJob_of_id_ne now _ (notClaimed jobId workerId duration rfl)]
    exact lost
  | renewLease jobId workerId duration =>
    simp only [onJob]
    rw [setJob_field JobRow.isRecoverable (fun _ _ => rfl)]
    split
    · rename_i selected
      have leased := notLeased workerId (eq_of_beq (Bool.and_eq_true_iff.mp selected).2)
      rw [JobRow.isRecoverable, Bool.or_eq_false_iff] at lost
      simp only [JobRow.isRecoverable, renewData, lost.1, leased, Bool.false_and, Bool.or_false]
    · exact lost
  | updateBothJob jobId mark =>
    simp only [onJob]
    rw [setJob_of_id_ne now _ (notMarked jobId mark rfl)]
    exact lost
  | releaseJob jobId workerId =>
    simp only [onJob]
    rw [setJob_of_not_selected now _ ?_]
    · exact lost
    · rw [isReleasable, Bool.and_eq_false_iff]
      by_cases leased : isLeasedBy jobId workerId row = true
      · exact Or.inr (notLeased workerId (eq_of_beq (Bool.and_eq_true_iff.mp leased).2))
      · exact Or.inl (Bool.not_eq_true _ ▸ leased)
  | reclaim maxAttempts sweep passed =>
    rw [onJob_reclaim_of_not_mem now maxAttempts passed (notSwept maxAttempts sweep passed rfl)]
    exact lost
  | cancel importId =>
    simp only [onJob]
    rw [setJob_field JobRow.isRecoverable (fun _ _ => rfl)]
    split
    · rfl
    · exact lost
  | create | updateBothImport | releaseImport | persistBatch => exact lost

/-- A statement that neither marks the import nor sweeps its job does not end the import. -/
theorem isTerminal_onImport_eq_false {now : Nat} {db : Database} {statement : Statement}
    {row : ImportRow} (running : row.status.isTerminal = false)
    (notMarked : ∀ importId mark, statement = .updateBothImport importId mark →
      row.id ≠ importId)
    (notSwept : ∀ maxAttempts sweep passed, statement = .reclaim maxAttempts sweep passed →
      ∀ job ∈ sweep.expired, job.importId ≠ row.id) :
    (statement.onImport now db row).status.isTerminal = false := by
  have kept (selects : ImportRow → Bool) (data : ImportRow → ImportRow)
      (keeps : (data row).status.isTerminal = false) :
      (setImport now selects data row).status.isTerminal = false := by
    rw [setImport_status]
    split
    · exact keeps
    · exact running
  cases statement with
  | updateBothImport importId mark =>
    simp only [onImport]
    rw [setImport_of_id_ne now _ (notMarked importId mark rfl)]
    exact running
  | releaseImport importId => exact kept _ toPendingImport rfl
  | reclaim maxAttempts sweep passed =>
    rw [onImport_reclaim_of_not_mem now db maxAttempts passed
      (notSwept maxAttempts sweep passed rfl)]
    exact running
  | cancel importId => exact kept _ ImportRepository.cancelImport rfl
  | persistBatch input => exact kept _ _ running
  | create | claimNext | renewLease | updateBothJob | releaseJob => exact running

end Statement

namespace System

/-! ### What is asked -/

/-- The import has a terminal status. -/
def HasEnded (state : State) (importId : ImportId) : Prop :=
  ∃ row, state.db.findImport importId = some row ∧ row.status.isTerminal = true

/-- Whatever the parties do next, some run of theirs ends the import. -/
def CanEnd (ports : Ports) (config : Config) (state : State) (importId : ImportId) : Prop :=
  ∃ last, Transition.Reachable (step ports config) state last ∧ HasEnded last importId

/-- The clock advances, or a call of the worker is answered. -/
def Answers (workerId : WorkerId) (_ : State) (action : Action) (_ : State) : Prop :=
  (∃ milliseconds, action = .advance milliseconds) ∨
    ∃ event, action = .work workerId event ∧ WorkerProcess.isAnswered event = true

/-- The worker ends the import, with every call of it answered and no step of another party. -/
def EndsWith (ports : Ports) (config : Config) (state : State) (workerId : WorkerId)
    (importId : ImportId) : Prop :=
  ∃ last, HasEnded last importId ∧
    Transition.Leads (step ports config) (Answers workerId) state last

/-- The worker is about to poll for jobs. -/
def IsReady : Phase → Prop
  | .notStarted | .reclaiming | .sweeping _ | .polling => True
  | .executing _ _ | .stopping | .releasing _ | .stopped | .crashed => False

section

variable {ports : Ports} {config : Config} {state next : State} {action : Action}
  {workerId : WorkerId} {importId : ImportId}

/-! ### Executions come to an end -/

theorem EndsWith.after (enabled : step ports config state action = some next)
    (answers : Answers workerId state action next)
    (endsWith : EndsWith ports config next workerId importId) :
    EndsWith ports config state workerId importId := by
  obtain ⟨last, ended, leads⟩ := endsWith
  exact ⟨last, ended, (Transition.Leads.single enabled answers).trans leads⟩

theorem EndsWith.of_hasEnded (ended : HasEnded state importId) :
    EndsWith ports config state workerId importId :=
  ⟨state, ended, Transition.Leads.refl state⟩

/-- The last answer of an execution ends its import. -/
theorem hasEnded_of_last (coherent : Coherent ports state) {job : ClaimedJob} {point : Point}
    (executing : (state.workers workerId).phase = .executing job point)
    (isLast : point.isLast = true)
    (enabled : step ports config state (.work workerId (.reply .ok)) = some next) :
    HasEnded next job.importId := by
  obtain ⟨holdsJob, _, file, sent, stop, tracks⟩ := coherent.executing executing
  obtain ⟨mark, caller, rfl, terminal⟩ := terminal_of_isLast tracks isLast
  obtain ⟨emits, _⟩ := step_reply executing enabled
  obtain ⟨row, found⟩ := Option.isSome_iff_exists.mp
    (coherent.wellFormed.import_of_holdsJob holdsJob)
  have rowId : row.id = job.importId := lookup_key ImportRow.id found
  refine ⟨_, step_findImport enabled found, ?_⟩
  rw [emits]
  simp only [Point.statement, onImport, Statement.onImport, Statement.setImport_status, rowId,
    beq_self_eq_true, if_true, Mark.importData_status, terminal]

/-- The worker executes the job of the import and has located its file, or the import has
ended. -/
def Underway (ports : Ports) (workerId : WorkerId) (importId : ImportId) (state : State) : Prop :=
  Coherent ports state ∧ (HasEnded state importId ∨
    ∃ job point, (state.workers workerId).phase = .executing job point ∧
      job.importId = importId ∧ point ≠ .findByImportId)

/-- The calls the execution of a worker has left. -/
def callsLeft (ports : Ports) (workerId : WorkerId) (state : State) : Nat :=
  match (state.workers workerId).phase with
  | .executing _ point => point.callsLeft ports ⟨[], none⟩
  | _ => 0

theorem endsWith_of_underway (underway : Underway ports workerId importId state) :
    EndsWith ports config state workerId importId := by
  refine Transition.Leads.of_measure (Underway ports workerId importId)
    (fun state => HasEnded state importId) (callsLeft ports workerId) ?_ underway
  rintro current ⟨coherent, ended | ⟨job, point, executing, rfl, notFirst⟩⟩
  · exact Or.inl ended
  obtain ⟨later, enabled⟩ : ∃ later,
      step ports config current (.work workerId (.reply .ok)) = some later :=
    reply_enabled executing
  have coherentLater := coherent_step coherent enabled
  obtain ⟨_, after⟩ := step_reply executing enabled
  have callsNow : callsLeft ports workerId current = point.callsLeft ports ⟨[], none⟩ := by
    rw [callsLeft, executing]
  have positive : 0 < point.callsLeft ports ⟨[], none⟩ := point.callsLeft_pos
  refine Or.inr ⟨.work workerId (.reply .ok), later, enabled, Or.inr ⟨_, rfl, rfl⟩, ?_⟩
  cases isLast : point.isLast with
  | true =>
    have ended := hasEnded_of_last coherent executing isLast enabled
    refine ⟨⟨coherentLater, Or.inl ended⟩, ?_⟩
    obtain ⟨_, _, file, sent, stop, tracks⟩ := coherent.executing executing
    obtain ⟨mark, caller, rfl, _⟩ := terminal_of_isLast tracks isLast
    have stopped : callsLeft ports workerId later = 0 := by
      rw [callsLeft, after]
      cases caller with
      | fileFound => cases isLast
      | fileMissing | loopEnded | caught => rfl
    rw [stopped, callsNow]
    exact positive
  | false =>
    obtain ⟨nextPoint, goesOn⟩ : ∃ nextPoint,
        succeeded ports (config.batchSize workerId) current.db current.now job point =
          .awaiting nextPoint :=
      exists_awaiting (config.batchSize workerId) current.now current.db notFirst isLast
    obtain ⟨nextNotFirst, fewer⟩ := endsWithin_succeeded (config.batchSize workerId) current.db
      current.now ⟨[], none⟩ notFirst nextPoint goesOn
    rw [goesOn] at after
    have phase : (later.workers workerId).phase = .executing job nextPoint := by
      rw [after]
      rfl
    refine ⟨⟨coherentLater, Or.inr ⟨job, nextPoint, phase, rfl, nextNotFirst⟩⟩, ?_⟩
    rw [callsNow, callsLeft, phase]
    simp only
    omega

/-- An execution whose calls are all answered ends its import. -/
theorem endsWith_of_executes (coherent : Coherent ports state)
    (executes : Executes state workerId importId) :
    EndsWith ports config state workerId importId := by
  obtain ⟨job, point, executing, rfl⟩ := executes
  by_cases first : point = .findByImportId
  · subst first
    obtain ⟨next, enabled⟩ : ∃ next,
        step ports config state (.work workerId (.reply .ok)) = some next := reply_enabled executing
    obtain ⟨_, after⟩ := step_reply executing enabled
    have underway : Underway ports workerId job.importId next := by
      refine ⟨coherent_step coherent enabled, Or.inr ?_⟩
      rw [after, succeeded]
      split
      · exact ⟨job, _, rfl, rfl, Point.noConfusion⟩
      · exact ⟨job, _, rfl, rfl, Point.noConfusion⟩
    exact EndsWith.after enabled (Or.inr ⟨_, rfl, rfl⟩) (endsWith_of_underway underway)
  · exact endsWith_of_underway ⟨coherent, Or.inr ⟨job, point, executing, rfl, first⟩⟩

/-! ### A worker that polls gets to the job -/

/-- The step of the system in which the worker takes a step of its own. -/
theorem exists_step {event : Event} {statement : Option Statement} {worker : Worker}
    (moves : JobPollerService.step ports config state.db state.now workerId
      (state.workers workerId) event = some (statement, worker)) :
    ∃ next, step ports config state (.work workerId event) = some next ∧
      emitted ports config state (.work workerId event) = statement ∧
      next.workers workerId = worker := by
  obtain ⟨next, enabled⟩ : ∃ next,
      step ports config state (.work workerId event) = some next := by
    rw [step, act, moves]
    exact ⟨_, rfl⟩
  have moved := step_mover enabled
  rw [moves] at moved
  obtain ⟨emits, after⟩ := Prod.mk.inj (Option.some.inj moved)
  exact ⟨next, enabled, emits.symm, after.symm⟩

/-- A job that is in reach of the claim query can be claimed when its lease is up. -/
theorem exists_isClaimable {row : JobRow} (recoverable : row.isRecoverable = true) (now : Nat) :
    ∃ milliseconds, isClaimable (now + milliseconds) row = true := by
  rcases Bool.or_eq_true_iff.mp recoverable with pending | leased
  · exact ⟨0, by rw [isClaimable, pending, Bool.true_or]⟩
  · obtain ⟨isLeased, hasLimit⟩ := Bool.and_eq_true_iff.mp leased
    obtain ⟨limit, isLimit⟩ := Option.isSome_iff_exists.mp hasLimit
    refine ⟨limit + 1, ?_⟩
    rw [isClaimable, isLeased, leaseExpired, isLimit, Option.any_some, decide_eq_true (by omega)]
    exact Bool.or_true _

/-- The two rows of the import say that it has ended or that its job is in reach. -/
def IsCovered (state : State) (importId : ImportId) : Prop :=
  ∃ importRow jobRow, state.db.findImport importId = some importRow ∧
    state.db.findJobOf importId = some jobRow ∧ Covered importRow jobRow

/-- The step in which the worker claims a job. -/
theorem exists_claim (polling : (state.workers workerId).phase = .polling) {row : JobRow}
    (found : state.db.findJob row.id = some row) (claimable : isClaimable state.now row = true) :
    ∃ next, step ports config state (.work workerId (.claimNext row.id .acknowledged)) =
        some next ∧
      emitted ports config state (.work workerId (.claimNext row.id .acknowledged)) =
        some (.claimNext row.id workerId config.leaseDurationMs) ∧
      (next.workers workerId).phase = .executing (claimed workerId row) .findByImportId := by
  have moves : JobPollerService.step ports config state.db state.now workerId
      (state.workers workerId) (.claimNext row.id .acknowledged) =
        some (some (.claimNext row.id workerId config.leaseDurationMs),
          afterClaim workerId row (state.workers workerId) .acknowledged) := by
    simp only [JobPollerService.step, polling, found, claimable, if_true]
    rfl
  obtain ⟨next, enabled, emits, after⟩ := exists_step moves
  exact ⟨next, enabled, emits, by rw [after]; rfl⟩

theorem endsWith_of_claimable (coherent : Coherent ports state)
    (polling : (state.workers workerId).phase = .polling) {row : JobRow}
    (found : state.db.findJobOf importId = some row)
    (claimable : isClaimable state.now row = true) :
    EndsWith ports config state workerId importId := by
  have foundById := coherent.wellFormed.findJob_of_findJobOf found
  obtain ⟨next, enabled, _, phase⟩ : ∃ next, step ports config state _ = some next ∧ _ :=
    exists_claim polling foundById claimable
  refine EndsWith.after enabled (Or.inr ⟨_, rfl, rfl⟩) ?_
  refine endsWith_of_executes (coherent_step coherent enabled) ?_
  exact ⟨claimed workerId row, .findByImportId, phase, lookup_key JobRow.importId found⟩

theorem endsWith_of_polling (coherent : Coherent ports state)
    (polling : (state.workers workerId).phase = .polling) (isCovered : IsCovered state importId) :
    EndsWith ports config state workerId importId := by
  obtain ⟨importRow, row, foundImport, found, terminal | recoverable⟩ := isCovered
  · exact EndsWith.of_hasEnded ⟨importRow, foundImport, terminal⟩
  obtain ⟨milliseconds, claimable⟩ := exists_isClaimable recoverable state.now
  obtain ⟨later, advances⟩ : ∃ later,
      step ports config state (.advance milliseconds) = some later := ⟨_, rfl⟩
  refine EndsWith.after advances (Or.inl ⟨_, rfl⟩) ?_
  have coherentLater := coherent_step coherent advances
  cases advances
  exact endsWith_of_claimable coherentLater polling found claimable

/-- A sweep that commits leaves an import covered. -/
theorem isCovered_reclaim (coherent : Coherent ports state) {sweep : Sweep} {ack : Ack}
    {passed : List ImportId} (sweeping : (state.workers workerId).phase = .sweeping sweep)
    (enabled : step ports config state (.work workerId (.reclaim ack passed)) = some next)
    (emits : emitted ports config state (.work workerId (.reclaim ack passed)) =
      some (.reclaim config.maxJobAttempts sweep passed))
    (isCovered : IsCovered state importId) : IsCovered next importId := by
  obtain ⟨importRow, jobRow, foundImport, foundJob, covered⟩ := isCovered
  refine ⟨_, _, step_findImport enabled foundImport, step_findJobOf enabled foundJob, ?_⟩
  have importRowId : importRow.id = importId := lookup_key ImportRow.id foundImport
  have jobRowImport : jobRow.importId = importId := lookup_key JobRow.importId foundJob
  have ownJob : state.db.findJobOf jobRow.importId = some jobRow := by rw [jobRowImport, foundJob]
  rw [emits, onImport, onJob]
  refine Statement.reclaim_covered covered fun job member => ?_
  rw [coherent.wellFormed.holdsJob_iff (coherent.sweeping sweeping job member) ownJob,
    jobRowImport, importRowId]

theorem endsWith_of_sweeping (coherent : Coherent ports state) {sweep : Sweep}
    (sweeping : (state.workers workerId).phase = .sweeping sweep)
    (isCovered : IsCovered state importId) : EndsWith ports config state workerId importId := by
  have moves : JobPollerService.step ports config state.db state.now workerId
      (state.workers workerId) (.reclaim .acknowledged []) =
        some (some (.reclaim config.maxJobAttempts sweep []),
          { state.workers workerId with phase := .polling }) := by
    simp only [JobPollerService.step, sweeping]
    rfl
  obtain ⟨next, enabled, emits, after⟩ := exists_step moves
  refine EndsWith.after enabled (Or.inr ⟨_, rfl, rfl⟩) ?_
  refine endsWith_of_polling (coherent_step coherent enabled) (by rw [after]) ?_
  exact isCovered_reclaim coherent sweeping enabled emits isCovered

/-- A step that commits nothing leaves an import covered. -/
theorem isCovered_of_silent (enabled : step ports config state action = some next)
    (silent : emitted ports config state action = none) (isCovered : IsCovered state importId) :
    IsCovered next importId := by
  have same := step_db enabled
  rw [silent] at same
  rw [IsCovered, same]
  exact isCovered

theorem endsWith_of_reclaiming (coherent : Coherent ports state)
    (reclaiming : (state.workers workerId).phase = .reclaiming)
    (isCovered : IsCovered state importId) : EndsWith ports config state workerId importId := by
  have moves : JobPollerService.step ports config state.db state.now workerId
      (state.workers workerId) (.findExpired true) =
        some (none, { state.workers workerId with
          phase := afterFindExpired state.now state.db true }) := by
    simp only [JobPollerService.step, reclaiming]
  obtain ⟨next, enabled, emits, after⟩ := exists_step moves
  have coherentNext := coherent_step coherent enabled
  have isCoveredNext := isCovered_of_silent enabled emits isCovered
  refine EndsWith.after enabled (Or.inr ⟨_, rfl, rfl⟩) ?_
  have phase : (next.workers workerId).phase = afterFindExpired state.now state.db true := by
    rw [after]
  unfold afterFindExpired at phase
  split at phase
  · exact endsWith_of_sweeping coherentNext phase isCoveredNext
  · exact endsWith_of_polling coherentNext phase isCoveredNext

theorem endsWith_of_isReady (coherent : Coherent ports state)
    (ready : IsReady (state.workers workerId).phase) (isCovered : IsCovered state importId) :
    EndsWith ports config state workerId importId := by
  cases phase : (state.workers workerId).phase with
  | notStarted =>
    have moves : JobPollerService.step ports config state.db state.now workerId
        (state.workers workerId) .start =
          some (none, { state.workers workerId with
            phase := .reclaiming, lastReclaimAt := state.now }) := by
      simp only [JobPollerService.step, phase]
    obtain ⟨next, enabled, emits, after⟩ := exists_step moves
    refine EndsWith.after enabled (Or.inr ⟨_, rfl, rfl⟩) ?_
    exact endsWith_of_reclaiming (coherent_step coherent enabled) (by rw [after])
      (isCovered_of_silent enabled emits isCovered)
  | reclaiming => exact endsWith_of_reclaiming coherent phase isCovered
  | sweeping sweep => exact endsWith_of_sweeping coherent phase isCovered
  | polling => exact endsWith_of_polling coherent phase isCovered
  | executing | stopping | releasing | stopped | crashed =>
    rw [phase] at ready
    cases ready

/-! ### Stranded imports stay stranded -/

/-- The worker is between the read of a sweep that found the job of the import and its writes. -/
def Sweeps (state : State) (workerId : WorkerId) (importId : ImportId) : Prop :=
  ∃ sweep, (state.workers workerId).phase = .sweeping sweep ∧
    ∃ job ∈ sweep.expired, job.importId = importId

/-- Nobody is responsible for the import, and no sweep is about to touch it. -/
structure Stranded (ports : Ports) (importId : ImportId) (state : State) : Prop where
  coherent : Coherent ports state
  rows : ∃ importRow jobRow, state.db.findImport importId = some importRow ∧
    state.db.findJobOf importId = some jobRow ∧ importRow.status.isTerminal = false ∧
    jobRow.isRecoverable = false ∧ jobRow.LeaseWhole
  unexecuted : ∀ workerId, ¬ Executes state workerId importId
  unswept : ∀ workerId, ¬ Sweeps state workerId importId

theorem isRecoverable_of_isClaimable {now : Nat} {row : JobRow}
    (claimable : isClaimable now row = true) : row.isRecoverable = true := by
  rcases Bool.or_eq_true_iff.mp claimable with pending | expired
  · rw [JobRow.isRecoverable, pending, Bool.true_or]
  · obtain ⟨leased, up⟩ := Bool.and_eq_true_iff.mp expired
    rw [JobRow.isRecoverable, leased, Bool.true_and]
    cases limit : row.leasedUntil with
    | none =>
      rw [leaseExpired, limit] at up
      cases up
    | some _ => exact Bool.or_true _

/-- The statement of a step leaves both rows as lost as they were. -/
theorem stranded_rows (stranded : Stranded ports importId state)
    (enabled : step ports config state action = some next) :
    ∃ importRow jobRow, next.db.findImport importId = some importRow ∧
      next.db.findJobOf importId = some jobRow ∧ importRow.status.isTerminal = false ∧
      jobRow.isRecoverable = false ∧ jobRow.LeaseWhole := by
  obtain ⟨importRow, jobRow, foundImport, foundJob, running, lost, whole⟩ := stranded.rows
  have wellFormed := stranded.coherent.wellFormed
  have importRowId : importRow.id = importId := lookup_key ImportRow.id foundImport
  have jobRowImport : jobRow.importId = importId := lookup_key JobRow.importId foundJob
  have ownJob : state.db.findJobOf jobRow.importId = some jobRow := by rw [jobRowImport, foundJob]
  refine ⟨_, _, step_findImport enabled foundImport, step_findJobOf enabled foundJob, ?_⟩
  cases emits : emitted ports config state action with
  | none => exact ⟨running, lost, whole⟩
  | some statement =>
    have origin := emitted_origin emits
    have notSwept : ∀ maxAttempts sweep passed, statement = .reclaim maxAttempts sweep passed →
        ∀ job ∈ sweep.expired, job.importId ≠ importId := by
      rintro maxAttempts sweep passed rfl job member same
      cases origin with
      | reclaim sweeping => exact stranded.unswept _ ⟨sweep, sweeping, job, member, same⟩
      | execute executing calls => cases calls
    refine ⟨?_, ?_, Statement.leaseWhole_onJob state.now statement whole⟩
    · refine Statement.isTerminal_onImport_eq_false running ?_ (by rwa [importRowId])
      rintro marked mark rfl same
      cases origin with
      | execute executing calls =>
        exact stranded.unexecuted _
          ⟨_, _, executing, calls.importId.trans (same.symm.trans importRowId)⟩
    · refine Statement.isRecoverable_onJob_eq_false lost whole ?_ ?_ ?_
      · rintro jobId workerId duration rfl rfl
        cases origin with
        | claimNext polling found claimable =>
          rw [wellFormed.findJob_of_findJobOf foundJob] at found
          cases found
          rw [isRecoverable_of_isClaimable claimable] at lost
          cases lost
        | execute executing calls => cases calls
      · rintro jobId mark rfl rfl
        cases origin with
        | execute executing calls =>
          have holds := stranded.coherent.executing executing
          have same := (wellFormed.holdsJob_iff holds.1 ownJob).mp calls.jobId
          exact stranded.unexecuted _ ⟨_, _, executing, same.trans jobRowImport⟩
      · rintro maxAttempts sweep passed rfl job member same
        cases origin with
        | reclaim sweeping =>
          have holds := stranded.coherent.sweeping sweeping job member
          have belongs := (wellFormed.holdsJob_iff holds ownJob).mp same
          exact notSwept _ _ _ rfl job member (belongs.trans jobRowImport)
        | execute executing calls => cases calls

/-- Nobody starts to execute the job, and no sweep finds it. -/
theorem stranded_step (stranded : Stranded ports importId state)
    (enabled : step ports config state action = some next) : Stranded ports importId next where
  coherent := coherent_step stranded.coherent enabled
  rows := stranded_rows stranded enabled
  unexecuted := by
    rintro workerId ⟨job, point, executing, belongs⟩
    rcases step_phase enabled workerId with same | ⟨event, rfl, entered⟩
    · exact stranded.unexecuted workerId ⟨job, point, same.symm.trans executing, belongs⟩
    · rw [executing] at entered
      generalize emitted ports config state (.work workerId event) = statement at entered
      cases entered with
      | claimed polling found claimable =>
        rename_i jobId row
        obtain ⟨_, jobRow, _, foundJob, _, lost, _⟩ := stranded.rows
        have foundOf := stranded.coherent.wellFormed.findJobOf_of_findJob found
        rw [show row.importId = importId from belongs, foundJob] at foundOf
        cases foundOf
        rw [isRecoverable_of_isClaimable claimable] at lost
        cases lost
      | resumed before awaiting => exact stranded.unexecuted workerId ⟨job, _, before, belongs⟩
      | bare isBare => cases isBare
  unswept := by
    rintro workerId ⟨sweep, sweeping, job, member, belongs⟩
    rcases step_phase enabled workerId with same | ⟨event, rfl, entered⟩
    · exact stranded.unswept workerId ⟨sweep, same.symm.trans sweeping, job, member, belongs⟩
    · rw [sweeping] at entered
      generalize emitted ports config state (.work workerId event) = statement at entered
      cases entered with
      | swept =>
        obtain ⟨row, inTable, rfl⟩ := List.mem_map.mp member
        obtain ⟨_, jobRow, _, foundJob, _, lost, _⟩ := stranded.rows
        obtain ⟨inJobs, expired⟩ := List.mem_filter.mp inTable
        have foundOf : state.db.findJobOf row.importId = some row :=
          lookup_of_mem JobRow.importId stranded.coherent.wellFormed.jobImportIds inJobs
        rw [show row.importId = importId from belongs, foundJob] at foundOf
        cases foundOf
        have claimable : isClaimable state.now row = true :=
          Bool.or_eq_true_iff.mpr (Or.inr expired)
        rw [isRecoverable_of_isClaimable claimable] at lost
        cases lost
      | bare isBare => cases isBare

/-! ### What every state reached has -/

/-- All workers from some number on have not started. -/
def HasSpare (state : State) : Prop :=
  ∃ bound, ∀ workerId, bound ≤ workerId → (state.workers workerId).phase = .notStarted

theorem hasSpare_step (hasSpare : HasSpare state)
    (enabled : step ports config state action = some next) : HasSpare next := by
  obtain ⟨bound, spare⟩ := hasSpare
  have kept : ∀ workerId, bound ≤ workerId → (∀ event, action ≠ .work workerId event) →
      (next.workers workerId).phase = .notStarted := by
    intro workerId above quiet
    rcases step_worker enabled workerId with same | ⟨event, acts, _⟩
    · rw [same, spare workerId above]
    · exact absurd acts (quiet event)
  cases action with
  | work moving event =>
    refine ⟨max bound (moving + 1), fun workerId above =>
      kept workerId (le_of_max_le_left above) ?_⟩
    rintro other same
    cases same
    exact Nat.not_succ_le_self moving (le_of_max_le_right above)
  | advance | create | requestCancellation | cancel =>
    exact ⟨bound, fun workerId above => kept workerId above fun _ same => nomatch same⟩

/-- Every lease has a holder and an end, or neither. -/
def LeasesWhole (state : State) : Prop := ∀ row ∈ state.db.jobs, row.LeaseWhole

theorem leasesWhole_step (whole : LeasesWhole state)
    (enabled : step ports config state action = some next) : LeasesWhole next := by
  intro row member
  rw [step_db enabled] at member
  cases emits : emitted ports config state action with
  | none =>
    rw [emits] at member
    exact whole row member
  | some statement =>
    rw [emits, committed, Statement.commit_jobs, List.mem_append] at member
    rcases member with old | new
    · obtain ⟨before, inJobs, rfl⟩ := List.mem_map.mp old
      exact Statement.leaseWhole_onJob state.now statement (whole before inJobs)
    · cases statement with
      | create importId jobId storagePath createdAt =>
        obtain rfl := List.mem_singleton.mp new
        rfl
      | claimNext | renewLease | updateBothJob | updateBothImport | releaseJob | releaseImport
      | reclaim | cancel | persistBatch => cases new

/-! ### Which imports can still end -/

/-- The import has ended, a worker executes its job, or its job is in reach. -/
def IsAttended (state : State) (importId : ImportId) (importRow : ImportRow) : Prop :=
  importRow.status.isTerminal = true ∨ (∃ workerId, Executes state workerId importId) ∨
    ∃ jobRow, state.db.findJobOf importId = some jobRow ∧ jobRow.isRecoverable = true

theorem canEnd_of_endsWith (endsWith : EndsWith ports config state workerId importId) :
    CanEnd ports config state importId := by
  obtain ⟨last, ended, leads⟩ := endsWith
  obtain ⟨schedule, reaches, _⟩ := leads
  exact ⟨last, ⟨schedule, reaches⟩, ended⟩

end

/-- In a state that the parties can reach from empty tables, and where no sweep has read the
job of an import already, some run ends the import exactly when it has ended, a worker executes
its job, or its job is in reach of the claim query. -/
theorem canEnd_iff {ports : Ports} {config : Config} {now : Nat} {state : State}
    {importId : ImportId} {importRow : ImportRow}
    (reachable : Transition.Reachable (step ports config) (initial now Database.empty) state)
    (foundImport : state.db.findImport importId = some importRow)
    (unswept : ∀ workerId, ¬ Sweeps state workerId importId) :
    CanEnd ports config state importId ↔ IsAttended state importId importRow := by
  have coherent := coherent_reachable Database.wellFormed_empty reachable
  obtain ⟨jobRow, foundJob⟩ := Option.isSome_iff_exists.mp
    (coherent.wellFormed.imports importRow (lookup_mem ImportRow.id foundImport))
  rw [show importRow.id = importId from lookup_key ImportRow.id foundImport] at foundJob
  constructor
  · rintro ⟨last, leads, ended⟩
    by_contra unattended
    have whole : LeasesWhole state :=
      reachable.invariant LeasesWhole (fun _ member => nomatch member)
        fun _ _ _ whole enabled => leasesWhole_step whole enabled
    have stranded : Stranded ports importId state :=
      { coherent := coherent
        rows := by
          refine ⟨importRow, jobRow, foundImport, foundJob, ?_, ?_,
            whole jobRow (lookup_mem JobRow.importId foundJob)⟩
          · exact Bool.eq_false_iff.mpr fun terminal => unattended (Or.inl terminal)
          · exact Bool.eq_false_iff.mpr fun recoverable =>
              unattended (Or.inr (Or.inr ⟨jobRow, foundJob, recoverable⟩))
        unexecuted := fun workerId executes => unattended (Or.inr (Or.inl ⟨workerId, executes⟩))
        unswept := unswept }
    have strandedLast : Stranded ports importId last :=
      leads.invariant (Stranded ports importId) stranded
        fun _ _ _ stranded enabled => stranded_step stranded enabled
    obtain ⟨lastRow, _, foundLast, _, running, _⟩ := strandedLast.rows
    obtain ⟨endedRow, foundEnded, terminal⟩ := ended
    rw [foundLast] at foundEnded
    cases foundEnded
    rw [running] at terminal
    cases terminal
  · rintro (terminal | ⟨workerId, executes⟩ | ⟨row, found, recoverable⟩)
    · exact ⟨state, ⟨[], rfl⟩, importRow, foundImport, terminal⟩
    · exact canEnd_of_endsWith (endsWith_of_executes coherent executes)
    · -- A worker that has not started yet can take over.
      obtain ⟨bound, spare⟩ : HasSpare state :=
        reachable.invariant HasSpare ⟨0, fun _ _ => rfl⟩
          fun _ _ _ hasSpare enabled => hasSpare_step hasSpare enabled
      have ready : IsReady (state.workers bound).phase := by
        rw [spare bound (Nat.le_refl bound)]
        trivial
      exact canEnd_of_endsWith (endsWith_of_isReady coherent ready
        ⟨importRow, row, foundImport, found, Or.inr recoverable⟩)

/-- An import that is cancelled before its job was claimed can never end. -/
theorem canEnd_iff_cancelled : ∃ state,
    Transition.Reachable (step emptyFilePorts defaultConfig) (initial 0 Database.empty) state ∧
      ¬ CanEnd emptyFilePorts defaultConfig state 1 := by
  have trace : (Transition.run (step emptyFilePorts defaultConfig) (initial 0 Database.empty)
      cancelBeforeClaim).map (fun state => ((state.db.findImport 1).map ImportRow.status,
        (state.db.findJobOf 1).map JobRow.isRecoverable)) =
      some (some .CANCELLING, some false) := by decide
  obtain ⟨state, reaches, seen⟩ := Option.map_eq_some_iff.mp trace
  obtain ⟨status, recovers⟩ := Prod.mk.inj seen
  obtain ⟨importRow, foundImport, cancelling⟩ := Option.map_eq_some_iff.mp status
  have idle : ∀ workerId, (state.workers workerId).phase = .notStarted := by
    intro workerId
    cases reaches
    rfl
  have unswept : ∀ workerId, ¬ Sweeps state workerId 1 := by
    rintro workerId ⟨sweep, sweeping, _⟩
    cases (idle workerId).symm.trans sweeping
  refine ⟨state, ⟨cancelBeforeClaim, reaches⟩, fun canEnd => ?_⟩
  rcases (canEnd_iff ⟨cancelBeforeClaim, reaches⟩ foundImport unswept).mp canEnd with
    terminal | ⟨workerId, job, point, executing, _⟩ | ⟨jobRow, found, recoverable⟩
  · rw [cancelling] at terminal
    cases terminal
  · cases (idle workerId).symm.trans executing
  · rw [found, Option.map_some, recoverable] at recovers
    cases recovers

end System

end ImportService
