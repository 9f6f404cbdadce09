/-
This file asks what an execution can still write after another worker has claimed its
job. The claim leaves a mark the execution cannot see: the row counts one attempt more
than the execution was told, and its lease names another worker (`Superseded`). Both last
as long as the execution does. `renewLease` compares the lease and writes nothing then.
`persistBatch` and the statements of `updateBoth` do not compare it, so the rows stay as
they are as long as the overtaken execution commits none of these, and, once the clock
has moved past their last update, no longer (`fencing_iff`; `overtaken_execution_marks`
is such a run).
-/

import ImportService.Integrity
import ImportService.Attempts

namespace ImportService

open KeyedTable JobRepository ProcessImportFile JobPollerService

namespace Statement

/-- Only a claim gives the lease to a worker. -/
theorem onJob_leasedBy {now : Nat} {statement : Statement} {row : JobRow} {workerId : WorkerId}
    (leased : (statement.onJob now row).leasedBy = some workerId) :
    row.leasedBy = some workerId ∨
      ∃ jobId duration, statement = .claimNext jobId workerId duration := by
  have kept (selects : JobRow → Bool) (data : JobRow → JobRow) (before : JobRow)
      (keeps : (data before).leasedBy = some workerId → before.leasedBy = some workerId)
      (after : (setJob now selects data before).leasedBy = some workerId) :
      before.leasedBy = some workerId := by
    rw [setJob_field JobRow.leasedBy (fun _ _ => rfl)] at after
    split at after
    · exact keeps after
    · exact after
  cases statement with
  | claimNext jobId claimer duration =>
    rw [onJob, setJob_field JobRow.leasedBy (fun _ _ => rfl)] at leased
    split at leased
    · cases leased
      exact Or.inr ⟨jobId, duration, rfl⟩
    · exact Or.inl leased
  | renewLease jobId renewer duration =>
    exact Or.inl (kept _ (renewData duration now) row id leased)
  | updateBothJob jobId mark =>
    refine Or.inl (kept _ mark.jobData row (fun marked => ?_) leased)
    cases mark <;> exact marked
  | releaseJob jobId releaser =>
    refine Or.inl (kept _ toPending row (fun released => ?_) leased)
    cases released
  | reclaim maxAttempts sweep passed =>
    refine Or.inl (kept _ abandonJob row (fun abandoned => ?_) (kept _ toPending _ (fun reset => ?_)
      leased))
    · cases abandoned
    · cases reset
  | cancel importId => exact Or.inl (kept _ ImportRepository.cancelJob row id leased)
  | create | updateBothImport | releaseImport | persistBatch => exact Or.inl leased

theorem onJob_attemptCount_le (now : Nat) (statement : Statement) (row : JobRow) :
    row.attemptCount ≤ (statement.onJob now row).attemptCount := by
  rw [onJob_attemptCount]
  split
  · exact Nat.le_succ _
  · exact Nat.le_refl _

/-- The statement compares the lease of the row with the worker that commits it. -/
def isFenced : Statement → Bool
  | .renewLease _ _ _ => true
  | .create _ _ _ _ | .claimNext _ _ _ | .updateBothJob _ _ | .updateBothImport _ _
  | .releaseJob _ _ | .releaseImport _ | .reclaim _ _ _ | .cancel _ | .persistBatch _ => false

end Statement

namespace System

/-! ### What is asked -/

/-- In a reachable state a worker executes a job, and in the next step another worker's claim
of that job is committed. -/
structure Overtaken (ports : Ports) (config : Config) (stalled rival : WorkerId)
    (job : ClaimedJob) (state next : State) : Prop where
  reachable : ∃ now, Transition.Reachable (step ports config) (initial now Database.empty) state
  executing : ∃ point, (state.workers stalled).phase = .executing job point
  other : rival ≠ stalled
  claims : ∃ ack : Ack, ack.committed = true ∧
    step ports config state (.work rival (.claimNext job.id ack)) = some next

/-- A step of the execution leaves the row of its job and the row of its import as they are. -/
def Fenced (stalled : WorkerId) (job : ClaimedJob) (state : State) (action : Action)
    (next : State) : Prop :=
  ∀ point event, (state.workers stalled).phase = .executing job point →
    action = .work stalled event →
      next.db.findJob job.id = state.db.findJob job.id ∧
        next.db.findImport job.importId = state.db.findImport job.importId

/-- A step of the execution commits no statement that does not compare the lease. -/
def OnlyFencedWrites (ports : Ports) (config : Config) (stalled : WorkerId) (job : ClaimedJob)
    (state : State) (action : Action) (_ : State) : Prop :=
  ∀ point event statement, (state.workers stalled).phase = .executing job point →
    action = .work stalled event → emitted ports config state action = some statement →
      statement.isFenced = true

/-- When the execution takes a step, the clock shows another time than the last update of the
two rows. -/
def ClockMoved (stalled : WorkerId) (job : ClaimedJob) (state : State) (action : Action)
    (_ : State) : Prop :=
  ∀ point event, (state.workers stalled).phase = .executing job point →
    action = .work stalled event →
      (∀ row, state.db.findJob job.id = some row → row.updatedAt ≠ state.now) ∧
        ∀ row, state.db.findImport job.importId = some row → row.updatedAt ≠ state.now

/-! ### The invariants -/

/-- The row of an executed job counts at least the attempts its execution was told. -/
structure ClaimsCounted (ports : Ports) (state : State) : Prop where
  coherent : Coherent ports state
  counted : ∀ workerId job point, (state.workers workerId).phase = .executing job point →
    ∀ row, state.db.findJob job.id = some row → job.attemptCount ≤ row.attemptCount

/-- The job has been claimed again, and as long as the execution lasts the lease names
another worker. -/
structure Superseded (ports : Ports) (stalled : WorkerId) (job : ClaimedJob) (state : State) :
    Prop where
  coherent : Coherent ports state
  claimed : ∃ row, state.db.findJob job.id = some row ∧ job.attemptCount < row.attemptCount
  lease : ∀ point, (state.workers stalled).phase = .executing job point →
    ∀ row, state.db.findJob job.id = some row → row.leasedBy ≠ some stalled

variable {ports : Ports} {config : Config} {state next : State} {action : Action}

theorem onJob_attemptCount_le (now : Nat) (statement : Option Statement) (row : JobRow) :
    row.attemptCount ≤ (onJob now statement row).attemptCount := by
  cases statement with
  | none => exact Nat.le_refl _
  | some statement => exact Statement.onJob_attemptCount_le now statement row

/-- The row of a job that was there before a step, as the step leaves it. -/
theorem findJob_of_holds (enabled : step ports config state action = some next) {jobId : JobId}
    {importId : ImportId} (holds : state.db.HoldsJob jobId importId) {row : JobRow}
    (found : next.db.findJob jobId = some row) :
    ∃ old, state.db.findJob jobId = some old ∧
      row = onJob state.now (emitted ports config state action) old := by
  obtain ⟨old, foundOld, _⟩ := holds
  rw [step_findJob enabled foundOld] at found
  exact ⟨old, foundOld, (Option.some.inj found).symm⟩

theorem claimsCounted_step (invariant : ClaimsCounted ports state)
    (enabled : step ports config state action = some next) : ClaimsCounted ports next where
  coherent := coherent_step invariant.coherent enabled
  counted := by
    intro workerId job point phase row found
    rcases step_phase enabled workerId with same | ⟨event, rfl, entered⟩
    · have before := same.symm.trans phase
      have holds := invariant.coherent.executing before
      obtain ⟨old, foundOld, rfl⟩ := findJob_of_holds enabled holds.1 found
      exact (invariant.counted workerId job point before old foundOld).trans
        (onJob_attemptCount_le _ _ old)
    · rw [phase] at entered
      generalize emits : emitted ports config state (.work workerId event) = statement at entered
      cases entered with
      | claimed polling picked claimable =>
        rename_i jobId old
        have rowId : old.id = jobId := lookup_key JobRow.id picked
        subst rowId
        rw [show (claimed workerId old).id = old.id from rfl, step_findJob enabled picked, emits]
          at found
        rw [← Option.some.inj found, onJob, Statement.onJob_attemptCount]
        simp [Statement.claims, claimed]
      | resumed executing awaiting =>
        have holds := invariant.coherent.executing executing
        obtain ⟨old, foundOld, rfl⟩ := findJob_of_holds enabled holds.1 found
        exact (invariant.counted workerId job _ executing old foundOld).trans
          (onJob_attemptCount_le _ _ old)
      | bare isBare => cases isBare

theorem claimsCounted_reachable {now : Nat}
    (reachable : Transition.Reachable (step ports config) (initial now Database.empty) state) :
    ClaimsCounted ports state := by
  refine reachable.invariant (ClaimsCounted ports) ?_
    fun _ _ _ invariant enabled => claimsCounted_step invariant enabled
  exact ⟨coherent_initial ports now Database.wellFormed_empty, fun _ _ _ phase => nomatch phase⟩

/-- A worker that executes a job gets no lease in a step. -/
theorem lease_not_gained {stalled : WorkerId} {job : ClaimedJob} {point : Point}
    (phase : (state.workers stalled).phase = .executing job point) {row : JobRow}
    (free : row.leasedBy ≠ some stalled) :
    (onJob state.now (emitted ports config state action) row).leasedBy ≠ some stalled := by
  cases emits : emitted ports config state action with
  | none => exact free
  | some statement =>
    intro leased
    rcases Statement.onJob_leasedBy leased with before | ⟨jobId, duration, rfl⟩
    · exact free before
    · cases emitted_origin emits with
      | claimNext polling => cases phase.symm.trans polling
      | execute _ calls => cases calls

theorem superseded_step {stalled : WorkerId} {job : ClaimedJob}
    (superseded : Superseded ports stalled job state)
    (enabled : step ports config state action = some next) :
    Superseded ports stalled job next := by
  obtain ⟨before, foundBefore, more⟩ := superseded.claimed
  have foundAfter := step_findJob enabled foundBefore
  refine ⟨coherent_step superseded.coherent enabled,
    ⟨_, foundAfter, more.trans_le (onJob_attemptCount_le _ _ before)⟩, ?_⟩
  intro point phase row found
  rw [foundAfter] at found
  obtain rfl := Option.some.inj found
  rcases step_phase enabled stalled with same | ⟨event, rfl, entered⟩
  · have executing := same.symm.trans phase
    exact lease_not_gained executing (superseded.lease point executing before foundBefore)
  · rw [phase] at entered
    generalize emits : emitted ports config state (.work stalled event) = statement at entered
    cases entered with
    | claimed polling picked claimable =>
      rename_i jobId old
      -- a new claim tells the worker one attempt more than it was told before
      have rowId : old.id = jobId := lookup_key JobRow.id picked
      rw [show (JobRepository.claimed stalled old).id = old.id from rfl, rowId, picked]
        at foundBefore
      obtain rfl := Option.some.inj foundBefore
      exact absurd more (Nat.not_lt_of_le (Nat.le_succ _))
    | resumed executing awaiting =>
      rw [← emits]
      exact lease_not_gained executing (superseded.lease _ executing before foundBefore)
    | bare isBare => cases isBare

/-- The claim of a rival supersedes the execution. -/
theorem superseded_of_overtaken {stalled rival : WorkerId} {job : ClaimedJob}
    (overtaken : Overtaken ports config stalled rival job state next) :
    Superseded ports stalled job next := by
  obtain ⟨⟨now, reachable⟩, ⟨point, executing⟩, other, ack, committed, enabled⟩ := overtaken
  have invariant := claimsCounted_reachable reachable
  have holds := invariant.coherent.executing executing
  obtain ⟨row, found, _⟩ := holds.1
  have rowId : row.id = job.id := lookup_key JobRow.id found
  have emits : emitted ports config state (.work rival (.claimNext job.id ack)) =
      some (.claimNext job.id rival config.leaseDurationMs) := by
    have moved := step_mover enabled
    rw [JobPollerService.step] at moved
    split at moved
    · split at moved
      · rw [← (Prod.mk.inj (Option.some.inj moved)).1, Ack.issued, committed]
        rfl
      · cases moved
    · cases moved
  have foundAfter := step_findJob enabled found
  rw [emits, onJob, Statement.onJob] at foundAfter
  refine ⟨coherent_step invariant.coherent enabled, ⟨_, foundAfter, ?_⟩, ?_⟩
  · rw [Statement.setJob_field JobRow.attemptCount (fun _ _ => rfl), rowId, beq_self_eq_true]
    exact Nat.lt_succ_of_le (invariant.counted stalled job point executing row found)
  · intro _ _ rowAfter again
    rw [foundAfter] at again
    rw [← Option.some.inj again, Statement.setJob_field JobRow.leasedBy (fun _ _ => rfl), rowId,
      beq_self_eq_true]
    intro same
    exact other (Option.some.inj same)

/-! ### The rows -/

/-- A superseded execution renews nothing. -/
theorem renewLease_superseded {stalled : WorkerId} {job : ClaimedJob} {row : JobRow}
    (free : row.leasedBy ≠ some stalled) (now duration : Nat) :
    (Statement.renewLease job.id stalled duration).onJob now row = row := by
  have notSelected : isLeasedBy job.id stalled row = false := by
    simp [isLeasedBy, free]
  exact Statement.setJob_of_not_selected now _ notSelected

theorem fenced_of_onlyFencedWrites {stalled : WorkerId} {job : ClaimedJob}
    (superseded : Superseded ports stalled job state)
    (enabled : step ports config state action = some next)
    (onlyFenced : OnlyFencedWrites ports config stalled job state action next) :
    Fenced stalled job state action next := by
  rintro point event executing rfl
  have unchanged : ∀ row, state.db.findJob job.id = some row →
      onJob state.now (emitted ports config state (.work stalled event)) row = row ∧
        ∀ importRow, onImport state.now state.db
          (emitted ports config state (.work stalled event)) importRow = importRow := by
    intro row found
    cases emits : emitted ports config state (.work stalled event) with
    | none => exact ⟨rfl, fun _ => rfl⟩
    | some statement =>
      have fenced := onlyFenced point event statement executing rfl emits
      cases emitted_origin emits with
      | execute current calls =>
        rw [executing] at current
        cases current
        cases calls with
        | renewLease =>
          have holds := superseded.coherent.executing executing
          rw [holds.2.1]
          exact ⟨renewLease_superseded (superseded.lease _ executing row found) _ _,
            fun _ => rfl⟩
        | updateBothJob | updateBothImport | persistBatch => cases fenced
      | reclaim | claimNext | releaseJob | releaseImport => cases fenced
  have holds := superseded.coherent.executing executing
  obtain ⟨row, found, _⟩ := holds.1
  obtain ⟨importRow, foundImport⟩ := Option.isSome_iff_exists.mp
    (superseded.coherent.wellFormed.import_of_holdsJob holds.1)
  obtain ⟨sameJob, sameImport⟩ := unchanged row found
  exact ⟨by rw [step_findJob enabled found, sameJob, found],
    by rw [step_findImport enabled foundImport, sameImport, foundImport]⟩

/-- A statement of an execution that does not compare the lease leaves its time on one of the
two rows. -/
theorem updatedAt_of_calls {job : ClaimedJob} {file : ImportFileLocation} {sent : Batch}
    {stop : Option Nat} {point : Point} {statement : Statement} (calls : Calls job point statement)
    (bare : statement.isFenced = false) (tracks : Tracks ports job file sent stop point)
    (now : Nat) (db : Database) {row : JobRow} (rowId : row.id = job.id) {importRow : ImportRow}
    (importId : importRow.id = job.importId) :
    (statement.onJob now row).updatedAt = now ∨
      (statement.onImport now db importRow).updatedAt = now := by
  cases calls with
  | updateBothJob => exact Or.inl (by simp [Statement.onJob, Statement.setJob, updateRow, rowId])
  | updateBothImport =>
    exact Or.inr (by simp [Statement.onImport, Statement.setImport, updateRow, importId])
  | persistBatch =>
    obtain ⟨batch, rfl, _⟩ := tracks
    refine Or.inr ?_
    simp [Statement.onImport, Statement.setImport, updateRow, importId, scoredInput, persistInput]
  | renewLease => cases bare

theorem onlyFencedWrites_of_fenced {stalled : WorkerId} {job : ClaimedJob}
    (superseded : Superseded ports stalled job state)
    (enabled : step ports config state action = some next)
    (moved : ClockMoved stalled job state action next)
    (fenced : Fenced stalled job state action next) :
    OnlyFencedWrites ports config stalled job state action next := by
  rintro point event statement executing rfl emits
  rw [← Bool.not_eq_false]
  intro bare
  obtain ⟨holdsJob, _, file, sent, stop, tracks⟩ := superseded.coherent.executing executing
  obtain ⟨importRow, foundImport⟩ := Option.isSome_iff_exists.mp
    (superseded.coherent.wellFormed.import_of_holdsJob holdsJob)
  obtain ⟨row, found, _⟩ := holdsJob
  obtain ⟨sameJob, sameImport⟩ := fenced point event executing rfl
  obtain ⟨jobMoved, importMoved⟩ := moved point event executing rfl
  rw [step_findJob enabled found, emits, found] at sameJob
  rw [step_findImport enabled foundImport, emits, foundImport] at sameImport
  have sameJobRow : statement.onJob state.now row = row := Option.some.inj sameJob
  have sameImportRow : statement.onImport state.now state.db importRow = importRow :=
    Option.some.inj sameImport
  have calls : Calls job point statement := by
    cases emitted_origin emits with
    | execute current calls =>
      rw [executing] at current
      cases current
      exact calls
    | reclaim phase => cases executing.symm.trans phase
    | claimNext phase => cases executing.symm.trans phase
    | releaseImport phase => cases executing.symm.trans phase
    | releaseJob phase => cases executing.symm.trans phase
  rcases updatedAt_of_calls calls bare tracks state.now state.db
      (lookup_key JobRow.id found) (lookup_key ImportRow.id foundImport) with onRow | onImportRow
  · rw [sameJobRow] at onRow
    exact jobMoved row found onRow
  · rw [sameImportRow] at onImportRow
    exact importMoved importRow foundImport onImportRow

/-! ### Runs -/

/-- Once a rival's claim is committed, the overtaken execution leaves the rows of its job and
its import as they are in every later step if it only commits fenced writes. Where the clock
has moved past the last update of the rows, it leaves them only then. -/
theorem fencing_iff {stalled rival : WorkerId} {job : ClaimedJob}
    (overtaken : Overtaken ports config stalled rival job state next) (later : List Action) :
    (Transition.Every (step ports config) (OnlyFencedWrites ports config stalled job) next later →
      Transition.Every (step ports config) (Fenced stalled job) next later) ∧
    (Transition.Every (step ports config) (ClockMoved stalled job) next later →
      (Transition.Every (step ports config) (Fenced stalled job) next later ↔
        Transition.Every (step ports config) (OnlyFencedWrites ports config stalled job) next
          later)) := by
  have superseded := superseded_of_overtaken overtaken
  constructor
  · intro onlyFenced
    refine Transition.Every.imp (Superseded ports stalled job) ?_ ?_ superseded onlyFenced
    · exact fun _ _ _ before enabled _ => superseded_step before enabled
    · exact fun _ _ _ before enabled here => fenced_of_onlyFencedWrites before enabled here
  · intro moved
    refine Transition.every_congr_of (Superseded ports stalled job) ?_ ?_ superseded moved
    · exact fun _ _ _ before enabled _ => superseded_step before enabled
    · exact fun _ _ _ before enabled movedHere =>
        ⟨onlyFencedWrites_of_fenced before enabled movedHere,
          fenced_of_onlyFencedWrites before enabled⟩

/-- Worker 1 stalls in the scan of its file until its lease has run out. -/
def stallInScan : List Action :=
  [upload 1] ++ startUp 1 ++ startUp 2 ++ [.work 1 (.claimNext 1 .acknowledged)] ++
    replies 1 2 ++ [.advance 120001]

/-- The job of a worker that has stalled. -/
def stalledJob : ClaimedJob where
  id := 1
  importId := 1
  status := .CLAIMED
  attemptCount := 1
  workerId := 1

/-- Worker 2 claims the job of worker 1, which then marks it. -/
theorem exists_overtaken :
    ∃ state next last, Overtaken emptyFilePorts defaultConfig 1 2 stalledJob state next ∧
      step emptyFilePorts defaultConfig next (.work 1 (.reply .ok)) = some last ∧
      (∃ point, (next.workers 1).phase = .executing stalledJob point) ∧
      (next.db.findJob 1).map JobRow.status = some .CLAIMED ∧
      (last.db.findJob 1).map JobRow.status = some .PROCESSING := by
  have trace : ((Transition.run (step emptyFilePorts defaultConfig) (initial 0 Database.empty)
      stallInScan).bind fun state =>
        (step emptyFilePorts defaultConfig state (.work 2 (.claimNext 1 .acknowledged))).bind
          fun next => (step emptyFilePorts defaultConfig next (.work 1 (.reply .ok))).map
            fun last => (((state.workers 1).phase, (next.workers 1).phase),
              (next.db.findJob 1).map JobRow.status, (last.db.findJob 1).map JobRow.status)) =
      some ((.executing stalledJob (.updateBoth (.processing 0 0) .job (.fileFound ⟨[], none⟩)),
        .executing stalledJob (.updateBoth (.processing 0 0) .job (.fileFound ⟨[], none⟩))),
        some .CLAIMED, some .PROCESSING) := by decide
  obtain ⟨state, reaches, claimed⟩ := Option.bind_eq_some_iff.mp trace
  obtain ⟨next, claims, marked⟩ := Option.bind_eq_some_iff.mp claimed
  obtain ⟨last, marks, seen⟩ := Option.map_eq_some_iff.mp marked
  obtain ⟨phases, statuses⟩ := Prod.mk.inj seen
  obtain ⟨phase, phaseAfter⟩ := Prod.mk.inj phases
  obtain ⟨before, after⟩ := Prod.mk.inj statuses
  exact ⟨state, next, last, ⟨⟨0, _, reaches⟩, ⟨_, phase⟩, by decide, .acknowledged, rfl, claims⟩,
    marks, ⟨_, phaseAfter⟩, before, after⟩

theorem fencing_iff_stalledJob :
    ∃ state next, Overtaken emptyFilePorts defaultConfig 1 2 stalledJob state next ∧
      ∀ later,
        Transition.Every (step emptyFilePorts defaultConfig)
            (OnlyFencedWrites emptyFilePorts defaultConfig 1 stalledJob) next later →
          Transition.Every (step emptyFilePorts defaultConfig) (Fenced 1 stalledJob) next
            later := by
  obtain ⟨state, next, _, overtaken, _⟩ := exists_overtaken
  exact ⟨state, next, overtaken, fun later => (fencing_iff overtaken later).1⟩

/-- The overtaken execution marks the job that worker 2 has claimed. -/
theorem overtaken_execution_marks :
    ∃ state next, Overtaken emptyFilePorts defaultConfig 1 2 stalledJob state next ∧
      ¬ Transition.Every (step emptyFilePorts defaultConfig) (Fenced 1 stalledJob) next
        [.work 1 (.reply .ok)] := by
  obtain ⟨state, next, last, overtaken, marks, ⟨point, phase⟩, before, after⟩ := exists_overtaken
  refine ⟨state, next, overtaken, fun every => ?_⟩
  have same := ((every last marks).1 point (.reply .ok) phase rfl).1
  rw [show stalledJob.id = 1 from rfl] at same
  rw [same, before] at after
  cases after

end System

end ImportService
