/-
This file asks whether a lease that has not run out keeps the other workers off the job:
no claim, release or sweep of another worker should change the status or the lease of
the job, nor the status of its import. The claim and the release select the row by the
lease it has. The sweep selects it by the id it read before its transaction, so it takes
a lease away that was granted or renewed in between, and that is the only way
(`lease_exclusive_iff`; `claimed_then_swept` is such a run). The two statements of
`releaseLease` count as one here: no other step comes between them (`ReleasesAtomic`).
-/

import ImportService.Integrity

namespace ImportService

open KeyedTable JobRepository ProcessImportFile JobPollerService

/-- The worker has the lease of the job, and it has not run out. -/
def JobRow.HeldBy (row : JobRow) (now : Nat) (holder : WorkerId) : Prop :=
  row.leasedBy = some holder ∧ ∃ limit, row.leasedUntil = some limit ∧ now ≤ limit

/-- The steps of `claimNext`, `releaseLease` and `reclaimExpiredLeases` that write. -/
def Event.isLeaseWrite : Event → Bool
  | .claimNext _ _ | .releaseJob _ | .releaseImport _ | .reclaim _ _ => true
  | .start | .findExpired _ | .claimNone | .reply _ | .stop | .crash => false

namespace Statement

theorem isClaimable_eq_false {now : Nat} {holder : WorkerId} {row : JobRow}
    (held : row.HeldBy now holder) (notPending : row.status ≠ .PENDING) :
    isClaimable now row = false := by
  obtain ⟨_, limit, until_, valid⟩ := held
  simp [isClaimable, notPending, leaseExpired, until_, valid]

/-- A job of the sweep ends without a lease. -/
theorem onJob_reclaim_leasedBy (now maxAttempts : Nat) {sweep : Sweep} (passed : List ImportId)
    {job : ExpiredJob} (member : job ∈ sweep.expired) {row : JobRow} (rowId : row.id = job.id) :
    ((reclaim maxAttempts sweep passed).onJob now row).leasedBy = none := by
  simp only [onJob]
  rw [setJob_field JobRow.leasedBy (fun _ _ => rfl), selectsJob_abandonJob]
  by_cases below : job.attemptCount < maxAttempts
  · have selected : selectsJob (sweep.toReset maxAttempts) row = true := by
      rw [selectsJob_iff]
      exact ⟨job, List.mem_filter.mpr ⟨member, decide_eq_true below⟩, rowId.symm⟩
    rw [if_pos selected]
    rfl
  · have selected : selectsJob (sweep.toFail maxAttempts) row = true := by
      rw [selectsJob_iff]
      exact ⟨job, List.mem_filter.mpr ⟨member, decide_eq_true (Nat.le_of_not_lt below)⟩,
        rowId.symm⟩
    rw [setJob_field JobRow.leasedBy (fun _ _ => rfl), if_pos selected]
    split <;> rfl

/-- A sweep leaves a job alone that it has not read. -/
theorem onJob_reclaim_of_not_mem (now maxAttempts : Nat) {sweep : Sweep}
    (passed : List ImportId) {row : JobRow} (spared : ∀ job ∈ sweep.expired, job.id ≠ row.id) :
    (reclaim maxAttempts sweep passed).onJob now row = row := by
  have notSelected : ∀ jobs : List ExpiredJob, jobs ⊆ sweep.expired →
      selectsJob jobs row = false := by
    intro jobs subset
    rw [← Bool.not_eq_true, selectsJob_iff]
    rintro ⟨job, member, same⟩
    exact spared job (subset member) same
  exact onJob_reclaim_of_not_selected now maxAttempts passed
    (notSelected _ (sweep.toFail_subset maxAttempts))
    (notSelected _ (sweep.toReset_subset maxAttempts))

theorem onImport_reclaim_of_not_mem (now : Nat) (db : Database) (maxAttempts : Nat)
    {sweep : Sweep} (passed : List ImportId) {row : ImportRow}
    (spared : ∀ job ∈ sweep.expired, job.importId ≠ row.id) :
    (reclaim maxAttempts sweep passed).onImport now db row = row := by
  have notSelected : ∀ jobs : List ExpiredJob, jobs ⊆ sweep.expired →
      selectsImport jobs row = false := by
    intro jobs subset
    rw [← Bool.not_eq_true, selectsImport_iff]
    rintro ⟨job, member, same⟩
    exact spared job (subset member) same
  exact onImport_reclaim_of_not_selected now db maxAttempts passed
    (notSelected _ (sweep.toFail_subset maxAttempts))
    (notSelected _ (sweep.toReset_subset maxAttempts))

theorem onJob_pending_leasedBy {now : Nat} {statement : Statement} {row : JobRow}
    (free : row.status = .PENDING → row.leasedBy = none)
    (pending : (statement.onJob now row).status = .PENDING) :
    (statement.onJob now row).leasedBy = none := by
  have kept (selects : JobRow → Bool) (data : JobRow → JobRow) (before : JobRow)
      (freeBefore : before.status = .PENDING → before.leasedBy = none)
      (freeData : (data before).status = .PENDING → (data before).leasedBy = none)
      (pendingAfter : (setJob now selects data before).status = .PENDING) :
      (setJob now selects data before).leasedBy = none := by
    rw [setJob_status] at pendingAfter
    rw [setJob_field JobRow.leasedBy (fun _ _ => rfl)]
    split
    · rename_i selected
      rw [if_pos selected] at pendingAfter
      exact freeData pendingAfter
    · rename_i notSelected
      rw [if_neg notSelected] at pendingAfter
      exact freeBefore pendingAfter
  cases statement with
  | claimNext jobId workerId duration =>
    exact kept _ (claimData workerId duration now) row free (fun claimed => nomatch claimed) pending
  | renewLease jobId workerId duration =>
    exact kept _ (renewData duration now) row free free pending
  | updateBothJob jobId mark =>
    refine kept _ mark.jobData row free (fun marked => ?_) pending
    rw [Mark.jobData_status] at marked
    cases mark <;> cases marked
  | releaseJob jobId workerId => exact kept _ toPending row free (fun _ => rfl) pending
  | reclaim maxAttempts sweep passed =>
    refine kept _ toPending _ (fun failed => ?_) (fun _ => rfl) pending
    exact kept _ abandonJob row free (fun abandoned => nomatch abandoned) failed
  | cancel importId =>
    exact kept _ ImportRepository.cancelJob row free (fun cancelled => nomatch cancelled) pending
  | create | updateBothImport | releaseImport | persistBatch => exact free pending

end Statement

namespace System

/-- No claim, release or sweep of another worker touches a job whose lease is held. -/
def LeaseExclusive (state : State) (action : Action) (next : State) : Prop :=
  ∀ jobId row holder workerId event, state.db.findJob jobId = some row →
    row.HeldBy state.now holder → action = .work workerId event → workerId ≠ holder →
    Event.isLeaseWrite event = true →
      (∃ after, next.db.findJob jobId = some after ∧ after.status = row.status ∧
        after.leasedBy = row.leasedBy ∧ after.leasedUntil = row.leasedUntil) ∧
      (next.db.findImport row.importId).map ImportRow.status =
        (state.db.findImport row.importId).map ImportRow.status

/-- A sweep that commits has read no job whose lease another worker holds by now. -/
def SweepsSpareLeases (ports : Ports) (config : Config) (state : State) (action : Action)
    (_ : State) : Prop :=
  ∀ workerId event maxAttempts sweep passed, action = .work workerId event →
    emitted ports config state action = some (.reclaim maxAttempts sweep passed) →
    ∀ job ∈ sweep.expired, ∀ row holder, state.db.findJob job.id = some row →
      row.HeldBy state.now holder → holder = workerId

/-- The last statement of a release follows its first one at once. -/
def ReleasesAtomic (state : State) (action : Action) (_ : State) : Prop :=
  ∀ workerId importId, (state.workers workerId).phase = .releasing importId →
    ∃ ack, action = .work workerId (.releaseImport ack)

/-- Pending jobs, and jobs between the two statements of a release, have no lease. -/
structure LeaseInvariant (ports : Ports) (state : State) : Prop where
  coherent : Coherent ports state
  pending : ∀ jobId row, state.db.findJob jobId = some row → row.status = .PENDING →
    row.leasedBy = none
  releasing : ∀ workerId importId, (state.workers workerId).phase = .releasing importId →
    ∀ row, state.db.findJobOf importId = some row → row.leasedBy = none

variable {ports : Ports} {config : Config} {state next : State} {action : Action}

theorem leaseInvariant_initial (ports : Ports) (now : Nat) :
    LeaseInvariant ports (initial now Database.empty) where
  coherent := coherent_initial ports now Database.wellFormed_empty
  pending := fun _ _ found => nomatch found
  releasing := fun _ _ phase => nomatch phase

/-- Atomic releases keep the invariant. -/
theorem leaseInvariant_step (invariant : LeaseInvariant ports state)
    (enabled : step ports config state action = some next)
    (atomic : ReleasesAtomic state action next) : LeaseInvariant ports next where
  coherent := coherent_step invariant.coherent enabled
  pending := by
    intro jobId row found
    rcases findJob_step enabled found with ⟨old, foundOld, rfl⟩ | ⟨_, _, _, _, rfl⟩
    · cases emits : emitted ports config state action with
      | none => exact invariant.pending jobId old foundOld
      | some statement =>
        exact Statement.onJob_pending_leasedBy (invariant.pending jobId old foundOld)
    · exact fun _ => rfl
  releasing := by
    intro workerId importId phase row found
    rcases step_phase enabled workerId with same | ⟨event, rfl, entered⟩
    · have before := same.symm.trans phase
      obtain ⟨ack, rfl⟩ := atomic workerId importId before
      have moved := step_mover enabled
      rw [JobPollerService.step, before] at moved
      rw [← (Prod.mk.inj (Option.some.inj moved)).2] at phase
      cases phase
    · rw [phase] at entered
      generalize emits : emitted ports config state (.work workerId event) = statement at entered
      cases entered with
      | released current released releasable =>
        rename_i job old
        have foundOld := invariant.coherent.wellFormed.findJobOf_of_findJob released
        have after := step_findJobOf enabled foundOld
        rw [emits, found] at after
        rw [Option.some.inj after]
        simp only [onJob, Statement.onJob]
        rw [Statement.setJob_field JobRow.leasedBy (fun _ _ => rfl), if_pos releasable]
        rfl
      | bare isBare => cases isBare

/-- The job and the import of a held lease are left alone by the statement of a claim, a
release or a sweep, unless it is a sweep that has read the job. -/
theorem held_untouched (invariant : LeaseInvariant ports state) {workerId : WorkerId}
    {event : Event} {statement : Statement}
    (emits : emitted ports config state (.work workerId event) = some statement)
    (isWrite : Event.isLeaseWrite event = true) {jobId : JobId} {row : JobRow}
    {holder : WorkerId} (found : state.db.findJob jobId = some row)
    (held : row.HeldBy state.now holder) (other : workerId ≠ holder)
    (spared : ∀ maxAttempts sweep passed, statement = .reclaim maxAttempts sweep passed →
      ∀ job ∈ sweep.expired, job.id ≠ row.id)
    {importRow : ImportRow} (importId : importRow.id = row.importId) :
    statement.onJob state.now row = row ∧
      (statement.onImport state.now state.db importRow).status = importRow.status := by
  have wellFormed := invariant.coherent.wellFormed
  have foundOf := wellFormed.findJobOf_of_findJob found
  have leased : row.leasedBy ≠ none := fun free => nomatch free.symm.trans held.1
  cases emitted_origin emits with
  | reclaim sweeping =>
    rename_i sweep ack passed
    have sparedJobs := spared _ sweep passed rfl
    refine ⟨Statement.onJob_reclaim_of_not_mem _ _ passed sparedJobs, ?_⟩
    rw [Statement.onImport_reclaim_of_not_mem]
    intro job member same
    have holds := invariant.coherent.sweeping sweeping
    obtain ⟨swept, foundSwept, belongs⟩ := holds job member
    have foundSweptOf := wellFormed.findJobOf_of_findJob foundSwept
    rw [belongs, same, importId, foundOf] at foundSweptOf
    cases foundSweptOf
    exact sparedJobs job member (lookup_key JobRow.id foundSwept).symm
  | claimNext polling picked claimable =>
    rename_i claimedId ack claimedRow
    have notPending : row.status ≠ .PENDING := fun pending =>
      leased (invariant.pending jobId row found pending)
    have notSelected : (row.id == claimedId) = false := by
      rw [beq_eq_false_iff_ne]
      intro same
      rw [← same, wellFormed.findJob_of_findJobOf foundOf] at picked
      cases picked
      rw [Statement.isClaimable_eq_false held notPending] at claimable
      cases claimable
    exact ⟨Statement.setJob_of_not_selected _ _ notSelected, rfl⟩
  | execute executing calls => cases isWrite
  | releaseJob stopping current =>
    rename_i job ack
    have notSelected : isReleasable job.id workerId row = false := by
      simp [isReleasable, isLeasedBy, held.1, Ne.symm other]
    exact ⟨Statement.setJob_of_not_selected _ _ notSelected, rfl⟩
  | releaseImport releasing =>
    rename_i released ack
    have notSelected : (importRow.id == released && importRow.status == .PROCESSING) = false := by
      rw [Bool.and_eq_false_iff, beq_eq_false_iff_ne]
      refine Or.inl fun same => leased ?_
      exact invariant.releasing workerId released releasing row (by rw [← same, importId, foundOf])
    exact ⟨rfl, congrArg ImportRow.status (Statement.setImport_of_not_selected _ _ notSelected)⟩

/-- With atomic releases, a step of another worker respects every held lease exactly when it
commits no sweep over a held lease. -/
theorem leaseExclusive_iff (invariant : LeaseInvariant ports state)
    (enabled : step ports config state action = some next) :
    LeaseExclusive state action next ↔ SweepsSpareLeases ports config state action next := by
  constructor
  · intro exclusive workerId event maxAttempts sweep passed acts emits job member row holder found
      held
    subst acts
    by_contra other
    have rowId : row.id = job.id := lookup_key JobRow.id found
    have isWrite : Event.isLeaseWrite event = true := by
      cases emitted_origin emits with
      | reclaim => rfl
      | execute executing calls => cases calls
    obtain ⟨⟨after, foundAfter, _, sameLease, _⟩, _⟩ :=
      exclusive job.id row holder workerId event found held rfl (Ne.symm other) isWrite
    rw [step_findJob enabled found, emits] at foundAfter
    rw [← Option.some.inj foundAfter, onJob,
      Statement.onJob_reclaim_leasedBy state.now maxAttempts passed member rowId, held.1]
      at sameLease
    cases sameLease
  · rintro spares jobId row holder workerId event found held rfl other isWrite
    obtain ⟨importRow, foundImport⟩ := Option.isSome_iff_exists.mp
      (invariant.coherent.wellFormed.jobs row (lookup_mem JobRow.id found))
    have importId : importRow.id = row.importId := lookup_key ImportRow.id foundImport
    have rowId : row.id = jobId := lookup_key JobRow.id found
    have foundAfter := step_findJob enabled found
    rw [step_findImport enabled foundImport, foundImport]
    cases emits : emitted ports config state (.work workerId event) with
    | none =>
      rw [emits] at foundAfter
      exact ⟨⟨row, foundAfter, rfl, rfl, rfl⟩, rfl⟩
    | some statement =>
      rw [emits] at foundAfter
      have spared : ∀ maxAttempts sweep passed,
          statement = .reclaim maxAttempts sweep passed →
            ∀ job ∈ sweep.expired, job.id ≠ row.id := by
        rintro maxAttempts sweep passed rfl job member same
        exact other (spares workerId event maxAttempts sweep passed rfl emits job member row
          holder (by rw [same, rowId, found]) held).symm
      obtain ⟨sameJob, sameStatus⟩ :=
        held_untouched invariant emits isWrite found held other spared importId
      rw [onJob, sameJob] at foundAfter
      exact ⟨⟨row, foundAfter, rfl, rfl, rfl⟩, congrArg some sameStatus⟩

/-- In a run from empty tables with atomic releases, the steps of other workers respect every
held lease exactly when no committed sweep has read a job whose lease is held. -/
theorem lease_exclusive_iff (now : Nat) (schedule : List Action)
    (atomic : Transition.Every (step ports config) ReleasesAtomic (initial now Database.empty)
      schedule) :
    Transition.Every (step ports config) LeaseExclusive (initial now Database.empty) schedule ↔
      Transition.Every (step ports config) (SweepsSpareLeases ports config)
        (initial now Database.empty) schedule := by
  refine Transition.every_congr_of (LeaseInvariant ports) ?_ ?_ (leaseInvariant_initial ports now)
    atomic
  · exact fun state action next invariant enabled atomicStep =>
      leaseInvariant_step invariant enabled atomicStep
  · exact fun state action next invariant enabled _ => leaseExclusive_iff invariant enabled

/-! ### Runs without a release -/

/-- A worker comes between the statements of a release by the first one. -/
theorem releasing_step (enabled : step ports config state action = some next)
    {workerId : WorkerId} {importId : ImportId}
    (phase : (next.workers workerId).phase = .releasing importId) :
    (state.workers workerId).phase = .releasing importId ∨
      ∃ ack, action = .work workerId (.releaseJob ack) := by
  rcases step_phase enabled workerId with same | ⟨event, rfl, entered⟩
  · exact Or.inl (same.symm.trans phase)
  · rw [phase] at entered
    generalize emitted ports config state (.work workerId event) = statement at entered
    cases entered with
    | released => exact Or.inr ⟨_, rfl⟩
    | bare isBare => cases isBare

/-- The last statement of a release ends it. -/
theorem not_releasing_of_releaseImport {workerId : WorkerId} {ack : Ack}
    (enabled : step ports config state (.work workerId (.releaseImport ack)) = some next)
    (importId : ImportId) : (next.workers workerId).phase ≠ .releasing importId := by
  intro phase
  rcases releasing_step enabled phase with before | ⟨_, acts⟩
  · have moved := step_mover enabled
    rw [JobPollerService.step, before] at moved
    cases (Prod.mk.inj (Option.some.inj moved)).2.symm ▸ phase
  · cases acts

/-- In the schedule the last statement of a release comes at once after the first one. -/
def releasesAtOnce : List Action → Bool
  | [] => true
  | .work workerId (.releaseJob _) :: rest =>
      match rest with
      | [] => true
      | .work other (.releaseImport _) :: later => workerId == other && releasesAtOnce later
      | _ => false
  | _ :: rest => releasesAtOnce rest

theorem releasesAtomic_of_atOnce {schedule : List Action}
    (atOnce : releasesAtOnce schedule = true)
    (none : ∀ workerId importId, (state.workers workerId).phase ≠ .releasing importId) :
    Transition.Every (step ports config) ReleasesAtomic state schedule := by
  fun_induction releasesAtOnce schedule generalizing state with
  | case1 => trivial
  | case2 workerId ack =>
    exact fun next _ => ⟨fun releaser importId phase => absurd phase (none releaser importId),
      trivial⟩
  | case3 workerId ack other otherAck later inductionHypothesis =>
    obtain ⟨same, laterAtOnce⟩ := Bool.and_eq_true_iff.mp atOnce
    obtain rfl := eq_of_beq same
    intro first firstEnabled
    -- only this worker is between its statements now
    have onlyOne : ∀ releaser importId,
        (first.workers releaser).phase = .releasing importId → releaser = workerId := by
      intro releaser importId phase
      rcases releasing_step firstEnabled phase with before | ⟨_, acts⟩
      · exact absurd before (none releaser importId)
      · cases acts
        rfl
    refine ⟨fun releaser importId phase => absurd phase (none releaser importId),
      fun second secondEnabled => ⟨?_, inductionHypothesis laterAtOnce ?_⟩⟩
    · intro releaser importId phase
      rw [onlyOne releaser importId phase]
      exact ⟨otherAck, rfl⟩
    · intro releaser importId phase
      rcases releasing_step secondEnabled phase with before | ⟨_, acts⟩
      · obtain rfl := onlyOne releaser importId before
        exact not_releasing_of_releaseImport secondEnabled importId phase
      · cases acts
  | case4 => cases atOnce
  | case5 action rest notRelease inductionHypothesis =>
    intro next enabled
    refine ⟨fun releaser importId phase => absurd phase (none releaser importId),
      inductionHypothesis atOnce ?_⟩
    intro workerId importId phase
    rcases releasing_step enabled phase with before | ⟨ack, acts⟩
    · exact none workerId importId before
    · exact notRelease workerId ack acts

/-- A test for a step that is no sweep over a lease that another worker holds. -/
def sparesLeases (ports : Ports) (config : Config) (state : State) (action : Action) : Bool :=
  match emitted ports config state action with
  | some (.reclaim _ sweep _) =>
      sweep.expired.all fun job =>
        (state.db.findJob job.id).all fun row => row.leasedUntil.all fun limit => limit < state.now
  | _ => true

theorem sweepsSpareLeases_of_test (spares : sparesLeases ports config state action = true) :
    SweepsSpareLeases ports config state action next := by
  rintro workerId event maxAttempts sweep passed - emits job member row holder found
    ⟨_, limit, isLimit, notPast⟩
  rw [sparesLeases, emits] at spares
  have past := List.all_eq_true.mp spares job member
  rw [found, Option.all_some, isLimit, Option.all_some] at past
  exact absurd (of_decide_eq_true past) (Nat.not_lt.mpr notPast)

/-- Worker 1 renews its lease on job 1. The lease of worker 3 on job 2 runs out, and worker 2
sweeps. Worker 4 claims job 3 and gives it back. -/
def sweepAndRelease : List Action :=
  [upload 1, upload 2, upload 3] ++ startUp 1 ++ startUp 2 ++ startUp 3 ++ startUp 4 ++
    [.work 3 (.claimNext 2 .acknowledged), .work 3 .crash,
      .work 1 (.claimNext 1 .acknowledged)] ++ replies 1 4 ++ [.advance 110000] ++ replies 1 2 ++
    [.work 2 .claimNone, .advance 10001, .work 2 (.findExpired true),
      .work 2 (.reclaim .acknowledged []), .work 4 (.claimNext 3 .acknowledged),
      .work 4 (.reply (.fail false .unknown)), .work 4 .stop,
      .work 4 (.releaseJob .acknowledged), .work 4 (.releaseImport .acknowledged)]

theorem lease_exclusive_iff_sweepAndRelease :
    (Transition.run (step oneRecordPorts defaultConfig) (initial 0 Database.empty)
        sweepAndRelease).map (fun state =>
          state.db.jobs.map fun row => (row.status, row.leasedBy, row.leasedUntil)) =
        some [(.PROCESSING, some 1, some 230000), (.PENDING, none, none),
          (.PENDING, none, none)] ∧
      Transition.Every (step oneRecordPorts defaultConfig) LeaseExclusive
        (initial 0 Database.empty) sweepAndRelease := by
  refine ⟨by decide +kernel, (lease_exclusive_iff 0 sweepAndRelease ?_).mpr ?_⟩
  · exact releasesAtomic_of_atOnce (by decide) fun _ _ phase => nomatch phase
  · exact Transition.every_of_checkEvery (fun _ _ _ => sweepsSpareLeases_of_test)
      (by decide +kernel)

/-- Worker 2 reads the job when the lease of worker 1 has run out, and resets it after worker
3 has claimed it. -/
def sweepAfterRead : List Action :=
  [upload 1] ++ startUp 1 ++ startUp 2 ++ startUp 3 ++
    [.work 1 (.claimNext 1 .acknowledged), .work 1 .crash, .advance 110000, .work 2 .claimNone,
      .advance 10001, .work 2 (.findExpired true), .work 3 (.claimNext 1 .acknowledged)]

/-- The sweep takes the new lease away. -/
theorem claimed_then_swept :
    Transition.Every (step emptyFilePorts defaultConfig) ReleasesAtomic (initial 0 Database.empty)
        (sweepAfterRead ++ [.work 2 (.reclaim .acknowledged [])]) ∧
      ¬ Transition.Every (step emptyFilePorts defaultConfig) LeaseExclusive
        (initial 0 Database.empty) (sweepAfterRead ++ [.work 2 (.reclaim .acknowledged [])]) := by
  refine ⟨releasesAtomic_of_atOnce (by decide) fun _ _ phase => (nomatch phase), fun every => ?_⟩
  obtain ⟨state, next, exclusive, before, after⟩ := every.observe
    (fun state => (state.now, (state.db.findJob 1).map fun row =>
      (row.leasedBy, row.leasedUntil)))
    (show _ = some ((120001, some (some 3, some 240001)), (120001, some (none, none))) by decide)
  obtain ⟨nowEq, leaseBefore⟩ := Prod.mk.inj before
  obtain ⟨row, found, lease⟩ := Option.map_eq_some_iff.mp leaseBefore
  obtain ⟨leasedBy, leasedUntil⟩ := Prod.mk.inj lease
  have held : row.HeldBy state.now 3 := ⟨leasedBy, 240001, leasedUntil, by rw [nowEq]; decide⟩
  obtain ⟨⟨rowAfter, foundAfter, _, sameLease, _⟩, _⟩ :=
    exclusive 1 row 3 2 _ found held rfl (by decide) rfl
  have leaseAfter := (Prod.mk.inj after).2
  rw [foundAfter, Option.map_some, Option.some.injEq] at leaseAfter
  rw [(Prod.mk.inj leaseAfter).1, leasedBy] at sameLease
  cases sameLease

end System

end ImportService
