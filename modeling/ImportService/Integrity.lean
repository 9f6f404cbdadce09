/-
This file proves the integrity of the tables in every reachable state: ids are unique,
every job, transaction and rejected record belongs to an import, and every import has
its job. What a worker or a request holds on to between two calls stays valid as well,
since no row is ever deleted and no id rewritten: the job of an execution, the jobs of a
sweep, the import of a cancellation.
-/

import ImportService.System
import ImportService.Progress

namespace ImportService

open KeyedTable JobRepository ProcessImportFile JobPollerService

/-! ### The tables -/

namespace Database

/-- The job exists and belongs to the import. -/
def HoldsJob (db : Database) (jobId : JobId) (importId : ImportId) : Prop :=
  ∃ row, db.findJob jobId = some row ∧ row.importId = importId

/-- The unique keys and the references of the schema, and that each import has its job. -/
structure WellFormed (db : Database) : Prop where
  importIds : (db.imports.map ImportRow.id).Nodup
  jobIds : (db.jobs.map JobRow.id).Nodup
  jobImportIds : (db.jobs.map JobRow.importId).Nodup
  jobs : ∀ row ∈ db.jobs, (db.findImport row.importId).isSome = true
  imports : ∀ row ∈ db.imports, (db.findJobOf row.id).isSome = true
  transactions : ∀ row ∈ db.transactions, (db.findImport row.importId).isSome = true
  rejectedRecords : ∀ row ∈ db.rejectedRecords, (db.findImport row.importId).isSome = true

theorem wellFormed_empty : empty.WellFormed where
  importIds := List.nodup_nil
  jobIds := List.nodup_nil
  jobImportIds := List.nodup_nil
  jobs := fun _ member => nomatch member
  imports := fun _ member => nomatch member
  transactions := fun _ member => nomatch member
  rejectedRecords := fun _ member => nomatch member

variable {db : Database}

/-- The job of an import is also found by its own id. -/
theorem WellFormed.findJob_of_findJobOf (wellFormed : db.WellFormed) {importId : ImportId}
    {row : JobRow} (found : db.findJobOf importId = some row) :
    db.findJob row.id = some row :=
  lookup_of_mem JobRow.id wellFormed.jobIds (lookup_mem JobRow.importId found)

theorem WellFormed.findJobOf_of_findJob (wellFormed : db.WellFormed) {jobId : JobId}
    {row : JobRow} (found : db.findJob jobId = some row) :
    db.findJobOf row.importId = some row :=
  lookup_of_mem JobRow.importId wellFormed.jobImportIds (lookup_mem JobRow.id found)

theorem WellFormed.import_of_holdsJob (wellFormed : db.WellFormed) {jobId : JobId}
    {importId : ImportId} (holds : db.HoldsJob jobId importId) :
    (db.findImport importId).isSome = true := by
  obtain ⟨row, found, rfl⟩ := holds
  exact wellFormed.jobs row (lookup_mem JobRow.id found)

/-- A job and an import that belong together are both those of a job row, or neither is. -/
theorem WellFormed.holdsJob_iff (wellFormed : db.WellFormed) {jobId : JobId}
    {importId : ImportId} (holds : db.HoldsJob jobId importId) {row : JobRow}
    (found : db.findJobOf row.importId = some row) : jobId = row.id ↔ importId = row.importId := by
  obtain ⟨held, foundHeld, rfl⟩ := holds
  have heldId : held.id = jobId := lookup_key JobRow.id foundHeld
  constructor
  · rintro rfl
    rw [wellFormed.findJob_of_findJobOf found] at foundHeld
    rw [Option.some.inj foundHeld]
  · intro same
    have foundSame := wellFormed.findJobOf_of_findJob foundHeld
    rw [same, found] at foundSame
    rw [← heldId, Option.some.inj foundSame]

end Database

namespace Statement

/-- What the tables ask of a statement: a new upload has fresh ids, and the import of a batch
exists. -/
def Admissible (db : Database) : Statement → Prop
  | .create importId jobId _ _ => System.isFresh importId jobId db = true
  | .persistBatch input => (db.findImport input.importId).isSome = true
  | .claimNext _ _ _ | .renewLease _ _ _ | .updateBothJob _ _ | .updateBothImport _ _
  | .releaseJob _ _ | .releaseImport _ | .reclaim _ _ _ | .cancel _ => True

section

variable {db : Database} {now : Nat} {statement : Statement}

theorem isSome_findImport {importId : ImportId} (isSome : (db.findImport importId).isSome = true) :
    ((statement.commit now db).findImport importId).isSome = true := by
  obtain ⟨row, found⟩ := Option.isSome_iff_exists.mp isSome
  rw [commit_findImport now statement found]
  rfl

theorem isSome_findJobOf {importId : ImportId} (isSome : (db.findJobOf importId).isSome = true) :
    ((statement.commit now db).findJobOf importId).isSome = true := by
  obtain ⟨row, found⟩ := Option.isSome_iff_exists.mp isSome
  rw [commit_findJobOf now statement found]
  rfl

theorem holdsJob_commit {jobId : JobId} {importId : ImportId} (holds : db.HoldsJob jobId importId) :
    (statement.commit now db).HoldsJob jobId importId := by
  obtain ⟨row, found, belongs⟩ := holds
  exact ⟨_, commit_findJob now statement found, (onJob_importId now statement row).trans belongs⟩

theorem isFresh_iff {importId : ImportId} {jobId : JobId} :
    System.isFresh importId jobId db = true ↔
      db.findImport importId = none ∧ db.findJobOf importId = none ∧ db.findJob jobId = none := by
  simp [System.isFresh, and_assoc]

/-- A unique key of the jobs stays unique. -/
theorem distinct_commit_jobs (key : JobRow → Nat)
    (keepsKey : ∀ row, key (statement.onJob now row) = key row)
    (distinct : (db.jobs.map key).Nodup)
    (fresh : ∀ row ∈ statement.newJobs now, lookup key db.jobs (key row) = none) :
    ((statement.commit now db).jobs.map key).Nodup := by
  rw [commit_jobs]
  have kept : ((db.jobs.map (statement.onJob now)).map key).Nodup := by
    rwa [map_key_map key _ keepsKey]
  cases statement with
  | create importId jobId storagePath createdAt =>
    refine distinct_snoc key kept ?_
    rw [lookup_map key _ keepsKey, fresh _ (List.mem_singleton_self _)]
    rfl
  | _ => rwa [show newJobs now _ = [] from rfl, List.append_nil]

theorem distinct_commit_imports (distinct : (db.imports.map ImportRow.id).Nodup)
    (fresh : ∀ row ∈ statement.newImports now, db.findImport row.id = none) :
    ((statement.commit now db).imports.map ImportRow.id).Nodup := by
  rw [commit_imports]
  have kept : ((db.imports.map (statement.onImport now db)).map ImportRow.id).Nodup := by
    rwa [map_key_map ImportRow.id _ (onImport_id now db statement)]
  cases statement with
  | create importId jobId storagePath createdAt =>
    refine distinct_snoc ImportRow.id kept ?_
    rw [lookup_map ImportRow.id _ (onImport_id now db _)]
    rw [show lookup ImportRow.id db.imports _ = none from fresh _ (List.mem_singleton_self _)]
    rfl
  | _ => rwa [show newImports now _ = [] from rfl, List.append_nil]

/-- A new import and its job come together. -/
theorem findImport_create (importId : ImportId) (jobId : JobId) (storagePath : JsString)
    (createdAt : Nat) :
    (((create importId jobId storagePath createdAt).commit now db).findImport importId).isSome =
      true := by
  rw [Database.findImport, lookup_isSome]
  exact ⟨_, List.mem_append_right _ (List.mem_singleton_self _), rfl⟩

theorem findJobOf_create (importId : ImportId) (jobId : JobId) (storagePath : JsString)
    (createdAt : Nat) :
    (((create importId jobId storagePath createdAt).commit now db).findJobOf importId).isSome =
      true := by
  rw [Database.findJobOf, lookup_isSome]
  exact ⟨_, List.mem_append_right _ (List.mem_singleton_self _), rfl⟩

/-- Admissible statements keep the tables well formed. -/
theorem wellFormed_commit (wellFormed : db.WellFormed) (admissible : statement.Admissible db) :
    (statement.commit now db).WellFormed where
  importIds := by
    refine distinct_commit_imports wellFormed.importIds fun row member => ?_
    cases statement with
    | create =>
      cases List.mem_singleton.mp member
      exact (isFresh_iff.mp admissible).1
    | _ => cases member
  jobIds := by
    refine distinct_commit_jobs JobRow.id (onJob_id now statement) wellFormed.jobIds
      fun row member => ?_
    cases statement with
    | create =>
      cases List.mem_singleton.mp member
      exact (isFresh_iff.mp admissible).2.2
    | _ => cases member
  jobImportIds := by
    refine distinct_commit_jobs JobRow.importId (onJob_importId now statement)
      wellFormed.jobImportIds fun row member => ?_
    cases statement with
    | create =>
      cases List.mem_singleton.mp member
      exact (isFresh_iff.mp admissible).2.1
    | _ => cases member
  jobs := by
    intro row member
    rw [commit_jobs, List.mem_append] at member
    rcases member with old | added
    · obtain ⟨before, beforeMember, rfl⟩ := List.mem_map.mp old
      rw [onJob_importId]
      exact isSome_findImport (wellFormed.jobs before beforeMember)
    · cases statement with
      | create =>
        cases List.mem_singleton.mp added
        exact findImport_create _ _ _ _
      | _ => cases added
  imports := by
    intro row member
    rw [commit_imports, List.mem_append] at member
    rcases member with old | added
    · obtain ⟨before, beforeMember, rfl⟩ := List.mem_map.mp old
      rw [onImport_id]
      exact isSome_findJobOf (wellFormed.imports before beforeMember)
    · cases statement with
      | create =>
        cases List.mem_singleton.mp added
        exact findJobOf_create _ _ _ _
      | _ => cases added
  transactions := by
    intro row member
    rw [commit_transactions, List.mem_append] at member
    refine isSome_findImport ?_
    rcases member with old | added
    · exact wellFormed.transactions row old
    · cases statement with
      | persistBatch input =>
        rw [importId_of_inserted added]
        exact admissible
      | _ => cases added
  rejectedRecords := by
    intro row member
    rw [commit_rejectedRecords, List.mem_append] at member
    refine isSome_findImport ?_
    rcases member with old | added
    · exact wellFormed.rejectedRecords row old
    · cases statement with
      | persistBatch input =>
        rw [importId_of_rejections added]
        exact admissible
      | _ => cases added

end

end Statement

/-! ### The parties -/

namespace System

/-- What a worker holds on to in a phase. -/
def HoldsPhase (ports : Ports) (db : Database) (workerId : WorkerId) : Phase → Prop
  | .executing job point =>
      db.HoldsJob job.id job.importId ∧ job.workerId = workerId ∧
        ∃ file sent stop, Tracks ports job file sent stop point
  | .sweeping sweep => ∀ job ∈ sweep.expired, db.HoldsJob job.id job.importId
  | .releasing importId => (db.findImport importId).isSome = true
  | .notStarted | .reclaiming | .polling | .stopping | .stopped | .crashed => True

/-- What a request holds on to. -/
def HoldsRequest (db : Database) : Request → Prop
  | .writing importId | .returned importId _ => (db.findImport importId).isSome = true
  | .unsent | .rejected => True

/-- What holds of the tables and of all parties in every state. -/
structure Coherent (ports : Ports) (state : State) : Prop where
  wellFormed : state.db.WellFormed
  workers : ∀ workerId, HoldsPhase ports state.db workerId (state.workers workerId).phase
  requests : ∀ requestId, HoldsRequest state.db (state.requests requestId)

theorem coherent_initial (ports : Ports) (now : Nat) {db : Database}
    (wellFormed : db.WellFormed) : Coherent ports (initial now db) where
  wellFormed := wellFormed
  workers := fun _ => trivial
  requests := fun _ => trivial

section

variable {ports : Ports} {config : Config} {state next : State} {action : Action}

/-- A worker holds on to the job it executes. -/
theorem Coherent.executing (coherent : Coherent ports state) {workerId : WorkerId}
    {job : ClaimedJob} {point : Point}
    (executing : (state.workers workerId).phase = .executing job point) :
    state.db.HoldsJob job.id job.importId ∧ job.workerId = workerId ∧
      ∃ file sent stop, Tracks ports job file sent stop point := by
  have holds := coherent.workers workerId
  rwa [executing] at holds

theorem Coherent.sweeping (coherent : Coherent ports state) {workerId : WorkerId} {sweep : Sweep}
    (sweeping : (state.workers workerId).phase = .sweeping sweep) :
    ∀ job ∈ sweep.expired, state.db.HoldsJob job.id job.importId := by
  have holds := coherent.workers workerId
  rwa [sweeping] at holds

theorem holdsPhase_bare {db : Database} {workerId : WorkerId} {phase : Phase}
    (isBare : phase.isBare = true) : HoldsPhase ports db workerId phase := by
  cases phase <;> trivial

theorem holdsPhase_committed {db : Database} (now : Nat) (statement : Option Statement)
    {workerId : WorkerId} {phase : Phase} (holds : HoldsPhase ports db workerId phase) :
    HoldsPhase ports (committed now statement db) workerId phase := by
  cases statement with
  | none => exact holds
  | some statement =>
    cases phase with
    | executing job point => exact ⟨Statement.holdsJob_commit holds.1, holds.2⟩
    | sweeping sweep => exact fun job member => Statement.holdsJob_commit (holds job member)
    | releasing importId => exact Statement.isSome_findImport holds
    | notStarted | reclaiming | polling | stopping | stopped | crashed => trivial

theorem holdsRequest_committed {db : Database} (now : Nat) (statement : Option Statement)
    {request : Request} (holds : HoldsRequest db request) :
    HoldsRequest (committed now statement db) request := by
  cases statement with
  | none => exact holds
  | some statement =>
    cases request with
    | writing | returned => exact Statement.isSome_findImport holds
    | unsent | rejected => trivial

/-- The file `findByImportId` reads, or any file if there is none. -/
theorem exists_file (importId : ImportId) (db : Database) :
    ∃ file, ∀ found, ImportFileRepository.findByImportId importId db = some found →
      found = file := by
  cases finds : ImportFileRepository.findByImportId importId db with
  | none => exact ⟨⟨[], none⟩, fun _ found => nomatch found⟩
  | some file => exact ⟨file, fun found same => (Option.some.inj same).symm⟩

/-- An execution that has read no file yet is at the start of any file. -/
theorem exists_tracks_reads {job : ClaimedJob} {point : Point} (db : Database)
    (tracked : ∃ file sent stop, Tracks ports job file sent stop point) :
    ∃ file sent stop, Tracks ports job file sent stop point ∧ (point = .findByImportId → ∀ read,
      ImportFileRepository.findByImportId job.importId db = some read → read = file) := by
  obtain ⟨file, sent, stop, tracks⟩ := tracked
  by_cases first : point = .findByImportId
  · subst first
    obtain ⟨found, finds⟩ := exists_file job.importId db
    exact ⟨found, sent, stop, tracks, fun _ => finds⟩
  · exact ⟨file, sent, stop, tracks, fun same => absurd same first⟩

theorem exists_tracks {job : ClaimedJob} {old : Point} {reply : Reply} {outcome : Outcome}
    (batchSize : Nat) (db : Database) (now : Nat)
    (tracked : ∃ file sent stop, Tracks ports job file sent stop old)
    (resumed : resume ports batchSize db now job old reply = some outcome) :
    (∃ file sent stop, outcome.Awaits (Tracks ports job file sent stop)) ∨
      (reply = .ok ∧ ∃ mark caller, old = .updateBoth mark .importRow caller ∧
        mark.status.isTerminal = true) := by
  obtain ⟨file, sent, stop, tracks, reads⟩ := exists_tracks_reads db tracked
  rcases resume_cases batchSize db now tracks reads resumed with
    after | ⟨_, _, batch, _, _, after⟩ | last
  · exact Or.inl ⟨file, sent, after⟩
  · exact Or.inl ⟨file, _, after⟩
  · exact Or.inr last

theorem exists_tracks_awaiting {job : ClaimedJob} {old point : Point} {reply : Reply}
    (batchSize : Nat) (db : Database) (now : Nat)
    (tracked : ∃ file sent stop, Tracks ports job file sent stop old)
    (resumed : resume ports batchSize db now job old reply = some (.awaiting point)) :
    ∃ file sent stop, Tracks ports job file sent stop point := by
  obtain ⟨file, sent, stop, tracks, reads⟩ := exists_tracks_reads db tracked
  rcases resume_awaiting_cases batchSize db now tracks reads resumed with
    after | ⟨_, _, batch, _, _, after⟩
  · exact ⟨file, sent, after⟩
  · exact ⟨file, _, after⟩

/-- A worker holds on to something valid when it enters a phase. -/
theorem holdsPhase_entered (wellFormed : state.db.WellFormed) {workerId : WorkerId}
    {event : Event} {statement : Option Statement} {phase : Phase}
    (holds : HoldsPhase ports state.db workerId (state.workers workerId).phase)
    (entered : Entered ports config state.db state.now workerId (state.workers workerId) event
      statement phase) : HoldsPhase ports state.db workerId phase := by
  cases entered with
  | claimed polling found claimable =>
    rename_i jobId row
    have rowId : row.id = jobId := lookup_key JobRow.id found
    exact ⟨⟨row, by rw [claimed, rowId]; exact found, rfl⟩, rfl, ⟨[], none⟩, Batch.empty, none,
      rfl, rfl⟩
  | resumed executing awaiting =>
    rw [executing] at holds
    exact ⟨holds.1, holds.2.1, exists_tracks_awaiting _ _ _ holds.2.2 awaiting⟩
  | swept =>
    intro job member
    obtain ⟨row, inTable, rfl⟩ := List.mem_map.mp member
    exact ⟨row, lookup_of_mem JobRow.id wellFormed.jobIds (List.mem_filter.mp inTable).1, rfl⟩
  | released current found releasable =>
    exact wellFormed.jobs _ (lookup_mem JobRow.id found)
  | bare isBare => exact holdsPhase_bare isBare

theorem holdsRequest_afterRead (importId : ImportId) (db : Database) :
    HoldsRequest db (afterRead importId db) := by
  unfold afterRead
  split
  · trivial
  · rename_i row found
    split <;> exact Option.isSome_iff_exists.mpr ⟨row, found⟩

/-- A statement of a coherent system is admissible. -/
theorem emitted_admissible (coherent : Coherent ports state) {statement : Statement}
    (emits : emitted ports config state action = some statement) :
    statement.Admissible state.db := by
  cases emitted_origin emits with
  | create fresh => exact fresh
  | execute executing calls =>
    rename_i workerId job point reply
    obtain ⟨holdsJob, _, file, sent, stop, tracks⟩ := coherent.executing executing
    cases calls with
    | persistBatch =>
      obtain ⟨batch, rfl, _⟩ := tracks
      exact coherent.wellFormed.import_of_holdsJob holdsJob
    | updateBothJob | updateBothImport | renewLease => trivial
  | cancel | reclaim | claimNext | releaseJob | releaseImport => trivial

/-- Every step keeps the system coherent. -/
theorem coherent_step (coherent : Coherent ports state)
    (enabled : step ports config state action = some next) : Coherent ports next where
  wellFormed := by
    rw [step_db enabled]
    cases emits : emitted ports config state action with
    | none => exact coherent.wellFormed
    | some statement =>
      exact Statement.wellFormed_commit coherent.wellFormed (emitted_admissible coherent emits)
  workers := by
    intro workerId
    rw [step_db enabled]
    refine holdsPhase_committed state.now _ ?_
    rcases step_phase enabled workerId with same | ⟨event, _, entered⟩
    · rw [same]
      exact coherent.workers workerId
    · exact holdsPhase_entered coherent.wellFormed (coherent.workers workerId) entered
  requests := by
    intro requestId
    rw [step_db enabled]
    refine holdsRequest_committed state.now _ ?_
    have holds := coherent.requests requestId
    rcases step_request enabled requestId with
      same | ⟨importId, _, _, after⟩ | ⟨importId, ack, _, writing, _, after⟩
    · rw [same]
      exact holds
    · rw [after]
      exact holdsRequest_afterRead importId state.db
    · rw [writing] at holds
      rw [after]
      cases ack <;> first | exact holds | trivial

/-- The invariant of every run that starts with well-formed tables. -/
theorem coherent_reachable {now : Nat} {db : Database} (wellFormed : db.WellFormed)
    (reachable : Transition.Reachable (step ports config) (initial now db) state) :
    Coherent ports state :=
  reachable.invariant (Coherent ports) (coherent_initial ports now wellFormed)
    fun _ _ _ coherent enabled => coherent_step coherent enabled

end

end System

end ImportService
