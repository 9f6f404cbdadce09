/-
This file proves what becomes of an upload, from the request that carries it to the rows of its
import. Whatever requests and workers run beside each other, fail or end on the way, the rows that
an import owns are those of the lines that the client has sent, and one that is completed has all
of them (`uploads_arrive`).

An execution depends on the directory only through the file of its import. A row refers to that
file, so no request touches it, and a step of a request is nothing to the executions but the rows
of a new import (`readsFiles_request`).
-/

import ImportService.Service
import ImportService.Shutdown

namespace ImportService

open KeyedTable JobRepository ProcessImportFile JobPollerService

/-! ### Files with the same lines -/

/-- Two files with the same lines, for executions on hosts that compute the same. -/
structure SameLines (ports other : Ports) (file otherFile : ImportFileLocation) : Prop where
  runtime : other.runtime = ports.runtime
  computeRiskScore : other.computeRiskScore = ports.computeRiskScore
  provider : otherFile.provider = file.provider
  lines : other.readLines otherFile.storagePath = ports.readLines file.storagePath

section

variable {ports other : Ports} {file otherFile : ImportFileLocation} {importId : ImportId}
  {db : Database}

theorem SameLines.handleLine_eq (same : SameLines ports other file otherFile) :
    handleLine other = handleLine ports := by
  funext fallbackProvider rawLine lineNumber
  unfold handleLine
  rw [same.runtime]

theorem SameLines.comesTo_iff (same : SameLines ports other file otherFile) {index : Nat}
    {outcome : LineOutcome} :
    ComesTo other otherFile index outcome ↔ ComesTo ports file index outcome := by
  unfold ComesTo
  rw [same.lines, same.provider, same.handleLine_eq]

theorem SameLines.accepts_iff (same : SameLines ports other file otherFile) {index : Nat}
    {transaction : ValidatedTransaction} :
    Accepts other otherFile index transaction ↔ Accepts ports file index transaction := by
  unfold Accepts
  rw [same.lines, same.provider, same.runtime]

theorem SameLines.rejects_iff (same : SameLines ports other file otherFile) {index : Nat}
    {record : RejectedRecordInput} :
    Rejects other otherFile index record ↔ Rejects ports file index record := by
  rw [← comesTo_rejected_iff, ← comesTo_rejected_iff]
  exact same.comesTo_iff

theorem SameLines.storedRow_eq (same : SameLines ports other file otherFile)
    (importId : ImportId) (transaction : ValidatedTransaction) :
    storedRow other importId transaction = storedRow ports importId transaction := by
  unfold storedRow lineRow
  rw [same.runtime, same.computeRiskScore]

theorem SameLines.ownsFirstLines (same : SameLines ports other file otherFile)
    (owns : OwnsFirstLines ports importId file db) :
    OwnsFirstLines other importId otherFile db := by
  intro row member own
  obtain ⟨transaction, ⟨index, accepts, before⟩, rfl⟩ := owns row member own
  refine ⟨transaction, ⟨index, same.accepts_iff.mpr accepts, ?_⟩,
    (same.storedRow_eq importId transaction).symm⟩
  exact fun earlier isEarlier first firstAccepts =>
    before earlier isEarlier first (same.accepts_iff.mp firstAccepts)

theorem SameLines.holdsLines (same : SameLines ports other file otherFile)
    (holds : System.HoldsLines ports importId file db) :
    System.HoldsLines other importId otherFile db where
  accepted := fun index transaction accepts =>
    holds.accepted index transaction (same.accepts_iff.mp accepts)
  rejected := fun index record rejects =>
    holds.rejected index record (same.rejects_iff.mp rejects)

theorem SameLines.fileBatch_eq (same : SameLines ports other file file)
    (lines : List JsString) : fileBatch other file lines = fileBatch ports file lines := by
  have outcomes (lineNumber : Nat) : handleLines other (file.provider.getD []) lineNumber lines =
      handleLines ports (file.provider.getD []) lineNumber lines := by
    induction lines generalizing lineNumber with
    | nil => rfl
    | cons rawLine rest inductionHypothesis =>
      rw [handleLines, handleLines, same.handleLine_eq, inductionHypothesis]
  rw [fileBatch, fileBatch, outcomes]

theorem SameLines.reads (same : SameLines ports other file file) {sent : Batch}
    {handled unread : List JsString} {locals : Locals}
    (reads : Reads ports file sent handled unread locals) :
    Reads other file sent handled unread locals where
  provider := reads.provider
  lines := same.lines.trans reads.lines
  batches := reads.batches.trans (same.fileBatch_eq handled).symm
  counted := reads.counted

theorem SameLines.scoredInput_eq (same : SameLines ports other file file) (job : ClaimedJob)
    (batch : Batch) : scoredInput other job batch = scoredInput ports job batch := by
  rw [scoredInput, scoredInput, Ports.scoreBatch, Ports.scoreBatch, same.computeRiskScore]

/-- An execution is as far in the one file as in the other. -/
theorem SameLines.tracks (same : SameLines ports other file file) {job : ClaimedJob}
    {sent : Batch} {stop : Option Nat} {point : Point}
    (tracks : Tracks ports job file sent stop point) : Tracks other job file sent stop point := by
  cases point with
  | findByImportId | countLines => exact tracks
  | updateBoth mark stage caller =>
    cases caller with
    | fileMissing | fileFound | caught => exact tracks
    | loopEnded =>
      refine ⟨tracks.1, ?_⟩
      rw [same.lines, same.fileBatch_eq]
      exact tracks.2
  | readLine locals =>
    obtain ⟨handled, unread, reads, place⟩ := tracks
    exact ⟨handled, unread, same.reads reads, place⟩
  | renewLease locals rawLine =>
    obtain ⟨handled, unread, reads, place⟩ := tracks
    exact ⟨handled, unread, same.reads reads, place⟩
  | getStatus locals rawLine =>
    obtain ⟨checked, handled, unread, reads, place⟩ := tracks
    exact ⟨checked, handled, unread, same.reads reads, place⟩
  | scoreBatch locals batch last =>
    obtain ⟨counted, flushed, handled, unread, reads, place⟩ := tracks
    exact ⟨counted, flushed, handled, unread, same.reads reads, place⟩
  | persistBatch locals input last =>
    obtain ⟨batch, rfl, counted, flushed, handled, unread, reads, place⟩ := tracks
    exact ⟨batch, (same.scoredInput_eq job batch).symm, counted, flushed, handled, unread,
      same.reads reads, place⟩

end

/-! ### Imports under way -/

namespace System

/-- A file that is found is that of a row of its import. -/
theorem mem_of_earliest {files : List ImportFileRow} {file : ImportFileRow}
    (first : ImportFileRepository.earliest files = some file) : file ∈ files := by
  induction files generalizing file with
  | nil => cases first
  | cons head rest inductionHypothesis =>
    rw [ImportFileRepository.earliest] at first
    split at first
    · cases first
      exact List.mem_cons_self
    · rename_i other found
      split at first
      · cases first
        exact List.mem_cons_self
      · cases first
        exact List.mem_cons_of_mem head (inductionHypothesis found)

theorem row_of_located {db : Database} {importId : ImportId} {file : ImportFileLocation}
    (located : ImportFileRepository.findByImportId importId db = some file) :
    ∃ row ∈ db.importFiles, row.importId = importId ∧ row.storagePath = file.storagePath := by
  obtain ⟨row, first, rest⟩ := Option.bind_eq_some_iff.mp located
  obtain ⟨importRow, _, same⟩ := Option.bind_eq_some_iff.mp rest
  cases same
  obtain ⟨member, selected⟩ := List.mem_filter.mp (mem_of_earliest first)
  exact ⟨row, member, eq_of_beq selected, rfl⟩

/-- An import that is completed has all its lines stored. -/
def CompletesWithLines (ports : Ports) (importId : ImportId) (file : ImportFileLocation)
    (db : Database) : Prop :=
  ∀ row, db.findImport importId = some row → row.status = .COMPLETED →
    HoldsLines ports importId file db

/-- What holds in every state: the executions are in the files of their imports, and the rows of
the new imports are those of their files. -/
structure ImportsFiles (ports : Ports) (isNew : ImportId → Prop) (state : State) : Prop where
  coherent : Coherent ports state
  distinct : (state.db.transactions.map TransactionRow.key).Nodup
  hasFiles : WorkerProcess.HasFiles state.db
  tracked : ∀ workerId job point, (state.workers workerId).phase = .executing job point →
    ∃ file sent stop, ImportFileRepository.findByImportId job.importId state.db = some file ∧
      Tracks ports job file sent stop point
  once : ∀ importId, isNew importId → ∃ file, file.provider = none ∧
    OnceInvariant ports importId file state ∧ CompletesWithLines ports importId file state.db

section

variable {ports other : Ports} {config : Config} {state next : State} {action : Action}
  {importId : ImportId} {file : ImportFileLocation} {isNew : ImportId → Prop}

/-! ### A step of a worker -/

theorem holdsLines_step (enabled : step ports config state action = some next)
    (holds : HoldsLines ports importId file state.db) :
    HoldsLines ports importId file next.db := by
  rw [step_db enabled]
  cases emitted ports config state action with
  | none => exact holds
  | some statement =>
    refine ⟨fun index transaction accepts => ?_, fun index record rejects => ?_⟩
    · obtain ⟨row, found⟩ := holds.accepted index transaction accepts
      rw [committed, Statement.commit_transactions, lookup_append, found]
      exact ⟨row, rfl⟩
    · rw [committed, Statement.commit_rejectedRecords]
      exact List.mem_append_left _ (holds.rejected index record rejects)

/-- Only the mark of an execution completes an import. -/
theorem completed_onImport {now : Nat} {db : Database} {statement : Statement} {row : ImportRow}
    (completed : (statement.onImport now db row).status = .COMPLETED) :
    row.status = .COMPLETED ∨
      ∃ importId mark, statement = .updateBothImport importId mark ∧ importId = row.id ∧
        mark.status = .COMPLETED := by
  have unchanged {selects : ImportRow → Bool} {data : ImportRow → ImportRow}
      (other : (data row).status ≠ .COMPLETED)
      (written : (Statement.setImport now selects data row).status = .COMPLETED) :
      row.status = .COMPLETED := by
    rw [Statement.setImport_status] at written
    split at written
    · exact absurd written other
    · exact written
  cases statement with
  | updateBothImport importId mark =>
    simp only [Statement.onImport, Statement.setImport_status, Mark.importData_status,
      beq_iff_eq] at completed
    split at completed
    · rename_i selected
      exact Or.inr ⟨importId, mark, rfl, selected.symm, completed⟩
    · exact Or.inl completed
  | persistBatch input =>
    simp only [Statement.onImport, Statement.setImport_status, TransactionRepository.countBatch,
      ite_self] at completed
    exact Or.inl completed
  | reclaim maxAttempts sweep passed =>
    simp only [Statement.onImport, Statement.setImport_status] at completed
    split at completed
    · cases completed
    · split at completed
      · cases completed
      · exact Or.inl completed
  | releaseImport => exact Or.inl (unchanged (by simp [toPendingImport]) completed)
  | cancel => exact Or.inl (unchanged (by simp [ImportRepository.cancelImport]) completed)
  | create | claimNext | renewLease | updateBothJob | releaseJob => exact Or.inl completed

theorem completesWithLines_step (invariant : OnceInvariant ports importId file state)
    (completes : CompletesWithLines ports importId file state.db)
    (enabled : step ports config state action = some next) :
    CompletesWithLines ports importId file next.db := by
  intro row found completed
  rcases findImport_step enabled found with ⟨old, foundOld, rfl⟩ | ⟨_, _, _, _, _, rfl⟩
  · refine holdsLines_step enabled ?_
    cases emits : emitted ports config state action with
    | none =>
      rw [emits] at completed
      exact completes old foundOld completed
    | some statement =>
      rw [emits] at completed
      rcases completed_onImport completed with before | ⟨written, mark, rfl, same, isCompleted⟩
      · exact completes old foundOld before
      · cases emitted_origin emits with
        | execute executing calls =>
          cases calls
          have sameImport := same.trans (lookup_key ImportRow.id foundOld)
          exact holdsLines_of_marksCompleted invariant
            ⟨_, _, mark, .importRow, _, isCompleted, sameImport, executing⟩
  · cases completed

/-- An execution stays in the file of its import. -/
theorem tracked_step (imports : ImportsFiles ports isNew state)
    (enabled : step ports config state action = some next) {workerId : WorkerId}
    {job : ClaimedJob} {point : Point}
    (executing : (next.workers workerId).phase = .executing job point) :
    ∃ file sent stop, ImportFileRepository.findByImportId job.importId next.db = some file ∧
      Tracks ports job file sent stop point := by
  rcases step_phase enabled workerId with same | ⟨event, rfl, entered⟩
  · rw [same] at executing
    obtain ⟨file, sent, stop, located, tracks⟩ := imports.tracked workerId job point executing
    exact ⟨file, sent, stop, located_step imports.coherent located enabled, tracks⟩
  · rw [executing] at entered
    generalize emitted ports config state (.work workerId event) = statement at entered
    cases entered with
    | claimed polling found claimable =>
      rename_i row
      obtain ⟨file, located⟩ := Option.isSome_iff_exists.mp
        (imports.hasFiles row (lookup_mem JobRow.id found))
      exact ⟨file, Batch.empty, none, located_step imports.coherent located enabled, rfl, rfl⟩
    | resumed before awaiting =>
      obtain ⟨file, sent, stop, located, tracks⟩ := imports.tracked workerId job _ before
      have stays := located_step imports.coherent located enabled
      have reads : ∀ found, ImportFileRepository.findByImportId job.importId state.db = some found →
          found = file := by
        intro found finds
        rw [located] at finds
        exact (Option.some.inj finds).symm
      rcases resume_awaiting_cases _ state.db state.now tracks (fun _ => reads) awaiting with
        ⟨stopAfter, after⟩ | ⟨locals, last, batch, rfl, rfl, stopAfter, after⟩
      · exact ⟨file, sent, stopAfter, stays, after⟩
      · exact ⟨file, sent.append batch, stopAfter, stays, after⟩
    | bare isBare => cases isBare

theorem importsFiles_step (imports : ImportsFiles ports isNew state)
    (enabled : step ports config state action = some next) : ImportsFiles ports isNew next where
  coherent := coherent_step imports.coherent enabled
  distinct := by
    rw [step_db enabled]
    exact distinct_committed state.now _ imports.distinct
  hasFiles := by
    rw [step_db enabled]
    exact WorkerProcess.hasFiles_committed state.now _ imports.hasFiles
  tracked := fun _ _ _ executing => tracked_step imports enabled executing
  once := by
    intro importId new
    obtain ⟨file, noProvider, invariant, completes⟩ := imports.once importId new
    exact ⟨file, noProvider, onceInvariant_step invariant enabled,
      completesWithLines_step invariant completes enabled⟩

/-! ### A step of a request -/

/-- The paths of the files of imports. -/
def SameFiles (ports other : Ports) (db : Database) : Prop :=
  ∀ file : ImportFileLocation, (∃ row ∈ db.importFiles, row.storagePath = file.storagePath) →
    SameLines ports other file file

theorem SameFiles.located (same : SameFiles ports other state.db)
    (located : ImportFileRepository.findByImportId importId state.db = some file) :
    SameLines ports other file file := by
  obtain ⟨row, member, _, samePath⟩ := row_of_located located
  exact same file ⟨row, member, samePath⟩

theorem SameFiles.refl (ports : Ports) (db : Database) : SameFiles ports ports db :=
  fun _ _ => ⟨rfl, rfl, rfl, rfl⟩

theorem ImportsFiles.mono {fewer : ImportId → Prop} (imports : ImportsFiles ports isNew state)
    (implies : ∀ importId, fewer importId → isNew importId) : ImportsFiles ports fewer state :=
  { imports with once := fun importId new => imports.once importId (implies importId new) }

/-- Nothing changes when the files of the imports stay and the clock advances. -/
theorem ImportsFiles.of_sameFiles (imports : ImportsFiles ports isNew state)
    (same : SameFiles ports other state.db) (now : Nat) :
    ImportsFiles other isNew { state with now } := by
  have coherent : Coherent other { state with now } :=
    { wellFormed := imports.coherent.wellFormed
      workers := by
        intro workerId
        have holds := imports.coherent.workers workerId
        show HoldsPhase other state.db workerId (state.workers workerId).phase
        cases executing : (state.workers workerId).phase with
        | executing job point =>
          rw [executing] at holds
          obtain ⟨file, sent, stop, located, tracks⟩ :=
            imports.tracked workerId job point executing
          exact ⟨holds.1, holds.2.1, file, sent, stop, (same.located located).tracks tracks⟩
        | sweeping | releasing =>
          rw [executing] at holds
          exact holds
        | notStarted | reclaiming | polling | stopping | stopped | crashed => trivial
      requests := imports.coherent.requests }
  exact
    { coherent := coherent
      distinct := imports.distinct
      hasFiles := imports.hasFiles
      tracked := by
        intro workerId job point executing
        obtain ⟨file, sent, stop, located, tracks⟩ := imports.tracked workerId job point executing
        exact ⟨file, sent, stop, located, (same.located located).tracks tracks⟩
      once := by
        intro importId new
        obtain ⟨file, noProvider, invariant, completes⟩ := imports.once importId new
        have sameLines := same.located invariant.located
        refine ⟨file, noProvider, ?_, fun row found completed =>
          sameLines.holdsLines (completes row found completed)⟩
        exact
          { coherent := coherent
            distinct := invariant.distinct
            located := invariant.located
            owned := sameLines.ownsFirstLines invariant.owned
            executions := by
              intro workerId job point executing sameImport
              obtain ⟨sent, stop, tracks, stored⟩ :=
                invariant.executions workerId job point executing sameImport
              exact ⟨sent, stop, sameLines.tracks tracks, stored⟩ } }

theorem step_create (ports : Ports) (config : Config) {jobId : JobId} (storagePath : JsString)
    (createdAt : Nat) (fresh : isFresh importId jobId state.db = true) :
    step ports config state (.create importId jobId storagePath createdAt) = some { state with
      db := (Statement.create importId jobId storagePath createdAt).commit state.now
        state.db } := by
  rw [step, act, fresh]
  rfl

/-- The file of an import that has just been made. -/
theorem located_create {db : Database} {jobId : JobId} {storagePath : JsString}
    {createdAt now : Nat} (fresh : isFresh importId jobId db = true)
    (noFile : ∀ row ∈ db.importFiles, row.importId ≠ importId) :
    ImportFileRepository.findByImportId importId
        ((Statement.create importId jobId storagePath createdAt).commit now db) =
      some ⟨storagePath, none⟩ := by
  have onlyFile :
      ((Statement.create importId jobId storagePath createdAt).commit now db).importFiles.filter
        (fun row => row.importId == importId) = [⟨importId, storagePath, now⟩] := by
    have others : db.importFiles.filter (fun row => row.importId == importId) = [] :=
      List.filter_eq_nil_iff.mpr fun row member => by simpa using noFile row member
    rw [Statement.commit_importFiles, List.filter_append, others, List.nil_append,
      Statement.newImportFiles, List.filter_cons_of_pos (by simp), List.filter_nil]
  have row : ((Statement.create importId jobId storagePath createdAt).commit now db).findImport
      importId = some (ImportRepository.newImport importId createdAt now) := by
    rw [Database.findImport, Statement.commit_imports, lookup_append,
      lookup_map ImportRow.id _ (Statement.onImport_id now db _),
      show lookup ImportRow.id db.imports importId = none from (Statement.isFresh_iff.mp fresh).1]
    exact (lookup_singleton ImportRow.id _ _).trans (if_pos rfl)
  rw [ImportFileRepository.findByImportId, onlyFile, row]
  rfl

/-- A new import owns nothing, and nobody works on it. -/
theorem ImportsFiles.create {jobId : JobId} (imports : ImportsFiles ports isNew state)
    (config : Config) (storagePath : JsString) (createdAt : Nat)
    (fresh : isFresh importId jobId state.db = true)
    (noFile : ∀ row ∈ state.db.importFiles, row.importId ≠ importId) :
    ImportsFiles ports (fun other => isNew other ∨ other = importId) { state with
      db := (Statement.create importId jobId storagePath createdAt).commit state.now
        state.db } := by
  have enabled := step_create ports config storagePath createdAt fresh
  have after := importsFiles_step imports enabled
  have unknown := (Statement.isFresh_iff.mp fresh).1
  refine { after with once := ?_ }
  rintro other (old | rfl)
  · exact after.once other old
  · refine ⟨⟨storagePath, none⟩, rfl, ?_, ?_⟩
    · exact
        { coherent := after.coherent
          distinct := after.distinct
          located := located_create fresh noFile
          owned := by
            intro row member own
            have known := imports.coherent.wellFormed.transactions row member
            rw [own, unknown] at known
            cases known
          executions := by
            intro workerId job point executing sameImport
            have known := imports.coherent.wellFormed.import_of_holdsJob
              (imports.coherent.executing executing).1
            rw [sameImport, unknown] at known
            cases known }
    · intro row found completed
      rcases findImport_step enabled found with ⟨old, foundOld, _⟩ | ⟨_, _, _, _, _, rfl⟩
      · rw [unknown] at foundOld
        cases foundOld
      · cases completed

end

end System

/-! ### Runs of the service -/

namespace Service

section

variable {config : Config} {start : Store} {state next last : State}

/-- The imports whose keys have come in the run. -/
def IsNew (start store : Store) (importId : ImportId) : Prop :=
  ∃ row ∈ store.idempotencyKeys, row ∉ start.idempotencyKeys ∧ row.importId = importId

/-- The workers are in the files of their imports, and the imports of the run have the rows of
theirs. -/
def ReadsFiles (config : Config) (start : Store) (state : State) : Prop :=
  System.ImportsFiles (state.ports config.host) (IsNew start state.api.store) state.view

theorem readsFiles_process {action : System.Action} (reads : ReadsFiles config start state)
    (moves : ProcessStep config state next action) : ReadsFiles config start next := by
  have samePorts : next.ports config.host = state.ports config.host := by
    unfold State.ports Store.contentAt
    rw [moves.files]
  unfold ReadsFiles IsNew
  rw [samePorts, moves.keys]
  exact System.importsFiles_step reads moves.enabled

theorem sameLines_of_contents (host : Host) {contentAt otherContentAt : JsString → List UInt8}
    {file otherFile : ImportFileLocation} (provider : otherFile.provider = file.provider)
    (same : otherContentAt otherFile.storagePath = contentAt file.storagePath) :
    SameLines (host.ports contentAt) (host.ports otherContentAt) file otherFile where
  runtime := rfl
  computeRiskScore := rfl
  provider := provider
  lines := congrArg (fun content => ReadlineLineReader.readLines (host.decode content)) same

/-- An import that is not there has no file. -/
theorem noFile_of_fresh {store : Store} {importId : ImportId} {jobId : JobId}
    (consistent : store.Consistent) (fresh : System.isFresh importId jobId store.db = true) :
    ∀ row ∈ store.db.importFiles, row.importId ≠ importId := by
  rintro row member rfl
  obtain ⟨importRow, importMember, same⟩ := List.mem_map.mp
    (consistent.filed.mem_iff.mp (List.mem_map_of_mem member))
  exact (lookup_eq_none ImportRow.id).mp (Statement.isFresh_iff.mp fresh).1 importRow importMember
    same

theorem readsFiles_request (invariant : Invariant config start state)
    (reads : ReadsFiles config start state) (moves : RequestStep state next) :
    ReadsFiles config start next := by
  obtain ⟨api, workers, requests⟩ := next
  obtain ⟨now, store, inFlight, exchanges⟩ := api
  obtain ⟨sameWorkers, sameRequests, adds, contents⟩ := moves
  cases sameWorkers
  cases sameRequests
  cases adds with
  | none db keys =>
    have sameFiles : System.SameFiles (state.ports config.host)
        (config.host.ports store.contentAt) state.view.db := by
      rintro file ⟨row, member, samePath⟩
      refine sameLines_of_contents config.host rfl (contents file.storagePath ?_)
      rw [← samePath]
      exact List.mem_map_of_mem member
    have after := reads.of_sameFiles sameFiles now
    unfold ReadsFiles IsNew State.view
    rw [keys, db]
    exact after
  | @one input jobId createdAt fresh =>
    have before := reads.of_sameFiles (System.SameFiles.refl _ _) createdAt
    have after := (before.create config.worker input.storagePath input.createdAt fresh
      (noFile_of_fresh invariant.api.consistent fresh)).of_sameFiles
        (System.SameFiles.refl _ _) now
    refine after.mono fun importId new => ?_
    obtain ⟨row, member, isNew, rfl⟩ := new
    refine (List.mem_append.mp member).imp (fun old => ⟨row, old, isNew, rfl⟩) fun added => ?_
    rw [List.mem_singleton.mp added]

theorem hasFiles_of_consistent {store : Store} (consistent : store.Consistent) :
    WorkerProcess.HasFiles store.db := by
  intro job member
  have known : job.importId ∈ store.db.imports.map ImportRow.id :=
    consistent.queued.mem_iff.mp (List.mem_map_of_mem member)
  obtain ⟨file, fileMember, belongs⟩ := List.mem_map.mp (consistent.filed.mem_iff.mpr known)
  exact WorkerProcess.isSome_findByImportId.mpr
    ⟨⟨file, fileMember, belongs⟩, (lookup_isSome ImportRow.id).mpr (List.mem_map.mp known)⟩

theorem readsFiles_initial (config : Config) (now : Nat) (consistent : start.Consistent)
    (wellFormed : start.db.WellFormed)
    (distinct : (start.db.transactions.map TransactionRow.key).Nodup) :
    ReadsFiles config start (initial now start) where
  coherent := System.coherent_initial _ now wellFormed
  distinct := distinct
  hasFiles := hasFiles_of_consistent consistent
  tracked := by
    intro workerId job point executing
    cases executing
  once := by
    rintro importId ⟨row, member, isNew, _⟩
    exact absurd member isNew

/-- A stored transaction stays as it is. -/
def KeepsTransactions (state : State) (_ : Action) (next : State) : Prop :=
  state.api.store.db.transactions <+: next.api.store.db.transactions

theorem step_holds {action : Action} (invariant : Invariant config start state)
    (reads : ReadsFiles config start state) (enabled : step config state action = some next) :
    Invariant config start next ∧ ReadsFiles config start next ∧
      KeepsTransactions state action next := by
  cases action with
  | api action =>
    obtain ⟨after, moves⟩ := requestStep_of_step invariant enabled
    refine ⟨after, readsFiles_request invariant reads moves, ?_⟩
    rw [KeepsTransactions, moves.adds.transactions]
  | process action =>
    obtain ⟨after, moves⟩ := processStep_of_step invariant enabled
    exact ⟨after, readsFiles_process reads moves, System.keepsRows_step moves.enabled⟩

theorem holds_of_run {schedule : List Action}
    (reaches : Transition.run (step config) state schedule = some last)
    (invariant : Invariant config start state) (reads : ReadsFiles config start state) :
    Invariant config start last ∧ ReadsFiles config start last :=
  Transition.Reachable.invariant ⟨schedule, reaches⟩
    (fun state => Invariant config start state ∧ ReadsFiles config start state) ⟨invariant, reads⟩
    fun _ _ _ holds enabled =>
      have after := step_holds holds.1 holds.2 enabled
      ⟨after.1, after.2.1⟩

/-- A request with the key of an import has ended after it has sent these bytes. -/
def SentFor (state : State) (row : IdempotencyKeyRow) (bytes : List UInt8) : Prop :=
  ∃ exchange ∈ state.api.exchanges, ∃ ending command source,
    exchange.request.idempotencyKey = some (.text row.key) ∧ exchange.stage = .ended ending ∧
      ending.command? = some command ∧ command.fileStream = some source ∧ source.bytes = bytes

/-- What becomes of the bytes of an upload: a row of its import is that of the first line with its
key, and when the import is completed no line is missing. -/
structure Arrives (host : Host) (state : State) (importId : ImportId) (bytes : List UInt8) :
    Prop where
  owned : OwnsFirstLines (host.ports fun _ => bytes) importId ⟨[], none⟩ state.api.store.db
  completed : System.CompletesWithLines (host.ports fun _ => bytes) importId ⟨[], none⟩
    state.api.store.db

/-- The file of a new import has what a request with its key has sent. -/
theorem exists_sentFor (invariant : Invariant config start state) {row : IdempotencyKeyRow}
    (member : row ∈ state.api.store.idempotencyKeys) (isNew : row ∉ start.idempotencyKeys)
    {file : ImportFileLocation} (noProvider : file.provider = none)
    (located : ImportFileRepository.findByImportId row.importId state.view.db = some file) :
    ∃ bytes, SentFor state row bytes ∧
      SameLines (state.ports config.host) (config.host.ports fun _ => bytes) file ⟨[], none⟩ := by
  rcases invariant.api.created row member with old | ⟨exchange, exchangeMember, created⟩
  · exact absurd old isNew
  obtain ⟨ending, command, isEnded, _, mine, sameKey, source, isSource, sent, sentMember, belongs,
    stored⟩ := created
  obtain ⟨index, made⟩ := List.mem_iff_getElem?.mp exchangeMember
  have given := invariant.api.fits index exchange made
  rw [isEnded] at given
  have keyed := given.1 command mine
  rw [sameKey] at keyed
  obtain ⟨found, foundMember, foundBelongs, samePath⟩ := System.row_of_located located
  -- an import has one file
  have oneFile : found = sent :=
    List.inj_on_of_nodup_map
      (invariant.api.consistent.filed.nodup_iff.mpr invariant.api.consistent.importIds)
      foundMember sentMember (foundBelongs.trans belongs.symm)
  have content : state.api.store.contentAt file.storagePath = source.bytes := by
    rw [← samePath, oneFile]
    exact contentAt_of_mem invariant.paths stored
  exact ⟨source.bytes, ⟨exchange, exchangeMember, ending, command, source, keyed, isEnded, mine,
    isSource, rfl⟩, sameLines_of_contents config.host noProvider.symm content.symm⟩

theorem arrives_of_readsFiles (invariant : Invariant config start state)
    (reads : ReadsFiles config start state) {row : IdempotencyKeyRow}
    (member : row ∈ state.api.store.idempotencyKeys) (isNew : row ∉ start.idempotencyKeys) :
    ∃ bytes, SentFor state row bytes ∧ Arrives config.host state row.importId bytes := by
  obtain ⟨file, noProvider, once, completes⟩ := reads.once row.importId ⟨row, member, isNew, rfl⟩
  obtain ⟨bytes, sent, same⟩ := exists_sentFor invariant member isNew noProvider once.located
  refine ⟨bytes, sent, ?_⟩
  exact
    { owned := same.ownsFirstLines once.owned
      completed := fun importRow foundRow completed =>
        same.holdsLines (completes importRow foundRow completed) }

end

/-- Any requests, workers and cancellations, whatever fails and whichever processes end, from any
tables and files that fit together: no step changes a stored transaction, and each import that has
come since has the rows of the first lines of what a request with its key has sent, and all of
them when it is completed. -/
theorem uploads_arrive (config : Config) (now : Nat) {start : Store}
    (consistent : start.Consistent) (wellFormed : start.db.WellFormed)
    (distinct : (start.db.transactions.map TransactionRow.key).Nodup)
    (paths : start.paths.Nodup) {schedule : List Action} {final : State}
    (reaches : Transition.run (step config) (initial now start) schedule = some final) :
    (∀ row ∈ final.api.store.idempotencyKeys, row ∉ start.idempotencyKeys →
      ∃ bytes, SentFor final row bytes ∧ Arrives config.host final row.importId bytes) ∧
      Transition.Every (step config) KeepsTransactions (initial now start) schedule := by
  have initially : Invariant config start (initial now start) ∧
      ReadsFiles config start (initial now start) :=
    ⟨invariant_initial config now consistent paths,
      readsFiles_initial config now consistent wellFormed distinct⟩
  constructor
  · intro row member isNew
    obtain ⟨invariant, reads⟩ := holds_of_run reaches initially.1 initially.2
    exact arrives_of_readsFiles invariant reads member isNew
  · refine Transition.Every.imp
      (fun state => Invariant config start state ∧ ReadsFiles config start state) ?_ ?_ initially
      (Transition.every_true (step config) (initial now start) schedule)
    · exact fun _ _ _ holds enabled _ =>
        have after := step_holds holds.1 holds.2 enabled
        ⟨after.1, after.2.1⟩
    · exact fun _ _ _ holds enabled _ => (step_holds holds.1 holds.2 enabled).2.2

/-- A host that decodes ASCII. -/
def asciiHost : Host where
  runtime := System.emptyFilePorts.runtime
  decode := List.map fun byte => Char.ofNat byte.toNat
  computeRiskScore := fun _ _ => (0, .LOW)

/-- A service with one place, at the defaults of the environment. -/
def smallService : Config where
  api :=
    { storage := { storageRoot := [], maxUploadBytes := 1000 }
      maxConcurrentUploads := .finite 1 }
  apiPorts := ImportApi.silentPorts
  worker := System.defaultConfig
  host := asciiHost

/-- The record twice, with a line between that is none. -/
def threeLines : FilePart :=
  let record := System.oneRecord.map UInt16.toUInt8
  { ImportApi.sharedPart with file := ⟨record ++ [0x0a, 0x78, 0x0a] ++ record, false⟩ }

/-- An import is made without its request being told so. -/
def uploadRequest : List Action :=
  [.api (.receive 0 (ImportApi.sharedRequest [0x61])), .api (.proceed 0 .called),
    .api (.proceed 0 (.partRead (.ok threeLines))),
    .api (.proceed 0 (.proceeds (.createFile [0x31]))), .api (.proceed 0 (.proceeds .streamEnded)),
    .api (.proceed 0 (.breaksDown
      (.transaction (some ⟨1, 1, 0⟩) ImportApi.lostConnection)))]

/-- A worker completes it. -/
def uploadAndImport : List Action :=
  uploadRequest ++
    (System.startUp 1 ++ [System.Action.work 1 (.claimNext 1 .acknowledged)] ++
      System.replies 1 12).map .process

theorem uploads_arrive_uploadAndImport :
    ∃ final, Transition.run (step smallService) (initial 0 CreateImport.emptyStore)
        uploadAndImport = some final ∧
      final.api.store.idempotencyKeys = [⟨[0x6b], 1⟩] ∧
      final.api.store.db.transactions.length = 1 ∧
      final.api.store.db.rejectedRecords.length = 1 ∧
      (final.api.store.db.findImport 1).map ImportRow.status = some .COMPLETED ∧
      (∀ row ∈ final.api.store.idempotencyKeys, row ∉ CreateImport.emptyStore.idempotencyKeys →
        ∃ bytes, SentFor final row bytes ∧
          Arrives smallService.host final row.importId bytes) ∧
      Transition.Every (step smallService) KeepsTransactions (initial 0 CreateImport.emptyStore)
        uploadAndImport := by
  have trace : (Transition.run (step smallService) (initial 0 CreateImport.emptyStore)
      uploadAndImport).map (fun final => (final.api.store.idempotencyKeys,
        final.api.store.db.transactions.length, final.api.store.db.rejectedRecords.length,
        (final.api.store.db.findImport 1).map ImportRow.status)) =
      some ([⟨[0x6b], 1⟩], 1, 1, some .COMPLETED) := by
    decide +kernel
  obtain ⟨final, reaches, seen⟩ := Option.map_eq_some_iff.mp trace
  obtain ⟨keys, rows, records, status⟩ :
      final.api.store.idempotencyKeys = [⟨[0x6b], 1⟩] ∧
        final.api.store.db.transactions.length = 1 ∧
        final.api.store.db.rejectedRecords.length = 1 ∧
        (final.api.store.db.findImport 1).map ImportRow.status = some .COMPLETED := by
    simpa only [Prod.mk.injEq] using seen
  exact ⟨final, reaches, keys, rows, records, status,
    uploads_arrive smallService 0 CreateImport.consistent_emptyStore Database.wellFormed_empty
      List.nodup_nil List.nodup_nil reaches⟩

end Service

end ImportService
