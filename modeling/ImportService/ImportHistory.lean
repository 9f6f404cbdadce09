/-
This file proves that the row of an import only moves on. Whatever a statement does to it, its
counters do not fall, a date or a reason that was set stays set, and the total, once it is known,
is not changed (`countsFiles_step`). For the total this takes an invariant: an execution that marks
its import as processing has counted the file of this import, and the file is always the same.

`Grows` is the order of all this, on rows and on tables. The status is not part of it, as the
statements that write it do not all look at the one they replace.
-/

import ImportService.Arrival
import ImportService.TotalRecords

namespace ImportService

open KeyedTable JobRepository ProcessImportFile JobPollerService

/-! ### Rows -/

/-- What a row can have become later. -/
structure ImportRow.Grows (old new : ImportRow) : Prop where
  counters : Statement.counters old ≤ Statement.counters new
  total : old.totalRecords = 0 ∨ new.totalRecords = old.totalRecords
  started : old.startedAt.isSome = true → new.startedAt.isSome = true
  completed : old.completedAt.isSome = true → new.completedAt.isSome = true
  failed : old.failureReason.isSome = true → new.failureReason.isSome = true

theorem ImportRow.Grows.refl (row : ImportRow) : row.Grows row :=
  ⟨le_refl _, Or.inr rfl, fun isSome => isSome, fun isSome => isSome, fun isSome => isSome⟩

theorem ImportRow.Grows.trans {old between new : ImportRow} (first : old.Grows between)
    (second : between.Grows new) : old.Grows new where
  counters := first.counters.trans second.counters
  total := by
    rcases first.total with zero | same
    · exact Or.inl zero
    · rw [← same]
      exact second.total
  started := fun isSome => second.started (first.started isSome)
  completed := fun isSome => second.completed (first.completed isSome)
  failed := fun isSome => second.failed (first.failed isSome)

/-- The dates and the reason that the status of a row calls for. -/
structure ImportRow.Marked (row : ImportRow) : Prop where
  started : row.status = .PROCESSING → row.startedAt.isSome = true
  completed : row.status.isTerminal = true → row.completedAt.isSome = true
  failed : row.status = .FAILED → row.failureReason.isSome = true

/-- A row that is not processing and has not ended calls for nothing. -/
theorem ImportRow.marked_of_idle {row : ImportRow} (notProcessing : row.status ≠ .PROCESSING)
    (notTerminal : row.status.isTerminal = false) : row.Marked where
  started := fun processing => absurd processing notProcessing
  completed := fun terminal => by rw [notTerminal] at terminal; cases terminal
  failed := fun failed => by rw [failed] at notTerminal; cases notTerminal

namespace Statement

section

variable {row : ImportRow}

theorem setImport_cases (now : Nat) (selects : ImportRow → Bool) (data : ImportRow → ImportRow)
    (row : ImportRow) :
    setImport now selects data row = row ∨
      setImport now selects data row = { data row with updatedAt := now } := by
  unfold setImport updateRow
  split
  · exact Or.inr rfl
  · exact Or.inl rfl

theorem grows_setImport {now : Nat} {selects : ImportRow → Bool} {data : ImportRow → ImportRow}
    (grows : selects row = true → row.Grows { data row with updatedAt := now }) :
    row.Grows (setImport now selects data row) := by
  unfold setImport updateRow
  split
  · rename_i selected
    exact grows selected
  · exact .refl row

theorem marked_setImport {now : Nat} {selects : ImportRow → Bool} {data : ImportRow → ImportRow}
    (marked : row.Marked) (after : ({ data row with updatedAt := now } : ImportRow).Marked) :
    (setImport now selects data row).Marked := by
  rcases setImport_cases now selects data row with same | updated
  · rw [same]
    exact marked
  · rw [updated]
    exact after

/-- The total that a statement writes to a row is that of the row, or the row has none. -/
def KeepsTotal (row : ImportRow) (statement : Statement) : Prop :=
  ∀ total startedAt, statement = .updateBothImport row.id (.processing total startedAt) →
    row.totalRecords = 0 ∨ total = row.totalRecords

theorem grows_onImport (now : Nat) (db : Database) {statement : Statement}
    (keeps : KeepsTotal row statement) : row.Grows (statement.onImport now db row) := by
  cases statement with
  | updateBothImport importId mark =>
    refine grows_setImport fun selected => ?_
    have own := eq_of_beq selected
    cases mark with
    | processing total startedAt =>
      exact ⟨le_refl _, keeps total startedAt (by rw [own]), fun _ => rfl, id, id⟩
    | completed | cancelled => exact ⟨le_refl _, Or.inr rfl, id, fun _ => rfl, id⟩
    | failed => exact ⟨le_refl _, Or.inr rfl, id, fun _ => rfl, fun _ => rfl⟩
  | reclaim maxAttempts sweep passed =>
    exact (grows_setImport fun _ => ⟨le_refl _, Or.inr rfl, id, fun _ => rfl, fun _ => rfl⟩).trans
      (grows_setImport fun _ => ⟨le_refl _, Or.inr rfl, id, id, id⟩)
  | persistBatch input =>
    refine grows_setImport fun _ => ⟨?_, Or.inr rfl, id, id, id⟩
    exact ⟨Nat.le_add_right _ _, Nat.le_add_right _ _, Nat.le_add_right _ _, Nat.le_add_right _ _⟩
  | releaseImport | cancel => exact grows_setImport fun _ => ⟨le_refl _, Or.inr rfl, id, id, id⟩
  | create | claimNext | renewLease | updateBothJob | releaseJob => exact .refl row

theorem marked_onImport (now : Nat) (db : Database) (statement : Statement)
    (marked : row.Marked) : (statement.onImport now db row).Marked := by
  cases statement with
  | updateBothImport importId mark =>
    refine marked_setImport marked ?_
    cases mark with
    | processing => exact ⟨fun _ => rfl, by simp [Mark.importData, ImportStatus.isTerminal,
        ImportStatus.TERMINAL_STATUSES], by simp [Mark.importData]⟩
    | completed | cancelled =>
      exact ⟨by simp [Mark.importData], fun _ => rfl, by simp [Mark.importData]⟩
    | failed => exact ⟨by simp [Mark.importData], fun _ => rfl, fun _ => rfl⟩
  | reclaim maxAttempts sweep passed =>
    refine marked_setImport (marked_setImport marked ?_) ?_
    · exact ⟨by simp [abandonImport], fun _ => rfl, fun _ => rfl⟩
    · exact ImportRow.marked_of_idle (by simp [toPendingImport]) rfl
  | persistBatch input =>
    exact marked_setImport marked ⟨marked.started, marked.completed, marked.failed⟩
  | releaseImport =>
    exact marked_setImport marked (ImportRow.marked_of_idle (by simp [toPendingImport]) rfl)
  | cancel =>
    exact marked_setImport marked
      (ImportRow.marked_of_idle (by simp [ImportRepository.cancelImport]) rfl)
  | create | claimNext | renewLease | updateBothJob | releaseJob => exact marked

end

end Statement

/-! ### Tables -/

/-- What the tables can have become later. -/
structure Database.Grows (before after : Database) : Prop where
  imports : ∀ importId row, before.findImport importId = some row →
    ∃ new, after.findImport importId = some new ∧ row.Grows new
  transactions : before.transactions <+: after.transactions
  rejectedRecords : before.rejectedRecords <+: after.rejectedRecords

theorem Database.Grows.refl (db : Database) : db.Grows db :=
  ⟨fun _ row found => ⟨row, found, .refl row⟩, List.prefix_rfl, List.prefix_rfl⟩

theorem Database.Grows.trans {before between after : Database} (first : before.Grows between)
    (second : between.Grows after) : before.Grows after where
  imports := by
    intro importId row found
    obtain ⟨later, foundLater, grows⟩ := first.imports importId row found
    obtain ⟨new, foundNew, growsOn⟩ := second.imports importId later foundLater
    exact ⟨new, foundNew, grows.trans growsOn⟩
  transactions := first.transactions.trans second.transactions
  rejectedRecords := first.rejectedRecords.trans second.rejectedRecords

theorem Database.grows_commit (now : Nat) {db : Database} {statement : Statement}
    (keeps : ∀ importId row, db.findImport importId = some row →
      Statement.KeepsTotal row statement) : db.Grows (statement.commit now db) where
  imports := fun importId row found =>
    ⟨_, Statement.commit_findImport now statement found,
      Statement.grows_onImport now db (keeps importId row found)⟩
  transactions := by
    rw [Statement.commit_transactions]
    exact List.prefix_append _ _
  rejectedRecords := by
    rw [Statement.commit_rejectedRecords]
    exact List.prefix_append _ _

/-! ### The total of an import -/

namespace ProcessImportFile

/-- The marks that an execution makes of its own accord end the import. -/
theorem not_processing_of_inLoop {now total startedAt : Nat} {stage : Stage} {caller : Caller}
    (inLoop : (Outcome.awaiting
      (.updateBoth (.processing total startedAt) stage caller)).InLoop now) : False := by
  cases stage with
  | importRow => cases inLoop
  | job =>
    cases caller with
    | loopEnded => rcases inLoop with isMark | isMark <;> cases isMark
    | fileMissing | fileFound | caught => cases inLoop

theorem not_processing_of_failed {now total startedAt : Nat} {failure : Failure} {point : Point}
    {stage : Stage} {caller : Caller}
    (awaiting : failed now failure point =
      .awaiting (.updateBoth (.processing total startedAt) stage caller)) : False := by
  have notCaught (caught : caught now failure =
      .awaiting (.updateBoth (.processing total startedAt) stage caller)) : False := by
    cases failure <;> cases caught
  cases point with
  | findByImportId | countLines => cases awaiting
  | updateBoth mark earlier origin =>
    cases origin with
    | loopEnded => exact notCaught awaiting
    | fileMissing | fileFound | caught => cases awaiting
  | readLine | renewLease | getStatus | scoreBatch | persistBatch => exact notCaught awaiting

/-- An execution that is about to mark its import as processing has just counted the file, or has
written this mark to the job. -/
theorem resume_processing {ports : Ports} {batchSize now total startedAt : Nat} {db : Database}
    {job : ClaimedJob} {point : Point} {reply : Reply} {stage : Stage} {caller : Caller}
    (awaiting : resume ports batchSize db now job point reply =
      some (.awaiting (.updateBoth (.processing total startedAt) stage caller))) :
    (∃ file, point = .countLines file ∧ total = ports.countLines file.storagePath) ∨
      point = .updateBoth (.processing total startedAt) .job caller := by
  cases reply with
  | ok =>
    have goesOn := Option.some.inj awaiting
    by_cases inLoop : point.inLoop = true
    · have staysIn : (succeeded ports batchSize db now job point).InLoop now :=
        succeeded_inLoop batchSize db now inLoop
      rw [goesOn] at staysIn
      exact absurd staysIn not_processing_of_inLoop
    · cases point with
      | findByImportId =>
        rw [succeeded] at goesOn
        split at goesOn <;> cases goesOn
      | countLines file =>
        cases goesOn
        exact Or.inl ⟨file, rfl, rfl⟩
      | updateBoth mark earlier origin =>
        cases earlier with
        | job =>
          cases goesOn
          exact Or.inr rfl
        | importRow => cases origin <;> cases goesOn
      | readLine | renewLease | getStatus | scoreBatch | persistBatch => exact absurd rfl inLoop
  | fail committed failure =>
    exact absurd (Option.some.inj awaiting) not_processing_of_failed
  | retry committed => cases point <;> cases awaiting

end ProcessImportFile

namespace System

/-- The total of an import is the number of lines of its file, if it has one. -/
def TotalsFit (ports : Ports) (db : Database) : Prop :=
  ∀ importId row, db.findImport importId = some row → row.totalRecords = 0 ∨
    ∃ file, ImportFileRepository.findByImportId importId db = some file ∧
      row.totalRecords = ports.countLines file.storagePath

/-- Every import has been marked as its status says. -/
def AllMarked (db : Database) : Prop :=
  ∀ importId row, db.findImport importId = some row → row.Marked

/-- What holds of the rows of the imports in every state: the executions that are about to mark one
as processing have counted its file. -/
structure CountsFiles (ports : Ports) (state : State) : Prop where
  agree : state.db.CountersAgree
  marked : AllMarked state.db
  totals : TotalsFit ports state.db
  counting : ∀ workerId job total startedAt stage caller,
    (state.workers workerId).phase =
        .executing job (.updateBoth (.processing total startedAt) stage caller) →
      ∃ file, ImportFileRepository.findByImportId job.importId state.db = some file ∧
        total = ports.countLines file.storagePath

section

variable {ports other : Ports} {config : Config} {state next : State} {action : Action}
  {importId : ImportId} {file : ImportFileLocation} {isNew : ImportId → Prop}

/-- The total that an execution writes is the number of lines of the file. -/
theorem total_of_emitted (counts : CountsFiles ports state) {total startedAt : Nat}
    (emits : emitted ports config state action =
      some (.updateBothImport importId (.processing total startedAt))) :
    ∃ file, ImportFileRepository.findByImportId importId state.db = some file ∧
      total = ports.countLines file.storagePath := by
  cases emitted_origin emits with
  | execute executing calls =>
    cases calls
    exact counts.counting _ _ _ _ _ _ executing

theorem keepsTotal_of_emitted (counts : CountsFiles ports state) {statement : Statement}
    (emits : emitted ports config state action = some statement) {row : ImportRow}
    (found : state.db.findImport importId = some row) : Statement.KeepsTotal row statement := by
  rintro total startedAt rfl
  rw [lookup_key ImportRow.id found] at emits
  obtain ⟨file, located, isTotal⟩ := total_of_emitted counts emits
  refine (counts.totals importId row found).imp_right fun fits => ?_
  obtain ⟨sameFile, sameLocated, isSame⟩ := fits
  rw [located] at sameLocated
  cases sameLocated
  exact isTotal.trans isSame.symm

/-- A step of the system only adds to the tables, and moves on what they say of an import. -/
theorem grows_step (counts : CountsFiles ports state)
    (enabled : step ports config state action = some next) : state.db.Grows next.db := by
  rw [step_db enabled]
  cases emits : emitted ports config state action with
  | none => exact .refl state.db
  | some statement =>
    exact Database.grows_commit state.now fun importId row found =>
      keepsTotal_of_emitted counts emits found

theorem marked_step (marked : AllMarked state.db)
    (enabled : step ports config state action = some next) : AllMarked next.db := by
  intro importId row found
  rcases findImport_step enabled found with ⟨old, foundOld, rfl⟩ | ⟨_, _, _, _, _, rfl⟩
  · cases emitted ports config state action with
    | none => exact marked importId old foundOld
    | some statement =>
      exact Statement.marked_onImport state.now state.db statement (marked importId old foundOld)
  · exact ImportRow.marked_of_idle (by simp [ImportRepository.newImport]) rfl

theorem totalsFit_step (coherent : Coherent ports state) (counts : CountsFiles ports state)
    (enabled : step ports config state action = some next) : TotalsFit ports next.db := by
  intro importId row found
  rcases findImport_step enabled found with ⟨old, foundOld, rfl⟩ | ⟨_, _, _, _, _, rfl⟩
  · have stays (fits : old.totalRecords = 0 ∨
        ∃ file, ImportFileRepository.findByImportId importId state.db = some file ∧
          old.totalRecords = ports.countLines file.storagePath) :
        old.totalRecords = 0 ∨
          ∃ file, ImportFileRepository.findByImportId importId next.db = some file ∧
            old.totalRecords = ports.countLines file.storagePath := by
      refine fits.imp_right fun fits => ?_
      obtain ⟨file, located, isTotal⟩ := fits
      exact ⟨file, located_step coherent located enabled, isTotal⟩
    have before := stays (counts.totals importId old foundOld)
    cases emits : emitted ports config state action with
    | none => exact before
    | some statement =>
      by_cases marks : ∃ total startedAt,
          statement = .updateBothImport old.id (.processing total startedAt)
      · obtain ⟨total, startedAt, rfl⟩ := marks
        rw [lookup_key ImportRow.id foundOld] at emits
        obtain ⟨file, located, isTotal⟩ := total_of_emitted counts emits
        have written : ((Statement.updateBothImport importId (.processing total startedAt)).onImport
            state.now state.db old).totalRecords = total :=
          (Statement.setImport_field ImportRow.totalRecords (fun _ _ => rfl) state.now _ _
            old).trans (if_pos (beq_iff_eq.mpr (lookup_key ImportRow.id foundOld)))
        rw [lookup_key ImportRow.id foundOld]
        exact Or.inr ⟨file, located_step coherent located enabled, written.trans isTotal⟩
      · rw [onImport, Statement.onImport_totalRecords state.now state.db old
          fun total startedAt isMark => marks ⟨total, startedAt, isMark⟩]
        exact before
  · exact Or.inl rfl

/-- An execution counts the file of its import. -/
theorem counting_step (imports : ImportsFiles ports isNew state) (counts : CountsFiles ports state)
    (enabled : step ports config state action = some next) {workerId : WorkerId}
    {job : ClaimedJob} {total startedAt : Nat} {stage : Stage} {caller : Caller}
    (executing : (next.workers workerId).phase =
      .executing job (.updateBoth (.processing total startedAt) stage caller)) :
    ∃ file, ImportFileRepository.findByImportId job.importId next.db = some file ∧
      total = ports.countLines file.storagePath := by
  have stays (counted : ∃ file,
      ImportFileRepository.findByImportId job.importId state.db = some file ∧
        total = ports.countLines file.storagePath) :
      ∃ file, ImportFileRepository.findByImportId job.importId next.db = some file ∧
        total = ports.countLines file.storagePath := by
    obtain ⟨file, located, isTotal⟩ := counted
    exact ⟨file, located_step imports.coherent located enabled, isTotal⟩
  rcases step_phase enabled workerId with same | ⟨event, rfl, entered⟩
  · rw [same] at executing
    exact stays (counts.counting workerId job total startedAt stage caller executing)
  · rw [executing] at entered
    generalize emitted ports config state (.work workerId event) = statement at entered
    cases entered with
    | resumed before awaiting =>
      rcases resume_processing awaiting with ⟨found, rfl, isTotal⟩ | rfl
      · obtain ⟨file, sent, stop, located, tracks⟩ := imports.tracked workerId job _ before
        obtain ⟨rfl, _⟩ := tracks
        exact stays ⟨found, located, isTotal⟩
      · exact stays (counts.counting workerId job total startedAt .job caller before)
    | bare isBare => cases isBare

theorem countsFiles_step (imports : ImportsFiles ports isNew state)
    (counts : CountsFiles ports state)
    (enabled : step ports config state action = some next) : CountsFiles ports next where
  agree := countersAgree_step imports.coherent counts.agree enabled
  marked := marked_step counts.marked enabled
  totals := totalsFit_step imports.coherent counts enabled
  counting := fun _ _ _ _ _ _ executing => counting_step imports counts enabled executing

/-- Nothing changes when the files of the imports stay and the clock advances. -/
theorem CountsFiles.of_sameCounts (counts : CountsFiles ports state)
    (same : ∀ importId file, ImportFileRepository.findByImportId importId state.db = some file →
      other.countLines file.storagePath = ports.countLines file.storagePath) (now : Nat) :
    CountsFiles other { state with now } where
  agree := counts.agree
  marked := counts.marked
  totals := by
    intro importId row found
    refine (counts.totals importId row found).imp_right fun fits => ?_
    obtain ⟨file, located, isTotal⟩ := fits
    exact ⟨file, located, isTotal.trans (same importId file located).symm⟩
  counting := by
    intro workerId job total startedAt stage caller executing
    obtain ⟨file, located, isTotal⟩ :=
      counts.counting workerId job total startedAt stage caller executing
    exact ⟨file, located, isTotal.trans (same job.importId file located).symm⟩

end

end System

/-! ### The service -/

namespace Service

section

variable {config : Config} {start : Store} {state next : State}

/-- What holds in every state of the service. -/
structure Holds (config : Config) (start : Store) (state : State) : Prop where
  invariant : Invariant config start state
  reads : ReadsFiles config start state
  counts : System.CountsFiles (state.ports config.host) state.view

theorem countsFiles_process {action : System.Action} (reads : ReadsFiles config start state)
    (counts : System.CountsFiles (state.ports config.host) state.view)
    (moves : ProcessStep config state next action) :
    System.CountsFiles (next.ports config.host) next.view ∧
      state.api.store.db.Grows next.api.store.db := by
  have samePorts : next.ports config.host = state.ports config.host := by
    unfold State.ports Store.contentAt
    rw [moves.files]
  rw [samePorts]
  exact ⟨System.countsFiles_step reads counts moves.enabled,
    System.grows_step counts moves.enabled⟩

theorem countsFiles_request (reads : ReadsFiles config start state)
    (counts : System.CountsFiles (state.ports config.host) state.view)
    (moves : RequestStep state next) :
    System.CountsFiles (next.ports config.host) next.view ∧
      state.api.store.db.Grows next.api.store.db := by
  obtain ⟨api, workers, requests⟩ := next
  obtain ⟨now, store, inFlight, exchanges⟩ := api
  obtain ⟨sameWorkers, sameRequests, adds, contents⟩ := moves
  cases sameWorkers
  cases sameRequests
  cases adds with
  | none db keys =>
    have sameCounts : ∀ importId file,
        ImportFileRepository.findByImportId importId state.view.db = some file →
          (config.host.ports store.contentAt).countLines file.storagePath =
            (state.ports config.host).countLines file.storagePath := by
      intro importId file located
      obtain ⟨row, member, _, samePath⟩ := System.row_of_located located
      have sameContent := contents file.storagePath (by
        rw [← samePath]
        exact List.mem_map_of_mem member)
      exact congrArg (fun content => ReadlineLineReader.countLines [content]) sameContent
    have after := counts.of_sameCounts sameCounts now
    unfold State.view
    rw [db]
    exact ⟨after, .refl _⟩
  | @one input jobId createdAt fresh =>
    have imports := reads.of_sameFiles (System.SameFiles.refl _ _) createdAt
    have before := counts.of_sameCounts (fun _ _ _ => rfl) createdAt
    have enabled : System.step (state.ports config.host) config.worker
        { state.view with now := createdAt }
        (.create input.id jobId input.storagePath input.createdAt) = some _ :=
      System.step_create _ _ input.storagePath input.createdAt fresh
    exact ⟨(System.countsFiles_step imports before enabled).of_sameCounts (fun _ _ _ => rfl) now,
      System.grows_step before enabled⟩

theorem holds_step {action : Action} (holds : Holds config start state)
    (enabled : step config state action = some next) :
    Holds config start next ∧ state.api.store.db.Grows next.api.store.db := by
  obtain ⟨invariant, reads, _⟩ := step_holds holds.invariant holds.reads enabled
  cases action with
  | api action =>
    obtain ⟨_, moves⟩ := requestStep_of_step holds.invariant enabled
    obtain ⟨counts, grows⟩ := countsFiles_request holds.reads holds.counts moves
    exact ⟨⟨invariant, reads, counts⟩, grows⟩
  | process action =>
    obtain ⟨_, moves⟩ := processStep_of_step holds.invariant enabled
    obtain ⟨counts, grows⟩ := countsFiles_process holds.reads holds.counts moves
    exact ⟨⟨invariant, reads, counts⟩, grows⟩

/-- Tables and files that a service can start on: they fit together, the counters and dates of the
imports are right, and so are the totals that are known. -/
structure CanStart (host : Host) (start : Store) : Prop where
  consistent : start.Consistent
  wellFormed : start.db.WellFormed
  distinct : (start.db.transactions.map TransactionRow.key).Nodup
  paths : start.paths.Nodup
  agree : start.db.CountersAgree
  marked : System.AllMarked start.db
  totals : System.TotalsFit (host.ports start.contentAt) start.db

theorem holds_initial (now : Nat) (canStart : CanStart config.host start) :
    Holds config start (initial now start) where
  invariant := invariant_initial config now canStart.consistent canStart.paths
  reads := readsFiles_initial config now canStart.consistent canStart.wellFormed canStart.distinct
  counts :=
    { agree := canStart.agree
      marked := canStart.marked
      totals := canStart.totals
      counting := fun _ _ _ _ _ _ executing => by cases executing }

theorem canStart_emptyStore (host : Host) : CanStart host CreateImport.emptyStore where
  consistent := CreateImport.consistent_emptyStore
  wellFormed := Database.wellFormed_empty
  distinct := List.nodup_nil
  paths := List.nodup_nil
  agree := fun _ _ found => by cases found
  marked := fun _ _ found => by cases found
  totals := fun _ _ found => by cases found

end

end Service

end ImportService
