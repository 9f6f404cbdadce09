/-
This file proves what progress adds up to. `markProcessing` stores the count of the first
pass over the file as `totalRecords`, and every batch adds its lines to `processedCount`.
At the end of a run without failures the second number is the number of lines the parser
does not skip, so the two agree exactly when the two passes do.
-/

import ImportService.Batching
import ImportService.LineReader

namespace ImportService

open KeyedTable JobRepository ProcessImportFile JobPollerService TransactionRepository
  ReadlineLineReader

/-! ### Processed lines -/

namespace Ledger

/-- A line counts unless the parser calls it blank. -/
theorem processedCount_importLine (ports : Ports) (importId : ImportId)
    (fallbackProvider rawLine : JsString) (lineNumber : Nat) (ledger : Ledger) :
    (ledger.importLine ports importId fallbackProvider rawLine lineNumber).processedCount =
      ledger.processedCount +
        if isBlank (parseNdjsonLine ports.runtime rawLine lineNumber) then 0 else 1 := by
  rw [importLine]
  cases parseNdjsonLine ports.runtime rawLine lineNumber with
  | blank => rfl
  | rejected => rfl
  | valid number data =>
    simp only
    cases validateTransaction ports.runtime data fallbackProvider with
    | error failure => rfl
    | ok transaction =>
      show (ledger.accept ports importId transaction).processedCount = ledger.processedCount + 1
      unfold accept
      split <;> rfl

/-- Every line counts that the parser does not skip. -/
theorem processedCount_importLines (ports : Ports) (importId : ImportId)
    (fallbackProvider : JsString) (lineNumber : Nat) (rawLines : List JsString)
    (ledger : Ledger) :
    (ledger.importLines ports importId fallbackProvider lineNumber rawLines).processedCount =
      ledger.processedCount + recordCount ports.runtime rawLines := by
  rw [recordCount_eq]
  induction rawLines generalizing lineNumber ledger with
  | nil => rfl
  | cons rawLine rest inductionHypothesis =>
    rw [importLines, inductionHypothesis, List.countP_cons, processedCount_importLine,
      isBlank_parseNdjsonLine]
    cases (JsString.trim rawLine).isEmpty with
    | true => rfl
    | false =>
      simp only [Bool.not_false, if_true, Bool.false_eq_true, if_false]
      omega

end Ledger

/-! ### The total -/

/-- The total of an import. -/
def Database.totalRecords (db : Database) (importId : ImportId) : Option Nat :=
  (db.findImport importId).map ImportRow.totalRecords

/-- Only `markProcessing` sets the total of an import. -/
theorem Statement.onImport_totalRecords (now : Nat) (db : Database) {statement : Statement}
    (row : ImportRow)
    (notMark : ∀ total startedAt,
      statement ≠ .updateBothImport row.id (.processing total startedAt)) :
    (statement.onImport now db row).totalRecords = row.totalRecords := by
  cases statement with
  | updateBothImport importId mark =>
    cases mark with
    | processing total startedAt =>
      have other : row.id ≠ importId := by
        rintro rfl
        exact notMark total startedAt rfl
      exact congrArg ImportRow.totalRecords (setImport_of_id_ne now _ other)
    | completed completedAt =>
      exact setImport_keeps ImportRow.totalRecords now _ (Mark.completed completedAt).importData
        (fun _ => rfl) row
    | failed reason completedAt =>
      exact setImport_keeps ImportRow.totalRecords now _ (Mark.failed reason completedAt).importData
        (fun _ => rfl) row
    | cancelled completedAt =>
      exact setImport_keeps ImportRow.totalRecords now _ (Mark.cancelled completedAt).importData
        (fun _ => rfl) row
  | releaseImport importId =>
    exact setImport_keeps ImportRow.totalRecords now _ toPendingImport (fun _ => rfl) row
  | reclaim maxAttempts sweep passed =>
    exact (setImport_keeps ImportRow.totalRecords now _ toPendingImport (fun _ => rfl) _).trans
      (setImport_keeps ImportRow.totalRecords now _ (abandonImport sweep.startedAt)
        (fun _ => rfl) row)
  | cancel importId =>
    exact setImport_keeps ImportRow.totalRecords now _ ImportRepository.cancelImport
      (fun _ => rfl) row
  | persistBatch input =>
    exact setImport_keeps ImportRow.totalRecords now _ (countBatch _ _) (fun _ => rfl) row
  | create | claimNext | renewLease | updateBothJob | releaseJob => rfl

/-- What is known of the total at a call of a run without failures. -/
def ProcessImportFile.Point.Totals (counted : Nat) (total : Option Nat) : Point → Prop
  | .findByImportId | .countLines _ => True
  | .updateBoth mark _ (.fileFound _) => ∃ startedAt, mark = .processing counted startedAt
  | .updateBoth mark _ .loopEnded =>
      total = some counted ∧ ∃ endedAt, mark = .completed endedAt ∨ mark = .cancelled endedAt
  | .updateBoth _ _ .fileMissing | .updateBoth _ _ .caught => False
  | .readLine _ | .renewLease _ _ | .getStatus _ _ | .scoreBatch _ _ _ | .persistBatch _ _ _ =>
      total = some counted

namespace ProcessImportFile

theorem total_of_inLoop {point : Point} (inLoop : point.inLoop = true) {counted : Nat}
    {total : Option Nat} (totals : point.Totals counted total) : total = some counted := by
  cases point with
  | readLine | renewLease | getStatus | scoreBatch | persistBatch => exact totals
  | findByImportId | countLines | updateBoth => cases inLoop

/-- The loop and its mark know the total. -/
theorem Outcome.InLoop.totals {outcome : Outcome} {now : Nat} (inLoop : outcome.InLoop now)
    (counted : Nat) :
    ∃ point, outcome = .awaiting point ∧ point.Totals counted (some counted) := by
  cases outcome with
  | resolved | rejected => cases inLoop
  | awaiting point =>
    refine ⟨point, rfl, ?_⟩
    cases point with
    | readLine | renewLease | getStatus | scoreBatch | persistBatch => rfl
    | findByImportId | countLines => cases inLoop
    | updateBoth mark stage caller =>
      cases stage with
      | importRow => cases inLoop
      | job =>
        cases caller with
        | loopEnded => exact ⟨rfl, now, inLoop⟩
        | fileMissing | fileFound | caught => cases inLoop

end ProcessImportFile

namespace System

/-- What is known of the total while an execution runs, and when it has returned. -/
def Totals (ports : Ports) (workerId : WorkerId) (job : ClaimedJob) (file : ImportFileLocation)
    (state : State) : Prop :=
  (∃ point, (state.workers workerId).phase = .executing job point ∧
      point.Totals (ports.countLines file.storagePath) (state.db.totalRecords job.importId)) ∨
    (state.workers workerId).phase = .polling ∧
      state.db.totalRecords job.importId = some (ports.countLines file.storagePath)

section

variable {ports : Ports} {config : Config} {state next : State} {action : Action}
  {workerId : WorkerId} {job : ClaimedJob} {file : ImportFileLocation} {start : Ledger}
  {earlier : List Note}

theorem totalRecords_step (enabled : step ports config state action = some next)
    {importId : ImportId} (known : (state.db.findImport importId).isSome = true)
    (notMark : ∀ total startedAt, emitted ports config state action ≠
      some (.updateBothImport importId (.processing total startedAt))) :
    next.db.totalRecords importId = state.db.totalRecords importId := by
  obtain ⟨row, found⟩ := Option.isSome_iff_exists.mp known
  have sameId := lookup_key ImportRow.id found
  rw [Database.totalRecords, Database.totalRecords, step_findImport enabled found, found,
    Option.map_some, Option.map_some]
  cases emits : emitted ports config state action with
  | none => rfl
  | some statement =>
    refine congrArg some (Statement.onImport_totalRecords state.now state.db row ?_)
    rintro total startedAt rfl
    exact notMark total startedAt (emits.trans (by rw [sameId]))

theorem totals_of_other (known : (state.db.findImport job.importId).isSome = true)
    (totals : Totals ports workerId job file state)
    (enabled : step ports config state action = some next)
    (other : ∀ mover event, action ≠ .work mover event) :
    Totals ports workerId job file next := by
  have sameWorker : next.workers workerId = state.workers workerId := by
    rcases step_worker enabled workerId with same | ⟨event, acts, _⟩
    · exact same
    · exact absurd acts (other workerId event)
  have sameTotal := totalRecords_step enabled known fun total startedAt emits => by
    cases emitted_origin emits with
    | execute => exact other _ _ rfl
  unfold Totals
  rw [sameWorker, sameTotal]
  exact totals

/-- A call that is not `markProcessing`'s second statement leaves the total as it is. -/
theorem totalRecords_of_reply {point : Point}
    (known : (state.db.findImport job.importId).isSome = true)
    (enabled : step ports config state (.work workerId (.reply .ok)) = some next)
    (emits : emitted ports config state (.work workerId (.reply .ok)) = point.statement job)
    (notMark : ∀ total startedAt caller,
      point ≠ .updateBoth (.processing total startedAt) .importRow caller) :
    next.db.totalRecords job.importId = state.db.totalRecords job.importId := by
  refine totalRecords_step enabled known fun total startedAt marks => ?_
  rw [emits] at marks
  cases calls_of_statement marks with
  | updateBothImport => exact notMark total startedAt _ rfl

/-- The answer to `markProcessing`'s second statement sets the total. -/
theorem totalRecords_of_markProcessing {total startedAt : Nat}
    (known : (state.db.findImport job.importId).isSome = true)
    (enabled : step ports config state action = some next)
    (emits : emitted ports config state action =
      some (.updateBothImport job.importId (.processing total startedAt))) :
    next.db.totalRecords job.importId = some total := by
  obtain ⟨row, found⟩ := Option.isSome_iff_exists.mp known
  have selected : (row.id == job.importId) = true := beq_iff_eq.mpr (lookup_key ImportRow.id found)
  rw [Database.totalRecords, step_findImport enabled found, emits, Option.map_some]
  have rowAfter : (Statement.updateBothImport job.importId (.processing total startedAt)).onImport
      state.now state.db row =
        { (Mark.processing total startedAt).importData row with updatedAt := state.now } :=
    if_pos selected
  exact congrArg some (congrArg ImportRow.totalRecords rowAfter)

/-- Every answer keeps what is known of the total. -/
theorem totals_of_reply (follows : Follows ports workerId job file start earlier state)
    {point : Point} (working : Working ports workerId job file start earlier state point)
    (totals : point.Totals (ports.countLines file.storagePath)
      (state.db.totalRecords job.importId))
    (enabled : step ports config state (.work workerId (.reply .ok)) = some next) :
    Totals ports workerId job file next := by
  have known := findImport_of_findByImportId follows.located
  obtain ⟨sent, tracks, _⟩ := working.sent
  obtain ⟨emits, after⟩ := step_reply working.phase enabled
  have same := totalRecords_of_reply known enabled emits
  unfold Totals
  rw [after]
  by_cases inLoop : point.inLoop = true
  · have notMark : ∀ total startedAt caller,
        point ≠ .updateBoth (.processing total startedAt) .importRow caller := by
      rintro total startedAt caller rfl
      cases inLoop
    obtain ⟨nextPoint, awaits, nextTotals⟩ := (succeeded_inLoop (config.batchSize workerId) state.db
      state.now inLoop).totals (ports.countLines file.storagePath)
    rw [awaits, same notMark, total_of_inLoop inLoop totals]
    exact Or.inl ⟨nextPoint, rfl, nextTotals⟩
  · cases point with
    | findByImportId =>
      rw [succeeded, follows.located]
      exact Or.inl ⟨_, rfl, trivial⟩
    | countLines found =>
      obtain ⟨rfl, _⟩ := tracks
      exact Or.inl ⟨_, rfl, state.now, rfl⟩
    | updateBoth mark stage caller =>
      cases caller with
      | fileMissing | caught => cases working.isQuiet
      | fileFound found =>
        obtain ⟨startedAt, rfl⟩ := totals
        cases stage with
        | job => exact Or.inl ⟨_, rfl, startedAt, rfl⟩
        | importRow => exact Or.inl ⟨_, rfl, totalRecords_of_markProcessing known enabled emits⟩
      | loopEnded =>
        obtain ⟨isTotal, endedAt, isEnd⟩ := totals
        have notMark : ∀ total startedAt other,
            Point.updateBoth mark stage .loopEnded ≠
              .updateBoth (.processing total startedAt) .importRow other := by
          rintro total startedAt other sameMark
          obtain ⟨rfl, _⟩ := Point.updateBoth.inj sameMark
          rcases isEnd with impossible | impossible <;> cases impossible
        rw [same notMark, isTotal]
        cases stage with
        | job => exact Or.inl ⟨_, rfl, rfl, endedAt, isEnd⟩
        | importRow => exact Or.inr ⟨rfl, rfl⟩
    | readLine | renewLease | getStatus | scoreBatch | persistBatch => exact absurd rfl inLoop

/-- A quiet schedule keeps what is known of the total. -/
theorem totals_run {schedule : List Action} {final : State}
    (quiet : ∀ action ∈ schedule, Quiet workerId action)
    (follows : Follows ports workerId job file start earlier state)
    (totals : Totals ports workerId job file state)
    (reaches : Transition.run (step ports config) state schedule = some final) :
    Totals ports workerId job file final := by
  induction schedule generalizing state earlier with
  | nil =>
    cases reaches
    exact totals
  | cons action rest inductionHypothesis =>
    rw [Transition.run] at reaches
    obtain ⟨next, enabled, later⟩ := Option.bind_eq_some_iff.mp reaches
    have quietLater : ∀ action ∈ rest, Quiet workerId action :=
      fun action member => quiet action (List.mem_cons_of_mem _ member)
    have quietNow := quiet action List.mem_cons_self
    have oneStep : Transition.run (step ports config) state [action] = some next := by
      rw [Transition.run, enabled]
      rfl
    have followsNext := follows_run
      (fun other member => by rwa [List.mem_singleton.mp member]) follows oneStep
    refine inductionHypothesis quietLater followsNext ?_ later
    have known := findImport_of_findByImportId follows.located
    cases action with
    | work mover event =>
      obtain ⟨rfl, rfl⟩ := quietNow
      rcases follows.place with ⟨point, working⟩ | returned
      · rcases totals with ⟨samePoint, executing, pointTotals⟩ | ⟨polling, _⟩
        · rw [working.phase] at executing
          cases executing
          exact totals_of_reply follows working pointTotals enabled
        · rw [working.phase] at polling
          cases polling
      · have moved := step_mover enabled
        rw [JobPollerService.step, returned.phase] at moved
        cases moved
    | advance | create | requestCancellation | cancel =>
      exact totals_of_other known totals enabled fun _ _ => Action.noConfusion

/-! ### Progress at the end of a run -/

/-- A run of `execute` without a failure or a cancellation. The job has just been claimed and no
line of the import is processed yet; every call succeeds, until the execution has returned. -/
structure RunsThrough (ports : Ports) (config : Config) (workerId : WorkerId) (now : Nat)
    (db : Database) (row : JobRow) (file : ImportFileLocation) (schedule : List Action)
    (final : State) : Prop where
  wellFormed : db.WellFormed
  found : db.findJob row.id = some row
  located : ImportFileRepository.findByImportId row.importId db = some file
  unprocessed : ∀ importRow, db.findImport row.importId = some importRow →
    importRow.processedCount = 0
  quiet : ∀ action ∈ schedule, Quiet workerId action
  reaches : Transition.run (step ports config) (atWork now db workerId row) schedule = some final
  returned : (final.workers workerId).phase = .polling
  uncancelled :
    cancellationPoint (notes ports config workerId (atWork now db workerId row) schedule) = none

/-- At its end the import has processed the lines the parser does not skip, out of those the
first pass counted. -/
theorem RunsThrough.progress {now : Nat} {db : Database} {row : JobRow} {schedule : List Action}
    {final : State} (runs : RunsThrough ports config workerId now db row file schedule final)
    {importRow : ImportRow} (found : final.db.findImport row.importId = some importRow) :
    importRow.processedCount = recordCount ports.runtime (ports.readLines file.storagePath) ∧
      importRow.totalRecords = ports.countLines file.storagePath := by
  obtain ⟨startRow, foundStart⟩ :=
    Option.isSome_iff_exists.mp (findImport_of_findByImportId runs.located)
  obtain ⟨ledger, ledgerIs⟩ : ∃ ledger, db.ledger row.importId = some ledger := by
    rw [Database.ledger, foundStart]
    exact ⟨_, rfl⟩
  have follows :=
    follows_atWork ports now runs.wellFormed workerId runs.found runs.located ledgerIs
  constructor
  · obtain ⟨_, _, _, place⟩ := follows_run runs.quiet follows runs.reaches
    rw [List.nil_append] at place
    rcases place with ⟨point, working⟩ | returned
    · have polling := runs.returned
      rw [working.phase] at polling
      cases polling
    · have atEnd := returned.ledger
      rw [runs.uncancelled] at atEnd
      have processed := congrArg (Option.map Ledger.processedCount) atEnd
      rw [show (claimed workerId row).importId = row.importId from rfl, Database.ledger, found,
        Option.map_some, Option.map_some, Option.map_some, Ledger.processedCount_importLines,
        Option.some.injEq] at processed
      have fromZero : ledger.processedCount = 0 := by
        rw [Database.ledger, foundStart] at ledgerIs
        cases ledgerIs
        exact runs.unprocessed startRow foundStart
      rw [fromZero, Nat.zero_add] at processed
      exact processed
  · have atStart : Totals ports workerId (claimed workerId row) file
        (atWork now db workerId row) :=
      Or.inl ⟨.findByImportId, by simp only [atWork, Function.update_self], trivial⟩
    rcases totals_run runs.quiet follows atStart runs.reaches with
      ⟨point, executing, _⟩ | ⟨_, isTotal⟩
    · have polling := runs.returned
      rw [executing] at polling
      cases polling
    · rw [Database.totalRecords, show (claimed workerId row).importId = row.importId from rfl,
        found, Option.map_some, Option.some.injEq] at isTotal
      exact isTotal

end

/-- For every file, in whatever chunks its bytes are read: the first pass counts the lines the
parser does not skip, and a run without failures ends with all of `totalRecords` processed,
exactly when the lines that are counted and skipped later are as many as those that are read
and were not counted. -/
theorem progress_agrees_iff (runtime : Runtime) (content : List Char)
    (chunks : List (List UInt8))
    (bytes : chunks.flatten = content.flatMap String.utf8EncodeChar) :
    (countLines chunks = recordCount runtime (readLines content) ↔
        skippedLines content = surplusLines content) ∧
      ∀ (ports : Ports) (config : Config) (workerId : WorkerId) (now : Nat) (db : Database)
        (row : JobRow) (file : ImportFileLocation) (schedule : List Action) (final : State)
        (importRow : ImportRow),
        ports.readLines file.storagePath = readLines content →
        ports.countLines file.storagePath = countLines chunks →
        RunsThrough ports config workerId now db row file schedule final →
        final.db.findImport row.importId = some importRow →
          (importRow.processedCount = importRow.totalRecords ↔
            skippedLines content = surplusLines content) := by
  refine ⟨countLines_eq_recordCount_iff runtime bytes, ?_⟩
  intro ports config workerId now db row file schedule final importRow reads counts runs found
  obtain ⟨processed, total⟩ := runs.progress found
  rw [← countLines_eq_recordCount_iff ports.runtime bytes, processed, total, reads, counts]
  exact eq_comm

/-- A line of one no-break space. -/
def noBreakSpaceLine : List Char := [Char.ofNat 0xa0, '\n']

/-- The first pass counts a line that the parser skips. -/
theorem noBreakSpace_counted :
    ∃ content : List Char, ∃ chunks : List (List UInt8),
      chunks.flatten = content.flatMap String.utf8EncodeChar ∧
        countLines chunks ≠ recordCount emptyFilePorts.runtime (readLines content) :=
  ⟨noBreakSpaceLine, [noBreakSpaceLine.flatMap String.utf8EncodeChar], rfl, by decide +kernel⟩

/-- A line that is counted and skipped, and one that a CR cuts in two: two lines are counted, and
two are rejected. -/
def mixedLines : List Char := [Char.ofNat 0xa0, '\n', 'x', '\r', 'x', '\n']

/-- Its bytes, with a cut inside of a character. -/
def mixedChunks : List (List UInt8) := [[0xc2], [0xa0, 0x0a, 0x78, 0x0d, 0x78, 0x0a]]

/-- The ports over a file with these lines. -/
def mixedPorts : Ports :=
  { emptyFilePorts with
    readLines := fun _ => readLines mixedLines
    countLines := fun _ => countLines mixedChunks }

theorem progress_agrees_iff_mixedLines :
    skippedLines mixedLines = 1 ∧ surplusLines mixedLines = 1 ∧
      (countLines mixedChunks = recordCount emptyFilePorts.runtime (readLines mixedLines) ↔
        skippedLines mixedLines = surplusLines mixedLines) ∧
      ∃ final importRow,
        RunsThrough mixedPorts defaultConfig 1 0 uploaded uploadedJob ⟨[], none⟩ (replies 1 11)
            final ∧
          final.db.findImport 1 = some importRow ∧ importRow.processedCount = 2 ∧
          (importRow.processedCount = importRow.totalRecords ↔
            skippedLines mixedLines = surplusLines mixedLines) := by
  have agrees := progress_agrees_iff emptyFilePorts.runtime mixedLines mixedChunks (by decide)
  refine ⟨by decide, by decide, agrees.1, ?_⟩
  have trace : (Transition.run (step mixedPorts defaultConfig)
      (atWork 0 uploaded 1 uploadedJob) (replies 1 11)).map
        (fun state => ((state.workers 1).phase,
          (state.db.findImport 1).map ImportRow.processedCount)) = some (.polling, some 2) := by
    decide +kernel
  obtain ⟨final, reaches, seen⟩ := Option.map_eq_some_iff.mp trace
  obtain ⟨polling, processed⟩ := Prod.mk.inj seen
  obtain ⟨importRow, found, isProcessed⟩ := Option.map_eq_some_iff.mp processed
  have fresh : (Statement.create 1 1 [] 0).Admissible Database.empty :=
    show System.isFresh 1 1 Database.empty = true by decide
  have runs : RunsThrough mixedPorts defaultConfig 1 0 uploaded uploadedJob ⟨[], none⟩
      (replies 1 11) final :=
    { wellFormed := Statement.wellFormed_commit Database.wellFormed_empty fresh
      found := rfl
      located := rfl
      unprocessed := by
        rintro _ ⟨⟩
        rfl
      quiet := fun action member => by
        rw [List.eq_of_mem_replicate member]
        exact ⟨rfl, rfl⟩
      reaches := reaches
      returned := polling
      uncancelled := by decide +kernel }
  exact ⟨final, importRow, runs, found, isProcessed,
    agrees.2 mixedPorts defaultConfig 1 0 _ uploadedJob ⟨[], none⟩ (replies 1 11) final importRow
      rfl rfl runs found⟩

end System

end ImportService
