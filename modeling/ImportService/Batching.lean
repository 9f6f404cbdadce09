/-
This file proves that batching cannot be seen in what an import leaves behind. The
reference, `Ledger.importLines`, handles the lines of a file one at a time and knows
nothing of batches. `Ledger.addBatch` is what one `persistBatch` does, and a batch adds
to the ledger what its lines add one after the other (`addBatch_batchOf`): the insert
that skips conflicts can be split anywhere, and the accepted and the rejected lines go to
different tables.

A quiet run is one in which every call of the execution succeeds and no other worker
takes a step. Uploads, cancellations and the clock may come between any two calls. Such
a run returns after a bounded number of calls and leaves the ledger of the reference on
the lines before the one at which the cancellation was seen (`batching_invisible`).
-/

import ImportService.Counters
import ImportService.EffectivelyOnce

namespace ImportService

open KeyedTable JobRepository ProcessImportFile JobPollerService TransactionRepository

/-! ### The reference -/

/-- What an import can be told by: the transactions, the rejected records and its counters. -/
structure Ledger where
  transactions : List TransactionRow
  rejectedRecords : List RejectedRecordRow
  processedCount : Nat
  acceptedCount : Nat
  rejectedCount : Nat
  duplicateCount : Nat
  deriving DecidableEq

/-- What a ledger says of an import and its tables. -/
def Database.ledger (db : Database) (importId : ImportId) : Option Ledger :=
  (db.findImport importId).map fun row =>
    { transactions := db.transactions
      rejectedRecords := db.rejectedRecords
      processedCount := row.processedCount
      acceptedCount := row.acceptedCount
      rejectedCount := row.rejectedCount
      duplicateCount := row.duplicateCount }

namespace Ledger

section

variable (ports : Ports) (importId : ImportId)

/-- A line that is rejected leaves its record. -/
def reject (ledger : Ledger) (record : RejectedRecordInput) : Ledger :=
  { ledger with
    rejectedRecords := ledger.rejectedRecords ++ [rejectedRow importId record]
    processedCount := ledger.processedCount + 1
    rejectedCount := ledger.rejectedCount + 1 }

/-- A line that is accepted leaves its row, unless the key is taken. -/
def accept (ledger : Ledger) (transaction : ValidatedTransaction) : Ledger :=
  if (lookup TransactionRow.key ledger.transactions transaction.keyInTable).isSome then
    { ledger with
      processedCount := ledger.processedCount + 1
      duplicateCount := ledger.duplicateCount + 1 }
  else
    { ledger with
      transactions := ledger.transactions ++ [storedRow ports importId transaction]
      processedCount := ledger.processedCount + 1
      acceptedCount := ledger.acceptedCount + 1 }

/-- One line, as the parser and the validator have it. A blank line leaves nothing. -/
def importLine (fallbackProvider rawLine : JsString) (lineNumber : Nat) (ledger : Ledger) :
    Ledger :=
  match parseNdjsonLine ports.runtime rawLine lineNumber with
  | .blank => ledger
  | .rejected _ errorCode message rawValueTruncated =>
      ledger.reject importId
        { lineNumber, errorCode := .line errorCode, message,
          rawValueTruncated := rawValueTruncated.take RAW_VALUE_CAP }
  | .valid _ data =>
      match validateTransaction ports.runtime data fallbackProvider with
      | .error failure =>
          ledger.reject importId
            { lineNumber, errorCode := .validation failure.errorCode,
              message := JsString.ofString failure.message,
              rawValueTruncated := (Json.stringify ports.runtime data).take RAW_VALUE_CAP }
      | .ok transaction => ledger.accept ports importId transaction

/-- The lines that follow the line `lineNumber`, one at a time. -/
def importLines (fallbackProvider : JsString) : Nat → List JsString → Ledger → Ledger
  | _, [], ledger => ledger
  | lineNumber, rawLine :: rest, ledger =>
      importLines fallbackProvider (lineNumber + 1) rest
        (ledger.importLine ports importId fallbackProvider rawLine (lineNumber + 1))

/-- What a `persistBatch` of a batch does. -/
def addBatch (ledger : Ledger) (batch : Batch) : Ledger :=
  let rows := batch.pendingScoring.map (inputRow ports importId)
  let insertedCount := (landing TransactionRow.key ledger.transactions rows).length
  { transactions := insertMissing TransactionRow.key ledger.transactions rows
    rejectedRecords := ledger.rejectedRecords ++ batch.pendingRejected.map (rejectedRow importId)
    processedCount := ledger.processedCount + batch.pendingLineCount
    acceptedCount := ledger.acceptedCount + insertedCount
    rejectedCount := ledger.rejectedCount + batch.pendingRejected.length
    duplicateCount := ledger.duplicateCount + (batch.pendingScoring.length - insertedCount) }

end

section

variable {ports : Ports} {importId : ImportId}

theorem addBatch_empty (ledger : Ledger) :
    ledger.addBatch ports importId Batch.empty = ledger := by
  simp only [addBatch, Batch.empty, List.map_nil, insertMissing_nil, landing, List.length_nil,
    List.append_nil, Nat.add_zero, Nat.sub_zero]

/-- Two batches one after the other are one batch. -/
theorem addBatch_append (ledger : Ledger) (first second : Batch) :
    ledger.addBatch ports importId (first.append second) =
      (ledger.addBatch ports importId first).addBatch ports importId second := by
  have firstWithin := (landing_sublist TransactionRow.key ledger.transactions
    (first.pendingScoring.map (inputRow ports importId))).length_le
  have secondWithin := (landing_sublist TransactionRow.key
    (insertMissing TransactionRow.key ledger.transactions
      (first.pendingScoring.map (inputRow ports importId)))
    (second.pendingScoring.map (inputRow ports importId))).length_le
  rw [List.length_map] at firstWithin secondWithin
  simp only [addBatch, Batch.append, List.map_append, insertMissing_append, landing_append,
    List.length_append, List.append_assoc, Ledger.mk.injEq, true_and]
  omega

theorem addBatch_rejected (ledger : Ledger) (record : RejectedRecordInput) :
    ledger.addBatch ports importId (Batch.empty.add (.rejected record)) =
      ledger.reject importId record := by
  simp only [addBatch, reject, Batch.add, Batch.empty, List.map_nil, insertMissing_nil, landing,
    List.length_nil, Nat.add_zero, Nat.sub_zero, Nat.zero_add, List.nil_append]
  rfl

theorem addBatch_accepted (ledger : Ledger) (transaction : ValidatedTransaction) :
    ledger.addBatch ports importId (Batch.empty.add
        (.accepted ⟨transaction, computeFingerprint ports.runtime transaction⟩)) =
      ledger.accept ports importId transaction := by
  have sameRow : inputRow ports importId
      ⟨transaction, computeFingerprint ports.runtime transaction⟩ =
        storedRow ports importId transaction := rfl
  have sameKey : (storedRow ports importId transaction).key = transaction.keyInTable := rfl
  simp only [addBatch, accept, Batch.add, Batch.empty, List.nil_append, List.map_cons,
    List.map_nil, List.append_nil, insertMissing_cons, landing, sameRow, sameKey]
  split <;> simp only [insertMissing_nil, List.length_nil, List.length_cons, Nat.add_zero,
    Nat.zero_add, Nat.sub_zero, Nat.sub_self]

/-- The batch of a single line. -/
theorem addBatch_line (ledger : Ledger) (fallbackProvider rawLine : JsString)
    (lineNumber : Nat) :
    ledger.addBatch ports importId
        (Batch.empty.add (handleLine ports fallbackProvider rawLine lineNumber)) =
      ledger.importLine ports importId fallbackProvider rawLine lineNumber := by
  have names := parseNdjsonLine_names ports.runtime rawLine lineNumber
  rw [handleLine, importLine]
  cases parses : parseNdjsonLine ports.runtime rawLine lineNumber with
  | blank => exact addBatch_empty ledger
  | rejected number errorCode message rawValueTruncated =>
    rw [parses] at names
    cases names
    exact addBatch_rejected ledger _
  | valid number data =>
    rw [parses] at names
    cases names
    simp only
    cases validateTransaction ports.runtime data fallbackProvider with
    | error failure => exact addBatch_rejected ledger _
    | ok transaction => exact addBatch_accepted ledger transaction

/-- A batch adds to the ledger what its lines add one at a time. -/
theorem addBatch_batchOf (fallbackProvider : JsString) (lineNumber : Nat)
    (lines : List JsString) (ledger : Ledger) :
    ledger.addBatch ports importId (batchOf (handleLines ports fallbackProvider lineNumber lines)) =
      ledger.importLines ports importId fallbackProvider lineNumber lines := by
  induction lines generalizing lineNumber ledger with
  | nil => exact addBatch_empty ledger
  | cons rawLine rest inductionHypothesis =>
    rw [handleLines, batchOf_cons, addBatch_append, addBatch_line, inductionHypothesis,
      importLines]

end

end Ledger

/-! ### The ledger of the tables -/

section

variable {db : Database} {now : Nat} {importId : ImportId}

theorem ledger_of_counters {first second : Database} {firstRow secondRow : ImportRow}
    (foundFirst : first.findImport importId = some firstRow)
    (foundSecond : second.findImport importId = some secondRow)
    (sameTransactions : first.transactions = second.transactions)
    (sameRejected : first.rejectedRecords = second.rejectedRecords)
    (sameCounters : Statement.counters firstRow = Statement.counters secondRow) :
    first.ledger importId = second.ledger importId := by
  simp only [Statement.counters, Prod.mk.injEq] at sameCounters
  obtain ⟨processed, accepted, rejected, duplicate⟩ := sameCounters
  rw [Database.ledger, Database.ledger, foundFirst, foundSecond, Option.map_some, Option.map_some,
    sameTransactions, sameRejected, processed, accepted, rejected, duplicate]

/-- Only a batch changes the ledger of an import. -/
theorem ledger_commit {statement : Statement} (known : (db.findImport importId).isSome = true)
    (notBatch : ∀ input, statement ≠ .persistBatch input) :
    (statement.commit now db).ledger importId = db.ledger importId := by
  obtain ⟨row, found⟩ := Option.isSome_iff_exists.mp known
  refine ledger_of_counters (Statement.commit_findImport now statement found) found ?_ ?_
    (Statement.onImport_counters now db row fun input stores => absurd stores (notBatch input))
  · rw [Statement.commit_transactions]
    cases statement with
    | persistBatch input => exact absurd rfl (notBatch input)
    | _ => exact List.append_nil _
  · rw [Statement.commit_rejectedRecords]
    cases statement with
    | persistBatch input => exact absurd rfl (notBatch input)
    | _ => exact List.append_nil _

/-- The batch of an execution is added to the ledger of its import. -/
theorem ledger_persistBatch (ports : Ports) (job : ClaimedJob) (batch : Batch)
    (known : (db.findImport job.importId).isSome = true) :
    ((Statement.persistBatch (scoredInput ports job batch)).commit now db).ledger job.importId =
      (db.ledger job.importId).map fun ledger => ledger.addBatch ports job.importId batch := by
  obtain ⟨row, found⟩ := Option.isSome_iff_exists.mp known
  have selected : (row.id == (scoredInput ports job batch).importId) = true :=
    beq_iff_eq.mpr (lookup_key ImportRow.id found)
  have rowAfter : (Statement.persistBatch (scoredInput ports job batch)).onImport now db row =
      { countBatch batch.pendingLineCount (persistBatchResult (scoredInput ports job batch) db) row
        with updatedAt := now } := if_pos selected
  rw [Database.ledger, Statement.commit_findImport now _ found, Database.ledger, found, rowAfter]
  simp only [Option.map_some, Ledger.addBatch, countBatch, persistBatchResult, inserted,
    length_scoredInput, Statement.commit, persistBatch, Database.updateImports,
    values_scoredInput]
  rfl

end

/-! ### The calls of a quiet run -/

namespace ProcessImportFile

/-- The calls of an execution none of whose calls has failed and whose file was found. -/
def Point.isQuiet : Point → Bool
  | .updateBoth _ _ .fileMissing | .updateBoth _ _ .caught => false
  | .updateBoth _ _ (.fileFound _) | .updateBoth _ _ .loopEnded => true
  | .findByImportId | .countLines _ | .readLine _ | .renewLease _ _ | .getStatus _ _
  | .scoreBatch _ _ _ | .persistBatch _ _ _ => true

/-- A bound on the calls an execution makes from a point on. A line takes at most five: it is read,
the lease renewed, the status checked, and a batch scored and persisted. -/
def Point.callsLeft (ports : Ports) (file : ImportFileLocation) : Point → Nat
  | .findByImportId => 5 * (ports.readLines file.storagePath).length + 9
  | .countLines found => 5 * (ports.readLines found.storagePath).length + 8
  | .updateBoth _ .job (.fileFound found) => 5 * (ports.readLines found.storagePath).length + 7
  | .updateBoth _ .importRow (.fileFound found) =>
      5 * (ports.readLines found.storagePath).length + 6
  | .updateBoth _ .job _ => 2
  | .updateBoth _ .importRow _ => 1
  | .readLine locals => 5 * locals.rest.length + 5
  | .renewLease locals _ => 5 * locals.rest.length + 9
  | .getStatus locals _ => 5 * locals.rest.length + 8
  | .scoreBatch locals _ last => if last then 4 else 5 * locals.rest.length + 7
  | .persistBatch locals _ last => if last then 3 else 5 * locals.rest.length + 6

/-- The outcome is another quiet call, from which on at most `bound` calls are made. -/
def Outcome.GoesOn (ports : Ports) (file : ImportFileLocation) (bound : Nat) (outcome : Outcome) :
    Prop :=
  ∃ next, outcome = .awaiting next ∧ next.isQuiet = true ∧ next.callsLeft ports file ≤ bound

section

variable {ports : Ports} {job : ClaimedJob} {file : ImportFileLocation}

theorem Point.callsLeft_pos (point : Point) : 0 < point.callsLeft ports file := by
  cases point with
  | updateBoth mark stage caller => cases stage <;> cases caller <;> exact Nat.succ_pos _
  | scoreBatch locals batch last | persistBatch locals batch last =>
    cases last <;> exact Nat.succ_pos _
  | findByImportId | countLines | readLine | renewLease | getStatus => exact Nat.succ_pos _

theorem afterFlush_goesOn (now : Nat) (locals : Locals) (last : Bool) :
    (afterFlush now locals last).GoesOn ports file
      (if last then 2 else 5 * locals.rest.length + 5) := by
  unfold afterFlush
  cases last with
  | false => exact ⟨_, rfl, rfl, Nat.le_refl _⟩
  | true => cases locals.wasCancelled <;> exact ⟨_, rfl, rfl, Nat.le_refl _⟩

theorem Outcome.GoesOn.mono {outcome : Outcome} {first second : Nat}
    (goesOn : outcome.GoesOn ports file first) (within : first ≤ second) :
    outcome.GoesOn ports file second := by
  obtain ⟨next, awaits, isQuiet, calls⟩ := goesOn
  exact ⟨next, awaits, isQuiet, Nat.le_trans calls within⟩

theorem flush_goesOn (now : Nat) (locals : Locals) (last : Bool) {bound : Nat}
    (within : (if last then 4 else 5 * locals.rest.length + 7) ≤ bound) :
    (flush job now locals last).GoesOn ports file bound := by
  have afterPersist : (if last then 3 else 5 * locals.rest.length + 6) ≤ bound := by
    refine Nat.le_trans ?_ within
    cases last <;> simp
  have afterAll : (if last then 2 else 5 * locals.rest.length + 5) ≤ bound := by
    refine Nat.le_trans ?_ afterPersist
    cases last <;> simp
  unfold flush
  split
  · exact (afterFlush_goesOn now locals last).mono afterAll
  · simp only
    split
    · exact ⟨_, rfl, rfl, afterPersist⟩
    · exact ⟨_, rfl, rfl, within⟩

theorem accumulate_goesOn (batchSize now : Nat) (locals : Locals) (rawLine : JsString) :
    (accumulate ports batchSize job now locals rawLine).GoesOn ports file
      (5 * locals.rest.length + 7) := by
  unfold accumulate
  split
  · exact ⟨_, rfl, rfl, Nat.add_le_add_left (by decide) _⟩
  · simp only
    split
    · exact flush_goesOn now _ false (Nat.le_refl _)
    · exact ⟨_, rfl, rfl, Nat.add_le_add_left (by decide) _⟩

theorem checkCancellation_goesOn (batchSize now : Nat) (locals : Locals) (rawLine : JsString) :
    (checkCancellation ports batchSize job now locals rawLine).GoesOn ports file
      (5 * locals.rest.length + 8) := by
  unfold checkCancellation
  split
  · exact ⟨_, rfl, rfl, Nat.le_refl _⟩
  · exact (accumulate_goesOn batchSize now locals rawLine).mono (Nat.le_succ _)

theorem heartbeat_goesOn (batchSize now : Nat) (locals : Locals) (rawLine : JsString) :
    (heartbeat ports batchSize job now locals rawLine).GoesOn ports file
      (5 * locals.rest.length + 9) := by
  unfold heartbeat
  split
  · exact ⟨_, rfl, rfl, Nat.le_refl _⟩
  · exact (checkCancellation_goesOn batchSize now locals rawLine).mono (Nat.le_succ _)

/-- A call that succeeds and is not the last one brings the end of the execution nearer. -/
theorem succeeded_goesOn (batchSize now : Nat) {db : Database} {point : Point}
    (located : point = .findByImportId →
      ImportFileRepository.findByImportId job.importId db = some file)
    (isQuiet : point.isQuiet = true) (notLast : point.isLast = false) :
    (succeeded ports batchSize db now job point).GoesOn ports file
      (point.callsLeft ports file - 1) := by
  cases point with
  | findByImportId =>
    rw [succeeded, located rfl]
    exact ⟨_, rfl, rfl, Nat.le_refl _⟩
  | countLines found => exact ⟨_, rfl, rfl, Nat.le_refl _⟩
  | updateBoth mark stage caller =>
    cases caller with
    | fileMissing | caught => cases isQuiet
    | fileFound found => cases stage <;> exact ⟨_, rfl, rfl, Nat.le_refl _⟩
    | loopEnded =>
      cases stage with
      | job => exact ⟨_, rfl, rfl, Nat.le_refl _⟩
      | importRow => cases notLast
  | readLine locals =>
    simp only [succeeded]
    split
    · exact flush_goesOn now locals true (Nat.le_add_left 4 _)
    · rename_i rawLine rest line
      refine (heartbeat_goesOn batchSize now _ rawLine).mono ?_
      rw [Point.callsLeft, line, List.length_cons]
      exact Nat.le_refl _
  | renewLease locals rawLine => exact checkCancellation_goesOn batchSize now _ rawLine
  | getStatus locals rawLine =>
    rw [succeeded]
    split
    · exact flush_goesOn now _ true (Nat.le_add_left 4 _)
    · exact accumulate_goesOn batchSize now locals rawLine
  | scoreBatch locals batch last => cases last <;> exact ⟨_, rfl, rfl, Nat.le_refl _⟩
  | persistBatch locals input last =>
    cases last with
    | false => exact afterFlush_goesOn now locals false
    | true => exact afterFlush_goesOn now locals true

end

end ProcessImportFile

/-! ### Quiet runs -/

namespace System

/-- What a run shows of one call of the execution: the line a check was made at and whether it saw
the cancellation, or the status that was marked. -/
inductive Note
  | called
  | checked (lineNumber : Nat) (cancelling : Bool)
  | marked (status : ImportStatus)
  deriving DecidableEq

/-- What is seen when a call of the execution ends. -/
def noteOf (db : Database) (job : ClaimedJob) : Point → Note
  | .getStatus locals _ =>
      .checked locals.lineNumber (getStatus job.id db == some .CANCELLING)
  | .updateBoth mark .importRow _ => .marked mark.status
  | _ => .called

/-- What is seen of a step. -/
def noted (workerId : WorkerId) (state : State) : Action → List Note
  | .work _ (.reply _) =>
      match (state.workers workerId).phase with
      | .executing job point => [noteOf state.db job point]
      | _ => []
  | _ => []

/-- The notes of the calls of a run, one for each. -/
def notes (ports : Ports) (config : Config) (workerId : WorkerId) : State → List Action →
    List Note
  | _, [] => []
  | state, action :: rest =>
      match step ports config state action with
      | none => []
      | some next => noted workerId state action ++ notes ports config workerId next rest

/-- The line of a check that saw the cancellation. -/
def Note.cancelledAt : Note → Option Nat
  | .checked lineNumber true => some lineNumber
  | .checked _ false | .called | .marked _ => none

/-- The line of the first check that saw the cancellation. -/
def cancellationPoint (notes : List Note) : Option Nat := notes.findSome? Note.cancelledAt

/-- The worker gets an answer to its call, or something happens that is no step of a worker. -/
def Quiet (workerId : WorkerId) : Action → Prop
  | .work mover event => mover = workerId ∧ event = .reply .ok
  | .advance _ | .create _ _ _ _ | .requestCancellation _ _ | .cancel _ _ => True

/-- The worker has just claimed a job, and no other party has started. -/
def atWork (now : Nat) (db : Database) (workerId : WorkerId) (row : JobRow) : State :=
  { initial now db with
    workers := Function.update (fun _ => Worker.new) workerId
      { phase := .executing (claimed workerId row) .findByImportId
        currentJob := some (claimed workerId row)
        lastReclaimAt := now } }

/-- A bound on the calls of an execution. -/
def callBound (ports : Ports) (file : ImportFileLocation) : Nat :=
  5 * (ports.readLines file.storagePath).length + 9

/-- The execution waits for a call, and what it has sent is in the ledger. -/
structure Working (ports : Ports) (workerId : WorkerId) (job : ClaimedJob)
    (file : ImportFileLocation) (start : Ledger) (notes : List Note) (state : State)
    (point : Point) : Prop where
  phase : (state.workers workerId).phase = .executing job point
  isQuiet : point.isQuiet = true
  bounded : notes.length + point.callsLeft ports file ≤ callBound ports file
  sent : ∃ sent, Tracks ports job file sent (cancellationPoint notes) point ∧
    state.db.ledger job.importId = some (start.addBatch ports job.importId sent)

/-- The execution has returned, and the lines before the cancellation are in the ledger. -/
structure Returned (ports : Ports) (workerId : WorkerId) (job : ClaimedJob)
    (file : ImportFileLocation) (start : Ledger) (notes : List Note) (state : State) :
    Prop where
  phase : (state.workers workerId).phase = .polling
  ledger : state.db.ledger job.importId =
    some (start.importLines ports job.importId (file.provider.getD []) 0
      (linesBefore (cancellationPoint notes) (ports.readLines file.storagePath)))
  mark : notes.getLast? = some (.marked (endStatus (cancellationPoint notes)))

/-- The invariant of a quiet run. -/
structure Follows (ports : Ports) (workerId : WorkerId) (job : ClaimedJob)
    (file : ImportFileLocation) (start : Ledger) (notes : List Note) (state : State) :
    Prop where
  coherent : Coherent ports state
  located : ImportFileRepository.findByImportId job.importId state.db = some file
  checks : ∀ lineNumber cancelling, Note.checked lineNumber cancelling ∈ notes →
    lineNumber % CANCELLATION_CHECK_INTERVAL = 0
  place : (∃ point, Working ports workerId job file start notes state point) ∨
    Returned ports workerId job file start notes state

section

variable {ports : Ports} {config : Config} {state next : State} {action : Action}
  {workerId : WorkerId} {job : ClaimedJob} {file : ImportFileLocation} {start : Ledger}
  {earlier : List Note}

theorem cancellationPoint_snoc (notes : List Note) (note : Note) :
    cancellationPoint (notes ++ [note]) = (cancellationPoint notes).or note.cancelledAt := by
  have alone : [note].findSome? Note.cancelledAt = note.cancelledAt := by
    cases at_ : note.cancelledAt <;> simp only [List.findSome?, at_]
  rw [cancellationPoint, List.findSome?_append, alone]
  rfl

/-- A step that persists no batch leaves the ledger as it is. -/
theorem ledger_step (enabled : step ports config state action = some next) {importId : ImportId}
    (known : (state.db.findImport importId).isSome = true)
    (notBatch : ∀ input, emitted ports config state action ≠ some (.persistBatch input)) :
    next.db.ledger importId = state.db.ledger importId := by
  rw [step_db enabled]
  cases emits : emitted ports config state action with
  | none => rfl
  | some statement =>
    exact ledger_commit known fun input same => notBatch input (emits.trans (congrArg some same))

/-- A step of no worker leaves the execution where it is. -/
theorem follows_of_other (follows : Follows ports workerId job file start earlier state)
    (enabled : step ports config state action = some next)
    (other : ∀ mover event, action ≠ .work mover event) :
    Follows ports workerId job file start earlier next := by
  have known := findImport_of_findByImportId follows.located
  have notBatch : ∀ input, emitted ports config state action ≠ some (.persistBatch input) := by
    intro input emits
    cases emitted_origin emits with
    | execute => exact other _ _ rfl
  have sameLedger := ledger_step enabled known notBatch
  have sameWorker : next.workers workerId = state.workers workerId := by
    rcases step_worker enabled workerId with same | ⟨event, acts, _⟩
    · exact same
    · exact absurd acts (other workerId event)
  exact
    { coherent := coherent_step follows.coherent enabled
      located := located_step follows.coherent follows.located enabled
      checks := follows.checks
      place := by
        rcases follows.place with ⟨point, phase, isQuiet, bounded, sent⟩ | returned
        · rw [← sameWorker] at phase
          rw [← sameLedger] at sent
          exact Or.inl ⟨point, phase, isQuiet, bounded, sent⟩
        · obtain ⟨phase, ledger, mark⟩ := returned
          rw [← sameWorker] at phase
          rw [← sameLedger] at ledger
          exact Or.inr ⟨phase, ledger, mark⟩ }

/-- What a step of the worker does that answers its call. -/
theorem step_reply {point : Point}
    (executing : (state.workers workerId).phase = .executing job point)
    (enabled : step ports config state (.work workerId (.reply .ok)) = some next) :
    emitted ports config state (.work workerId (.reply .ok)) = point.statement job ∧
      next.workers workerId = afterExecute job (state.workers workerId)
        (succeeded ports (config.batchSize workerId) state.db state.now job point) := by
  rcases step_from_executing executing (step_mover enabled) with
    ⟨impossible, _⟩ | ⟨reply, outcome, sameEvent, resumed, emits, after⟩
  · cases impossible
  · cases sameEvent
    cases resumed
    exact ⟨emits, after⟩

theorem reply_enabled {point : Point}
    (executing : (state.workers workerId).phase = .executing job point) :
    ∃ next, step ports config state (.work workerId (.reply .ok)) = some next := by
  simp only [step, act, JobPollerService.step, executing, resume, Option.map_some]
  exact ⟨_, rfl⟩

/-- The note of a call other than a check that sees the cancellation does not move the
cancellation point. -/
theorem cancelledAt_noteOf {db : Database} {point : Point}
    (notCancelling : ∀ locals rawLine, point = .getStatus locals rawLine →
      getStatus job.id db ≠ some .CANCELLING) : (noteOf db job point).cancelledAt = none := by
  cases point with
  | updateBoth mark stage caller => cases stage <;> rfl
  | getStatus locals rawLine =>
    rw [noteOf, beq_eq_false_iff_ne.mpr (notCancelling locals rawLine rfl)]
    rfl
  | _ => rfl

/-- What the execution has sent after an answer, and where it was cancelled. -/
theorem sent_of_reply {point : Point} {sent : Batch}
    (follows : Follows ports workerId job file start earlier state)
    (tracks : Tracks ports job file sent (cancellationPoint earlier) point)
    (ledger : state.db.ledger job.importId = some (start.addBatch ports job.importId sent))
    (notLast : point.isLast = false)
    (enabled : step ports config state action = some next)
    (emits : emitted ports config state action = point.statement job) :
    ∃ sentAfter,
      (succeeded ports (config.batchSize workerId) state.db state.now job point).Awaits
        (Tracks ports job file sentAfter
          (cancellationPoint (earlier ++ [noteOf state.db job point]))) ∧
      next.db.ledger job.importId = some (start.addBatch ports job.importId sentAfter) := by
  have known := findImport_of_findByImportId follows.located
  rw [cancellationPoint_snoc]
  by_cases persists : ∃ locals input last, point = .persistBatch locals input last
  · obtain ⟨locals, input, last, rfl⟩ := persists
    obtain ⟨batch, rfl, after⟩ :=
      persistBatch_tracks (config.batchSize workerId) state.db state.now tracks
    have noteIs : (noteOf state.db job (.persistBatch locals (scoredInput ports job batch)
        last)).cancelledAt = none := rfl
    rw [noteIs, Option.or_none]
    refine ⟨sent.append batch, after, ?_⟩
    have commits : emitted ports config state action =
        some (.persistBatch (scoredInput ports job batch)) := emits
    rw [step_db enabled, commits, committed, ledger_persistBatch ports job batch known, ledger,
      Option.map_some, Ledger.addBatch_append]
  · have notBatch : ∀ input, emitted ports config state action ≠ some (.persistBatch input) := by
      intro input stores
      rw [emits] at stores
      cases calls_of_statement stores with
      | persistBatch => exact persists ⟨_, _, _, rfl⟩
    refine ⟨sent, ?_, (ledger_step enabled known notBatch).trans ledger⟩
    by_cases cancelled : ∃ locals rawLine, point = .getStatus locals rawLine ∧
        getStatus job.id state.db = some .CANCELLING
    · obtain ⟨locals, rawLine, rfl, cancelling⟩ := cancelled
      obtain ⟨_, _, _, _, _, _, _, notBefore⟩ := id tracks
      have noteIs : (noteOf state.db job (.getStatus locals rawLine)).cancelledAt =
          some locals.lineNumber := by
        rw [noteOf, cancelling]
        rfl
      rw [notBefore, noteIs, Option.none_or]
      exact getStatus_tracks (config.batchSize workerId) state.now tracks cancelling
    · have notCancelling : ∀ locals rawLine, point = .getStatus locals rawLine →
          getStatus job.id state.db ≠ some .CANCELLING :=
        fun locals rawLine same sees => cancelled ⟨locals, rawLine, same, sees⟩
      rw [cancelledAt_noteOf notCancelling, Option.or_none]
      refine succeeded_tracks (config.batchSize workerId) state.db state.now tracks ?_
        (fun locals input last same => persists ⟨locals, input, last, same⟩) notCancelling notLast
      intro _ found finds
      rw [follows.located] at finds
      exact (Option.some.inj finds).symm

/-- The last answer ends the execution with the mark that goes with its lines. -/
theorem returned_of_last {point : Point}
    (working : Working ports workerId job file start earlier state point)
    (isLast : point.isLast = true)
    (known : (state.db.findImport job.importId).isSome = true)
    (enabled : step ports config state (.work workerId (.reply .ok)) = some next) :
    Returned ports workerId job file start (earlier ++ [noteOf state.db job point]) next := by
  obtain ⟨emits, after⟩ := step_reply working.phase enabled
  obtain ⟨sent, tracks, ledger⟩ := working.sent
  obtain ⟨mark, caller, rfl, _⟩ := terminal_of_isLast tracks isLast
  cases caller with
  | fileFound found => cases isLast
  | fileMissing | caught => cases working.isQuiet
  | loopEnded =>
    obtain ⟨ended, allSent⟩ := tracks
    have noteIs : noteOf state.db job (.updateBoth mark .importRow .loopEnded) =
        .marked mark.status := rfl
    have samePoint : cancellationPoint (earlier ++ [.marked mark.status]) =
        cancellationPoint earlier := by
      rw [cancellationPoint_snoc]
      exact Option.or_none
    have notBatch : ∀ input, emitted ports config state (.work workerId (.reply .ok)) ≠
        some (.persistBatch input) := by
      intro input stores
      rw [emits] at stores
      cases stores
    rw [noteIs]
    refine ⟨?_, ?_, ?_⟩
    · rw [after]
      rfl
    · rw [samePoint, ledger_step enabled known notBatch, ledger, allSent, fileBatch,
        Ledger.addBatch_batchOf]
    · rw [samePoint, List.getLast?_concat, ended]

/-- A check is made at a line whose number is divisible by the interval. -/
theorem checks_of_reply {point : Point} {sent : Batch} {stop : Option Nat}
    (checks : ∀ lineNumber cancelling, Note.checked lineNumber cancelling ∈ earlier →
      lineNumber % CANCELLATION_CHECK_INTERVAL = 0)
    (tracks : Tracks ports job file sent stop point) (db : Database) (lineNumber : Nat)
    (cancelling : Bool)
    (member : Note.checked lineNumber cancelling ∈ earlier ++ [noteOf db job point]) :
    lineNumber % CANCELLATION_CHECK_INTERVAL = 0 := by
  rcases List.mem_append.mp member with before | here
  · exact checks lineNumber cancelling before
  · have noteIs := List.mem_singleton.mp here
    cases point with
    | getStatus locals rawLine =>
      obtain ⟨rfl, _⟩ := Note.checked.inj noteIs
      exact tracks.1
    | updateBoth mark stage caller => cases stage <;> cases noteIs
    | _ => cases noteIs

/-- An answer takes the execution to its next call, or ends it. -/
theorem follows_of_reply (follows : Follows ports workerId job file start earlier state)
    {point : Point} (working : Working ports workerId job file start earlier state point)
    (enabled : step ports config state (.work workerId (.reply .ok)) = some next) :
    Follows ports workerId job file start (earlier ++ [noteOf state.db job point]) next := by
  obtain ⟨sent, tracks, ledger⟩ := working.sent
  obtain ⟨emits, after⟩ := step_reply working.phase enabled
  refine
    { coherent := coherent_step follows.coherent enabled
      located := located_step follows.coherent follows.located enabled
      checks := checks_of_reply follows.checks tracks state.db
      place := ?_ }
  cases isLast : point.isLast with
  | true =>
    exact Or.inr (returned_of_last working isLast
      (findImport_of_findByImportId follows.located) enabled)
  | false =>
    obtain ⟨nextPoint, awaits, isQuiet, calls⟩ :=
      succeeded_goesOn (config.batchSize workerId) state.now (fun _ => follows.located)
        working.isQuiet isLast
    obtain ⟨sentAfter, tracksAfter, ledgerAfter⟩ :=
      sent_of_reply follows tracks ledger isLast enabled emits
    rw [awaits] at tracksAfter after
    have positive : 0 < point.callsLeft ports file := point.callsLeft_pos
    have bounded := working.bounded
    refine Or.inl ⟨nextPoint, ?_, isQuiet, ?_, sentAfter, tracksAfter, ledgerAfter⟩
    · rw [after]
      rfl
    · rw [List.length_append, List.length_singleton]
      omega

/-- A quiet schedule keeps the invariant, with a note for every call that is answered. -/
theorem follows_run {schedule : List Action} {final : State}
    (quiet : ∀ action ∈ schedule, Quiet workerId action)
    (follows : Follows ports workerId job file start earlier state)
    (reaches : Transition.run (step ports config) state schedule = some final) :
    Follows ports workerId job file start
      (earlier ++ notes ports config workerId state schedule) final := by
  induction schedule generalizing state earlier with
  | nil =>
    cases reaches
    rw [notes, List.append_nil]
    exact follows
  | cons action rest inductionHypothesis =>
    rw [Transition.run] at reaches
    obtain ⟨next, enabled, later⟩ := Option.bind_eq_some_iff.mp reaches
    have quietLater : ∀ action ∈ rest, Quiet workerId action :=
      fun action member => quiet action (List.mem_cons_of_mem _ member)
    have quietNow := quiet action List.mem_cons_self
    have notesAre : notes ports config workerId state (action :: rest) =
        noted workerId state action ++ notes ports config workerId next rest := by
      rw [notes, enabled]
    rw [notesAre, ← List.append_assoc]
    refine inductionHypothesis quietLater ?_ later
    cases action with
    | work mover event =>
      obtain ⟨rfl, rfl⟩ := quietNow
      rcases follows.place with ⟨point, working⟩ | returned
      · rw [noted, working.phase]
        exact follows_of_reply follows working enabled
      · have moved := step_mover enabled
        rw [JobPollerService.step, returned.phase] at moved
        cases moved
    | advance | create | requestCancellation | cancel =>
      rw [noted, List.append_nil]
      · exact follows_of_other follows enabled fun _ _ => Action.noConfusion
      · exact fun _ _ => Action.noConfusion

theorem coherent_atWork (ports : Ports) (now : Nat) {db : Database} (wellFormed : db.WellFormed)
    (workerId : WorkerId) {row : JobRow} (found : db.findJob row.id = some row) :
    Coherent ports (atWork now db workerId row) where
  wellFormed := wellFormed
  workers := by
    intro other
    by_cases same : other = workerId
    · subst same
      simp only [atWork, Function.update_self]
      exact ⟨⟨row, found, rfl⟩, rfl, ⟨[], none⟩, Batch.empty, none, rfl, rfl⟩
    · simp only [atWork, Function.update_of_ne same]
      trivial
  requests := fun _ => trivial

/-- An execution that has just started follows the reference. -/
theorem follows_atWork (ports : Ports) (now : Nat) {db : Database} (wellFormed : db.WellFormed)
    (workerId : WorkerId) {row : JobRow} (found : db.findJob row.id = some row)
    (located : ImportFileRepository.findByImportId row.importId db = some file)
    {ledger : Ledger} (ledgerIs : db.ledger row.importId = some ledger) :
    Follows ports workerId (claimed workerId row) file ledger [] (atWork now db workerId row) := by
  have working : Working ports workerId (claimed workerId row) file ledger []
      (atWork now db workerId row) .findByImportId :=
    { phase := by simp only [atWork, Function.update_self]
      isQuiet := rfl
      bounded := Nat.le_of_eq (Nat.zero_add _)
      sent := ⟨Batch.empty, ⟨rfl, rfl⟩, by rw [Ledger.addBatch_empty]; exact ledgerIs⟩ }
  exact
    { coherent := coherent_atWork ports now wellFormed workerId found
      located := located
      checks := fun _ _ member => nomatch member
      place := Or.inl ⟨_, working⟩ }

/-- A quiet run of an execution from any tables, with any batch size: the execution waits for a
call that is answered when its turn comes, and fewer calls than the bound have been made, or it
has returned and left the ledger of the lines before the cancellation point, one line at a time,
with the mark that goes with them. The checks are made at multiples of the interval. -/
theorem batching_invisible (now : Nat) {db : Database} (wellFormed : db.WellFormed)
    {row : JobRow} (found : db.findJob row.id = some row)
    (located : ImportFileRepository.findByImportId row.importId db = some file)
    {schedule : List Action} (quiet : ∀ action ∈ schedule, Quiet workerId action) {final : State}
    (reaches : Transition.run (step ports config) (atWork now db workerId row) schedule =
      some final) :
    (∀ lineNumber cancelling, Note.checked lineNumber cancelling ∈
        notes ports config workerId (atWork now db workerId row) schedule →
      lineNumber % CANCELLATION_CHECK_INTERVAL = 0) ∧
    ((∃ point next, (final.workers workerId).phase = .executing (claimed workerId row) point ∧
        step ports config final (.work workerId (.reply .ok)) = some next ∧
        (notes ports config workerId (atWork now db workerId row) schedule).length <
          callBound ports file) ∨
      ∃ ledger, db.ledger row.importId = some ledger ∧
        Returned ports workerId (claimed workerId row) file ledger
          (notes ports config workerId (atWork now db workerId row) schedule) final) := by
  obtain ⟨importRow, foundImport⟩ :=
    Option.isSome_iff_exists.mp (findImport_of_findByImportId located)
  obtain ⟨ledger, ledgerIs⟩ : ∃ ledger, db.ledger row.importId = some ledger := by
    rw [Database.ledger, foundImport]
    exact ⟨_, rfl⟩
  have follows := follows_atWork ports now wellFormed workerId found located ledgerIs
  obtain ⟨_, _, checks, place⟩ := follows_run quiet follows reaches
  rw [List.nil_append] at checks place
  refine ⟨checks, ?_⟩
  rcases place with ⟨point, workingLast⟩ | returned
  · obtain ⟨next, enabled⟩ := reply_enabled workingLast.phase
    have positive : 0 < point.callsLeft ports file := point.callsLeft_pos
    have bounded := workingLast.bounded
    exact Or.inl ⟨point, next, workingLast.phase, enabled, by omega⟩
  · exact Or.inr ⟨ledger, ledgerIs, returned⟩

/-- Runs with different batch sizes, clocks and interruptions leave the same ledger if they see
the cancellation at the same line. -/
theorem Returned.ledger_eq {otherWorker : WorkerId} {final otherFinal : State}
    {observed otherObserved : List Note}
    (returned : Returned ports workerId job file start observed final)
    (other : Returned ports otherWorker job file start otherObserved otherFinal)
    (samePoint : cancellationPoint observed = cancellationPoint otherObserved) :
    final.db.ledger job.importId = otherFinal.db.ledger job.importId := by
  rw [returned.ledger, other.ledger, samePoint]

end

/-- The job of an upload, as it was created. -/
def uploadedJob : JobRow := ImportRepository.newJob 1 1 0

/-- Every file has a record, a line that is none, the record again, blank lines up to line 500,
and another record. -/
def longPorts : Ports :=
  { emptyFilePorts with
    readLines := fun _ =>
      [recordLine "t", JsString.ofString "x", recordLine "t"] ++ List.replicate 497 [] ++
        [recordLine "u"] }

/-- The import is cancelled after the first batch. -/
def cancelledBetween : List Action :=
  replies 1 10 ++ [.requestCancellation 0 1, .cancel 0 .acknowledged] ++ replies 1 501

/-- Worker 1 sees the cancellation at line 500 and leaves what the lines before it come to: one
record, one rejection and one duplicate. -/
theorem batching_invisible_cancelledBetween :
    ∃ final ledger,
      Transition.run (step longPorts smallBatches) (atWork 0 uploaded 1 uploadedJob)
        cancelledBetween = some final ∧
      (final.db.ledger 1).map (fun ledger => (ledger.transactions.length,
        ledger.rejectedRecords.length, ledger.processedCount, ledger.duplicateCount)) =
          some (1, 1, 3, 1) ∧
      cancellationPoint (notes longPorts smallBatches 1 (atWork 0 uploaded 1 uploadedJob)
        cancelledBetween) = some 500 ∧
      Returned longPorts 1 (claimed 1 uploadedJob) ⟨[], none⟩ ledger
        (notes longPorts smallBatches 1 (atWork 0 uploaded 1 uploadedJob) cancelledBetween)
        final := by
  have trace : (Transition.run (step longPorts smallBatches) (atWork 0 uploaded 1 uploadedJob)
      cancelledBetween).map (fun state => ((state.workers 1).phase,
        (state.db.ledger 1).map fun ledger => (ledger.transactions.length,
          ledger.rejectedRecords.length, ledger.processedCount, ledger.duplicateCount))) =
      some (.polling, some (1, 1, 3, 1)) := by
    decide +kernel
  obtain ⟨final, reaches, seen⟩ := Option.map_eq_some_iff.mp trace
  obtain ⟨polling, counts⟩ := Prod.mk.inj seen
  have quiet : ∀ action ∈ cancelledBetween, Quiet 1 action := by
    intro action member
    simp only [cancelledBetween, List.mem_append, List.mem_cons, List.not_mem_nil, or_false]
      at member
    rcases member with (early | rfl | rfl) | late
    · rw [List.eq_of_mem_replicate early]
      exact ⟨rfl, rfl⟩
    · trivial
    · trivial
    · rw [List.eq_of_mem_replicate late]
      exact ⟨rfl, rfl⟩
  rcases (batching_invisible 0 wellFormed_uploaded rfl rfl quiet reaches).2 with
    ⟨point, next, executing, _⟩ | ⟨ledger, _, returned⟩
  · cases polling.symm.trans executing
  · exact ⟨final, ledger, reaches, counts, by decide +kernel, returned⟩

end System

end ImportService
