/-
This file proves what all executions of an import add up to: however many workers run
over its file, from wherever they are cut off to the first line again, with whatever
batches and however often a batch is repeated, each accepted line ends up stored once.

The argument follows a batch into the tables. When it is committed, the lines before it
in the file are in `sent`, and these are stored already (`Stored`), so a row that lands
carries a key no earlier line had. The file of an import never changes, as uploads only
add files for new imports, so all executions cut the same sequence of lines.

All of this is about the keys and texts as the tables hold them, in UTF-8. A record may have
an unpaired surrogate in a text, by an escape such as `\ud800`, and is stored with U+FFFD in
its place: its row is not under its own key, and two records can share it. So what the
executions promise for the lines themselves takes a file without such texts
(`effectively_once`), and `surrogates_merge` is a run over one that has two.
-/

import ImportService.Integrity

namespace ImportService

open KeyedTable JobRepository ProcessImportFile JobPollerService TransactionRepository

/-! ### The lines of a file -/

section

variable (ports : Ports) (file : ImportFileLocation) (index : Nat)

/-- The line at an index of the file, which is line `index + 1`, parses and validates. -/
def Accepts (transaction : ValidatedTransaction) : Prop :=
  ∃ rawLine data, (ports.readLines file.storagePath)[index]? = some rawLine ∧
    parseNdjsonLine ports.runtime rawLine (index + 1) = .valid (index + 1) data ∧
    validateTransaction ports.runtime data (file.provider.getD []) = .ok transaction

/-- The line at an index of the file does not parse, or what it says does not validate. The record
is what is kept of it. -/
inductive Rejects : RejectedRecordInput → Prop
  | unparsed {rawLine : JsString} {errorCode : LineErrorCode}
      {message rawValueTruncated : JsString}
      (isLine : (ports.readLines file.storagePath)[index]? = some rawLine)
      (parses : parseNdjsonLine ports.runtime rawLine (index + 1) =
        .rejected (index + 1) errorCode message rawValueTruncated) :
      Rejects
        { lineNumber := index + 1, errorCode := .line errorCode, message,
          rawValueTruncated := rawValueTruncated.take RAW_VALUE_CAP }
  | invalid {rawLine : JsString} {data : Json} {failure : ValidationFailure}
      (isLine : (ports.readLines file.storagePath)[index]? = some rawLine)
      (parses : parseNdjsonLine ports.runtime rawLine (index + 1) = .valid (index + 1) data)
      (fails : validateTransaction ports.runtime data (file.provider.getD []) = .error failure) :
      Rejects
        { lineNumber := index + 1, errorCode := .validation failure.errorCode,
          message := JsString.ofString failure.message,
          rawValueTruncated := (Json.stringify ports.runtime data).take RAW_VALUE_CAP }

/-- What the line at an index of the file comes to in the loop. -/
def ComesTo (outcome : LineOutcome) : Prop :=
  ∃ rawLine, (ports.readLines file.storagePath)[index]? = some rawLine ∧
    handleLine ports (file.provider.getD []) rawLine (index + 1) = outcome

end

/-- The transaction is that of the first accepted line with its key. -/
def IsFirst (ports : Ports) (file : ImportFileLocation)
    (keyOf : ValidatedTransaction → TransactionKey) (transaction : ValidatedTransaction) : Prop :=
  ∃ index, Accepts ports file index transaction ∧
    ∀ earlier < index, ∀ other, Accepts ports file earlier other →
      keyOf other ≠ keyOf transaction

/-- The key of a transaction as the table compares it. -/
def ValidatedTransaction.keyInTable (transaction : ValidatedTransaction) : TransactionKey :=
  storedKey transaction.key

/-- A row with exactly the content of an accepted line. -/
def lineRow (ports : Ports) (importId : ImportId) (transaction : ValidatedTransaction) :
    TransactionRow :=
  let fingerprint := computeFingerprint ports.runtime transaction
  { transaction := transaction
    fingerprint := fingerprint
    riskScore := (ports.computeRiskScore transaction fingerprint).1
    riskLevel := (ports.computeRiskScore transaction fingerprint).2
    importId := importId }

/-- The row stored for an accepted line. -/
def storedRow (ports : Ports) (importId : ImportId) (transaction : ValidatedTransaction) :
    TransactionRow :=
  { lineRow ports importId transaction with transaction := transaction.stored }

/-- The row stored for an input of the scoring pool. -/
def inputRow (ports : Ports) (importId : ImportId) (input : ScoringInput) : TransactionRow where
  transaction := input.transaction.stored
  fingerprint := input.fingerprint
  riskScore := (ports.computeRiskScore input.transaction input.fingerprint).1
  riskLevel := (ports.computeRiskScore input.transaction input.fingerprint).2
  importId := importId

/-- The key of the row for an input. -/
def ScoringInput.key (input : ScoringInput) : TransactionKey := input.transaction.keyInTable

section

variable {ports : Ports} {file : ImportFileLocation}

/-- The loop accepts a line that parses and validates, and makes its fingerprint. -/
theorem comesTo_accepted_iff {index : Nat} {input : ScoringInput} :
    ComesTo ports file index (.accepted input) ↔
      Accepts ports file index input.transaction ∧
        input.fingerprint = computeFingerprint ports.runtime input.transaction := by
  constructor
  · rintro ⟨rawLine, isLine, handles⟩
    have names := parseNdjsonLine_names ports.runtime rawLine (index + 1)
    unfold handleLine at handles
    split at handles
    · cases handles
    · cases handles
    · rename_i number data parses
      rw [parses] at names
      cases names
      split at handles
      · cases handles
      · rename_i transaction validates
        cases handles
        exact ⟨⟨rawLine, data, isLine, parses, validates⟩, rfl⟩
  · rintro ⟨⟨rawLine, data, isLine, parses, validates⟩, fingerprint⟩
    refine ⟨rawLine, isLine, ?_⟩
    rw [handleLine, parses]
    simp only [validates]
    rw [← fingerprint]

/-- The loop rejects every other line that is not blank. -/
theorem comesTo_rejected_iff {index : Nat} {record : RejectedRecordInput} :
    ComesTo ports file index (.rejected record) ↔ Rejects ports file index record := by
  constructor
  · rintro ⟨rawLine, isLine, handles⟩
    have names := parseNdjsonLine_names ports.runtime rawLine (index + 1)
    unfold handleLine at handles
    split at handles
    · cases handles
    · rename_i number errorCode message rawValueTruncated parses
      rw [parses] at names
      cases names
      cases handles
      exact .unparsed isLine parses
    · rename_i number data parses
      rw [parses] at names
      cases names
      split at handles
      · rename_i failure fails
        cases handles
        exact .invalid isLine parses fails
      · cases handles
  · intro rejects
    cases rejects with
    | unparsed isLine parses =>
      refine ⟨_, isLine, ?_⟩
      rw [handleLine, parses]
    | invalid isLine parses fails =>
      refine ⟨_, isLine, ?_⟩
      rw [handleLine, parses]
      simp only [fails]

theorem comesTo_iff {index : Nat} {outcome : LineOutcome} :
    ComesTo ports file index outcome ↔
      (handleLines ports (file.provider.getD []) 0
        (ports.readLines file.storagePath))[index]? = some outcome := by
  rw [handleLines_getElem?, Nat.zero_add, Option.map_eq_some_iff]
  rfl

theorem filterMap_input?_cons (first : ScoringInput) (rest : List LineOutcome) :
    (LineOutcome.accepted first :: rest).filterMap LineOutcome.input? =
      first :: rest.filterMap LineOutcome.input? := rfl

/-- The input looked up among the accepted ones is that of the first line with its key. -/
theorem exists_first {outcomes : List LineOutcome} {wanted : TransactionKey}
    {input : ScoringInput}
    (found : lookup ScoringInput.key (outcomes.filterMap LineOutcome.input?) wanted =
      some input) :
    ∃ index : Nat, outcomes[index]? = some (LineOutcome.accepted input) ∧
      ∀ earlier < index, ∀ other : ScoringInput,
        outcomes[earlier]? = some (LineOutcome.accepted other) → other.key ≠ wanted := by
  induction outcomes with
  | nil => cases found
  | cons outcome rest inductionHypothesis =>
    by_cases here : ∃ first, outcome = .accepted first ∧ first.key = wanted
    · obtain ⟨first, rfl, same⟩ := here
      rw [filterMap_input?_cons, lookup_cons, if_pos same] at found
      cases found
      exact ⟨0, rfl, fun earlier before => absurd before (Nat.not_lt_zero earlier)⟩
    · have later : lookup ScoringInput.key (rest.filterMap LineOutcome.input?) wanted =
          some input := by
        cases outcome with
        | accepted first =>
          have other : first.key ≠ wanted := fun same => here ⟨first, rfl, same⟩
          rwa [filterMap_input?_cons, lookup_cons, if_neg other] at found
        | blank | rejected => exact found
      obtain ⟨index, atIndex, before⟩ := inductionHypothesis later
      refine ⟨index + 1, atIndex, fun earlier earlierBefore other otherAt => ?_⟩
      cases earlier with
      | zero =>
        cases otherAt
        exact fun same => here ⟨other, rfl, same⟩
      | succ earlier => exact before earlier (Nat.lt_of_succ_lt_succ earlierBefore) other otherAt

/-- All lines of a file as one batch. -/
def wholeFile (ports : Ports) (file : ImportFileLocation) : Batch :=
  fileBatch ports file (ports.readLines file.storagePath)

/-- The input the loop makes of an accepted line. -/
theorem Accepts.comesTo {index : Nat} {transaction : ValidatedTransaction}
    (accepts : Accepts ports file index transaction) :
    ComesTo ports file index
      (.accepted ⟨transaction, computeFingerprint ports.runtime transaction⟩) :=
  comesTo_accepted_iff.mpr ⟨accepts, rfl⟩

/-- The input that is found in the file under its key is that of a first line. -/
theorem isFirst_of_lookup {importId : ImportId} {input : ScoringInput}
    (found : lookup ScoringInput.key (wholeFile ports file).pendingScoring input.key =
      some input) :
    IsFirst ports file ValidatedTransaction.keyInTable input.transaction ∧
      inputRow ports importId input = storedRow ports importId input.transaction := by
  rw [wholeFile, fileBatch, batchOf_pendingScoring] at found
  obtain ⟨index, atIndex, before⟩ := exists_first found
  obtain ⟨accepts, fingerprint⟩ := comesTo_accepted_iff.mp (comesTo_iff.mpr atIndex)
  refine ⟨⟨index, accepts, fun earlier earlierBefore other otherAccepts => ?_⟩, ?_⟩
  · exact before earlier earlierBefore _ (comesTo_iff.mp otherAccepts.comesTo)
  · rw [inputRow, fingerprint]
    rfl

theorem accepted_mem {index : Nat} {transaction : ValidatedTransaction}
    (accepts : Accepts ports file index transaction) :
    ⟨transaction, computeFingerprint ports.runtime transaction⟩ ∈
      (wholeFile ports file).pendingScoring := by
  rw [wholeFile, fileBatch, batchOf_pendingScoring, List.mem_filterMap]
  exact ⟨_, List.mem_of_getElem? (comesTo_iff.mp accepts.comesTo), rfl⟩

theorem rejected_mem {index : Nat} {record : RejectedRecordInput}
    (rejects : Rejects ports file index record) :
    record ∈ (wholeFile ports file).pendingRejected := by
  rw [wholeFile, fileBatch, batchOf_pendingRejected, List.mem_filterMap]
  exact ⟨_, List.mem_of_getElem? (comesTo_iff.mp (comesTo_rejected_iff.mpr rejects)), rfl⟩

end

/-! ### The rows of a batch -/

section

variable {ports : Ports} {job : ClaimedJob} {db : Database} {now : Nat}

theorem values_scoredInput (ports : Ports) (job : ClaimedJob) (batch : Batch) :
    values (scoredInput ports job batch) =
      batch.pendingScoring.map (inputRow ports job.importId) := by
  simp [values, transactionRow, scoredInput, persistInput, scoredTransactions, Ports.scoreBatch,
    inputRow, List.zipWith_map_right, Function.comp_def]

theorem lookup_values (ports : Ports) (job : ClaimedJob) (batch : Batch)
    (wanted : TransactionKey) :
    lookup TransactionRow.key (values (scoredInput ports job batch)) wanted =
      (lookup ScoringInput.key batch.pendingScoring wanted).map (inputRow ports job.importId) := by
  rw [values_scoredInput]
  exact lookup_map TransactionRow.key (inputRow ports job.importId) (fun _ => rfl) _ wanted

/-- The lines of a batch are in the tables: the accepted ones under their keys, whoever owns the
row, and the rejected ones as records of the import. -/
structure Stored (importId : ImportId) (db : Database) (batch : Batch) : Prop where
  accepted : ∀ input ∈ batch.pendingScoring,
    (lookup TransactionRow.key db.transactions input.key).isSome = true
  rejected : ∀ record ∈ batch.pendingRejected, rejectedRow importId record ∈ db.rejectedRecords

theorem stored_empty (importId : ImportId) (db : Database) : Stored importId db Batch.empty where
  accepted := fun _ member => nomatch member
  rejected := fun _ member => nomatch member

theorem Stored.append {importId : ImportId} {first second : Batch}
    (firstStored : Stored importId db first) (secondStored : Stored importId db second) :
    Stored importId db (first.append second) where
  accepted := fun input member => (List.mem_append.mp member).elim
    (firstStored.accepted input) (secondStored.accepted input)
  rejected := fun record member => (List.mem_append.mp member).elim
    (firstStored.rejected record) (secondStored.rejected record)

/-- Stored lines stay stored. -/
theorem Stored.commit {importId : ImportId} {batch : Batch} (stored : Stored importId db batch)
    (statement : Statement) : Stored importId (statement.commit now db) batch where
  accepted := by
    intro input member
    rw [Statement.commit_transactions, lookup_append, Option.isSome_or,
      stored.accepted input member]
    rfl
  rejected := by
    intro record member
    rw [Statement.commit_rejectedRecords]
    exact List.mem_append_left _ (stored.rejected record member)

/-- A batch that is committed is stored. -/
theorem stored_persistBatch (batch : Batch) :
    Stored job.importId ((Statement.persistBatch (scoredInput ports job batch)).commit now db)
      batch where
  accepted := by
    intro input member
    show (lookup TransactionRow.key (insertMissing TransactionRow.key db.transactions
      (values (scoredInput ports job batch))) input.key).isSome = true
    rw [lookup_insertMissing, Option.isSome_or, lookup_values, Option.isSome_map]
    have inBatch : (lookup ScoringInput.key batch.pendingScoring input.key).isSome = true :=
      (lookup_isSome ScoringInput.key).mpr ⟨input, member, rfl⟩
    rw [inBatch, Bool.or_true]
  rejected := by
    intro record member
    rw [Statement.commit_rejectedRecords]
    exact List.mem_append_right _ (List.mem_map_of_mem member)

/-- Every row an import owns is that of the first line with its key. -/
def OwnsFirstLines (ports : Ports) (importId : ImportId) (file : ImportFileLocation)
    (db : Database) : Prop :=
  ∀ row ∈ db.transactions, row.importId = importId →
    ∃ transaction, IsFirst ports file ValidatedTransaction.keyInTable transaction ∧
      row = storedRow ports importId transaction

/-- The batches up to a point of the file are the first part of the whole file. -/
theorem wholeFile_of_reads {file : ImportFileLocation} {sent : Batch}
    {handled unread : List JsString} {locals : Locals}
    (reads : Reads ports file sent handled unread locals) :
    ∃ later, wholeFile ports file = (sent.append locals.pending).append later := by
  rw [wholeFile, reads.lines, fileBatch_append, reads.batches]
  exact ⟨_, rfl⟩

/-- A row of a batch that lands is that of the first line with its key, when the lines before the
batch are stored. -/
theorem landed_isFirst {file : ImportFileLocation} {sent batch : Batch}
    {handled unread : List JsString} {locals : Locals}
    (reads : Reads ports file (sent.append batch) handled unread locals)
    (stored : Stored job.importId db sent) {row : TransactionRow}
    (lands : row ∈ inserted (scoredInput ports job batch) db) :
    ∃ transaction, IsFirst ports file ValidatedTransaction.keyInTable transaction ∧
      row = storedRow ports job.importId transaction := by
  obtain ⟨missing, firstOfBatch⟩ := mem_landing TransactionRow.key lands
  rw [lookup_values] at firstOfBatch
  obtain ⟨input, found, rfl⟩ := Option.map_eq_some_iff.mp firstOfBatch
  have notSent : lookup ScoringInput.key sent.pendingScoring input.key = none := by
    rw [lookup_eq_none]
    intro other member same
    have isStored := stored.accepted other member
    rw [same, show lookup TransactionRow.key db.transactions input.key = none from missing]
      at isStored
    cases isStored
  obtain ⟨later, whole⟩ := wholeFile_of_reads reads
  have inFile : lookup ScoringInput.key (wholeFile ports file).pendingScoring input.key =
      some input := by
    rw [whole]
    show lookup ScoringInput.key (sent.pendingScoring ++ batch.pendingScoring ++
      locals.pending.pendingScoring ++ later.pendingScoring) input.key = some input
    rw [lookup_append, lookup_append, lookup_append, notSent, Option.none_or,
      show lookup ScoringInput.key batch.pendingScoring input.key = some input from found]
    rfl
  obtain ⟨isFirst, sameRow⟩ := isFirst_of_lookup inFile
  exact ⟨input.transaction, isFirst, sameRow⟩

end

/-! ### The file of an import -/

section

variable {db : Database} {now : Nat} {statement : Statement} {importId : ImportId}
  {file : ImportFileLocation}

theorem findImport_of_findByImportId
    (found : ImportFileRepository.findByImportId importId db = some file) :
    (db.findImport importId).isSome = true := by
  obtain ⟨_, _, rest⟩ := Option.bind_eq_some_iff.mp found
  obtain ⟨row, foundRow, _⟩ := Option.bind_eq_some_iff.mp rest
  rw [foundRow]
  rfl

/-- The file of an import never changes. -/
theorem findByImportId_commit (admissible : statement.Admissible db)
    (found : ImportFileRepository.findByImportId importId db = some file) :
    ImportFileRepository.findByImportId importId (statement.commit now db) = some file := by
  have known := findImport_of_findByImportId found
  have sameFiles :
      (statement.commit now db).importFiles.filter (fun row => row.importId == importId) =
        db.importFiles.filter (fun row => row.importId == importId) := by
    rw [Statement.commit_importFiles, List.filter_append]
    cases statement with
    | create newId jobId storagePath createdAt =>
      have other : newId ≠ importId := by
        rintro rfl
        rw [(Statement.isFresh_iff.mp admissible).1] at known
        cases known
      rw [Statement.newImportFiles, List.filter_cons_of_neg (by simpa using other)]
      exact List.append_nil _
    | _ => exact List.append_nil _
  obtain ⟨row, foundRow⟩ := Option.isSome_iff_exists.mp known
  have sameProvider : (statement.onImport now db row).provider = row.provider :=
    congrArg Prod.snd (Statement.onImport_id_provider now db statement row)
  unfold ImportFileRepository.findByImportId at found ⊢
  rw [sameFiles, Statement.commit_findImport now statement foundRow]
  rw [foundRow] at found
  simpa only [Option.bind_some, Option.bind_eq_bind, sameProvider] using found

end

/-! ### Runs -/

namespace System

/-- What holds of an import with a file in every state: its file, its rows, and that what an
execution of it has sent is stored. -/
structure OnceInvariant (ports : Ports) (importId : ImportId) (file : ImportFileLocation)
    (state : State) : Prop where
  coherent : Coherent ports state
  distinct : (state.db.transactions.map TransactionRow.key).Nodup
  located : ImportFileRepository.findByImportId importId state.db = some file
  owned : OwnsFirstLines ports importId file state.db
  executions : ∀ workerId job point, (state.workers workerId).phase = .executing job point →
    job.importId = importId →
      ∃ sent stop, Tracks ports job file sent stop point ∧ Stored importId state.db sent

variable {ports : Ports} {config : Config} {state next : State} {action : Action}
  {importId : ImportId} {file : ImportFileLocation}

theorem distinct_committed (now : Nat) (statement : Option Statement) {db : Database}
    (distinct : (db.transactions.map TransactionRow.key).Nodup) :
    ((committed now statement db).transactions.map TransactionRow.key).Nodup := by
  cases statement with
  | none => exact distinct
  | some statement =>
    cases statement with
    | persistBatch input => exact insertMissing_distinct TransactionRow.key distinct (values input)
    | _ => exact distinct

theorem located_step (coherent : Coherent ports state)
    (located : ImportFileRepository.findByImportId importId state.db = some file)
    (enabled : step ports config state action = some next) :
    ImportFileRepository.findByImportId importId next.db = some file := by
  rw [step_db enabled]
  cases emits : emitted ports config state action with
  | none => exact located
  | some statement => exact findByImportId_commit (emitted_admissible coherent emits) located

theorem stored_step (enabled : step ports config state action = some next) {sent : Batch}
    (stored : Stored importId state.db sent) : Stored importId next.db sent := by
  rw [step_db enabled]
  cases emitted ports config state action with
  | none => exact stored
  | some statement => exact stored.commit statement

/-- The batch of an import goes on in its file where what is stored already ends. -/
theorem batch_of_emitted (invariant : OnceInvariant ports importId file state)
    {input : PersistBatchInput}
    (emits : emitted ports config state action = some (.persistBatch input))
    (own : input.importId = importId) :
    ∃ job sent batch handled unread locals, job.importId = importId ∧
      input = scoredInput ports job batch ∧
      Reads ports file (sent.append batch) handled unread locals ∧
      Stored importId state.db sent := by
  cases emitted_origin emits with
  | execute executing calls =>
    rename_i workerId job point reply
    cases calls with
    | persistBatch =>
      obtain ⟨_, _, _, _, _, batch, rfl, _⟩ := invariant.coherent.executing executing
      have sameImport : job.importId = importId := own
      obtain ⟨sent, stop, ⟨sentBatch, sameInput, _, _, handled, unread, reads, _⟩, stored⟩ :=
        invariant.executions workerId job _ executing sameImport
      exact ⟨job, sent, sentBatch, handled, unread, _, sameImport, sameInput, reads, stored⟩

/-- A row that is new after a step is that of the first line with its key. -/
theorem owned_step (invariant : OnceInvariant ports importId file state)
    (enabled : step ports config state action = some next) :
    OwnsFirstLines ports importId file next.db := by
  intro row member own
  rw [step_db enabled] at member
  cases emits : emitted ports config state action with
  | none =>
    rw [emits] at member
    exact invariant.owned row member own
  | some statement =>
    rw [emits, committed, Statement.commit_transactions, List.mem_append] at member
    rcases member with old | added
    · exact invariant.owned row old own
    · cases statement with
      | persistBatch input =>
        have ownBatch := (Statement.importId_of_inserted added).symm.trans own
        obtain ⟨job, sent, batch, handled, unread, locals, sameImport, rfl, reads, stored⟩ :=
          batch_of_emitted invariant emits ownBatch
        rw [← sameImport] at stored ⊢
        exact landed_isFirst reads stored added
      | create | claimNext | renewLease | updateBothJob | updateBothImport | releaseJob
      | releaseImport | reclaim | cancel => cases added

/-- What an execution has sent is stored when it enters its next call. -/
theorem executions_step (invariant : OnceInvariant ports importId file state)
    (enabled : step ports config state action = some next) {workerId : WorkerId}
    {job : ClaimedJob} {point : Point}
    (executing : (next.workers workerId).phase = .executing job point)
    (sameImport : job.importId = importId) :
    ∃ sent stop, Tracks ports job file sent stop point ∧ Stored importId next.db sent := by
  rcases step_phase enabled workerId with same | ⟨event, rfl, entered⟩
  · rw [same] at executing
    obtain ⟨sent, stop, tracks, stored⟩ :=
      invariant.executions workerId job point executing sameImport
    exact ⟨sent, stop, tracks, stored_step enabled stored⟩
  · rw [executing] at entered
    generalize emits : emitted ports config state (.work workerId event) = statement at entered
    cases entered with
    | claimed => exact ⟨Batch.empty, none, ⟨rfl, rfl⟩, stored_empty importId next.db⟩
    | resumed before awaiting =>
      rename_i old reply
      obtain ⟨sent, stop, tracks, stored⟩ := invariant.executions workerId job old before sameImport
      have reads : old = .findByImportId → ∀ found,
          ImportFileRepository.findByImportId job.importId state.db = some found →
            found = file := by
        intro _ found finds
        rw [sameImport, invariant.located] at finds
        exact (Option.some.inj finds).symm
      rcases resume_awaiting_cases _ state.db state.now tracks reads awaiting with
        ⟨stopAfter, after⟩ | ⟨locals, last, batch, rfl, rfl, stopAfter, after⟩
      · exact ⟨sent, stopAfter, after, stored_step enabled stored⟩
      · refine ⟨sent.append batch, stopAfter, after, (stored_step enabled stored).append ?_⟩
        rw [step_db enabled, emits, ← sameImport]
        exact stored_persistBatch batch
    | bare isBare => cases isBare

theorem onceInvariant_step (invariant : OnceInvariant ports importId file state)
    (enabled : step ports config state action = some next) :
    OnceInvariant ports importId file next where
  coherent := coherent_step invariant.coherent enabled
  distinct := by
    rw [step_db enabled]
    exact distinct_committed state.now _ invariant.distinct
  located := located_step invariant.coherent invariant.located enabled
  owned := owned_step invariant enabled
  executions := fun _ _ _ executing sameImport =>
    executions_step invariant enabled executing sameImport

/-- A step adds rows to the transactions and leaves the ones that are there as they are. -/
def KeepsRows (state : State) (_ : Action) (next : State) : Prop :=
  state.db.transactions <+: next.db.transactions

theorem keepsRows_step (enabled : step ports config state action = some next) :
    KeepsRows state action next := by
  unfold KeepsRows
  rw [step_db enabled]
  cases emitted ports config state action with
  | none => exact List.prefix_rfl
  | some statement =>
    rw [committed, Statement.commit_transactions]
    exact List.prefix_append _ _

/-- The lines of a file are in the tables. -/
structure HoldsLines (ports : Ports) (importId : ImportId) (file : ImportFileLocation)
    (db : Database) : Prop where
  accepted : ∀ index transaction, Accepts ports file index transaction →
    ∃ row, lookup TransactionRow.key db.transactions transaction.keyInTable = some row
  rejected : ∀ index record, Rejects ports file index record →
    rejectedRow importId record ∈ db.rejectedRecords

/-- An execution of the import is in `markCompleted`. -/
def MarksCompleted (state : State) (importId : ImportId) : Prop :=
  ∃ workerId job mark stage caller, mark.status = .COMPLETED ∧ job.importId = importId ∧
    (state.workers workerId).phase = .executing job (.updateBoth mark stage caller)

theorem holdsLines_of_marksCompleted (invariant : OnceInvariant ports importId file state)
    (marks : MarksCompleted state importId) : HoldsLines ports importId file state.db := by
  obtain ⟨workerId, job, mark, stage, caller, completed, sameImport, executing⟩ := marks
  obtain ⟨sent, stop, tracks, stored⟩ := invariant.executions workerId job _ executing sameImport
  have allSent : sent = wholeFile ports file := by
    cases caller with
    | loopEnded =>
      obtain ⟨ended, allSent⟩ := tracks
      rw [completed] at ended
      cases stop with
      | none => exact allSent
      | some line => cases ended
    | fileMissing | caught =>
      rw [show mark.status = .FAILED from tracks] at completed
      cases completed
    | fileFound found =>
      rw [tracks.1] at completed
      cases completed
  rw [allSent] at stored
  exact
    { accepted := fun index transaction accepts =>
        Option.isSome_iff_exists.mp (stored.accepted _ (accepted_mem accepts))
      rejected := fun index record rejects => stored.rejected record (rejected_mem rejects) }

/-! ### The lines themselves -/

/-- UTF-8 keeps what an import stores of its file: the keys of the accepted lines and the texts of
the first one with each key have no unpaired surrogates. -/
structure KeptInUTF8 (ports : Ports) (file : ImportFileLocation) : Prop where
  keys : ∀ index transaction, Accepts ports file index transaction →
    transaction.keyInTable = transaction.key
  contents : ∀ transaction, IsFirst ports file ValidatedTransaction.key transaction →
    transaction.stored = transaction

/-- No key twice, no row of the import but with the content of the first line with its key, and no
line lost once the import is being marked completed. -/
structure EffectivelyOnce (ports : Ports) (importId : ImportId) (file : ImportFileLocation)
    (state : State) : Prop where
  distinct : (state.db.transactions.map TransactionRow.key).Nodup
  owned : ∀ row ∈ state.db.transactions, row.importId = importId →
    ∃ transaction, IsFirst ports file ValidatedTransaction.key transaction ∧
      row = lineRow ports importId transaction
  accepted : MarksCompleted state importId → ∀ index transaction,
    Accepts ports file index transaction →
      ∃ row, lookup TransactionRow.key state.db.transactions transaction.key = some row
  rejected : MarksCompleted state importId → ∀ index record, Rejects ports file index record →
    rejectedRow importId record ∈ state.db.rejectedRecords

/-- The first line with a key in the table is the first one with its own key. -/
theorem isFirst_of_keyInTable {transaction : ValidatedTransaction}
    (isFirst : IsFirst ports file ValidatedTransaction.keyInTable transaction) :
    IsFirst ports file ValidatedTransaction.key transaction := by
  obtain ⟨index, accepts, before⟩ := isFirst
  refine ⟨index, accepts, fun earlier isEarlier other otherAccepts same => ?_⟩
  exact before earlier isEarlier other otherAccepts (congrArg storedKey same)

theorem effectivelyOnce_of_invariant (kept : KeptInUTF8 ports file)
    (invariant : OnceInvariant ports importId file state) :
    EffectivelyOnce ports importId file state where
  distinct := invariant.distinct
  owned := by
    intro row member own
    obtain ⟨transaction, isFirst, rfl⟩ := invariant.owned row member own
    have isFirstLine := isFirst_of_keyInTable isFirst
    refine ⟨transaction, isFirstLine, ?_⟩
    rw [storedRow, kept.contents transaction isFirstLine]
    rfl
  accepted := by
    intro marks index transaction accepts
    rw [← kept.keys index transaction accepts]
    exact (holdsLines_of_marksCompleted invariant marks).accepted index transaction accepts
  rejected := fun marks => (holdsLines_of_marksCompleted invariant marks).rejected

/-- A line is accepted as one transaction. -/
theorem accepts_unique {index : Nat} {transaction other : ValidatedTransaction}
    (accepts : Accepts ports file index transaction)
    (otherAccepts : Accepts ports file index other) : transaction = other := by
  have same := (comesTo_iff.mp accepts.comesTo).symm.trans (comesTo_iff.mp otherAccepts.comesTo)
  cases same
  rfl

/-- Two first lines with one key are one line. -/
theorem isFirst_unique {keyOf : ValidatedTransaction → TransactionKey}
    {transaction other : ValidatedTransaction} (isFirst : IsFirst ports file keyOf transaction)
    (otherFirst : IsFirst ports file keyOf other) (same : keyOf transaction = keyOf other) :
    transaction = other := by
  obtain ⟨index, accepts, before⟩ := isFirst
  obtain ⟨otherIndex, otherAccepts, otherBefore⟩ := otherFirst
  rcases Nat.lt_trichotomy index otherIndex with earlier | rfl | later
  · exact absurd same (otherBefore index earlier transaction accepts)
  · exact accepts_unique accepts otherAccepts
  · exact absurd same.symm (before otherIndex later other otherAccepts)

/-- An import that is completed as it should be, into tables with no rows of others, had a file
that UTF-8 keeps. -/
theorem kept_of_effectivelyOnce (invariant : OnceInvariant ports importId file state)
    (marks : MarksCompleted state importId)
    (alone : ∀ row ∈ state.db.transactions, row.importId = importId)
    (once : EffectivelyOnce ports importId file state) : KeptInUTF8 ports file := by
  have stays : ∀ index transaction, Accepts ports file index transaction →
      ∃ row ∈ state.db.transactions, row.key = transaction.key ∧
        row.transaction.stored = row.transaction := by
    intro index transaction accepts
    obtain ⟨row, found⟩ := once.accepted marks index transaction accepts
    have member := lookup_mem TransactionRow.key found
    obtain ⟨source, _, rfl⟩ := invariant.owned row member (alone row member)
    exact ⟨_, member, lookup_key TransactionRow.key found, source.stored_stored⟩
  constructor
  · intro index transaction accepts
    obtain ⟨row, _, sameKey, stored⟩ := stays index transaction accepts
    rw [ValidatedTransaction.keyInTable, ← sameKey, TransactionRow.key,
      ← ValidatedTransaction.key_stored, stored]
  · intro transaction isFirst
    obtain ⟨index, accepts, _⟩ := id isFirst
    obtain ⟨row, member, sameKey, stored⟩ := stays index transaction accepts
    obtain ⟨other, otherFirst, rfl⟩ := once.owned row member (alone row member)
    rwa [isFirst_unique isFirst otherFirst sameKey.symm]

/-- Over tables in which the import owns no row yet. When UTF-8 keeps what is stored of the file,
then along every run no step changes a stored transaction, and in every state the keys are
distinct, each row the import owns is that of the first line with its key, and an import that is
being marked completed has lost no line. And when a run completes it like that with no rows of
others in the tables, UTF-8 does keep what is stored. -/
theorem effectively_once (now : Nat) {db : Database} (wellFormed : db.WellFormed)
    (distinct : (db.transactions.map TransactionRow.key).Nodup)
    (located : ImportFileRepository.findByImportId importId db = some file)
    (ownsNothing : ∀ row ∈ db.transactions, row.importId ≠ importId) :
    (KeptInUTF8 ports file → ∀ schedule,
      Transition.Every (step ports config) KeepsRows (initial now db) schedule ∧
        Transition.Always (step ports config) (EffectivelyOnce ports importId file)
          (initial now db) schedule) ∧
      ∀ schedule final, Transition.run (step ports config) (initial now db) schedule =
          some final →
        MarksCompleted final importId →
          (∀ row ∈ final.db.transactions, row.importId = importId) →
            EffectivelyOnce ports importId file final → KeptInUTF8 ports file := by
  have initially : OnceInvariant ports importId file (initial now db) :=
    { coherent := coherent_initial ports now wellFormed
      distinct := distinct
      located := located
      owned := fun row member own => absurd own (ownsNothing row member)
      executions := fun _ _ _ executing => nomatch executing }
  constructor
  · intro kept schedule
    constructor
    · refine Transition.Every.imp (fun _ => True) (fun _ _ _ _ _ _ => trivial) ?_ trivial
        (Transition.every_true (step ports config) (initial now db) schedule)
      exact fun _ _ _ _ enabled _ => keepsRows_step enabled
    · exact Transition.always_of_invariant (OnceInvariant ports importId file)
        (fun _ _ _ invariant enabled => onceInvariant_step invariant enabled)
        (fun _ invariant => effectivelyOnce_of_invariant kept invariant) initially schedule
  · intro schedule final reaches marks alone once
    refine kept_of_effectivelyOnce ?_ marks alone once
    exact Transition.Reachable.invariant ⟨schedule, reaches⟩ _ initially
      fun _ _ _ invariant enabled => onceInvariant_step invariant enabled

/-! ### Two files -/

/-- The line of a record, by what stands for its id in JSON. -/
def recordLine (transactionId : String) : JsString :=
  JsString.ofString ("\x7b\"transactionId\":\"" ++ transactionId ++ "\",\"accountId\":\"a\"," ++
    "\"merchantId\":\"m\",\"amount\":1,\"currency\":\"EUR\",\"timestamp\":0\x7d")

/-- Every file has a record, a line that is none, the record again and a blank line. -/
def repeatedPorts : Ports :=
  { emptyFilePorts with
    readLines := fun _ => [recordLine "t", JsString.ofString "x", recordLine "t", []] }

/-- Every file has two records whose ids are unpaired surrogates. -/
def surrogatePorts : Ports :=
  { emptyFilePorts with readLines := fun _ => [recordLine "\\ud800", recordLine "\\ud801"] }

/-- A batch has two lines. -/
def smallBatches : Config := { defaultConfig with batchSize := fun _ => 2 }

/-- Worker 1 crashes when its first batch is committed but has been reported as failed. Once its
lease has run out, worker 2 starts again with the first line. -/
def crashAndRepeat : List Action :=
  startUp 1 ++ startUp 2 ++ [.work 1 (.claimNext 1 .acknowledged)] ++ replies 1 7 ++
    [.work 1 (.reply (.retry true)), .work 1 .crash, .advance 120001,
      .work 2 (.claimNext 1 .acknowledged)] ++ replies 2 13

theorem keptInUTF8_of_inputs
    (kept : ∀ input ∈ (wholeFile ports file).pendingScoring,
      input.transaction.stored = input.transaction) : KeptInUTF8 ports file where
  keys := fun _ _ accepts => congrArg ValidatedTransaction.key (kept _ (accepted_mem accepts))
  contents := by
    rintro transaction ⟨index, accepts, _⟩
    exact kept _ (accepted_mem accepts)

theorem wellFormed_uploaded : uploaded.WellFormed :=
  Statement.wellFormed_commit Database.wellFormed_empty
    (show System.isFresh 1 1 Database.empty = true by decide)

theorem effectively_once_crashAndRepeat :
    ∃ final, Transition.run (step repeatedPorts smallBatches) (initial 0 uploaded)
        crashAndRepeat = some final ∧
      MarksCompleted final 1 ∧ final.db.transactions.length = 1 ∧
      final.db.rejectedRecords.length = 2 ∧
      Transition.Every (step repeatedPorts smallBatches) KeepsRows (initial 0 uploaded)
        crashAndRepeat ∧
      Transition.Always (step repeatedPorts smallBatches)
        (EffectivelyOnce repeatedPorts 1 ⟨[], none⟩) (initial 0 uploaded) crashAndRepeat := by
  have trace : (Transition.run (step repeatedPorts smallBatches) (initial 0 uploaded)
      crashAndRepeat).map (fun state => ((state.workers 2).phase, state.db.transactions.length,
        state.db.rejectedRecords.length)) =
      some (.executing ⟨1, 1, .CLAIMED, 2, 2⟩
        (.updateBoth (.completed 120001) .job .loopEnded), 1, 2) := by
    decide +kernel
  obtain ⟨final, reaches, seen⟩ := Option.map_eq_some_iff.mp trace
  obtain ⟨executing, rows, records⟩ : _ ∧ _ ∧ _ := by simpa only [Prod.mk.injEq] using seen
  have kept : KeptInUTF8 repeatedPorts ⟨[], none⟩ := keptInUTF8_of_inputs (by decide +kernel)
  have located : ImportFileRepository.findByImportId 1 uploaded = some ⟨[], none⟩ := rfl
  exact ⟨final, reaches, ⟨2, _, _, _, _, rfl, rfl, executing⟩, rows, records,
    (effectively_once 0 wellFormed_uploaded List.nodup_nil located
      fun _ member => nomatch member).1 kept crashAndRepeat⟩

/-- The transaction of the first of the two records. -/
def surrogateTransaction : ValidatedTransaction where
  provider := []
  transactionId := [0xd800]
  accountId := JsString.ofString "a"
  merchantId := JsString.ofString "m"
  amount := 1
  currency := JsString.ofString "EUR"
  timestamp := 0
  description := none

/-- The two records are completed with one row, which is under the key of neither. -/
theorem surrogates_merge :
    ¬ ∀ schedule, Transition.Always (step surrogatePorts smallBatches)
      (EffectivelyOnce surrogatePorts 1 ⟨[], none⟩) (initial 0 uploaded) schedule := by
  intro always
  have trace : (Transition.run (step surrogatePorts smallBatches) (initial 0 uploaded)
      (startUp 1 ++ [.work 1 (.claimNext 1 .acknowledged)] ++ replies 1 9)).map
        (fun state => ((state.workers 1).phase, state.db.transactions.map TransactionRow.key)) =
      some (.executing ⟨1, 1, .CLAIMED, 1, 1⟩ (.updateBoth (.completed 0) .job .loopEnded),
        [([], [0xfffd])]) := by
    decide +kernel
  obtain ⟨final, reaches, seen⟩ := Option.map_eq_some_iff.mp trace
  obtain ⟨executing, keys⟩ := Prod.mk.inj seen
  have comesTo : ComesTo surrogatePorts ⟨[], none⟩ 0
      (.accepted ⟨surrogateTransaction,
        computeFingerprint surrogatePorts.runtime surrogateTransaction⟩) :=
    ⟨recordLine "\\ud800", rfl, by decide +kernel⟩
  obtain ⟨row, found⟩ := ((always _).last reaches).accepted ⟨1, _, _, _, _, rfl, rfl, executing⟩ 0
    surrogateTransaction (comesTo_accepted_iff.mp comesTo).1
  have member : row.key ∈ final.db.transactions.map TransactionRow.key :=
    List.mem_map_of_mem (lookup_mem TransactionRow.key found)
  rw [keys, lookup_key TransactionRow.key found] at member
  exact absurd member (by decide)

end System

end ImportService
