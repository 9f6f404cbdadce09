/-
This file proves that the counters of an import agree with the rows stored for it. A
batch adds to `acceptedCount` what its insert returned and to `rejectedCount` what it
appended, in the transaction that stores these rows, so both agree with the tables
however often a batch is repeated. The duplicates are what is left of the batch, and
`processedDelta` counts the same lines in another place: the line loop increments it
with each line it puts into one of the two lists (`Batch.Counted`).
-/

import ImportService.Integrity

namespace ImportService

open KeyedTable ProcessImportFile JobPollerService TransactionRepository

/-! ### Counters and rows -/

/-- The counters of an import are the numbers of its rows. -/
structure ImportRow.CountsRows (row : ImportRow) (db : Database) : Prop where
  accepted : row.acceptedCount = (db.transactionsOf row.id).length
  rejected : row.rejectedCount = (db.rejectedRecordsOf row.id).length
  processed : row.processedCount = row.acceptedCount + row.rejectedCount + row.duplicateCount

/-- The counters of every import count its rows. -/
def Database.CountersAgree (db : Database) : Prop :=
  ∀ importId row, db.findImport importId = some row → row.CountsRows db

namespace Statement

/-- A batch counts its lines in `processedDelta`. -/
def Balanced : Statement → Prop
  | .persistBatch input => input.processedDelta = input.scored.length + input.rejected.length
  | .create _ _ _ _ | .claimNext _ _ _ | .renewLease _ _ _ | .updateBothJob _ _
  | .updateBothImport _ _ | .releaseJob _ _ | .releaseImport _ | .reclaim _ _ _ | .cancel _ => True

/-- A batch inserts at most its scored transactions. -/
theorem length_inserted_le (input : PersistBatchInput) (db : Database) :
    (inserted input db).length ≤ input.scored.length := by
  have sublist := landing_sublist TransactionRow.key db.transactions (values input)
  calc (inserted input db).length ≤ (values input).length := sublist.length_le
    _ = input.scored.length := List.length_map _

/-- Of rows that all belong to one import, another import has none. -/
theorem filter_of_importId {Row : Type} (importIdOf : Row → ImportId) {rows : List Row}
    {owner : ImportId} (owned : ∀ row ∈ rows, importIdOf row = owner) (importId : ImportId) :
    rows.filter (fun row => importIdOf row == importId) =
      if owner = importId then rows else [] := by
  split
  · rename_i same
    refine List.filter_eq_self.mpr fun row member => ?_
    rw [owned row member, same, beq_self_eq_true]
  · rename_i other
    refine List.filter_eq_nil_iff.mpr fun row member => ?_
    rw [owned row member, beq_iff_eq]
    exact other

section

variable {db : Database} {now : Nat} {statement : Statement}

/-- The counters of an import, in the order of the row. -/
def counters (row : ImportRow) : Nat × Nat × Nat × Nat :=
  (row.processedCount, row.acceptedCount, row.rejectedCount, row.duplicateCount)

/-- Only a batch of the import changes its counters. -/
theorem onImport_counters (now : Nat) (db : Database) (row : ImportRow)
    (otherBatch : ∀ input, statement = .persistBatch input → input.importId ≠ row.id) :
    counters (statement.onImport now db row) = counters row := by
  cases statement with
  | updateBothImport importId mark =>
    exact setImport_keeps counters now _ mark.importData (fun row => by cases mark <;> rfl) row
  | releaseImport importId =>
    exact setImport_keeps counters now _ JobRepository.toPendingImport (fun _ => rfl) row
  | reclaim maxAttempts sweep passed =>
    exact (setImport_keeps counters now _ JobRepository.toPendingImport (fun _ => rfl) _).trans
      (setImport_keeps counters now _ (JobRepository.abandonImport sweep.startedAt)
        (fun _ => rfl) row)
  | cancel importId =>
    exact setImport_keeps counters now _ ImportRepository.cancelImport (fun _ => rfl) row
  | persistBatch input =>
    exact congrArg counters (setImport_of_id_ne now _ (otherBatch input rfl).symm)
  | create | claimNext | renewLease | updateBothJob | releaseJob => rfl

theorem transactionsOf_commit (now : Nat) (db : Database) (importId : ImportId) :
    (statement.commit now db).transactionsOf importId =
      db.transactionsOf importId ++
        (statement.newTransactions db).filter fun row => row.importId == importId := by
  rw [Database.transactionsOf, commit_transactions, List.filter_append]
  rfl

theorem rejectedRecordsOf_commit (now : Nat) (db : Database) (importId : ImportId) :
    (statement.commit now db).rejectedRecordsOf importId =
      db.rejectedRecordsOf importId ++
        statement.newRejections.filter fun row => row.importId == importId := by
  rw [Database.rejectedRecordsOf, commit_rejectedRecords, List.filter_append]
  rfl

/-- A statement that stores no batch of an import adds no row to it. -/
theorem rows_of_otherBatch (now : Nat) (db : Database) (importId : ImportId)
    (otherBatch : ∀ input, statement = .persistBatch input → input.importId ≠ importId) :
    (statement.commit now db).transactionsOf importId = db.transactionsOf importId ∧
      (statement.commit now db).rejectedRecordsOf importId = db.rejectedRecordsOf importId := by
  rw [transactionsOf_commit, rejectedRecordsOf_commit]
  cases statement with
  | persistBatch input =>
    have other := otherBatch input rfl
    rw [newTransactions, newRejections,
      filter_of_importId TransactionRow.importId (fun _ => importId_of_inserted) importId,
      filter_of_importId RejectedRecordRow.importId (fun _ => importId_of_rejections) importId,
      if_neg other, if_neg other]
    exact ⟨List.append_nil _, List.append_nil _⟩
  | _ => exact ⟨List.append_nil _, List.append_nil _⟩

/-- A batch adds its rows to its own import. -/
theorem rows_of_ownBatch (now : Nat) (db : Database) (input : PersistBatchInput) :
    ((persistBatch input).commit now db).transactionsOf input.importId =
        db.transactionsOf input.importId ++ inserted input db ∧
      ((persistBatch input).commit now db).rejectedRecordsOf input.importId =
        db.rejectedRecordsOf input.importId ++ rejections input := by
  rw [transactionsOf_commit, rejectedRecordsOf_commit, newTransactions, newRejections,
    filter_of_importId TransactionRow.importId (fun _ => importId_of_inserted) input.importId,
    filter_of_importId RejectedRecordRow.importId (fun _ => importId_of_rejections) input.importId,
    if_pos rfl, if_pos rfl]
  exact ⟨rfl, rfl⟩

/-- The batch of an import counts the rows it stores. -/
theorem countsRows_of_ownBatch {row : ImportRow} (counts : row.CountsRows db)
    {input : PersistBatchInput} (balanced : (persistBatch input).Balanced)
    (own : input.importId = row.id) :
    ((persistBatch input).onImport now db row).CountsRows
      ((persistBatch input).commit now db) := by
  obtain ⟨transactions, rejectedRecords⟩ := rows_of_ownBatch now db input
  have selected : (row.id == input.importId) = true := beq_iff_eq.mpr own.symm
  have rowAfter : (persistBatch input).onImport now db row =
      { countBatch input.processedDelta (persistBatchResult input db) row with
        updatedAt := now } := if_pos selected
  rw [rowAfter]
  constructor
  · show row.acceptedCount + (inserted input db).length = (Database.transactionsOf _ row.id).length
    rw [← own, transactions, List.length_append, counts.accepted, own]
  · show row.rejectedCount + input.rejected.length = (Database.rejectedRecordsOf _ row.id).length
    rw [← own, rejectedRecords, List.length_append, rejections, List.length_map, counts.rejected,
      own]
  · show row.processedCount + input.processedDelta =
      row.acceptedCount + (inserted input db).length + (row.rejectedCount + input.rejected.length) +
        (row.duplicateCount + (input.scored.length - (inserted input db).length))
    have lineCount : input.processedDelta = input.scored.length + input.rejected.length := balanced
    have within := length_inserted_le input db
    rw [counts.processed, lineCount]
    omega

/-- A statement keeps the counters of an import true, if a batch is balanced. -/
theorem countsRows_commit {row : ImportRow} (counts : row.CountsRows db)
    (balanced : statement.Balanced) :
    (statement.onImport now db row).CountsRows (statement.commit now db) := by
  by_cases ownBatch : ∃ input, statement = .persistBatch input ∧ input.importId = row.id
  · obtain ⟨input, rfl, own⟩ := ownBatch
    exact countsRows_of_ownBatch counts balanced own
  · have otherBatch : ∀ input, statement = .persistBatch input → input.importId ≠ row.id :=
      fun input stores own => ownBatch ⟨input, stores, own⟩
    have same := onImport_counters now db row otherBatch
    simp only [counters, Prod.mk.injEq] at same
    obtain ⟨processed, accepted, rejected, duplicate⟩ := same
    obtain ⟨transactions, rejectedRecords⟩ := rows_of_otherBatch now db row.id otherBatch
    constructor
    · rw [onImport_id, transactions, accepted, counts.accepted]
    · rw [onImport_id, rejectedRecords, rejected, counts.rejected]
    · rw [processed, accepted, rejected, duplicate, counts.processed]

/-- An import that was just created counts no row, since rows belong to imports that exist. -/
theorem countsRows_newImport (wellFormed : db.WellFormed) {importId : ImportId}
    (missing : db.findImport importId = none) (createdAt : Nat) :
    (ImportRepository.newImport importId createdAt now).CountsRows db := by
  have unowned {owner : ImportId} (known : (db.findImport owner).isSome = true) :
      (owner == importId) = false := by
    rw [beq_eq_false_iff_ne]
    rintro rfl
    rw [missing] at known
    cases known
  constructor
  · have noRows : db.transactionsOf importId = [] :=
      List.filter_eq_nil_iff.mpr fun row member =>
        ne_true_of_eq_false (unowned (wellFormed.transactions row member))
    exact (congrArg List.length noRows).symm
  · have noRows : db.rejectedRecordsOf importId = [] :=
      List.filter_eq_nil_iff.mpr fun row member =>
        ne_true_of_eq_false (unowned (wellFormed.rejectedRecords row member))
    exact (congrArg List.length noRows).symm
  · rfl

end

end Statement

/-! ### Runs -/

namespace System

variable {ports : Ports} {config : Config} {state next : State} {action : Action}

theorem Tracks.balanced {job : ClaimedJob} {file : ImportFileLocation} {sent : Batch}
    {stop : Option Nat} {locals : Locals} {input : PersistBatchInput} {last : Bool}
    (tracks : Tracks ports job file sent stop (.persistBatch locals input last)) :
    input.processedDelta = input.scored.length + input.rejected.length := by
  obtain ⟨batch, rfl, counted, _⟩ := tracks
  show batch.pendingLineCount = _ + batch.pendingRejected.length
  rw [counted, Batch.size, length_scoredInput]

/-- The batches of a coherent system are balanced. -/
theorem emitted_balanced (coherent : Coherent ports state) {statement : Statement}
    (emits : emitted ports config state action = some statement) : statement.Balanced := by
  cases emitted_origin emits with
  | execute executing calls =>
    rename_i workerId job point reply
    obtain ⟨_, _, file, sent, stop, tracks⟩ := coherent.executing executing
    cases calls with
    | persistBatch => exact Tracks.balanced tracks
    | updateBothJob | updateBothImport | renewLease => trivial
  | create | cancel | reclaim | claimNext | releaseJob | releaseImport => trivial

theorem countersAgree_step (coherent : Coherent ports state) (agree : state.db.CountersAgree)
    (enabled : step ports config state action = some next) : next.db.CountersAgree := by
  intro importId row found
  rcases findImport_step enabled found with ⟨old, foundOld, rfl⟩ | created
  · rw [step_db enabled]
    cases emits : emitted ports config state action with
    | none => exact agree importId old foundOld
    | some statement =>
      exact Statement.countsRows_commit (agree importId old foundOld)
        (emitted_balanced coherent emits)
  · obtain ⟨jobId, storagePath, createdAt, emits, missing, rfl⟩ := created
    rw [step_db enabled, emits]
    have counts : (ImportRepository.newImport importId createdAt state.now).CountsRows state.db :=
      Statement.countsRows_newImport coherent.wellFormed missing createdAt
    exact ⟨counts.accepted, counts.rejected, counts.processed⟩

/-- In every state of every run from empty tables, the counters of every import are the numbers
of its rows. -/
theorem counters_agree (now : Nat) (schedule : List Action) :
    Transition.Always (step ports config) (fun state => state.db.CountersAgree)
      (initial now Database.empty) schedule := by
  refine Transition.always_of_invariant
    (fun state => Coherent ports state ∧ state.db.CountersAgree) ?_
    (fun _ invariant => invariant.2) ?_ schedule
  · exact fun state action next invariant enabled =>
      ⟨coherent_step invariant.1 enabled, countersAgree_step invariant.1 invariant.2 enabled⟩
  · exact ⟨coherent_initial ports now Database.wellFormed_empty, fun _ _ found => nomatch found⟩

end System

end ImportService
