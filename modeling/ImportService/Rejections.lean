/-
This file proves when an import records each of its bad lines once. Rejections go through
a plain insert, so a batch that is committed twice, or an execution that starts again from
the first line, records its bad lines a second time.

An execution reads its file in order, and whatever it has sent is recorded. So the bad
lines that are recorded are all those up to the last one of them (`RecordedInvariant`),
and they are recorded once exactly when every batch comes with bad lines after it.
-/

import ImportService.EffectivelyOnce
import ImportService.Counters

namespace ImportService

open KeyedTable ProcessImportFile TransactionRepository

/-! ### The bad lines of a file -/

/-- Rejected lines come in the order of their numbers. -/
theorem rejected_ascending (ports : Ports) (fallbackProvider : JsString) (lineNumber : Nat)
    (lines : List JsString) :
    ((handleLines ports fallbackProvider lineNumber lines).filterMap
        LineOutcome.record?).Pairwise (fun first second => first.lineNumber < second.lineNumber) ∧
      ∀ record ∈ (handleLines ports fallbackProvider lineNumber lines).filterMap
        LineOutcome.record?, lineNumber < record.lineNumber := by
  induction lines generalizing lineNumber with
  | nil => exact ⟨List.Pairwise.nil, fun _ member => nomatch member⟩
  | cons rawLine rest inductionHypothesis =>
    obtain ⟨ascending, after⟩ := inductionHypothesis (lineNumber + 1)
    rw [handleLines]
    cases outcome : handleLine ports fallbackProvider rawLine (lineNumber + 1) with
    | blank | accepted =>
      exact ⟨ascending, fun record member => Nat.lt_of_succ_lt (after record member)⟩
    | rejected record =>
      have number : record.lineNumber = lineNumber + 1 := lineNumber_of_handleLine outcome
      rw [List.filterMap_cons_some (by rfl : LineOutcome.record? (.rejected record) = some record)]
      constructor
      · refine List.pairwise_cons.mpr ⟨fun other member => ?_, ascending⟩
        rw [number]
        exact after other member
      · intro other member
        rcases List.mem_cons.mp member with rfl | later
        · omega
        · exact Nat.lt_of_succ_lt (after other later)

section

variable {ports : Ports} {file : ImportFileLocation} {sent batch : Batch}
  {handled unread : List JsString} {locals : Locals}

/-- What is sent, the batch that is next, and the bad lines after them. -/
theorem wholeFile_rejected
    (reads : Reads ports file (sent.append batch) handled unread locals) :
    ∃ later, (wholeFile ports file).pendingRejected =
        sent.pendingRejected ++ batch.pendingRejected ++ later ∧
      ((wholeFile ports file).pendingRejected).Pairwise
        fun first second => first.lineNumber < second.lineNumber := by
  obtain ⟨others, whole⟩ := wholeFile_of_reads reads
  refine ⟨locals.pending.pendingRejected ++ others.pendingRejected, ?_, ?_⟩
  · rw [whole, ← List.append_assoc]
    rfl
  · rw [wholeFile, fileBatch, batchOf_pendingRejected]
    exact (rejected_ascending ports _ 0 _).1

/-- A bad line up to one of the batch is in the batch or was sent before. -/
theorem sent_or_batch (reads : Reads ports file (sent.append batch) handled unread locals)
    {last record : RejectedRecordInput} (inBatch : last ∈ batch.pendingRejected)
    (ofFile : record ∈ (wholeFile ports file).pendingRejected)
    (upTo : record.lineNumber ≤ last.lineNumber) :
    record ∈ sent.pendingRejected ∨ record ∈ batch.pendingRejected := by
  obtain ⟨later, whole, ascending⟩ := wholeFile_rejected reads
  rw [whole] at ofFile ascending
  rcases List.mem_append.mp ofFile with first | after
  · exact List.mem_append.mp first
  · have before := (List.pairwise_append.mp ascending).2.2 last
      (List.mem_append_right _ inBatch) record after
    exact absurd before (Nat.not_lt.mpr upTo)

/-- The bad lines of a batch have different numbers. -/
theorem nodup_batch (reads : Reads ports file (sent.append batch) handled unread locals) :
    (batch.pendingRejected.map RejectedRecordInput.lineNumber).Nodup := by
  obtain ⟨later, whole, ascending⟩ := wholeFile_rejected reads
  rw [whole, List.pairwise_append, List.pairwise_append] at ascending
  exact (List.pairwise_map.mpr ascending.1.2.1).imp Nat.ne_of_lt

theorem batch_subset (reads : Reads ports file (sent.append batch) handled unread locals) :
    batch.pendingRejected ⊆ (wholeFile ports file).pendingRejected := by
  obtain ⟨later, whole, _⟩ := wholeFile_rejected reads
  rw [whole]
  exact fun record member => List.mem_append_left _ (List.mem_append_right _ member)

end

/-! ### Runs -/

namespace System

/-- The numbers of the bad lines an import has recorded. -/
def recordedLines (db : Database) (importId : ImportId) : List Nat :=
  (db.rejectedRecordsOf importId).map fun row => row.lineNumber

/-- No two rows have the same import and line number. -/
def RecordsOnce (importId : ImportId) (state : State) : Prop :=
  (recordedLines state.db importId).Nodup

/-- Every bad line of a batch comes after the lines the import has recorded. -/
def RecordsOnward (ports : Ports) (config : Config) (importId : ImportId) (state : State)
    (action : Action) (_ : State) : Prop :=
  ∀ input, emitted ports config state action = some (.persistBatch input) →
    input.importId = importId → ∀ record ∈ input.rejected,
      ∀ lineNumber ∈ recordedLines state.db importId, lineNumber < record.lineNumber

/-- With every line that is recorded, the bad lines before it are. -/
structure RecordedInvariant (ports : Ports) (importId : ImportId) (file : ImportFileLocation)
    (state : State) : Prop where
  once : OnceInvariant ports importId file state
  closed : ∀ lineNumber ∈ recordedLines state.db importId,
    ∀ record ∈ (wholeFile ports file).pendingRejected, record.lineNumber ≤ lineNumber →
      record.lineNumber ∈ recordedLines state.db importId

section

variable {ports : Ports} {config : Config} {state next : State} {action : Action}
  {importId : ImportId} {file : ImportFileLocation}

theorem mem_recordedLines_of_stored {db : Database} {batch : Batch}
    (stored : Stored importId db batch) {record : RejectedRecordInput}
    (member : record ∈ batch.pendingRejected) :
    record.lineNumber ∈ recordedLines db importId :=
  List.mem_map.mpr ⟨rejectedRow importId record,
    List.mem_filter.mpr ⟨stored.rejected record member, beq_self_eq_true importId⟩, rfl⟩

/-- The batch of an import adds the numbers of its bad lines, and nothing else adds any. -/
theorem recordedLines_step (importId : ImportId)
    (enabled : step ports config state action = some next) :
    (∃ input, emitted ports config state action = some (.persistBatch input) ∧
        input.importId = importId ∧
        recordedLines next.db importId =
          recordedLines state.db importId ++
            input.rejected.map RejectedRecordInput.lineNumber) ∨
      (∀ input, emitted ports config state action = some (.persistBatch input) →
          input.importId ≠ importId) ∧
        recordedLines next.db importId = recordedLines state.db importId := by
  unfold recordedLines
  rw [step_db enabled]
  cases emits : emitted ports config state action with
  | none => exact Or.inr ⟨fun _ stores => (nomatch stores), rfl⟩
  | some statement =>
    by_cases ownBatch : ∃ input, statement = .persistBatch input ∧ input.importId = importId
    · obtain ⟨input, rfl, rfl⟩ := ownBatch
      refine Or.inl ⟨input, rfl, rfl, ?_⟩
      rw [committed, (Statement.rows_of_ownBatch state.now state.db input).2, List.map_append,
        rejections, List.map_map]
      rfl
    · have otherBatch : ∀ input, statement = .persistBatch input → input.importId ≠ importId :=
        fun input stores own => ownBatch ⟨input, stores, own⟩
      refine Or.inr ⟨fun input stores => otherBatch input (Option.some.inj stores), ?_⟩
      rw [committed, (Statement.rows_of_otherBatch state.now state.db importId otherBatch).2]

theorem recordedInvariant_step (invariant : RecordedInvariant ports importId file state)
    (enabled : step ports config state action = some next) :
    RecordedInvariant ports importId file next := by
  refine ⟨onceInvariant_step invariant.once enabled, ?_⟩
  rcases recordedLines_step importId enabled with
    ⟨input, emits, own, lines⟩ | ⟨_, same⟩
  · obtain ⟨job, sent, batch, handled, unread, locals, rfl, rfl, reads, stored⟩ :=
      batch_of_emitted invariant.once emits own
    intro lineNumber member record ofFile upTo
    rw [lines] at member ⊢
    rcases List.mem_append.mp member with before | added
    · exact List.mem_append_left _ (invariant.closed lineNumber before record ofFile upTo)
    · obtain ⟨last, inBatch, rfl⟩ := List.mem_map.mp added
      rcases sent_or_batch reads inBatch ofFile upTo with first | here
      · exact List.mem_append_left _ (mem_recordedLines_of_stored stored first)
      · exact List.mem_append_right _ (List.mem_map_of_mem here)
  · rw [same]
    exact invariant.closed

/-- A batch keeps the recorded lines distinct exactly when its bad lines come after them. -/
theorem recordsOnce_step_iff (invariant : RecordedInvariant ports importId file state)
    (once : RecordsOnce importId state)
    (enabled : step ports config state action = some next) :
    RecordsOnce importId next ↔ RecordsOnward ports config importId state action next := by
  rcases recordedLines_step importId enabled with
    ⟨input, emits, own, lines⟩ | ⟨noBatch, same⟩
  · obtain ⟨job, sent, batch, handled, unread, locals, rfl, rfl, reads, stored⟩ :=
      batch_of_emitted invariant.once emits own
    unfold RecordsOnce
    rw [lines, List.nodup_append']
    constructor
    · rintro ⟨_, _, disjoint⟩ other emitsOther _ record member lineNumber recorded
      rw [emits] at emitsOther
      cases emitsOther
      by_contra notAfter
      have again := invariant.closed lineNumber recorded record (batch_subset reads member)
        (Nat.not_lt.mp notAfter)
      exact disjoint again (List.mem_map_of_mem member)
    · intro onward
      refine ⟨once, nodup_batch reads, fun lineNumber recorded added => ?_⟩
      obtain ⟨record, member, rfl⟩ := List.mem_map.mp added
      exact Nat.lt_irrefl _ (onward _ emits rfl record member _ recorded)
  · unfold RecordsOnce
    rw [same]
    exact ⟨fun _ input emits own => absurd own (noBatch input emits), fun _ => once⟩

/-- Along every run over tables in which the import has no row yet, with crashes, restarts and
retries of any number: its bad lines are recorded once in every state exactly when every batch
comes with bad lines after those that are recorded. -/
theorem recorded_once_iff (now : Nat) {db : Database} (wellFormed : db.WellFormed)
    (distinct : (db.transactions.map TransactionRow.key).Nodup)
    (located : ImportFileRepository.findByImportId importId db = some file)
    (ownsNothing : ∀ row ∈ db.transactions, row.importId ≠ importId)
    (recordsNothing : db.rejectedRecordsOf importId = []) (schedule : List Action) :
    Transition.Always (step ports config) (RecordsOnce importId) (initial now db) schedule ↔
      Transition.Every (step ports config) (RecordsOnward ports config importId) (initial now db)
        schedule := by
  have noLines : recordedLines (initial now db).db importId = [] := by
    rw [recordedLines, initial, recordsNothing, List.map_nil]
  refine Transition.always_iff_every (RecordedInvariant ports importId file)
    (fun _ _ _ invariant enabled => recordedInvariant_step invariant enabled)
    (fun _ _ _ invariant once enabled => recordsOnce_step_iff invariant once enabled) ?_ ?_ schedule
  · exact
      { once :=
          { coherent := coherent_initial ports now wellFormed
            distinct := distinct
            located := located
            owned := fun row member own => absurd own (ownsNothing row member)
            executions := fun _ _ _ executing => nomatch executing }
        closed := by
          rw [noLines]
          exact fun _ member => nomatch member }
  · rw [RecordsOnce, noLines]
    exact List.nodup_nil

end

/-! ### A retry after a commit -/

/-- Every file holds one line, which is no JSON. -/
def badLinePorts : Ports :=
  { emptyFilePorts with
    readLines := fun _ => [JsString.ofString "x"]
    countLines := fun _ => 1 }

/-- Worker 1 claims the import and comes to its only batch. The batch is committed, its
acknowledgement is lost, and the retry policy runs it again. -/
def retriedBatch : List Action :=
  startUp 1 ++ [.work 1 (.claimNext 1 .acknowledged)] ++ replies 1 6 ++
    [.work 1 (.reply (.retry true)), .work 1 (.reply .ok)]

theorem recorded_once_iff_retriedBatch :
    Transition.Always (step badLinePorts defaultConfig) (RecordsOnce 1) (initial 0 uploaded)
        retriedBatch ↔
      Transition.Every (step badLinePorts defaultConfig)
        (RecordsOnward badLinePorts defaultConfig 1) (initial 0 uploaded) retriedBatch := by
  have fresh : (Statement.create 1 1 [] 0).Admissible Database.empty :=
    show System.isFresh 1 1 Database.empty = true by decide
  have located : ImportFileRepository.findByImportId 1 uploaded = some ⟨[], none⟩ := rfl
  refine recorded_once_iff 0 (Statement.wellFormed_commit Database.wellFormed_empty fresh) ?_
    located ?_ rfl retriedBatch
  · exact List.nodup_nil
  · exact fun _ member => nomatch member

/-- A batch that is run again after its commit records its bad line twice. -/
theorem bad_line_recorded_twice :
    ¬ Transition.Always (step badLinePorts defaultConfig) (RecordsOnce 1) (initial 0 uploaded)
      retriedBatch := by
  intro always
  have trace : (Transition.run (step badLinePorts defaultConfig) (initial 0 uploaded)
      retriedBatch).map (fun state => recordedLines state.db 1) = some [1, 1] := by
    decide +kernel
  obtain ⟨state, once, lines⟩ := always.observe (fun state => recordedLines state.db 1) trace
  rw [RecordsOnce, lines] at once
  exact absurd once (by decide)

end System

end ImportService
