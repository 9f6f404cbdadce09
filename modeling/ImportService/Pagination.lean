/-
This file proves that following `nextCursor` walks once through the rejected records of
an import. A page of `getRejectedRecords` is a keyset page (`getRejectedRecords_eq`):
the record it takes beyond the limit only tells whether there are more. Records that are
inserted during the walk land before the cursor or past it, so they can be missed, but
they push nothing the walk has still to see.
-/

import ImportService.ImportQuery
import ImportService.Lib.KeysetPage
import ImportService.Lib.Transition
import ImportService.Repositories

namespace ImportService

open KeysetPage ImportQuery GetRejectedRecordsUseCase

namespace Pagination

/-! ### Pages -/

theorem clampLimit_pos (requested : Option JsNumber) : 0 < clampLimit requested := by
  cases requested with
  | none => exact Nat.succ_pos 49
  | some number =>
    cases number with
    | finite value =>
      rw [clampLimit]
      split
      · exact Nat.succ_pos 49
      · rename_i atLeastOne
        refine Nat.lt_min.mpr ⟨?_, Nat.succ_pos 199⟩
        have whole : 1 ≤ ⌊value⌋ := Int.le_floor.mpr (by exact_mod_cast not_lt.mp atLeastOne)
        omega
    | infinite negative => exact Nat.succ_pos 49
    | nan => exact Nat.succ_pos 49

section

variable {Id : Type}

/-- The records of an import. -/
def recordsOf (importId : ImportId) (table : List (RejectedRecord Id)) :
    List (RejectedRecord Id) := table.filter fun record => record.importId == importId

theorem recordsOf_subset {importId : ImportId} {first second : List (RejectedRecord Id)}
    (grown : first ⊆ second) :
    recordsOf importId first ⊆ recordsOf importId second := by
  intro record member
  obtain ⟨inFirst, own⟩ := List.mem_filter.mp member
  exact List.mem_filter.mpr ⟨grown inFirst, own⟩

theorem pageOf_probe (limit : Nat) (rows : List (RejectedRecord Id)) :
    (let hasMore := decide (limit < rows.length)
    let items := if hasMore then rows.take limit else rows
    { items := items.map RejectedRecord.toItem
      nextCursor := if hasMore then items.getLast?.map RejectedRecord.id else none :
        RejectedRecordPage Id }) =
      { items := (page RejectedRecord.id limit rows).items.map RejectedRecord.toItem
        nextCursor := (page RejectedRecord.id limit rows).next } := by
  by_cases more : limit < rows.length
  · simp [page, more]
  · simp [page, more, List.take_of_length_le (Nat.le_of_not_lt more)]

variable [LinearOrder Id] {isEmpty : Id → Bool}

theorem isAfter_eq_isPast {cursor : Option Id} (real : ∀ id, cursor = some id → isEmpty id = false)
    (record : RejectedRecord Id) :
    isAfter isEmpty cursor record = isPast RejectedRecord.id cursor record := by
  cases cursor with
  | none => rfl
  | some id => rw [isAfter, real id rfl, Bool.false_or]; rfl

/-- A page of rejected records is the next keyset page of the records of the import. -/
theorem getRejectedRecords_eq (table : List (RejectedRecord Id)) (importId : ImportId)
    {cursor : Option Id} (real : ∀ id, cursor = some id → isEmpty id = false) (limit : Nat) :
    let keysetPage := page RejectedRecord.id limit
      (remaining RejectedRecord.id cursor (recordsOf importId table))
    getRejectedRecords isEmpty table importId cursor limit =
      { items := keysetPage.items.map RejectedRecord.toItem, nextCursor := keysetPage.next } := by
  have selected : (table.filter fun record =>
        record.importId == importId && isAfter isEmpty cursor record) =
      (recordsOf importId table).filter (isPast RejectedRecord.id cursor) := by
    rw [recordsOf, List.filter_filter]
    refine List.filter_congr fun record _ => ?_
    rw [isAfter_eq_isPast real, Bool.and_comm]
  intro keysetPage
  simp only [getRejectedRecords, selected, keysetPage]
  rw [← page_take_succ, ← pageOf_probe]
  rfl

end

/-! ### A walk -/

/-- A table of rejected records: ids are unique, and no id is empty. -/
structure RejectedTable (Id : Type) (isEmpty : Id → Bool) where
  records : List (RejectedRecord Id)
  distinct : (records.map RejectedRecord.id).Nodup
  real : ∀ record ∈ records, isEmpty record.id = false

variable {Id : Type} {isEmpty : Id → Bool}

theorem distinct_recordsOf (table : RejectedTable Id isEmpty) (importId : ImportId) :
    ((recordsOf importId table.records).map RejectedRecord.id).Nodup :=
  table.distinct.sublist (List.filter_sublist.map RejectedRecord.id)

variable [LinearOrder Id]

/-- A record may be inserted under an id that is not empty and not in use. -/
def RejectedTable.IsFresh (table : RejectedTable Id isEmpty) (record : RejectedRecord Id) : Prop :=
  isEmpty record.id = false ∧ record.id ∉ table.records.map RejectedRecord.id

instance (table : RejectedTable Id isEmpty) (record : RejectedRecord Id) :
    Decidable (table.IsFresh record) := inferInstanceAs (Decidable (_ ∧ _))

/-- A record comes to the table. -/
def RejectedTable.insert (table : RejectedTable Id isEmpty) (record : RejectedRecord Id)
    (fresh : table.IsFresh record) : RejectedTable Id isEmpty where
  records := table.records ++ [record]
  distinct := by
    rw [List.map_append, List.map_singleton, ← List.concat_eq_append, List.nodup_concat]
    exact ⟨fresh.2, table.distinct⟩
  real := by
    intro member inTable
    rcases List.mem_append.mp inTable with old | added
    · exact table.real member old
    · rw [List.mem_singleton.mp added]
      exact fresh.1

/-- A walk that has followed `nextCursor` so far. -/
structure Walk (Id : Type) (isEmpty : Id → Bool) where
  table : RejectedTable Id isEmpty
  cursor : Option Id
  finished : Bool
  collected : List (RejectedRecordItem Id)

/-- A walk that has asked for nothing. -/
def Walk.start (table : RejectedTable Id isEmpty) : Walk Id isEmpty where
  table := table
  cursor := none
  finished := false
  collected := []

/-- What happens to a walk. -/
inductive WalkAction (Id : Type)
  | insert (record : RejectedRecord Id)
  | request (requestedLimit : Option JsNumber)

/-- A walk after a page. -/
def Walk.turn (walk : Walk Id isEmpty) (result : RejectedRecordPage Id) : Walk Id isEmpty :=
  { walk with
    cursor := result.nextCursor
    finished := result.nextCursor.isNone
    collected := walk.collected ++ result.items }

/-- A record is inserted, or the walk requests its next page. -/
def step (imports : List ImportRow) (importId : ImportId) (walk : Walk Id isEmpty) :
    WalkAction Id → Option (Walk Id isEmpty)
  | .insert record =>
      if fresh : walk.table.IsFresh record then
        some { walk with table := walk.table.insert record fresh }
      else none
  | .request requestedLimit =>
      if walk.finished then none
      else
        match execute isEmpty imports walk.table.records importId walk.cursor requestedLimit with
        | .error _ => none
        | .ok result => some (walk.turn result)

/-- The first requests of a sequence of limits. -/
def requests {Id : Type} (limits : Nat → Option JsNumber) (count : Nat) : List (WalkAction Id) :=
  (List.range count).map fun request => .request (limits request)

theorem requests_succ {Id : Type} (limits : Nat → Option JsNumber) (count : Nat) :
    (requests limits (count + 1) : List (WalkAction Id)) =
      .request (limits 0) :: requests (fun request => limits (request + 1)) count := by
  rw [requests, List.range_succ_eq_map, List.map_cons, List.map_map]
  rfl

/-! ### What a walk has seen -/

variable {imports : List ImportRow} {importId : ImportId}

/-- The page a request is answered with. -/
theorem step_request {walk next : Walk Id isEmpty} {requestedLimit : Option JsNumber}
    (real : ∀ id, walk.cursor = some id → isEmpty id = false)
    (enabled : step imports importId walk (.request requestedLimit) = some next) :
    let keysetPage := page RejectedRecord.id (clampLimit requestedLimit)
      (remaining RejectedRecord.id walk.cursor (recordsOf importId walk.table.records))
    walk.finished = false ∧ next =
      { walk with
        cursor := keysetPage.next
        finished := keysetPage.next.isNone
        collected := walk.collected ++ keysetPage.items.map RejectedRecord.toItem } := by
  rw [step] at enabled
  split at enabled
  · cases enabled
  · rename_i unfinished
    rw [execute] at enabled
    cases found : KeyedTable.lookup ImportRow.id imports importId with
    | none =>
      rw [found] at enabled
      cases enabled
    | some row =>
      rw [found] at enabled
      rw [← Option.some.inj enabled, getRejectedRecords_eq _ _ real]
      exact ⟨eq_false_of_ne_true unfinished, rfl⟩

/-- What a walk over the records of an import has seen of a table it started on. -/
structure Walked (importId : ImportId) (table : RejectedTable Id isEmpty)
    (walk : Walk Id isEmpty) : Prop where
  grown : table.records ⊆ walk.table.records
  real : ∀ id, walk.cursor = some id → isEmpty id = false
  ordered : walk.collected.Pairwise fun first second => first.id < second.id
  own : ∀ item ∈ walk.collected, ∃ record ∈ recordsOf importId walk.table.records,
    record.toItem = item
  upTo : walk.finished = false → ∀ item ∈ walk.collected, ∃ last, walk.cursor = some last ∧
    item.id ≤ last
  seen : ∀ record ∈ recordsOf importId table.records, record.toItem ∈ walk.collected ∨
    walk.finished = false ∧ isPast RejectedRecord.id walk.cursor record = true

theorem walked_start (importId : ImportId) (table : RejectedTable Id isEmpty) :
    Walked importId table (Walk.start table) where
  grown := List.Subset.refl _
  real := by
    intro id impossible
    cases impossible
  ordered := List.Pairwise.nil
  own := by
    intro item impossible
    cases impossible
  upTo := by
    intro _ item impossible
    cases impossible
  seen := fun _ _ => Or.inr ⟨rfl, rfl⟩

theorem walked_insert {table : RejectedTable Id isEmpty} {walk : Walk Id isEmpty}
    (walked : Walked importId table walk) {record : RejectedRecord Id}
    (fresh : walk.table.IsFresh record) :
    Walked importId table { walk with table := walk.table.insert record fresh } where
  grown := fun _ member => List.mem_append_left _ (walked.grown member)
  real := walked.real
  ordered := walked.ordered
  own := by
    intro item member
    obtain ⟨old, inTable, same⟩ := walked.own item member
    exact ⟨old, recordsOf_subset (List.subset_append_left _ _) inTable, same⟩
  upTo := walked.upTo
  seen := walked.seen

/-- What lies past the cursor comes after everything that has been collected. -/
theorem Walked.lt_of_isPast {table : RejectedTable Id isEmpty} {walk : Walk Id isEmpty}
    (walked : Walked importId table walk) (unfinished : walk.finished = false)
    {item : RejectedRecordItem Id} (collected : item ∈ walk.collected) {record : RejectedRecord Id}
    (past : isPast RejectedRecord.id walk.cursor record = true) : item.id < record.id := by
  obtain ⟨last, isCursor, below⟩ := walked.upTo unfinished item collected
  rw [isCursor] at past
  exact below.trans_lt (of_decide_eq_true past)

theorem walked_turn {table : RejectedTable Id isEmpty} {walk : Walk Id isEmpty}
    (walked : Walked importId table walk) (unfinished : walk.finished = false) {limit : Nat}
    (positive : 0 < limit) :
    let keysetPage := page RejectedRecord.id limit
      (remaining RejectedRecord.id walk.cursor (recordsOf importId walk.table.records))
    Walked importId table
      { walk with
        cursor := keysetPage.next
        finished := keysetPage.next.isNone
        collected := walk.collected ++ keysetPage.items.map RejectedRecord.toItem } := by
  intro keysetPage
  have ascending := ascending_remaining (distinct_recordsOf walk.table importId) walk.cursor
  have fromTable : ∀ record ∈ keysetPage.items,
      record ∈ recordsOf importId walk.table.records ∧
        isPast RejectedRecord.id walk.cursor record = true :=
    fun record member => mem_remaining.mp (List.mem_of_mem_take member)
  constructor
  · exact walked.grown
  · intro last next
    obtain ⟨final, member, rfl⟩ := exists_item_of_next next
    exact walk.table.real final (List.mem_filter.mp (fromTable final member).1).1
  · refine List.pairwise_append.mpr ⟨walked.ordered, ?_, ?_⟩
    · exact List.pairwise_map.mpr (ascending_items ascending limit)
    · intro item collected shown member
      obtain ⟨record, onPage, rfl⟩ := List.mem_map.mp member
      exact walked.lt_of_isPast unfinished collected (fromTable record onPage).2
  · intro item member
    rcases List.mem_append.mp member with collected | shown
    · exact walked.own item collected
    · obtain ⟨record, onPage, rfl⟩ := List.mem_map.mp shown
      exact ⟨record, (fromTable record onPage).1, rfl⟩
  · intro goesOn item member
    obtain ⟨last, next⟩ := Option.isSome_iff_exists.mp (Option.isNone_eq_false_iff.mp goesOn)
    refine ⟨last, next, ?_⟩
    rcases List.mem_append.mp member with collected | shown
    · obtain ⟨final, onPage, rfl⟩ := exists_item_of_next next
      exact (walked.lt_of_isPast unfinished collected (fromTable final onPage).2).le
    · obtain ⟨record, onPage, rfl⟩ := List.mem_map.mp shown
      exact le_next ascending next onPage
  · intro record inTable
    rcases walked.seen record inTable with collected | ⟨_, past⟩
    · exact Or.inl (List.mem_append_left _ collected)
    · have pending := mem_remaining.mpr ⟨recordsOf_subset walked.grown inTable, past⟩
      rcases covers ascending positive pending with onPage | ⟨last, next, beyond⟩
      · exact Or.inl (List.mem_append_right _ (List.mem_map_of_mem onPage))
      · refine Or.inr ⟨?_, ?_⟩
        · show keysetPage.next.isNone = false
          rw [show keysetPage.next = some last from next]
          rfl
        · show isPast RejectedRecord.id keysetPage.next record = true
          rw [show keysetPage.next = some last from next]
          exact decide_eq_true beyond

theorem walked_step {table : RejectedTable Id isEmpty} {walk next : Walk Id isEmpty}
    {action : WalkAction Id} (walked : Walked importId table walk)
    (enabled : step imports importId walk action = some next) : Walked importId table next := by
  cases action with
  | insert record =>
    rw [step] at enabled
    split at enabled
    · rename_i fresh
      rw [← Option.some.inj enabled]
      exact walked_insert walked fresh
    · cases enabled
  | request requestedLimit =>
    obtain ⟨unfinished, rfl⟩ := step_request walked.real enabled
    exact walked_turn walked unfinished (clampLimit_pos requestedLimit)

/-! ### Walks over an unchanged table -/

/-- Requests alone come to the end of the walk, and collect all that remains. -/
theorem requests_finish (known : (KeyedTable.lookup ImportRow.id imports importId).isSome = true)
    (bound : Nat) {table : RejectedTable Id isEmpty} {walk : Walk Id isEmpty}
    (walked : Walked importId table walk) (unfinished : walk.finished = false)
    (limits : Nat → Option JsNumber)
    (few : (remaining RejectedRecord.id walk.cursor
      (recordsOf importId walk.table.records)).length < bound) :
    ∃ count last, Transition.run (step imports importId) walk (requests limits count) = some last ∧
      last.finished = true ∧ last.collected = walk.collected ++
        (remaining RejectedRecord.id walk.cursor (recordsOf importId walk.table.records)).map
          RejectedRecord.toItem := by
  obtain ⟨row, found⟩ := Option.isSome_iff_exists.mp known
  induction bound generalizing walk limits with
  | zero => exact absurd few (Nat.not_lt_zero _)
  | succ bound inductionHypothesis =>
    obtain ⟨next, enabled⟩ :
        ∃ next, step imports importId walk (.request (limits 0)) = some next := by
      simp only [step, unfinished, execute, found]
      exact ⟨_, rfl⟩
    obtain ⟨_, turned⟩ := step_request walked.real enabled
    cases goesOn : (page RejectedRecord.id (clampLimit (limits 0))
        (remaining RejectedRecord.id walk.cursor
          (recordsOf importId walk.table.records))).next with
    | none =>
      refine ⟨1, next, ?_, ?_, ?_⟩
      · rw [requests_succ, Transition.run, enabled]
        rfl
      · rw [turned, goesOn]
        rfl
      · rw [turned, items_of_next_eq_none (clampLimit_pos _) goesOn]
    | some last =>
      have rest := remaining_next (distinct_recordsOf walk.table importId) goesOn
      have more := length_of_next_eq_some goesOn
      have cursor : next.cursor = some last := by rw [turned, goesOn]
      have table : next.table = walk.table := by rw [turned]
      have stillUnfinished : next.finished = false := by
        rw [turned, goesOn]
        rfl
      have fewer : (remaining RejectedRecord.id next.cursor
          (recordsOf importId next.table.records)).length < bound := by
        have positive := clampLimit_pos (limits 0)
        rw [cursor, table, rest, List.length_drop]
        omega
      obtain ⟨count, final, reaches, finished, collected⟩ :=
        inductionHypothesis (walked_step walked enabled) stillUnfinished
          (fun request => limits (request + 1)) fewer
      refine ⟨count + 1, final, ?_, finished, ?_⟩
      · rw [requests_succ, Transition.run, enabled]
        exact reaches
      · rw [collected, cursor, table, rest, turned, List.append_assoc, ← List.map_append, page,
          List.take_append_drop]

/-! ### The walk as a whole -/

/-- The rejected records of an import can be walked through once, starting on a table. -/
structure WalksOnce (imports : List ImportRow) (importId : ImportId)
    (table : RejectedTable Id isEmpty) : Prop where
  /-- No record is returned twice, and ids increase. -/
  ordered : ∀ schedule walk,
    Transition.run (step imports importId) (Walk.start table) schedule = some walk →
      walk.collected.Pairwise fun first second => first.id < second.id
  /-- Only records of the import are returned. -/
  own : ∀ schedule walk,
    Transition.run (step imports importId) (Walk.start table) schedule = some walk →
      ∀ item ∈ walk.collected, ∃ record ∈ recordsOf importId walk.table.records,
        record.toItem = item
  /-- A walk that has come to its end has returned every record there was at its start. -/
  complete : ∀ schedule walk,
    Transition.run (step imports importId) (Walk.start table) schedule = some walk →
      walk.finished = true →
        ∀ record ∈ recordsOf importId table.records, record.toItem ∈ walk.collected
  /-- Without insertions the walk comes to its end with the records of the import. -/
  ends : (KeyedTable.lookup ImportRow.id imports importId).isSome = true →
    ∀ limits : Nat → Option JsNumber, ∃ count last,
      Transition.run (step imports importId) (Walk.start table) (requests limits count) =
        some last ∧ last.finished = true ∧ last.collected =
          (sorted RejectedRecord.id (recordsOf importId table.records)).map RejectedRecord.toItem

theorem walked_run {table : RejectedTable Id isEmpty} {schedule : List (WalkAction Id)}
    {walk : Walk Id isEmpty}
    (reaches : Transition.run (step imports importId) (Walk.start table) schedule = some walk) :
    Walked importId table walk := by
  have reachable : Transition.Reachable (step imports importId) (Walk.start table) walk :=
    ⟨schedule, reaches⟩
  exact reachable.invariant (Walked importId table) (walked_start importId table)
    fun _ _ _ walked enabled => walked_step walked enabled

/-- Whatever limits are requested and whatever is inserted meanwhile, following `nextCursor`
walks through the rejected records of an import once. -/
theorem pagination_walks_once (imports : List ImportRow) (importId : ImportId)
    (table : RejectedTable Id isEmpty) : WalksOnce imports importId table where
  ordered := fun _ _ reaches => (walked_run reaches).ordered
  own := fun _ _ reaches => (walked_run reaches).own
  complete := by
    intro schedule walk reaches finished record member
    rcases (walked_run reaches).seen record member with collected | ⟨unfinished, _⟩
    · exact collected
    · rw [finished] at unfinished
      cases unfinished
  ends := by
    intro known limits
    obtain ⟨count, last, reaches, finished, collected⟩ := requests_finish known _
      (walked_start importId table) rfl limits (Nat.lt_succ_self _)
    refine ⟨count, last, reaches, finished, ?_⟩
    rw [collected, ← remaining_none]
    rfl

/-- A record of a line. -/
def rejectedUnder (id importId : Nat) : RejectedRecord Nat where
  lineNumber := id
  errorCode := .line .INVALID_JSON
  message := []
  rawValueTruncated := []
  importId := importId
  id := id
  createdAt := 0

/-- Three records of the first import, and one of the second between them. -/
def twoImports : RejectedTable Nat (· == 0) where
  records := [rejectedUnder 1 1, rejectedUnder 2 2, rejectedUnder 5 1, rejectedUnder 9 1]
  distinct := by decide
  real := by decide

/-- The two imports. -/
def bothImports : List ImportRow :=
  [ImportRepository.newImport 1 0 0, ImportRepository.newImport 2 0 0]

/-- Between the two pages come a record of each import past the cursor and one before it. -/
def insertedBetween : List (WalkAction Nat) :=
  [.request (some (.finite 2)), .insert (rejectedUnder 7 1), .insert (rejectedUnder 8 2),
    .insert (rejectedUnder 3 1), .request (some (.finite 2))]

/-- What came past the cursor is on the second page, and what came before it is missed. -/
theorem pagination_walks_once_insertedBetween :
    ∃ walk, Transition.run (step bothImports 1) (Walk.start twoImports) insertedBetween =
        some walk ∧
      walk.collected.map RejectedRecordItem.id = [1, 5, 7, 9] ∧ walk.finished = true ∧
      WalksOnce bothImports 1 twoImports := by
  have trace : (Transition.run (step bothImports 1) (Walk.start twoImports)
      insertedBetween).map (fun walk =>
        (walk.collected.map RejectedRecordItem.id, walk.finished)) = some ([1, 5, 7, 9], true) := by
    have limit : clampLimit (some (.finite 2)) = 2 := by decide +kernel
    simp [insertedBetween, Transition.run, step, execute, bothImports, KeyedTable.lookup,
      ImportRepository.newImport, getRejectedRecords, limit, twoImports, rejectedUnder,
      Walk.start, Walk.turn, isAfter, RejectedTable.IsFresh, RejectedTable.insert, List.mergeSort,
      RejectedRecord.toItem]
  obtain ⟨walk, reaches, seen⟩ := Option.map_eq_some_iff.mp trace
  obtain ⟨collected, finished⟩ := Prod.mk.inj seen
  exact ⟨walk, reaches, collected, finished, pagination_walks_once _ 1 twoImports⟩

end Pagination

end ImportService
