/-
This file proves that what clients are told of an import never goes back. A request to one of the
routes reads several snapshots of the tables, and nothing holds the tables still between them. But
the tables only grow, so whatever a reply says lies between the tables as they were when its request
came and as they are when it is given (`Body.Within`). A request that comes after a reply has been
given therefore gets a reply that says no less (`replies_never_go_back`).

The statement is about any two routes: the numbers of a summary, whose queries may find different
tables, are compared with those of a status that was asked for before or after it.
-/

import ImportService.ImportHistory
import ImportService.ImportRoutes
import ImportService.Pagination
import ImportService.Summary

namespace ImportService

open KeyedTable ImportQuery

/-! ### Counters and rows -/

/-- The duplicates of an import, of which there are no rows. -/
def Database.duplicatesOf (db : Database) (importId : ImportId) : Nat :=
  ((db.findImport importId).map ImportRow.duplicateCount).getD 0

section

variable {db before after : Database} {importId : ImportId}

/-- The counters of an import are the numbers of its rows, also when there is no such import. -/
theorem Database.counts_eq (wellFormed : db.WellFormed) (agree : db.CountersAgree)
    (importId : ImportId) :
    ((db.findImport importId).map ImportRow.acceptedCount).getD 0 =
        (db.transactionsOf importId).length ∧
      ((db.findImport importId).map ImportRow.rejectedCount).getD 0 =
        (db.rejectedRecordsOf importId).length := by
  cases found : db.findImport importId with
  | some row =>
    have counts := agree importId row found
    rw [← lookup_key ImportRow.id found]
    exact ⟨counts.accepted, counts.rejected⟩
  | none =>
    have unowned {owner : ImportId} (known : (db.findImport owner).isSome = true) :
        ¬(owner == importId) = true := by
      intro own
      rw [beq_iff_eq.mp own, found] at known
      cases known
    have noTransactions : db.transactionsOf importId = [] :=
      List.filter_eq_nil_iff.mpr fun row member => unowned (wellFormed.transactions row member)
    have noRejections : db.rejectedRecordsOf importId = [] :=
      List.filter_eq_nil_iff.mpr fun row member => unowned (wellFormed.rejectedRecords row member)
    rw [noTransactions, noRejections]
    exact ⟨rfl, rfl⟩

theorem Database.Grows.transactionsOf (grows : before.Grows after) (importId : ImportId) :
    (before.transactionsOf importId).length ≤ (after.transactionsOf importId).length :=
  (grows.transactions.sublist.filter _).length_le

theorem Database.Grows.rejectedRecordsOf (grows : before.Grows after) (importId : ImportId) :
    (before.rejectedRecordsOf importId).length ≤ (after.rejectedRecordsOf importId).length :=
  (grows.rejectedRecords.sublist.filter _).length_le

theorem Database.Grows.known (grows : before.Grows after)
    (known : (before.findImport importId).isSome = true) :
    (after.findImport importId).isSome = true := by
  obtain ⟨row, found⟩ := Option.isSome_iff_exists.mp known
  obtain ⟨new, foundNew, _⟩ := grows.imports importId row found
  rw [foundNew]
  rfl

theorem Database.Grows.missing (grows : before.Grows after)
    (missing : after.findImport importId = none) : before.findImport importId = none := by
  cases found : before.findImport importId with
  | none => rfl
  | some row =>
    obtain ⟨new, foundNew, _⟩ := grows.imports importId row found
    rw [missing] at foundNew
    cases foundNew

theorem Database.Grows.duplicatesOf (grows : before.Grows after) (importId : ImportId) :
    before.duplicatesOf importId ≤ after.duplicatesOf importId := by
  cases found : before.findImport importId with
  | none =>
    rw [Database.duplicatesOf, found]
    exact Nat.zero_le _
  | some row =>
    obtain ⟨new, foundNew, moves⟩ := grows.imports importId row found
    rw [Database.duplicatesOf, Database.duplicatesOf, found, foundNew]
    exact moves.counters.2.2.2

end

/-! ### What a reply says -/

/-- What a later status can be. -/
structure ImportStatusDto.Grows (earlier later : ImportStatusDto) : Prop where
  processed : earlier.processedCount ≤ later.processedCount
  total : earlier.totalRecords = 0 ∨ later.totalRecords = earlier.totalRecords
  started : earlier.startedAt.isSome = true → later.startedAt.isSome = true
  completed : earlier.completedAt.isSome = true → later.completedAt.isSome = true
  failed : earlier.failureReason.isSome = true → later.failureReason.isSome = true

/-- What every status is. -/
structure ImportStatusDto.Sound (dto : ImportStatusDto) : Prop where
  processed : dto.processedCount = dto.acceptedCount + dto.rejectedCount + dto.duplicateCount
  started : dto.status = .PROCESSING → dto.startedAt.isSome = true
  completed : dto.status.isTerminal = true → dto.completedAt.isSome = true
  failed : dto.status = .FAILED → dto.failureReason.isSome = true

theorem ImportRow.Grows.dto {old new : ImportRow} (grows : old.Grows new) :
    (ImportStatusDto.ofRecord old).Grows (ImportStatusDto.ofRecord new) where
  processed := grows.counters.1
  total := grows.total
  started := by simpa [ImportStatusDto.ofRecord] using grows.started
  completed := by simpa [ImportStatusDto.ofRecord] using grows.completed
  failed := grows.failed

namespace ImportRoutes

section

variable {Id : Type}

/-- The numbers of accepted records that a reply shows. -/
def Body.acceptedCounts : Body Id → List Nat
  | .status dto => [dto.acceptedCount]
  | .summary dto =>
      [dto.totalTransactions, dto.totals.accepted,
        (dto.byCurrency.map CurrencyBreakdown.count).sum,
        (dto.byRiskLevel.map RiskBreakdown.count).sum]
  | .rejections _ | .cancelled _ _ => []

/-- The counts of duplicates that a body tells. -/
def Body.duplicateCounts : Body Id → List Nat
  | .status dto => [dto.duplicateCount]
  | .summary dto => [dto.totals.duplicated]
  | .rejections _ | .cancelled _ _ => []

/-- The numbers of rejected records that a reply shows. A page shows as many as it lists. -/
def Body.rejectedCounts : Body Id → List Nat
  | .status dto => [dto.rejectedCount]
  | .summary dto => [dto.totals.rejected]
  | .rejections dto => [dto.items.length]
  | .cancelled _ _ => []

/-- Whether these are all rejected records: a page must be the first one and the last one. -/
def Body.showsAll (route : Route Id) : Body Id → Bool
  | .rejections dto =>
      match route with
      | .get (.getRejections none _) => dto.nextCursor.isNone
      | _ => false
  | .status _ | .summary _ | .cancelled _ _ => true

/-- A reply says what was so at some time between two states of the tables. -/
structure Body.Within (route : Route Id) (importId : ImportId) (floor current : Database)
    (body : Body Id) : Prop where
  known : (current.findImport importId).isSome = true
  accepted : ∀ count ∈ body.acceptedCounts,
    (floor.transactionsOf importId).length ≤ count ∧
      count ≤ (current.transactionsOf importId).length
  rejected : ∀ count ∈ body.rejectedCounts, count ≤ (current.rejectedRecordsOf importId).length
  allRejected : body.showsAll route = true → ∀ count ∈ body.rejectedCounts,
    (floor.rejectedRecordsOf importId).length ≤ count
  duplicates : ∀ count ∈ body.duplicateCounts,
    floor.duplicatesOf importId ≤ count ∧ count ≤ current.duplicatesOf importId
  status : ∀ dto, body = .status dto → dto.Sound ∧ ∃ record : ImportRecord,
    dto = ImportStatusDto.ofRecord record ∧
      (∀ row, floor.findImport importId = some row → row.Grows record) ∧
      ∃ row, current.findImport importId = some row ∧ record.Grows row

/-- A later reply, to a request for a route, says no less than an earlier one. -/
structure Body.SaysNoLess (route : Route Id) (earlier later : Body Id) : Prop where
  accepted : ∀ count ∈ earlier.acceptedCounts, ∀ other ∈ later.acceptedCounts, count ≤ other
  rejected : later.showsAll route = true →
    ∀ count ∈ earlier.rejectedCounts, ∀ other ∈ later.rejectedCounts, count ≤ other
  duplicates : ∀ count ∈ earlier.duplicateCounts, ∀ other ∈ later.duplicateCounts, count ≤ other
  status : ∀ first second, earlier = .status first → later = .status second → first.Grows second

variable {route otherRoute : Route Id} {importId : ImportId} {floor current next : Database}
  {body later : Body Id}

theorem Body.Within.mono (within : body.Within route importId floor current)
    (grows : current.Grows next) : body.Within route importId floor next where
  known := grows.known within.known
  accepted := fun count member =>
    ⟨(within.accepted count member).1,
      (within.accepted count member).2.trans (grows.transactionsOf importId)⟩
  rejected := fun count member =>
    (within.rejected count member).trans (grows.rejectedRecordsOf importId)
  allRejected := within.allRejected
  duplicates := fun count member =>
    ⟨(within.duplicates count member).1,
      (within.duplicates count member).2.trans (grows.duplicatesOf importId)⟩
  status := by
    intro dto isStatus
    obtain ⟨sound, record, isRecord, since, row, found, becomes⟩ := within.status dto isStatus
    obtain ⟨new, foundNew, moves⟩ := grows.imports importId row found
    exact ⟨sound, record, isRecord, since, new, foundNew, becomes.trans moves⟩

/-- What was said up to some tables is no more than what is said from them on. -/
theorem Body.Within.saysNoLess (within : body.Within route importId floor current)
    (after : later.Within otherRoute importId current next) :
    body.SaysNoLess otherRoute later where
  accepted := fun count member other otherMember =>
    (within.accepted count member).2.trans (after.accepted other otherMember).1
  rejected := fun all count member other otherMember =>
    (within.rejected count member).trans (after.allRejected all other otherMember)
  duplicates := fun count member other otherMember =>
    (within.duplicates count member).2.trans (after.duplicates other otherMember).1
  status := by
    intro first second isFirst isSecond
    obtain ⟨_, record, rfl, _, row, found, becomes⟩ := within.status first isFirst
    obtain ⟨_, new, rfl, since, _⟩ := after.status second isSecond
    exact (becomes.trans (since row found)).dto

/-! ### What the queries find -/

/-- Tables that a query has found between two states of them. -/
structure Seen (floor current found : Database) : Prop where
  since : floor.Grows found
  becomes : found.Grows current
  wellFormed : found.WellFormed
  agree : found.CountersAgree
  marked : System.AllMarked found

variable {found : Database}

theorem Seen.mono (seen : Seen floor current found) (grows : current.Grows next) :
    Seen floor next found :=
  { seen with becomes := seen.becomes.trans grows }

theorem Seen.accepted (seen : Seen floor current found) (importId : ImportId) :
    (floor.transactionsOf importId).length ≤ (found.transactionsOf importId).length ∧
      (found.transactionsOf importId).length ≤ (current.transactionsOf importId).length :=
  ⟨seen.since.transactionsOf importId, seen.becomes.transactionsOf importId⟩

theorem Seen.rejected (seen : Seen floor current found) (importId : ImportId) :
    (floor.rejectedRecordsOf importId).length ≤ (found.rejectedRecordsOf importId).length ∧
      (found.rejectedRecordsOf importId).length ≤ (current.rejectedRecordsOf importId).length :=
  ⟨seen.since.rejectedRecordsOf importId, seen.becomes.rejectedRecordsOf importId⟩

theorem within_status (seen : Seen floor current found) {record : ImportRecord}
    (isRecord : found.findImport importId = some record) :
    (Body.status (ImportStatusDto.ofRecord record) : Body Id).Within route importId floor
      current := by
  obtain ⟨accepted, rejected⟩ := Database.counts_eq seen.wellFormed seen.agree importId
  have duplicates : found.duplicatesOf importId = record.duplicateCount := by
    rw [Database.duplicatesOf, isRecord]
    rfl
  rw [isRecord, Option.map_some, Option.getD_some] at accepted rejected
  have marked := seen.marked importId record isRecord
  have sound : (ImportStatusDto.ofRecord record).Sound :=
    { processed := (seen.agree importId record isRecord).processed
      started := by simpa [ImportStatusDto.ofRecord] using marked.started
      completed := by simpa [ImportStatusDto.ofRecord] using marked.completed
      failed := marked.failed }
  obtain ⟨row, foundRow, becomes⟩ := seen.becomes.imports importId record isRecord
  constructor
  · rw [foundRow]
    rfl
  · refine List.forall_mem_singleton.mpr ?_
    rw [ImportStatusDto.ofRecord, accepted]
    exact seen.accepted importId
  · refine List.forall_mem_singleton.mpr ?_
    rw [ImportStatusDto.ofRecord, rejected]
    exact (seen.rejected importId).2
  · refine fun _ => List.forall_mem_singleton.mpr ?_
    rw [ImportStatusDto.ofRecord, rejected]
    exact (seen.rejected importId).1
  · refine List.forall_mem_singleton.mpr ?_
    rw [ImportStatusDto.ofRecord, ← duplicates]
    exact ⟨seen.since.duplicatesOf importId, seen.becomes.duplicatesOf importId⟩
  · intro dto isStatus
    cases isStatus
    refine ⟨sound, record, rfl, fun old foundOld => ?_, row, foundRow, becomes⟩
    obtain ⟨new, foundNew, moves⟩ := seen.since.imports importId old foundOld
    rw [isRecord] at foundNew
    cases foundNew
    exact moves

/-- The numbers of a summary are each those of the tables that one of its queries has found. -/
theorem within_summary {snapshot : ImportQuery.Query → Database}
    (known : (current.findImport importId).isSome = true)
    (seen : ∀ query, Seen floor current (snapshot query)) :
    (Body.summary (ImportSummaryDto.ofSummary (getSummary importId snapshot)) : Body Id).Within
      route importId floor current := by
  obtain ⟨accepted, rejected⟩ :=
    Database.counts_eq (seen .importData).wellFormed (seen .importData).agree importId
  constructor
  · exact known
  · have shown : (Body.summary (ImportSummaryDto.ofSummary (getSummary importId snapshot)) :
        Body Id).acceptedCounts = [.overall, .importData, .byCurrency, .byRiskLevel].map
          fun query => ((snapshot query).transactionsOf importId).length := by
      simp only [Body.acceptedCounts, ImportSummaryDto.ofSummary, getSummary, accepted,
        sum_currencyBreakdown_count, sum_riskBreakdown_count, List.map_cons, List.map_nil]
    rw [shown]
    refine List.forall_mem_map.mpr fun query _ => ?_
    exact (seen query).accepted importId
  · refine List.forall_mem_singleton.mpr ?_
    rw [ImportSummaryDto.ofSummary, getSummary, rejected]
    exact ((seen .importData).rejected importId).2
  · refine fun _ => List.forall_mem_singleton.mpr ?_
    rw [ImportSummaryDto.ofSummary, getSummary, rejected]
    exact ((seen .importData).rejected importId).1
  · refine List.forall_mem_singleton.mpr ?_
    exact ⟨(seen .importData).since.duplicatesOf importId,
      (seen .importData).becomes.duplicatesOf importId⟩
  · intro dto isStatus
    cases isStatus

/-- The generated columns change nothing about which records an import has. -/
theorem length_recordsOf (config : Config Id) (db : Database) (importId : ImportId) :
    (Pagination.recordsOf importId (rejectedTable config db)).length =
      (db.rejectedRecordsOf importId).length := by
  have rows : (rejectedTable config db).map RejectedRecord.toRejectedRecordRow =
      db.rejectedRecords := by
    refine List.ext_getElem? fun index => ?_
    rw [rejectedTable, List.getElem?_map, List.getElem?_mapIdx, Option.map_map]
    exact Option.map_id_apply
  rw [Pagination.recordsOf, Database.rejectedRecordsOf, ← rows, List.filter_map, List.length_map]
  rfl

variable [LinearOrder Id]

/-- A page lists records of the import. -/
theorem length_page (config : Config Id) (db : Database) (importId : ImportId) (cursor : Option Id)
    (limit : Nat) :
    (getRejectedRecords config.isEmpty (rejectedTable config db) importId cursor
        limit).items.length ≤ (db.rejectedRecordsOf importId).length := by
  have selected : ((rejectedTable config db).filter fun record =>
      record.importId == importId && isAfter config.isEmpty cursor record).length ≤
        (db.rejectedRecordsOf importId).length := by
    rw [← length_recordsOf config]
    exact (List.monotone_filter_right _ fun record both =>
      (Bool.and_eq_true_iff.mp both).1).length_le
  rw [← (List.mergeSort_perm _ fun first second : RejectedRecord Id =>
    decide (first.id ≤ second.id)).length_eq] at selected
  have taken := (List.length_take_le' (limit + 1) _).trans selected
  simp only [getRejectedRecords, List.length_map]
  split
  · exact (List.length_take_le' limit _).trans taken
  · exact taken

/-- The only page lists all of them. -/
theorem length_only_page (config : Config Id) (db : Database) (importId : ImportId) {limit : Nat}
    (positive : 0 < limit)
    (only : (getRejectedRecords config.isEmpty (rejectedTable config db) importId none
      limit).nextCursor = none) :
    (getRejectedRecords config.isEmpty (rejectedTable config db) importId none
        limit).items.length = (db.rejectedRecordsOf importId).length := by
  have isPage := @Pagination.getRejectedRecords_eq Id _ config.isEmpty (rejectedTable config db)
    importId none (by simp) limit
  rw [isPage] at only ⊢
  rw [List.length_map, KeysetPage.items_of_next_eq_none positive only, KeysetPage.remaining_none,
    ← length_recordsOf config]
  exact (List.mergeSort_perm _ _).length_eq

end

/-! ### The statements of a cancellation -/

section

variable {config : Service.Config} {state next : Service.State} {requestId : RequestId}
  {importId : ImportId}

theorem read_of_step
    (enabled : Service.step config state (.process (.requestCancellation requestId importId)) =
      some next) :
    next.api.store.db = state.api.store.db ∧
      next.requests requestId = System.afterRead importId state.api.store.db := by
  rw [Service.step, Service.isOfWorkers, if_pos rfl] at enabled
  obtain ⟨view, moves, rfl⟩ := Option.map_eq_some_iff.mp enabled
  obtain ⟨effect, acts, rfl⟩ := System.step_eq_some moves
  rw [System.act] at acts
  split at acts <;> cases acts
  exact ⟨rfl, Function.update_self _ _ _⟩

theorem write_of_step {ack : Ack}
    (enabled : Service.step config state (.process (.cancel requestId ack)) = some next) :
    ∃ written, next.requests requestId = System.afterCancel written ack := by
  rw [Service.step, Service.isOfWorkers, if_pos rfl] at enabled
  obtain ⟨view, moves, rfl⟩ := Option.map_eq_some_iff.mp enabled
  obtain ⟨effect, acts, rfl⟩ := System.step_eq_some moves
  rw [System.act] at acts
  split at acts <;> cases acts
  exact ⟨_, Function.update_self _ _ _⟩

end

/-! ### Requests on their way -/

section

variable {Id : Type} {config : Config Id} {route : Route Id} {importId : ImportId}
  {floor current next : Database}

/-- The errors of the routes. An import that is not found was not there when the request came. -/
inductive IsRouteError (importId : ImportId) (floor current : Database) : DomainError → Prop
  | notFound {name : JsString} (missing : floor.findImport importId = none) :
      IsRouteError importId floor current (.ImportNotFoundError name)
  | finished {name status : JsString} (known : (current.findImport importId).isSome = true) :
      IsRouteError importId floor current (.ImportAlreadyFinishedError name status)
  | unavailable {raised : Raised} {operation : String} :
      IsRouteError importId floor current (.wrapDatabaseError raised operation)

/-- What is known of a request that came on some tables. -/
def Stage.Fits (route : Route Id) (importId : ImportId) (floor current : Database) :
    Stage Id → Prop
  | .finding query => route = .get query
  | .querying snapshot =>
      (current.findImport importId).isSome = true ∧
        ∀ query found, snapshot query = some found → Seen floor current found
  | .listing cursor limit =>
      (∃ text, route = .get (.getRejections cursor text)) ∧ 0 < limit ∧
        (current.findImport importId).isSome = true
  | .cancelling | .ended none => True
  | .writing => (current.findImport importId).isSome = true
  | .ended (some (.ok body)) => body.Within route importId floor current
  | .ended (some (.error error)) => IsRouteError importId floor current error

theorem Stage.Fits.mono {stage : Stage Id} (fits : stage.Fits route importId floor current)
    (grows : current.Grows next) : stage.Fits route importId floor next := by
  cases stage with
  | finding | cancelling => exact fits
  | querying snapshot =>
    exact ⟨grows.known fits.1, fun query found answered => (fits.2 query found answered).mono grows⟩
  | listing => exact ⟨fits.1, fits.2.1, grows.known fits.2.2⟩
  | writing => exact grows.known fits
  | ended ending =>
    cases ending with
    | none => trivial
    | some result =>
      cases result with
      | ok body => exact Body.Within.mono fits grows
      | error error =>
        cases fits with
        | notFound missing => exact .notFound missing
        | finished known => exact .finished (grows.known known)
        | unavailable => exact .unavailable

theorem fits_afterFind (seen : Seen floor current current) {query : Query Id}
    (isRoute : route = .get query) :
    (afterFind config importId query (ImportRepository.findById importId current)).Fits route
      importId floor current := by
  cases found : current.findImport importId with
  | none =>
    rw [ImportRepository.findById, found]
    exact IsRouteError.notFound (seen.since.missing found)
  | some record =>
    have known : (current.findImport importId).isSome = true := by
      rw [found]
      rfl
    rw [ImportRepository.findById, found]
    cases query with
    | getStatus => exact within_status seen found
    | getSummary => exact ⟨known, fun query found answered => by cases answered⟩
    | getRejections cursor limit =>
      exact ⟨⟨limit, isRoute⟩, Pagination.clampLimit_pos _, known⟩

theorem allFound_eq_some {snapshot : ImportQuery.Query → Option Database}
    {found : ImportQuery.Query → Database} (all : allFound snapshot = some found)
    (query : ImportQuery.Query) : snapshot query = some (found query) := by
  simp only [allFound, Option.bind_eq_bind, Option.bind_eq_some_iff, Option.some.injEq] at all
  obtain ⟨importData, isImportData, overall, isOverall, byCurrency, isByCurrency, byRiskLevel,
    isByRiskLevel, topMerchants, isTopMerchants, rfl⟩ := all
  cases query <;> assumption

theorem fits_afterQuery {snapshot : ImportQuery.Query → Option Database}
    (known : (current.findImport importId).isSome = true)
    (seen : ∀ query found, snapshot query = some found → Seen floor current found) :
    (afterQuery importId snapshot).Fits route importId floor current := by
  unfold afterQuery
  split
  · exact ⟨known, seen⟩
  · rename_i found all
    exact within_summary known fun query => seen query _ (allFound_eq_some all query)

theorem within_cancelled (known : (current.findImport importId).isSome = true)
    (status : ImportStatus) :
    (Body.cancelled importId status : Body Id).Within route importId floor current where
  known := known
  accepted := fun _ member => by cases member
  rejected := fun _ member => by cases member
  allRejected := fun _ _ member => by cases member
  duplicates := fun _ member => by cases member
  status := fun _ isStatus => by cases isStatus

/-- A request whose status is known tells of it. -/
theorem fits_execute (known : (current.findImport importId).isSome = true) (other : ImportId)
    (error : DomainError) (status : ImportStatus) :
    (afterCancellation config importId error (.returned other status)).Fits route importId floor
      current := by
  rw [afterCancellation, CancelImportUseCase.execute]
  split
  · exact IsRouteError.finished known
  · exact within_cancelled known status

theorem fits_afterRead (seen : Seen floor current current) (name : JsString) :
    (afterCancellation config importId (.ImportNotFoundError name)
      (System.afterRead importId current)).Fits route importId floor current := by
  unfold System.afterRead
  split
  · rename_i missing
    exact IsRouteError.notFound (seen.since.missing missing)
  · rename_i row found
    have known : (current.findImport importId).isSome = true := by
      rw [found]
      rfl
    split
    · exact fits_execute known _ _ _
    · exact known

theorem fits_afterWrite (known : (current.findImport importId).isSome = true) (written : ImportId)
    (raised : Raised) (operation : String) (ack : Ack) :
    (afterCancellation config importId (.wrapDatabaseError raised operation)
      (System.afterCancel written ack)).Fits route importId floor current := by
  cases ack with
  | acknowledged => exact fits_execute known _ _ _
  | lost | failed => exact IsRouteError.unavailable

/-! ### Runs -/

variable {start : Store} {service moved : Service.State} {index : Nat}

theorem seen_of_holds (holds : Service.Holds config.service start service)
    (since : floor.Grows service.api.store.db) :
    Seen floor service.api.store.db service.api.store.db where
  since := since
  becomes := .refl _
  wellFormed := holds.reads.coherent.wellFormed
  agree := holds.counts.agree
  marked := holds.counts.marked

/-- What holds of the requests that have come since the tables were as on the floor. -/
structure Invariant (config : Config Id) (start : Store) (floor : Database) (first : Nat)
    (state : State Id) : Prop where
  holds : Service.Holds config.service start state.service
  since : floor.Grows state.service.api.store.db
  fits : ∀ index exchange, first ≤ index → state.exchanges[index]? = some exchange →
    exchange.stage.Fits exchange.request.route exchange.request.importId floor
      state.service.api.store.db

variable {state later : State Id} {first : Nat}

/-- The other requests are where they were. -/
theorem Invariant.moves (invariant : Invariant config start floor first state)
    (moves : moved = state.service ∨
      ∃ action, Service.step config.service state.service action = some moved) :
    Invariant config start floor first { state with service := moved } := by
  rcases moves with rfl | ⟨action, enabled⟩
  · exact invariant
  · obtain ⟨holds, grows⟩ := Service.holds_step invariant.holds enabled
    exact
      { holds := holds
        since := invariant.since.trans grows
        fits := fun index exchange isSince made =>
          (invariant.fits index exchange isSince made).mono grows }

/-- No request has come yet since the tables are as they are. -/
theorem invariant_now (state : State Id)
    (holds : Service.Holds config.service start state.service) :
    Invariant config start state.service.api.store.db state.exchanges.length state where
  holds := holds
  since := .refl _
  fits := by
    intro index exchange isSince made
    rw [List.getElem?_eq_none isSince] at made
    cases made

/-- A client has been told that there is an import: by the acceptance of an upload, or by a reply
to a request for one of the routes. -/
def State.HasTold (state : State Id) (importId : ImportId) : Prop :=
  (∃ exchange ∈ state.service.api.exchanges, ∃ body,
      exchange.reply = some (.accepted body) ∧ body.id = importId) ∨
    ∃ exchange ∈ state.exchanges, ∃ reply, exchange.reply = some reply ∧
      exchange.request.importId = importId ∧ reply.status ∈ [200, 202, 409]

/-- How a request has ended for its client. -/
theorem ending_of_reply {exchange : Exchange Id} {reply : Reply Id}
    (replied : exchange.reply = some reply) :
    (∃ body, exchange.stage = .ended (some (.ok body)) ∧ reply = .ok body) ∨
      ∃ error, exchange.stage = .ended (some (.error error)) ∧
        reply.status = error.httpStatus := by
  unfold Exchange.reply at replied
  split at replied
  · rename_i body isStage
    cases replied
    exact Or.inl ⟨body, isStage, rfl⟩
  · rename_i error isStage
    cases replied
    exact Or.inr ⟨error, isStage, rfl⟩
  · cases replied

theorem stage_of_ok {exchange : Exchange Id} {body : Body Id}
    (replied : exchange.reply = some (.ok body)) : exchange.stage = .ended (some (.ok body)) := by
  unfold Exchange.reply at replied
  split at replied
  · rename_i isStage
    cases replied
    exact isStage
  · cases replied
  · cases replied

theorem known_of_told (invariant : Invariant config start floor 0 state)
    (told : state.HasTold importId) :
    (state.service.api.store.db.findImport importId).isSome = true := by
  rcases told with ⟨exchange, member, body, replied, rfl⟩ | ⟨exchange, member, reply, replied, rfl,
    knows⟩
  · obtain ⟨key, _, keyed⟩ :=
      ImportApi.accepted_of_invariant invariant.holds.invariant.api member replied
    have consistent := invariant.holds.invariant.api.consistent
    exact (lookup_isSome ImportRow.id).mpr
      (List.mem_map.mp (consistent.keyed.mem_iff.mp (List.mem_map_of_mem keyed)))
  · obtain ⟨index, made⟩ := List.mem_iff_getElem?.mp member
    have fits := invariant.fits index exchange (Nat.zero_le index) made
    rcases ending_of_reply replied with ⟨body, isStage, rfl⟩ | ⟨error, isStage, isStatus⟩
    · rw [isStage] at fits
      exact Body.Within.known fits
    · rw [isStage] at fits
      rw [isStatus] at knows
      cases fits with
      | finished known => exact known
      | notFound => simp [DomainError.httpStatus] at knows
      | unavailable => simp [DomainError.httpStatus, DomainError.wrapDatabaseError] at knows

/-- What the reply to a request is that has reached a route, when it comes after all those of a
state. What the framework refuses before a route, such as an unknown path, is left out. -/
structure Follows (middle : State Id) (exchange : Exchange Id) : Prop where
  statuses : ∀ reply, exchange.reply = some reply → reply.status ∈ [200, 202, 404, 409, 503]
  found : middle.HasTold exchange.request.importId →
    ∀ reply, exchange.reply = some reply → reply.status ≠ 404
  sound : ∀ dto, exchange.reply = some (.ok (.status dto)) → dto.Sound
  noLess : ∀ earlier ∈ middle.exchanges, ∀ body later,
    earlier.request.importId = exchange.request.importId → earlier.reply = some (.ok body) →
      exchange.reply = some (.ok later) → body.SaysNoLess exchange.request.route later

theorem follows_of_invariant {middle : State Id} {exchange : Exchange Id}
    (before : Invariant config start floor 0 middle)
    (after : Invariant config start middle.service.api.store.db middle.exchanges.length state)
    (isSince : middle.exchanges.length ≤ index) (made : state.exchanges[index]? = some exchange) :
    Follows middle exchange := by
  have fits := after.fits index exchange isSince made
  constructor
  · intro reply replied
    rcases ending_of_reply replied with ⟨body, _, rfl⟩ | ⟨error, isStage, isStatus⟩
    · cases body <;> simp [Reply.status]
    · rw [isStage] at fits
      rw [isStatus]
      cases fits <;> simp [DomainError.httpStatus, DomainError.wrapDatabaseError]
  · intro told reply replied notFound
    rcases ending_of_reply replied with ⟨body, _, rfl⟩ | ⟨error, isStage, isStatus⟩
    · cases body <;> cases notFound
    · rw [isStage] at fits
      rw [isStatus] at notFound
      cases fits with
      | notFound missing =>
        have known := known_of_told before told
        rw [missing] at known
        cases known
      | finished | unavailable => cases notFound
  · intro dto replied
    rw [stage_of_ok replied] at fits
    exact (Body.Within.status fits dto rfl).1
  · intro earlier member body later sameImport replied laterReplied
    obtain ⟨earlierIndex, earlierMade⟩ := List.mem_iff_getElem?.mp member
    have earlierFits := before.fits earlierIndex earlier (Nat.zero_le _) earlierMade
    rw [stage_of_ok replied, sameImport] at earlierFits
    rw [stage_of_ok laterReplied] at fits
    exact Body.Within.saysNoLess earlierFits fits

variable [LinearOrder Id]

theorem fits_afterList (seen : Seen floor current current) {cursor : Option Id} {limit : Nat}
    {text : Option JsString} (isRoute : route = .get (.getRejections cursor text))
    (positive : 0 < limit) (known : (current.findImport importId).isSome = true) :
    (afterList config importId cursor limit current).Fits route importId floor current where
  known := known
  accepted := fun _ member => by cases member
  rejected := by
    refine List.forall_mem_singleton.mpr ?_
    rw [RejectedRecordsDto.ofPage, List.length_map]
    exact length_page config current importId cursor limit
  allRejected := by
    intro all
    refine List.forall_mem_singleton.mpr ?_
    rw [isRoute] at all
    cases cursor with
    | some last => cases all
    | none =>
      rw [RejectedRecordsDto.ofPage, List.length_map,
        length_only_page config current importId positive (Option.isNone_iff_eq_none.mp all)]
      exact seen.since.rejectedRecordsOf importId
  duplicates := fun _ member => by cases member
  status := fun _ isStatus => by cases isStatus

variable {stage after : Stage Id} {event : Event}

/-- The service moves by the step of a cancellation, or not at all. -/
theorem moves_of_proceed
    (proceeds : proceed config index importId service stage event = some (moved, after)) :
    moved = service ∨ ∃ action, Service.step config.service service action = some moved := by
  unfold proceed at proceeds
  split at proceeds
  · cases proceeds
    exact Or.inl rfl
  · split at proceeds <;> cases proceeds
    exact Or.inl rfl
  · cases proceeds
    exact Or.inl rfl
  · obtain ⟨next, enabled, same⟩ := Option.map_eq_some_iff.mp proceeds
    cases same
    exact Or.inr ⟨_, enabled⟩
  · obtain ⟨next, enabled, same⟩ := Option.map_eq_some_iff.mp proceeds
    cases same
    exact Or.inr ⟨_, enabled⟩
  · obtain ⟨operation, _, same⟩ := Option.map_eq_some_iff.mp proceeds
    cases same
    exact Or.inl rfl
  · split at proceeds <;> cases proceeds
    exact Or.inl rfl
  · cases proceeds

/-- From one `await` of a request to the next, it is known what it has seen. -/
theorem fits_proceed (holds : Service.Holds config.service start service)
    (since : floor.Grows service.api.store.db)
    (fits : stage.Fits route importId floor service.api.store.db)
    (proceeds : proceed config index importId service stage event = some (moved, after)) :
    after.Fits route importId floor moved.api.store.db := by
  have seen := seen_of_holds holds since
  unfold proceed at proceeds
  split at proceeds
  · cases proceeds
    exact fits_afterFind seen fits
  · split at proceeds <;> cases proceeds
    rename_i snapshot query _
    refine fits_afterQuery fits.1 fun other found answered => ?_
    rcases Transition.update_cases answered with ⟨_, rfl⟩ | ⟨_, before⟩
    · exact seen
    · exact fits.2 other found before
  · cases proceeds
    obtain ⟨⟨text, isRoute⟩, positive, known⟩ := fits
    exact fits_afterList seen isRoute positive known
  · obtain ⟨next, enabled, same⟩ := Option.map_eq_some_iff.mp proceeds
    cases same
    obtain ⟨sameTables, read⟩ := read_of_step enabled
    rw [sameTables, read]
    exact fits_afterRead seen _
  · obtain ⟨next, enabled, same⟩ := Option.map_eq_some_iff.mp proceeds
    cases same
    obtain ⟨written, wrote⟩ := write_of_step enabled
    rw [wrote]
    have grows := (Service.holds_step holds enabled).2
    exact fits_afterWrite (grows.known fits) written _ _ _
  · obtain ⟨operation, _, same⟩ := Option.map_eq_some_iff.mp proceeds
    cases same
    exact IsRouteError.unavailable
  · split at proceeds <;> cases proceeds
    trivial
  · cases proceeds

theorem invariant_step {action : Action Id} (invariant : Invariant config start floor first state)
    (enabled : step config state action = some later) :
    Invariant config start floor first later := by
  cases action with
  | service action =>
    rw [step] at enabled
    split at enabled
    · obtain ⟨service, moves, rfl⟩ := Option.map_eq_some_iff.mp enabled
      exact invariant.moves (Or.inr ⟨action, moves⟩)
    · cases enabled
  | receive request =>
    cases enabled
    refine { invariant with fits := fun index exchange isSince made => ?_ }
    rcases Transition.snoc_cases made with rfl | earlier
    · cases request with
      | mk requestId importId route => cases route <;> trivial
    · exact invariant.fits index exchange isSince earlier
  | proceed index event =>
    cases made : state.exchanges[index]? with
    | none =>
      simp only [step, made] at enabled
      cases enabled
    | some exchange =>
      simp only [step, made] at enabled
      obtain ⟨⟨service, after⟩, proceeds, rfl⟩ := Option.map_eq_some_iff.mp enabled
      have others := invariant.moves (moves_of_proceed proceeds)
      refine { others with fits := fun otherIndex other isSince otherMade => ?_ }
      rcases Transition.set_cases otherMade with ⟨rfl, rfl⟩ | ⟨_, same⟩
      · exact fits_proceed invariant.holds invariant.since
          (invariant.fits otherIndex exchange isSince made) proceeds
      · exact others.fits otherIndex other isSince same

theorem invariant_run {schedule : List (Action Id)}
    (reaches : Transition.run (step config) state schedule = some later)
    (invariant : Invariant config start floor first state) :
    Invariant config start floor first later :=
  Transition.Reachable.invariant ⟨schedule, reaches⟩ (Invariant config start floor first) invariant
    fun _ _ _ holds enabled => invariant_step holds enabled

end

/-- Any requests to the routes, beside any uploads, workers and failures, from any tables and files
that a service can start on: a request that comes when others have been replied to gets no reply
that takes back what they were told of the same import. -/
theorem replies_never_go_back {Id : Type} [LinearOrder Id] (config : Config Id) (now : Nat)
    {start : Store} (canStart : Service.CanStart config.service.host start)
    {before rest : List (Action Id)} {middle final : State Id}
    (reaches : Transition.run (step config) (initial Id now start) before = some middle)
    (goesOn : Transition.run (step config) middle rest = some final) :
    ∀ index exchange, middle.exchanges.length ≤ index →
      final.exchanges[index]? = some exchange → Follows middle exchange := by
  intro index exchange isSince made
  have initially := Service.holds_initial now canStart
  have first : Invariant config start start.db 0 middle :=
    invariant_run reaches (invariant_now (initial Id now start) initially)
  exact follows_of_invariant first (invariant_run goesOn (invariant_now middle first.holds)) isSince
    made

/-- A service with its routes. Its first rejected record gets the id 0. -/
def smallRoutes : Config Nat where
  service := Service.smallService
  nameOf := JsString.ofNat
  generated := fun place => (place, 0)
  isEmpty := fun _ => false

/-- The status of the import, asked for before a worker has seen it. -/
def statusAfterUpload : List (Action Nat) :=
  Service.uploadRequest.map .service ++
    [.receive ⟨[0x61], 1, .get .getStatus⟩, .proceed 0 .answers]

/-- Its summary, asked for while a worker is at it, the page of its rejected records and its
cancellation, after all is done. -/
def summaryAcrossImport : List (Action Nat) :=
  let work (actions : List System.Action) : List (Action Nat) :=
    actions.map fun action => .service (.process action)
  work (System.startUp 1 ++ [System.Action.work 1 (.claimNext 1 .acknowledged)]) ++
    [.receive ⟨[0x62], 1, .get .getSummary⟩, .proceed 1 .answers,
      .proceed 1 (.queries .importData), .proceed 1 (.queries .byCurrency)] ++
    work (System.replies 1 12) ++
    [.proceed 1 (.queries .overall), .proceed 1 (.queries .byRiskLevel),
      .proceed 1 (.queries .topMerchants),
      .receive ⟨[0x63], 1, .get (.getRejections none (some [0x35]))⟩, .proceed 2 .answers,
      .proceed 2 .answers, .receive ⟨[0x64], 1, .cancel⟩, .proceed 3 .answers]

/-- What a client sees of the replies. -/
def shownCounts (state : State Nat) : List (Option (Nat × List Nat × List Nat)) :=
  state.exchanges.map fun exchange => exchange.reply.map fun reply =>
    match reply with
    | .ok body => (reply.status, body.acceptedCounts, body.rejectedCounts)
    | .error _ => (reply.status, [], [])

theorem replies_never_go_back_summaryAcrossImport :
    ∃ middle final,
      Transition.run (step smallRoutes) (initial Nat 0 CreateImport.emptyStore)
          statusAfterUpload = some middle ∧
        Transition.run (step smallRoutes) middle summaryAcrossImport = some final ∧
        shownCounts final =
          [some (200, [0], [0]), some (200, [1, 0, 0, 1], [0]), some (200, [], [1]),
            some (409, [], [])] ∧
        ∀ index exchange, middle.exchanges.length ≤ index →
          final.exchanges[index]? = some exchange → Follows middle exchange := by
  have trace : ((Transition.run (step smallRoutes) (initial Nat 0 CreateImport.emptyStore)
      statusAfterUpload).bind fun middle =>
        (Transition.run (step smallRoutes) middle summaryAcrossImport).map shownCounts) =
      some [some (200, [0], [0]), some (200, [1, 0, 0, 1], [0]), some (200, [], [1]),
        some (409, [], [])] := by
    decide +kernel
  obtain ⟨middle, reaches, later⟩ := Option.bind_eq_some_iff.mp trace
  obtain ⟨final, goesOn, shown⟩ := Option.map_eq_some_iff.mp later
  exact ⟨middle, final, reaches, goesOn, shown,
    replies_never_go_back smallRoutes 0 (Service.canStart_emptyStore _) reaches goesOn⟩

end ImportRoutes

end ImportService
