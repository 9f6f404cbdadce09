/-
This file models the routes of `ImportController` beside the upload, with the use cases behind
them: the status of an import, its cancellation, its summary and the pages of its rejected records.
Any number of requests to them stand beside the uploads and the workers of the service, and each of
their statements finds the tables as they are when it runs.

Every read may reject, the transaction of a cancellation may commit although its answer is lost,
and the process of a request may end at any time. The statements of a cancellation are those of the
`Request` that has its number.
-/

import ImportService.ImportQuery
import ImportService.Service

namespace ImportService

open JsString ImportQuery

/-! ### What the routes answer -/

/-- The body of `GET /imports/:id`. -/
structure ImportStatusDto where
  id : ImportId
  status : ImportStatus
  totalRecords : Nat
  processedCount : Nat
  acceptedCount : Nat
  rejectedCount : Nat
  duplicateCount : Nat
  startedAt : Option JsString
  completedAt : Option JsString
  failureReason : Option JsString
  deriving DecidableEq

/-- The counters and the times of the import. -/
def ImportStatusDto.ofRecord (record : ImportRecord) : ImportStatusDto where
  id := record.id
  status := record.status
  totalRecords := record.totalRecords
  processedCount := record.processedCount
  acceptedCount := record.acceptedCount
  rejectedCount := record.rejectedCount
  duplicateCount := record.duplicateCount
  startedAt := record.startedAt.map fun time : Nat => JsDate.toISOString time
  completedAt := record.completedAt.map fun time : Nat => JsDate.toISOString time
  failureReason := record.failureReason

/-- The body of `GET /imports/:id/summary`. -/
structure ImportSummaryDto where
  importId : ImportId
  totalTransactions : Nat
  totalAmount : Rat
  earliestTransaction : Option JsString
  latestTransaction : Option JsString
  totals : TotalSummary
  byCurrency : List CurrencyBreakdown
  byRiskLevel : List RiskBreakdown
  topMerchants : List MerchantBreakdown

/-- The summary with its times printed. -/
def ImportSummaryDto.ofSummary (summary : ImportSummary) : ImportSummaryDto where
  importId := summary.importId
  totalTransactions := summary.totalTransactions
  totalAmount := summary.totalAmount
  earliestTransaction := summary.earliestTransaction.map JsDate.toISOString
  latestTransaction := summary.latestTransaction.map JsDate.toISOString
  totals := summary.totals
  byCurrency := summary.byCurrency
  byRiskLevel := summary.byRiskLevel
  topMerchants := summary.topMerchants

/-- A rejected record with its time printed. -/
structure RejectedRecordDto (Id : Type) extends RejectedRecordInput where
  id : Id
  createdAt : JsString

/-- The body of `GET /imports/:id/rejected-records`. -/
structure RejectedRecordsDto (Id : Type) where
  items : List (RejectedRecordDto Id)
  nextCursor : Option Id

/-- A page with the times printed. -/
def RejectedRecordsDto.ofPage {Id : Type} (page : RejectedRecordPage Id) :
    RejectedRecordsDto Id where
  items := page.items.map fun item =>
    { toRejectedRecordInput := item.toRejectedRecordInput
      id := item.id
      createdAt := JsDate.toISOString item.createdAt }
  nextCursor := page.nextCursor

/-! ### The use cases -/

namespace ImportRepository

/-- The row of an import. -/
def findById (importId : ImportId) (db : Database) : Option ImportRecord := db.findImport importId

end ImportRepository

/-- The name of a status. -/
def ImportStatus.name : ImportStatus → JsString
  | PENDING => ofString "PENDING"
  | PROCESSING => ofString "PROCESSING"
  | CANCELLING => ofString "CANCELLING"
  | COMPLETED => ofString "COMPLETED"
  | FAILED => ofString "FAILED"
  | CANCELLED => ofString "CANCELLED"

/-- `if (!record) throw new ImportNotFoundError(importId)`, of a record that was looked up. -/
def checkFound (importId : JsString) : Option ImportRecord → Except DomainError ImportRecord
  | none => .error (.ImportNotFoundError importId)
  | some record => .ok record

namespace CancelImportUseCase

/-- `execute`, of the status that `requestCancellation` returns. -/
def execute (importId : JsString) (status : ImportStatus) : Except DomainError ImportStatus :=
  if status ≠ .CANCELLING then .error (.ImportAlreadyFinishedError importId status.name)
  else .ok status

end CancelImportUseCase

/-! ### A request on its way -/

namespace ImportRoutes

/-- `generated` has the id and the time that the database gives the record at a place of
`rejected_records`, and `isEmpty` tells the empty string, which is no cursor. -/
structure Config (Id : Type) where
  service : Service.Config
  nameOf : ImportId → JsString
  generated : Nat → Id × Nat
  isEmpty : Id → Bool

/-- The routes that only read. -/
inductive Query (Id : Type)
  | getStatus
  | getSummary
  | getRejections (cursor : Option Id) (limit : Option JsString)
  deriving DecidableEq

/-- What a request asks for: one of the queries, or the cancellation. -/
inductive Route (Id : Type)
  | get (query : Query Id)
  | cancel
  deriving DecidableEq

/-- A request that has reached a route. -/
structure RouteRequest (Id : Type) where
  requestId : JsString
  importId : ImportId
  route : Route Id

/-- The body of a reply that is no failure. -/
inductive Body (Id : Type)
  | status (dto : ImportStatusDto)
  | summary (dto : ImportSummaryDto)
  | rejections (dto : RejectedRecordsDto Id)
  | cancelled (id : ImportId) (status : ImportStatus)

/-- What a request waits for, or how it has ended: `none` is the end of its process. -/
inductive Stage (Id : Type)
  | finding (query : Query Id)
  | querying (snapshot : ImportQuery.Query → Option Database)
  | listing (cursor : Option Id) (limit : Nat)
  | cancelling
  | writing
  | ended (ending : Option (Except DomainError (Body Id)))

/-- A request begins with the lookup of its import, or with the cancellation. -/
def Stage.ofRoute {Id : Type} : Route Id → Stage Id
  | .get query => .finding query
  | .cancel => .cancelling

/-- A request and how far it has come. -/
structure Exchange (Id : Type) where
  request : RouteRequest Id
  stage : Stage Id

/-- The reply of a route: a body, or what the exception filter makes of an error. -/
inductive Reply (Id : Type)
  | ok (body : Body Id)
  | error (reply : ErrorReply)

/-- The status of the method, `@HttpCode(202)`, or the status the filter sets. -/
def Reply.status {Id : Type} : Reply Id → Nat
  | .ok (.cancelled _ _) => 202
  | .ok _ => 200
  | .error reply => reply.status

/-- What the client is told. One whose process has ended is told nothing. -/
def Exchange.reply {Id : Type} (exchange : Exchange Id) : Option (Reply Id) :=
  match exchange.stage with
  | .ended (some (.ok body)) => some (.ok body)
  | .ended (some (.error error)) =>
      some (.error (AppExceptionFilter.reply exchange.request.requestId (.domain error)))
  | _ => none

section

variable {Id : Type}

/-- `rejected_records` with what the database has generated. -/
def rejectedTable (config : Config Id) (db : Database) : List (RejectedRecord Id) :=
  db.rejectedRecords.mapIdx fun index row =>
    { toRejectedRecordRow := row
      id := (config.generated index).1
      createdAt := (config.generated index).2 }

/-- `limit !== undefined ? Number(limit) : undefined` -/
def parsedLimit (limit : Option JsString) : Option JsNumber :=
  limit.map fun text => if (trim text).isEmpty then .finite 0 else JsNumber.ofText (trim text)

/-- The code after `findById`. -/
def afterFind (config : Config Id) (importId : ImportId) (query : Query Id)
    (record : Option ImportRecord) : Stage Id :=
  match checkFound (config.nameOf importId) record with
  | .error error => .ended (some (.error error))
  | .ok record =>
      match query with
      | .getStatus => .ended (some (.ok (.status (ImportStatusDto.ofRecord record))))
      | .getSummary => .querying fun _ => none
      | .getRejections cursor limit =>
          .listing cursor (GetRejectedRecordsUseCase.clampLimit (parsedLimit limit))

/-- The snapshots of the five queries, when all of them have run. -/
def allFound (snapshot : ImportQuery.Query → Option Database) :
    Option (ImportQuery.Query → Database) := do
  let importData ← snapshot .importData
  let overall ← snapshot .overall
  let byCurrency ← snapshot .byCurrency
  let byRiskLevel ← snapshot .byRiskLevel
  let topMerchants ← snapshot .topMerchants
  some fun
    | .importData => importData
    | .overall => overall
    | .byCurrency => byCurrency
    | .byRiskLevel => byRiskLevel
    | .topMerchants => topMerchants

/-- The code after one of the queries of `getSummary`, which `Promise.all` waits for. -/
def afterQuery (importId : ImportId) (snapshot : ImportQuery.Query → Option Database) : Stage Id :=
  match allFound snapshot with
  | none => .querying snapshot
  | some found =>
      .ended (some (.ok (.summary (ImportSummaryDto.ofSummary (getSummary importId found)))))

/-- The code after a statement of `requestCancellation`, of where its `Request` is then. -/
def afterCancellation (config : Config Id) (importId : ImportId) (error : DomainError) :
    Request → Stage Id
  | .unsent => .cancelling
  | .writing _ => .writing
  | .rejected => .ended (some (.error error))
  | .returned _ status =>
      .ended (some ((CancelImportUseCase.execute (config.nameOf importId) status).map fun status =>
        .cancelled importId status))

/-! ### What can happen to it -/

/-- `answers` is the end of a read, `queries` that of one query of a summary, and `writes` that of
the transaction of a cancellation. -/
inductive Event
  | answers
  | queries (query : ImportQuery.Query)
  | writes (ack : Ack) (raised : Raised)
  | rejects (raised : Raised)
  | ends

/-- The operation that the error of a read names. -/
def Stage.operation : Stage Id → Option String
  | .finding _ => some "ImportRepository.findById"
  | .querying _ => some "ImportQuery.getSummary"
  | .listing _ _ => some "ImportQuery.getRejectedRecords"
  | .cancelling => some "ImportRepository.requestCancellation"
  | .writing | .ended _ => none

/-- The request has been replied to, or its process has ended. -/
def Stage.isEnded : Stage Id → Bool
  | .ended _ => true
  | .finding _ | .querying _ | .listing _ _ | .cancelling | .writing => false

variable [LinearOrder Id]

/-- The code after the page of rejected records. -/
def afterList (config : Config Id) (importId : ImportId) (cursor : Option Id) (limit : Nat)
    (db : Database) : Stage Id :=
  let page := getRejectedRecords config.isEmpty (rejectedTable config db) importId cursor limit
  .ended (some (.ok (.rejections (RejectedRecordsDto.ofPage page))))

/-- From one `await` of a request to the next. -/
def proceed (config : Config Id) (index : Nat) (importId : ImportId) (service : Service.State) :
    Stage Id → Event → Option (Service.State × Stage Id)
  | .finding query, .answers =>
      some (service, afterFind config importId query
        (ImportRepository.findById importId service.api.store.db))
  | .querying snapshot, .queries query =>
      match snapshot query with
      | none =>
          some (service, afterQuery importId
            (Function.update snapshot query (some service.api.store.db)))
      | some _ => none
  | .listing cursor limit, .answers =>
      some (service, afterList config importId cursor limit service.api.store.db)
  | .cancelling, .answers =>
      (Service.step config.service service (.process (.requestCancellation index importId))).map
        fun next => (next, afterCancellation config importId
          (.ImportNotFoundError (config.nameOf importId)) (next.requests index))
  | .writing, .writes ack raised =>
      (Service.step config.service service (.process (.cancel index ack))).map fun next =>
        (next, afterCancellation config importId
          (.wrapDatabaseError raised "ImportRepository.requestCancellation") (next.requests index))
  | stage, .rejects raised =>
      stage.operation.map fun operation =>
        (service, .ended (some (.error (.wrapDatabaseError raised operation))))
  | stage, .ends => if stage.isEnded then none else some (service, .ended none)
  | _, _ => none

end

/-! ### The service with its routes -/

/-- The service and the requests that routes have had. -/
structure State (Id : Type) where
  service : Service.State
  exchanges : List (Exchange Id)

/-- A step of the service, a request that comes, or a step of one that is there. -/
inductive Action (Id : Type)
  | service (action : Service.Action)
  | receive (request : RouteRequest Id)
  | proceed (index : Nat) (event : Event)

/-- The actions of the service, without those of a cancellation, which a route makes. -/
def isOfService : Service.Action → Bool
  | .process (.requestCancellation _ _) | .process (.cancel _ _) => false
  | .api _ | .process _ => true

/-- A step. A reply reads the tables as they are when the query runs. -/
def step {Id : Type} [LinearOrder Id] (config : Config Id) (state : State Id) :
    Action Id → Option (State Id)
  | .service action =>
      if isOfService action then
        (Service.step config.service state.service action).map fun service =>
          { state with service }
      else none
  | .receive request =>
      some { state with
        exchanges := state.exchanges ++ [⟨request, Stage.ofRoute request.route⟩] }
  | .proceed index event =>
      match state.exchanges[index]? with
      | none => none
      | some exchange =>
          (ImportRoutes.proceed config index exchange.request.importId state.service exchange.stage
            event).map fun result =>
              { service := result.1
                exchanges := state.exchanges.set index { exchange with stage := result.2 } }

/-- No request has come, and no worker has started. -/
def initial (Id : Type) (now : Nat) (store : Store) : State Id where
  service := Service.initial now store
  exchanges := []

end ImportRoutes

end ImportService
