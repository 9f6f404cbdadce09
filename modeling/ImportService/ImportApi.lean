/-
This file models `POST /v1/imports` from the arrival of a request to its reply: the gate of
`ConcurrentUploadLimitInterceptor`, the checks of `ImportController.create`, the call of
`CreateImportUseCase.execute` and the filter for what is thrown. Any number of processes serve
requests over one store, each with a gate of its own.

Every `await` may reject. A transaction may commit although its answer is lost, a file may stay
although its removal was tried, and a process may end at any time, with the transactions it has
sent still on their way. What the framework and the client of the database throw is in the events.
-/

import ImportService.CreateImport
import ImportService.HttpErrors
import ImportService.JsArithmetic

namespace ImportService

open JsString CreateImport

/-! ### Requests and replies -/

/-- A header is sent once or several times. -/
inductive HeaderValue
  | text (value : JsString)
  | list (values : List JsString)
  deriving DecidableEq

/-- What the controller reads of a request before its body. -/
structure UploadRequest where
  requestId : JsString
  idempotencyKey : Option HeaderValue
  isMultipart : Bool
  contentEncoding : Option JsString
  deriving DecidableEq

/-- The part that `request.file()` yields. -/
structure FilePart where
  fieldname : JsString
  filename : Option JsString
  mimetype : JsString
  file : FileStream

/-- The body of a reply to an upload. -/
structure CreateImportResponseDto where
  id : ImportId
  status : ImportStatus
  createdAt : JsString
  deriving DecidableEq

/-- The import with its time printed. -/
def CreateImportResponseDto.ofRecord (record : ImportRecord) : CreateImportResponseDto where
  id := record.id
  status := record.status
  createdAt := JsDate.toISOString record.createdAt

/-- The reply to an upload. -/
inductive ApiReply
  | accepted (body : CreateImportResponseDto)
  | error (reply : ErrorReply)
  deriving DecidableEq

namespace ApiReply

/-- `@HttpCode(202)`, or the status the filter sets. -/
def status : ApiReply → Nat
  | accepted _ => 202
  | error reply => reply.status

/-- The code of a failure. -/
def code : ApiReply → Option JsString
  | accepted _ => none
  | error reply => some reply.error.code

end ApiReply

/-! ### ImportController.create -/

namespace ImportController

/-- The field the file is expected under. -/
def EXPECTED_FIELD_NAME : JsString := ofString "file"

/-- The extensions of compressed files. -/
def COMPRESSED_EXTENSIONS : List JsString :=
  ["gz", "zip", "bz2", "xz", "7z", "rar", "tar", "tgz", "zst", "lz4", "br"].map ofString

/-- The types of compressed files. -/
def COMPRESSED_MIMES : List JsString :=
  ["application/gzip", "application/x-gzip", "application/zip", "application/x-zip-compressed",
    "application/x-bzip2", "application/x-xz", "application/x-7z-compressed", "application/x-tar",
    "application/zstd"].map ofString

/-- The pattern of the extensions, which takes no account of the case of ASCII letters. -/
def isCompressedName (filename : JsString) : Bool :=
  COMPRESSED_EXTENSIONS.any fun extension =>
    (ofString "." ++ extension).isSuffixOf (toLowerCase filename)

/-- A file that says it is compressed is refused. -/
def assertNotCompressedArchive (filename : Option JsString) (mimeType : JsString) :
    Except DomainError Unit :=
  if isCompressedName (filename.getD []) || COMPRESSED_MIMES.contains mimeType then
    .error (.InvalidRequestBodyError
      (ofString "Compressed or archive uploads are not supported. Send plain NDJSON."))
  else .ok ()

/-- `create` up to its first `await`, with the key. -/
def checkRequest (request : UploadRequest) : Except DomainError JsString :=
  match request.idempotencyKey with
  | none | some (.list _) => .error .MissingIdempotencyKeyError
  | some (.text idempotencyKey) =>
      if idempotencyKey.isEmpty then .error .MissingIdempotencyKeyError
      else if !request.isMultipart then
        .error (.InvalidRequestBodyError
          (ofString "Request must be multipart/form-data containing a file field."))
      else if request.contentEncoding.any
          (fun encoding => !encoding.isEmpty && encoding != ofString "identity") then
        .error (.InvalidRequestBodyError
          (ofString "Compressed uploads are not supported. Send the file uncompressed."))
      else .ok idempotencyKey

/-- `readFilePart`, of what `request.file()` has come to. -/
def readFilePart : Except Raised (Option FilePart) → Except DomainError (Option FilePart)
  | .ok part => .ok part
  | .error (.error _ message _) => .error (.InvalidRequestBodyError message)
  | .error (.other _ _ _) =>
      .error (.InvalidRequestBodyError (ofString "Malformed multipart request."))

/-- `create` from there to the call of `execute`. -/
def toCommand (idempotencyKey : JsString) (read : Except Raised (Option FilePart)) :
    Except DomainError CreateImportCommand := do
  match ← readFilePart read with
  | none => .error .NoFileUploadedError
  | some part =>
      if part.fieldname != EXPECTED_FIELD_NAME then
        .error (.InvalidRequestBodyError (ofString "Expected a file field named \"file\"."))
      else
        assertNotCompressedArchive part.filename part.mimetype
        .ok
          { idempotencyKey
            fileStream := some part.file
            originalFilename := part.filename
            mimeType := part.mimetype }

end ImportController

/-! ### A request on its way -/

namespace ImportApi

/-- `maxConcurrentUploads` is `Number(process.env.MAX_CONCURRENT_UPLOADS ?? 10)`. -/
structure Config where
  storage : StorageConfig
  maxConcurrentUploads : JsNumber

/-- What the client of the database throws for a violated index, and for a read of one row that
is not there. -/
structure Ports where
  uniqueViolation : UniqueIndex → Raised
  recordNotFound : Raised

/-- The name of the operation in the errors of the database. -/
def operation : String := "ImportRepository.createOrReturnExisting"

/-- What a failure of `execute` is to its caller. -/
def exceptionOf (ports : Ports) : Failure → Exception
  | .noFileUploaded => .domain .NoFileUploadedError
  | .invalidFileType received => .domain (.InvalidFileTypeError received)
  | .fileTooLarge limitBytes => .domain (.FileTooLargeError limitBytes)
  | .database index => .domain (.wrapDatabaseError (ports.uniqueViolation index) operation)
  | .recordNotFound => .raised ports.recordNotFound

/-- How a request has ended, with the command it has called `execute` with. A lost one has no
reply, as its process has ended before. -/
inductive Ending
  | returned (command : CreateImportCommand) (importRecord : ImportRecord)
  | threw (command : Option CreateImportCommand) (exception : Exception)
  | lost (command : Option CreateImportCommand)

/-- `severed` is a transaction that has outlived the process that sent it. -/
inductive Stage
  | admitted
  | readingPart (idempotencyKey : JsString)
  | executing (command : CreateImportCommand) (phase : Phase)
  | severed (command : CreateImportCommand) (storagePath : JsString)
  | ended (ending : Ending)

/-- Whether the handler of the request has not come to its end. -/
def Stage.isOpen : Stage → Bool
  | .admitted | .readingPart _ | .executing _ _ => true
  | .severed _ _ | .ended _ => false

/-- The number of a process of the service. -/
abbrev ProcessId := Nat

/-- A request, the process that has it, and how far it has come. -/
structure Exchange where
  process : ProcessId
  request : UploadRequest
  stage : Stage

/-- What the client gets. -/
def Exchange.reply (exchange : Exchange) : Option ApiReply :=
  match exchange.stage with
  | .ended (.returned _ importRecord) =>
      some (.accepted (CreateImportResponseDto.ofRecord importRecord))
  | .ended (.threw _ exception) =>
      some (.error (AppExceptionFilter.reply exchange.request.requestId exception))
  | .ended (.lost _) | .admitted | .readingPart _ | .executing _ _ | .severed _ _ => none

/-- The line the filter logs for it. -/
def Exchange.logged (exchange : Exchange) : Option LogLine :=
  match exchange.stage with
  | .ended (.threw _ exception) =>
      some (AppExceptionFilter.logged exchange.request.requestId exception)
  | .ended (.returned _ _) | .ended (.lost _) | .admitted | .readingPart _ | .executing _ _
  | .severed _ _ => none

/-! ### What can happen to it -/

/-- The names an import gets in a transaction. -/
structure Names where
  importId : ImportId
  jobId : JobId
  createdAt : Nat
  deriving DecidableEq

/-- An `await` of `execute` that rejects, with what has happened nevertheless: the bytes of a file
that could not be removed, or the names under which a transaction has committed. -/
inductive Breakdown
  | storage (raised : Raised)
  | upload (left : Option (List UInt8)) (raised : Raised)
  | transaction (committed : Option Names) (raised : Raised)
  | existingRead (raised : Raised)
  | deletion (raised : Raised)

/-- What a request waits for has happened. -/
inductive Event
  | called
  | partRead (read : Except Raised (Option FilePart))
  | proceeds (event : CreateImport.Event)
  | breaksDown (breakdown : Breakdown)
  | comesThrough (committed : Option Names)

/-- A transaction that commits and whose answer nobody gets. -/
def commitUnseen (now : Nat) (command : CreateImportCommand) (storagePath : JsString)
    (names : Names) (store : Store) : Option Store :=
  if System.isFresh names.importId names.jobId store.db then
    (ImportRepository.createTransaction
      (createInput command storagePath names.importId names.createdAt) names.jobId now
      store).toOption
  else none

/-- A transaction without an answer: it is rolled back, or it commits. -/
def unanswered (now : Nat) (command : CreateImportCommand) (storagePath : JsString)
    (store : Store) : Option Names → Option Store
  | none => some store
  | some names => commitUnseen now command storagePath names store

/-- What a breakdown leaves in the store, by the phase of the call it strikes. A lost answer of the
transaction may come after its commit. -/
def breakDown (now : Nat) (command : CreateImportCommand) (store : Store) :
    Phase → Breakdown → Option (Store × Exception)
  | .starting _ _, .storage raised => some (store, .raised raised)
  | .saving _ storagePath, .upload none raised =>
      some (DiskFileStorage.rm storagePath store, .raised raised)
  | .saving _ storagePath, .upload (some bytes) raised =>
      some (DiskFileStorage.fill storagePath bytes store, .raised raised)
  | .creating storagePath, .transaction committed raised =>
      (unanswered now command storagePath store committed).map fun store =>
        (store, .domain (.wrapDatabaseError raised operation))
  | .readingExisting _, .existingRead raised => some (store, .raised raised)
  | .deleting _ _, .deletion raised => some (store, .raised raised)
  | _, _ => none

/-- `execute` has ended, or it waits. -/
def settle (ports : Ports) (command : CreateImportCommand) : Phase → Stage
  | .returned result => .ended (.returned command result.importRecord)
  | .threw failure => .ended (.threw (some command) (exceptionOf ports failure))
  | phase => .executing command phase

/-- From one `await` of a request to the next. -/
def proceed (config : Config) (ports : Ports) (now : Nat) (request : UploadRequest)
    (store : Store) : Stage → Event → Option (Store × Stage)
  | .admitted, .called =>
      match ImportController.checkRequest request with
      | .error error => some (store, .ended (.threw none (.domain error)))
      | .ok idempotencyKey => some (store, .readingPart idempotencyKey)
  | .readingPart idempotencyKey, .partRead read =>
      match ImportController.toCommand idempotencyKey read with
      | .error error => some (store, .ended (.threw none (.domain error)))
      | .ok command => some (store, settle ports command (begin command))
  | .executing command phase, .proceeds event =>
      (CreateImport.proceed config.storage now command store phase event).map fun result =>
        (result.1, settle ports command result.2)
  | .executing command phase, .breaksDown breakdown =>
      (breakDown now command store phase breakdown).map fun result =>
        (result.1, .ended (.threw (some command) result.2))
  | .severed command storagePath, .comesThrough committed =>
      (unanswered now command storagePath store committed).map fun store =>
        (store, .ended (.lost (some command)))
  | _, _ => none

/-- A request of a process that ends. -/
def Stage.sever : Stage → Stage
  | .admitted | .readingPart _ => .ended (.lost none)
  | .executing command (.creating storagePath) => .severed command storagePath
  | .executing command _ => .ended (.lost (some command))
  | .severed command storagePath => .severed command storagePath
  | .ended ending => .ended ending

/-! ### The service -/

/-- The store, the requests in the order they came, and the counter of each process. -/
structure State where
  now : Nat
  store : Store
  inFlight : ProcessId → Int
  exchanges : List Exchange

/-- `elsewhere` is a statement of another part of the service. -/
inductive Action
  | advance (milliseconds : Nat)
  | elsewhere (statement : Statement)
  | receive (process : ProcessId) (request : UploadRequest)
  | proceed (index : Nat) (event : Event)
  | restart (process : ProcessId)

/-- `inFlight >= limit` -/
def isReached (limit : JsNumber) (inFlight : Int) : Bool :=
  match limit with
  | .nan => false
  | limit => !JsNumber.less (.finite inFlight) limit

/-- `finalize` counts a request out when its handler has come to its end. -/
def finalize (before after : Stage) (inFlight : Int) : Int :=
  if before.isOpen && !after.isOpen then inFlight - 1 else inFlight

/-- A step of the clock, of another party, or of a request. -/
def step (config : Config) (ports : Ports) (state : State) : Action → Option State
  | .advance milliseconds => some { state with now := state.now + milliseconds }
  | .elsewhere statement =>
      if createsImport statement then none
      else some { state with
        store := { state.store with db := statement.commit state.now state.store.db } }
  | .receive process request =>
      if isReached config.maxConcurrentUploads (state.inFlight process) then
        let refused := Exception.domain (.TooManyConcurrentUploadsError config.maxConcurrentUploads)
        some { state with
          exchanges := state.exchanges ++ [⟨process, request, .ended (.threw none refused)⟩] }
      else some { state with
        inFlight := Function.update state.inFlight process (state.inFlight process + 1)
        exchanges := state.exchanges ++ [⟨process, request, .admitted⟩] }
  | .proceed index event =>
      match state.exchanges[index]? with
      | none => none
      | some exchange =>
          (proceed config ports state.now exchange.request state.store exchange.stage event).map
            fun result =>
              { state with
                store := result.1
                inFlight := Function.update state.inFlight exchange.process
                  (finalize exchange.stage result.2 (state.inFlight exchange.process))
                exchanges := state.exchanges.set index { exchange with stage := result.2 } }
  | .restart process =>
      some { state with
        inFlight := Function.update state.inFlight process 0
        exchanges := state.exchanges.map fun exchange =>
          if exchange.process = process then { exchange with stage := exchange.stage.sever }
          else exchange }

/-- No request has come yet. -/
def initial (now : Nat) (store : Store) : State where
  now := now
  store := store
  inFlight := fun _ => 0
  exchanges := []

end ImportApi

end ImportService
