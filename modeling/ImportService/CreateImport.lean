/-
This file models `CreateImportUseCase.execute` with the storage and the repository method
it calls, as a process that stops at every `await`, and any number of such calls over one
set of tables and one directory. `Phase` is what a call waits for.

The transaction of `createOrReturnExisting` takes effect at its commit, and the inserts
before a violated unique index are rolled back. Inserts of one key wait for each other,
so the violation is found when the other transaction has committed. The names and ids
that are generated are in the labels, and a label is enabled only if they are fresh. The
size and the checksum of a file are left out, as no code reads them back.
-/

import ImportService.System

namespace ImportService

open KeyedTable

/-! ### The store -/

/-- A row of `idempotency_keys`: the key of a request and the import it has made. -/
structure IdempotencyKeyRow where
  key : JsString
  importId : ImportId
  deriving DecidableEq

/-- A file under the storage root. -/
structure StoredFile where
  storagePath : JsString
  content : List UInt8
  deriving DecidableEq

/-- The tables, with the one of the idempotency keys, and the directory of the uploads. -/
structure Store where
  db : Database
  idempotencyKeys : List IdempotencyKeyRow
  files : List StoredFile

/-- The paths of all files. -/
def Store.paths (store : Store) : List JsString := store.files.map StoredFile.storagePath

/-- The paths the `import_files` rows refer to. -/
def Store.referenced (store : Store) : List JsString :=
  store.db.importFiles.map ImportFileRow.storagePath

/-- `STORAGE_ROOT` and `MAX_UPLOAD_BYTES` -/
structure StorageConfig where
  storageRoot : JsString
  maxUploadBytes : Nat

/-- A readable stream. `truncated` is set by the parser of the multipart body. -/
structure FileStream where
  bytes : List UInt8
  truncated : Bool
  deriving DecidableEq

/-! ### DiskFileStorage -/

namespace DiskFileStorage

/-- The extension that is kept for the generated name: a dot with up to ten letters and digits, and
`.dat` for any other. -/
def sanitizeExtension (extension : JsString) : JsString :=
  match extension with
  | 0x2e :: rest =>
      if 1 ≤ rest.length && rest.length ≤ 10 &&
          rest.all (fun unit => JsString.isLetter unit || JsString.isDigit unit) then
        JsString.toLowerCase extension
      else JsString.ofString ".dat"
  | _ => JsString.ofString ".dat"

/-- `path.join(STORAGE_ROOT, generatedName)`. It is within the root, as neither part of the name
has a separator. -/
def pathOf (storageRoot uuid extension : JsString) : JsString :=
  storageRoot ++ JsString.ofString "/" ++ uuid ++ sanitizeExtension extension

/-- `createWriteStream(storagePath)`, for a path that is not in use. -/
def createWriteStream (storagePath : JsString) (store : Store) : Store :=
  { store with files := store.files ++ [{ storagePath, content := [] }] }

/-- `rm(storagePath, { force: true })` -/
def rm (storagePath : JsString) (store : Store) : Store :=
  { store with files := store.files.filter fun file => file.storagePath != storagePath }

/-- The file holds all that the stream yields. -/
def fill (storagePath : JsString) (bytes : List UInt8) (store : Store) : Store :=
  { store with
    files := updateWhere (fun file => file.storagePath == storagePath)
      (fun file => { file with content := bytes }) store.files }

/-- `save` stops the stream at more bytes than allowed, and one that was cut off before is no
upload. -/
def fits (maxBytes : Nat) (source : FileStream) : Bool :=
  source.bytes.length ≤ maxBytes && !source.truncated

end DiskFileStorage

/-! ### The transaction of createOrReturnExisting -/

/-- The unique indexes its inserts can violate. -/
inductive UniqueIndex
  | importsId
  | idempotencyKeysKey
  | idempotencyKeysImportId
  | processingJobsImportId
  deriving DecidableEq

/-- The columns of an index, as Prisma names them. -/
def UniqueIndex.fields : UniqueIndex → List JsString
  | .importsId => [JsString.ofString "id"]
  | .idempotencyKeysKey => [JsString.ofString "key"]
  | .idempotencyKeysImportId | .processingJobsImportId => [JsString.ofString "importId"]

/-- What `createOrReturnExisting` is called with. -/
structure CreateImportInput where
  id : ImportId
  createdAt : Nat
  idempotencyKey : JsString
  storagePath : JsString
  deriving DecidableEq

/-- `toDomain` hands on the fields of a row. -/
abbrev ImportRecord := ImportRow

/-- The import of the key, and whether this call has made it. -/
structure CreateImportResult where
  importRecord : ImportRecord
  isNew : Bool
  deriving DecidableEq

/-- A `PrismaClientKnownRequestError`: its code, and of its `meta` the arrays that may name the
fields of a violated index, `target` and `driverAdapterError.cause.constraint.fields`. -/
structure KnownRequestError where
  code : JsString
  target : Option (List JsString)
  constraintFields : Option (List JsString)

/-- Where the client names the fields: its own engine uses `target`, a driver adapter its error. -/
inductive MetaShape
  | target
  | driverAdapterError
  deriving DecidableEq

/-- The `P2002` that Prisma raises for an index. The adapter decides where it puts the columns. -/
def uniqueViolation (shape : MetaShape) (index : UniqueIndex) : KnownRequestError where
  code := JsString.ofString "P2002"
  target := if shape = .target then some index.fields else none
  constraintFields := if shape = .driverAdapterError then some index.fields else none

namespace ImportRepository

/-- The columns are read from either place of `meta`. -/
def extractViolatedFields (err : KnownRequestError) : List JsString :=
  match err.target with
  | some target => target
  | none =>
      match err.constraintFields with
      | some fields => fields
      | none => []

/-- Only a violation of the unique index on `key` alone is taken for a request that came before. -/
def isIdempotencyKeyConflict (err : KnownRequestError) : Bool :=
  err.code == JsString.ofString "P2002" && extractViolatedFields err == [JsString.ofString "key"]

/-- `tx.import.create` -/
def insertImport (input : CreateImportInput) (now : Nat) (store : Store) :
    Except UniqueIndex Store :=
  if (store.db.findImport input.id).isSome then .error .importsId
  else .ok { store with db := { store.db with
    imports := store.db.imports ++ [newImport input.id input.createdAt now] } }

/-- `tx.idempotencyKey.create` -/
def insertIdempotencyKey (input : CreateImportInput) (store : Store) : Except UniqueIndex Store :=
  if (lookup IdempotencyKeyRow.key store.idempotencyKeys input.idempotencyKey).isSome then
    .error .idempotencyKeysKey
  else if (lookup IdempotencyKeyRow.importId store.idempotencyKeys input.id).isSome then
    .error .idempotencyKeysImportId
  else .ok { store with
    idempotencyKeys := store.idempotencyKeys ++
      [{ key := input.idempotencyKey, importId := input.id }] }

/-- `tx.importFile.create` -/
def insertImportFile (input : CreateImportInput) (now : Nat) (store : Store) : Store :=
  { store with db := { store.db with
    importFiles := store.db.importFiles ++
      [{ importId := input.id, storagePath := input.storagePath, createdAt := now }] } }

/-- `tx.processingJob.create` -/
def insertProcessingJob (input : CreateImportInput) (jobId : JobId) (now : Nat) (store : Store) :
    Except UniqueIndex Store :=
  if (store.db.findJobOf input.id).isSome then .error .processingJobsImportId
  else .ok { store with db := { store.db with
    jobs := store.db.jobs ++ [newJob input.id jobId now] } }

/-- The four inserts of the transaction, in their order. The first index that is violated ends
it. -/
def createTransaction (input : CreateImportInput) (jobId : JobId) (now : Nat) (store : Store) :
    Except UniqueIndex Store := do
  let store ← insertImport input now store
  let store ← insertIdempotencyKey input store
  insertProcessingJob input jobId now (insertImportFile input now store)

/-- The read in the `catch` block, which throws when the key is not there. -/
def findExisting (idempotencyKey : JsString) (store : Store) : Option CreateImportResult := do
  let existingKey ← lookup IdempotencyKeyRow.key store.idempotencyKeys idempotencyKey
  let importRecord ← store.db.findImport existingKey.importId
  some { importRecord, isNew := false }

end ImportRepository

/-! ### Calls of execute -/

namespace CreateImport

/-- The extensions of a file that may be uploaded. -/
def ALLOWED_EXTENSIONS : List JsString :=
  [".ndjson", ".jsonl", ".json"].map JsString.ofString

/-- The types of a file that may be uploaded. -/
def ALLOWED_MIME_TYPES : List JsString :=
  ["application/x-ndjson", "application/json", "text/plain", "application/octet-stream"].map
    JsString.ofString

/-- What the use case is called with. -/
structure CreateImportCommand where
  idempotencyKey : JsString
  fileStream : Option FileStream
  originalFilename : Option JsString
  mimeType : JsString
  deriving DecidableEq

/-- What a call can fail with. -/
inductive Failure
  | noFileUploaded
  | invalidFileType (received : JsString)
  | fileTooLarge (limitBytes : Nat)
  | database (index : UniqueIndex)
  | recordNotFound
  deriving DecidableEq

/-- `/\.[^.]+$/`: the last dot with what follows it, if anything does. -/
def extractExtension (filename : Option JsString) : JsString :=
  let name := filename.getD []
  let afterDot := (name.reverse.takeWhile (· != 0x2e)).reverse
  if name.contains 0x2e && !afterDot.isEmpty then JsString.toLowerCase (0x2e :: afterDot) else []

/-- The text of the error of `assertAllowedFileType`. -/
def received (extension mimeType : JsString) : JsString :=
  mimeType ++ JsString.ofString " (" ++
    (if extension.isEmpty then JsString.ofString "no extension" else extension) ++
    JsString.ofString ")"

/-- An extension and a type that are both allowed. -/
def assertAllowedFileType (extension mimeType : JsString) : Except Failure Unit :=
  if ALLOWED_EXTENSIONS.contains extension && ALLOWED_MIME_TYPES.contains mimeType then .ok ()
  else .error (.invalidFileType (received extension mimeType))

/-- What a call waits for, or how it has ended. -/
inductive Phase
  | starting (source : FileStream) (extension : JsString)
  | saving (source : FileStream) (storagePath : JsString)
  | creating (storagePath : JsString)
  | readingExisting (storagePath : JsString)
  | deleting (storagePath : JsString) (result : CreateImportResult)
  | returned (result : CreateImportResult)
  | threw (failure : Failure)
  deriving DecidableEq

/-- The code up to the first `await`. -/
def begin (command : CreateImportCommand) : Phase :=
  match command.fileStream with
  | none => .threw .noFileUploaded
  | some source =>
      let extension := extractExtension command.originalFilename
      match assertAllowedFileType extension command.mimeType with
      | .error failure => .threw failure
      | .ok () => .starting source extension

/-- What lets a call go on, with the names and ids it generates. -/
inductive Event
  | createFile (uuid : JsString)
  | streamEnded
  | transaction (importId : ImportId) (jobId : JobId) (createdAt : Nat) (shape : MetaShape)
  | existingRead
  | fileDeleted
  deriving DecidableEq

/-- No file and no row has the path: the generated name is a fresh UUID. -/
def isFreshPath (storagePath : JsString) (store : Store) : Bool :=
  !store.paths.contains storagePath && !store.referenced.contains storagePath

/-- What `execute` hands to `createOrReturnExisting`. -/
def createInput (command : CreateImportCommand) (storagePath : JsString) (importId : ImportId)
    (createdAt : Nat) : CreateImportInput where
  id := importId
  createdAt := createdAt
  idempotencyKey := command.idempotencyKey
  storagePath := storagePath

/-- The code after the transaction. -/
def afterTransaction (input : CreateImportInput) (jobId : JobId) (now : Nat) (shape : MetaShape)
    (store : Store) : Store × Phase :=
  match ImportRepository.createTransaction input jobId now store with
  | .ok created =>
      (created, .returned
        { importRecord := ImportRepository.newImport input.id input.createdAt now, isNew := true })
  | .error index =>
      if ImportRepository.isIdempotencyKeyConflict (uniqueViolation shape index) then
        (store, .readingExisting input.storagePath)
      else (store, .threw (.database index))

/-- From one `await` to the next. -/
def proceed (config : StorageConfig) (now : Nat) (command : CreateImportCommand) (store : Store) :
    Phase → Event → Option (Store × Phase)
  | .starting source extension, .createFile uuid =>
      let storagePath := DiskFileStorage.pathOf config.storageRoot uuid extension
      if isFreshPath storagePath store then
        some (DiskFileStorage.createWriteStream storagePath store, .saving source storagePath)
      else none
  | .saving source storagePath, .streamEnded =>
      if DiskFileStorage.fits config.maxUploadBytes source then
        some (DiskFileStorage.fill storagePath source.bytes store, .creating storagePath)
      else
        some (DiskFileStorage.rm storagePath store, .threw (.fileTooLarge config.maxUploadBytes))
  | .creating storagePath, .transaction importId jobId createdAt shape =>
      if System.isFresh importId jobId store.db then
        some (afterTransaction (createInput command storagePath importId createdAt) jobId now shape
          store)
      else none
  | .readingExisting storagePath, .existingRead =>
      match ImportRepository.findExisting command.idempotencyKey store with
      | none => some (store, .threw .recordNotFound)
      | some result => some (store, .deleting storagePath result)
  | .deleting storagePath result, .fileDeleted =>
      some (DiskFileStorage.rm storagePath store, .returned result)
  | _, _ => none

/-- A call of the use case and where it is. -/
structure Call where
  command : CreateImportCommand
  phase : Phase
  deriving DecidableEq

/-- The number of a call. -/
abbrev CallId := Nat

/-- The time, the tables with the files, and the calls that have been made. -/
structure State where
  now : Nat
  store : Store
  calls : CallId → Option Call

/-- `elsewhere` is a statement of another part of the service. Nothing else creates imports. -/
inductive Action
  | advance (milliseconds : Nat)
  | elsewhere (statement : Statement)
  | execute (callId : CallId) (command : CreateImportCommand)
  | proceed (callId : CallId) (event : Event)

/-- The statement is that of an upload. -/
def createsImport : Statement → Bool
  | .create _ _ _ _ => true
  | .claimNext _ _ _ | .renewLease _ _ _ | .updateBothJob _ _ | .updateBothImport _ _
  | .releaseJob _ _ | .releaseImport _ | .reclaim _ _ _ | .cancel _ | .persistBatch _ => false

/-- A step of the clock, of a worker or a cancellation, or of one of the calls. -/
def step (config : StorageConfig) (state : State) : Action → Option State
  | .advance milliseconds => some { state with now := state.now + milliseconds }
  | .elsewhere statement =>
      if createsImport statement then none
      else some { state with
        store := { state.store with db := statement.commit state.now state.store.db } }
  | .execute callId command =>
      match state.calls callId with
      | some _ => none
      | none => some { state with
          calls := Function.update state.calls callId (some { command, phase := begin command }) }
  | .proceed callId event =>
      match state.calls callId with
      | none => none
      | some call =>
          (proceed config state.now call.command state.store call.phase event).map fun result =>
            { state with
              store := result.1
              calls := Function.update state.calls callId (some { call with phase := result.2 }) }

/-- No call has been made yet. -/
def initial (now : Nat) (store : Store) : State where
  now := now
  store := store
  calls := fun _ => none

end CreateImport

end ImportService
