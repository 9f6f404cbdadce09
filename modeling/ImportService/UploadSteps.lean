/-
This file proves what one step of a request does, in the service where any `await` may reject and
any process may end.

A step touches no path but the one of the upload of its request, as in a run where nothing fails
(`keeps_of_goes`). What is new is how a request can end: with its import made and no word of it,
and with its file left behind.
-/

import Mathlib.Data.List.Count
import ImportService.Idempotency
import ImportService.ImportApi

namespace ImportService.ImportApi

open KeyedTable CreateImport JsString AppExceptionFilter

/-! ### How a request can end -/

/-- The wrapped error of a database operation. -/
def isDatabaseError : Exception → Bool
  | .domain error => error.code == ofString "DATABASE_UNAVAILABLE"
  | .raised _ => false

theorem isDatabaseError_wrap (raised : Raised) :
    isDatabaseError (.domain (.wrapDatabaseError raised operation)) = true :=
  beq_self_eq_true (ofString "DATABASE_UNAVAILABLE")

/-- The exception is no error of the domain. -/
def isRaised : Exception → Bool
  | .raised _ => true
  | .domain _ => false

/-- The command of a call that has been made. -/
def Ending.command? : Ending → Option CreateImportCommand
  | .returned command _ => some command
  | .threw command _ => command
  | .lost command => command

/-- Whether the request can have made an import. -/
def Ending.mayHaveCreated : Ending → Bool
  | .returned _ _ => true
  | .threw _ exception => isDatabaseError exception
  | .lost _ => true

/-- Whether the request can have left a file that no row refers to. -/
def Ending.mayLeaveFile : Ending → Bool
  | .returned _ _ => false
  | .threw _ exception => isDatabaseError exception || isRaised exception
  | .lost _ => true

/-- The path of its upload that a request still has. -/
def Stage.path? : Stage → Option JsString
  | .executing _ phase => phase.path?
  | .severed _ storagePath => some storagePath
  | .admitted | .readingPart _ | .ended _ => none

/-- A request that has ended and whose import may be under a key. -/
def Stage.Created (store : Store) (row : IdempotencyKeyRow) (stage : Stage) : Prop :=
  ∃ ending command, stage = .ended ending ∧ ending.mayHaveCreated = true ∧
    ending.command? = some command ∧ command.idempotencyKey = row.key ∧
    StoredFor store command row.importId

/-- A request that answers for a file that no row refers to. -/
def Stage.Holds (path : JsString) (stage : Stage) : Prop :=
  stage.path? = some path ∨ ∃ ending command, stage = .ended ending ∧
    ending.mayLeaveFile = true ∧ ending.command? = some command

/-- What holds of a request at each point, in a run from a store. -/
def Stage.Fits (maxUploadBytes : Nat) (start store : Store) (request : UploadRequest) :
    Stage → Prop
  | .admitted => True
  | .readingPart idempotencyKey => request.idempotencyKey = some (.text idempotencyKey)
  | .executing command phase =>
      request.idempotencyKey = some (.text command.idempotencyKey) ∧
        CreateImport.Fits maxUploadBytes start store command phase
  | .severed command storagePath =>
      request.idempotencyKey = some (.text command.idempotencyKey) ∧
        CreateImport.Fits maxUploadBytes start store command (.creating storagePath)
  | .ended ending =>
      (∀ command, ending.command? = some command →
        request.idempotencyKey = some (.text command.idempotencyKey)) ∧
      match ending with
      | .returned command importRecord =>
          ⟨command.idempotencyKey, importRecord.id⟩ ∈ store.idempotencyKeys
      | .threw _ exception => IsExpected exception
      | .lost _ => True

/-! ### What a step of a request can do -/

/-- A transaction without an answer, over a consistent store. -/
inductive Unanswered (command : CreateImportCommand) (storagePath : JsString) (store : Store) :
    Store → Prop
  | rollsBack : Unanswered command storagePath store store
  | commits {importId : ImportId} {jobId : JobId} {createdAt now : Nat}
      (free : command.idempotencyKey ∉ store.idempotencyKeys.map IdempotencyKeyRow.key)
      (fresh : System.isFresh importId jobId store.db = true) :
      Unanswered command storagePath store
        (store.withImport (createInput command storagePath importId createdAt) jobId now)

/-- An `await` of `execute` that rejects, over a consistent store. -/
inductive Breaks (command : CreateImportCommand) (store : Store) :
    Phase → Store → Exception → Prop
  | untouched {phase : Phase} {raised : Raised} : Breaks command store phase store (.raised raised)
  | removes {source : FileStream} {storagePath : JsString} {raised : Raised} :
      Breaks command store (.saving source storagePath) (DiskFileStorage.rm storagePath store)
        (.raised raised)
  | leaves {source : FileStream} {storagePath : JsString} {bytes : List UInt8} {raised : Raised} :
      Breaks command store (.saving source storagePath)
        (DiskFileStorage.fill storagePath bytes store) (.raised raised)
  | unanswered {storagePath : JsString} {next : Store} {raised : Raised}
      (transaction : Unanswered command storagePath store next) :
      Breaks command store (.creating storagePath) next
        (.domain (.wrapDatabaseError raised operation))

/-- A step of a request, over a consistent store. -/
inductive Goes (config : Config) (ports : Ports) (request : UploadRequest) (store : Store) :
    Stage → Store → Stage → Prop
  | turnsDown {stage : Stage} {error : DomainError} (early : stage.path? = none)
      (going : stage.isOpen = true) (expected : IsExpected (.domain error)) :
      Goes config ports request store stage store (.ended (.threw none (.domain error)))
  | checks {idempotencyKey : JsString}
      (given : request.idempotencyKey = some (.text idempotencyKey)) :
      Goes config ports request store .admitted store (.readingPart idempotencyKey)
  | starts {idempotencyKey : JsString} {command : CreateImportCommand}
      (same : command.idempotencyKey = idempotencyKey) :
      Goes config ports request store (.readingPart idempotencyKey) store
        (settle ports command (begin command))
  | proceeds {command : CreateImportCommand} {phase after : Phase} {next : Store}
      (moves : Proceeds config.storage.maxUploadBytes command store phase next after) :
      Goes config ports request store (.executing command phase) next (settle ports command after)
  | breaks {command : CreateImportCommand} {phase : Phase} {next : Store} {exception : Exception}
      (fails : Breaks command store phase next exception) :
      Goes config ports request store (.executing command phase) next
        (.ended (.threw (some command) exception))
  | comesThrough {command : CreateImportCommand} {storagePath : JsString} {next : Store}
      (transaction : Unanswered command storagePath store next) :
      Goes config ports request store (.severed command storagePath) next
        (.ended (.lost (some command)))

section

variable {config : Config} {ports : Ports} {now : Nat} {request : UploadRequest}
  {command : CreateImportCommand} {store next : Store} {stage after : Stage}

theorem unanswered_of_eq {storagePath : JsString} {committed : Option Names}
    (consistent : store.Consistent)
    (enabled : unanswered now command storagePath store committed = some next) :
    Unanswered command storagePath store next := by
  cases committed with
  | none =>
    cases enabled
    exact .rollsBack
  | some names =>
    rw [unanswered, commitUnseen] at enabled
    cases fresh : System.isFresh names.importId names.jobId store.db with
    | false =>
      rw [fresh, if_neg Bool.false_ne_true] at enabled
      cases enabled
    | true =>
      rw [fresh, if_pos rfl, createTransaction_eq consistent fresh] at enabled
      split at enabled
      · cases enabled
      · rename_i free
        cases enabled
        exact .commits free fresh

theorem breaks_of_breakDown {phase : Phase} {breakdown : Breakdown} {exception : Exception}
    (consistent : store.Consistent)
    (enabled : breakDown now command store phase breakdown = some (next, exception)) :
    Breaks command store phase next exception := by
  unfold breakDown at enabled
  split at enabled
  · cases enabled
    exact .untouched
  · cases enabled
    exact .removes
  · cases enabled
    exact .leaves
  · obtain ⟨committed, transaction, same⟩ := Option.map_eq_some_iff.mp enabled
    cases same
    exact .unanswered (unanswered_of_eq consistent transaction)
  · cases enabled
    exact .untouched
  · cases enabled
    exact .untouched
  · cases enabled

theorem checkRequest_error {error : DomainError}
    (invalid : ImportController.checkRequest request = .error error) :
    IsExpected (.domain error) := by
  have missing : IsExpected (.domain .MissingIdempotencyKeyError) :=
    .listed List.mem_cons_self rfl rfl rfl rfl
  unfold ImportController.checkRequest at invalid
  split at invalid
  · cases invalid
    exact missing
  · cases invalid
    exact missing
  · split at invalid
    · cases invalid
      exact missing
    · split at invalid
      · cases invalid
        exact .invalidRequestBody _
      · split at invalid
        · cases invalid
          exact .invalidRequestBody _
        · cases invalid

theorem checkRequest_ok {idempotencyKey : JsString}
    (valid : ImportController.checkRequest request = .ok idempotencyKey) :
    request.idempotencyKey = some (.text idempotencyKey) := by
  unfold ImportController.checkRequest at valid
  split at valid
  · cases valid
  · cases valid
  · rename_i given
    split at valid
    · cases valid
    · split at valid
      · cases valid
      · split at valid
        · cases valid
        · cases valid
          exact given

theorem readFilePart_error {read : Except Raised (Option FilePart)} {error : DomainError}
    (fails : ImportController.readFilePart read = .error error) :
    IsExpected (.domain error) := by
  unfold ImportController.readFilePart at fails
  split at fails
  · cases fails
  · cases fails
    exact .invalidRequestBody _
  · cases fails
    exact .invalidRequestBody _

/-- What `create` makes of the part it has read. -/
theorem toCommand_cases (idempotencyKey : JsString) (read : Except Raised (Option FilePart)) :
    (∃ error, ImportController.toCommand idempotencyKey read = .error error ∧
        IsExpected (.domain error)) ∨
      ∃ part, read = .ok (some part) ∧
        ImportController.toCommand idempotencyKey read = .ok
          { idempotencyKey
            fileStream := some part.file
            originalFilename := part.filename
            mimeType := part.mimetype } := by
  cases parsed : ImportController.readFilePart read with
  | error error =>
    refine Or.inl ⟨error, ?_, readFilePart_error parsed⟩
    simp only [ImportController.toCommand, parsed, bind, Except.bind]
  | ok part? =>
    cases part? with
    | none =>
      refine Or.inl ⟨.NoFileUploadedError, ?_, ?_⟩
      · simp only [ImportController.toCommand, parsed, bind, Except.bind]
      · exact .listed (List.mem_of_getElem? (i := 2) rfl) rfl rfl rfl rfl
    | some part =>
      have isPart : read = .ok (some part) := by
        unfold ImportController.readFilePart at parsed
        split at parsed
        · cases parsed
          rfl
        · cases parsed
        · cases parsed
      by_cases otherField : part.fieldname != ImportController.EXPECTED_FIELD_NAME
      · have reason : ImportController.toCommand idempotencyKey read = .error
            (.InvalidRequestBodyError (ofString "Expected a file field named \"file\".")) := by
          simp only [ImportController.toCommand, parsed, bind, Except.bind, otherField, if_true]
        exact Or.inl ⟨_, reason, .invalidRequestBody _⟩
      · cases archive : ImportController.assertNotCompressedArchive part.filename part.mimetype with
        | error error =>
          refine Or.inl ⟨error, ?_, ?_⟩
          · simp only [ImportController.toCommand, parsed, bind, Except.bind, otherField, archive]
            rfl
          · unfold ImportController.assertNotCompressedArchive at archive
            split at archive
            · cases archive
              exact .invalidRequestBody _
            · cases archive
        | ok =>
          refine Or.inr ⟨part, isPart, ?_⟩
          simp only [ImportController.toCommand, parsed, bind, Except.bind, otherField, archive]
          rfl

theorem isExpected_exceptionOf (ports : Ports) (failure : Failure) :
    IsExpected (exceptionOf ports failure) := by
  cases failure with
  | noFileUploaded => exact .listed (List.mem_of_getElem? (i := 2) rfl) rfl rfl rfl rfl
  | invalidFileType => exact .listed (List.mem_of_getElem? (i := 1) rfl) rfl rfl rfl rfl
  | fileTooLarge => exact .listed (List.mem_of_getElem? (i := 5) rfl) rfl rfl rfl rfl
  | database => exact .listed (List.mem_of_getElem? (i := 8) rfl) rfl rfl rfl rfl
  | recordNotFound => exact .raised _

theorem isExpected_of_breaks {phase : Phase} {exception : Exception}
    (fails : Breaks command store phase next exception) : IsExpected exception := by
  cases fails with
  | untouched | removes | leaves => exact .raised _
  | unanswered => exact .listed (List.mem_of_getElem? (i := 8) rfl) rfl rfl rfl rfl

theorem goes_of_proceed {start : Store} {event : Event} (consistent : store.Consistent)
    (fits : stage.Fits config.storage.maxUploadBytes start store request)
    (enabled : proceed config ports now request store stage event = some (next, after)) :
    Goes config ports request store stage next after := by
  unfold proceed at enabled
  split at enabled
  · split at enabled
    · rename_i invalid
      cases enabled
      exact .turnsDown rfl rfl (checkRequest_error invalid)
    · rename_i valid
      cases enabled
      exact .checks (checkRequest_ok valid)
  · rename_i idempotencyKey read
    rcases toCommand_cases idempotencyKey read with ⟨error, fails, expected⟩ | ⟨part, _, succeeds⟩
    · rw [fails] at enabled
      cases enabled
      exact .turnsDown rfl rfl expected
    · rw [succeeds] at enabled
      cases enabled
      exact .starts rfl
  · rename_i command phase event
    obtain ⟨⟨later, reached⟩, moves, same⟩ := Option.map_eq_some_iff.mp enabled
    cases same
    refine .proceeds (proceeds_of_proceed consistent (fun storagePath reading => ?_) moves)
    have relies := fits.2
    rw [reading] at relies
    exact relies.1
  · rename_i command phase breakdown
    obtain ⟨⟨later, exception⟩, fails, same⟩ := Option.map_eq_some_iff.mp enabled
    cases same
    exact .breaks (breaks_of_breakDown consistent fails)
  · obtain ⟨later, transaction, same⟩ := Option.map_eq_some_iff.mp enabled
    cases same
    exact .comesThrough (unanswered_of_eq consistent transaction)
  · cases enabled

end

/-! ### What a step leaves alone -/

section

variable {config : Config} {ports : Ports} {request : UploadRequest}
  {command : CreateImportCommand} {start store next : Store} {stage after : Stage}
  {storagePath : JsString}

@[simp] theorem path?_settle (command : CreateImportCommand) (phase : Phase) :
    (settle ports command phase).path? = phase.path? := by
  cases phase <;> rfl

theorem keeps_of_unanswered (transaction : Unanswered command storagePath store next) :
    Keeps (some storagePath) store next := by
  cases transaction with
  | rollsBack => exact keeps_refl _ _
  | @commits importId jobId createdAt now =>
    exact keeps_withImport (createInput command storagePath importId createdAt) jobId now

/-- A step touches the path that a request has, or one that was fresh, or none. -/
theorem keeps_of_goes (goes : Goes config ports request store stage next after) :
    ∃ touched, Keeps touched store next ∧ (after.path? = none ∨ after.path? = touched) ∧
      ∀ path, touched = some path →
        stage.path? = some path ∨ stage.path? = none ∧ isFreshPath path store = true := by
  cases goes with
  | turnsDown | checks =>
    refine ⟨none, keeps_refl _ _, Or.inl rfl, fun path some => ?_⟩
    cases some
  | starts =>
    refine ⟨none, keeps_refl _ _, Or.inl ?_, fun path some => ?_⟩
    · rw [path?_settle, path?_begin]
    · cases some
  | proceeds moves =>
    obtain ⟨path, keeps, pathAfter, owns⟩ := keeps_of_proceeds moves
    rw [path?_settle]
    refine ⟨some path, keeps, pathAfter, fun other same => ?_⟩
    cases same
    exact owns
  | breaks fails =>
    cases fails with
    | untouched =>
      refine ⟨none, keeps_refl _ _, Or.inl rfl, fun path some => ?_⟩
      cases some
    | removes => exact ⟨_, keeps_rm, Or.inl rfl, fun path same => Or.inl same⟩
    | leaves => exact ⟨_, keeps_fill _, Or.inl rfl, fun path same => Or.inl same⟩
    | unanswered transaction =>
      exact ⟨_, keeps_of_unanswered transaction, Or.inl rfl, fun path same => Or.inl same⟩
  | comesThrough transaction =>
    exact ⟨_, keeps_of_unanswered transaction, Or.inl rfl, fun path same => Or.inl same⟩

/-! ### The store stays consistent -/

theorem consistent_of_unanswered {maxUploadBytes : Nat} (consistent : store.Consistent)
    (fits : CreateImport.Fits maxUploadBytes start store command (.creating storagePath))
    (transaction : Unanswered command storagePath store next) : next.Consistent := by
  cases transaction with
  | rollsBack => exact consistent
  | commits free fresh => exact consistent_withImport consistent free fresh fits.2.written

theorem consistent_of_goes (consistent : store.Consistent)
    (fits : stage.Fits config.storage.maxUploadBytes start store request)
    (goes : Goes config ports request store stage next after) : next.Consistent := by
  cases goes with
  | turnsDown | checks | starts => exact consistent
  | proceeds moves => exact consistent_of_proceeds consistent fits.2 moves
  | breaks fails =>
    cases fails with
    | untouched => exact consistent
    | removes => exact consistent_rm consistent fits.2.2.notReferenced
    | leaves =>
      refine consistent_of_files consistent fun path member => ?_
      show path ∈ (DiskFileStorage.fill _ _ store).paths
      rw [paths_fill]
      exact consistent.stored member
    | unanswered transaction => exact consistent_of_unanswered consistent fits.2 transaction
  | comesThrough transaction => exact consistent_of_unanswered consistent fits.2 transaction

/-! ### What a request relies on -/

section

variable {maxUploadBytes : Nat} {touched : Option JsString}

theorem Stage.Fits.uploading (fits : stage.Fits maxUploadBytes start store request)
    (path : stage.path? = some storagePath) : Uploading start store storagePath := by
  cases stage with
  | admitted | readingPart | ended => cases path
  | executing command phase => exact fits.2.uploading path
  | severed command storagePath => exact fits.2.uploading path

/-- The step of another request leaves what a request relies on. -/
theorem Stage.Fits.keeps (fits : stage.Fits maxUploadBytes start store request)
    (keeps : Keeps touched store next)
    (notReferenced : ∀ path ∈ store.referenced, touched ≠ some path)
    (other : ∀ path, stage.path? = some path → touched ≠ some path) :
    stage.Fits maxUploadBytes start next request := by
  cases stage with
  | admitted | readingPart => exact fits
  | executing command phase => exact ⟨fits.1, fits.2.keeps keeps notReferenced other⟩
  | severed command storagePath => exact ⟨fits.1, fits.2.keeps keeps notReferenced other⟩
  | ended ending =>
    refine ⟨fits.1, ?_⟩
    cases ending with
    | returned command importRecord => exact keeps.idempotencyKeys fits.2
    | threw | lost => exact fits.2

theorem fits_settle {phase : Phase} (ports : Ports)
    (given : request.idempotencyKey = some (.text command.idempotencyKey))
    (fits : CreateImport.Fits maxUploadBytes start store command phase) :
    (settle ports command phase).Fits maxUploadBytes start store request := by
  have mine : ∀ other, some command = some other →
      request.idempotencyKey = some (.text other.idempotencyKey) := by
    rintro other ⟨⟩
    exact given
  cases phase with
  | returned result => exact ⟨mine, fits.1⟩
  | threw failure => exact ⟨mine, isExpected_exceptionOf ports failure⟩
  | starting | saving | creating | readingExisting | deleting => exact ⟨given, fits⟩

/-- What the request itself relies on after its step. -/
theorem fits_of_goes (startFiles : start.files ⊆ store.files)
    (startKeys : start.idempotencyKeys ⊆ store.idempotencyKeys)
    (fits : stage.Fits config.storage.maxUploadBytes start store request)
    (goes : Goes config ports request store stage next after) :
    after.Fits config.storage.maxUploadBytes start next request := by
  cases goes with
  | turnsDown early going expected =>
    refine ⟨fun command mine => ?_, expected⟩
    cases mine
  | checks given => exact given
  | @starts idempotencyKey command same =>
    refine fits_settle ports ?_ (fits_begin store command)
    rw [same]
    exact fits
  | proceeds moves =>
    exact fits_settle ports fits.1 (fits_proceeds startFiles startKeys fits.2 moves)
  | breaks fails =>
    refine ⟨fun other mine => ?_, isExpected_of_breaks fails⟩
    cases mine
    exact fits.1
  | comesThrough =>
    refine ⟨fun other mine => ?_, trivial⟩
    cases mine
    exact fits.1

end

/-! ### The keys and the files a step adds -/

theorem created_of_unanswered {maxUploadBytes : Nat} {row : IdempotencyKeyRow} {ending : Ending}
    (fits : CreateImport.Fits maxUploadBytes start store command (.creating storagePath))
    (transaction : Unanswered command storagePath store next)
    (mayHave : ending.mayHaveCreated = true) (mine : ending.command? = some command)
    (member : row ∈ next.idempotencyKeys) :
    row ∈ store.idempotencyKeys ∨ (Stage.ended ending).Created next row := by
  cases transaction with
  | rollsBack => exact Or.inl member
  | @commits importId jobId createdAt now free fresh =>
    refine (List.mem_append.mp member).imp_right fun new => ?_
    obtain ⟨⟨source, isSource, file⟩, _⟩ := fits
    cases List.mem_singleton.mp new
    exact ⟨ending, command, rfl, mayHave, mine, rfl, source, isSource,
      ⟨importId, storagePath, now⟩, List.mem_append_right _ (List.mem_singleton_self _), rfl, file⟩

/-- A key is new only if the request of the step has made its import. -/
theorem keys_of_goes (startKeys : start.idempotencyKeys ⊆ store.idempotencyKeys)
    (startFiles : start.files ⊆ store.files)
    (fits : stage.Fits config.storage.maxUploadBytes start store request)
    (goes : Goes config ports request store stage next after) {row : IdempotencyKeyRow}
    (member : row ∈ next.idempotencyKeys) :
    row ∈ store.idempotencyKeys ∨ after.Created next row := by
  cases goes with
  | turnsDown | checks | starts => exact Or.inl member
  | @proceeds command phase reached next moves =>
    refine (keys_of_proceeds moves member).imp_right fun won => ?_
    obtain ⟨importRecord, returned, rfl⟩ := won
    have isReturned : reached = .returned ⟨importRecord, true⟩ := returned
    have relies := fits_proceeds startFiles startKeys fits.2 moves
    rw [isReturned] at relies ⊢
    exact ⟨_, command, rfl, rfl, rfl, rfl, (relies.2 rfl).2⟩
  | breaks fails =>
    cases fails with
    | untouched | removes | leaves => exact Or.inl member
    | unanswered transaction =>
      exact created_of_unanswered fits.2 transaction (isDatabaseError_wrap _) rfl member
  | comesThrough transaction => exact created_of_unanswered fits.2 transaction rfl rfl member

theorem Stage.holds_ended {ending : Ending} (mayLeave : ending.mayLeaveFile = true)
    (mine : ending.command? = some command) (path : JsString) :
    (Stage.ended ending).Holds path := Or.inr ⟨ending, command, rfl, mayLeave, mine⟩

/-- A file that is there after a step is the one of its request, or a row refers to it, or it was
there before and is nothing to the request. -/
theorem paths_of_goes (goes : Goes config ports request store stage next after) {path : JsString}
    (member : path ∈ next.paths) :
    after.Holds path ∨ path ∈ next.referenced ∨ path ∈ store.paths ∧ stage.path? ≠ some path := by
  cases goes with
  | turnsDown early =>
    refine Or.inr (Or.inr ⟨member, fun has => ?_⟩)
    cases early.symm.trans has
  | checks | starts =>
    refine Or.inr (Or.inr ⟨member, fun has => ?_⟩)
    cases has
  | proceeds moves =>
    obtain ⟨new, rows, _, accounted⟩ := paths_of_proceeds moves
    rcases accounted path member with own | added | before
    · exact Or.inl (Or.inl ((path?_settle _ _).trans own))
    · refine Or.inr (Or.inl ?_)
      rw [Store.referenced, rows, List.map_append]
      exact List.mem_append_right _ added
    · exact Or.inr (Or.inr before)
  | breaks fails =>
    cases fails with
    | untouched => exact Or.inl (Stage.holds_ended rfl rfl path)
    | removes => exact Or.inl (Stage.holds_ended rfl rfl path)
    | leaves => exact Or.inl (Stage.holds_ended rfl rfl path)
    | @unanswered storagePath next raised =>
      refine Or.inl (Stage.holds_ended ?_ rfl path)
      rw [Ending.mayLeaveFile, isDatabaseError_wrap raised, Bool.true_or]
  | comesThrough => exact Or.inl (Stage.holds_ended rfl rfl path)

/-- The only file a step can add is the one of an upload that begins. -/
theorem path_of_new (goes : Goes config ports request store stage next after) {path : JsString}
    (member : path ∈ next.paths) (absent : path ∉ store.paths) :
    stage.path? = none ∧ after.path? = some path := by
  cases goes with
  | turnsDown | checks | starts => exact absurd member absent
  | proceeds moves =>
    rw [path?_settle]
    cases moves with
    | opens =>
      rcases mem_paths_createWriteStream.mp member with before | rfl
      · exact absurd before absent
      · exact ⟨rfl, rfl⟩
    | saves =>
      rw [paths_fill] at member
      exact absurd member absent
    | exceeds | discards => exact absurd (mem_paths_rm.mp member).1 absent
    | wins | loses | replays => exact absurd member absent
  | breaks fails =>
    cases fails with
    | untouched => exact absurd member absent
    | removes => exact absurd (mem_paths_rm.mp member).1 absent
    | leaves =>
      rw [paths_fill] at member
      exact absurd member absent
    | unanswered transaction =>
      cases transaction <;> exact absurd member absent
  | comesThrough transaction =>
    cases transaction <;> exact absurd member absent

theorem not_ended_of_goes (goes : Goes config ports request store stage next after)
    (ending : Ending) : stage ≠ .ended ending := by
  rintro rfl
  cases goes with
  | turnsDown early going => cases going

/-- A request holds nothing before its upload begins. -/
theorem not_holds_of_goes (goes : Goes config ports request store stage next after)
    {path : JsString} (other : stage.path? ≠ some path) : ¬stage.Holds path := by
  rintro (has | ⟨ending, command, isEnded, _⟩)
  · exact other has
  · exact not_ended_of_goes goes ending isEnded

end

end ImportService.ImportApi
