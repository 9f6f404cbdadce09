/-
This file proves that no history makes a key unusable: in every state that a run can reach, an
upload that is valid and for which there is room can be accepted by its own steps alone. It gets
the import that its key has by then, if the key has one (`retry_can_succeed`).
-/

import Mathlib.Data.Set.Finite.Lemmas
import ImportService.UploadGate

namespace ImportService.ImportApi

open KeyedTable CreateImport JsString

/-! ### Fresh names -/

theorem pathOf_injective (storageRoot extension : JsString) :
    Function.Injective fun uuid => DiskFileStorage.pathOf storageRoot uuid extension := by
  intro first second same
  exact List.append_cancel_left (List.append_cancel_right same)

theorem exists_isFreshPath (storageRoot extension : JsString) (store : Store) :
    ∃ uuid, isFreshPath (DiskFileStorage.pathOf storageRoot uuid extension) store = true := by
  obtain ⟨path, ⟨uuid, rfl⟩, unused⟩ :=
    (Set.infinite_range_of_injective (pathOf_injective storageRoot extension)).exists_notMem_finset
      (store.paths ++ store.referenced).toFinset
  rw [List.mem_toFinset, List.mem_append, not_or] at unused
  exact ⟨uuid, isFreshPath_iff.mpr unused⟩

theorem lookup_eq_none_of_notMem {Row : Type} (key : Row → Nat) {table : List Row} {wanted : Nat}
    (unused : wanted ∉ table.map key) : lookup key table wanted = none :=
  (lookup_eq_none key).mpr fun row member same => unused (List.mem_map.mpr ⟨row, member, same⟩)

theorem exists_isFresh (db : Database) :
    ∃ importId jobId, System.isFresh importId jobId db = true := by
  obtain ⟨importId, unused⟩ := Infinite.exists_notMem_finset
    (db.imports.map ImportRow.id ++ db.jobs.map JobRow.importId).toFinset
  obtain ⟨jobId, unusedJob⟩ := Infinite.exists_notMem_finset (db.jobs.map JobRow.id).toFinset
  rw [List.mem_toFinset, List.mem_append, not_or] at unused
  rw [List.mem_toFinset] at unusedJob
  refine ⟨importId, jobId, Statement.isFresh_iff.mpr ⟨?_, ?_, ?_⟩⟩
  · exact lookup_eq_none_of_notMem _ unused.1
  · exact lookup_eq_none_of_notMem _ unused.2
  · exact lookup_eq_none_of_notMem _ unusedJob

/-! ### The steps of one request -/

section

variable {config : Config} {ports : Ports} {start : Store} {state : State} {index : Nat}
  {request : UploadRequest} {stage : Stage}

/-- A request has come to a stage, in a state of a run. -/
structure At (config : Config) (start : Store) (index : Nat) (request : UploadRequest)
    (stage : Stage) (state : State) : Prop where
  invariant : Invariant config.storage.maxUploadBytes start state
  made : ∃ process, state.exchanges[index]? = some ⟨process, request, stage⟩

theorem At.fits (here : At config start index request stage state) :
    stage.Fits config.storage.maxUploadBytes start state.store request := by
  obtain ⟨process, made⟩ := here.made
  exact here.invariant.fits index _ made

/-- The request goes on by a step of its own, which keeps what was promised to all. -/
def OwnStep (index : Nat) (state : State) (action : Action) (next : State) : Prop :=
  (∃ event, action = .proceed index event) ∧ KeepsPromises state action next

/-- The steps of a request alone lead to its acceptance. -/
def Succeeds (config : Config) (ports : Ports) (start : Store) (index : Nat)
    (request : UploadRequest) (command : CreateImportCommand) (state : State) : Prop :=
  ∃ importRecord last,
    At config start index request (.ended (.returned command importRecord)) last ∧
      Transition.Leads (step config ports) (OwnStep index) state last

theorem At.succeeds {command : CreateImportCommand}
    (here : At config start index request stage state) {event : Event} {store : Store}
    {after : Stage}
    (enabled : proceed config ports state.now request state.store stage event = some (store, after))
    (later : ∀ next, At config start index request after next → next.store = store →
      Succeeds config ports start index request command next) :
    Succeeds config ports start index request command state := by
  obtain ⟨process, made⟩ := here.made
  have stepped : step config ports state (.proceed index event) = some { state with
      store := store
      inFlight := Function.update state.inFlight process
        (finalize stage after (state.inFlight process))
      exchanges := state.exchanges.set index ⟨process, request, after⟩ } := by
    simp only [step, made, enabled, Option.map_some]
  obtain ⟨importRecord, last, reached, leads⟩ := later _
    ⟨invariant_step here.invariant stepped, process, Transition.set_self made⟩ rfl
  exact ⟨importRecord, last, reached,
    (Transition.Leads.single stepped
      ⟨⟨event, rfl⟩, keepsPromises_step here.invariant stepped⟩).trans leads⟩

theorem succeeds_of_ended {command : CreateImportCommand} {importRecord : ImportRecord}
    (here : At config start index request (.ended (.returned command importRecord)) state) :
    Succeeds config ports start index request command state :=
  ⟨importRecord, state, here, Transition.Leads.refl state⟩

variable {command : CreateImportCommand} {storagePath : JsString}

/-- The upload of a key that is taken finds the import of the key and is deleted. -/
theorem succeeds_of_readingExisting
    (here : At config start index request (.executing command (.readingExisting storagePath))
      state) :
    Succeeds config ports start index request command state := by
  obtain ⟨row, _, finds⟩ := here.invariant.consistent.findExisting here.fits.2.1
  have reads : proceed config ports state.now request state.store
      (.executing command (.readingExisting storagePath)) (.proceeds .existingRead) =
        some (state.store, .executing command (.deleting storagePath ⟨row, false⟩)) := by
    simp only [proceed, CreateImport.proceed, finds, Option.map_some, settle]
  refine here.succeeds reads fun next there _ => ?_
  have deletes : proceed config ports next.now request next.store
      (.executing command (.deleting storagePath ⟨row, false⟩)) (.proceeds .fileDeleted) =
        some (DiskFileStorage.rm storagePath next.store, .ended (.returned command row)) := rfl
  exact there.succeeds deletes fun last reached _ => succeeds_of_ended reached

theorem succeeds_of_creating
    (here : At config start index request (.executing command (.creating storagePath)) state) :
    Succeeds config ports start index request command state := by
  obtain ⟨importId, jobId, fresh⟩ := exists_isFresh state.store.db
  have transacts : proceed config ports state.now request state.store
      (.executing command (.creating storagePath))
      (.proceeds (.transaction importId jobId state.now .target)) =
        some ((afterTransaction (createInput command storagePath importId state.now) jobId state.now
          .target state.store).1, settle ports command (afterTransaction
            (createInput command storagePath importId state.now) jobId state.now .target
              state.store).2) := by
    simp only [proceed, CreateImport.proceed, fresh, if_true, Option.map_some]
  rw [afterTransaction_eq here.invariant.consistent fresh] at transacts
  by_cases taken : command.idempotencyKey ∈ state.store.idempotencyKeys.map IdempotencyKeyRow.key
  · rw [createInput, if_pos taken] at transacts
    exact here.succeeds transacts fun next there _ => succeeds_of_readingExisting there
  · rw [createInput, if_neg taken] at transacts
    exact here.succeeds transacts fun next there _ => succeeds_of_ended there

theorem succeeds_of_starting {source : FileStream} {extension : JsString}
    (here : At config start index request (.executing command (.starting source extension)) state)
    (fits : DiskFileStorage.fits config.storage.maxUploadBytes source = true) :
    Succeeds config ports start index request command state := by
  obtain ⟨uuid, fresh⟩ := exists_isFreshPath config.storage.storageRoot extension state.store
  have opens : proceed config ports state.now request state.store
      (.executing command (.starting source extension)) (.proceeds (.createFile uuid)) =
        some (DiskFileStorage.createWriteStream
            (DiskFileStorage.pathOf config.storage.storageRoot uuid extension) state.store,
          .executing command (.saving source
            (DiskFileStorage.pathOf config.storage.storageRoot uuid extension))) := by
    simp only [proceed, CreateImport.proceed, fresh, if_true, Option.map_some, settle]
  refine here.succeeds opens fun next there _ => ?_
  have saves : proceed config ports next.now request next.store
      (.executing command (.saving source
        (DiskFileStorage.pathOf config.storage.storageRoot uuid extension)))
      (.proceeds .streamEnded) =
        some (DiskFileStorage.fill (DiskFileStorage.pathOf config.storage.storageRoot uuid
            extension) source.bytes next.store,
          .executing command (.creating
            (DiskFileStorage.pathOf config.storage.storageRoot uuid extension))) := by
    simp only [proceed, CreateImport.proceed, fits, if_true, Option.map_some, settle]
  exact there.succeeds saves fun last reached _ => succeeds_of_creating reached

theorem keys_of_leads {last : State}
    (leads : Transition.Leads (step config ports) (OwnStep index) state last) :
    state.store.idempotencyKeys ⊆ last.store.idempotencyKeys := by
  obtain ⟨schedule, reaches, every⟩ := leads
  have always : Transition.Always (step config ports)
      (fun current => state.store.idempotencyKeys ⊆ current.store.idempotencyKeys) state schedule :=
    every.always _ (fun _ _ _ before _ own => List.Subset.trans before own.2.keys)
      (fun _ kept => kept) (List.Subset.refl _)
  exact always.last reaches

end

/-! ### A valid upload -/

/-- A request whose part passes every check. -/
structure IsValid (config : Config) (request : UploadRequest) (part : FilePart)
    (command : CreateImportCommand) : Prop where
  headers : ImportController.checkRequest request = .ok command.idempotencyKey
  isCommand : ImportController.toCommand command.idempotencyKey (.ok (some part)) = .ok command
  fileType : assertAllowedFileType (extractExtension command.originalFilename) command.mimeType =
    .ok ()
  size : DiskFileStorage.fits config.storage.maxUploadBytes part.file = true

theorem begin_of_isValid {config : Config} {request : UploadRequest} {part : FilePart}
    {command : CreateImportCommand} (valid : IsValid config request part command) :
    begin command = .starting part.file (extractExtension command.originalFilename) := by
  rcases toCommand_cases command.idempotencyKey (.ok (some part)) with
    ⟨error, fails, _⟩ | ⟨other, samePart, succeeds⟩
  · cases fails.symm.trans valid.isCommand
  · cases samePart
    have isCommand := Except.ok.inj (succeeds.symm.trans valid.isCommand)
    have isSource : command.fileStream = some part.file := by rw [← isCommand]
    simp only [begin, isSource, valid.fileType]

/-- Whatever has failed before: where the gate has room, the request for a valid upload is received
and can be accepted by steps of its own alone. It gets the import of its key, if the key has one. -/
theorem retry_can_succeed (config : Config) (ports : Ports) (now : Nat) {start : Store}
    (consistent : start.Consistent) {schedule : List Action} {state : State}
    (reaches : Transition.run (step config ports) (initial now start) schedule = some state)
    {process : ProcessId} {request : UploadRequest} {part : FilePart}
    {command : CreateImportCommand} (valid : IsValid config request part command)
    (room : isReached config.maxConcurrentUploads (openRequests state process) = false) :
    ∃ admitted last exchange body,
      step config ports state (.receive process request) = some admitted ∧
      KeepsPromises state (.receive process request) admitted ∧
      Transition.Leads (step config ports) (OwnStep state.exchanges.length) admitted last ∧
      last.exchanges[state.exchanges.length]? = some exchange ∧ exchange.request = request ∧
      exchange.reply = some (.accepted body) ∧
      ⟨command.idempotencyKey, body.id⟩ ∈ last.store.idempotencyKeys ∧
      ∀ importId, ⟨command.idempotencyKey, importId⟩ ∈ state.store.idempotencyKeys →
        body.id = importId := by
  have invariant := invariant_run consistent reaches
  let admitted : State := { state with
    inFlight := Function.update state.inFlight process (state.inFlight process + 1)
    exchanges := state.exchanges ++ [⟨process, request, .admitted⟩] }
  have received : step config ports state (.receive process request) = some admitted := by
    rw [step, (counted_run reaches).counts process, room, if_neg Bool.false_ne_true,
      ← (counted_run reaches).counts process]
  have here : At config start state.exchanges.length request .admitted admitted := by
    refine ⟨invariant_step invariant received, process, ?_⟩
    show (state.exchanges ++ [_])[state.exchanges.length]? = _
    rw [List.getElem?_append_right (le_refl _), Nat.sub_self]
    rfl
  have succeeds : Succeeds config ports start state.exchanges.length request command admitted := by
    have checks : proceed config ports admitted.now request admitted.store .admitted .called =
        some (admitted.store, .readingPart command.idempotencyKey) := by
      simp only [proceed, valid.headers]
    refine here.succeeds checks fun next there _ => ?_
    have reads : proceed config ports next.now request next.store
        (.readingPart command.idempotencyKey) (.partRead (.ok (some part))) =
          some (next.store, settle ports command (begin command)) := by
      simp only [proceed, valid.isCommand]
    refine there.succeeds reads fun later reached _ => ?_
    rw [begin_of_isValid valid] at reached
    exact succeeds_of_starting reached valid.size
  obtain ⟨importRecord, last, reached, leads⟩ := succeeds
  obtain ⟨_, made⟩ := reached.made
  have keyed : ⟨command.idempotencyKey, importRecord.id⟩ ∈ last.store.idempotencyKeys :=
    reached.fits.2
  refine ⟨admitted, last, _, CreateImportResponseDto.ofRecord importRecord, received,
    keepsPromises_step invariant received, leads, made, rfl, rfl, keyed, fun importId before => ?_⟩
  have still : ⟨command.idempotencyKey, importId⟩ ∈ last.store.idempotencyKeys :=
    keys_of_leads leads before
  exact (sameKey_iff reached.invariant.consistent keyed still).mp rfl

/-- The answer to the first request is lost, and the second one with its process. -/
def untilRestart : List Action := lostAnswer.take 11

theorem isValid_sharedUpload :
    IsValid smallApi (sharedRequest [0x63]) sharedPart sharedUpload where
  headers := rfl
  isCommand := rfl
  fileType := rfl
  size := rfl

theorem retry_can_succeed_lostAnswer :
    ∃ state admitted last exchange body,
      Transition.run (step smallApi silentPorts) (initial 0 emptyStore) untilRestart = some state ∧
      step smallApi silentPorts state (.receive 0 (sharedRequest [0x63])) = some admitted ∧
      Transition.Leads (step smallApi silentPorts) (OwnStep state.exchanges.length) admitted last ∧
      last.exchanges[state.exchanges.length]? = some exchange ∧
      exchange.request = sharedRequest [0x63] ∧ exchange.reply = some (.accepted body) ∧
      body.id = 1 := by
  have trace : (Transition.run (step smallApi silentPorts) (initial 0 emptyStore) untilRestart).map
      (fun state => (isReached (.finite 1) (openRequests state 0), state.store.idempotencyKeys)) =
        some (false, [⟨[0x6b], 1⟩]) := by
    decide +kernel
  obtain ⟨state, reaches, seen⟩ := Option.map_eq_some_iff.mp trace
  obtain ⟨room, keys⟩ := Prod.mk.inj seen
  obtain ⟨admitted, last, exchange, body, received, _, leads, made, isRequest, replied, _,
      sameImport⟩ :=
    retry_can_succeed smallApi silentPorts 0 consistent_emptyStore reaches isValid_sharedUpload room
  refine ⟨state, admitted, last, exchange, body, reaches, received, leads, made, isRequest,
    replied, sameImport 1 ?_⟩
  rw [keys]
  exact List.mem_singleton_self _

end ImportService.ImportApi
