/-
This file proves that creating imports is idempotent in the key: whatever calls of
`execute` run between and over each other, keys and imports stay in bijection, the calls
of one key return one import, and the directory gains the files of the new imports and
nothing else.

A call owns the path of its upload until it has ended. No row refers to that path before
the transaction of the call commits, and no other call has it. So a call that loses the
race for its key deletes a file nobody refers to, and a step of one call changes nothing
that another has relied on (`Keeps`).
-/

import ImportService.CreateImport
import ImportService.Integrity

namespace ImportService

open KeyedTable CreateImport

/-! ### Consistent stores -/

/-- The imports and the keys are in bijection, every import has one file and one job, and every
file a row refers to is stored. As the ids of the imports are distinct, a permutation of them is
one row for each import. -/
structure Store.Consistent (store : Store) : Prop where
  importIds : (store.db.imports.map ImportRow.id).Nodup
  keys : (store.idempotencyKeys.map IdempotencyKeyRow.key).Nodup
  keyed : (store.idempotencyKeys.map IdempotencyKeyRow.importId).Perm
    (store.db.imports.map ImportRow.id)
  filed : (store.db.importFiles.map ImportFileRow.importId).Perm
    (store.db.imports.map ImportRow.id)
  queued : (store.db.jobs.map JobRow.importId).Perm (store.db.imports.map ImportRow.id)
  stored : store.referenced ⊆ store.paths

section

variable {store : Store}

/-- Of a permutation of the imports each import has one row. -/
theorem count_of_perm {Row : Type} {table : List Row} {importId : Row → ImportId}
    (consistent : store.Consistent)
    (permutes : (table.map importId).Perm (store.db.imports.map ImportRow.id)) {wanted : ImportId}
    (member : wanted ∈ store.db.imports.map ImportRow.id) :
    table.countP (fun row => importId row == wanted) = 1 := by
  have once : (store.db.imports.map ImportRow.id).count wanted = 1 :=
    List.count_eq_one_of_mem consistent.importIds member
  rw [← permutes.count_eq, List.count, List.countP_map] at once
  exact once

/-- An import has one key, one file and one job, and a key has one import. -/
structure Store.OneOfEach (store : Store) : Prop where
  key : ∀ row ∈ store.db.imports,
    store.idempotencyKeys.countP (fun other => other.importId == row.id) = 1
  keyed : ∀ row ∈ store.idempotencyKeys,
    store.db.imports.countP (fun other => other.id == row.importId) = 1
  file : ∀ row ∈ store.db.imports,
    store.db.importFiles.countP (fun other => other.importId == row.id) = 1
  job : ∀ row ∈ store.db.imports,
    store.db.jobs.countP (fun other => other.importId == row.id) = 1

theorem Store.Consistent.oneOfEach (consistent : store.Consistent) : store.OneOfEach where
  key := fun _ member => count_of_perm consistent consistent.keyed (List.mem_map_of_mem member)
  keyed := fun _ member => count_of_perm consistent (List.Perm.refl _)
    (consistent.keyed.mem_iff.mp (List.mem_map_of_mem member))
  file := fun _ member => count_of_perm consistent consistent.filed (List.mem_map_of_mem member)
  job := fun _ member => count_of_perm consistent consistent.queued (List.mem_map_of_mem member)

/-- The import of a key is found by the read of a call that lost. -/
theorem Store.Consistent.findExisting (consistent : store.Consistent) {key : JsString}
    (taken : key ∈ store.idempotencyKeys.map IdempotencyKeyRow.key) :
    ∃ row, { key, importId := row.id } ∈ store.idempotencyKeys ∧
      ImportRepository.findExisting key store = some { importRecord := row, isNew := false } := by
  obtain ⟨keyRow, foundKey⟩ := Option.isSome_iff_exists.mp
    ((lookup_isSome IdempotencyKeyRow.key).mpr (List.mem_map.mp taken))
  have keyMember : keyRow ∈ store.idempotencyKeys := lookup_mem IdempotencyKeyRow.key foundKey
  have importMember : keyRow.importId ∈ store.db.imports.map ImportRow.id :=
    consistent.keyed.mem_iff.mp (List.mem_map_of_mem keyMember)
  obtain ⟨row, foundImport⟩ := Option.isSome_iff_exists.mp
    ((lookup_isSome ImportRow.id).mpr (List.mem_map.mp importMember))
  have sameKey : keyRow.key = key := lookup_key IdempotencyKeyRow.key foundKey
  have sameImport : row.id = keyRow.importId := lookup_key ImportRow.id foundImport
  refine ⟨row, ?_, ?_⟩
  · rw [← sameKey, sameImport]
    exact keyMember
  · rw [ImportRepository.findExisting, foundKey]
    simp only [Option.bind_eq_bind, Option.bind_some, Database.findImport, foundImport]

end

/-! ### The transaction -/

theorem isIdempotencyKeyConflict_iff (shape : MetaShape) (index : UniqueIndex) :
    ImportRepository.isIdempotencyKeyConflict (uniqueViolation shape index) = true ↔
      index = .idempotencyKeysKey := by
  cases shape <;> cases index <;> decide

/-- The store with the four rows of an import. -/
def Store.withImport (input : CreateImportInput) (jobId : JobId) (now : Nat) (store : Store) :
    Store where
  db := (Statement.create input.id jobId input.storagePath input.createdAt).commit now store.db
  idempotencyKeys := store.idempotencyKeys ++
    [{ key := input.idempotencyKey, importId := input.id }]
  files := store.files

section

variable {store : Store} {input : CreateImportInput} {jobId : JobId} {now : Nat}

theorem insertImport_of_fresh (fresh : store.db.findImport input.id = none) :
    ImportRepository.insertImport input now store = .ok { store with db := { store.db with
      imports := store.db.imports ++
        [ImportRepository.newImport input.id input.createdAt now] } } := by
  rw [ImportRepository.insertImport, fresh]
  rfl

theorem insertIdempotencyKey_of_fresh
    (fresh : lookup IdempotencyKeyRow.importId store.idempotencyKeys input.id = none) :
    ImportRepository.insertIdempotencyKey input store =
      if input.idempotencyKey ∈ store.idempotencyKeys.map IdempotencyKeyRow.key then
        .error .idempotencyKeysKey
      else .ok { store with
        idempotencyKeys := store.idempotencyKeys ++
          [{ key := input.idempotencyKey, importId := input.id }] } := by
  have taken : (lookup IdempotencyKeyRow.key store.idempotencyKeys input.idempotencyKey).isSome =
      true ↔ input.idempotencyKey ∈ store.idempotencyKeys.map IdempotencyKeyRow.key :=
    (lookup_isSome IdempotencyKeyRow.key).trans List.mem_map.symm
  rw [ImportRepository.insertIdempotencyKey, fresh]
  simp only [taken]
  rfl

theorem insertProcessingJob_of_fresh (fresh : store.db.findJobOf input.id = none) :
    ImportRepository.insertProcessingJob input jobId now store = .ok { store with
      db := { store.db with
        jobs := store.db.jobs ++ [ImportRepository.newJob input.id jobId now] } } := by
  rw [ImportRepository.insertProcessingJob, fresh]
  rfl

/-- With a fresh import id the transaction can only run into the index of the key. -/
theorem createTransaction_eq (consistent : store.Consistent)
    (fresh : System.isFresh input.id jobId store.db = true) :
    ImportRepository.createTransaction input jobId now store =
      if input.idempotencyKey ∈ store.idempotencyKeys.map IdempotencyKeyRow.key then
        .error .idempotencyKeysKey
      else .ok (store.withImport input jobId now) := by
  obtain ⟨freshImport, freshJob, _⟩ := Statement.isFresh_iff.mp fresh
  have unkeyed : lookup IdempotencyKeyRow.importId store.idempotencyKeys input.id = none := by
    refine (lookup_eq_none _).mpr fun row member same => ?_
    have known : row.importId ∈ store.db.imports.map ImportRow.id :=
      consistent.keyed.mem_iff.mp (List.mem_map_of_mem member)
    obtain ⟨importRow, importMember, sameId⟩ := List.mem_map.mp known
    exact (lookup_eq_none ImportRow.id).mp freshImport importRow importMember (sameId.trans same)
  simp only [ImportRepository.createTransaction, bind, Except.bind]
  rw [insertImport_of_fresh freshImport]
  simp only
  rw [insertIdempotencyKey_of_fresh ?unkeyed]
  case unkeyed => exact unkeyed
  by_cases taken : input.idempotencyKey ∈ store.idempotencyKeys.map IdempotencyKeyRow.key
  · simp only [taken, if_true]
  · simp only [taken, if_false]
    rw [insertProcessingJob_of_fresh ?noJob]
    case noJob => exact freshJob
    rfl

/-- A call has won when its key was free, and has lost otherwise. -/
theorem afterTransaction_eq (consistent : store.Consistent)
    (fresh : System.isFresh input.id jobId store.db = true) (shape : MetaShape) :
    afterTransaction input jobId now shape store =
      if input.idempotencyKey ∈ store.idempotencyKeys.map IdempotencyKeyRow.key then
        (store, .readingExisting input.storagePath)
      else
        (store.withImport input jobId now,
          .returned ⟨ImportRepository.newImport input.id input.createdAt now, true⟩) := by
  rw [afterTransaction, createTransaction_eq consistent fresh]
  by_cases taken : input.idempotencyKey ∈ store.idempotencyKeys.map IdempotencyKeyRow.key
  · rw [if_pos taken, if_pos taken]
    exact if_pos ((isIdempotencyKeyConflict_iff shape _).mpr rfl)
  · rw [if_neg taken, if_neg taken]

end

/-! ### What a call can do -/

namespace CreateImport

/-- What lets a call go on, over a consistent store. -/
inductive Proceeds (maxUploadBytes : Nat) (command : CreateImportCommand) (store : Store) :
    Phase → Store → Phase → Prop
  | opens {source : FileStream} {extension storagePath : JsString}
      (fresh : isFreshPath storagePath store = true) :
      Proceeds maxUploadBytes command store (.starting source extension)
        (DiskFileStorage.createWriteStream storagePath store) (.saving source storagePath)
  | saves {source : FileStream} {storagePath : JsString} :
      Proceeds maxUploadBytes command store (.saving source storagePath)
        (DiskFileStorage.fill storagePath source.bytes store) (.creating storagePath)
  | exceeds {source : FileStream} {storagePath : JsString}
      (tooLarge : DiskFileStorage.fits maxUploadBytes source = false) :
      Proceeds maxUploadBytes command store (.saving source storagePath)
        (DiskFileStorage.rm storagePath store) (.threw (.fileTooLarge maxUploadBytes))
  | wins {storagePath : JsString} {importId : ImportId} {jobId : JobId} {createdAt now : Nat}
      (free : command.idempotencyKey ∉ store.idempotencyKeys.map IdempotencyKeyRow.key)
      (fresh : System.isFresh importId jobId store.db = true) :
      Proceeds maxUploadBytes command store (.creating storagePath)
        (store.withImport (createInput command storagePath importId createdAt) jobId now)
        (.returned ⟨ImportRepository.newImport importId createdAt now, true⟩)
  | loses {storagePath : JsString}
      (taken : command.idempotencyKey ∈ store.idempotencyKeys.map IdempotencyKeyRow.key) :
      Proceeds maxUploadBytes command store (.creating storagePath) store
        (.readingExisting storagePath)
  | replays {storagePath : JsString} {row : ImportRow}
      (keyed : ⟨command.idempotencyKey, row.id⟩ ∈ store.idempotencyKeys) :
      Proceeds maxUploadBytes command store (.readingExisting storagePath) store
        (.deleting storagePath ⟨row, false⟩)
  | discards {storagePath : JsString} {result : CreateImportResult} :
      Proceeds maxUploadBytes command store (.deleting storagePath result)
        (DiskFileStorage.rm storagePath store) (.returned result)

section

variable {config : StorageConfig} {now : Nat} {command : CreateImportCommand}
  {store next : Store} {phase after : Phase} {event : Event}

theorem proceeds_of_proceed (consistent : store.Consistent)
    (reading : ∀ storagePath, phase = .readingExisting storagePath →
      command.idempotencyKey ∈ store.idempotencyKeys.map IdempotencyKeyRow.key)
    (enabled : proceed config now command store phase event = some (next, after)) :
    Proceeds config.maxUploadBytes command store phase next after := by
  unfold proceed at enabled
  split at enabled
  · rename_i source extension uuid
    simp only at enabled
    split at enabled
    · rename_i fresh
      cases enabled
      exact .opens fresh
    · cases enabled
  · rename_i source storagePath
    split at enabled
    · cases enabled
      exact .saves
    · rename_i tooLarge
      cases enabled
      exact .exceeds (Bool.eq_false_of_not_eq_true tooLarge)
  · rename_i storagePath importId jobId createdAt shape
    split at enabled
    · rename_i fresh
      rw [afterTransaction_eq consistent fresh] at enabled
      by_cases taken : (createInput command storagePath importId createdAt).idempotencyKey ∈
          store.idempotencyKeys.map IdempotencyKeyRow.key
      · rw [if_pos taken] at enabled
        cases enabled
        exact .loses taken
      · rw [if_neg taken] at enabled
        cases enabled
        exact .wins taken fresh
    · cases enabled
  · rename_i storagePath
    obtain ⟨row, keyed, finds⟩ := consistent.findExisting (reading storagePath rfl)
    rw [finds] at enabled
    cases enabled
    exact .replays keyed
  · cases enabled
    exact .discards
  · cases enabled

end

/-! ### What a step leaves alone -/

/-- The path of an upload that has no row yet or never gets one. -/
def Phase.path? : Phase → Option JsString
  | .saving _ storagePath | .creating storagePath | .readingExisting storagePath
  | .deleting storagePath _ => some storagePath
  | .starting _ _ | .returned _ | .threw _ => none

/-- Nothing that has been written is lost, but for the file at one path. -/
structure Keeps (touched : Option JsString) (store next : Store) : Prop where
  files : ∀ file ∈ store.files, touched ≠ some file.storagePath → file ∈ next.files
  referenced : ∀ path ∈ next.referenced, path ∈ store.referenced ∨ touched = some path
  importFiles : store.db.importFiles ⊆ next.db.importFiles
  idempotencyKeys : store.idempotencyKeys ⊆ next.idempotencyKeys

section

variable {store next : Store} {storagePath : JsString} {touched : Option JsString}

theorem mem_paths_createWriteStream {path : JsString} :
    path ∈ (DiskFileStorage.createWriteStream storagePath store).paths ↔
      path ∈ store.paths ∨ path = storagePath := by
  simp [Store.paths, DiskFileStorage.createWriteStream]

theorem paths_fill (bytes : List UInt8) :
    (DiskFileStorage.fill storagePath bytes store).paths = store.paths := by
  refine map_key_map StoredFile.storagePath _ (fun file => ?_) store.files
  refine updateRow_key StoredFile.storagePath ?_ file
  exact fun _ => rfl

theorem mem_files_fill (bytes : List UInt8) (written : storagePath ∈ store.paths) :
    ⟨storagePath, bytes⟩ ∈ (DiskFileStorage.fill storagePath bytes store).files := by
  obtain ⟨file, member, rfl⟩ := List.mem_map.mp written
  exact List.mem_map.mpr ⟨file, member, if_pos (beq_self_eq_true file.storagePath)⟩

theorem isFreshPath_iff :
    isFreshPath storagePath store = true ↔
      storagePath ∉ store.paths ∧ storagePath ∉ store.referenced := by
  simp [isFreshPath]

theorem mem_files_rm {file : StoredFile} :
    file ∈ (DiskFileStorage.rm storagePath store).files ↔
      file ∈ store.files ∧ file.storagePath ≠ storagePath := by
  simp [DiskFileStorage.rm]

theorem mem_paths_rm {path : JsString} :
    path ∈ (DiskFileStorage.rm storagePath store).paths ↔
      path ∈ store.paths ∧ path ≠ storagePath := by
  simp only [Store.paths, List.mem_map, mem_files_rm]
  constructor
  · rintro ⟨file, ⟨member, other⟩, rfl⟩
    exact ⟨⟨file, member, rfl⟩, other⟩
  · rintro ⟨⟨file, member, rfl⟩, other⟩
    exact ⟨file, ⟨member, other⟩, rfl⟩

theorem keeps_createWriteStream :
    Keeps (some storagePath) store (DiskFileStorage.createWriteStream storagePath store) where
  files := fun _ member _ => List.mem_append_left _ member
  referenced := fun _ member => Or.inl member
  importFiles := List.Subset.refl _
  idempotencyKeys := List.Subset.refl _

theorem keeps_fill (bytes : List UInt8) :
    Keeps (some storagePath) store (DiskFileStorage.fill storagePath bytes store) where
  files := by
    intro file member other
    refine List.mem_map.mpr ⟨file, member, if_neg fun selected => other ?_⟩
    exact congrArg some (eq_of_beq selected).symm
  referenced := fun _ member => Or.inl member
  importFiles := List.Subset.refl _
  idempotencyKeys := List.Subset.refl _

theorem keeps_rm : Keeps (some storagePath) store (DiskFileStorage.rm storagePath store) where
  files := fun _ member other =>
    mem_files_rm.mpr ⟨member, fun same => other (congrArg some same.symm)⟩
  referenced := fun _ member => Or.inl member
  importFiles := List.Subset.refl _
  idempotencyKeys := List.Subset.refl _

theorem keeps_withImport (input : CreateImportInput) (jobId : JobId) (now : Nat) :
    Keeps (some input.storagePath) store (store.withImport input jobId now) where
  files := fun _ member _ => member
  referenced := by
    intro path member
    rw [Store.referenced, Store.withImport, Statement.commit_importFiles, List.map_append] at member
    exact (List.mem_append.mp member).imp_right fun new =>
      congrArg some (List.mem_singleton.mp new).symm
  importFiles := by
    rw [Store.withImport, Statement.commit_importFiles]
    exact List.subset_append_left _ _
  idempotencyKeys := List.subset_append_left _ _

theorem keeps_refl (touched : Option JsString) (store : Store) : Keeps touched store store where
  files := fun _ member _ => member
  referenced := fun _ member => Or.inl member
  importFiles := List.Subset.refl _
  idempotencyKeys := List.Subset.refl _

/-- A call touches the path of its upload, which is a fresh one when it starts. -/
theorem keeps_of_proceeds {maxUploadBytes : Nat} {command : CreateImportCommand}
    {phase after : Phase}
    (proceeds : Proceeds maxUploadBytes command store phase next after) :
    ∃ path, Keeps (some path) store next ∧ (after.path? = none ∨ after.path? = some path) ∧
      (phase.path? = some path ∨ phase.path? = none ∧ isFreshPath path store = true) := by
  cases proceeds with
  | opens fresh => exact ⟨_, keeps_createWriteStream, Or.inr rfl, Or.inr ⟨rfl, fresh⟩⟩
  | saves => exact ⟨_, keeps_fill _, Or.inr rfl, Or.inl rfl⟩
  | exceeds => exact ⟨_, keeps_rm, Or.inl rfl, Or.inl rfl⟩
  | wins => exact ⟨_, keeps_withImport _ _ _, Or.inl rfl, Or.inl rfl⟩
  | loses | replays => exact ⟨_, keeps_refl _ _, Or.inr rfl, Or.inl rfl⟩
  | discards => exact ⟨_, keeps_rm, Or.inl rfl, Or.inl rfl⟩

end

/-! ### The store stays consistent -/

section

variable {store next : Store} {storagePath : JsString}

/-- The rows of imports, files and jobs that the consistency of a store speaks of are the same. -/
structure SameRows (db next : Database) : Prop where
  imports : next.imports.map ImportRow.id = db.imports.map ImportRow.id
  importFiles : next.importFiles = db.importFiles
  jobs : next.jobs.map JobRow.importId = db.jobs.map JobRow.importId

theorem sameRows_commit (now : Nat) {statement : Statement} (db : Database)
    (other : createsImport statement = false) : SameRows db (statement.commit now db) where
  imports := by
    rw [Statement.commit_imports, List.map_append,
      map_key_map ImportRow.id _ (Statement.onImport_id now db statement)]
    cases statement with
    | create => cases other
    | _ => exact List.append_nil _
  importFiles := by
    rw [Statement.commit_importFiles]
    cases statement with
    | create => cases other
    | _ => exact List.append_nil _
  jobs := by
    rw [Statement.commit_jobs, List.map_append,
      map_key_map JobRow.importId _ (Statement.onJob_importId now statement)]
    cases statement with
    | create => cases other
    | _ => exact List.append_nil _

theorem consistent_of_sameRows {db : Database} (consistent : store.Consistent)
    (same : SameRows store.db db) : Store.Consistent { store with db } where
  importIds := by
    rw [same.imports]
    exact consistent.importIds
  keys := consistent.keys
  keyed := by
    rw [same.imports]
    exact consistent.keyed
  filed := by
    rw [same.imports, same.importFiles]
    exact consistent.filed
  queued := by
    rw [same.imports, same.jobs]
    exact consistent.queued
  stored := by
    rw [Store.referenced, same.importFiles]
    exact consistent.stored

/-- A change of the files keeps the store consistent if no row refers to the file that goes. -/
theorem consistent_of_files {files : List StoredFile} (consistent : store.Consistent)
    (stored : store.referenced ⊆ files.map StoredFile.storagePath) :
    Store.Consistent { store with files } :=
  { consistent with stored := stored }

theorem consistent_rm (consistent : store.Consistent)
    (notReferenced : storagePath ∉ store.referenced) :
    (DiskFileStorage.rm storagePath store).Consistent := by
  refine consistent_of_files consistent fun path member => ?_
  refine mem_paths_rm.mpr ⟨consistent.stored member, ?_⟩
  rintro rfl
  exact notReferenced member

/-- The four rows of a new import. -/
theorem consistent_withImport {input : CreateImportInput} {jobId : JobId} {now : Nat}
    (consistent : store.Consistent)
    (free : input.idempotencyKey ∉ store.idempotencyKeys.map IdempotencyKeyRow.key)
    (fresh : System.isFresh input.id jobId store.db = true)
    (written : input.storagePath ∈ store.paths) :
    (store.withImport input jobId now).Consistent where
  importIds := distinct_snoc ImportRow.id consistent.importIds (Statement.isFresh_iff.mp fresh).1
  keys := by
    refine distinct_snoc IdempotencyKeyRow.key consistent.keys ?_
    exact (lookup_eq_none _).mpr fun row member same => free (List.mem_map.mpr ⟨row, member, same⟩)
  keyed := by
    show ((store.idempotencyKeys ++ [_]).map IdempotencyKeyRow.importId).Perm
      ((store.db.imports ++ [_]).map ImportRow.id)
    rw [List.map_append, List.map_append]
    exact consistent.keyed.append_right [input.id]
  filed := by
    show ((store.db.importFiles ++ [_]).map ImportFileRow.importId).Perm
      ((store.db.imports ++ [_]).map ImportRow.id)
    rw [List.map_append, List.map_append]
    exact consistent.filed.append_right [input.id]
  queued := by
    show ((store.db.jobs ++ [_]).map JobRow.importId).Perm
      ((store.db.imports ++ [_]).map ImportRow.id)
    rw [List.map_append, List.map_append]
    exact consistent.queued.append_right [input.id]
  stored := by
    intro path member
    rcases (keeps_withImport input jobId now).referenced path member with before | new
    · exact consistent.stored before
    · rw [← Option.some.inj new]
      exact written

end

/-! ### What a call relies on -/

/-- A file that is stored, with no row, and that was not there at the start. -/
structure Uploading (start store : Store) (storagePath : JsString) : Prop where
  written : storagePath ∈ store.paths
  notReferenced : storagePath ∉ store.referenced
  isNew : storagePath ∉ start.paths

/-- The upload of a command is stored as the file of its import. -/
def StoredFor (store : Store) (command : CreateImportCommand) (importId : ImportId) : Prop :=
  ∃ source, command.fileStream = some source ∧ ∃ row ∈ store.db.importFiles,
    row.importId = importId ∧ ⟨row.storagePath, source.bytes⟩ ∈ store.files

/-- A command that fails for what it carries. -/
def Refused (maxUploadBytes : Nat) (command : CreateImportCommand) (failure : Failure) : Prop :=
  begin command = .threw failure ∨
    failure = .fileTooLarge maxUploadBytes ∧ ∃ source, command.fileStream = some source ∧
      DiskFileStorage.fits maxUploadBytes source = false

/-- What holds of a call at each point, in a run from a store. -/
def Fits (maxUploadBytes : Nat) (start store : Store) (command : CreateImportCommand) :
    Phase → Prop
  | .starting source _ => command.fileStream = some source
  | .saving source storagePath =>
      command.fileStream = some source ∧ Uploading start store storagePath
  | .creating storagePath =>
      (∃ source, command.fileStream = some source ∧ ⟨storagePath, source.bytes⟩ ∈ store.files) ∧
        Uploading start store storagePath
  | .readingExisting storagePath =>
      command.idempotencyKey ∈ store.idempotencyKeys.map IdempotencyKeyRow.key ∧
        Uploading start store storagePath
  | .deleting storagePath result =>
      (result.isNew = false ∧
        ⟨command.idempotencyKey, result.importRecord.id⟩ ∈ store.idempotencyKeys) ∧
        Uploading start store storagePath
  | .returned result =>
      ⟨command.idempotencyKey, result.importRecord.id⟩ ∈ store.idempotencyKeys ∧
        (result.isNew = true →
          command.idempotencyKey ∉ start.idempotencyKeys.map IdempotencyKeyRow.key ∧
            StoredFor store command result.importRecord.id)
  | .threw failure => Refused maxUploadBytes command failure

section

variable {maxUploadBytes : Nat} {start store next : Store} {command : CreateImportCommand}
  {phase after : Phase} {storagePath : JsString} {touched : Option JsString}

theorem Fits.uploading (fits : Fits maxUploadBytes start store command phase)
    (path : phase.path? = some storagePath) : Uploading start store storagePath := by
  cases phase with
  | starting | returned | threw => cases path
  | saving | creating | readingExisting | deleting =>
    cases path
    exact fits.2

theorem Uploading.keeps (uploading : Uploading start store storagePath)
    (keeps : Keeps touched store next) (other : touched ≠ some storagePath) :
    Uploading start next storagePath where
  written := by
    obtain ⟨file, member, rfl⟩ := List.mem_map.mp uploading.written
    exact List.mem_map_of_mem (keeps.files file member other)
  notReferenced := fun member =>
    (keeps.referenced storagePath member).elim uploading.notReferenced other
  isNew := uploading.isNew

theorem StoredFor.keeps {importId : ImportId} (stored : StoredFor store command importId)
    (keeps : Keeps touched store next)
    (notReferenced : ∀ path ∈ store.referenced, touched ≠ some path) :
    StoredFor next command importId := by
  obtain ⟨source, isSource, row, member, belongs, file⟩ := stored
  refine ⟨source, isSource, row, keeps.importFiles member, belongs, keeps.files _ file ?_⟩
  exact notReferenced _ (List.mem_map_of_mem member)

/-- The step of another call leaves what a call relies on. -/
theorem Fits.keeps (fits : Fits maxUploadBytes start store command phase)
    (keeps : Keeps touched store next)
    (notReferenced : ∀ path ∈ store.referenced, touched ≠ some path)
    (other : ∀ path, phase.path? = some path → touched ≠ some path) :
    Fits maxUploadBytes start next command phase := by
  cases phase with
  | starting | threw => exact fits
  | saving source storagePath => exact ⟨fits.1, fits.2.keeps keeps (other storagePath rfl)⟩
  | creating storagePath =>
    obtain ⟨⟨source, isSource, file⟩, uploading⟩ := fits
    exact ⟨⟨source, isSource, keeps.files _ file (other storagePath rfl)⟩,
      uploading.keeps keeps (other storagePath rfl)⟩
  | readingExisting storagePath =>
    exact ⟨List.map_subset _ keeps.idempotencyKeys fits.1,
      fits.2.keeps keeps (other storagePath rfl)⟩
  | deleting storagePath result =>
    exact ⟨⟨fits.1.1, keeps.idempotencyKeys fits.1.2⟩,
      fits.2.keeps keeps (other storagePath rfl)⟩
  | returned result =>
    refine ⟨keeps.idempotencyKeys fits.1, fun isNew => ?_⟩
    obtain ⟨free, stored⟩ := fits.2 isNew
    exact ⟨free, stored.keeps keeps notReferenced⟩

/-- What the call itself relies on after its step. -/
theorem fits_proceeds (startFiles : start.files ⊆ store.files)
    (startKeys : start.idempotencyKeys ⊆ store.idempotencyKeys)
    (fits : Fits maxUploadBytes start store command phase)
    (proceeds : Proceeds maxUploadBytes command store phase next after) :
    Fits maxUploadBytes start next command after := by
  cases proceeds with
  | opens fresh =>
    obtain ⟨unused, notReferenced⟩ := isFreshPath_iff.mp fresh
    exact ⟨fits, mem_paths_createWriteStream.mpr (Or.inr rfl), notReferenced,
      fun member => unused (List.map_subset _ startFiles member)⟩
  | @saves source storagePath =>
    obtain ⟨isSource, written, notReferenced, isNew⟩ := fits
    exact ⟨⟨source, isSource, mem_files_fill source.bytes written⟩, by rwa [paths_fill],
      notReferenced, isNew⟩
  | exceeds tooLarge => exact Or.inr ⟨rfl, _, fits.1, tooLarge⟩
  | @wins storagePath importId jobId createdAt now free fresh =>
    obtain ⟨⟨source, isSource, file⟩, _⟩ := fits
    refine ⟨List.mem_append_right _ (List.mem_singleton_self _), fun _ => ⟨fun old => free ?_, ?_⟩⟩
    · exact List.map_subset _ startKeys old
    · exact ⟨source, isSource, ⟨importId, storagePath, now⟩,
        List.mem_append_right _ (List.mem_singleton_self _), rfl, file⟩
  | loses taken => exact ⟨taken, fits.2⟩
  | replays keyed => exact ⟨⟨rfl, keyed⟩, fits.2⟩
  | discards => exact ⟨fits.1.2, fun isNew => absurd isNew (by rw [fits.1.1]; decide)⟩

end

/-! ### The invariant of a run -/

/-- A call that has returned a new import, under its key. -/
def Call.Won (call : Call) (row : IdempotencyKeyRow) : Prop :=
  ∃ importRecord, call.phase = .returned ⟨importRecord, true⟩ ∧
    row = ⟨call.command.idempotencyKey, importRecord.id⟩

/-- Both calls have made rows, with one key. -/
def Call.WonSameKey (first second : Call) : Prop :=
  ∃ row other, first.Won row ∧ second.Won other ∧ row.key = other.key

/-- Both calls are about the same file. -/
def Call.SharesPath (first second : Call) : Prop :=
  ∃ path, first.phase.path? = some path ∧ second.phase.path? = some path

/-- Two calls that are related are one call. -/
def AtMostOnce (calls : CallId → Option Call) (Related : Call → Call → Prop) : Prop :=
  ∀ first second firstCall secondCall, calls first = some firstCall →
    calls second = some secondCall → Related firstCall secondCall → first = second

/-- A path of the directory was there at the start, or a new row refers to it, or a call has it. -/
def Accounted (start : Store) (added : List ImportFileRow) (state : State) (path : JsString) :
    Prop :=
  path ∈ start.paths ∨ path ∈ added.map ImportFileRow.storagePath ∨
    ∃ callId call, state.calls callId = some call ∧ call.phase.path? = some path

/-- What holds in every state. -/
structure Invariant (maxUploadBytes : Nat) (start : Store) (state : State) : Prop where
  consistent : state.store.Consistent
  startFiles : start.files ⊆ state.store.files
  startKeys : start.idempotencyKeys ⊆ state.store.idempotencyKeys
  fits : ∀ callId call, state.calls callId = some call →
    Fits maxUploadBytes start state.store call.command call.phase
  apart : AtMostOnce state.calls Call.SharesPath
  owned : ∀ row ∈ state.store.idempotencyKeys, row ∈ start.idempotencyKeys ∨
    ∃ callId call, state.calls callId = some call ∧ call.Won row
  wonOnce : AtMostOnce state.calls Call.WonSameKey
  added : ∃ added, state.store.db.importFiles = start.db.importFiles ++ added ∧
    (∀ row ∈ added, row.storagePath ∉ start.paths) ∧
    ∀ path ∈ state.store.paths, Accounted start added state path

section

variable {maxUploadBytes : Nat} {start : Store} {state : State}

theorem invariant_initial (maxUploadBytes now : Nat) (consistent : start.Consistent) :
    Invariant maxUploadBytes start (initial now start) where
  consistent := consistent
  startFiles := List.Subset.refl _
  startKeys := List.Subset.refl _
  fits := fun _ _ made => nomatch made
  apart := fun _ _ _ _ made => nomatch made
  owned := fun _ member => Or.inl member
  wonOnce := fun _ _ _ _ made => nomatch made
  added := ⟨[], (List.append_nil _).symm, fun _ member => (nomatch member),
    fun _ member => Or.inl member⟩

theorem keeps_of_sameRows {db : Database} {store : Store} (same : SameRows store.db db) :
    Keeps none store { store with db } where
  files := fun _ member _ => member
  referenced := by
    intro path member
    rw [Store.referenced, same.importFiles] at member
    exact Or.inl member
  importFiles := fun _ member => by rwa [same.importFiles]
  idempotencyKeys := List.Subset.refl _

/-- A step of another part of the service. -/
theorem invariant_elsewhere {now : Nat} {db : Database}
    (invariant : Invariant maxUploadBytes start state) (same : SameRows state.store.db db) :
    Invariant maxUploadBytes start { state with now, store := { state.store with db } } where
  consistent := consistent_of_sameRows invariant.consistent same
  startFiles := invariant.startFiles
  startKeys := invariant.startKeys
  fits := fun callId call made => (invariant.fits callId call made).keeps (keeps_of_sameRows same)
    (fun _ _ same => by cases same) (fun _ _ same => by cases same)
  apart := invariant.apart
  owned := invariant.owned
  wonOnce := invariant.wonOnce
  added := by
    obtain ⟨added, rows, isNew, accounted⟩ := invariant.added
    exact ⟨added, same.importFiles.trans rows, isNew, accounted⟩

/-- A call that is made or goes on is related to no other one. -/
theorem atMostOnce_update {calls : CallId → Option Call} {callId : CallId} {new : Call}
    {Related : Call → Call → Prop} (before : AtMostOnce calls Related)
    (symmetric : ∀ first second, Related first second → Related second first)
    (unrelated : ∀ other call, other ≠ callId → calls other = some call → ¬Related new call) :
    AtMostOnce (Function.update calls callId (some new)) Related := by
  intro first second firstCall secondCall madeFirst madeSecond related
  rcases Transition.update_cases madeFirst with ⟨rfl, rfl⟩ | ⟨differentFirst, beforeFirst⟩
  · rcases Transition.update_cases madeSecond with ⟨rfl, rfl⟩ | ⟨differentSecond, beforeSecond⟩
    · rfl
    · exact absurd related (unrelated second secondCall differentSecond beforeSecond)
  · rcases Transition.update_cases madeSecond with ⟨rfl, rfl⟩ | ⟨_, beforeSecond⟩
    · exact absurd (symmetric _ _ related) (unrelated first firstCall differentFirst beforeFirst)
    · exact before first second firstCall secondCall beforeFirst beforeSecond related

theorem sharesPath_symm (first second : Call) (shares : first.SharesPath second) :
    second.SharesPath first := by
  obtain ⟨path, firstPath, secondPath⟩ := shares
  exact ⟨path, secondPath, firstPath⟩

theorem wonSameKey_symm (first second : Call) (won : first.WonSameKey second) :
    second.WonSameKey first := by
  obtain ⟨row, other, wonFirst, wonSecond, same⟩ := won
  exact ⟨other, row, wonSecond, wonFirst, same.symm⟩

theorem begin_cases (command : CreateImportCommand) :
    (∃ failure, begin command = .threw failure) ∨
      ∃ source extension, command.fileStream = some source ∧
        begin command = .starting source extension := by
  unfold begin
  cases stream : command.fileStream with
  | none => exact Or.inl ⟨_, rfl⟩
  | some source =>
    simp only
    cases assertAllowedFileType (extractExtension command.originalFilename) command.mimeType with
    | error failure => exact Or.inl ⟨failure, rfl⟩
    | ok => exact Or.inr ⟨source, _, rfl, rfl⟩

theorem fits_begin (store : Store) (command : CreateImportCommand) :
    Fits maxUploadBytes start store command (begin command) := by
  rcases begin_cases command with ⟨failure, threw⟩ | ⟨source, extension, isSource, starts⟩
  · rw [threw]
    exact Or.inl threw
  · rw [starts]
    exact isSource

theorem path?_begin (command : CreateImportCommand) : (begin command).path? = none := by
  rcases begin_cases command with ⟨failure, threw⟩ | ⟨source, extension, _, starts⟩
  · rw [threw, Phase.path?]
  · rw [starts, Phase.path?]

theorem not_won_begin (command : CreateImportCommand) (row : IdempotencyKeyRow) :
    ¬Call.Won ⟨command, begin command⟩ row := by
  rintro ⟨importRecord, returned, _⟩
  rcases begin_cases command with ⟨failure, threw⟩ | ⟨source, extension, _, starts⟩
  · cases threw.symm.trans returned
  · cases starts.symm.trans returned

theorem invariant_begins {callId : CallId} {command : CreateImportCommand}
    (invariant : Invariant maxUploadBytes start state) (unused : state.calls callId = none) :
    Invariant maxUploadBytes start { state with
      calls := Function.update state.calls callId (some { command, phase := begin command }) } where
  consistent := invariant.consistent
  startFiles := invariant.startFiles
  startKeys := invariant.startKeys
  fits := by
    intro other call made
    rcases Transition.update_cases made with ⟨_, rfl⟩ | ⟨_, before⟩
    · exact fits_begin state.store command
    · exact invariant.fits other call before
  apart := by
    refine atMostOnce_update invariant.apart sharesPath_symm fun _ _ _ _ shares => ?_
    obtain ⟨path, ownPath, _⟩ := shares
    cases (path?_begin command).symm.trans ownPath
  owned := by
    intro row member
    refine (invariant.owned row member).imp_right fun owner => ?_
    obtain ⟨other, call, made, won⟩ := owner
    refine ⟨other, call, Transition.update_of_made made ?_, won⟩
    rintro rfl
    cases made.symm.trans unused
  wonOnce := by
    refine atMostOnce_update invariant.wonOnce wonSameKey_symm fun _ _ _ _ wonSame => ?_
    obtain ⟨row, _, won, _⟩ := wonSame
    exact not_won_begin command row won
  added := by
    obtain ⟨added, rows, isNew, accounted⟩ := invariant.added
    refine ⟨added, rows, isNew, fun path member => ?_⟩
    refine (accounted path member).imp_right fun later => later.imp_right fun uploads => ?_
    obtain ⟨other, call, made, hasPath⟩ := uploads
    refine ⟨other, call, Transition.update_of_made made ?_, hasPath⟩
    rintro rfl
    cases made.symm.trans unused

end

/-! ### The step of a call -/

section

variable {maxUploadBytes : Nat} {start store next : Store} {command : CreateImportCommand}
  {phase after : Phase}

theorem not_returned_of_proceeds (proceeds : Proceeds maxUploadBytes command store phase next after)
    (result : CreateImportResult) : phase ≠ .returned result := by
  cases proceeds <;> exact Phase.noConfusion

/-- A key is new only if the call has won it. -/
theorem keys_of_proceeds (proceeds : Proceeds maxUploadBytes command store phase next after)
    {row : IdempotencyKeyRow} (member : row ∈ next.idempotencyKeys) :
    row ∈ store.idempotencyKeys ∨ Call.Won ⟨command, after⟩ row := by
  cases proceeds with
  | wins =>
    refine (List.mem_append.mp member).imp_right fun new => ?_
    exact ⟨_, rfl, List.mem_singleton.mp new⟩
  | opens | saves | exceeds | loses | replays | discards => exact Or.inl member

/-- A call only wins a key that was free. -/
theorem free_of_won (fits : Fits maxUploadBytes start store command phase)
    (proceeds : Proceeds maxUploadBytes command store phase next after) {row : IdempotencyKeyRow}
    (won : Call.Won ⟨command, after⟩ row) :
    row.key ∉ store.idempotencyKeys.map IdempotencyKeyRow.key := by
  obtain ⟨importRecord, returned, rfl⟩ := won
  cases proceeds with
  | wins free => exact free
  | discards =>
    cases returned
    cases fits.1.1
  | opens | saves | exceeds | loses | replays => cases returned

/-- The file of the call stays its own until it is deleted or a row refers to it. -/
theorem paths_of_proceeds (proceeds : Proceeds maxUploadBytes command store phase next after) :
    ∃ new, next.db.importFiles = store.db.importFiles ++ new ∧
      (∀ row ∈ new, phase.path? = some row.storagePath) ∧
      ∀ path ∈ next.paths, after.path? = some path ∨ path ∈ new.map ImportFileRow.storagePath ∨
        path ∈ store.paths ∧ phase.path? ≠ some path := by
  have noRow : ∀ row ∈ ([] : List ImportFileRow), phase.path? = some row.storagePath :=
    fun _ member => (nomatch member)
  cases proceeds with
  | opens =>
    refine ⟨[], (List.append_nil _).symm, noRow, fun path member => ?_⟩
    rcases mem_paths_createWriteStream.mp member with before | rfl
    · exact Or.inr (Or.inr ⟨before, fun same => by cases same⟩)
    · exact Or.inl rfl
  | @saves source storagePath =>
    refine ⟨[], (List.append_nil _).symm, noRow, fun path member => ?_⟩
    rw [paths_fill] at member
    by_cases same : path = storagePath
    · exact Or.inl (congrArg some same.symm)
    · exact Or.inr (Or.inr ⟨member, fun has => same (Option.some.inj has).symm⟩)
  | @loses storagePath | @replays storagePath row =>
    refine ⟨[], (List.append_nil _).symm, noRow, fun path member => ?_⟩
    by_cases same : path = storagePath
    · exact Or.inl (congrArg some same.symm)
    · exact Or.inr (Or.inr ⟨member, fun has => same (Option.some.inj has).symm⟩)
  | exceeds | discards =>
    refine ⟨[], (List.append_nil _).symm, noRow, fun path member => ?_⟩
    obtain ⟨before, other⟩ := mem_paths_rm.mp member
    exact Or.inr (Or.inr ⟨before, fun has => other (Option.some.inj has).symm⟩)
  | @wins storagePath importId jobId createdAt now =>
    refine ⟨[⟨importId, storagePath, now⟩], rfl, fun row member => ?_, fun path member => ?_⟩
    · rw [List.mem_singleton.mp member]
      rfl
    · by_cases same : path = storagePath
      · exact Or.inr (Or.inl (List.mem_singleton.mpr same))
      · exact Or.inr (Or.inr ⟨member, fun has => same (Option.some.inj has).symm⟩)

theorem consistent_of_proceeds (consistent : store.Consistent)
    (fits : Fits maxUploadBytes start store command phase)
    (proceeds : Proceeds maxUploadBytes command store phase next after) : next.Consistent := by
  cases proceeds with
  | opens =>
    refine consistent_of_files consistent fun path member => ?_
    exact mem_paths_createWriteStream.mpr (Or.inl (consistent.stored member))
  | saves =>
    refine consistent_of_files consistent fun path member => ?_
    show path ∈ (DiskFileStorage.fill _ _ store).paths
    rw [paths_fill]
    exact consistent.stored member
  | exceeds => exact consistent_rm consistent fits.2.notReferenced
  | wins free fresh => exact consistent_withImport consistent free fresh fits.2.written
  | loses | replays => exact consistent
  | discards => exact consistent_rm consistent fits.2.notReferenced

end

section

variable {maxUploadBytes : Nat} {start : Store} {state : State}

/-- The path a call touches is nothing to the rest of the system. -/
structure Separate (start : Store) (state : State) (callId : CallId) (path : JsString) : Prop where
  notReferenced : ∀ other ∈ state.store.referenced, some path ≠ some other
  notAtStart : path ∉ start.paths
  others : ∀ other call, other ≠ callId → state.calls other = some call →
    ∀ otherPath, call.phase.path? = some otherPath → some path ≠ some otherPath

theorem separate_of_owns {callId : CallId} {call : Call} {path : JsString}
    (invariant : Invariant maxUploadBytes start state) (made : state.calls callId = some call)
    (owns : call.phase.path? = some path ∨
      call.phase.path? = none ∧ isFreshPath path state.store = true) :
    Separate start state callId path := by
  rcases owns with owned | ⟨_, fresh⟩
  · have uploading := (invariant.fits callId call made).uploading owned
    refine ⟨?_, uploading.isNew, ?_⟩
    · rintro other member ⟨⟩
      exact uploading.notReferenced member
    · rintro other otherCall different otherMade otherPath has ⟨⟩
      exact different
        (invariant.apart other callId otherCall call otherMade made ⟨path, has, owned⟩)
  · obtain ⟨unused, notReferenced⟩ := isFreshPath_iff.mp fresh
    refine ⟨?_, fun member => unused (List.map_subset _ invariant.startFiles member), ?_⟩
    · rintro other member ⟨⟩
      exact notReferenced member
    · rintro other otherCall different otherMade otherPath has ⟨⟩
      exact unused ((invariant.fits other otherCall otherMade).uploading has).written

variable {callId : CallId} {call : Call} {store : Store} {phase : Phase}

/-- The state after a call has gone on. -/
def State.after (state : State) (callId : CallId) (call : Call) (store : Store) (phase : Phase) :
    State :=
  { state with
    store := store
    calls := Function.update state.calls callId (some { call with phase := phase }) }

theorem fits_after (invariant : Invariant maxUploadBytes start state)
    (made : state.calls callId = some call)
    (proceeds : Proceeds maxUploadBytes call.command state.store call.phase store phase)
    {path : JsString} (keeps : Keeps (some path) state.store store)
    (separate : Separate start state callId path) {other : CallId} {otherCall : Call}
    (otherMade : (state.after callId call store phase).calls other = some otherCall) :
    Fits maxUploadBytes start store otherCall.command otherCall.phase := by
  rcases Transition.update_cases otherMade with ⟨_, rfl⟩ | ⟨different, before⟩
  · exact fits_proceeds invariant.startFiles invariant.startKeys (invariant.fits callId call made)
      proceeds
  · exact (invariant.fits other otherCall before).keeps keeps separate.notReferenced
      (separate.others other otherCall different before)

theorem apart_after (invariant : Invariant maxUploadBytes start state) {path : JsString}
    (pathAfter : phase.path? = none ∨ phase.path? = some path)
    (separate : Separate start state callId path) :
    AtMostOnce (state.after callId call store phase).calls Call.SharesPath := by
  refine atMostOnce_update invariant.apart sharesPath_symm fun other otherCall different made => ?_
  rintro ⟨shared, ownPath, otherPath⟩
  have isPath : some path = some shared := by
    rcases pathAfter with none | same
    · cases none.symm.trans ownPath
    · exact same.symm.trans ownPath
  exact separate.others other otherCall different made shared otherPath isPath

theorem owned_after (invariant : Invariant maxUploadBytes start state)
    (made : state.calls callId = some call)
    (proceeds : Proceeds maxUploadBytes call.command state.store call.phase store phase)
    {row : IdempotencyKeyRow} (member : row ∈ store.idempotencyKeys) :
    row ∈ start.idempotencyKeys ∨ ∃ other otherCall,
      (state.after callId call store phase).calls other = some otherCall ∧ otherCall.Won row := by
  rcases keys_of_proceeds proceeds member with before | won
  · refine (invariant.owned row before).imp_right fun owner => ?_
    obtain ⟨other, otherCall, otherMade, importRecord, returned, rowIs⟩ := owner
    refine ⟨other, otherCall, Transition.update_of_made otherMade ?_, importRecord, returned, rowIs⟩
    rintro rfl
    rw [made] at otherMade
    cases otherMade
    exact not_returned_of_proceeds proceeds _ returned
  · exact Or.inr ⟨callId, _, Function.update_self .., won⟩

/-- The key of a call that has won it before is not free any more. -/
theorem wonOnce_after (invariant : Invariant maxUploadBytes start state)
    (made : state.calls callId = some call)
    (proceeds : Proceeds maxUploadBytes call.command state.store call.phase store phase) :
    AtMostOnce (state.after callId call store phase).calls Call.WonSameKey := by
  refine atMostOnce_update invariant.wonOnce wonSameKey_symm fun other otherCall _ otherMade => ?_
  rintro ⟨row, otherRow, won, ⟨importRecord, returned, rfl⟩, same⟩
  have otherFits := invariant.fits other otherCall otherMade
  rw [returned] at otherFits
  refine free_of_won (invariant.fits callId call made) proceeds won ?_
  rw [same]
  exact List.mem_map_of_mem otherFits.1

theorem added_after (invariant : Invariant maxUploadBytes start state)
    (made : state.calls callId = some call)
    (proceeds : Proceeds maxUploadBytes call.command state.store call.phase store phase) :
    ∃ added, store.db.importFiles = start.db.importFiles ++ added ∧
      (∀ row ∈ added, row.storagePath ∉ start.paths) ∧
      ∀ path ∈ store.paths, Accounted start added (state.after callId call store phase) path := by
  obtain ⟨added, rows, isNew, accounted⟩ := invariant.added
  obtain ⟨new, newRows, owned, paths⟩ := paths_of_proceeds proceeds
  refine ⟨added ++ new, ?_, ?_, ?_⟩
  · rw [newRows, rows, List.append_assoc]
  · intro row member
    rcases List.mem_append.mp member with before | here
    · exact isNew row before
    · exact ((invariant.fits callId call made).uploading (owned row here)).isNew
  · intro path member
    rcases paths path member with uploads | here | ⟨before, notOwn⟩
    · exact Or.inr (Or.inr ⟨callId, _, Function.update_self .., uploads⟩)
    · refine Or.inr (Or.inl ?_)
      rw [List.map_append]
      exact List.mem_append_right _ here
    · rcases accounted path before with old | earlier | ⟨other, otherCall, otherMade, has⟩
      · exact Or.inl old
      · refine Or.inr (Or.inl ?_)
        rw [List.map_append]
        exact List.mem_append_left _ earlier
      · refine Or.inr (Or.inr ⟨other, otherCall, Transition.update_of_made otherMade ?_, has⟩)
        rintro rfl
        rw [made] at otherMade
        cases otherMade
        exact notOwn has

theorem invariant_proceeds (invariant : Invariant maxUploadBytes start state)
    (made : state.calls callId = some call)
    (proceeds : Proceeds maxUploadBytes call.command state.store call.phase store phase) :
    Invariant maxUploadBytes start (state.after callId call store phase) := by
  obtain ⟨path, keeps, pathAfter, owns⟩ := keeps_of_proceeds proceeds
  have separate : Separate start state callId path := separate_of_owns invariant made owns
  exact
    { consistent := consistent_of_proceeds invariant.consistent (invariant.fits callId call made)
        proceeds
      startFiles := fun file member => keeps.files file (invariant.startFiles member)
        fun same => separate.notAtStart (Option.some.inj same ▸ List.mem_map_of_mem member)
      startKeys := fun _ member => keeps.idempotencyKeys (invariant.startKeys member)
      fits := fun _ _ otherMade => fits_after invariant made proceeds keeps separate otherMade
      apart := apart_after invariant pathAfter separate
      owned := fun _ => owned_after invariant made proceeds
      wonOnce := wonOnce_after invariant made proceeds
      added := added_after invariant made proceeds }

end

/-! ### Runs -/

/-- No step deletes or changes a file that a row refers to. -/
def KeepsReferenced (state : State) (_ : Action) (next : State) : Prop :=
  ∀ file ∈ state.store.files, file.storagePath ∈ state.store.referenced → file ∈ next.store.files

/-- The call has ended. -/
def Phase.hasEnded : Phase → Bool
  | .returned _ | .threw _ => true
  | .starting _ _ | .saving _ _ | .creating _ | .readingExisting _ | .deleting _ _ => false

/-- What calls have come to that began on a store. -/
structure CreatedOnce (maxUploadBytes : Nat) (start : Store) (state : State) : Prop where
  consistent : state.store.Consistent
  oneOfEach : state.store.OneOfEach
  /-- Calls of one key have returned one import. -/
  sameImport : ∀ first second firstCall secondCall firstResult secondResult,
    state.calls first = some firstCall → state.calls second = some secondCall →
    firstCall.phase = .returned firstResult → secondCall.phase = .returned secondResult →
    firstCall.command.idempotencyKey = secondCall.command.idempotencyKey →
    firstResult.importRecord.id = secondResult.importRecord.id
  /-- At most one of them has created it. -/
  atMostOneNew : ∀ first second firstCall secondCall firstRecord secondRecord,
    state.calls first = some firstCall → state.calls second = some secondCall →
    firstCall.phase = .returned ⟨firstRecord, true⟩ →
    secondCall.phase = .returned ⟨secondRecord, true⟩ →
    firstCall.command.idempotencyKey = secondCall.command.idempotencyKey → first = second
  /-- One of them has, if the key was not there at the start. -/
  oneNew : ∀ callId call result, state.calls callId = some call → call.phase = .returned result →
    (call.command.idempotencyKey ∉ start.idempotencyKeys.map IdempotencyKeyRow.key ↔
      ∃ winner winnerCall record, state.calls winner = some winnerCall ∧
        winnerCall.phase = .returned ⟨record, true⟩ ∧
        winnerCall.command.idempotencyKey = call.command.idempotencyKey)
  /-- The import of the call that has created it has the upload of this call. -/
  uploaded : ∀ callId call record, state.calls callId = some call →
    call.phase = .returned ⟨record, true⟩ → StoredFor state.store call.command record.id
  /-- Once the calls have ended, the files that have come are those the new rows refer to. -/
  files : (∀ callId call, state.calls callId = some call → call.phase.hasEnded = true) →
    ∃ added, state.store.db.importFiles = start.db.importFiles ++ added ∧
      ∀ path, path ∈ state.store.paths ∧ path ∉ start.paths ↔
        path ∈ added.map ImportFileRow.storagePath
  keptFiles : start.files ⊆ state.store.files
  /-- No call has thrown, but for what its command carried. -/
  refused : ∀ callId call failure, state.calls callId = some call → call.phase = .threw failure →
    Refused maxUploadBytes call.command failure

section

variable {config : StorageConfig} {start : Store} {state next : State} {action : Action}

/-- What a step of a run does. -/
theorem step_cases (invariant : Invariant config.maxUploadBytes start state)
    (enabled : step config state action = some next) :
    (∃ now db, SameRows state.store.db db ∧
        next = { state with now, store := { state.store with db } }) ∨
      (∃ callId command, state.calls callId = none ∧ next = { state with
        calls := Function.update state.calls callId (some ⟨command, begin command⟩) }) ∨
      ∃ callId call store phase, state.calls callId = some call ∧
        Proceeds config.maxUploadBytes call.command state.store call.phase store phase ∧
        next = state.after callId call store phase := by
  cases action with
  | advance milliseconds =>
    cases enabled
    exact Or.inl ⟨_, state.store.db, ⟨rfl, rfl, rfl⟩, rfl⟩
  | elsewhere statement =>
    rw [step] at enabled
    cases other : createsImport statement with
    | true =>
      rw [other, if_pos rfl] at enabled
      cases enabled
    | false =>
      rw [other, if_neg Bool.false_ne_true] at enabled
      cases enabled
      exact Or.inl ⟨state.now, _, sameRows_commit state.now state.store.db other, rfl⟩
  | execute callId command =>
    cases made : state.calls callId with
    | some call =>
      simp only [step, made] at enabled
      cases enabled
    | none =>
      simp only [step, made] at enabled
      cases enabled
      exact Or.inr (Or.inl ⟨callId, command, made, rfl⟩)
  | proceed callId event =>
    cases made : state.calls callId with
    | none =>
      simp only [step, made] at enabled
      cases enabled
    | some call =>
      simp only [step, made] at enabled
      obtain ⟨⟨store, phase⟩, goesOn, rfl⟩ := Option.map_eq_some_iff.mp enabled
      refine Or.inr (Or.inr ⟨callId, call, store, phase, made, ?_, rfl⟩)
      refine proceeds_of_proceed invariant.consistent (fun storagePath reading => ?_) goesOn
      have fits := invariant.fits callId call made
      rw [reading] at fits
      exact fits.1

theorem invariant_step (invariant : Invariant config.maxUploadBytes start state)
    (enabled : step config state action = some next) :
    Invariant config.maxUploadBytes start next := by
  rcases step_cases invariant enabled with ⟨now, db, same, rfl⟩ |
    ⟨callId, command, unused, rfl⟩ | ⟨callId, call, store, phase, made, proceeds, rfl⟩
  · exact invariant_elsewhere invariant same
  · exact invariant_begins invariant unused
  · exact invariant_proceeds invariant made proceeds

theorem keepsReferenced_step (invariant : Invariant config.maxUploadBytes start state)
    (enabled : step config state action = some next) : KeepsReferenced state action next := by
  intro file member referenced
  rcases step_cases invariant enabled with ⟨now, db, same, rfl⟩ |
    ⟨callId, command, unused, rfl⟩ | ⟨callId, call, store, phase, made, proceeds, rfl⟩
  · exact member
  · exact member
  · obtain ⟨path, keeps, _, owns⟩ := keeps_of_proceeds proceeds
    exact keeps.files file member
      ((separate_of_owns invariant made owns).notReferenced file.storagePath referenced)

end

section

variable {maxUploadBytes : Nat} {start : Store} {state : State}

/-- A call that has returned has the row of its key. -/
theorem keyed_of_returned (invariant : Invariant maxUploadBytes start state) {callId : CallId}
    {call : Call} {result : CreateImportResult} (made : state.calls callId = some call)
    (returned : call.phase = .returned result) :
    ⟨call.command.idempotencyKey, result.importRecord.id⟩ ∈ state.store.idempotencyKeys := by
  have fits := invariant.fits callId call made
  rw [returned] at fits
  exact fits.1

theorem fits_of_won (invariant : Invariant maxUploadBytes start state) {callId : CallId}
    {call : Call} {record : ImportRecord} (made : state.calls callId = some call)
    (returned : call.phase = .returned ⟨record, true⟩) :
    call.command.idempotencyKey ∉ start.idempotencyKeys.map IdempotencyKeyRow.key ∧
      StoredFor state.store call.command record.id := by
  have fits := invariant.fits callId call made
  rw [returned] at fits
  exact fits.2 rfl

theorem importId_eq_of_key_eq (invariant : Invariant maxUploadBytes start state) {key : JsString}
    {first second : ImportId} (firstMember : ⟨key, first⟩ ∈ state.store.idempotencyKeys)
    (secondMember : ⟨key, second⟩ ∈ state.store.idempotencyKeys) : first = second := by
  have foundFirst := lookup_of_mem IdempotencyKeyRow.key invariant.consistent.keys firstMember
  have foundSecond := lookup_of_mem IdempotencyKeyRow.key invariant.consistent.keys secondMember
  exact congrArg IdempotencyKeyRow.importId (Option.some.inj (foundFirst.symm.trans foundSecond))

theorem path?_of_hasEnded {phase : Phase} (ended : phase.hasEnded = true) : phase.path? = none := by
  cases phase with
  | returned | threw => rfl
  | starting | saving | creating | readingExisting | deleting => cases ended

theorem files_of_ended (invariant : Invariant maxUploadBytes start state)
    (ended : ∀ callId call, state.calls callId = some call → call.phase.hasEnded = true) :
    ∃ added, state.store.db.importFiles = start.db.importFiles ++ added ∧
      ∀ path, path ∈ state.store.paths ∧ path ∉ start.paths ↔
        path ∈ added.map ImportFileRow.storagePath := by
  obtain ⟨added, rows, isNew, accounted⟩ := invariant.added
  refine ⟨added, rows, fun path => ⟨?_, ?_⟩⟩
  · rintro ⟨member, notOld⟩
    rcases accounted path member with old | new | ⟨callId, call, made, uploads⟩
    · exact absurd old notOld
    · exact new
    · cases (path?_of_hasEnded (ended callId call made)).symm.trans uploads
  · intro new
    obtain ⟨row, member, rfl⟩ := List.mem_map.mp new
    refine ⟨invariant.consistent.stored ?_, isNew row member⟩
    rw [Store.referenced, rows, List.map_append]
    exact List.mem_append_right _ new

theorem createdOnce_of_invariant (invariant : Invariant maxUploadBytes start state) :
    CreatedOnce maxUploadBytes start state where
  consistent := invariant.consistent
  oneOfEach := invariant.consistent.oneOfEach
  sameImport := by
    intro first second firstCall secondCall firstResult secondResult madeFirst madeSecond
      returnedFirst returnedSecond same
    have keyedFirst := keyed_of_returned invariant madeFirst returnedFirst
    rw [same] at keyedFirst
    exact importId_eq_of_key_eq invariant keyedFirst
      (keyed_of_returned invariant madeSecond returnedSecond)
  atMostOneNew := by
    intro first second firstCall secondCall firstRecord secondRecord madeFirst madeSecond
      returnedFirst returnedSecond same
    exact invariant.wonOnce first second firstCall secondCall madeFirst madeSecond
      ⟨_, _, ⟨firstRecord, returnedFirst, rfl⟩, ⟨secondRecord, returnedSecond, rfl⟩, same⟩
  oneNew := by
    intro callId call result made returned
    constructor
    · intro free
      rcases invariant.owned _ (keyed_of_returned invariant made returned) with
        old | ⟨winner, winnerCall, winnerMade, record, winnerReturned, rowIs⟩
      · exact absurd (List.mem_map_of_mem old) free
      · exact ⟨winner, winnerCall, record, winnerMade, winnerReturned,
          (congrArg IdempotencyKeyRow.key rowIs).symm⟩
    · rintro ⟨winner, winnerCall, record, winnerMade, winnerReturned, same⟩
      rw [← same]
      exact (fits_of_won invariant winnerMade winnerReturned).1
  uploaded := fun _ _ _ made returned => (fits_of_won invariant made returned).2
  files := files_of_ended invariant
  keptFiles := invariant.startFiles
  refused := by
    intro callId call failure made threw
    have fits := invariant.fits callId call made
    rw [threw] at fits
    exact fits

end

/-- Any calls of `execute`, interleaved in any way with each other and with the rest of the
service, from any consistent store: imports are created once for each key, and no file that a row
refers to is ever deleted. -/
theorem created_once (config : StorageConfig) (now : Nat) {start : Store}
    (consistent : start.Consistent) {schedule : List Action} {final : State}
    (reaches : Transition.run (step config) (initial now start) schedule = some final) :
    CreatedOnce config.maxUploadBytes start final ∧
      Transition.Every (step config) KeepsReferenced (initial now start) schedule := by
  have initially : Invariant config.maxUploadBytes start (initial now start) :=
    invariant_initial config.maxUploadBytes now consistent
  have atEnd : Invariant config.maxUploadBytes start final :=
    Transition.Reachable.invariant ⟨schedule, reaches⟩ (Invariant config.maxUploadBytes start)
      initially fun _ _ _ invariant enabled => invariant_step invariant enabled
  refine ⟨createdOnce_of_invariant atEnd, ?_⟩
  exact Transition.Every.imp (Invariant config.maxUploadBytes start)
    (fun _ _ _ invariant enabled _ => invariant_step invariant enabled)
    (fun _ _ _ invariant enabled _ => keepsReferenced_step invariant enabled)
    initially (Transition.every_true (step config) (initial now start) schedule)

/-- The upload that both calls of the race make. -/
def sharedUpload : CreateImportCommand where
  idempotencyKey := [0x6b]
  fileStream := some ⟨[0x0a], false⟩
  originalFilename := some (JsString.ofString "a.ndjson")
  mimeType := JsString.ofString "text/plain"

/-- The second call has its file written before the first one commits, and loses. -/
def race : List Action :=
  [.execute 1 sharedUpload, .execute 2 sharedUpload,
    .proceed 1 (.createFile [0x31]), .proceed 2 (.createFile [0x32]),
    .proceed 2 .streamEnded, .proceed 1 .streamEnded,
    .proceed 1 (.transaction 1 1 0 .target), .proceed 2 (.transaction 2 2 0 .driverAdapterError),
    .proceed 2 .existingRead, .proceed 2 .fileDeleted]

/-- A storage that takes files of one byte. -/
def smallStorage : StorageConfig where
  storageRoot := []
  maxUploadBytes := 1

/-- A store without rows and files. -/
def emptyStore : Store where
  db := Database.empty
  idempotencyKeys := []
  files := []

theorem consistent_emptyStore : emptyStore.Consistent where
  importIds := List.nodup_nil
  keys := List.nodup_nil
  keyed := List.Perm.nil
  filed := List.Perm.nil
  queued := List.Perm.nil
  stored := List.nil_subset _

theorem created_once_race :
    ∃ final, Transition.run (step smallStorage) (initial 0 emptyStore) race = some final ∧
      final.calls 2 = some ⟨sharedUpload,
        .returned ⟨ImportRepository.newImport 1 0 0, false⟩⟩ ∧
      final.store.files.length = 1 ∧
      CreatedOnce 1 emptyStore final ∧
      Transition.Every (step smallStorage) KeepsReferenced (initial 0 emptyStore) race := by
  have trace : (Transition.run (step smallStorage) (initial 0 emptyStore) race).map
      (fun final => (final.calls 2, final.store.files.length)) =
        some (some ⟨sharedUpload, .returned ⟨ImportRepository.newImport 1 0 0, false⟩⟩, 1) := by
    decide +kernel
  obtain ⟨final, reaches, seen⟩ := Option.map_eq_some_iff.mp trace
  obtain ⟨second, files⟩ := Prod.mk.inj seen
  exact ⟨final, reaches, second, files, created_once smallStorage 0 consistent_emptyStore reaches⟩

end CreateImport

end ImportService
