/-
This file models the check of `DiskFileStorage` that a path stays within the storage root, with
`path.resolve` and `path.relative` on the way to it.

The check refuses every path that leads out of the root, wherever its dots stand, and also the
names in the root that start with two dots. `delete` hands the path itself to `rm`, which follows
it on the disk: what it removes is the file at the location that was checked (`delete_eq`). The
directory that a store describes is part of such a disk, and `delete` does to it what `rm` does to
the store (`delete_pathOf`).

An upload can choose no more of the name of its file than the extension, so `save` and every
`delete` of an upload pass the check, and neither they nor the sweeps ever touch a file outside of
the root (`files_stay_inside`).
-/

import ImportService.Lib.FileTree
import ImportService.OrphanSweep

namespace ImportService

open PathSegments

namespace DiskFileStorage

/-- The separator of the segments of a path. -/
def slash : UInt16 := 0x2f

/-- The unit of the names `.` and `..`. -/
def dot : UInt16 := 0x2e

/-- The location a path leads to, in a process with that working directory. -/
def located (cwd : List JsString) (path : JsString) : List JsString := locate slash dot cwd path

/-- `path.resolve(path)` -/
def resolve (cwd : List JsString) (path : JsString) : JsString := render slash (located cwd path)

/-- The text of `path.relative(STORAGE_ROOT, candidate)`. -/
def relativePath (cwd : List JsString) (storageRoot candidate : JsString) : JsString :=
  [slash].intercalate (relative dot (located cwd storageRoot) (located cwd candidate))

/-- A path that leads out of the root is refused. -/
def assertWithinStorageRoot (cwd : List JsString) (storageRoot candidate : JsString) :
    Except String Unit :=
  let relative := relativePath cwd storageRoot candidate
  let escapes := [dot, dot].isPrefixOf relative || isAbsolute slash relative
  if escapes then .error "Refusing to operate on a path outside the storage root." else .ok ()

/-- The files of a machine without links; a location is told by the names on the way to it. -/
abbrev Disk := FileTree.Tree UInt16 (List UInt8)

/-- What `delete` throws: its own error, or what `rm` finds wrong with a path. -/
inductive DeleteError
  | refused (message : String)
  | ERR_INVALID_ARG_VALUE
  | failed (error : FileTree.PathError)

/-- `rm(path, { force: true })` on the disk. A path goes to the system in UTF-8. -/
def rmForce (cwd : List JsString) (path : JsString) (disk : Disk) : Except DeleteError Disk :=
  if path.contains 0 then .error .ERR_INVALID_ARG_VALUE
  else (disk.rm slash dot cwd (JsString.toWellFormed path)).mapError DeleteError.failed

/-- The path is checked as it is resolved, and removed as it is given. -/
def delete (cwd : List JsString) (storageRoot storagePath : JsString) (disk : Disk) :
    Except DeleteError Disk :=
  match assertWithinStorageRoot cwd storageRoot (resolve cwd storagePath) with
  | .error message => .error (.refused message)
  | .ok () => rmForce cwd storagePath disk

/-- The path leads to the storage root or below it, and there into no name that starts with two
dots. -/
def IsWithin (cwd : List JsString) (storageRoot path : JsString) : Prop :=
  ∃ below, located cwd path = located cwd storageRoot ++ below ∧
    ∀ name ∈ below.head?, ¬ [dot, dot] <+: name

/-- The path leads to a file in the storage root. -/
def IsDirectlyInside (cwd : List JsString) (storageRoot path : JsString) : Prop :=
  ∃ name, IsName slash dot name ∧ ¬ [dot, dot] <+: name ∧
    located cwd path = located cwd storageRoot ++ [name]

section

variable {cwd : List JsString} {storageRoot path : JsString}

theorem isName_located (names : ∀ name ∈ cwd, IsName slash dot name) (path : JsString) :
    ∀ name ∈ located cwd path, IsName slash dot name := isName_locate names path

theorem located_resolve (names : ∀ name ∈ cwd, IsName slash dot name) (path : JsString) :
    located cwd (resolve cwd path) = located cwd path :=
  locate_render (isName_located names path) cwd

/-- A relative path is never absolute. -/
theorem isAbsolute_relativePath (names : ∀ name ∈ cwd, IsName slash dot name)
    (storageRoot candidate : JsString) :
    isAbsolute slash (relativePath cwd storageRoot candidate) = false := by
  refine isAbsolute_intercalate fun segment member => ?_
  rcases mem_relative member with rfl | isBelow
  · exact ⟨List.cons_ne_nil _ _, by decide⟩
  · have isName := isName_located names candidate segment isBelow
    exact ⟨isName.notEmpty, isName.noSlash⟩

/-- The check passes exactly for the paths within the root. -/
theorem assertWithinStorageRoot_ok_iff (names : ∀ name ∈ cwd, IsName slash dot name) :
    assertWithinStorageRoot cwd storageRoot path = .ok () ↔ IsWithin cwd storageRoot path := by
  have escapes_iff : climbs slash dot
        (relative dot (located cwd storageRoot) (located cwd path)) = false ↔
      IsWithin cwd storageRoot path := climbs_relative_iff (isName_located names path)
  rw [← escapes_iff, assertWithinStorageRoot, isAbsolute_relativePath names, Bool.or_false]
  show (if climbs slash dot (relative dot _ _) = true then _ else _) = _ ↔ _
  split
  · rename_i climbsOut
    rw [climbsOut]
    exact iff_of_false (fun same => nomatch same) (fun same => nomatch same)
  · rename_i staysIn
    exact iff_of_true rfl (Bool.eq_false_iff.mpr staysIn)

theorem isWithin_resolve_iff (names : ∀ name ∈ cwd, IsName slash dot name) :
    IsWithin cwd storageRoot (resolve cwd path) ↔ IsWithin cwd storageRoot path := by
  rw [IsWithin, IsWithin, located_resolve names]

theorem IsDirectlyInside.isWithin (inside : IsDirectlyInside cwd storageRoot path) :
    IsWithin cwd storageRoot path := by
  obtain ⟨name, _, noDots, isLocation⟩ := inside
  refine ⟨[name], isLocation, fun other isHead => ?_⟩
  cases isHead
  exact noDots

end

/-- The path leads to a file or to nothing: not to a directory, and not through a file. -/
def LeadsToNoDirectory (cwd : List JsString) (path : JsString) (disk : Disk) : Prop :=
  disk.reach slash dot cwd path = .error .ENOENT ∨
    ∃ content, disk.reach slash dot cwd path = .ok (located cwd path) ∧
      disk.entry (located cwd path) = some (.file content)

section

variable {cwd : List JsString} {storageRoot path : JsString} {disk after : Disk}

theorem rmForce_ok_iff (isText : JsString.toWellFormed path = path) :
    rmForce cwd path disk = .ok after ↔ 0 ∉ path ∧ disk.rm slash dot cwd path = .ok after := by
  rw [rmForce, isText]
  by_cases nul : 0 ∈ path
  · rw [if_pos (List.contains_iff_mem.mpr nul)]
    exact iff_of_false (fun same => by cases same) fun removes => removes.1 nul
  · rw [if_neg (mt List.contains_iff_mem.mp nul), and_iff_right nul]
    cases disk.rm slash dot cwd path with
    | error error => exact iff_of_false (fun same => by cases same) fun same => by cases same
    | ok removed => rw [Except.mapError, Except.ok.injEq, Except.ok.injEq]

theorem exists_rm_iff : (∃ after, disk.rm slash dot cwd path = .ok after) ↔
    LeadsToNoDirectory cwd path disk := by
  constructor
  · rintro ⟨after, removes⟩
    rcases FileTree.rm_ok_iff.mp removes with ⟨missing, _⟩ | ⟨reached, content, isFile, reaches, _⟩
    · exact Or.inl missing
    · obtain ⟨rfl, _⟩ := FileTree.reach_eq reaches
      exact Or.inr ⟨content, reaches, isFile⟩
  · rintro (missing | ⟨content, reaches, isFile⟩)
    · exact ⟨disk, FileTree.rm_ok_iff.mpr (Or.inl ⟨missing, rfl⟩)⟩
    · exact ⟨disk.unlink isFile,
        FileTree.rm_ok_iff.mpr (Or.inr ⟨_, content, isFile, reaches, rfl⟩)⟩

theorem delete_of_within (names : ∀ name ∈ cwd, IsName slash dot name)
    (within : IsWithin cwd storageRoot path) :
    delete cwd storageRoot path disk = rmForce cwd path disk := by
  rw [delete, (assertWithinStorageRoot_ok_iff names).mpr ((isWithin_resolve_iff names).mpr within)]

end

/-- The storage root of the disk holds the files of the store, under the paths that `save` gives
them. -/
structure Holds (cwd : List JsString) (storageRoot : JsString) (store : Store) (disk : Disk) :
    Prop where
  isText : JsString.toWellFormed storageRoot = storageRoot
  noNul : 0 ∉ storageRoot
  reaches : disk.reach slash dot cwd storageRoot = .ok (located cwd storageRoot)
  isDirectory : disk.entry (located cwd storageRoot) = some .directory
  files : ∀ name, IsName slash dot name →
    disk.entry (located cwd storageRoot ++ [name]) =
      (KeyedTable.lookup StoredFile.storagePath store.files (storageRoot ++ slash :: name)).map
        fun file => .file file.content

theorem lookup_rm (storagePath other : JsString) (store : Store) :
    KeyedTable.lookup StoredFile.storagePath (rm storagePath store).files other =
      if other = storagePath then none
      else KeyedTable.lookup StoredFile.storagePath store.files other := by
  rw [rm, KeyedTable.lookup, List.find?_filter]
  split
  · rename_i same
    refine List.find?_eq_none.mpr fun file _ => ?_
    rw [same, decide_eq_true_eq, bne_iff_ne, decide_eq_true_eq]
    exact fun both => both.1 both.2
  · rename_i different
    refine congrArg (fun selects => List.find? selects store.files) (funext fun file => ?_)
    by_cases wanted : file.storagePath = other
    · simp [wanted, different]
    · simp [wanted]

/-- What `delete` does on the disk to a file of the store is what `rm` does in the store. -/
theorem delete_holds {cwd : List JsString} (names : ∀ name ∈ cwd, IsName slash dot name)
    {storageRoot name : JsString} {store : Store} {disk : Disk}
    (holds : Holds cwd storageRoot store disk) (isName : IsName slash dot name)
    (noDots : ¬ [dot, dot] <+: name) (isText : JsString.toWellFormed name = name)
    (noNul : 0 ∉ name) :
    ∃ after, delete cwd storageRoot (storageRoot ++ slash :: name) disk = .ok after ∧
      Holds cwd storageRoot (rm (storageRoot ++ slash :: name) store) after := by
  have notEmpty : storageRoot ≠ [] := by
    rintro rfl
    cases holds.reaches
  have isLocation : located cwd (storageRoot ++ slash :: name) =
      located cwd storageRoot ++ [name] := locate_append notEmpty isName cwd
  have within : IsWithin cwd storageRoot (storageRoot ++ slash :: name) :=
    ⟨[name], isLocation, fun other isHead => by cases isHead; exact noDots⟩
  have pathIsText : JsString.toWellFormed (storageRoot ++ slash :: name) =
      storageRoot ++ slash :: name := by
    rw [JsString.toWellFormed_append_cons _ (by decide), holds.isText, isText]
  have pathNoNul : 0 ∉ storageRoot ++ slash :: name := by
    rw [List.mem_append, List.mem_cons, not_or, not_or]
    exact ⟨holds.noNul, by decide, noNul⟩
  have reaches := FileTree.reach_name isName holds.reaches holds.isDirectory
  have file := holds.files name isName
  have leads : LeadsToNoDirectory cwd (storageRoot ++ slash :: name) disk := by
    rw [LeadsToNoDirectory, isLocation, reaches, file]
    cases KeyedTable.lookup StoredFile.storagePath store.files (storageRoot ++ slash :: name) with
    | none => exact Or.inl rfl
    | some stored => exact Or.inr ⟨stored.content, rfl, rfl⟩
  obtain ⟨after, removes⟩ := exists_rm_iff.mpr leads
  have notRoot : located cwd storageRoot ≠ located cwd (storageRoot ++ slash :: name) := by
    rw [isLocation]
    exact fun same => absurd (congrArg List.length same) (by simp)
  have rootReached := FileTree.reach_rm removes holds.reaches notRoot
  have rootEntry : after.entry (located cwd storageRoot) = some .directory := by
    rw [FileTree.rm_frame removes notRoot, holds.isDirectory]
  refine ⟨after, ?_, holds.isText, holds.noNul, rootReached, rootEntry,
    fun other isOtherName => ?_⟩
  · rw [delete_of_within names within, rmForce_ok_iff pathIsText]
    exact ⟨pathNoNul, removes⟩
  · rw [lookup_rm]
    by_cases same : other = name
    · subst same
      have gone := FileTree.rm_gone removes
      rw [FileTree.reach_name isName rootReached rootEntry] at gone
      rw [if_pos rfl]
      split at gone
      · assumption
      · cases gone
    · have differs : storageRoot ++ slash :: other ≠ storageRoot ++ slash :: name :=
        fun equal => same (List.cons.inj (List.append_cancel_left equal)).2
      rw [if_neg differs, ← holds.files other isOtherName]
      refine FileTree.rm_frame removes ?_
      show _ ≠ located cwd (storageRoot ++ slash :: name)
      rw [isLocation]
      exact fun equal => same (List.singleton_inj.mp (List.append_cancel_left equal))

/-! ### The names that save gives -/

/-- What `randomUUID` returns: hexadecimal digits and hyphens. -/
def isUuid (uuid : JsString) : Bool :=
  uuid.length == 36 && uuid.all fun unit =>
    JsString.isDigit unit || (0x61 ≤ unit && unit ≤ 0x66) || unit == 0x2d

/-- The units of a generated name lie between the hyphen and the last letter. -/
structure IsNameUnit (unit : UInt16) : Prop where
  hyphen : 0x2d ≤ unit.toNat
  letter : unit.toNat ≤ 0x7a
  notSlash : unit ≠ slash

/-- The lower case of a letter, a digit or a dot. -/
theorem isNameUnit_lower {unit : UInt16} (isPlain : JsString.isLetter unit = true ∨
      JsString.isDigit unit = true ∨ unit = dot) :
    IsNameUnit (if JsString.isUpperLetter unit then unit + 0x20 else unit) := by
  simp only [JsString.isLetter, JsString.isLowerLetter, JsString.isDigit, Bool.or_eq_true,
    JsString.isUpperLetter, Bool.and_eq_true, decide_eq_true_eq, UInt16.le_iff_toNat_le,
    ← UInt16.toNat_inj, dot, UInt16.reduceToNat] at isPlain
  split
  · rename_i isUpper
    simp only [JsString.isUpperLetter, Bool.and_eq_true, decide_eq_true_eq,
      UInt16.le_iff_toNat_le, UInt16.reduceToNat] at isUpper
    have isLower : (unit + 0x20).toNat = unit.toNat + 0x20 := by
      simp only [UInt16.toNat_add, UInt16.reduceToNat]
      omega
    refine ⟨by omega, by omega, fun same => ?_⟩
    simp only [same, slash, UInt16.reduceToNat] at isLower
    omega
  · rename_i notUpper
    simp only [JsString.isUpperLetter, Bool.and_eq_true, decide_eq_true_eq,
      UInt16.le_iff_toNat_le, UInt16.reduceToNat] at notUpper
    refine ⟨by omega, by omega, fun same => ?_⟩
    simp only [same, slash, UInt16.reduceToNat] at isPlain
    omega

theorem isNameUnit_sanitizeExtension {extension : JsString} {unit : UInt16}
    (member : unit ∈ sanitizeExtension extension) : IsNameUnit unit := by
  have fallback : ∀ other ∈ JsString.ofString ".dat", IsNameUnit other := by
    intro other inDat
    have units : JsString.ofString ".dat" = [0x2e, 0x64, 0x61, 0x74] := by decide
    rw [units] at inDat
    simp only [List.mem_cons, List.not_mem_nil, or_false] at inDat
    rcases inDat with rfl | rfl | rfl | rfl <;> exact ⟨by decide, by decide, by decide⟩
  unfold sanitizeExtension at member
  split at member
  · rename_i rest
    split at member
    · rename_i fits
      obtain ⟨original, inExtension, rfl⟩ := List.mem_map.mp member
      refine isNameUnit_lower ?_
      rcases List.mem_cons.mp inExtension with rfl | inRest
      · exact Or.inr (Or.inr rfl)
      · have plain := List.all_eq_true.mp (Bool.and_eq_true_iff.mp fits).2 original inRest
        exact (Bool.or_eq_true_iff.mp plain).imp id Or.inl
    · exact fallback unit member
  · exact fallback unit member

/-- A digit, a letter up to f or a hyphen. -/
theorem isNameUnit_uuid {uuid : JsString} (uuidIs : isUuid uuid = true) {unit : UInt16}
    (member : unit ∈ uuid) : IsNameUnit unit ∧ unit ≠ dot := by
  have isHex := List.all_eq_true.mp (Bool.and_eq_true_iff.mp uuidIs).2 unit member
  simp only [JsString.isDigit, Bool.or_eq_true, Bool.and_eq_true, decide_eq_true_eq, beq_iff_eq,
    UInt16.le_iff_toNat_le, ← UInt16.toNat_inj, UInt16.reduceToNat] at isHex
  refine ⟨⟨by omega, by omega, fun same => ?_⟩, fun same => ?_⟩
  · simp only [same, slash, UInt16.reduceToNat] at isHex
    omega
  · simp only [same, dot, UInt16.reduceToNat] at isHex
    omega

/-- What `save` names a file. -/
def generatedName (uuid extension : JsString) : JsString := uuid ++ sanitizeExtension extension

theorem pathOf_eq (storageRoot uuid extension : JsString) :
    pathOf storageRoot uuid extension = storageRoot ++ slash :: generatedName uuid extension := by
  have separator : JsString.ofString "/" = [slash] := rfl
  rw [pathOf, separator, List.append_assoc, List.append_assoc, List.singleton_append,
    generatedName]

section

variable {uuid : JsString}

theorem isNameUnit_generatedName (uuidIs : isUuid uuid = true) (extension : JsString)
    {unit : UInt16} (member : unit ∈ generatedName uuid extension) : IsNameUnit unit :=
  (List.mem_append.mp member).elim (fun inUuid => (isNameUnit_uuid uuidIs inUuid).1)
    isNameUnit_sanitizeExtension

/-- A generated name starts with a unit of the UUID. -/
theorem exists_generatedName (uuidIs : isUuid uuid = true) (extension : JsString) :
    ∃ unit rest, generatedName uuid extension = unit :: rest ∧ unit ≠ dot := by
  cases uuid with
  | nil => cases uuidIs
  | cons unit rest =>
    exact ⟨unit, _, rfl, (isNameUnit_uuid uuidIs List.mem_cons_self).2⟩

theorem isName_generatedName (uuidIs : isUuid uuid = true) (extension : JsString) :
    IsName slash dot (generatedName uuid extension) := by
  obtain ⟨unit, rest, isText, notDot⟩ := exists_generatedName uuidIs extension
  refine ⟨?_, ?_, ?_, fun member => (isNameUnit_generatedName uuidIs extension member).notSlash rfl⟩
  · rw [isText]
    exact List.cons_ne_nil _ _
  · rw [isText]
    exact fun same => notDot (List.cons.inj same).1
  · rw [isText]
    exact fun same => notDot (List.cons.inj same).1

theorem noDots_generatedName (uuidIs : isUuid uuid = true) (extension : JsString) :
    ¬ [dot, dot] <+: generatedName uuid extension := by
  obtain ⟨unit, rest, isText, notDot⟩ := exists_generatedName uuidIs extension
  rw [isText]
  exact fun startsWithDots => notDot (List.cons_prefix_cons.mp startsWithDots).1.symm

/-- Whatever the extension, the file is in the storage root. -/
theorem isDirectlyInside_pathOf {cwd : List JsString} {storageRoot : JsString}
    (notEmpty : storageRoot ≠ []) (uuidIs : isUuid uuid = true) (extension : JsString) :
    IsDirectlyInside cwd storageRoot (pathOf storageRoot uuid extension) := by
  have isName := isName_generatedName uuidIs extension
  refine ⟨_, isName, noDots_generatedName uuidIs extension, ?_⟩
  rw [pathOf_eq]
  exact locate_append notEmpty isName cwd

/-- What `delete` does to a file of an upload on the disk is what `rm` does to it in the store. -/
theorem delete_pathOf {cwd : List JsString} (names : ∀ name ∈ cwd, IsName slash dot name)
    {storageRoot : JsString} {store : Store} {disk : Disk}
    (holds : Holds cwd storageRoot store disk) (uuidIs : isUuid uuid = true)
    (extension : JsString) :
    ∃ after, delete cwd storageRoot (pathOf storageRoot uuid extension) disk = .ok after ∧
      Holds cwd storageRoot (rm (pathOf storageRoot uuid extension) store) after := by
  rw [pathOf_eq]
  refine delete_holds names holds (isName_generatedName uuidIs extension)
    (noDots_generatedName uuidIs extension) ?_ fun member => ?_
  · refine Paired.repaired_eq_self 0xfffd fun unit member => JsString.isPlain_iff.mpr (Or.inl ?_)
    have isUnit := isNameUnit_generatedName uuidIs extension member
    exact Nat.lt_of_le_of_lt isUnit.letter (by decide)
  · have isUnit := isNameUnit_generatedName uuidIs extension member
    exact absurd isUnit.hyphen (by decide)

end

end DiskFileStorage

namespace OrphanSweep

open Transition

/-! ### The files of a run -/

/-- The entries a sweep has before it. -/
def SweepPhase.entries : SweepPhase → List JsString
  | .listed | .reading _ | .failed _ => []
  | .returning _ entries | .scanning _ _ entries => entries
  | .removing _ _ entry entries => entry :: entries

/-- The names that a schedule generates for its files are UUIDs. -/
def namesUuids (schedule : List Action) : Bool :=
  schedule.all fun
    | .service (.proceed _ (.createFile uuid)) => DiskFileStorage.isUuid uuid
    | _ => true

/-- All paths that the service and its sweeps hold on to, and all that were removed. -/
structure FilesInside (inside : JsString → Prop) (state : State) : Prop where
  stored : ∀ path ∈ state.service.store.paths, inside path
  referenced : ∀ path ∈ state.service.store.referenced, inside path
  owned : ∀ callId path, Owns state.service callId path → inside path
  entries : ∀ sweepId sweep, state.sweeps sweepId = some sweep →
    ∀ entry ∈ sweep.phase.entries, inside entry
  removed : ∀ path ∈ state.removed, inside path

section

variable {config : StorageConfig} {orphanAgeMs : Int} {state next : State}
  {before after : CreateImport.State} {inside : JsString → Prop}

theorem paths_of_transaction {input : CreateImportInput} {jobId : JobId} {shape : MetaShape}
    {now : Nat} {store next : Store} {phase : CreateImport.Phase}
    (result : CreateImport.afterTransaction input jobId now shape store = (next, phase)) :
    next.paths = store.paths := by
  unfold CreateImport.afterTransaction at result
  split at result
  · rename_i created
    cases result
    exact (createTransaction_paths created).2
  · split at result <;> cases result <;> rfl

/-- Only the creation of a file makes a path that was not there. -/
theorem opened_of_step {action : CreateImport.Action} {path : JsString}
    (enabled : CreateImport.step config before action = some after)
    (stored : path ∈ after.store.paths) (isNew : path ∉ before.store.paths) :
    ∃ callId uuid extension, action = .proceed callId (.createFile uuid) ∧
      path = DiskFileStorage.pathOf config.storageRoot uuid extension := by
  cases action with
  | advance milliseconds =>
    cases enabled
    exact absurd stored isNew
  | elsewhere statement =>
    rw [CreateImport.step] at enabled
    split at enabled
    · cases enabled
    · cases enabled
      exact absurd stored isNew
  | execute callId command =>
    rw [CreateImport.step] at enabled
    split at enabled
    · cases enabled
    · cases enabled
      exact absurd stored isNew
  | proceed callId event =>
    rw [CreateImport.step] at enabled
    split at enabled
    · cases enabled
    · obtain ⟨⟨store, phase⟩, proceeds, rfl⟩ := Option.map_eq_some_iff.mp enabled
      unfold CreateImport.proceed at proceeds
      split at proceeds
      · rename_i source extension uuid _
        simp only at proceeds
        split at proceeds
        · cases proceeds
          rcases CreateImport.mem_paths_createWriteStream.mp stored with old | rfl
          · exact absurd old isNew
          · exact ⟨callId, uuid, extension, rfl, rfl⟩
        · cases proceeds
      · split at proceeds
        · cases proceeds
          rw [CreateImport.paths_fill] at stored
          exact absurd stored isNew
        · cases proceeds
          exact absurd (CreateImport.mem_paths_rm.mp stored).1 isNew
      · split at proceeds
        · have same := paths_of_transaction (Option.some.inj proceeds)
          exact absurd (same ▸ stored) isNew
        · cases proceeds
      · split at proceeds
        · cases proceeds
          exact absurd stored isNew
        · cases proceeds
          exact absurd stored isNew
      · cases proceeds
        exact absurd (CreateImport.mem_paths_rm.mp stored).1 isNew
      · cases proceeds

/-- What the service does keeps all paths inside, if the paths of its new files are. -/
theorem FilesInside.observe {swept : JsString → Prop} (files : FilesInside inside state)
    (moves : Moves swept state.service after) (observed : Observed state after next)
    (opens : ∀ path ∈ after.store.paths, path ∉ state.service.store.paths → inside path) :
    FilesInside inside next := by
  obtain ⟨rows, isReferenced, ofRows⟩ := moves.rows
  obtain ⟨opener, owners⟩ := moves.owners
  constructor
  · intro path stored
    rw [observed.service] at stored
    by_cases old : path ∈ state.service.store.paths
    · exact files.stored path old
    · exact opens path stored old
  · intro path referenced
    rw [observed.service, isReferenced] at referenced
    rcases List.mem_append.mp referenced with old | new
    · exact files.referenced path old
    · obtain ⟨callId, owns, _⟩ := ofRows path new
      exact files.owned callId path owns
  · intro callId path owns
    rw [observed.service] at owns
    rcases owners callId path owns with old | ⟨_, stored, isNew⟩
    · exact files.owned callId path old
    · exact opens path stored isNew
  · rw [observed.sweeps]
    exact files.entries
  · intro path isRemoved
    rcases (observed.removed path).mp isRemoved with earlier | ⟨stored, _⟩
    · exact files.removed path earlier
    · exact files.stored path stored

/-- A sweep goes on with entries that it had, or that are in the directory. -/
theorem mem_entries_of_sweepStep {referenced : List JsString} {phase following : SweepPhase}
    {event : SweepEvent}
    (enabled : sweepStep orphanAgeMs state referenced phase event = some following)
    {entry : JsString} (member : entry ∈ following.entries) :
    entry ∈ phase.entries ∨ entry ∈ state.service.store.paths := by
  unfold sweepStep at enabled
  split at enabled
  · cases enabled
    cases member
  · cases enabled
    exact Or.inr member
  · cases enabled
    cases member
  · cases enabled
    exact Or.inl member
  · split at enabled
    · cases enabled
      exact Or.inl member
    · cases enabled
      exact Or.inl (List.mem_cons_of_mem _ member)
  · cases enabled
    exact Or.inl (List.mem_cons_of_mem _ member)
  · cases enabled
    exact Or.inl (List.mem_cons_of_mem _ member)
  · cases enabled
    exact Or.inl (List.mem_cons_of_mem _ member)
  · cases enabled

theorem filesInside_sweepOn {sweepId : SweepId} {event : SweepEvent}
    (files : FilesInside inside state)
    (enabled : sweepOn orphanAgeMs sweepId event state = some next) : FilesInside inside next := by
  simp only [sweepOn, bind, Option.bind_eq_some_iff] at enabled
  obtain ⟨sweep, begun, following, steps, enabled⟩ := enabled
  have gone : FilesInside inside { state with
      sweeps := Function.update state.sweeps sweepId (some { sweep with phase := following }) } :=
    { files with
      entries := by
        intro other made begunOther entry member
        rcases update_cases begunOther with ⟨_, rfl⟩ | ⟨_, earlier⟩
        · rcases mem_entries_of_sweepStep steps member with old | stored
          · exact files.entries sweepId sweep begun entry old
          · exact files.stored entry stored
        · exact files.entries other made earlier entry member }
  split at enabled
  · cases enabled
    exact gone
  · rename_i entry removes
    refine gone.observe (moves_rm entry) (observed_of_observe enabled) fun path stored isNew => ?_
    exact absurd (CreateImport.mem_paths_rm.mp stored).1 isNew

theorem filesInside_step {action : Action} (files : FilesInside inside state)
    (uuids : ∀ callId uuid extension, action = .service (.proceed callId (.createFile uuid)) →
      inside (DiskFileStorage.pathOf config.storageRoot uuid extension))
    (enabled : step config orphanAgeMs state action = some next) : FilesInside inside next := by
  cases action with
  | service action =>
    obtain ⟨after, serves, observes⟩ := Option.bind_eq_some_iff.mp enabled
    have moves : Moves (fun _ => False) state.service after := moves_of_step serves
    refine files.observe moves (observed_of_observe observes) fun path stored isNew => ?_
    obtain ⟨callId, uuid, extension, rfl, rfl⟩ := opened_of_step serves stored isNew
    exact uuids callId uuid extension rfl
  | write callId =>
    rw [step, write] at enabled
    split at enabled
    · cases enabled
      exact { files with }
    · cases enabled
  | list sweepId =>
    rw [step, list] at enabled
    split at enabled
    · cases enabled
    · cases enabled
      refine { files with entries := fun other made begun entry member => ?_ }
      rcases update_cases begun with ⟨_, rfl⟩ | ⟨_, earlier⟩
      · cases member
      · exact files.entries other made earlier entry member
  | sweep sweepId event => exact filesInside_sweepOn files enabled

end

/-- In every run of uploads and sweeps, every file that exists, that a row refers to, that a call
or a sweep is about to remove, or that was removed is directly in the storage root, whatever names
the clients gave, and the check passes for it. -/
theorem files_stay_inside (config : StorageConfig) (orphanAgeMs : Int) (now : Nat) (store : Store)
    (modified : JsString → Nat) {cwd : List JsString}
    (names : ∀ name ∈ cwd, PathSegments.IsName DiskFileStorage.slash DiskFileStorage.dot name)
    (notEmpty : config.storageRoot ≠ [])
    (stored : ∀ path ∈ store.paths,
      DiskFileStorage.IsDirectlyInside cwd config.storageRoot path)
    (referenced : ∀ path ∈ store.referenced,
      DiskFileStorage.IsDirectlyInside cwd config.storageRoot path)
    {schedule : List Action} (uuids : namesUuids schedule = true) {state : State}
    (reaches : run (step config orphanAgeMs) (initial now store modified) schedule = some state) :
    FilesInside (fun path => DiskFileStorage.IsDirectlyInside cwd config.storageRoot path ∧
      DiskFileStorage.assertWithinStorageRoot cwd config.storageRoot path = .ok () ∧
      DiskFileStorage.assertWithinStorageRoot cwd config.storageRoot
        (DiskFileStorage.resolve cwd path) = .ok ()) state := by
  have passes : ∀ path, DiskFileStorage.IsDirectlyInside cwd config.storageRoot path →
      DiskFileStorage.IsDirectlyInside cwd config.storageRoot path ∧
        DiskFileStorage.assertWithinStorageRoot cwd config.storageRoot path = .ok () ∧
        DiskFileStorage.assertWithinStorageRoot cwd config.storageRoot
          (DiskFileStorage.resolve cwd path) = .ok () := by
    intro path inside
    refine ⟨inside, ?_, ?_⟩
    · exact (DiskFileStorage.assertWithinStorageRoot_ok_iff names).mpr inside.isWithin
    · rw [DiskFileStorage.assertWithinStorageRoot_ok_iff names,
        DiskFileStorage.isWithin_resolve_iff names]
      exact inside.isWithin
  have files := run_invariant reaches
    (fun taken state => namesUuids taken = true →
      FilesInside (DiskFileStorage.IsDirectlyInside cwd config.storageRoot) state)
    (fun _ =>
      { stored, referenced
        owned := fun _ _ ⟨_, made, _⟩ => nomatch made
        entries := fun _ _ begun => nomatch begun
        removed := fun _ member => nomatch member })
    (fun taken current action after holds enabled uuids => ?_) uuids
  · exact
      { stored := fun path member => passes path (files.stored path member)
        referenced := fun path member => passes path (files.referenced path member)
        owned := fun callId path owns => passes path (files.owned callId path owns)
        entries := fun sweepId sweep begun entry member =>
          passes entry (files.entries sweepId sweep begun entry member)
        removed := fun path member => passes path (files.removed path member) }
  · rw [namesUuids, List.all_append, Bool.and_eq_true] at uuids
    refine filesInside_step (holds uuids.1) ?_ enabled
    rintro callId uuid extension rfl
    have isUuid := List.all_eq_true.mp uuids.2 _ (List.mem_singleton_self _)
    exact DiskFileStorage.isDirectlyInside_pathOf notEmpty isUuid extension

/-- The client names a file outside of the root. -/
def pathsCommand : CreateImport.CreateImportCommand :=
  { lateCommand with originalFilename := some (JsString.ofString "../../../etc/x.JSON") }

/-- The client gives a name that leads out of the root. The file is created in the root all the
same, and a sweep removes an old file beside it. -/
def pathsSchedule : List Action :=
  [.service (.execute 0 pathsCommand),
    .service (.proceed 0
      (.createFile (JsString.ofString "0b2c4d6e-0000-4000-8000-00000000000a"))),
    .service (.proceed 0 .streamEnded), .service (.proceed 0 (.transaction 1 1 1 .target)),
    .list 0, .sweep 0 .start, .sweep 0 .readdir, .sweep 0 .resume, .sweep 0 .stat, .sweep 0 .rm,
    .sweep 0 .stat]

theorem files_stay_inside_escape :
    ∃ state, run (step lateConfig 12) lateStart pathsSchedule = some state ∧
      state.removed = [JsString.ofString "/u/old.json"] ∧
      state.service.store.referenced =
        [JsString.ofString "/u/0b2c4d6e-0000-4000-8000-00000000000a.json"] ∧
      FilesInside (fun path => DiskFileStorage.IsDirectlyInside [] lateConfig.storageRoot path ∧
        DiskFileStorage.assertWithinStorageRoot [] lateConfig.storageRoot path = .ok () ∧
        DiskFileStorage.assertWithinStorageRoot [] lateConfig.storageRoot
          (DiskFileStorage.resolve [] path) = .ok ()) state := by
  obtain ⟨state, reaches⟩ : ∃ state,
      run (step lateConfig 12) lateStart pathsSchedule = some state :=
    Option.isSome_iff_exists.mp (by decide +kernel)
  refine ⟨state, reaches, view_of_run reaches State.removed (by decide +kernel),
    view_of_run reaches (fun state => state.service.store.referenced) (by decide +kernel), ?_⟩
  have names : ∀ name ∈ [], PathSegments.IsName DiskFileStorage.slash DiskFileStorage.dot name :=
    List.forall_mem_nil _
  refine files_stay_inside lateConfig 12 20 _ (fun _ => 0) names (by decide) ?_
    (List.forall_mem_nil _) (by decide +kernel) reaches
  intro path stored
  cases List.mem_singleton.mp stored
  exact ⟨JsString.ofString "old.json", ⟨by decide, by decide, by decide, by decide⟩, by decide,
    by decide⟩

end OrphanSweep

end ImportService
