/-
This file is about the ceiling on the size of an upload, from the configured text to the last
chunk. The parser of the multipart body is not part of the service and is a parameter here.

The variable is documented as a number of bytes, but both places that read it multiply it as a
number of mebibytes. So the ceiling is enforced for no value but zero (`ceilingEnforced_iff`):
for any other an upload of one byte too much passes both of them.
-/

import Mathlib.Data.List.TakeWhile
import Mathlib.Tactic.Linarith
import ImportService.Digits
import ImportService.Idempotency
import ImportService.Saving

namespace ImportService

open Transition

/-! ### The number of a text of digits -/

namespace JsString

theorem isSpace_of_isDigit {unit : UInt16} (digit : isDigit unit = true) :
    isSpace unit = false := by
  have bounds := isDigit_iff.mp digit
  refine Bool.eq_false_iff.mpr fun space => ?_
  simp only [isSpace, Bool.or_eq_true, Bool.and_eq_true, decide_eq_true_eq, beq_iff_eq,
    UInt16.le_iff_toNat_le, ← UInt16.toNat_inj, UInt16.reduceToNat] at space
  omega

theorem digitValue_of_isDigit {unit : UInt16} (digit : isDigit unit = true) :
    JsNumber.digitValue unit = some (unit.toNat - 0x30) ∧ unit.toNat - 0x30 < 10 := by
  have bounds := isDigit_iff.mp digit
  exact ⟨if_pos digit, by omega⟩

theorem inBase_ten {digits : JsString} (notEmpty : digits ≠ [])
    (areDigits : ∀ unit ∈ digits, isDigit unit = true) :
    JsNumber.inBase 10 digits = some (JsNumber.digitsValue digits) := by
  rw [JsNumber.inBase, if_neg (by rwa [List.isEmpty_iff]), JsNumber.digitsValue]
  generalize 0 = start
  clear notEmpty
  induction digits generalizing start with
  | nil => rfl
  | cons digit rest inductionHypothesis =>
    obtain ⟨isValue, small⟩ := digitValue_of_isDigit (areDigits digit List.mem_cons_self)
    rw [List.foldl_cons, List.foldl_cons, Option.bind_eq_bind, Option.bind_some, isValue,
      Option.bind_some, if_pos small]
    exact inductionHypothesis
      (fun other member => areDigits other (List.mem_cons_of_mem _ member)) _

section

variable {digits : JsString} (areDigits : ∀ unit ∈ digits, isDigit unit = true)

include areDigits

theorem dropWhile_digits : digits.dropWhile isSpace = digits := by
  cases digits with
  | nil => rfl
  | cons head rest =>
    refine List.dropWhile_cons_of_neg ?_
    rw [isSpace_of_isDigit (areDigits head List.mem_cons_self)]
    exact Bool.false_ne_true

theorem scanSign_digits : JsNumber.scanSign digits = (false, digits) := by
  unfold JsNumber.scanSign
  split
  · exact absurd (areDigits 0x2d List.mem_cons_self) (by decide)
  · exact absurd (areDigits 0x2b List.mem_cons_self) (by decide)
  · rfl

theorem scanRadix_digits : JsNumber.scanRadix digits = (10, digits) := by
  unfold JsNumber.scanRadix
  split
  · rename_i mark rest
    have digit := areDigits mark (List.mem_cons_of_mem _ List.mem_cons_self)
    refine if_neg fun isMark => ?_
    rw [Bool.or_eq_true, decide_eq_true_eq, decide_eq_true_eq] at isMark
    rcases isMark with rfl | rfl
    all_goals exact absurd digit (by decide)
  · rfl

/-- The digits of a number are read as the number. -/
theorem parseInt_digits (notEmpty : digits ≠ []) :
    JsNumber.parseInt digits = JsNumber.ofRat (JsNumber.digitsValue digits) := by
  have allLead : digits.takeWhile
      (fun unit => (JsNumber.digitValue unit).any fun digit => digit < 10) = digits := by
    refine List.takeWhile_eq_self_iff.mpr fun unit member => ?_
    obtain ⟨isValue, small⟩ := digitValue_of_isDigit (areDigits unit member)
    rw [isValue]
    exact decide_eq_true small
  simp only [JsNumber.parseInt, dropWhile_digits areDigits, scanSign_digits areDigits,
    scanRadix_digits areDigits, allLead, inBase_ten notEmpty areDigits, Option.elim_some,
    Bool.false_eq_true, if_false]

end

theorem ofNat_ne_nil (number : Nat) : ofNat number ≠ [] := by
  have positive : 0 < (ofNat number).length := by
    rw [ofNat_eq, length_flatMap_encode _ fun _ member => isDigit_of_mem_toDigits member]
    exact Nat.length_toDigits_pos
  exact List.ne_nil_of_length_pos positive

theorem parseInt_ofNat (number : Nat) :
    JsNumber.parseInt (ofNat number) = JsNumber.ofRat number := by
  rw [parseInt_digits (fun _ => isDigit_of_mem_ofNat) (ofNat_ne_nil number), digitsValue_ofNat]

end JsString

namespace UploadCeiling

/-! ### The limit -/

/-- `parseInt(setting || '500') * 1024 * 1024` -/
def mebibytes (setting : Option JsString) : JsNumber :=
  let text := match setting with
    | none | some [] => JsString.ofString "500"
    | some text => text
  ((JsNumber.parseInt text).mul (.finite 1024)).mul (.finite 1024)

/-- `MAX_UPLOAD_BYTES`, the limit that `execute` hands to `save`. -/
def MAX_UPLOAD_BYTES (setting : Option JsString) : JsNumber := mebibytes setting

/-- `limits.fileSize`, with which `main.ts` registers the parser of multipart bodies. -/
def fileSize (setting : Option JsString) : JsNumber := mebibytes setting

/-- The text of the variable for a number of bytes. -/
def configured (bytes : Nat) : Option JsString := some (JsString.ofNat bytes)

theorem mebibytes_configured (bytes : Nat) :
    mebibytes (configured bytes) =
      ((JsNumber.ofRat bytes).mul (.finite 1024)).mul (.finite 1024) := by
  obtain ⟨head, rest, isText⟩ := List.exists_cons_of_ne_nil (JsString.ofNat_ne_nil bytes)
  rw [← JsString.parseInt_ofNat, configured, isText]
  rfl

theorem mebibytes_zero : mebibytes (configured 0) = .finite 0 := by
  have zero : JsNumber.ofRat 0 = .finite 0 := by
    obtain ⟨result, isFinite, nonneg, atMost, _⟩ :=
      JsNumber.ofRat_of_lt (le_refl 0) (zero_lt_one.trans JsNumber.one_lt_overflowBound)
    rw [isFinite, le_antisymm atMost nonneg]
  rw [mebibytes_configured, Nat.cast_zero, zero, JsNumber.mul_finite, zero_mul, zero,
    JsNumber.mul_finite, zero_mul, zero]

theorem kibi_or_infinite {number : JsNumber} {value : Rat} (atLeastOne : 1 ≤ value)
    (isNumber : number = .finite value ∨ number = .infinite false) :
    number.mul (.finite 1024) = .finite (value * 1024) ∨
      number.mul (.finite 1024) = .infinite false := by
  rcases isNumber with rfl | rfl
  · exact JsNumber.ofRat_or_infinite (one_le_mul_of_one_le_of_one_le atLeastOne (by norm_num))
  · exact Or.inr rfl

/-- Any other limit is above the number of bytes. -/
theorem mebibytes_pos {bytes : Nat} (positive : 0 < bytes) :
    (mebibytes (configured bytes)).less (.finite (bytes + 1 : Nat)) = false := by
  have atLeastOne : (1 : Rat) ≤ bytes := Nat.one_le_cast.mpr positive
  have kibi := kibi_or_infinite atLeastOne (JsNumber.ofRat_or_infinite atLeastOne)
  have atLeastKibi : (1 : Rat) ≤ bytes * 1024 :=
    one_le_mul_of_one_le_of_one_le atLeastOne (by norm_num)
  rw [mebibytes_configured]
  rcases kibi_or_infinite atLeastKibi kibi with isFinite | isInfinite
  · rw [isFinite]
    refine decide_eq_false (not_lt.mpr ?_)
    push_cast
    linarith
  · rw [isInfinite]
    rfl

/-! ### execute, chunk by chunk -/

/-- An upload of an allowed type. -/
structure Upload where
  idempotencyKey : JsString
  originalFilename : Option JsString
  mimeType : JsString
  source : Saving.Source
  allowed : CreateImport.assertAllowedFileType
    (CreateImport.extractExtension originalFilename) mimeType = .ok ()

/-- The command of the use case. -/
def Upload.command (upload : Upload) : CreateImport.CreateImportCommand where
  idempotencyKey := upload.idempotencyKey
  fileStream := some { bytes := upload.source.bytes, truncated := upload.source.truncated }
  originalFilename := upload.originalFilename
  mimeType := upload.mimeType

/-- Where a call of `execute` is: before `save`, in it, behind it, or with its error. -/
inductive Stage
  | starting (extension : JsString)
  | saving (call : Saving.SaveCall) (state : Saving.State)
  | afterwards (phase : CreateImport.Phase)
  | threw (err : Saving.SaveError)

/-- The store and where the upload is. -/
structure Execution where
  store : Store
  stage : Stage

/-- A step of the upload. -/
inductive Event
  | generateName (uuid : JsString)
  | save (event : Saving.Event)
  | proceed (now : Nat) (event : CreateImport.Event)

/-- The disk or the stream fails. -/
def Event.isFailure : Event → Bool
  | .save event => event.isFailure
  | .generateName _ | .proceed _ _ => false

/-- The code up to `save`. -/
def begin (upload : Upload) (store : Store) : Execution where
  store := store
  stage := match CreateImport.begin upload.command with
    | .starting _ extension => .starting extension
    | phase => .afterwards phase

/-- The code after an event of `save`. -/
def afterSave (call : Saving.SaveCall) (state : Saving.State) : Execution where
  store := state.store
  stage := match state.phase with
    | .returned savedFile => .afterwards (.creating savedFile.storagePath)
    | .threw err => .threw err
    | .makingDirectory | .streaming | .failing _ | .removing _ => .saving call state

/-- `config` is without a limit, as `proceed` reads it in `save` only. -/
def step (sha256 : List UInt8 → JsString) (storageRoot : JsString) (limit : JsNumber)
    (upload : Upload) (execution : Execution) (event : Event) : Option Execution :=
  match execution.stage, event with
  | .starting extension, .generateName uuid =>
      let call : Saving.SaveCall :=
        { source := upload.source, extension, maxBytes := limit, storageRoot, uuid }
      if CreateImport.isFreshPath call.storagePath execution.store then
        some (afterSave call (Saving.initial upload.source execution.store))
      else none
  | .saving call state, .save event => (Saving.step sha256 call state event).map (afterSave call)
  | .afterwards phase, .proceed now event =>
      let config : StorageConfig := { storageRoot, maxUploadBytes := 0 }
      (CreateImport.proceed config now upload.command execution.store phase event).map
        fun result => { store := result.1, stage := .afterwards result.2 }
  | _, _ => none

section

variable {sha256 : List UInt8 → JsString} {storageRoot : JsString} {limit : JsNumber}
  {upload : Upload} {start : Store} {events : List Event} {execution next : Execution}
  {event : Event} {call : Saving.SaveCall} {state last : Saving.State}

theorem begin_eq (upload : Upload) (store : Store) :
    begin upload store =
      ⟨store, .starting (CreateImport.extractExtension upload.originalFilename)⟩ := by
  have started : CreateImport.begin upload.command =
      .starting ⟨upload.source.bytes, upload.source.truncated⟩
        (CreateImport.extractExtension upload.originalFilename) := by
    simp only [CreateImport.begin, Upload.command, upload.allowed]
  rw [begin, started]

theorem afterSave_returned {savedFile : Saving.SavedFile}
    (isReturned : state.phase = .returned savedFile) :
    afterSave call state = ⟨state.store, .afterwards (.creating savedFile.storagePath)⟩ := by
  rw [afterSave, isReturned]

theorem afterSave_threw {err : Saving.SaveError} (isThrown : state.phase = .threw err) :
    afterSave call state = ⟨state.store, .threw err⟩ := by
  rw [afterSave, isThrown]

theorem afterSave_of_unsettled (unsettled : ¬ state.Settled) :
    afterSave call state = ⟨state.store, .saving call state⟩ := by
  rw [afterSave]
  split
  · rename_i savedFile isReturned
    exact absurd (Or.inl ⟨savedFile, isReturned⟩) unsettled
  · rename_i err isThrown
    exact absurd (Or.inr ⟨err, isThrown⟩) unsettled
  all_goals rfl

/-! ### What execute has reached -/

/-- The source fits the limit of the use case. -/
def Fits (limit : JsNumber) (upload : Upload) : Prop :=
  upload.source.truncated = false ∧ limit.less (.finite upload.source.bytes.length) = false

/-- No run up to the end of `save` is longer. -/
def Upload.work (upload : Upload) : Nat :=
  upload.source.chunks.length + upload.source.bytes.length + 8

/-- The state of the call of `save`, which has had its part of the events. -/
structure Underway (sha256 : List UInt8 → JsString) (limit : JsNumber) (upload : Upload)
    (start : Store) (events : List Event) (call : Saving.SaveCall) (state : Saving.State) :
    Prop where
  source : call.source = upload.source
  maxBytes : call.maxBytes = limit
  fresh : call.storagePath ∉ start.paths
  saves : ∃ saves, Saving.Holds sha256 call start saves state ∧ ∀ save ∈ saves, .save save ∈ events
  work : events.length + Saving.remaining state ≤ upload.work

/-- What has happened in each stage. -/
def StageHolds (sha256 : List UInt8 → JsString) (limit : JsNumber) (upload : Upload)
    (start : Store) (events : List Event) (store : Store) : Stage → Prop
  | .starting _ => events = [] ∧ store = start
  | .saving call state =>
      store = state.store ∧ ¬ state.Settled ∧
        Underway sha256 limit upload start events call state
  | .afterwards _ => Fits limit upload
  | .threw err =>
      store = start ∧ events.length ≤ upload.work ∧
        (∀ limitBytes, err = .fileTooLarge limitBytes → ¬ Fits limit upload) ∧
        ((∀ event ∈ events, event.isFailure = false) → err = .fileTooLarge limit)

theorem not_fits_of_tooLarge (source : call.source = upload.source)
    (isLimit : call.maxBytes = limit)
    (tooLarge : call.source.truncated = true ∨ call.exceeds = true) : ¬ Fits limit upload := by
  rintro ⟨complete, fits⟩
  rw [Saving.SaveCall.exceeds, isLimit, source] at tooLarge
  rcases tooLarge with truncated | exceeds
  · cases complete.symm.trans truncated
  · cases fits.symm.trans exceeds

theorem stageHolds_afterSave (underway : Underway sha256 limit upload start events call state) :
    StageHolds sha256 limit upload start events (afterSave call state).store
      (afterSave call state).stage := by
  obtain ⟨saves, holds, included⟩ := underway.saves
  have phase := holds.phase
  by_cases settled : state.Settled
  · rcases settled with ⟨savedFile, isReturned⟩ | ⟨err, isThrown⟩
    · rw [isReturned] at phase
      obtain ⟨⟨_, complete, fits⟩, _, _⟩ := phase
      rw [Saving.SaveCall.exceeds, underway.maxBytes, underway.source] at fits
      rw [afterSave_returned isReturned]
      exact ⟨underway.source ▸ complete, fits⟩
    · rw [isThrown] at phase
      obtain ⟨cause, untouched⟩ := phase
      rw [afterSave_threw isThrown]
      refine ⟨untouched, (Nat.le_add_right _ _).trans underway.work, ?_, fun unfailed => ?_⟩
      · rintro limitBytes rfl
        exact not_fits_of_tooLarge underway.source underway.maxBytes cause.2
      · rw [← underway.maxBytes]
        exact (cause.tooLarge fun save member => unfailed _ (included save member)).1
  · rw [afterSave_of_unsettled settled]
    exact ⟨rfl, settled, underway⟩

/-- The call of `save` when it begins. -/
theorem underway_initial (notNegative : limit.less (.finite 0) = false)
    (source : call.source = upload.source) (isLimit : call.maxBytes = limit)
    (fresh : call.storagePath ∉ start.paths) (event : Event) :
    Underway sha256 limit upload start [event] call (Saving.initial upload.source start) where
  source := source
  maxBytes := isLimit
  fresh := fresh
  saves := by
    rw [← source]
    exact ⟨[], Saving.holds_run (isLimit ▸ notNegative) fresh rfl, nofun⟩
  work := by
    rw [Upload.work, Saving.remaining_initial, List.length_singleton]
    omega

theorem Underway.save (underway : Underway sha256 limit upload start events call state)
    {save : Saving.Event} {after : Saving.State}
    (enabled : Saving.step sha256 call state save = some after) :
    Underway sha256 limit upload start (events ++ [.save save]) call after where
  source := underway.source
  maxBytes := underway.maxBytes
  fresh := underway.fresh
  saves := by
    obtain ⟨saves, holds, included⟩ := underway.saves
    refine ⟨saves ++ [save], Saving.holds_step underway.fresh holds enabled, ?_⟩
    intro other member
    rcases List.mem_append.mp member with earlier | isLast
    · exact List.mem_append_left _ (included other earlier)
    · rw [List.mem_singleton.mp isLast]
      exact List.mem_concat_self
  work := by
    have less := Saving.remaining_lt enabled
    have work := underway.work
    rw [List.length_append, List.length_singleton]
    omega

theorem stageHolds_step (notNegative : limit.less (.finite 0) = false)
    (holds : StageHolds sha256 limit upload start events execution.store execution.stage)
    (enabled : step sha256 storageRoot limit upload execution event = some next) :
    StageHolds sha256 limit upload start (events ++ [event]) next.store next.stage := by
  unfold step at enabled
  split at enabled
  · rename_i extension uuid isStage
    rw [isStage] at holds
    obtain ⟨rfl, isStart⟩ := holds
    simp only at enabled
    split at enabled
    · rename_i fresh
      cases enabled
      rw [isStart] at fresh ⊢
      refine stageHolds_afterSave (underway_initial notNegative rfl rfl ?_ _)
      exact (CreateImport.isFreshPath_iff.mp fresh).1
    · cases enabled
  · rename_i call state save isStage
    rw [isStage] at holds
    obtain ⟨after, saved, rfl⟩ := Option.map_eq_some_iff.mp enabled
    exact stageHolds_afterSave (holds.2.2.save saved)
  · rename_i phase now event isStage
    rw [isStage] at holds
    obtain ⟨result, _, rfl⟩ := Option.map_eq_some_iff.mp enabled
    exact holds
  · cases enabled

theorem stageHolds_run (notNegative : limit.less (.finite 0) = false)
    (reaches : run (step sha256 storageRoot limit upload) (begin upload start) events =
      some execution) :
    StageHolds sha256 limit upload start events execution.store execution.stage := by
  refine run_invariant reaches
    (fun events execution =>
      StageHolds sha256 limit upload start events execution.store execution.stage) ?_
    fun earlier current label next holds enabled => stageHolds_step notNegative holds enabled
  rw [begin_eq]
  exact ⟨rfl, rfl⟩

/-- The run of a call of `save` is a run of `execute`. -/
theorem run_saves {later : List Saving.Event}
    (reaches : run (Saving.step sha256 call) state later = some last) :
    run (step sha256 storageRoot limit upload) (afterSave call state) (later.map .save) =
      some (afterSave call last) := by
  induction later generalizing state with
  | nil =>
    cases reaches
    rfl
  | cons save rest inductionHypothesis =>
    rw [run] at reaches
    obtain ⟨next, enabled, goesOn⟩ := Option.bind_eq_some_iff.mp reaches
    have saved : step sha256 storageRoot limit upload (afterSave call state) (.save save) =
        some (afterSave call next) := by
      rw [afterSave_of_unsettled (Saving.not_settled_of_step enabled)]
      simp only [step, enabled, Option.map_some]
    rw [List.map_cons, run, saved]
    exact inductionHypothesis goesOn

/-- From within `save` a call comes to its end without a failure. -/
theorem Underway.exists_settled (storageRoot : JsString)
    (underway : Underway sha256 limit upload start events call state) :
    ∃ later last, run (step sha256 storageRoot limit upload) (afterSave call state) later =
        some (afterSave call last) ∧
      (∀ event ∈ later, event.isFailure = false) ∧ last.Settled := by
  obtain ⟨saves, holds, _⟩ := underway.saves
  obtain ⟨later, last, reaches, unfailed, settled⟩ :=
    Saving.exists_settled underway.fresh holds
  refine ⟨later.map .save, last, run_saves reaches, ?_, settled⟩
  exact List.forall_mem_map.mpr unfailed

/-! ### Refused or not -/

/-- A call is refused for the size of its upload: no run gets behind `save`, and every run without
failures can come to its end, with the error and the store as it was. -/
structure Refused (sha256 : List UInt8 → JsString) (storageRoot : JsString) (limit : JsNumber)
    (upload : Upload) (start : Store) : Prop where
  notSaved : ∀ events execution phase,
    run (step sha256 storageRoot limit upload) (begin upload start) events = some execution →
      execution.stage ≠ .afterwards phase
  throws : ∀ events execution err,
    run (step sha256 storageRoot limit upload) (begin upload start) events = some execution →
      execution.stage = .threw err →
        execution.store = start ∧
          ((∀ event ∈ events, event.isFailure = false) → err = .fileTooLarge limit)
  ends : ∀ events execution call state,
    run (step sha256 storageRoot limit upload) (begin upload start) events = some execution →
      execution.stage = .saving call state →
        events.length ≤ upload.work ∧ ∃ later last err,
          run (step sha256 storageRoot limit upload) execution later = some last ∧
            last.stage = .threw err

/-- No run is refused for the size of its upload. -/
def Passed (sha256 : List UInt8 → JsString) (storageRoot : JsString) (limit : JsNumber)
    (upload : Upload) (start : Store) : Prop :=
  ∀ events execution limitBytes,
    run (step sha256 storageRoot limit upload) (begin upload start) events = some execution →
      execution.stage ≠ .threw (.fileTooLarge limitBytes)

theorem passed_of_fits (notNegative : limit.less (.finite 0) = false) (fits : Fits limit upload) :
    Passed sha256 storageRoot limit upload start := by
  intro events execution limitBytes reaches isThrown
  have holds := stageHolds_run notNegative reaches
  rw [isThrown] at holds
  exact holds.2.2.1 limitBytes rfl fits

theorem refused_of_not_fits (notNegative : limit.less (.finite 0) = false)
    (notFits : ¬ Fits limit upload) : Refused sha256 storageRoot limit upload start where
  notSaved := by
    intro events execution phase reaches isSaved
    have holds := stageHolds_run notNegative reaches
    rw [isSaved] at holds
    exact notFits holds
  throws := by
    intro events execution err reaches isThrown
    have holds := stageHolds_run notNegative reaches
    rw [isThrown] at holds
    exact ⟨holds.1, holds.2.2.2⟩
  ends := by
    intro events execution call state reaches isSaving
    have holds := stageHolds_run notNegative reaches
    rw [isSaving] at holds
    obtain ⟨isStore, unsettled, underway⟩ := holds
    refine ⟨(Nat.le_add_right _ _).trans underway.work, ?_⟩
    have isExecution : execution = afterSave call state := by
      rw [afterSave_of_unsettled unsettled, ← isStore, ← isSaving]
    obtain ⟨later, last, goesOn, _, settled⟩ := underway.exists_settled storageRoot
    rw [← isExecution] at goesOn
    rcases settled with ⟨savedFile, isReturned⟩ | ⟨err, isThrown⟩
    · have saved := stageHolds_run notNegative ((run_append reaches later).trans goesOn)
      rw [afterSave_returned isReturned] at saved
      exact absurd saved notFits
    · exact ⟨later, _, err, goesOn, by rw [afterSave_threw isThrown]⟩

/-- An upload that fits gets behind `save`. -/
theorem exists_saved (notNegative : limit.less (.finite 0) = false) (fits : Fits limit upload)
    {uuid : JsString}
    (fresh : CreateImport.isFreshPath (DiskFileStorage.pathOf storageRoot uuid
      (CreateImport.extractExtension upload.originalFilename)) start = true) :
    ∃ events execution phase,
      run (step sha256 storageRoot limit upload) (begin upload start) events = some execution ∧
        execution.stage = .afterwards phase := by
  let call : Saving.SaveCall :=
    { source := upload.source
      extension := CreateImport.extractExtension upload.originalFilename
      maxBytes := limit, storageRoot, uuid }
  have named : step sha256 storageRoot limit upload (begin upload start) (.generateName uuid) =
      some (afterSave call (Saving.initial upload.source start)) := by
    rw [begin_eq]
    exact if_pos fresh
  have underway : Underway sha256 limit upload start [.generateName uuid] call
      (Saving.initial upload.source start) :=
    underway_initial notNegative rfl rfl (CreateImport.isFreshPath_iff.mp fresh).1 _
  obtain ⟨later, last, goesOn, unfailed, settled⟩ := underway.exists_settled storageRoot
  have reaches : run (step sha256 storageRoot limit upload) (begin upload start)
      (.generateName uuid :: later) = some (afterSave call last) := by
    rw [run, named]
    exact goesOn
  rcases settled with ⟨savedFile, isReturned⟩ | ⟨err, isThrown⟩
  · exact ⟨_, _, _, reaches, by rw [afterSave_returned isReturned]⟩
  · have thrown := stageHolds_run notNegative reaches
    rw [afterSave_threw isThrown] at thrown
    obtain ⟨_, _, onlyTooLarge, unlessFailed⟩ := thrown
    refine absurd fits (onlyTooLarge limit (unlessFailed ?_))
    exact List.forall_mem_cons.mpr ⟨rfl, unfailed⟩

end

/-! ### The ceiling -/

/-- What the parser of multipart bodies documents of `limits.fileSize`: given the limit and the
chunks of a file, it hands on a file that is not longer as it is, and marks a longer one. A limit
of zero is taken here like any other, and that zero bytes are enforced rests on that
(`ceilingEnforced_zero`); what is said of positive ceilings does not use `cut`. -/
structure DocumentedLimit (multipart : JsNumber → List (List UInt8) → Saving.Source) : Prop where
  whole : ∀ limit chunks, limit.less (.finite chunks.flatten.length) = false →
    (multipart limit chunks).truncated = false ∧ (multipart limit chunks).bytes = chunks.flatten
  cut : ∀ limit chunks, limit.less (.finite 0) = false →
    limit.less (.finite chunks.flatten.length) = true → (multipart limit chunks).truncated = true

section

variable (multipart : JsNumber → List (List UInt8) → Saving.Source)
  (sha256 : List UInt8 → JsString) (storageRoot : JsString) (bytes : Nat)

/-- The parser lets just the files through that are not longer than the number of bytes. -/
def MultipartEnforces : Prop :=
  ∀ chunks, (bytes < chunks.flatten.length →
      (multipart (fileSize (configured bytes)) chunks).truncated = true) ∧
    (chunks.flatten.length ≤ bytes →
      (multipart (fileSize (configured bytes)) chunks).truncated = false ∧
        (multipart (fileSize (configured bytes)) chunks).bytes = chunks.flatten)

/-- So does `execute` with an upload that comes in whole. -/
def UseCaseEnforces : Prop :=
  ∀ upload start, upload.source.truncated = false →
    (bytes < upload.source.bytes.length →
      Refused sha256 storageRoot (MAX_UPLOAD_BYTES (configured bytes)) upload start) ∧
    (upload.source.bytes.length ≤ bytes →
      Passed sha256 storageRoot (MAX_UPLOAD_BYTES (configured bytes)) upload start)

/-- Each of the two enforces the ceiling, and so does `execute` with what the parser hands on. -/
structure CeilingEnforced : Prop where
  byMultipart : MultipartEnforces multipart bytes
  byUseCase : UseCaseEnforces sha256 storageRoot bytes
  byBoth : ∀ upload start chunks,
    upload.source = multipart (fileSize (configured bytes)) chunks →
      (bytes < chunks.flatten.length →
        Refused sha256 storageRoot (MAX_UPLOAD_BYTES (configured bytes)) upload start) ∧
      (chunks.flatten.length ≤ bytes →
        Passed sha256 storageRoot (MAX_UPLOAD_BYTES (configured bytes)) upload start)

end

section

variable {multipart : JsNumber → List (List UInt8) → Saving.Source}
  {sha256 : List UInt8 → JsString} {storageRoot : JsString} {bytes : Nat}

/-- An upload of one byte more. -/
def oneByteMore (bytes : Nat) : Upload where
  idempotencyKey := JsString.ofString "k"
  originalFilename := some (JsString.ofString "a.ndjson")
  mimeType := JsString.ofString "application/json"
  source := { chunks := [List.replicate (bytes + 1) 0], truncated := false }
  allowed := by decide

theorem length_oneByteMore (bytes : Nat) :
    (oneByteMore bytes).source.bytes.length = bytes + 1 := by
  rw [oneByteMore, Saving.Source.bytes, List.flatten_singleton, List.length_replicate]

theorem not_multipartEnforces (documented : DocumentedLimit multipart) (positive : 0 < bytes) :
    ¬ MultipartEnforces multipart bytes := by
  intro enforces
  have isLong := length_oneByteMore bytes
  have cut := (enforces (oneByteMore bytes).source.chunks).1 (isLong ▸ Nat.lt_succ_self bytes)
  have whole := documented.whole (fileSize (configured bytes)) (oneByteMore bytes).source.chunks
    (isLong ▸ mebibytes_pos positive)
  cases cut.symm.trans whole.1

theorem not_useCaseEnforces (positive : 0 < bytes) :
    ¬ UseCaseEnforces sha256 storageRoot bytes := by
  intro enforces
  have isLong := length_oneByteMore bytes
  have above := mebibytes_pos positive
  have fits : Fits (MAX_UPLOAD_BYTES (configured bytes)) (oneByteMore bytes) :=
    ⟨rfl, isLong ▸ above⟩
  have notNegative : (MAX_UPLOAD_BYTES (configured bytes)).less (.finite 0) = false := by
    refine Bool.eq_false_iff.mpr fun isNegative => ?_
    cases above.symm.trans (JsNumber.less_of_le isNegative (Nat.cast_nonneg _))
  have refused := (enforces (oneByteMore bytes) Saving.noFiles rfl).1
    (isLong ▸ Nat.lt_succ_self bytes)
  have fresh : CreateImport.isFreshPath (DiskFileStorage.pathOf storageRoot []
      (CreateImport.extractExtension (oneByteMore bytes).originalFilename)) Saving.noFiles = true :=
    rfl
  obtain ⟨events, execution, phase, reaches, isSaved⟩ := exists_saved notNegative fits fresh
  exact refused.notSaved events execution phase reaches isSaved

theorem ceilingEnforced_zero (documented : DocumentedLimit multipart) :
    CeilingEnforced multipart sha256 storageRoot 0 := by
  have isMultipartLimit : fileSize (configured 0) = .finite 0 := mebibytes_zero
  have isUseCaseLimit : MAX_UPLOAD_BYTES (configured 0) = .finite 0 := mebibytes_zero
  have notNegative : (JsNumber.finite 0).less (.finite 0) = false := by decide
  have isMultipart : MultipartEnforces multipart 0 := by
    intro chunks
    rw [isMultipartLimit]
    refine ⟨fun isLong => ?_, fun isShort => ?_⟩
    · exact documented.cut _ chunks notNegative (decide_eq_true (Nat.cast_pos.mpr isLong))
    · refine documented.whole _ chunks (decide_eq_false (not_lt.mpr ?_))
      exact_mod_cast isShort
  have fits {upload : Upload} (complete : upload.source.truncated = false)
      (isShort : upload.source.bytes.length ≤ 0) : Fits (.finite 0) upload :=
    ⟨complete, decide_eq_false (not_lt.mpr (by exact_mod_cast isShort))⟩
  refine ⟨isMultipart, fun upload start complete => ?_, fun upload start chunks isHanded => ?_⟩
  all_goals rw [isUseCaseLimit]
  · refine ⟨fun isLong => refused_of_not_fits notNegative ?_, fun isShort => ?_⟩
    · rintro ⟨_, notLong⟩
      exact of_decide_eq_false notLong (Nat.cast_pos.mpr isLong)
    · exact passed_of_fits notNegative (fits complete isShort)
  · obtain ⟨cut, whole⟩ := isMultipart chunks
    rw [← isHanded] at cut whole
    refine ⟨fun isLong => refused_of_not_fits notNegative ?_, fun isShort => ?_⟩
    · rintro ⟨complete, _⟩
      cases complete.symm.trans (cut isLong)
    · obtain ⟨complete, same⟩ := whole isShort
      exact passed_of_fits notNegative (fits complete (same ▸ isShort))

/-- The ceiling is enforced for zero bytes only. -/
theorem ceilingEnforced_iff (documented : DocumentedLimit multipart)
    (sha256 : List UInt8 → JsString) (storageRoot : JsString) (bytes : Nat) :
    CeilingEnforced multipart sha256 storageRoot bytes ↔ bytes = 0 := by
  constructor
  · intro enforced
    refine Nat.eq_zero_of_not_pos fun positive => ?_
    exact not_useCaseEnforces positive enforced.byUseCase
  · rintro rfl
    exact ceilingEnforced_zero documented

end

/-! ### The documented value -/

/-- A parser that hands on the bytes up to the limit. -/
def cutAt (limit : JsNumber) (chunks : List (List UInt8)) : Saving.Source :=
  if limit.less (.finite chunks.flatten.length) then
    let count := match limit with
      | .finite value => ⌊value⌋.toNat
      | .infinite _ | .nan => 0
    { chunks := [chunks.flatten.take count], truncated := true }
  else { chunks, truncated := false }

theorem documented_cutAt : DocumentedLimit cutAt where
  whole := by
    intro limit chunks notLonger
    unfold cutAt
    rw [if_neg (Bool.eq_false_iff.mp notLonger)]
    exact ⟨rfl, rfl⟩
  cut := by
    intro limit chunks _ longer
    unfold cutAt
    rw [if_pos longer]

theorem ceilingEnforced_iff_cutAt :
    DocumentedLimit cutAt ∧
      (CeilingEnforced cutAt (fun _ => []) (JsString.ofString "/uploads") 0 ↔ 0 = 0) :=
  ⟨documented_cutAt, ceilingEnforced_iff documented_cutAt _ _ 0⟩

/-- With the documented value, an upload of one byte more passes the parser and gets behind
`save`. -/
theorem documentedValue_notEnforced :
    DocumentedLimit cutAt ∧ ¬ MultipartEnforces cutAt 524288000 ∧
      ¬ UseCaseEnforces (fun _ => []) (JsString.ofString "/uploads") 524288000 ∧
      ¬ CeilingEnforced cutAt (fun _ => []) (JsString.ofString "/uploads") 524288000 := by
  have positive : 0 < 524288000 := by decide
  exact ⟨documented_cutAt, not_multipartEnforces documented_cutAt positive,
    not_useCaseEnforces positive, fun enforced => not_useCaseEnforces positive enforced.byUseCase⟩

end UploadCeiling

end ImportService
