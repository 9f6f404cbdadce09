/-
This file models `DiskFileStorage.save` chunk by chunk: the transform that counts and hashes on
the way to the disk, the file that is opened and written in the meantime, and the ways in which
the pipeline can fail. A pipeline that fails is rejected only when no stream of it is opening a
file any more, and what has been written is removed after that; `rm` itself is taken to succeed.

However the events fall, the call ends, and it ends well exactly when nothing has failed, the
source was not cut off and its bytes are not more than allowed (`save_allOrNothing`). Without
failures this is the single step that `CreateImport` makes of it (`settled_eq_proceed`).
-/

import ImportService.CreateImport
import ImportService.JsArithmetic
import ImportService.Lib.Transition

namespace ImportService.Saving

open Transition

/-! ### A call of save -/

/-- A readable stream with the chunks it is going to yield. -/
structure Source where
  chunks : List (List UInt8)
  truncated : Bool

/-- All bytes of the stream. -/
def Source.bytes (source : Source) : List UInt8 := source.chunks.flatten

/-- The arguments of a call, and the name that is generated for the file. -/
structure SaveCall where
  source : Source
  extension : JsString
  maxBytes : JsNumber
  storageRoot : JsString
  uuid : JsString

/-- The path of the file. -/
def SaveCall.storagePath (call : SaveCall) : JsString :=
  DiskFileStorage.pathOf call.storageRoot call.uuid call.extension

/-- What `save` returns. -/
structure SavedFile where
  storagePath : JsString
  size : Nat
  checksum : JsString
  deriving DecidableEq

/-- What `save` throws: its own error, or the one of `mkdir`, of the source or of the write
stream. -/
inductive SaveError
  | fileTooLarge (limitBytes : JsNumber)
  | mkdir
  | source
  | disk

/-- Where a call of `save` is. -/
inductive Phase
  | makingDirectory
  | streaming
  | failing (err : SaveError)
  | removing (err : SaveError)
  | returned (savedFile : SavedFile)
  | threw (err : SaveError)

/-- The file descriptor of the write stream. -/
inductive Descriptor
  | opening
  | opened
  | closed
  deriving DecidableEq

/-- `left` are the chunks to come, `forwarded` the bytes that the transform has handed on, of which
the first `written` are in the file. -/
structure State where
  store : Store
  left : List (List UInt8)
  ended : Bool
  bytesWritten : Nat
  hashed : List UInt8
  forwarded : List UInt8
  descriptor : Descriptor
  written : Nat
  phase : Phase

/-- Nothing has been read, and no file is there. -/
def initial (source : Source) (store : Store) : State where
  store := store
  left := source.chunks
  ended := false
  bytesWritten := 0
  hashed := []
  forwarded := []
  descriptor := .opening
  written := 0
  phase := .makingDirectory

/-- `wrote` is a write of that many bytes, and `removed` the end of an `rm`. -/
inductive Event
  | directoryMade
  | directoryFailed
  | chunk
  | sourceEnded
  | sourceFailed
  | opened
  | wrote (count : Nat)
  | diskFailed
  | pipelineResolved
  | pipelineRejected
  | removed
  deriving DecidableEq

/-- A step of the disk or of the stream fails. The removal of the file is none of these. -/
def Event.isFailure : Event → Bool
  | .directoryFailed | .sourceFailed | .diskFailed => true
  | .directoryMade | .chunk | .sourceEnded | .opened | .wrote _ | .pipelineResolved
  | .pipelineRejected | .removed => false

/-- Bytes that are written at the end of a file. -/
def appendFile (storagePath : JsString) (bytes : List UInt8) (store : Store) : Store :=
  { store with
    files := KeyedTable.updateWhere (fun file => file.storagePath == storagePath)
      (fun file => { file with content := file.content ++ bytes }) store.files }

/-- The `transform` of the guard. -/
def transform (maxBytes : JsNumber) (chunk : List UInt8) (state : State) : State :=
  let bytesWritten := state.bytesWritten + chunk.length
  if maxBytes.less (.finite bytesWritten) then
    { state with bytesWritten, phase := .failing (.fileTooLarge maxBytes) }
  else
    { state with
      bytesWritten
      hashed := state.hashed ++ chunk
      forwarded := state.forwarded ++ chunk }

/-- The write stream, which goes on with what it has begun when the pipeline fails. -/
def writeStream (storagePath : JsString) (state : State) : Event → Option State
  | .opened =>
      if state.descriptor = .opening then
        some { state with
          descriptor := .opened
          store := DiskFileStorage.createWriteStream storagePath state.store }
      else none
  | .wrote count =>
      if state.descriptor = .opened ∧ 0 < count ∧
          state.written + count ≤ state.forwarded.length then
        some { state with
          written := state.written + count
          store := appendFile storagePath ((state.forwarded.drop state.written).take count)
            state.store }
      else none
  | _ => none

/-- The code after the pipeline has succeeded. -/
def afterPipeline (sha256 : List UInt8 → JsString) (call : SaveCall) (state : State) : Phase :=
  if call.source.truncated then .removing (.fileTooLarge call.maxBytes)
  else
    .returned
      { storagePath := call.storagePath
        size := state.bytesWritten
        checksum := sha256 state.hashed }

/-- One event of a call. Chunks are read, hashed and forwarded before they are written. -/
def step (sha256 : List UInt8 → JsString) (call : SaveCall) (state : State) (event : Event) :
    Option State :=
  match state.phase, event with
  | .makingDirectory, .directoryMade => some { state with phase := .streaming }
  | .makingDirectory, .directoryFailed => some { state with phase := .threw .mkdir }
  | .streaming, .chunk =>
      match state.left with
      | [] => none
      | chunk :: rest => some (transform call.maxBytes chunk { state with left := rest })
  | .streaming, .sourceEnded =>
      if state.left = [] ∧ state.ended = false then some { state with ended := true } else none
  | .streaming, .sourceFailed =>
      if state.ended then none else some { state with phase := .failing .source }
  | .streaming, .diskFailed => some { state with descriptor := .closed, phase := .failing .disk }
  | .streaming, .pipelineResolved =>
      if state.ended = true ∧ state.descriptor = .opened ∧
          state.written = state.forwarded.length then
        some { state with descriptor := .closed, phase := afterPipeline sha256 call state }
      else none
  | .failing _, .diskFailed =>
      if state.descriptor = .closed then none else some { state with descriptor := .closed }
  | .failing err, .pipelineRejected =>
      if state.descriptor = .opening then none
      else some { state with descriptor := .closed, phase := .removing err }
  | .removing err, .removed =>
      some { state with
        store := DiskFileStorage.rm call.storagePath state.store, phase := .threw err }
  | .streaming, event | .failing _, event => writeStream call.storagePath state event
  | _, _ => none

/-! ### What a step can do -/

section

variable {sha256 : List UInt8 → JsString} {call : SaveCall} {start : Store} {state next : State}
  {events : List Event} {event : Event}

/-- The streams of the pipeline are there. -/
def State.Active (state : State) : Prop :=
  state.phase = .streaming ∨ ∃ err, state.phase = .failing err

/-- The same, one constructor for each event and what it depends on. -/
inductive Steps (sha256 : List UInt8 → JsString) (call : SaveCall) (state : State) :
    Event → State → Prop
  | makes (making : state.phase = .makingDirectory) :
      Steps sha256 call state .directoryMade { state with phase := .streaming }
  | makingFails (making : state.phase = .makingDirectory) :
      Steps sha256 call state .directoryFailed { state with phase := .threw .mkdir }
  | guards {chunk : List UInt8} {rest : List (List UInt8)} (streams : state.phase = .streaming)
      (isNext : state.left = chunk :: rest) :
      Steps sha256 call state .chunk (transform call.maxBytes chunk { state with left := rest })
  | ends (streams : state.phase = .streaming) (isLast : state.left = [])
      (notEnded : state.ended = false) :
      Steps sha256 call state .sourceEnded { state with ended := true }
  | sourceFails (streams : state.phase = .streaming) (notEnded : state.ended = false) :
      Steps sha256 call state .sourceFailed { state with phase := .failing .source }
  | opens (active : state.Active) (isOpening : state.descriptor = .opening) :
      Steps sha256 call state .opened
        { state with
          descriptor := .opened
          store := DiskFileStorage.createWriteStream call.storagePath state.store }
  | writes {count : Nat} (active : state.Active) (isOpen : state.descriptor = .opened)
      (positive : 0 < count) (bounded : state.written + count ≤ state.forwarded.length) :
      Steps sha256 call state (.wrote count)
        { state with
          written := state.written + count
          store := appendFile call.storagePath
            ((state.forwarded.drop state.written).take count) state.store }
  | diskFails (streams : state.phase = .streaming) :
      Steps sha256 call state .diskFailed
        { state with descriptor := .closed, phase := .failing .disk }
  | closes {err : SaveError} (fails : state.phase = .failing err)
      (notClosed : state.descriptor ≠ .closed) :
      Steps sha256 call state .diskFailed { state with descriptor := .closed }
  | resolves (streams : state.phase = .streaming) (hasEnded : state.ended = true)
      (isOpen : state.descriptor = .opened) (complete : state.written = state.forwarded.length) :
      Steps sha256 call state .pipelineResolved
        { state with descriptor := .closed, phase := afterPipeline sha256 call state }
  | rejects {err : SaveError} (fails : state.phase = .failing err)
      (notOpening : state.descriptor ≠ .opening) :
      Steps sha256 call state .pipelineRejected
        { state with descriptor := .closed, phase := .removing err }
  | removes {err : SaveError} (removing : state.phase = .removing err) :
      Steps sha256 call state .removed
        { state with
          store := DiskFileStorage.rm call.storagePath state.store, phase := .threw err }

theorem steps_of_writeStream (active : state.Active)
    (enabled : writeStream call.storagePath state event = some next) :
    Steps sha256 call state event next := by
  unfold writeStream at enabled
  split at enabled
  · split at enabled
    · rename_i isOpening
      cases enabled
      exact .opens active isOpening
    · cases enabled
  · split at enabled
    · rename_i isEnabled
      cases enabled
      exact .writes active isEnabled.1 isEnabled.2.1 isEnabled.2.2
    · cases enabled
  · cases enabled

theorem steps_of_step (enabled : step sha256 call state event = some next) :
    Steps sha256 call state event next := by
  unfold step at enabled
  split at enabled
  · rename_i making
    cases enabled
    exact .makes making
  · rename_i making
    cases enabled
    exact .makingFails making
  · rename_i streams
    split at enabled
    · cases enabled
    · rename_i isNext
      cases enabled
      exact .guards streams isNext
  · rename_i streams
    split at enabled
    · rename_i isEnabled
      cases enabled
      exact .ends streams isEnabled.1 isEnabled.2
    · cases enabled
  · rename_i streams
    split at enabled
    · cases enabled
    · rename_i notEnded
      cases enabled
      exact .sourceFails streams (Bool.eq_false_iff.mpr notEnded)
  · rename_i streams
    cases enabled
    exact .diskFails streams
  · rename_i streams
    split at enabled
    · rename_i isEnabled
      cases enabled
      exact .resolves streams isEnabled.1 isEnabled.2.1 isEnabled.2.2
    · cases enabled
  · rename_i fails
    split at enabled
    · cases enabled
    · rename_i notClosed
      cases enabled
      exact .closes fails notClosed
  · rename_i fails
    split at enabled
    · cases enabled
    · rename_i notOpening
      cases enabled
      exact .rejects fails notOpening
  · rename_i removing
    cases enabled
    exact .removes removing
  · rename_i streams _ _ _ _ _
    exact steps_of_writeStream (Or.inl streams) enabled
  · rename_i fails _ _
    exact steps_of_writeStream (Or.inr ⟨_, fails⟩) enabled
  · cases enabled

/-- Each of these steps can be taken. -/
theorem step_of_steps (steps : Steps sha256 call state event next) :
    step sha256 call state event = some next := by
  cases steps with
  | makes making | makingFails making => simp only [step, making]
  | guards streams isNext => simp only [step, streams, isNext]
  | ends streams isLast notEnded => simp only [step, streams, isLast, notEnded, and_self, if_true]
  | sourceFails streams notEnded =>
    simp only [step, streams, notEnded, Bool.false_eq_true, if_false]
  | opens active isOpening =>
    rcases active with isPhase | ⟨err, isPhase⟩
    all_goals simp only [step, isPhase, writeStream, isOpening, if_true]
  | writes active isOpen positive bounded =>
    rcases active with isPhase | ⟨err, isPhase⟩
    all_goals simp only [step, isPhase, writeStream, isOpen, positive, bounded, and_self, if_true]
  | diskFails streams => simp only [step, streams]
  | closes fails notClosed => simp only [step, fails, notClosed, if_false]
  | resolves streams hasEnded isOpen complete =>
    simp only [step, streams, hasEnded, isOpen, complete, and_self, if_true]
  | rejects fails notOpening => simp only [step, fails, notOpening, if_false]
  | removes removing => simp only [step, removing]

/-! ### The file -/

/-- The store with one more file. -/
def placed (storagePath : JsString) (content : List UInt8) (store : Store) : Store :=
  { store with files := store.files ++ [{ storagePath, content }] }

/-- What is at a path. -/
def contentAt (storagePath : JsString) (store : Store) : Option (List UInt8) :=
  (KeyedTable.lookup StoredFile.storagePath store.files storagePath).map StoredFile.content

section

variable {storagePath : JsString} {content : List UInt8} {start : Store}

theorem ne_of_fresh (fresh : storagePath ∉ start.paths) {file : StoredFile}
    (member : file ∈ start.files) : file.storagePath ≠ storagePath :=
  fun same => fresh (List.mem_map.mpr ⟨file, member, same⟩)

theorem updateWhere_placed (fresh : storagePath ∉ start.paths) (change : StoredFile → StoredFile) :
    KeyedTable.updateWhere (fun file => file.storagePath == storagePath) change
      (placed storagePath content start).files = start.files ++ [change ⟨storagePath, content⟩] :=
  KeyedTable.updateWhere_snoc change
    (fun _ member => beq_eq_false_iff_ne.mpr (ne_of_fresh fresh member)) (beq_self_eq_true _)

theorem appendFile_placed (fresh : storagePath ∉ start.paths) (bytes : List UInt8) :
    appendFile storagePath bytes (placed storagePath content start) =
      placed storagePath (content ++ bytes) start := by
  rw [appendFile, updateWhere_placed fresh]
  rfl

theorem fill_placed (fresh : storagePath ∉ start.paths) (bytes : List UInt8) :
    DiskFileStorage.fill storagePath bytes (placed storagePath content start) =
      placed storagePath bytes start := by
  rw [DiskFileStorage.fill, updateWhere_placed fresh]
  rfl

theorem rm_fresh (fresh : storagePath ∉ start.paths) :
    DiskFileStorage.rm storagePath start = start := by
  have kept : start.files.filter (fun file => file.storagePath != storagePath) = start.files :=
    List.filter_eq_self.mpr fun _ member => bne_iff_ne.mpr (ne_of_fresh fresh member)
  rw [DiskFileStorage.rm, kept]

theorem rm_placed (fresh : storagePath ∉ start.paths) :
    DiskFileStorage.rm storagePath (placed storagePath content start) = start := by
  have removed : [(⟨storagePath, content⟩ : StoredFile)].filter
      (fun file => file.storagePath != storagePath) = [] := by simp
  have kept := congrArg Store.files (rm_fresh fresh)
  simp only [DiskFileStorage.rm] at kept ⊢
  rw [placed, List.filter_append, removed, kept, List.append_nil]

theorem contentAt_fresh (fresh : storagePath ∉ start.paths) :
    contentAt storagePath start = none := by
  rw [contentAt, (KeyedTable.lookup_eq_none _).mpr fun _ member => ne_of_fresh fresh member,
    Option.map_none]

theorem contentAt_placed (fresh : storagePath ∉ start.paths) :
    contentAt storagePath (placed storagePath content start) = some content := by
  rw [contentAt, placed, KeyedTable.lookup_append,
    (KeyedTable.lookup_eq_none _).mpr fun _ member => ne_of_fresh fresh member, Option.none_or,
    KeyedTable.lookup_singleton, if_pos rfl, Option.map_some]

end

/-! ### While the call goes on -/

/-- The source is longer than allowed. -/
def SaveCall.exceeds (call : SaveCall) : Bool :=
  call.maxBytes.less (.finite call.source.bytes.length)

/-- Nothing fails, the source is not cut off, and it is not longer than allowed. -/
structure Succeeds (call : SaveCall) (events : List Event) : Prop where
  unfailed : ∀ event ∈ events, event.isFailure = false
  complete : call.source.truncated = false
  fits : call.exceeds = false

/-- Why a call throws. -/
def Cause (call : SaveCall) (events : List Event) : SaveError → Prop
  | .fileTooLarge limitBytes =>
      limitBytes = call.maxBytes ∧ (call.source.truncated = true ∨ call.exceeds = true)
  | .mkdir => .directoryFailed ∈ events
  | .source => .sourceFailed ∈ events
  | .disk => .diskFailed ∈ events

/-- What is forwarded comes first in the source, and the file has what is written of it. -/
structure Streams (call : SaveCall) (start : Store) (events : List Event) (state : State) :
    Prop where
  unfailed : ∀ event ∈ events, event.isFailure = false
  bytes : call.source.bytes = state.forwarded ++ state.left.flatten
  counted : state.bytesWritten = state.forwarded.length
  hashed : state.hashed = state.forwarded
  bounded : state.written ≤ state.forwarded.length
  atEnd : state.ended = true → state.left = []
  notClosed : state.descriptor ≠ .closed
  file : state.descriptor = .opened →
    state.store = placed call.storagePath (state.forwarded.take state.written) start

/-- What has happened in each phase. -/
def PhaseHolds (sha256 : List UInt8 → JsString) (call : SaveCall) (start : Store)
    (events : List Event) (state : State) : Phase → Prop
  | .makingDirectory => Streams call start events state ∧ state.descriptor = .opening
  | .streaming => Streams call start events state
  | .failing err => Cause call events err
  | .removing err => Cause call events err ∧ state.descriptor = .closed
  | .returned savedFile =>
      Succeeds call events ∧ state.store = placed call.storagePath call.source.bytes start ∧
        savedFile = ⟨call.storagePath, call.source.bytes.length, sha256 call.source.bytes⟩
  | .threw err => Cause call events err ∧ state.store = start

/-- What is kept from one event to the next. -/
structure Holds (sha256 : List UInt8 → JsString) (call : SaveCall) (start : Store)
    (events : List Event) (state : State) : Prop where
  within : call.maxBytes.less (.finite state.forwarded.length) = false
  isOpening : state.descriptor = .opening → state.written = 0 ∧ state.store = start
  isOpened : state.descriptor = .opened →
    ∃ content, state.store = placed call.storagePath content start
  onlyFile : state.store = start ∨ ∃ content, state.store = placed call.storagePath content start
  phase : PhaseHolds sha256 call start events state state.phase

theorem Cause.snoc {err : SaveError} (cause : Cause call events err) (event : Event) :
    Cause call (events ++ [event]) err := by
  cases err with
  | fileTooLarge limitBytes => exact cause
  | mkdir | source | disk => exact List.mem_append_left [event] cause

theorem unfailed_snoc (unfailed : ∀ event ∈ events, event.isFailure = false)
    (notFailure : event.isFailure = false) :
    ∀ other ∈ events ++ [event], other.isFailure = false := by
  intro other member
  rcases List.mem_append.mp member with earlier | last
  · exact unfailed other earlier
  · rw [List.mem_singleton.mp last]
    exact notFailure

/-- What streams is what the phase says of the state. -/
theorem Holds.streams (holds : Holds sha256 call start events state)
    (streams : state.phase = .streaming) : Streams call start events state := by
  have phase := holds.phase
  rw [streams] at phase
  exact phase

theorem Holds.cause (holds : Holds sha256 call start events state) {err : SaveError}
    (fails : state.phase = .failing err) : Cause call events err := by
  have phase := holds.phase
  rw [fails] at phase
  exact phase

/-- What the transform hands on is not more than allowed; what it refuses makes the source too
long. -/
theorem holds_transform {chunk : List UInt8} {rest : List (List UInt8)}
    (holds : Holds sha256 call start events state) (streams : state.phase = .streaming)
    (isNext : state.left = chunk :: rest) :
    Holds sha256 call start (events ++ [.chunk])
      (transform call.maxBytes chunk { state with left := rest }) := by
  have current := holds.streams streams
  have bytes : call.source.bytes = state.forwarded ++ chunk ++ rest.flatten := by
    rw [current.bytes, isNext, List.flatten_cons, List.append_assoc]
  have counted : (state.forwarded ++ chunk).length = state.bytesWritten + chunk.length := by
    rw [List.length_append, current.counted]
  unfold transform
  simp only
  split
  · rename_i exceeds
    refine ⟨holds.within, holds.isOpening, holds.isOpened, holds.onlyFile,
      ⟨rfl, Or.inr (JsNumber.less_of_le exceeds ?_)⟩⟩
    rw [bytes, List.length_append, counted]
    exact_mod_cast Nat.le_add_right _ _
  · rename_i fits
    refine ⟨?_, holds.isOpening, holds.isOpened, holds.onlyFile, ?_⟩
    · rw [counted]
      exact Bool.eq_false_iff.mpr fits
    · simp only [streams, PhaseHolds]
      exact
        { unfailed := unfailed_snoc current.unfailed rfl
          bytes := bytes
          counted := counted.symm
          hashed := congrArg (fun hashed => hashed ++ chunk) current.hashed
          bounded := current.bounded.trans (List.length_append ▸ Nat.le_add_right _ _)
          atEnd := fun ended =>
            absurd (isNext.symm.trans (current.atEnd ended)) (List.cons_ne_nil _ _)
          notClosed := current.notClosed
          file := fun isOpen => by
            rw [List.take_append_of_le_length current.bounded]
            exact current.file isOpen }

theorem holds_opens (holds : Holds sha256 call start events state) (active : state.Active)
    (isOpening : state.descriptor = .opening) :
    Holds sha256 call start (events ++ [.opened])
      { state with
        descriptor := .opened
        store := DiskFileStorage.createWriteStream call.storagePath state.store } := by
  obtain ⟨nothing, untouched⟩ := holds.isOpening isOpening
  have created : DiskFileStorage.createWriteStream call.storagePath state.store =
      placed call.storagePath [] start := by
    rw [untouched]
    rfl
  refine ⟨holds.within, nofun, fun _ => ⟨[], created⟩, Or.inr ⟨[], created⟩, ?_⟩
  rcases active with streams | ⟨err, fails⟩
  · have current := holds.streams streams
    simp only [streams, PhaseHolds]
    exact
      { current with
        unfailed := unfailed_snoc current.unfailed rfl
        notClosed := nofun
        file := fun _ => by rw [nothing, List.take_zero, created] }
  · simp only [fails, PhaseHolds]
    exact (holds.cause fails).snoc .opened

theorem holds_writes (fresh : call.storagePath ∉ start.paths) {count : Nat}
    (holds : Holds sha256 call start events state) (active : state.Active)
    (isOpen : state.descriptor = .opened)
    (bounded : state.written + count ≤ state.forwarded.length) :
    Holds sha256 call start (events ++ [.wrote count])
      { state with
        written := state.written + count
        store := appendFile call.storagePath ((state.forwarded.drop state.written).take count)
          state.store } := by
  have appended (content : List UInt8)
      (isContent : state.store = placed call.storagePath content start) :
      appendFile call.storagePath ((state.forwarded.drop state.written).take count) state.store =
        placed call.storagePath (content ++ (state.forwarded.drop state.written).take count)
          start := by
    rw [isContent, appendFile_placed fresh]
  obtain ⟨content, isContent⟩ := holds.isOpened isOpen
  refine ⟨holds.within, fun isOpening => ?_, fun _ => ⟨_, appended content isContent⟩,
    Or.inr ⟨_, appended content isContent⟩, ?_⟩
  · cases isOpen.symm.trans isOpening
  · rcases active with streams | ⟨err, fails⟩
    · have current := holds.streams streams
      simp only [streams, PhaseHolds]
      exact
        { current with
          unfailed := unfailed_snoc current.unfailed rfl
          bounded := bounded
          file := fun _ => by
            rw [appended _ (current.file isOpen), List.take_add] }
    · simp only [fails, PhaseHolds]
      exact (holds.cause fails).snoc (.wrote count)

/-- All that the source has had is in the file when the pipeline resolves. -/
theorem holds_resolves (holds : Holds sha256 call start events state)
    (streams : state.phase = .streaming) (hasEnded : state.ended = true)
    (isOpen : state.descriptor = .opened) (complete : state.written = state.forwarded.length) :
    Holds sha256 call start (events ++ [.pipelineResolved])
      { state with descriptor := .closed, phase := afterPipeline sha256 call state } := by
  have current := holds.streams streams
  have bytes : call.source.bytes = state.forwarded := by
    rw [current.bytes, current.atEnd hasEnded, List.flatten_nil, List.append_nil]
  have stored : state.store = placed call.storagePath call.source.bytes start := by
    rw [current.file isOpen, complete, List.take_length, bytes]
  refine ⟨holds.within, nofun, nofun, holds.onlyFile, ?_⟩
  unfold afterPipeline
  split
  · rename_i truncated
    exact ⟨⟨rfl, Or.inl truncated⟩, rfl⟩
  · rename_i notTruncated
    refine ⟨⟨unfailed_snoc current.unfailed rfl, Bool.eq_false_iff.mpr notTruncated, ?_⟩,
      stored, ?_⟩
    · rw [SaveCall.exceeds, bytes]
      exact holds.within
    · rw [current.counted, current.hashed, bytes]

theorem holds_step (fresh : call.storagePath ∉ start.paths)
    (holds : Holds sha256 call start events state)
    (enabled : step sha256 call state event = some next) :
    Holds sha256 call start (events ++ [event]) next := by
  have phase := holds.phase
  cases steps_of_step enabled with
  | makes making =>
    rw [making] at phase
    exact
      { holds with
        phase := { phase.1 with unfailed := unfailed_snoc phase.1.unfailed rfl } }
  | makingFails making =>
    rw [making] at phase
    exact { holds with phase := ⟨List.mem_concat_self, (holds.isOpening phase.2).2⟩ }
  | guards streams isNext => exact holds_transform holds streams isNext
  | ends streams isLast =>
    have current := holds.streams streams
    refine ⟨holds.within, holds.isOpening, holds.isOpened, holds.onlyFile, ?_⟩
    simp only [streams, PhaseHolds]
    exact
      { current with
        unfailed := unfailed_snoc current.unfailed rfl
        atEnd := fun _ => isLast }
  | sourceFails streams => exact { holds with phase := List.mem_concat_self }
  | opens active isOpening => exact holds_opens holds active isOpening
  | writes active isOpen _ bounded => exact holds_writes fresh holds active isOpen bounded
  | diskFails streams =>
    exact ⟨holds.within, nofun, nofun, holds.onlyFile, List.mem_concat_self⟩
  | closes fails =>
    refine ⟨holds.within, nofun, nofun, holds.onlyFile, ?_⟩
    simp only [fails, PhaseHolds]
    exact (holds.cause fails).snoc .diskFailed
  | resolves streams hasEnded isOpen complete =>
    exact holds_resolves holds streams hasEnded isOpen complete
  | rejects fails =>
    exact ⟨holds.within, nofun, nofun, holds.onlyFile, (holds.cause fails).snoc _, rfl⟩
  | removes removing =>
    have removed : DiskFileStorage.rm call.storagePath state.store = start := by
      rcases holds.onlyFile with same | ⟨content, isContent⟩
      · rw [same, rm_fresh fresh]
      · rw [isContent, rm_placed fresh]
    rw [removing] at phase
    obtain ⟨cause, isClosed⟩ := phase
    refine ⟨holds.within, fun isOpening => ?_, fun isOpen => ?_, Or.inl removed,
      cause.snoc .removed, removed⟩
    · cases isClosed.symm.trans isOpening
    · cases isClosed.symm.trans isOpen

/-! ### The end of a call -/

/-- The call has returned or thrown. -/
def State.Settled (state : State) : Prop :=
  (∃ savedFile, state.phase = .returned savedFile) ∨ ∃ err, state.phase = .threw err

/-- How many steps the descriptor has left. -/
def Descriptor.rank : Descriptor → Nat
  | .opening => 2
  | .opened => 1
  | .closed => 0

/-- How many phases are still to come. -/
def Phase.rank : Phase → Nat
  | .makingDirectory => 4
  | .streaming => 3
  | .failing _ => 2
  | .removing _ => 1
  | .returned _ | .threw _ => 0

/-- What is still to be done, counted so that every event takes something away. -/
def remaining (state : State) : Nat :=
  state.left.length + state.left.flatten.length + (state.forwarded.length - state.written) +
    (if state.ended then 0 else 1) + state.descriptor.rank + state.phase.rank

theorem Descriptor.rank_pos {descriptor : Descriptor} (notClosed : descriptor ≠ .closed) :
    0 < descriptor.rank := by
  cases descriptor with
  | opening | opened => exact Nat.succ_pos _
  | closed => exact absurd rfl notClosed

theorem rank_afterPipeline_le (sha256 : List UInt8 → JsString) (call : SaveCall) (state : State) :
    (afterPipeline sha256 call state).rank ≤ 1 := by
  unfold afterPipeline
  split
  · exact Nat.le_refl 1
  · exact Nat.zero_le 1

theorem remaining_transform {chunk : List UInt8} {rest : List (List UInt8)}
    (streams : state.phase = .streaming) (isNext : state.left = chunk :: rest) :
    remaining (transform call.maxBytes chunk { state with left := rest }) < remaining state := by
  unfold transform
  simp only
  split
  · simp only [remaining, isNext, streams, Phase.rank, List.flatten_cons, List.length_append,
      List.length_cons]
    omega
  · simp only [remaining, isNext, List.flatten_cons, List.length_append, List.length_cons]
    omega

theorem remaining_lt (enabled : step sha256 call state event = some next) :
    remaining next < remaining state := by
  have closedRank : Descriptor.closed.rank = 0 := rfl
  cases steps_of_step enabled with
  | makes making | makingFails making => simp [remaining, making, Phase.rank]
  | guards streams isNext => exact remaining_transform streams isNext
  | ends streams _ notEnded => simp [remaining, notEnded]
  | sourceFails streams => simp [remaining, streams, Phase.rank]
  | opens active isOpening => simp [remaining, isOpening, Descriptor.rank]
  | writes active isOpen positive bounded =>
    simp only [remaining]
    omega
  | diskFails streams =>
    simp only [remaining, streams, Phase.rank]
    omega
  | closes fails notClosed =>
    have positive := Descriptor.rank_pos notClosed
    simp only [remaining]
    omega
  | resolves streams hasEnded isOpen complete =>
    have smaller := rank_afterPipeline_le sha256 call state
    have streamingRank : state.phase.rank = 3 := congrArg Phase.rank streams
    simp only [remaining]
    omega
  | rejects fails notOpening =>
    simp only [remaining, fails, Phase.rank]
    omega
  | removes removing => simp [remaining, removing, Phase.rank]

theorem not_settled_of_step (enabled : step sha256 call state event = some next) :
    ¬ state.Settled := by
  rintro (⟨savedFile, isReturned⟩ | ⟨err, isThrown⟩)
  · simp only [step, isReturned] at enabled
    cases enabled
  · simp only [step, isThrown] at enabled
    cases enabled

theorem remaining_initial (source : Source) (store : Store) :
    remaining (initial source store) = source.chunks.length + source.bytes.length + 7 := rfl

/-- A call that has not ended can go on without a failure. -/
theorem exists_steps (holds : Holds sha256 call start events state)
    (unsettled : ¬ state.Settled) :
    ∃ event next, event.isFailure = false ∧ Steps sha256 call state event next := by
  cases isPhase : state.phase with
  | makingDirectory => exact ⟨_, _, rfl, .makes isPhase⟩
  | streaming =>
    have current := holds.streams isPhase
    cases isDescriptor : state.descriptor with
    | opening => exact ⟨_, _, rfl, .opens (Or.inl isPhase) isDescriptor⟩
    | closed => exact absurd isDescriptor current.notClosed
    | opened =>
      rcases current.bounded.lt_or_eq with incomplete | complete
      · exact ⟨_, _, rfl, .writes (Or.inl isPhase) isDescriptor Nat.one_pos incomplete⟩
      · cases isLeft : state.left with
        | cons chunk rest => exact ⟨_, _, rfl, .guards isPhase isLeft⟩
        | nil =>
          cases hasEnded : state.ended with
          | false => exact ⟨_, _, rfl, .ends isPhase isLeft hasEnded⟩
          | true => exact ⟨_, _, rfl, .resolves isPhase hasEnded isDescriptor complete⟩
  | failing err =>
    by_cases isOpening : state.descriptor = .opening
    · exact ⟨_, _, rfl, .opens (Or.inr ⟨err, isPhase⟩) isOpening⟩
    · exact ⟨_, _, rfl, .rejects isPhase isOpening⟩
  | removing err => exact ⟨_, _, rfl, .removes isPhase⟩
  | returned savedFile => exact absurd (Or.inl ⟨savedFile, isPhase⟩) unsettled
  | threw err => exact absurd (Or.inr ⟨err, isPhase⟩) unsettled

/-- A call that meets no further failure ends. -/
theorem exists_settled (fresh : call.storagePath ∉ start.paths)
    (holds : Holds sha256 call start events state) :
    ∃ later last, run (step sha256 call) state later = some last ∧
      (∀ event ∈ later, event.isFailure = false) ∧ last.Settled := by
  induction work : remaining state using Nat.strong_induction_on generalizing state events with
  | _ count inductionHypothesis =>
    by_cases settled : state.Settled
    · exact ⟨[], state, rfl, nofun, settled⟩
    · obtain ⟨event, next, notFailure, steps⟩ := exists_steps holds settled
      have enabled := step_of_steps steps
      have less : remaining next < count := work ▸ remaining_lt enabled
      obtain ⟨later, last, reaches, unfailed, ended⟩ :=
        inductionHypothesis (remaining next) less (holds_step fresh holds enabled) rfl
      refine ⟨event :: later, last, ?_, List.forall_mem_cons.mpr ⟨notFailure, unfailed⟩, ended⟩
      rw [run, enabled]
      exact reaches

end

/-! ### All or nothing -/

/-- What a call of `save` guarantees, over all runs that its events allow. -/
structure AllOrNothing (sha256 : List UInt8 → JsString) (call : SaveCall) (start : Store) :
    Prop where
  /-- Never more than allowed is handed on to the file. -/
  within : ∀ events state, run (step sha256 call) (initial call.source start) events = some state →
    call.maxBytes.less (.finite state.forwarded.length) = false
  /-- Every run can go on until the call has ended, and not for ever. -/
  ends : ∀ events state, run (step sha256 call) (initial call.source start) events = some state →
    events.length ≤ call.source.chunks.length + call.source.bytes.length + 7 ∧
      (state.Settled ∨ ∃ event next, step sha256 call state event = some next)
  /-- A call that has ended has returned exactly when it had to succeed. -/
  succeeds : ∀ events state,
    run (step sha256 call) (initial call.source start) events = some state → state.Settled →
      ((∃ savedFile, state.phase = .returned savedFile) ↔ Succeeds call events)
  returns : ∀ events state savedFile,
    run (step sha256 call) (initial call.source start) events = some state →
      state.phase = .returned savedFile →
        contentAt call.storagePath state.store = some call.source.bytes ∧
          savedFile =
            ⟨call.storagePath, call.source.bytes.length, sha256 call.source.bytes⟩
  throws : ∀ events state err,
    run (step sha256 call) (initial call.source start) events = some state →
      state.phase = .threw err →
        contentAt call.storagePath state.store = none ∧ state.store = start ∧ Cause call events err

section

variable {sha256 : List UInt8 → JsString} {call : SaveCall} {start : Store} {events : List Event}
  {state : State}

theorem holds_run (isLimit : call.maxBytes.less (.finite 0) = false)
    (fresh : call.storagePath ∉ start.paths)
    (reaches : run (step sha256 call) (initial call.source start) events = some state) :
    Holds sha256 call start events state := by
  refine run_invariant reaches (Holds sha256 call start) ?_
    fun earlier current label next holds enabled => holds_step fresh holds enabled
  refine ⟨isLimit, fun _ => ⟨rfl, rfl⟩, nofun, Or.inl rfl, ?_, rfl⟩
  exact
    { unfailed := nofun
      bytes := rfl
      counted := rfl
      hashed := rfl
      bounded := Nat.le_refl 0
      atEnd := nofun
      notClosed := nofun
      file := nofun }

/-- Without failures a call throws only for the size of its source. -/
theorem Cause.tooLarge {err : SaveError} (cause : Cause call events err)
    (unfailed : ∀ event ∈ events, event.isFailure = false) :
    err = .fileTooLarge call.maxBytes ∧ (call.source.truncated = true ∨ call.exceeds = true) := by
  cases err with
  | fileTooLarge limitBytes => exact ⟨congrArg SaveError.fileTooLarge cause.1, cause.2⟩
  | mkdir | source | disk => cases unfailed _ cause

theorem not_succeeds_of_cause {err : SaveError} (cause : Cause call events err) :
    ¬ Succeeds call events := by
  rintro ⟨unfailed, complete, fits⟩
  rcases (cause.tooLarge unfailed).2 with truncated | exceeds
  · cases complete.symm.trans truncated
  · cases fits.symm.trans exceeds

end

/-- Saving is all or nothing, for every limit that is a number of bytes. Under a negative limit,
which is none, `save` refuses the first chunk of a file, but only chunks are compared: an empty file
is saved. -/
theorem save_allOrNothing (sha256 : List UInt8 → JsString) (call : SaveCall) (start : Store)
    (isLimit : call.maxBytes.less (.finite 0) = false) (fresh : call.storagePath ∉ start.paths) :
    AllOrNothing sha256 call start where
  within := fun events state reaches => (holds_run isLimit fresh reaches).within
  ends := by
    intro events state reaches
    have holds := holds_run isLimit fresh reaches
    constructor
    · have bound := run_length_le remaining (fun _ _ _ => remaining_lt) reaches
      exact (Nat.le_add_right _ _).trans bound
    · refine or_iff_not_imp_left.mpr fun unsettled => ?_
      obtain ⟨event, next, _, steps⟩ := exists_steps holds unsettled
      exact ⟨event, next, step_of_steps steps⟩
  succeeds := by
    intro events state reaches settled
    have phase := (holds_run isLimit fresh reaches).phase
    rcases settled with ⟨savedFile, isReturned⟩ | ⟨err, isThrown⟩
    · rw [isReturned] at phase
      exact iff_of_true ⟨savedFile, isReturned⟩ phase.1
    · rw [isThrown] at phase
      refine iff_of_false ?_ (not_succeeds_of_cause phase.1)
      rintro ⟨savedFile, isReturned⟩
      cases isThrown.symm.trans isReturned
  returns := by
    intro events state savedFile reaches isReturned
    have phase := (holds_run isLimit fresh reaches).phase
    rw [isReturned] at phase
    obtain ⟨_, stored, isSaved⟩ := phase
    exact ⟨stored ▸ contentAt_placed fresh, isSaved⟩
  throws := by
    intro events state err reaches isThrown
    have phase := (holds_run isLimit fresh reaches).phase
    rw [isThrown] at phase
    obtain ⟨cause, untouched⟩ := phase
    exact ⟨untouched ▸ contentAt_fresh fresh, untouched, cause⟩

/-- Three bytes are allowed, and the source has four, the last two in one chunk. -/
def longCall : SaveCall where
  source := { chunks := [[1, 2], [3, 4]], truncated := false }
  extension := JsString.ofString ".json"
  maxBytes := .finite 3
  storageRoot := JsString.ofString "/uploads"
  uuid := JsString.ofString "u1"

/-- An empty store. -/
def noFiles : Store where
  db := Database.empty
  idempotencyKeys := []
  files := []

theorem save_allOrNothing_longCall :
    (JsNumber.finite 3).less (.finite 0) = false ∧ longCall.storagePath ∉ noFiles.paths ∧
      AllOrNothing (fun _ => []) longCall noFiles :=
  ⟨by decide, List.not_mem_nil,
    save_allOrNothing (fun _ => []) longCall noFiles (by decide) List.not_mem_nil⟩

/-- The first chunk is in the file when the second is refused, and the file is gone at the end. -/
example :
    (run (step (fun _ => []) longCall) (initial longCall.source noFiles)
        [.directoryMade, .chunk, .opened, .wrote 2, .chunk, .pipelineRejected, .removed]).map
      (fun state => (state.forwarded, state.phase, state.store.files)) =
    some ([1, 2], .threw (.fileTooLarge (.finite 3)), []) := by rfl

/-! ### The coarse step -/

/-- Where `execute` is when `save` has ended. -/
def afterSave (maxUploadBytes : Nat) : Phase → Option CreateImport.Phase
  | .returned savedFile => some (.creating savedFile.storagePath)
  | .threw (.fileTooLarge _) => some (.threw (.fileTooLarge maxUploadBytes))
  | _ => none

theorem fits_iff {call : SaveCall} {maxUploadBytes : Nat}
    (isLimit : call.maxBytes = .finite maxUploadBytes) :
    DiskFileStorage.fits maxUploadBytes ⟨call.source.bytes, call.source.truncated⟩ = true ↔
      call.exceeds = false ∧ call.source.truncated = false := by
  rw [DiskFileStorage.fits, Bool.and_eq_true, decide_eq_true_eq, Bool.not_eq_true',
    SaveCall.exceeds, isLimit, JsNumber.less, decide_eq_false_iff_not, not_lt, Nat.cast_le]

/-- Without failures a call that has ended has done what `CreateImport` does in one step. -/
theorem settled_eq_proceed {sha256 : List UInt8 → JsString} {call : SaveCall} {start : Store}
    {events : List Event} {state : State} {maxUploadBytes : Nat}
    (isLimit : call.maxBytes = .finite maxUploadBytes) (fresh : call.storagePath ∉ start.paths)
    (reaches : run (step sha256 call) (initial call.source start) events = some state)
    (settled : state.Settled) (unfailed : ∀ event ∈ events, event.isFailure = false)
    (now : Nat) (command : CreateImport.CreateImportCommand) :
    CreateImport.proceed ⟨call.storageRoot, maxUploadBytes⟩ now command
        (DiskFileStorage.createWriteStream call.storagePath start)
        (.saving ⟨call.source.bytes, call.source.truncated⟩ call.storagePath) .streamEnded =
      (afterSave maxUploadBytes state.phase).map fun phase => (state.store, phase) := by
  have notNegative : call.maxBytes.less (.finite 0) = false := by
    rw [isLimit]
    exact decide_eq_false (not_lt.mpr (Nat.cast_nonneg maxUploadBytes))
  have created : DiskFileStorage.createWriteStream call.storagePath start =
      placed call.storagePath [] start := rfl
  have phase := (holds_run notNegative fresh reaches).phase
  rcases settled with ⟨savedFile, isReturned⟩ | ⟨err, isThrown⟩
  · rw [isReturned] at phase ⊢
    obtain ⟨⟨_, complete, fits⟩, stored, rfl⟩ := phase
    rw [CreateImport.proceed, if_pos ((fits_iff isLimit).mpr ⟨fits, complete⟩), created,
      fill_placed fresh, stored]
    rfl
  · rw [isThrown] at phase ⊢
    obtain ⟨cause, untouched⟩ := phase
    obtain ⟨rfl, tooLarge⟩ := cause.tooLarge unfailed
    have notFits : ¬ DiskFileStorage.fits maxUploadBytes
        ⟨call.source.bytes, call.source.truncated⟩ = true := by
      rw [fits_iff isLimit]
      rintro ⟨fits, complete⟩
      simp [fits, complete] at tooLarge
    rw [CreateImport.proceed, if_neg notFits, created, rm_placed fresh, untouched]
    rfl

end ImportService.Saving
