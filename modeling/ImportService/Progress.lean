/-
This file says how far an execution is in its file. The lines of a file come to one
batch, `fileBatch`; the batches an execution sends off and the one it is filling are a
prefix of it, cut where the batch size and the cancellation checks happened to cut it.
`Tracks` states this for every point, and `resume_cases` that it is kept from one call to
the next: `sent` grows by a batch when its `persistBatch` answers, and by nothing else, and
a check that sees a cancellation sets `stop` to its line.
-/

import ImportService.ProcessImportFile

namespace ImportService

namespace ProcessImportFile

/-! ### Batches -/

namespace Batch

/-- Two batches one after the other. -/
def append (first second : Batch) : Batch where
  pendingScoring := first.pendingScoring ++ second.pendingScoring
  pendingRejected := first.pendingRejected ++ second.pendingRejected
  pendingLineCount := first.pendingLineCount + second.pendingLineCount

theorem append_empty (batch : Batch) : batch.append empty = batch := by
  simp only [append, empty, List.append_nil, Nat.add_zero]

theorem append_assoc (first second third : Batch) :
    (first.append second).append third = first.append (second.append third) := by
  simp only [append, List.append_assoc, Nat.add_assoc]

theorem append_add (first second : Batch) (outcome : LineOutcome) :
    (first.append second).add outcome = first.append (second.add outcome) := by
  cases outcome <;> simp only [append, add, List.append_assoc, Nat.add_assoc]

/-- The line count is the number of lines in the two lists. -/
def Counted (batch : Batch) : Prop := batch.pendingLineCount = batch.size

theorem counted_empty : empty.Counted := rfl

theorem Counted.add {batch : Batch} (counted : batch.Counted) (outcome : LineOutcome) :
    (batch.add outcome).Counted := by
  cases outcome with
  | blank => exact counted
  | rejected record | accepted input =>
    simp only [Counted, Batch.add, size, List.length_append, List.length_singleton]
    rw [counted, size]
    omega

theorem eq_empty_of_isEmpty {batch : Batch} (counted : batch.Counted)
    (isEmpty : batch.isEmpty = true) : batch = empty := by
  obtain ⟨noScoring, noRejected⟩ := Bool.and_eq_true_iff.mp isEmpty
  cases batch with
  | mk scoring rejected lineCount =>
    obtain rfl := List.isEmpty_iff.mp noScoring
    obtain rfl := List.isEmpty_iff.mp noRejected
    obtain rfl : lineCount = 0 := counted
    rfl

end Batch

/-! ### The lines of a file -/

/-- A rejection carries the number of its line. -/
theorem lineNumber_of_handleLine {ports : Ports} {fallbackProvider rawLine : JsString}
    {lineNumber : Nat} {record : RejectedRecordInput}
    (rejects : handleLine ports fallbackProvider rawLine lineNumber = .rejected record) :
    record.lineNumber = lineNumber := by
  have names := parseNdjsonLine_names ports.runtime rawLine lineNumber
  unfold handleLine at rejects
  split at rejects
  · cases rejects
  · rename_i given code message rawValue parses
    rw [parses] at names
    cases rejects
    exact names
  · rename_i given data parses
    rw [parses] at names
    split at rejects <;> cases rejects
    exact names

/-- What lines come to that follow the line `lineNumber`. -/
def handleLines (ports : Ports) (fallbackProvider : JsString) : Nat → List JsString →
    List LineOutcome
  | _, [] => []
  | lineNumber, rawLine :: rest =>
      handleLine ports fallbackProvider rawLine (lineNumber + 1) ::
        handleLines ports fallbackProvider (lineNumber + 1) rest

theorem handleLines_append (ports : Ports) (fallbackProvider : JsString) (lineNumber : Nat)
    (first second : List JsString) :
    handleLines ports fallbackProvider lineNumber (first ++ second) =
      handleLines ports fallbackProvider lineNumber first ++
        handleLines ports fallbackProvider (lineNumber + first.length) second := by
  induction first generalizing lineNumber with
  | nil => rfl
  | cons rawLine rest inductionHypothesis =>
    rw [List.cons_append, handleLines, handleLines, inductionHypothesis, List.cons_append,
      List.length_cons, Nat.add_right_comm, Nat.add_assoc]

theorem handleLines_getElem? (ports : Ports) (fallbackProvider : JsString) (lineNumber : Nat)
    (lines : List JsString) (index : Nat) :
    (handleLines ports fallbackProvider lineNumber lines)[index]? =
      lines[index]?.map fun rawLine =>
        handleLine ports fallbackProvider rawLine (lineNumber + index + 1) := by
  induction lines generalizing lineNumber index with
  | nil => rfl
  | cons rawLine rest inductionHypothesis =>
    cases index with
    | zero => rfl
    | succ index =>
      rw [handleLines, List.getElem?_cons_succ, List.getElem?_cons_succ, inductionHypothesis,
        Nat.add_right_comm lineNumber 1 index, Nat.add_assoc lineNumber index 1]

/-- The batch some line outcomes add up to. -/
def batchOf (outcomes : List LineOutcome) : Batch := outcomes.foldl Batch.add Batch.empty

/-- The input of an accepted line. -/
def LineOutcome.input? : LineOutcome → Option ScoringInput
  | .accepted input => some input
  | .blank | .rejected _ => none

/-- The record of a rejected line. -/
def LineOutcome.record? : LineOutcome → Option RejectedRecordInput
  | .rejected record => some record
  | .blank | .accepted _ => none

theorem foldl_add (batch : Batch) (outcomes : List LineOutcome) :
    outcomes.foldl Batch.add batch = batch.append (batchOf outcomes) := by
  induction outcomes generalizing batch with
  | nil => exact batch.append_empty.symm
  | cons outcome rest inductionHypothesis =>
    rw [batchOf, List.foldl_cons, List.foldl_cons, inductionHypothesis,
      inductionHypothesis (Batch.empty.add outcome), ← Batch.append_assoc, ← Batch.append_add,
      Batch.append_empty]

theorem batchOf_append (first second : List LineOutcome) :
    batchOf (first ++ second) = (batchOf first).append (batchOf second) := by
  rw [batchOf, List.foldl_append, foldl_add]
  rfl

theorem batchOf_cons (outcome : LineOutcome) (rest : List LineOutcome) :
    batchOf (outcome :: rest) = (Batch.empty.add outcome).append (batchOf rest) :=
  batchOf_append [outcome] rest

theorem batchOf_pendingScoring (outcomes : List LineOutcome) :
    (batchOf outcomes).pendingScoring = outcomes.filterMap LineOutcome.input? := by
  induction outcomes with
  | nil => rfl
  | cons outcome rest inductionHypothesis =>
    rw [batchOf_cons, Batch.append, inductionHypothesis]
    cases outcome <;> rfl

theorem batchOf_pendingRejected (outcomes : List LineOutcome) :
    (batchOf outcomes).pendingRejected = outcomes.filterMap LineOutcome.record? := by
  induction outcomes with
  | nil => rfl
  | cons outcome rest inductionHypothesis =>
    rw [batchOf_cons, Batch.append, inductionHypothesis]
    cases outcome <;> rfl

/-- The first lines of a file as one batch. -/
def fileBatch (ports : Ports) (file : ImportFileLocation) (lines : List JsString) : Batch :=
  batchOf (handleLines ports (file.provider.getD []) 0 lines)

theorem fileBatch_append (ports : Ports) (file : ImportFileLocation)
    (first second : List JsString) :
    fileBatch ports file (first ++ second) =
      (fileBatch ports file first).append
        (batchOf (handleLines ports (file.provider.getD []) first.length second)) := by
  rw [fileBatch, handleLines_append, batchOf_append, Nat.zero_add]
  rfl

theorem fileBatch_snoc (ports : Ports) (file : ImportFileLocation) (lines : List JsString)
    (rawLine : JsString) :
    fileBatch ports file (lines ++ [rawLine]) =
      (fileBatch ports file lines).add
        (handleLine ports (file.provider.getD []) rawLine (lines.length + 1)) := by
  rw [fileBatch, handleLines_append, batchOf, List.foldl_append, Nat.zero_add]
  rfl

/-! ### The place in the file -/

/-- The lines `handled` are in the batches `sent` and in the current batch, and `unread` are
the others. -/
structure Reads (ports : Ports) (file : ImportFileLocation) (sent : Batch)
    (handled unread : List JsString) (locals : Locals) : Prop where
  provider : locals.fallbackProvider = file.provider.getD []
  lines : ports.readLines file.storagePath = handled ++ unread
  batches : sent.append locals.pending = fileBatch ports file handled
  counted : locals.pending.Counted

/-- The lines a loop reads that is left at line `stop`, if at any. -/
def linesBefore (stop : Option Nat) (lines : List JsString) : List JsString :=
  match stop with
  | none => lines
  | some lineNumber => lines.take (lineNumber - 1)

/-- The status an execution ends with. -/
def endStatus : Option Nat → ImportStatus
  | none => .COMPLETED
  | some _ => .CANCELLED

/-- The place from which the loop reads the next line. -/
def BeforeLine (stop : Option Nat) (handled unread : List JsString) (locals : Locals) : Prop :=
  unread = locals.rest ∧ locals.lineNumber = handled.length ∧ locals.wasCancelled = false ∧
    stop = none

/-- The place at a check that comes before the line is handled. -/
def AtLine (stop : Option Nat) (handled unread : List JsString) (locals : Locals)
    (rawLine : JsString) : Prop :=
  unread = rawLine :: locals.rest ∧ locals.lineNumber = handled.length + 1 ∧
    locals.wasCancelled = false ∧ stop = none

/-- The place of a flush: in the loop, or after it, with the lines handled up to the one at which
it was left. -/
def AtFlush (stop : Option Nat) (handled unread : List JsString) (locals : Locals)
    (last : Bool) : Prop :=
  if last then
    locals.wasCancelled = stop.isSome ∧ handled = linesBefore stop (handled ++ unread)
  else BeforeLine stop handled unread locals

/-- The input of `persistBatch` for a batch. -/
def scoredInput (ports : Ports) (job : ClaimedJob) (batch : Batch) : PersistBatchInput :=
  persistInput job batch (ports.scoreBatch batch.pendingScoring)

theorem length_scoredInput (ports : Ports) (job : ClaimedJob) (batch : Batch) :
    (scoredInput ports job batch).scored.length = batch.pendingScoring.length := by
  simp only [scoredInput, persistInput, scoredTransactions, Ports.scoreBatch, List.length_zipWith,
    List.length_map, Nat.min_self]

/-- How far an execution is at a point: the batches `sent`, and the line `stop` at which the loop
was left. -/
def Tracks (ports : Ports) (job : ClaimedJob) (file : ImportFileLocation) (sent : Batch)
    (stop : Option Nat) : Point → Prop
  | .findByImportId => sent = Batch.empty ∧ stop = none
  | .countLines found => found = file ∧ sent = Batch.empty ∧ stop = none
  | .updateBoth mark _ .fileMissing => mark.status = .FAILED
  | .updateBoth mark _ (.fileFound found) =>
      mark.status = .PROCESSING ∧ found = file ∧ sent = Batch.empty ∧ stop = none
  | .updateBoth mark _ .loopEnded =>
      mark.status = endStatus stop ∧
        sent = fileBatch ports file (linesBefore stop (ports.readLines file.storagePath))
  | .updateBoth mark _ .caught => mark.status = .FAILED
  | .readLine locals =>
      ∃ handled unread, Reads ports file sent handled unread locals ∧
        BeforeLine stop handled unread locals
  | .renewLease locals rawLine =>
      ∃ handled unread, Reads ports file sent handled unread locals ∧
        AtLine stop handled unread locals rawLine
  | .getStatus locals rawLine =>
      locals.lineNumber % CANCELLATION_CHECK_INTERVAL = 0 ∧
        ∃ handled unread, Reads ports file sent handled unread locals ∧
          AtLine stop handled unread locals rawLine
  | .scoreBatch locals batch last =>
      batch.Counted ∧ locals.pending = Batch.empty ∧
        ∃ handled unread, Reads ports file (sent.append batch) handled unread locals ∧
          AtFlush stop handled unread locals last
  | .persistBatch locals input last =>
      ∃ batch, input = scoredInput ports job batch ∧ batch.Counted ∧
        locals.pending = Batch.empty ∧
        ∃ handled unread, Reads ports file (sent.append batch) handled unread locals ∧
          AtFlush stop handled unread locals last

/-- An outcome that is not the end of the execution, with a property of the point it awaits. -/
def Outcome.Awaits (property : Point → Prop) : Outcome → Prop
  | .awaiting point => property point
  | .resolved => False
  | .rejected _ => True

section

variable {ports : Ports} {job : ClaimedJob} {file : ImportFileLocation} {sent : Batch}
  {stop : Option Nat} {handled unread : List JsString} {locals : Locals}

theorem afterFlush_tracks (now : Nat) {last : Bool}
    (reads : Reads ports file sent handled unread locals)
    (flushed : locals.pending = Batch.empty) (place : AtFlush stop handled unread locals last) :
    (afterFlush now locals last).Awaits (Tracks ports job file sent stop) := by
  cases last with
  | false => exact ⟨handled, unread, reads, place⟩
  | true =>
    obtain ⟨cancelled, allHandled⟩ := place
    have allSent :
        sent = fileBatch ports file (linesBefore stop (ports.readLines file.storagePath)) := by
      rw [reads.lines, ← allHandled, ← reads.batches, flushed, Batch.append_empty]
    unfold afterFlush
    rw [cancelled]
    cases stop <;> exact ⟨rfl, allSent⟩

theorem flush_tracks (now : Nat) {last : Bool}
    (reads : Reads ports file sent handled unread locals)
    (place : AtFlush stop handled unread locals last) :
    (flush job now locals last).Awaits (Tracks ports job file sent stop) := by
  have moved : Reads ports file (sent.append locals.pending) handled unread
      { locals with pending := Batch.empty } :=
    { provider := reads.provider
      lines := reads.lines
      batches := by rw [Batch.append_empty, reads.batches]
      counted := Batch.counted_empty }
  unfold flush
  split
  · rename_i isEmpty
    exact afterFlush_tracks now reads (Batch.eq_empty_of_isEmpty reads.counted isEmpty) place
  · simp only
    split
    · rename_i noScoring
      refine ⟨locals.pending, ?_, reads.counted, rfl, handled, unread, moved, place⟩
      rw [scoredInput, List.isEmpty_iff.mp noScoring]
      rfl
    · exact ⟨reads.counted, rfl, handled, unread, moved, place⟩

theorem Reads.of_same {other : Locals} (reads : Reads ports file sent handled unread locals)
    (sameProvider : other.fallbackProvider = locals.fallbackProvider)
    (samePending : other.pending = locals.pending) :
    Reads ports file sent handled unread other where
  provider := sameProvider.trans reads.provider
  lines := reads.lines
  batches := by rw [samePending, reads.batches]
  counted := by rw [samePending]; exact reads.counted

/-- The line an execution is at joins the current batch. -/
theorem Reads.accumulated {rawLine : JsString}
    (reads : Reads ports file sent handled unread locals)
    (place : AtLine stop handled unread locals rawLine) :
    Reads ports file sent (handled ++ [rawLine]) locals.rest
      { locals with
        pending := locals.pending.add
          (handleLine ports locals.fallbackProvider rawLine locals.lineNumber) } where
  provider := reads.provider
  lines := by rw [reads.lines, place.1, List.append_assoc]; rfl
  batches := by
    rw [← Batch.append_add, reads.batches, fileBatch_snoc, reads.provider, place.2.1]
  counted := reads.counted.add _

theorem accumulate_tracks (batchSize now : Nat) {rawLine : JsString}
    (reads : Reads ports file sent handled unread locals)
    (place : AtLine stop handled unread locals rawLine) :
    (accumulate ports batchSize job now locals rawLine).Awaits
      (Tracks ports job file sent stop) := by
  have read := reads.accumulated place
  have before : BeforeLine stop (handled ++ [rawLine]) locals.rest locals :=
    ⟨rfl, by rw [place.2.1, List.length_append, List.length_singleton], place.2.2⟩
  unfold accumulate
  split
  · rename_i blank
    rw [blank] at read
    exact ⟨_, _, read, before⟩
  · simp only
    split
    · exact flush_tracks now read before
    · exact ⟨_, _, read, before⟩

theorem checkCancellation_tracks (batchSize now : Nat) {rawLine : JsString}
    (reads : Reads ports file sent handled unread locals)
    (place : AtLine stop handled unread locals rawLine) :
    (checkCancellation ports batchSize job now locals rawLine).Awaits
      (Tracks ports job file sent stop) := by
  unfold checkCancellation
  split
  · rename_i divisible
    exact ⟨divisible, handled, unread, reads, place⟩
  · exact accumulate_tracks batchSize now reads place

theorem heartbeat_tracks (batchSize now : Nat) {rawLine : JsString}
    (reads : Reads ports file sent handled unread locals)
    (place : AtLine stop handled unread locals rawLine) :
    (heartbeat ports batchSize job now locals rawLine).Awaits
      (Tracks ports job file sent stop) := by
  unfold heartbeat
  split
  · exact ⟨handled, unread, reads, place⟩
  · exact checkCancellation_tracks batchSize now reads place

theorem caught_tracks (now : Nat) (failure : Failure) :
    (caught now failure).Awaits (Tracks ports job file sent stop) := by
  cases failure <;> trivial

theorem failed_tracks (now : Nat) (failure : Failure) (point : Point) :
    (failed now failure point).Awaits (Tracks ports job file sent stop) := by
  cases point with
  | updateBoth mark stage caller =>
    cases caller <;> first | trivial | exact caught_tracks now failure
  | findByImportId | countLines => trivial
  | readLine | renewLease | getStatus | scoreBatch | persistBatch =>
    exact caught_tracks now failure

/-- The call after which `execute` returns. -/
def Point.isLast : Point → Bool
  | .updateBoth _ .importRow (.fileFound _) => false
  | .updateBoth _ .importRow _ => true
  | _ => false

/-- A batch that has been persisted is sent. -/
theorem persistBatch_tracks (batchSize : Nat) (db : Database) (now : Nat)
    {input : PersistBatchInput} {last : Bool}
    (tracks : Tracks ports job file sent stop (.persistBatch locals input last)) :
    ∃ batch, input = scoredInput ports job batch ∧
      (succeeded ports batchSize db now job (.persistBatch locals input last)).Awaits
        (Tracks ports job file (sent.append batch) stop) := by
  obtain ⟨batch, sameInput, _, flushed, handled, unread, reading, place⟩ := tracks
  exact ⟨batch, sameInput, afterFlush_tracks now reading flushed place⟩

/-- A check that sees the cancellation leaves the loop at its line. -/
theorem getStatus_tracks (batchSize now : Nat) {db : Database} {rawLine : JsString}
    (tracks : Tracks ports job file sent stop (.getStatus locals rawLine))
    (cancelling : JobRepository.getStatus job.id db = some .CANCELLING) :
    (succeeded ports batchSize db now job (.getStatus locals rawLine)).Awaits
      (Tracks ports job file sent (some locals.lineNumber)) := by
  obtain ⟨_, handled, unread, reading, _, number, _, _⟩ := tracks
  rw [succeeded, if_pos cancelling]
  refine flush_tracks now (reading.of_same rfl rfl) ⟨rfl, ?_⟩
  rw [linesBefore, number, Nat.add_sub_cancel, List.take_left]

/-- The other successful calls leave `sent` as it is. -/
theorem succeeded_tracks (batchSize : Nat) (db : Database) (now : Nat) {point : Point}
    (tracks : Tracks ports job file sent stop point)
    (reads : point = .findByImportId →
      ∀ found, ImportFileRepository.findByImportId job.importId db = some found → found = file)
    (notPersist : ∀ locals input last, point ≠ .persistBatch locals input last)
    (notCancelling : ∀ locals rawLine, point = .getStatus locals rawLine →
      JobRepository.getStatus job.id db ≠ some .CANCELLING)
    (notLast : point.isLast = false) :
    (succeeded ports batchSize db now job point).Awaits (Tracks ports job file sent stop) := by
  cases point with
  | findByImportId =>
    simp only [succeeded]
    split
    · rfl
    · rename_i found finds
      exact ⟨reads rfl found finds, tracks⟩
  | countLines found => exact ⟨rfl, tracks⟩
  | updateBoth mark stage caller =>
    cases stage with
    | job => cases caller <;> exact tracks
    | importRow =>
      cases caller with
      | fileFound found =>
        obtain ⟨_, rfl, rfl, rfl⟩ := tracks
        exact ⟨[], _, ⟨rfl, rfl, rfl, rfl⟩, rfl, rfl, rfl, rfl⟩
      | fileMissing | loopEnded | caught => cases notLast
  | readLine locals =>
    obtain ⟨handled, unread, reading, restEq, numberEq, running, noStop⟩ := tracks
    simp only [succeeded]
    split
    · rename_i noLine
      subst noStop
      refine flush_tracks now reading ⟨running, ?_⟩
      rw [linesBefore, restEq, noLine, List.append_nil]
    · rename_i rawLine rest line
      exact heartbeat_tracks batchSize now (reading.of_same rfl rfl)
        ⟨restEq.trans line, congrArg (· + 1) numberEq, running, noStop⟩
  | renewLease locals rawLine =>
    obtain ⟨handled, unread, reading, place⟩ := tracks
    exact checkCancellation_tracks batchSize now (reading.of_same rfl rfl) place
  | getStatus locals rawLine =>
    obtain ⟨_, handled, unread, reading, place⟩ := tracks
    rw [succeeded, if_neg (notCancelling locals rawLine rfl)]
    exact accumulate_tracks batchSize now reading place
  | scoreBatch locals batch last =>
    obtain ⟨counted, flushed, handled, unread, reading, place⟩ := tracks
    exact ⟨batch, rfl, counted, flushed, handled, unread, reading, place⟩
  | persistBatch locals input last => exact absurd rfl (notPersist locals input last)

/-- The last call of an execution is the second statement of a terminal mark. -/
theorem terminal_of_isLast {point : Point} (tracks : Tracks ports job file sent stop point)
    (isLast : point.isLast = true) :
    ∃ mark caller, point = .updateBoth mark .importRow caller ∧
      mark.status.isTerminal = true := by
  cases point with
  | updateBoth mark stage caller =>
    cases stage with
    | job => cases isLast
    | importRow =>
      refine ⟨mark, caller, rfl, ?_⟩
      cases caller with
      | fileFound found => cases isLast
      | fileMissing | caught => rw [show mark.status = .FAILED from tracks]; rfl
      | loopEnded =>
        rw [tracks.1]
        cases stop <;> rfl
  | _ => cases isLast

/-- From one call to the next, `sent` stays as it is or grows by the batch whose
`persistBatch` has answered, or the execution returns after a terminal mark. -/
theorem resume_cases (batchSize : Nat) (db : Database) (now : Nat) {point : Point}
    {reply : Reply} {outcome : Outcome} (tracks : Tracks ports job file sent stop point)
    (reads : point = .findByImportId →
      ∀ found, ImportFileRepository.findByImportId job.importId db = some found → found = file)
    (resumed : resume ports batchSize db now job point reply = some outcome) :
    (∃ stop, outcome.Awaits (Tracks ports job file sent stop)) ∨
      (∃ locals last batch, reply = .ok ∧
        point = .persistBatch locals (scoredInput ports job batch) last ∧
        ∃ stop, outcome.Awaits (Tracks ports job file (sent.append batch) stop)) ∨
      (reply = .ok ∧ ∃ mark caller, point = .updateBoth mark .importRow caller ∧
        mark.status.isTerminal = true) := by
  cases reply with
  | ok =>
    obtain rfl := Option.some.inj resumed
    by_cases persists : ∃ locals input last, point = .persistBatch locals input last
    · obtain ⟨locals, input, last, rfl⟩ := persists
      obtain ⟨batch, rfl, after⟩ := persistBatch_tracks batchSize db now tracks
      exact Or.inr (Or.inl ⟨locals, last, batch, rfl, rfl, stop, after⟩)
    · by_cases cancelled : ∃ locals rawLine, point = .getStatus locals rawLine ∧
          JobRepository.getStatus job.id db = some .CANCELLING
      · obtain ⟨locals, rawLine, rfl, cancelling⟩ := cancelled
        exact Or.inl ⟨_, getStatus_tracks batchSize now tracks cancelling⟩
      · cases isLast : point.isLast with
        | true => exact Or.inr (Or.inr ⟨rfl, terminal_of_isLast tracks isLast⟩)
        | false =>
          exact Or.inl ⟨stop, succeeded_tracks batchSize db now tracks reads
            (fun locals input last same => persists ⟨locals, input, last, same⟩)
            (fun locals rawLine same sees => cancelled ⟨locals, rawLine, same, sees⟩) isLast⟩
  | fail committed failure =>
    obtain rfl := Option.some.inj resumed
    exact Or.inl ⟨stop, failed_tracks now failure point⟩
  | retry committed =>
    cases point with
    | persistBatch locals input last =>
      cases resumed
      exact Or.inl ⟨stop, tracks⟩
    | _ => cases resumed

/-- An execution that goes on is as far in its file as it was, or a batch further. -/
theorem resume_awaiting_cases (batchSize : Nat) (db : Database) (now : Nat) {point next : Point}
    {reply : Reply} (tracks : Tracks ports job file sent stop point)
    (reads : point = .findByImportId →
      ∀ found, ImportFileRepository.findByImportId job.importId db = some found → found = file)
    (resumed : resume ports batchSize db now job point reply = some (.awaiting next)) :
    (∃ stop, Tracks ports job file sent stop next) ∨
      ∃ locals last batch, reply = .ok ∧
        point = .persistBatch locals (scoredInput ports job batch) last ∧
        ∃ stop, Tracks ports job file (sent.append batch) stop next := by
  rcases resume_cases batchSize db now tracks reads resumed with
    after | further | ⟨rfl, mark, caller, rfl, terminal⟩
  · exact Or.inl after
  · exact Or.inr further
  · cases caller with
    | fileFound found =>
      rw [tracks.1] at terminal
      cases terminal
    | fileMissing | loopEnded | caught => cases resumed

end

/-! ### The calls of the loop -/

/-- The call belongs to the loop over the lines. -/
def Point.inLoop : Point → Bool
  | .readLine _ | .renewLease _ _ | .getStatus _ _ | .scoreBatch _ _ _ | .persistBatch _ _ _ => true
  | .findByImportId | .countLines _ | .updateBoth _ _ _ => false

/-- Another call of the loop is next, or the loop has ended and its mark is. -/
def Outcome.InLoop (now : Nat) : Outcome → Prop
  | .awaiting (.updateBoth mark .job .loopEnded) => mark = .completed now ∨ mark = .cancelled now
  | .awaiting point => point.inLoop = true
  | .resolved | .rejected _ => False

section

variable {ports : Ports} {job : ClaimedJob}

theorem afterFlush_inLoop (now : Nat) (locals : Locals) (last : Bool) :
    (afterFlush now locals last).InLoop now := by
  unfold afterFlush
  split
  · rfl
  · split
    · exact Or.inr rfl
    · exact Or.inl rfl

theorem flush_inLoop (now : Nat) (locals : Locals) (last : Bool) :
    (flush job now locals last).InLoop now := by
  unfold flush
  split
  · exact afterFlush_inLoop now locals last
  · simp only
    split <;> rfl

theorem accumulate_inLoop (batchSize now : Nat) (locals : Locals) (rawLine : JsString) :
    (accumulate ports batchSize job now locals rawLine).InLoop now := by
  unfold accumulate
  split
  · rfl
  · simp only
    split
    · exact flush_inLoop now _ false
    · rfl

theorem checkCancellation_inLoop (batchSize now : Nat) (locals : Locals) (rawLine : JsString) :
    (checkCancellation ports batchSize job now locals rawLine).InLoop now := by
  unfold checkCancellation
  split
  · rfl
  · exact accumulate_inLoop batchSize now locals rawLine

theorem heartbeat_inLoop (batchSize now : Nat) (locals : Locals) (rawLine : JsString) :
    (heartbeat ports batchSize job now locals rawLine).InLoop now := by
  unfold heartbeat
  split
  · rfl
  · exact checkCancellation_inLoop batchSize now locals rawLine

/-- The loop is left through its mark. -/
theorem succeeded_inLoop (batchSize : Nat) (db : Database) (now : Nat) {point : Point}
    (inLoop : point.inLoop = true) :
    (succeeded ports batchSize db now job point).InLoop now := by
  cases point with
  | readLine locals =>
    simp only [succeeded]
    split
    · exact flush_inLoop now locals true
    · exact heartbeat_inLoop batchSize now _ _
  | renewLease locals rawLine => exact checkCancellation_inLoop batchSize now _ rawLine
  | getStatus locals rawLine =>
    rw [succeeded]
    split
    · exact flush_inLoop now _ true
    · exact accumulate_inLoop batchSize now locals rawLine
  | scoreBatch => rfl
  | persistBatch locals input last => exact afterFlush_inLoop now locals last
  | findByImportId | countLines | updateBoth => cases inLoop

end

end ProcessImportFile

end ImportService
