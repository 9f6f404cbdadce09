/-
This file models the two passes over an uploaded file and proves when they agree. The
first one counts lines in the bytes of the file, chunk by chunk as they are read; the
second one cuts the decoded text into the lines the parser gets.

The first pass ends a line at LF only and takes CR, space and tab for empty. The second one
also ends a line at a CR alone, and the parser takes all white space for empty. So a line
of other white space is counted and skipped later, and a line with a CR inside is counted
once and yields several; the counts agree when these two even out.

A file is a list of characters here, as its bytes are valid UTF-8.
-/

import Mathlib.Data.List.TakeWhile
import ImportService.Lib.PieceCount
import ImportService.ProcessImportFile

namespace ImportService

open PieceCount

namespace ReadlineLineReader

/-! ### Counting -/

/-- The local variables of `countLines`. -/
structure Count where
  count : Nat
  currentLineHasContent : Bool

/-- A byte of the first pass. Only LF ends a line, and CR, space and tab are no content. -/
def countByte (state : Count) (byte : UInt8) : Count :=
  if byte = 0x0a then
    { count := if state.currentLineHasContent then state.count + 1 else state.count
      currentLineHasContent := false }
  else if byte ≠ 0x0d ∧ byte ≠ 0x20 ∧ byte ≠ 0x09 then { state with currentLineHasContent := true }
  else state

/-- `countLines`, on the chunks the file is read in. -/
def countLines (chunks : List (List UInt8)) : Nat :=
  let last := chunks.foldl (fun state chunk => chunk.foldl countByte state)
    { count := 0, currentLineHasContent := false }
  if last.currentLineHasContent then last.count + 1 else last.count

/-! ### Reading -/

/-- A character in front of the first line. -/
def inFrontOf (character : Char) : List (List Char) → List (List Char)
  | [] => [[character]]
  | line :: later => (character :: line) :: later

/-- The lines of `readline` with an infinite `crlfDelay`: LF, CR LF and a CR alone end a line,
and what is left at the end of the file is a line if it is not empty. An LF right after a
CR ends no line of its own. -/
def linesFrom (sawReturn : Bool) : List Char → List (List Char)
  | [] => []
  | character :: rest =>
      if character = '\n' then
        if sawReturn then linesFrom false rest else [] :: linesFrom false rest
      else if character = '\r' then [] :: linesFrom true rest
      else inFrontOf character (linesFrom false rest)

/-- The lines of the second pass, in UTF-16. -/
def readLines (content : List Char) : List JsString :=
  (linesFrom false content).map fun line => line.flatMap JsString.encode

/-! ### The count of the bytes is one of the characters -/

/-- What ends a line for both passes. -/
def isNewline (character : Char) : Bool := character = '\n'

/-- What ends a line for the second pass alone. -/
def isReturn (character : Char) : Bool := character = '\r'

/-- What the first pass takes for content. -/
def isContent (character : Char) : Bool :=
  character ≠ '\r' && character ≠ ' ' && character ≠ '\t'

/-- What the parser takes for content: what is left of the character when white space is
stripped. -/
def isText (character : Char) : Bool := !(JsString.encode character).all JsString.isSpace

/-- The byte ends a line. -/
def byteEnds (byte : UInt8) : Bool := byte = 0x0a

/-- The byte is content. -/
def byteFills (byte : UInt8) : Bool := byte ≠ 0x0d && byte ≠ 0x20 && byte ≠ 0x09

/-- The state of the first pass in the terms of the library. -/
def Count.toScan (state : Count) : Scan where
  count := state.count
  filled := state.currentLineHasContent

theorem toScan_countByte (state : Count) (byte : UInt8) :
    (countByte state byte).toScan = state.toScan.step byteEnds byteFills byte := by
  unfold countByte Scan.step byteEnds byteFills
  by_cases isLf : byte = 0x0a
  · rw [if_pos isLf, if_pos (decide_eq_true isLf)]
    cases content : state.currentLineHasContent <;>
      simp only [Count.toScan, Scan.total, content] <;> rfl
  · have filling : (decide (byte ≠ 0x0d) && decide (byte ≠ 0x20) && decide (byte ≠ 0x09)) =
        decide (byte ≠ 0x0d ∧ byte ≠ 0x20 ∧ byte ≠ 0x09) := by
      rw [Bool.and_assoc, Bool.decide_and, Bool.decide_and]
    rw [if_neg isLf, if_neg (ne_true_of_eq_false (decide_eq_false isLf)), filling]
    by_cases isFilling : byte ≠ 0x0d ∧ byte ≠ 0x20 ∧ byte ≠ 0x09
    · rw [if_pos isFilling, decide_eq_true isFilling, Bool.or_true]
      rfl
    · rw [if_neg isFilling, decide_eq_false isFilling, Bool.or_false]

theorem toScan_foldl (state : Count) (bytes : List UInt8) :
    (bytes.foldl countByte state).toScan =
      bytes.foldl (Scan.step byteEnds byteFills) state.toScan := by
  induction bytes generalizing state with
  | nil => rfl
  | cons byte rest inductionHypothesis =>
    rw [List.foldl_cons, List.foldl_cons, inductionHypothesis, toScan_countByte]

/-- The count does not depend on where the chunks end. -/
theorem countLines_eq (chunks : List (List UInt8)) :
    countLines chunks = pieceCount byteEnds byteFills chunks.flatten := by
  rw [← total_scan, show Scan.start = Count.toScan ⟨0, false⟩ from rfl, ← toScan_foldl, countLines,
    ← List.foldl_flatten]
  split
  · rename_i content
    rw [Scan.total, Count.toScan, content]
    rfl
  · rename_i content
    rw [Scan.total, Count.toScan, Bool.eq_false_of_not_eq_true content]
    rfl

theorem foldl_step_of_fills {bytes : List UInt8} (notEmpty : bytes ≠ [])
    (fills : ∀ byte ∈ bytes, byteEnds byte = false ∧ byteFills byte = true) (scan : Scan) :
    bytes.foldl (Scan.step byteEnds byteFills) scan = { scan with filled := true } := by
  induction bytes generalizing scan with
  | nil => exact absurd rfl notEmpty
  | cons byte rest inductionHypothesis =>
    obtain ⟨noEnd, isFilling⟩ := fills byte List.mem_cons_self
    have here : scan.step byteEnds byteFills byte = { scan with filled := true } := by
      rw [Scan.step, if_neg (ne_true_of_eq_false noEnd), isFilling, Bool.or_true]
    rw [List.foldl_cons, here]
    cases rest with
    | nil => rfl
    | cons next rest =>
      exact inductionHypothesis (List.cons_ne_nil next rest)
        (fun other member => fills other (List.mem_cons_of_mem byte member)) _

/-- The bytes of a character beyond ASCII are all beyond ASCII. -/
theorem large_of_mem_utf8EncodeChar {character : Char} (large : 0x7f < character.val.toNat)
    {byte : UInt8} (member : byte ∈ String.utf8EncodeChar character) : 0x80 ≤ byte.toNat := by
  have atLeast : ∀ number : Nat, 0x80 ≤ number → number < 0x100 →
      0x80 ≤ (UInt8.ofNat number).toNat := by
    intro number isLarge below
    rwa [UInt8.toNat_ofNat_of_lt' below]
  unfold String.utf8EncodeChar at member
  rw [if_neg (Nat.not_le.mpr large)] at member
  split at member
  · simp only [List.mem_cons, List.not_mem_nil, or_false] at member
    rcases member with rfl | rfl <;> exact atLeast _ (by omega) (by omega)
  · split at member
    · simp only [List.mem_cons, List.not_mem_nil, or_false] at member
      rcases member with rfl | rfl | rfl <;> exact atLeast _ (by omega) (by omega)
    · simp only [List.mem_cons, List.not_mem_nil, or_false] at member
      rcases member with rfl | rfl | rfl | rfl <;> exact atLeast _ (by omega) (by omega)

theorem ends_fills_of_large {byte : UInt8} (large : 0x80 ≤ byte.toNat) :
    byteEnds byte = false ∧ byteFills byte = true := by
  have other : ∀ small : UInt8, small.toNat < 0x80 → byte ≠ small := by
    rintro small isSmall rfl
    omega
  simp only [byteEnds, byteFills, Bool.and_eq_true, decide_eq_true_eq, decide_eq_false_iff_not]
  exact ⟨other _ (by decide), ⟨other _ (by decide), other _ (by decide)⟩, other _ (by decide)⟩

/-- An ASCII character is its only byte. -/
theorem ofNat_eq_iff {character other : Char} (small : character.val.toNat ≤ 0x7f)
    (otherSmall : other.val.toNat ≤ 0x7f) :
    UInt8.ofNat character.val.toNat = UInt8.ofNat other.val.toNat ↔ character = other := by
  rw [← UInt8.toNat_inj, UInt8.toNat_ofNat_of_lt' (by simp only [UInt8.size]; omega),
    UInt8.toNat_ofNat_of_lt' (by simp only [UInt8.size]; omega), UInt32.toNat_inj, Char.val_inj]

/-- The bytes of a character are scanned like the character. -/
theorem foldl_utf8EncodeChar (scan : Scan) (character : Char) :
    (String.utf8EncodeChar character).foldl (Scan.step byteEnds byteFills) scan =
      scan.step isNewline isContent character := by
  by_cases small : character.val.toNat ≤ 0x7f
  · have bytes : String.utf8EncodeChar character = [UInt8.ofNat character.val.toNat] := by
      unfold String.utf8EncodeChar
      exact if_pos small
    have sameEnd : byteEnds (UInt8.ofNat character.val.toNat) = isNewline character :=
      decide_eq_decide.mpr (ofNat_eq_iff small (by decide : '\n'.val.toNat ≤ 0x7f))
    have sameFilling : byteFills (UInt8.ofNat character.val.toNat) = isContent character := by
      have differs : ∀ ascii : Char, ascii.val.toNat ≤ 0x7f →
          decide (UInt8.ofNat character.val.toNat ≠ UInt8.ofNat ascii.val.toNat) =
            decide (character ≠ ascii) :=
        fun ascii isAscii => decide_eq_decide.mpr (not_congr (ofNat_eq_iff small isAscii))
      exact congrArg₂ _ (congrArg₂ _ (differs '\r' (by decide)) (differs ' ' (by decide)))
        (differs '\t' (by decide))
    rw [bytes, List.foldl_cons, List.foldl_nil, Scan.step, Scan.step, sameEnd, sameFilling]
  · have large := Nat.not_le.mp small
    have other : ∀ ascii : Char, ascii.val.toNat ≤ 0x7f → character ≠ ascii := by
      rintro ascii isAscii rfl
      exact small isAscii
    have noEnd : isNewline character = false := decide_eq_false (other '\n' (by decide))
    have isFilling : isContent character = true := by
      simp only [isContent, Bool.and_eq_true, decide_eq_true_eq]
      exact ⟨⟨other '\r' (by decide), other ' ' (by decide)⟩, other '\t' (by decide)⟩
    rw [foldl_step_of_fills String.utf8EncodeChar_ne_nil fun byte member =>
        ends_fills_of_large (large_of_mem_utf8EncodeChar large member),
      Scan.step, if_neg (ne_true_of_eq_false noEnd), isFilling, Bool.or_true]

/-- The first pass counts the LF-terminated lines with content. -/
theorem countLines_utf8 {content : List Char} {chunks : List (List UInt8)}
    (bytes : chunks.flatten = content.flatMap String.utf8EncodeChar) :
    countLines chunks = pieceCount isNewline isContent content := by
  rw [countLines_eq, bytes, ← total_scan, ← total_scan, List.foldl_flatMap]
  simp only [foldl_utf8EncodeChar]

/-! ### The lines of the second pass -/

theorem isEmpty_trim (text : JsString) :
    (JsString.trim text).isEmpty = text.all JsString.isSpace := by
  rw [Bool.eq_iff_iff, JsString.trim, List.isEmpty_reverse, List.isEmpty_iff,
    List.dropWhile_eq_nil_iff, List.all_eq_true]
  constructor
  · intro strips unit member
    have split : text.takeWhile JsString.isSpace ++ text.dropWhile JsString.isSpace = text :=
      List.takeWhile_append_dropWhile
    rw [← split] at member
    rcases List.mem_append.mp member with before | after
    · exact List.mem_takeWhile_imp before
    · exact strips unit (List.mem_reverse.mpr after)
  · intro all unit member
    exact all unit ((List.dropWhile_sublist JsString.isSpace).mem (List.mem_reverse.mp member))

/-- A line is blank when its characters are white space. -/
theorem any_isText (line : List Char) :
    line.any isText = !(JsString.trim (line.flatMap JsString.encode)).isEmpty := by
  rw [isEmpty_trim, List.all_flatMap, List.not_all_eq_any_not]
  rfl

theorem headD_inFrontOf (character : Char) (lines : List (List Char)) :
    (inFrontOf character lines).headD [] = character :: lines.headD [] := by
  cases lines <;> rfl

theorem countP_inFrontOf (character : Char) (lines : List (List Char)) :
    (inFrontOf character lines).countP (fun line => line.any isText) +
        ((lines.headD []).any isText).toNat =
      lines.countP (fun line => line.any isText) +
        ((character :: lines.headD []).any isText).toNat := by
  cases lines with
  | nil =>
    rw [inFrontOf, countP_cons_toNat]
    rfl
  | cons line later =>
    rw [inFrontOf, countP_cons_toNat, countP_cons_toNat]
    simp only [List.headD_cons]
    omega

/-- The first line is the first piece. -/
theorem headD_linesFrom (content : List Char) :
    (linesFrom false content).headD [] =
      (content.splitOnP (either isNewline isReturn)).headD [] := by
  induction content with
  | nil => rfl
  | cons character rest inductionHypothesis =>
    obtain ⟨first, later, pieces⟩ := exists_splitOnP (either isNewline isReturn) rest
    rw [pieces, List.headD_cons] at inductionHypothesis
    rw [linesFrom]
    by_cases newline : character = '\n'
    · have ends : either isNewline isReturn character = true := by rw [newline]; rfl
      rw [if_pos newline, if_neg Bool.false_ne_true, splitOnP_cons_of_ends ends]
      rfl
    · rw [if_neg newline]
      by_cases isCr : character = '\r'
      · have ends : either isNewline isReturn character = true := by rw [isCr]; rfl
        rw [if_pos isCr, splitOnP_cons_of_ends ends]
        rfl
      · have noEnd : either isNewline isReturn character = false := by
          rw [either, isNewline, isReturn, decide_eq_false newline, decide_eq_false isCr]
          rfl
        rw [if_neg isCr, headD_inFrontOf, inductionHypothesis,
          splitOnP_cons_of_not_ends noEnd pieces, List.headD_cons]

/-- The lines that are read hold text where the pieces between LF and CR do. -/
theorem countP_linesFrom (sawReturn : Bool) (content : List Char) :
    (linesFrom sawReturn content).countP (fun line => line.any isText) =
      pieceCount (either isNewline isReturn) isText content := by
  induction content generalizing sawReturn with
  | nil => rfl
  | cons character rest inductionHypothesis =>
    obtain ⟨first, later, pieces⟩ := exists_splitOnP (either isNewline isReturn) rest
    -- a piece that ends at once holds no text
    have emptyPiece : ∀ lines : List (List Char),
        ([] :: lines).countP (fun line => line.any isText) =
          lines.countP fun line => line.any isText :=
      fun lines => countP_cons_toNat _ [] lines
    rw [linesFrom, pieceCount]
    by_cases newline : character = '\n'
    · have ends : either isNewline isReturn character = true := by rw [newline]; rfl
      rw [if_pos newline, splitOnP_cons_of_ends ends, emptyPiece]
      cases sawReturn with
      | true => exact inductionHypothesis false
      | false =>
        rw [if_neg Bool.false_ne_true, emptyPiece]
        exact inductionHypothesis false
    · rw [if_neg newline]
      by_cases isCr : character = '\r'
      · have ends : either isNewline isReturn character = true := by rw [isCr]; rfl
        rw [if_pos isCr, splitOnP_cons_of_ends ends, emptyPiece, emptyPiece]
        exact inductionHypothesis true
      · have noEnd : either isNewline isReturn character = false := by
          rw [either, isNewline, isReturn, decide_eq_false newline, decide_eq_false isCr]
          rfl
        have counted := inductionHypothesis false
        have inFront := countP_inFrontOf character (linesFrom false rest)
        rw [headD_linesFrom, pieces, List.headD_cons, counted, pieceCount, pieces,
          countP_cons_toNat] at inFront
        rw [if_neg isCr, splitOnP_cons_of_not_ends noEnd pieces, countP_cons_toNat]
        omega

/-! ### Lines the parser does not skip -/

/-- The parser skips the line. -/
def isBlank : LineParseResult → Bool
  | .blank => true
  | .valid _ _ | .rejected _ _ _ _ => false

theorem isBlank_parseNdjsonLine (runtime : Runtime) (rawLine : JsString) (lineNumber : Nat) :
    isBlank (parseNdjsonLine runtime rawLine lineNumber) = (JsString.trim rawLine).isEmpty := by
  unfold parseNdjsonLine
  simp only
  cases (JsString.trim rawLine).isEmpty with
  | true => rfl
  | false =>
    rw [if_neg Bool.false_ne_true]
    split
    · rfl
    · split <;> rfl

/-- The number of lines the parser does not call blank. -/
def recordCount (runtime : Runtime) (rawLines : List JsString) : Nat :=
  (rawLines.zipIdx 1).countP fun numbered =>
    !isBlank (parseNdjsonLine runtime numbered.1 numbered.2)

theorem recordCount_eq (runtime : Runtime) (rawLines : List JsString) :
    recordCount runtime rawLines =
      rawLines.countP fun rawLine => !(JsString.trim rawLine).isEmpty := by
  simp only [recordCount, isBlank_parseNdjsonLine]
  conv_rhs => rw [← List.zipIdx_map_fst 1 rawLines, List.countP_map]
  rfl

theorem recordCount_readLines (runtime : Runtime) (content : List Char) :
    recordCount runtime (readLines content) =
      pieceCount (either isNewline isReturn) isText content := by
  rw [recordCount_eq, readLines, List.countP_map, ← countP_linesFrom false]
  simp only [Function.comp_def, any_isText]

/-- The LF-terminated lines of nothing but white space of which some is not CR, space or tab. -/
def skippedLines (content : List Char) : Nat := idleCount isNewline isText isContent content

/-- The lines that CRs alone cut off within the LF-terminated lines, on top of the first of
each. Lines of white space are left out. -/
def surplusLines (content : List Char) : Nat := surplus isNewline isReturn isText content

/-- The two passes agree exactly when the lines that are counted and skipped later are as many
as those that are read and were not counted. -/
theorem countLines_eq_recordCount_iff (runtime : Runtime) {content : List Char}
    {chunks : List (List UInt8)}
    (bytes : chunks.flatten = content.flatMap String.utf8EncodeChar) :
    countLines chunks = recordCount runtime (readLines content) ↔
      skippedLines content = surplusLines content := by
  have covers : ∀ character, isText character = true → isContent character = true := by
    intro character text
    simp only [isContent, Bool.and_eq_true, decide_eq_true_eq]
    refine ⟨⟨?_, ?_⟩, ?_⟩ <;> rintro rfl <;> exact absurd text (by decide)
  have noEnd : ∀ character, isReturn character = true → isText character = false := by
    intro character isCr
    rw [of_decide_eq_true isCr]
    rfl
  rw [countLines_utf8 bytes, recordCount_readLines, skippedLines, surplusLines]
  exact pieceCount_eq_iff noEnd covers content

end ReadlineLineReader

end ImportService
