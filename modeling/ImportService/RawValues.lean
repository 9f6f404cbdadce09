/-
This file proves which rejected lines can be stored. What is kept of a rejected line is
cut to a length: 200 code units of the line itself where the parser rejects it, 2000 of
its JSON text where the validator does. The column is JSONB, which takes neither U+0000
nor an unpaired surrogate.

A line is decoded from UTF-8, so its surrogates are paired, and JSON text escapes control
characters and unpaired surrogates. What is left is a cut inside of a pair, and the
control characters of a line that is stored as it came, of which only white space is
stripped.

The message beside it goes to a `TEXT` column, which takes no U+0000 either. The messages of
the parser and of the validator have none (`isText_message_iff`); that of `JSON.parse` is the
runtime's own, and it may quote the line.
-/

import ImportService.Lib.Paired
import ImportService.StoredRecords

namespace ImportService

open Paired

/-! ### Well-formed UTF-16 -/

namespace JsString

/-- Every surrogate of the text is half of a pair. -/
def isWellFormed (text : JsString) : Bool := isPaired isHighSurrogate isLowSurrogate text

/-- The strings a JSONB column takes. -/
structure IsJsonb (text : JsString) : Prop where
  wellFormed : isWellFormed text = true
  noNul : 0 ∉ text

/-- Printable ASCII. -/
def isPrintable (unit : UInt16) : Bool := 0x20 ≤ unit && unit < 0x7f

theorem isLowSurrogate_of_isHighSurrogate (unit : UInt16) (high : isHighSurrogate unit = true) :
    isLowSurrogate unit = false := by
  simp only [isHighSurrogate, isLowSurrogate, Bool.and_eq_true, decide_eq_true_eq,
    Bool.and_eq_false_iff, decide_eq_false_iff_not, UInt16.le_iff_toNat_le] at high ⊢
  simp only [UInt16.reduceToNat] at high ⊢
  omega

theorem isPlain_of_isSpace (unit : UInt16) (space : isSpace unit = true) :
    isPlain isHighSurrogate isLowSurrogate unit = true := by
  rw [isPlain_iff]
  simp only [isSpace, Bool.or_eq_true, Bool.and_eq_true, decide_eq_true_eq, beq_iff_eq,
    UInt16.le_iff_toNat_le, ← UInt16.toNat_inj, UInt16.reduceToNat] at space
  omega

theorem isPlain_of_isPrintable {unit : UInt16} (printable : isPrintable unit = true) :
    isPlain isHighSurrogate isLowSurrogate unit = true := by
  rw [isPlain_iff]
  simp only [isPrintable, Bool.and_eq_true, decide_eq_true_eq, UInt16.le_iff_toNat_le,
    UInt16.lt_iff_toNat_lt, UInt16.reduceToNat] at printable
  omega

theorem ne_zero_of_isPrintable {unit : UInt16} (printable : isPrintable unit = true) :
    0 ≠ unit := by
  rintro rfl
  cases printable

/-- The code units of a character are well formed: no character is a surrogate. -/
theorem isWellFormed_encode (character : Char) : isWellFormed (encode character) = true := by
  have scalar : character.toNat < 0xd800 ∨ 0xdfff < character.toNat ∧ character.toNat < 0x110000 :=
    character.valid
  unfold encode
  extract_lets
  split
  · rename_i small
    refine isPaired_of_isPlain fun unit member => ?_
    rw [List.mem_singleton] at member
    rw [member, isPlain_iff, UInt16.toNat_ofNat_of_lt' small]
    omega
  · have high : 0xd800 + (character.toNat - 0x10000) / 0x400 < UInt16.size := by
      simp only [UInt16.size]
      omega
    have low : 0xdc00 + (character.toNat - 0x10000) % 0x400 < UInt16.size := by
      simp only [UInt16.size]
      omega
    have opens : isHighSurrogate
        (UInt16.ofNat (0xd800 + (character.toNat - 0x10000) / 0x400)) = true := by
      simp only [isHighSurrogate, Bool.and_eq_true, decide_eq_true_eq, UInt16.le_iff_toNat_le,
        UInt16.toNat_ofNat_of_lt' high, UInt16.reduceToNat]
      omega
    have closes : isLowSurrogate
        (UInt16.ofNat (0xdc00 + (character.toNat - 0x10000) % 0x400)) = true := by
      simp only [isLowSurrogate, Bool.and_eq_true, decide_eq_true_eq, UInt16.le_iff_toNat_le,
        UInt16.toNat_ofNat_of_lt' low, UInt16.reduceToNat]
      omega
    rw [isWellFormed, isPaired, if_pos opens, closes]
    rfl

theorem isWellFormed_flatMap_encode (line : List Char) :
    isWellFormed (line.flatMap encode) = true :=
  isPaired_flatMap isLowSurrogate_of_isHighSurrogate encode line
    fun character _ => isWellFormed_encode character

theorem isWellFormed_trim {text : JsString} (wellFormed : isWellFormed text = true) :
    isWellFormed (trim text) = true :=
  isPaired_rdropWhile isPlain_of_isSpace
    (isPaired_dropWhile isLowSurrogate_of_isHighSurrogate isPlain_of_isSpace wellFormed)

/-! ### Strings for a JSONB column -/

theorem isJsonb_of_isPrintable {text : JsString} (printable : text.all isPrintable = true) :
    IsJsonb text where
  wellFormed := isPaired_of_isPlain fun unit member =>
    isPlain_of_isPrintable (List.all_eq_true.mp printable unit member)
  noNul := fun member => ne_zero_of_isPrintable (List.all_eq_true.mp printable 0 member) rfl

theorem IsJsonb.append {first second : JsString} (firstJsonb : IsJsonb first)
    (secondJsonb : IsJsonb second) : IsJsonb (first ++ second) where
  wellFormed := by
    rw [isWellFormed, isPaired_append_of_isPaired isLowSurrogate_of_isHighSurrogate
      firstJsonb.wellFormed]
    exact secondJsonb.wellFormed
  noNul := fun member =>
    (List.mem_append.mp member).elim firstJsonb.noNul secondJsonb.noNul

/-- The cut to a length falls inside of a pair. -/
def CutsPair (text : JsString) (length : Nat) : Prop :=
  ∃ unit ∈ (text.take length).getLast?, isHighSurrogate unit = true

theorem isJsonb_take_iff {text : JsString} (wellFormed : isWellFormed text = true)
    (length : Nat) :
    IsJsonb (text.take length) ↔ 0 ∉ text.take length ∧ ¬ CutsPair text length := by
  have uncut : isWellFormed (text.take length) = true ↔ ¬ CutsPair text length := by
    rw [isWellFormed, isPaired_take_iff isLowSurrogate_of_isHighSurrogate wellFormed]
    simp only [CutsPair, not_exists, not_and, Bool.not_eq_true]
  constructor
  · exact fun jsonb => ⟨jsonb.noNul, uncut.mp jsonb.wellFormed⟩
  · exact fun ⟨noNul, notCut⟩ => ⟨uncut.mpr notCut, noNul⟩

end JsString

/-! ### JSON text -/

/-- A finite number prints as digits, with a sign, a point and an exponent. -/
def Runtime.PrintsNumbers (runtime : Runtime) : Prop :=
  ∀ value, ∀ unit ∈ runtime.numberToString value, JsString.isPrintable unit = true

namespace Json

open JsString

theorem isPrintable_hexDigit {value : Nat} (digit : value < 16) :
    isPrintable (hexDigit value) = true := by
  have all : ∀ value < 16, isPrintable (hexDigit value) = true := by decide
  exact all value digit

theorem isPrintable_unicodeEscape (unit : UInt16) :
    (unicodeEscape unit).all isPrintable = true := by
  refine List.all_eq_true.mpr fun other member => ?_
  have bounded : unit.toNat < 65536 := unit.toNat_lt
  simp only [unicodeEscape, List.mem_cons, List.not_mem_nil, or_false] at member
  rcases member with rfl | rfl | rfl | rfl | rfl | rfl
  · rfl
  · rfl
  · exact isPrintable_hexDigit (by omega)
  · exact isPrintable_hexDigit (by omega)
  · exact isPrintable_hexDigit (by omega)
  · exact isPrintable_hexDigit (by omega)

/-- A unit stays as it is, or its escape is in printable characters. -/
theorem quoteUnit_cases (unit : UInt16) :
    (quoteUnit unit).all isPrintable = true ∨
      quoteUnit unit = [unit] ∧ ¬ unit < 0x20 := by
  unfold quoteUnit
  split
  · rename_i quoted
    rw [Bool.or_eq_true, decide_eq_true_eq, decide_eq_true_eq] at quoted
    refine Or.inl ?_
    rcases quoted with rfl | rfl <;> decide
  · split
    · exact Or.inl (by decide)
    · split
      · exact Or.inl (by decide)
      · split
        · exact Or.inl (by decide)
        · split
          · exact Or.inl (by decide)
          · split
            · exact Or.inl (by decide)
            · split
              · exact Or.inl (isPrintable_unicodeEscape unit)
              · rename_i noControl
                exact Or.inr ⟨rfl, noControl⟩

theorem isJsonb_quoteUnit {unit : UInt16}
    (notSurrogate : ¬ (isHighSurrogate unit || isLowSurrogate unit) = true) :
    IsJsonb (quoteUnit unit) := by
  rcases quoteUnit_cases unit with printable | ⟨same, noControl⟩
  · exact isJsonb_of_isPrintable printable
  · have plain : isPlain isHighSurrogate isLowSurrogate unit = true := by
      rwa [isPlain, ← Bool.not_or, Bool.not_eq_true', ← Bool.not_eq_true]
    rw [same]
    constructor
    · exact isPaired_of_isPlain fun other member => by rwa [List.mem_singleton.mp member]
    · intro isNul
      rw [← List.mem_singleton.mp isNul] at noControl
      exact noControl (by decide)

theorem isJsonb_pair {unit next : UInt16}
    (pair : (isHighSurrogate unit && isLowSurrogate next) = true) : IsJsonb [unit, next] := by
  rw [Bool.and_eq_true] at pair
  constructor
  · rw [isWellFormed, isPaired, if_pos pair.1, pair.2]
    rfl
  · intro member
    simp only [List.mem_cons, List.not_mem_nil, or_false] at member
    rcases member with rfl | rfl
    · cases pair.1
    · cases pair.2

theorem isJsonb_quoteUnits (text : JsString) : IsJsonb (quoteUnits text) := by
  fun_induction quoteUnits text with
  | case1 => exact isJsonb_of_isPrintable rfl
  | case2 unit surrogate => exact isJsonb_of_isPrintable (isPrintable_unicodeEscape unit)
  | case3 unit notSurrogate => exact isJsonb_quoteUnit notSurrogate
  | case4 unit next rest pair inductionHypothesis =>
    exact (isJsonb_pair pair).append inductionHypothesis
  | case5 unit next rest _ surrogate inductionHypothesis =>
    exact (isJsonb_of_isPrintable (isPrintable_unicodeEscape unit)).append inductionHypothesis
  | case6 unit next rest _ notSurrogate inductionHypothesis =>
    exact (isJsonb_quoteUnit notSurrogate).append inductionHypothesis

theorem isJsonb_quote (text : JsString) : IsJsonb (quote text) := by
  have mark : IsJsonb [0x22] := isJsonb_of_isPrintable (by decide)
  exact (mark.append (isJsonb_quoteUnits text)).append mark

theorem isJsonb_joined {separator : JsString} (separates : IsJsonb separator)
    (texts : List JsString) (jsonb : ∀ text ∈ texts, IsJsonb text) :
    IsJsonb (joined separator texts) := by
  fun_induction joined separator texts with
  | case1 => exact isJsonb_of_isPrintable rfl
  | case2 text => exact jsonb text List.mem_cons_self
  | case3 text rest _ inductionHypothesis =>
    exact ((jsonb text List.mem_cons_self).append separates).append
      (inductionHypothesis fun other member => jsonb other (List.mem_cons_of_mem text member))

theorem mem_enumerated {Value : Type} {members : List (JsString × Value)}
    {member : JsString × Value} (listed : member ∈ enumerated members) : member ∈ members := by
  rcases List.mem_append.mp listed with index | other
  · exact List.mem_of_mem_filter (List.mem_mergeSort.mp index)
  · exact List.mem_of_mem_filter other

section

variable {runtime : Runtime}

mutual

/-- The JSON text of every value, also of one whose strings no column would take. -/
theorem isJsonb_stringify (prints : runtime.PrintsNumbers) (data : Json) :
    IsJsonb (stringify runtime data) := by
  match data with
  | .null | .number (.infinite _) | .number .nan =>
    have printable : (ofString "null").all isPrintable = true := by decide
    exact isJsonb_of_isPrintable printable
  | .bool true =>
    have printable : (ofString "true").all isPrintable = true := by decide
    exact isJsonb_of_isPrintable printable
  | .bool false =>
    have printable : (ofString "false").all isPrintable = true := by decide
    exact isJsonb_of_isPrintable printable
  | .number (.finite value) => exact isJsonb_of_isPrintable (List.all_eq_true.mpr (prints value))
  | .string value => exact isJsonb_quote value
  | .array items =>
    have opening : IsJsonb (ofString "[") := isJsonb_of_isPrintable (by decide)
    have closing : IsJsonb (ofString "]") := isJsonb_of_isPrintable (by decide)
    have separator : IsJsonb (ofString ",") := isJsonb_of_isPrintable (by decide)
    rw [stringify]
    exact (opening.append (isJsonb_joined separator _ (isJsonb_itemTexts prints items))).append
      closing
  | .object members =>
    have opening : IsJsonb (ofString "\x7b") := isJsonb_of_isPrintable (by decide)
    have closing : IsJsonb (ofString "\x7d") := isJsonb_of_isPrintable (by decide)
    have separator : IsJsonb (ofString ",") := isJsonb_of_isPrintable (by decide)
    have colon : IsJsonb (ofString ":") := isJsonb_of_isPrintable (by decide)
    rw [stringify]
    refine (opening.append (isJsonb_joined separator _ fun text listed => ?_)).append closing
    obtain ⟨member, isMember, rfl⟩ := List.mem_map.mp listed
    exact ((isJsonb_quote member.1).append colon).append
      (isJsonb_memberTexts prints members member (mem_enumerated isMember))

theorem isJsonb_itemTexts (prints : runtime.PrintsNumbers) (items : List Json) :
    ∀ text ∈ itemTexts runtime items, IsJsonb text := by
  match items with
  | [] => exact fun _ member => nomatch member
  | item :: rest =>
    intro text member
    rw [itemTexts] at member
    rcases List.mem_cons.mp member with rfl | later
    · exact isJsonb_stringify prints item
    · exact isJsonb_itemTexts prints rest text later

theorem isJsonb_memberTexts (prints : runtime.PrintsNumbers) (members : List (JsString × Json)) :
    ∀ member ∈ memberTexts runtime members, IsJsonb member.2 := by
  match members with
  | [] => exact fun _ member => nomatch member
  | (name, value) :: rest =>
    intro member isMember
    rw [memberTexts] at isMember
    rcases List.mem_cons.mp isMember with rfl | later
    · exact isJsonb_stringify prints value
    · exact isJsonb_memberTexts prints rest member later

end

end

end Json

/-! ### Rejected lines -/

/-- The columns of the rejected records take the record. -/
structure RejectedRecordInput.Storable (record : RejectedRecordInput) : Prop where
  message : Column.IsText record.message
  rawValueTruncated : record.rawValueTruncated.IsJsonb

namespace ProcessImportFile

open JsString

/-- The JSON value the parser reads on a line, if there is one. -/
def readJson (rawLine : JsString) : Option Json :=
  if MAX_LINE_BYTES < byteLength (trim rawLine) then none else Json.parse (trim rawLine)

/-- A line that is not blank is rejected with its first units, or read as its value. -/
theorem parseNdjsonLine_cases (runtime : Runtime) (rawLine : JsString) (lineNumber : Nat) :
    parseNdjsonLine runtime rawLine lineNumber = .blank ∨
      (readJson rawLine = none ∧ ∃ errorCode message,
        parseNdjsonLine runtime rawLine lineNumber =
          .rejected lineNumber errorCode message ((trim rawLine).take 200)) ∨
      ∃ data, readJson rawLine = some data ∧
        parseNdjsonLine runtime rawLine lineNumber = .valid lineNumber data := by
  unfold parseNdjsonLine readJson
  simp only
  split
  · exact Or.inl rfl
  · split
    · exact Or.inr (Or.inl ⟨rfl, _, _, rfl⟩)
    · cases Json.parse (trim rawLine) with
      | none => exact Or.inr (Or.inl ⟨rfl, _, _, rfl⟩)
      | some data => exact Or.inr (Or.inr ⟨data, rfl, rfl⟩)

/-- What is stored of a rejected line: the line itself, unless there was a value on it to
serialise. -/
theorem rawValue_of_rejected {ports : Ports} {fallbackProvider rawLine : JsString}
    {lineNumber : Nat} {record : RejectedRecordInput}
    (rejects : handleLine ports fallbackProvider rawLine lineNumber = .rejected record) :
    record.rawValueTruncated =
      match readJson rawLine with
      | none => (trim rawLine).take 200
      | some data => (Json.stringify ports.runtime data).take RAW_VALUE_CAP := by
  rw [handleLine] at rejects
  rcases parseNdjsonLine_cases ports.runtime rawLine lineNumber with
    blank | ⟨unread, errorCode, message, rejected⟩ | ⟨data, read, valid⟩
  · rw [blank] at rejects
    cases rejects
  · rw [rejected] at rejects
    cases rejects
    rw [unread]
    exact (List.take_take).trans rfl
  · rw [valid] at rejects
    simp only at rejects
    rw [read]
    split at rejects
    · cases rejects
      rfl
    · cases rejects

/-- Where the cut to a length spoils nothing: of a line that is stored as it came, the units kept
contain no U+0000 and do not end inside of a pair, nor do those kept of a JSON text. -/
def CutsCleanly (runtime : Runtime) (rawLine : JsString) : Prop :=
  match readJson rawLine with
  | none => 0 ∉ (trim rawLine).take 200 ∧ ¬ CutsPair (trim rawLine) 200
  | some data => ¬ CutsPair (Json.stringify runtime data) RAW_VALUE_CAP

/-- Of every line that is rejected, what is kept can be stored exactly when the cut spoils
nothing. -/
theorem rejected_storable_iff (ports : Ports) (prints : ports.runtime.PrintsNumbers)
    (fallbackProvider : JsString) (line : List Char) (lineNumber : Nat)
    (record : RejectedRecordInput)
    (rejects : handleLine ports fallbackProvider (line.flatMap encode) lineNumber =
      .rejected record) :
    record.rawValueTruncated.IsJsonb ↔ CutsCleanly ports.runtime (line.flatMap encode) := by
  rw [rawValue_of_rejected rejects, CutsCleanly]
  cases readJson (line.flatMap encode) with
  | none =>
    exact isJsonb_take_iff (isWellFormed_trim (isWellFormed_flatMap_encode line)) 200
  | some data =>
    have whole := Json.isJsonb_stringify prints data
    show IsJsonb ((Json.stringify ports.runtime data).take RAW_VALUE_CAP) ↔ _
    rw [isJsonb_take_iff whole.wellFormed]
    exact and_iff_right fun member => whole.noNul (List.mem_of_mem_take member)

/-! ### Messages -/

theorem eq_error_of_bind {Error Middle Result : Type} {first : Except Error Middle}
    {rest : Middle → Except Error Result} {failure : Error}
    (fails : (first >>= rest) = .error failure) :
    first = .error failure ∨ ∃ middle, rest middle = .error failure := by
  cases first with
  | error error =>
    cases fails
    exact Or.inl rfl
  | ok middle => exact Or.inr ⟨middle, fails⟩

theorem message_of_requiredString {members : List (JsString × Json)} {field : String}
    {failure : ValidationFailure} (fails : requiredString members field = .error failure) :
    failure.message = field ++ " is required." := by
  unfold requiredString fail at fails
  split at fails <;> cases fails
  rfl

theorem message_of_requiredValue {members : List (JsString × Json)} {field : String}
    {failure : ValidationFailure} (fails : requiredValue members field = .error failure) :
    failure.message = field ++ " is required." := by
  unfold requiredValue fail at fails
  split at fails <;> cases fails <;> rfl

theorem isPrintable_message_of_description {members : List (JsString × Json)}
    {failure : ValidationFailure} (fails : validateDescription members = .error failure) :
    (ofString failure.message).all isPrintable = true := by
  unfold validateDescription fail at fails
  split at fails
  · cases fails
  · cases fails
  · simp only at fails
    split at fails
    · cases fails
      decide
    · cases fails
  · cases fails
    decide

/-- The messages of the validator are texts of the source: none quotes the record. -/
theorem isPrintable_message {runtime : Runtime} {raw : Json} {fallbackProvider : JsString}
    {failure : ValidationFailure}
    (fails : validateTransaction runtime raw fallbackProvider = .error failure) :
    (ofString failure.message).all isPrintable = true := by
  have is (text : String) (same : failure.message = text)
      (printable : (ofString text).all isPrintable = true) :
      (ofString failure.message).all isPrintable = true := same ▸ printable
  unfold validateTransaction at fails
  split at fails
  · rcases eq_error_of_bind fails with missing | ⟨_, fails⟩
    · exact is _ (message_of_requiredString missing) (by decide)
    rcases eq_error_of_bind fails with missing | ⟨_, fails⟩
    · exact is _ (message_of_requiredString missing) (by decide)
    rcases eq_error_of_bind fails with missing | ⟨_, fails⟩
    · exact is _ (message_of_requiredString missing) (by decide)
    rcases eq_error_of_bind fails with missing | ⟨rawAmount, fails⟩
    · exact is _ (message_of_requiredValue missing) (by decide)
    split at fails
    · rcases eq_error_of_bind fails with amount | ⟨_, fails⟩
      · cases amount
      rcases eq_error_of_bind fails with missing | ⟨rawCurrency, fails⟩
      · exact is _ (message_of_requiredString missing) (by decide)
      split at fails
      · cases fails
        exact is _ rfl (by decide)
      rcases eq_error_of_bind fails with missing | ⟨rawTimestamp, fails⟩
      · exact is _ (message_of_requiredValue missing) (by decide)
      split at fails
      · rcases eq_error_of_bind fails with timestamp | ⟨_, fails⟩
        · cases timestamp
        rcases eq_error_of_bind fails with noDescription | ⟨_, fails⟩
        · exact isPrintable_message_of_description noDescription
        · cases fails
      · cases fails
        exact is _ rfl (by decide)
    · cases fails
      exact is _ rfl (by decide)
  · cases fails
    exact is _ rfl (by decide)

/-- What `JSON.parse` says about a line that is no JSON has no U+0000. -/
def ParserMessageFits (runtime : Runtime) (rawLine : JsString) : Prop :=
  byteLength (trim rawLine) ≤ MAX_LINE_BYTES → Json.parse (trim rawLine) = none →
    Column.IsText (runtime.syntaxErrorMessage (trim rawLine))

/-- Of every line that is rejected, the message can be stored unless it is the runtime's own and
has a U+0000. -/
theorem isText_message_iff {ports : Ports} {fallbackProvider rawLine : JsString}
    {lineNumber : Nat} {record : RejectedRecordInput}
    (rejects : handleLine ports fallbackProvider rawLine lineNumber = .rejected record) :
    Column.IsText record.message ↔ ParserMessageFits ports.runtime rawLine := by
  have noNul {text : JsString} (printable : text.all isPrintable = true) : Column.IsText text :=
    (isJsonb_of_isPrintable printable).noNul
  unfold handleLine parseNdjsonLine at rejects
  simp only at rejects
  unfold ParserMessageFits
  by_cases isEmpty : (trim rawLine).isEmpty = true
  · rw [if_pos isEmpty] at rejects
    cases rejects
  rw [if_neg isEmpty] at rejects
  by_cases tooLong : MAX_LINE_BYTES < byteLength (trim rawLine)
  · rw [if_pos tooLong] at rejects
    cases rejects
    have printable : (ofString "Line exceeds the " ++ ofNat MAX_LINE_BYTES ++
        ofString "-byte limit.").all isPrintable = true := by decide
    exact iff_of_true (noNul printable) fun short => absurd tooLong (Nat.not_lt.mpr short)
  rw [if_neg tooLong] at rejects
  cases read : Json.parse (trim rawLine) with
  | none =>
    rw [read] at rejects
    cases rejects
    exact ⟨fun isText _ _ => isText, fun fits => fits (Nat.not_lt.mp tooLong) rfl⟩
  | some data =>
    rw [read] at rejects
    simp only at rejects
    split at rejects
    · rename_i failure fails
      cases rejects
      exact iff_of_true (noNul (isPrintable_message fails)) fun _ noValue => by cases noValue
    · cases rejects

/-- A line that is a single NUL. -/
def nulLine : List Char := [Char.ofNat 0]

/-- The parser strips no NUL and keeps the line as it came. -/
theorem nulLine_rejected :
    handleLine System.emptyFilePorts [] (nulLine.flatMap encode) 1 =
      .rejected
        { lineNumber := 1, errorCode := .line .INVALID_JSON, message := [0],
          rawValueTruncated := [0] } := by
  decide +kernel

theorem rejected_storable_iff_nulLine :
    IsJsonb [0] ↔ CutsCleanly System.emptyFilePorts.runtime (nulLine.flatMap encode) :=
  rejected_storable_iff System.emptyFilePorts (fun _ _ member => nomatch member) [] nulLine 1 _
    nulLine_rejected

/-- A line of one NUL is rejected, and what is kept of it cannot be stored. -/
theorem nulLine_not_storable :
    ∃ record, handleLine System.emptyFilePorts [] (nulLine.flatMap encode) 1 = .rejected record ∧
      ¬ record.rawValueTruncated.IsJsonb :=
  ⟨_, nulLine_rejected, fun jsonb => jsonb.noNul List.mem_cons_self⟩

end ProcessImportFile

end ImportService
