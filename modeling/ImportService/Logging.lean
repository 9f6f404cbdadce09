/-
This file models the logger of the service, `PinoLogger`, up to what it hands to pino. A message
and the values of a context may hold texts of clients, so line breaks and tabs are written as
escapes, other control characters are dropped, and a text is cut after 200 code units.

What is logged has no control characters and a bounded length, whatever the value. The escapes lose
nothing but the dropped characters and what is cut off: the text reads back from the log, if it had
no backslash of its own (`entry_isLogged`).
-/

import ImportService.Digits
import ImportService.Json

namespace ImportService

open JsString

/-- A value that is handed to the log. An object is known by what `JSON.stringify` prints of it,
and `printed` is a value for which that is `undefined`, with the text of `String`. -/
inductive LogValue
  | undefined
  | null
  | number (value : JsNumber)
  | bool (value : Bool)
  | date (time : Option Int)
  | string (text : JsString)
  | json (value : Json)
  | printed (text : JsString)
  | unserializable

/-- The levels that are used. -/
inductive LogLevel
  | info
  | warn
  | error
  deriving DecidableEq

/-- A call of the logger. -/
structure LogLine where
  level : LogLevel
  message : JsString
  context : List (JsString × LogValue)

namespace Logging

/-- The length to which a value is cut. -/
def MAX_LOGGED_VALUE_LENGTH : Nat := 200

/-- The ranges of `buildControlCharRegex`. -/
def CONTROL_RANGES : List (UInt16 × UInt16) :=
  [(0x00, 0x08), (0x0b, 0x0c), (0x0e, 0x1f), (0x7f, 0x9f)]

/-- A control character of ASCII or Latin-1. -/
def isControlChar (unit : UInt16) : Bool :=
  CONTROL_RANGES.any fun range => range.1 ≤ unit && unit ≤ range.2

/-- `text.replace(/\r\n/g, '\\r\\n')` -/
def replaceCrLf : JsString → JsString
  | 0x0d :: 0x0a :: rest => ofString "\\r\\n" ++ replaceCrLf rest
  | unit :: rest => unit :: replaceCrLf rest
  | [] => []

/-- `text.replace` with a pattern that is one character. -/
def replaceUnit (unit : UInt16) (replacement : JsString) (text : JsString) : JsString :=
  text.flatMap fun other => if other == unit then replacement else [other]

/-- The JSON text of a value, or what is printed for one without. -/
def safeStringify (runtime : Runtime) : LogValue → JsString
  | .undefined => ofString "undefined"
  | .null => ofString "null"
  | .number value => Json.stringify runtime (.number value)
  | .bool value => Json.stringify runtime (.bool value)
  | .date (some time) => Json.quote (JsDate.toISOString time)
  | .date none => ofString "null"
  | .string text => Json.quote text
  | .json value => Json.stringify runtime value
  | .printed text => text
  | .unserializable => ofString "[unserializable]"

/-- The five replacements of `sanitizeForLog`. -/
def escaped (text : JsString) : JsString :=
  let withoutBreaks := replaceUnit 0x0d (ofString "\\r")
    (replaceUnit 0x0a (ofString "\\n") (replaceCrLf text))
  (replaceUnit 0x09 (ofString "\\t") withoutBreaks).filter fun unit => !isControlChar unit

/-- A text that is too long is cut, and its length is told. -/
def truncated (text : JsString) : JsString :=
  if MAX_LOGGED_VALUE_LENGTH < text.length then
    text.take MAX_LOGGED_VALUE_LENGTH ++ ofString "…[truncated " ++ ofNat text.length ++
      ofString " chars]"
  else text

/-- A value as one line of text. -/
def sanitizeForLog (runtime : Runtime) : LogValue → JsString
  | .null => ofString "null"
  | .undefined => ofString "undefined"
  | .string text => truncated (escaped text)
  | value => truncated (escaped (safeStringify runtime value))

/-- A number, a boolean or a date, which are logged as they are. -/
def isPlain : LogValue → Bool
  | .number _ | .bool _ | .date _ => true
  | .undefined | .null | .string _ | .json _ | .printed _ | .unserializable => false

/-- Every member is logged under its key. The source builds an object by assignment, which loses a
member under the key `__proto__`: no caller has one. -/
def sanitizeLogContext (runtime : Runtime) (context : List (JsString × LogValue)) :
    List (JsString × LogValue) :=
  context.map fun (key, value) =>
    (key, if isPlain value then value else .string (sanitizeForLog runtime value))

/-- What a call of `PinoLogger` hands to pino. -/
def entry (runtime : Runtime) (line : LogLine) : LogLine where
  level := line.level
  message := sanitizeForLog runtime (.string line.message)
  context := sanitizeLogContext runtime line.context

/-! ### One escape for each character -/

/-- What is written for one code unit. -/
def escapeUnit (unit : UInt16) : JsString :=
  if unit = 0x0a then ofString "\\n"
  else if unit = 0x0d then ofString "\\r"
  else if unit = 0x09 then ofString "\\t"
  else if isControl unit then []
  else [unit]

/-- The other control characters. -/
theorem isControlChar_iff (unit : UInt16) : isControlChar unit = true ↔
    isControl unit = true ∧ unit ≠ 0x0a ∧ unit ≠ 0x0d ∧ unit ≠ 0x09 := by
  simp only [isControlChar, CONTROL_RANGES, List.any_cons, List.any_nil, Bool.or_false,
    isControl, Bool.or_eq_true, Bool.and_eq_true, decide_eq_true_eq, UInt16.le_iff_toNat_le,
    ne_eq, ← UInt16.toNat_inj, UInt16.reduceToNat]
  omega

/-- The last four replacements on one code unit. -/
theorem escape_singleton (unit : UInt16) :
    ((replaceUnit 0x09 (ofString "\\t") (replaceUnit 0x0d (ofString "\\r")
      (replaceUnit 0x0a (ofString "\\n") [unit]))).filter fun unit => !isControlChar unit) =
      escapeUnit unit := by
  unfold escapeUnit
  split
  · rename_i isLf
    rw [isLf]
    decide
  · rename_i notLf
    split
    · rename_i isCr
      rw [isCr]
      decide
    · rename_i notCr
      split
      · rename_i isTab
        rw [isTab]
        decide
      · rename_i notTab
        have kept : isControlChar unit = isControl unit := by
          rw [Bool.eq_iff_iff, isControlChar_iff]
          exact ⟨And.left, fun control => ⟨control, notLf, notCr, notTab⟩⟩
        simp only [replaceUnit, List.flatMap_cons, List.flatMap_nil, List.append_nil, beq_iff_eq,
          notLf, notCr, notTab, if_false, List.filter_cons, List.filter_nil, kept]
        cases isControl unit <;> rfl

theorem replaceUnit_append (unit : UInt16) (replacement first second : JsString) :
    replaceUnit unit replacement (first ++ second) =
      replaceUnit unit replacement first ++ replaceUnit unit replacement second :=
  List.flatMap_append

/-- The first replacement changes nothing that the others would not change as well. -/
theorem escaped_eq (text : JsString) : escaped text = text.flatMap escapeUnit := by
  rw [escaped]
  fun_induction replaceCrLf text with
  | case1 rest inductionHypothesis =>
    simp only [replaceUnit_append, List.filter_append] at inductionHypothesis ⊢
    rw [inductionHypothesis, List.flatMap_cons, List.flatMap_cons, ← List.append_assoc]
    congr 1
  | case2 unit rest _ inductionHypothesis =>
    have step := escape_singleton unit
    rw [List.flatMap_cons, ← List.singleton_append, replaceUnit_append, replaceUnit_append,
      replaceUnit_append, List.filter_append, step]
    exact congrArg _ inductionHypothesis
  | case3 => rfl

/-! ### What is logged -/

/-- The text of a value before it is sanitised. -/
def rawText (runtime : Runtime) : LogValue → JsString
  | .string text => text
  | value => safeStringify runtime value

/-- Reading the escapes of a logged text. -/
def unescape : JsString → JsString
  | 0x5c :: 0x6e :: rest => 0x0a :: unescape rest
  | 0x5c :: 0x72 :: rest => 0x0d :: unescape rest
  | 0x5c :: 0x74 :: rest => 0x09 :: unescape rest
  | unit :: rest => unit :: unescape rest
  | [] => []

/-- What is logged of a text: it has no control characters, it is not much longer than what may be
logged, and a text without backslashes that is not cut reads back but for what is dropped. -/
structure IsLogged (raw logged : JsString) : Prop where
  clean : ∀ unit ∈ logged, isControl unit = false
  bounded : logged.length ≤ MAX_LOGGED_VALUE_LENGTH + 19 + (ofNat (escaped raw).length).length
  readsBack : 0x5c ∉ raw → (escaped raw).length ≤ MAX_LOGGED_VALUE_LENGTH →
    unescape logged = raw.filter fun unit => !isControlChar unit

theorem clean_of_all {text : JsString} (all : (text.all fun unit => !isControl unit) = true) :
    ∀ unit ∈ text, isControl unit = false := by
  intro unit member
  exact Bool.not_eq_true' _ ▸ List.all_eq_true.mp all unit member

theorem clean_escapeUnit (unit : UInt16) : ∀ other ∈ escapeUnit unit, isControl other = false := by
  unfold escapeUnit
  split
  · exact clean_of_all (by decide)
  · split
    · exact clean_of_all (by decide)
    · split
      · exact clean_of_all (by decide)
      · split
        · exact List.forall_mem_nil _
        · rename_i notControl
          intro other member
          rw [List.mem_singleton.mp member]
          exact Bool.eq_false_iff.mpr notControl

theorem clean_escaped (text : JsString) : ∀ unit ∈ escaped text, isControl unit = false := by
  rw [escaped_eq]
  intro unit member
  obtain ⟨source, _, isPart⟩ := List.mem_flatMap.mp member
  exact clean_escapeUnit source unit isPart

/-- An escape is read before anything that follows it. -/
theorem unescape_escapeUnit {unit : UInt16} (notBackslash : unit ≠ 0x5c) (rest : JsString) :
    unescape (escapeUnit unit ++ rest) =
      (if isControlChar unit then [] else [unit]) ++ unescape rest := by
  unfold escapeUnit
  split
  · rename_i isLf
    rw [isLf]
    rfl
  · rename_i notLf
    split
    · rename_i isCr
      rw [isCr]
      rfl
    · rename_i notCr
      split
      · rename_i isTab
        rw [isTab]
        rfl
      · rename_i notTab
        split
        · rename_i control
          rw [if_pos ((isControlChar_iff unit).mpr ⟨control, notLf, notCr, notTab⟩)]
          rfl
        · rename_i notControl
          rw [if_neg fun control => notControl ((isControlChar_iff unit).mp control).1]
          rw [List.singleton_append, List.singleton_append, unescape]
          · exact fun _ same _ => notBackslash same
          · exact fun _ same _ => notBackslash same
          · exact fun _ same _ => notBackslash same

theorem unescape_escaped {text : JsString} (noBackslash : 0x5c ∉ text) :
    unescape (escaped text) = text.filter fun unit => !isControlChar unit := by
  rw [escaped_eq]
  induction text with
  | nil => rfl
  | cons unit rest inductionHypothesis =>
    have notBackslash : unit ≠ 0x5c := fun same => noBackslash (same ▸ List.mem_cons_self)
    rw [List.flatMap_cons, unescape_escapeUnit notBackslash,
      inductionHypothesis fun member => noBackslash (List.mem_cons_of_mem _ member),
      List.filter_cons]
    cases isControlChar unit <;> rfl

/-- The digits of a number are no control characters. -/
theorem clean_ofNat (number : Nat) : ∀ unit ∈ ofNat number, isControl unit = false := by
  intro unit member
  have isDigit := isDigit_of_mem_ofNat member
  simp only [JsString.isDigit, isControl, Bool.and_eq_true, Bool.or_eq_false_iff,
    Bool.and_eq_false_iff, decide_eq_true_eq, decide_eq_false_iff_not,
    UInt16.le_iff_toNat_le, UInt16.reduceToNat] at isDigit ⊢
  omega

theorem isLogged_truncated (raw : JsString) : IsLogged raw (truncated (escaped raw)) := by
  unfold truncated
  split
  · rename_i isLong
    refine ⟨?_, ?_, fun _ isShort => absurd isLong (Nat.not_lt.mpr isShort)⟩
    · intro unit member
      simp only [List.mem_append] at member
      rcases member with ((inText | inNote) | inDigits) | inNote
      · exact clean_escaped raw unit (List.mem_of_mem_take inText)
      · exact clean_of_all (by decide) unit inNote
      · exact clean_ofNat _ unit inDigits
      · exact clean_of_all (by decide) unit inNote
    · have note : (ofString "…[truncated ").length = 12 := by decide
      have rest : (ofString " chars]").length = 7 := by decide
      simp only [List.length_append, List.length_take, note, rest]
      omega
  · rename_i isShort
    refine ⟨clean_escaped raw, ?_, fun noBackslash _ => unescape_escaped noBackslash⟩
    omega

theorem isLogged_sanitizeForLog (runtime : Runtime) (value : LogValue) :
    IsLogged (rawText runtime value) (sanitizeForLog runtime value) := by
  cases value with
  | undefined =>
    have unchanged : truncated (escaped (ofString "undefined")) = ofString "undefined" := by decide
    have logged := isLogged_truncated (ofString "undefined")
    rwa [unchanged] at logged
  | null =>
    have unchanged : truncated (escaped (ofString "null")) = ofString "null" := by decide
    have logged := isLogged_truncated (ofString "null")
    rwa [unchanged] at logged
  | string | number | bool | date | json | printed | unserializable =>
    exact isLogged_truncated _

/-- Whatever message and context are logged, the keys and the numbers, booleans and dates stay as
they are, and every text that reaches pino is logged safely. -/
theorem entry_isLogged (runtime : Runtime) (line : LogLine) :
    IsLogged line.message (entry runtime line).message ∧
      List.Forall₂ (fun given logged => logged.1 = given.1 ∧
          (isPlain given.2 = true → logged.2 = given.2) ∧
          (isPlain given.2 = false → ∃ text, logged.2 = .string text ∧
            IsLogged (rawText runtime given.2) text))
        line.context (entry runtime line).context := by
  refine ⟨isLogged_sanitizeForLog runtime (.string line.message), ?_⟩
  rw [entry, sanitizeLogContext, List.forall₂_map_right_iff, List.forall₂_same]
  rintro ⟨key, value⟩ _
  refine ⟨rfl, fun plain => if_pos plain, fun notPlain => ⟨_, ?_, isLogged_sanitizeForLog _ _⟩⟩
  exact if_neg (Bool.eq_false_iff.mp notPlain)

end Logging

end ImportService
