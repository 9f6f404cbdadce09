/-
This file models the JavaScript strings the service handles: sequences of UTF-16
code units, with the built-in operations the code applies to them. Lines of an
upload arrive as such strings, and lengths, slices and comparisons all count code
units, so a character outside the basic plane counts twice and can be cut in half.
-/

import ImportService.Lib.Paired

namespace ImportService

/-- A JavaScript string: its UTF-16 code units. -/
abbrev JsString := List UInt16

namespace JsString

/-- The code units of one character. -/
def encode (character : Char) : JsString :=
  let scalar := character.toNat
  if scalar < 0x10000 then [UInt16.ofNat scalar]
  else
    [UInt16.ofNat (0xd800 + (scalar - 0x10000) / 0x400),
      UInt16.ofNat (0xdc00 + (scalar - 0x10000) % 0x400)]

/-- A string literal of the source. -/
def ofString (text : String) : JsString := text.toList.flatMap encode

/-! ### Character classes -/

/-- White space and line terminators, as `String.prototype.trim` strips them. -/
def isSpace (unit : UInt16) : Bool :=
  (0x0009 ≤ unit && unit ≤ 0x000d) || unit == 0x0020 || unit == 0x00a0 || unit == 0x1680 ||
    (0x2000 ≤ unit && unit ≤ 0x200a) || unit == 0x2028 || unit == 0x2029 || unit == 0x202f ||
    unit == 0x205f || unit == 0x3000 || unit == 0xfeff

/-- `CONTROL_CHARS`: the C0 and C1 control characters and DEL. -/
def isControl (unit : UInt16) : Bool :=
  unit ≤ 0x001f || (0x007f ≤ unit && unit ≤ 0x009f)

/-- A decimal digit. -/
def isDigit (unit : UInt16) : Bool := 0x0030 ≤ unit && unit ≤ 0x0039

/-- A letter of ASCII in upper case. -/
def isUpperLetter (unit : UInt16) : Bool := 0x0041 ≤ unit && unit ≤ 0x005a

/-- A letter of ASCII in lower case. -/
def isLowerLetter (unit : UInt16) : Bool := 0x0061 ≤ unit && unit ≤ 0x007a

/-- `[A-Za-z]` -/
def isLetter (unit : UInt16) : Bool := isUpperLetter unit || isLowerLetter unit

/-- The first half of a pair. -/
def isHighSurrogate (unit : UInt16) : Bool := 0xd800 ≤ unit && unit ≤ 0xdbff

/-- The second half of a pair. -/
def isLowSurrogate (unit : UInt16) : Bool := 0xdc00 ≤ unit && unit ≤ 0xdfff

/-! ### Built-in operations -/

/-- `String.prototype.trim` -/
def trim (text : JsString) : JsString :=
  ((text.dropWhile isSpace).reverse.dropWhile isSpace).reverse

/-- `text.replace(CONTROL_CHARS, '')` -/
def removeControls (text : JsString) : JsString := text.filter fun unit => !isControl unit

/-- `Buffer.byteLength(text, 'utf8')`: an unpaired surrogate is written as U+FFFD, in three
bytes. -/
def byteLength : JsString → Nat
  | [] => 0
  | [unit] => if unit < 0x80 then 1 else if unit < 0x800 then 2 else 3
  | unit :: next :: rest =>
      if isHighSurrogate unit && isLowSurrogate next then 4 + byteLength rest
      else (if unit < 0x80 then 1 else if unit < 0x800 then 2 else 3) + byteLength (next :: rest)

/-- `String.prototype.toWellFormed`: what a text is in UTF-8. -/
def toWellFormed (text : JsString) : JsString :=
  Paired.repaired isHighSurrogate isLowSurrogate 0xfffd text

/-- `toUpperCase`, on the strings of ASCII letters the code applies it to. -/
def toUpperCase (text : JsString) : JsString :=
  text.map fun unit => if isLowerLetter unit then unit - 0x20 else unit

/-- `toLowerCase`, on the ASCII letters. A file name has an allowed extension with it just when
it has one with the mapping of all of Unicode, where no other character becomes one of its
letters. -/
def toLowerCase (text : JsString) : JsString :=
  text.map fun unit => if isUpperLetter unit then unit + 0x20 else unit

/-- The decimal digits of a natural number. -/
def ofNat (number : Nat) : JsString := ofString (toString number)

/-- The decimal digits of a number, padded with zeros to a width. -/
def padded (width number : Nat) : JsString :=
  List.replicate (width - (ofNat number).length) 0x0030 ++ ofNat number

/-! ### Texts in UTF-8 -/

theorem isPlain_iff {unit : UInt16} :
    Paired.isPlain isHighSurrogate isLowSurrogate unit = true ↔
      unit.toNat < 0xd800 ∨ 0xdfff < unit.toNat := by
  simp only [Paired.isPlain, isHighSurrogate, isLowSurrogate, Bool.and_eq_true, Bool.not_eq_true',
    Bool.and_eq_false_iff, decide_eq_false_iff_not, UInt16.le_iff_toNat_le, UInt16.reduceToNat]
  omega

@[simp] theorem toWellFormed_nil : toWellFormed [] = [] := rfl

/-- What is in UTF-8 once stays as it is. -/
@[simp] theorem toWellFormed_toWellFormed (text : JsString) :
    toWellFormed (toWellFormed text) = toWellFormed text :=
  Paired.repaired_repaired (by decide) text

/-- A unit that is no surrogate separates two texts, each of which is converted on its own. -/
theorem toWellFormed_append_cons (first : JsString) {unit : UInt16}
    (plain : Paired.isPlain isHighSurrogate isLowSurrogate unit = true) (rest : JsString) :
    toWellFormed (first ++ unit :: rest) = toWellFormed first ++ unit :: toWellFormed rest :=
  Paired.repaired_append_cons 0xfffd first plain rest

/-- The conversion brings no unit into a text but U+FFFD. -/
theorem not_mem_toWellFormed {text : JsString} {unit : UInt16}
    (plain : Paired.isPlain isHighSurrogate isLowSurrogate unit = true) (other : 0xfffd ≠ unit)
    (free : unit ∉ text) : unit ∉ toWellFormed text := by
  rw [← List.count_eq_zero, toWellFormed, Paired.count_repaired plain other, List.count_eq_zero]
  exact free

end JsString

end ImportService
