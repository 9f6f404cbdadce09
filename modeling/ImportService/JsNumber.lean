/-
This file models the JavaScript numbers and dates the service reads. A finite number
is an exact rational: the rounding of a decimal text to the nearest double is left
out, but not its two ends, where a text becomes an infinity or zero. A date is its
time value, the milliseconds since 1970-01-01T00:00:00Z.
-/

import Mathlib.Data.Rat.Floor
import ImportService.JsString

namespace ImportService

/-! ### Numbers -/

/-- A number of JavaScript over the exact rationals. There is one zero. -/
inductive JsNumber
  | finite (value : Rat)
  | infinite (negative : Bool)
  | nan

namespace JsNumber

/-- From here on the nearest double is an infinity. -/
def overflowBound : Rat := 2 ^ 1024 - 2 ^ 970

/-- Up to here the nearest double is zero. -/
def underflowBound : Rat := 1 / 2 ^ 1075

/-- The number a decimal text denotes. -/
def ofRat (value : Rat) : JsNumber :=
  if overflowBound ≤ |value| then infinite (value < 0)
  else if |value| ≤ underflowBound then finite 0
  else finite value

/-- The number that digits denote. -/
def digitsValue (digits : JsString) : Nat :=
  digits.foldl (fun value digit => 10 * value + (digit.toNat - 0x30)) 0

/-- `mantissa * 10 ^ exponent` -/
def scale (mantissa : Nat) (exponent : Int) : Rat :=
  match exponent with
  | .ofNat power => mantissa * 10 ^ power
  | .negSucc power => mantissa / 10 ^ (power + 1)

/-- The exponent part of a decimal text and the text after it; a malformed exponent is left
in the text. -/
def scanExponent : JsString → Int × JsString
  | [] => (0, [])
  | mark :: text =>
      if mark = 0x65 || mark = 0x45 then
        let (sign, unsigned) := match text with
          | 0x2b :: rest => ((1 : Int), rest)
          | 0x2d :: rest => (-1, rest)
          | rest => (1, rest)
        let (digits, rest) := unsigned.span JsString.isDigit
        if digits.isEmpty then (0, mark :: text) else (sign * digitsValue digits, rest)
      else (0, mark :: text)

/-- The value of the digits before and after the point, scaled by the exponent. -/
def decimal (whole fraction : JsString) (exponent : Int) : Rat :=
  scale (digitsValue (whole ++ fraction)) (exponent - fraction.length)

/-- An unsigned decimal literal that takes up the whole text: digits with an optional point,
or a point with digits after it. -/
def unsignedDecimal (text : JsString) : JsNumber :=
  let (whole, afterWhole) := text.span JsString.isDigit
  let (fraction, afterFraction) := match afterWhole with
    | 0x2e :: rest => rest.span JsString.isDigit
    | rest => ([], rest)
  let (exponent, rest) := scanExponent afterFraction
  if (whole ++ fraction).isEmpty || !rest.isEmpty then nan
  else ofRat (decimal whole fraction exponent)

/-- The number with the other sign. -/
def negate : JsNumber → JsNumber
  | finite value => finite (-value)
  | infinite negative => infinite (!negative)
  | nan => nan

/-- The value of a digit in bases up to sixteen. -/
def digitValue (unit : UInt16) : Option Nat :=
  if JsString.isDigit unit then some (unit.toNat - 0x30)
  else if 0x61 ≤ unit && unit ≤ 0x66 then some (unit.toNat - 0x57)
  else if 0x41 ≤ unit && unit ≤ 0x46 then some (unit.toNat - 0x37)
  else none

/-- The integer a text of digits denotes in a base. -/
def inBase (base : Nat) (text : JsString) : Option Nat :=
  if text.isEmpty then none
  else text.foldl (fun value unit => do
    let value ← value
    let digit ← digitValue unit
    if digit < base then some (base * value + digit) else none) (some 0)

/-- `Number(text)` for a trimmed, non-empty text. -/
def ofText (text : JsString) : JsNumber :=
  let magnitude (unsigned : JsString) : JsNumber :=
    if unsigned = JsString.ofString "Infinity" then infinite false else unsignedDecimal unsigned
  let integer (base : Nat) (digits : JsString) : JsNumber :=
    (inBase base digits).elim nan fun value => ofRat value
  match text with
  | 0x2b :: unsigned => magnitude unsigned
  | 0x2d :: unsigned => negate (magnitude unsigned)
  | 0x30 :: mark :: digits =>
      if mark = 0x78 || mark = 0x58 then integer 16 digits
      else if mark = 0x6f || mark = 0x4f then integer 8 digits
      else if mark = 0x62 || mark = 0x42 then integer 2 digits
      else magnitude text
  | _ => magnitude text

end JsNumber

/-- `Math.round`: to the nearest integer, halves upwards. -/
def mathRound (value : Rat) : Int := ⌊value + 1 / 2⌋

/-! ### Dates -/

namespace JsDate

/-- The milliseconds of a day. -/
def msPerDay : Int := 86400000

/-- `TimeClip`: the largest time value is 100 million days from the epoch. -/
def timeClip (time : Rat) : Option Int :=
  if 8640000000000000 < |time| then none
  else if 0 ≤ time then some ⌊time⌋ else some (-⌊-time⌋)

/-- Year, month and day of a day number, in the proleptic Gregorian calendar. The count runs
from 0000-03-01, so that a leap day is the last day of its year, in eras of 400 years. -/
def civil (day : Int) : Int × Nat × Nat :=
  let shifted := day + 719468
  let era := shifted / 146097
  let dayOfEra := (shifted % 146097).toNat
  let yearOfEra := (dayOfEra - dayOfEra / 1460 + dayOfEra / 36524 - dayOfEra / 146096) / 365
  let dayOfYear := dayOfEra - (365 * yearOfEra + yearOfEra / 4 - yearOfEra / 100)
  let monthIndex := (5 * dayOfYear + 2) / 153
  let month := if monthIndex < 10 then monthIndex + 3 else monthIndex - 9
  let year : Int := yearOfEra + era * 400 + (if month ≤ 2 then 1 else 0)
  (year, month, dayOfYear - (153 * monthIndex + 2) / 5 + 1)

/-- The year of a time value. -/
def getUTCFullYear (time : Int) : Int := (civil (time / msPerDay)).1

/-- `toISOString`, for the years 0 to 9999. -/
def toISOString (time : Int) : JsString :=
  let (year, month, day) := civil (time / msPerDay)
  let clock := (time % msPerDay).toNat
  JsString.padded 4 year.toNat ++ JsString.ofString "-" ++ JsString.padded 2 month ++
    JsString.ofString "-" ++ JsString.padded 2 day ++ JsString.ofString "T" ++
    JsString.padded 2 (clock / 3600000) ++ JsString.ofString ":" ++
    JsString.padded 2 (clock / 60000 % 60) ++ JsString.ofString ":" ++
    JsString.padded 2 (clock / 1000 % 60) ++ JsString.ofString "." ++
    JsString.padded 3 (clock % 1000) ++ JsString.ofString "Z"

end JsDate

end ImportService
