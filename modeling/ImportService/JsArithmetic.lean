/-
This file models the arithmetic on JavaScript numbers that configured values go through. As
for the texts they are read from, results are exact rationals, and only the two ends of the
doubles are kept: a product can become an infinity or zero, and zero times an infinity is no
number.
-/

import Mathlib.Algebra.Order.Field.Basic
import Mathlib.Algebra.Order.Floor.Ring
import Mathlib.Tactic.Positivity
import ImportService.JsNumber

namespace ImportService.JsNumber

/-! ### Operations -/

/-- `first * second` -/
def mul : JsNumber → JsNumber → JsNumber
  | finite value, finite other => ofRat (value * other)
  | finite value, infinite negative =>
      if value = 0 then nan else infinite (xor (value < 0) negative)
  | infinite negative, finite value =>
      if value = 0 then nan else infinite (xor negative (value < 0))
  | infinite negative, infinite other => infinite (xor negative other)
  | nan, _ | _, nan => nan

@[simp] theorem mul_finite (value other : Rat) :
    mul (finite value) (finite other) = ofRat (value * other) := rfl

/-- `first < second` -/
def less : JsNumber → JsNumber → Bool
  | finite value, finite other => value < other
  | finite _, infinite negative => !negative
  | infinite negative, finite _ => negative
  | infinite negative, infinite other => negative && !other
  | nan, _ | _, nan => false

/-- `Math.min(first, second)` -/
def min : JsNumber → JsNumber → JsNumber
  | nan, _ | _, nan => nan
  | first, second => if less second first then second else first

/-- `Math.floor(number)` -/
def floor : JsNumber → JsNumber
  | finite value => finite ⌊value⌋
  | infinite negative => infinite negative
  | nan => nan

/-- `2 ** exponent` -/
def powTwo (exponent : Nat) : JsNumber := ofRat (2 ^ exponent)

/-- Whether a text begins with a minus sign, and the text after its sign. -/
def scanSign : JsString → Bool × JsString
  | 0x2d :: rest => (true, rest)
  | 0x2b :: rest => (false, rest)
  | text => (false, text)

/-- The radix of a text, and the text after its mark. -/
def scanRadix : JsString → Nat × JsString
  | 0x30 :: mark :: rest =>
      if mark = 0x78 || mark = 0x58 then (16, rest) else (10, 0x30 :: mark :: rest)
  | text => (10, text)

/-- `parseInt(text)`: the integer that the text begins with, behind white space and a sign. -/
def parseInt (text : JsString) : JsNumber :=
  let (negative, unsigned) := scanSign (text.dropWhile JsString.isSpace)
  let (radix, digits) := scanRadix unsigned
  let leading := digits.takeWhile fun unit => (digitValue unit).any fun digit => digit < radix
  let magnitude := (inBase radix leading).elim nan fun value => ofRat value
  if negative then negate magnitude else magnitude

/-! ### Between the two ends -/

theorem underflowBound_lt_one : underflowBound < 1 := by
  rw [underflowBound, div_lt_one (by positivity)]
  exact one_lt_pow₀ one_lt_two (by decide)

theorem overflowBound_le_powTwo : overflowBound ≤ 2 ^ 1024 := by
  rw [overflowBound]
  exact sub_le_self _ (by positivity)

theorem powTwo_lt_overflowBound : (2 : Rat) ^ 1023 < overflowBound := by
  have smaller : (2 : Rat) ^ 970 < 2 ^ 1023 := pow_lt_pow_right₀ one_lt_two (by decide)
  rw [overflowBound, pow_succ _ 1023, mul_two, lt_sub_iff_add_lt]
  exact add_lt_add_of_le_of_lt (le_refl _) smaller

theorem one_lt_overflowBound : 1 < overflowBound :=
  (one_lt_pow₀ one_lt_two (by decide)).trans powTwo_lt_overflowBound

theorem ofRat_of_le {value : Rat} (nonneg : 0 ≤ value) (overflows : overflowBound ≤ value) :
    ofRat value = infinite false := by
  rw [ofRat, abs_of_nonneg nonneg, if_pos overflows, decide_eq_false (not_lt.mpr nonneg)]

/-- A number that is not too large can only be lost to zero. -/
theorem ofRat_of_lt {value : Rat} (nonneg : 0 ≤ value) (fits : value < overflowBound) :
    ∃ result, ofRat value = finite result ∧ 0 ≤ result ∧ result ≤ value ∧
      (underflowBound < value → result = value) := by
  rw [ofRat, abs_of_nonneg nonneg, if_neg (not_le.mpr fits)]
  by_cases underflows : value ≤ underflowBound
  · rw [if_pos underflows]
    exact ⟨0, rfl, le_refl 0, nonneg, fun above => absurd underflows (not_le.mpr above)⟩
  · rw [if_neg underflows]
    exact ⟨value, rfl, nonneg, le_refl value, fun _ => rfl⟩

theorem ofRat_of_one_le {value : Rat} (atLeastOne : 1 ≤ value) (fits : value < overflowBound) :
    ofRat value = finite value := by
  obtain ⟨result, isFinite, _, _, same⟩ := ofRat_of_lt (zero_le_one.trans atLeastOne) fits
  rw [isFinite, same (underflowBound_lt_one.trans_le atLeastOne)]

theorem ofRat_or_infinite {value : Rat} (atLeastOne : 1 ≤ value) :
    ofRat value = finite value ∨ ofRat value = infinite false := by
  rcases lt_or_ge value overflowBound with fits | overflows
  · exact Or.inl (ofRat_of_one_le atLeastOne fits)
  · exact Or.inr (ofRat_of_le (zero_le_one.trans atLeastOne) overflows)

theorem powTwo_of_lt {exponent : Nat} (small : exponent < 1024) :
    powTwo exponent = finite (2 ^ exponent) := by
  refine ofRat_of_one_le (one_le_pow₀ one_le_two) ?_
  refine lt_of_le_of_lt ?_ powTwo_lt_overflowBound
  exact pow_le_pow_right₀ one_le_two (Nat.le_of_lt_succ small)

theorem powTwo_of_le {exponent : Nat} (large : 1024 ≤ exponent) :
    powTwo exponent = infinite false :=
  ofRat_of_le (by positivity)
    (overflowBound_le_powTwo.trans (pow_le_pow_right₀ one_le_two large))

theorem min_finite (value other : Rat) :
    min (finite value) (finite other) = finite (if other < value then other else value) := by
  by_cases smaller : other < value <;> simp [min, less, smaller]

theorem min_infinite (value : Rat) : min (infinite false) (finite value) = finite value := rfl

/-- A number below a finite one is below the larger ones. -/
theorem less_of_le {limit : JsNumber} {value other : Rat} (below : less limit (finite value) = true)
    (le : value ≤ other) : less limit (finite other) = true := by
  cases limit with
  | finite bound => exact decide_eq_true ((of_decide_eq_true below).trans_le le)
  | infinite negative => exact below
  | nan => exact below

end ImportService.JsNumber
