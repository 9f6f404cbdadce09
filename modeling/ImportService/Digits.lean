/-
This file is about the decimal digits a natural number prints as, bare and padded to a
width: they are digits, there are as many as the width, and they read back as the number.
-/

import ImportService.JsNumber

namespace ImportService

open JsNumber

namespace JsString

/-! ### The digits of a number -/

theorem isDigit_iff {unit : UInt16} :
    isDigit unit = true ↔ 0x30 ≤ unit.toNat ∧ unit.toNat ≤ 0x39 := by
  simp only [isDigit, Bool.and_eq_true, decide_eq_true_eq, UInt16.le_iff_toNat_le,
    UInt16.reduceToNat]

/-- A decimal digit is one code unit. -/
theorem encode_of_isDigit {character : Char} (digit : character.isDigit = true) :
    encode character = [UInt16.ofNat character.toNat] ∧
      (UInt16.ofNat character.toNat).toNat = character.toNat ∧
      0x30 ≤ character.toNat ∧ character.toNat ≤ 0x39 := by
  have bounds : 0x30 ≤ character.toNat ∧ character.toNat ≤ 0x39 := by
    rw [Char.isDigit, Bool.and_eq_true, decide_eq_true_eq, decide_eq_true_eq] at digit
    exact digit
  have small : character.toNat < 0x10000 := by omega
  refine ⟨if_pos small, UInt16.toNat_ofNat_of_lt' ?_, bounds⟩
  exact small

theorem ofNat_eq (number : Nat) : ofNat number = (Nat.toDigits 10 number).flatMap encode := by
  rw [ofNat, ofString, Nat.toString_eq_ofList_toDigits, String.toList_ofList]

theorem isDigit_of_mem_toDigits {number : Nat} {character : Char}
    (member : character ∈ Nat.toDigits 10 number) : character.isDigit = true :=
  Nat.isDigit_of_mem_toDigits (by decide) (by decide) member

theorem isDigit_of_mem_ofNat {number : Nat} {unit : UInt16} (member : unit ∈ ofNat number) :
    isDigit unit = true := by
  rw [ofNat_eq, List.mem_flatMap] at member
  obtain ⟨character, isCharacter, isUnit⟩ := member
  obtain ⟨oneUnit, sameValue, bounds⟩ := encode_of_isDigit (isDigit_of_mem_toDigits isCharacter)
  rw [oneUnit, List.mem_singleton] at isUnit
  rw [isUnit, isDigit_iff, sameValue]
  exact bounds

/-- Digit by digit, the code units stand for what the characters stand for. -/
theorem foldl_flatMap_encode (characters : List Char)
    (digits : ∀ character ∈ characters, character.isDigit = true) (start : Nat) :
    (characters.flatMap encode).foldl
        (fun value digit => 10 * value + (digit.toNat - 0x30)) start =
      Nat.ofDigitChars 10 characters start := by
  induction characters generalizing start with
  | nil => exact Nat.ofDigitChars_nil.symm
  | cons character rest inductionHypothesis =>
    obtain ⟨oneUnit, sameValue, _⟩ := encode_of_isDigit (digits character List.mem_cons_self)
    rw [List.flatMap_cons, oneUnit, List.singleton_append, List.foldl_cons, sameValue,
      inductionHypothesis fun other member => digits other (List.mem_cons_of_mem _ member),
      Nat.ofDigitChars_cons]
    rfl

theorem digitsValue_ofNat (number : Nat) : digitsValue (ofNat number) = number := by
  rw [digitsValue, ofNat_eq,
    foldl_flatMap_encode _ (fun _ member => isDigit_of_mem_toDigits member) 0,
    Nat.ofDigitChars_ten_toDigits]

theorem length_flatMap_encode (characters : List Char)
    (digits : ∀ character ∈ characters, character.isDigit = true) :
    (characters.flatMap encode).length = characters.length := by
  induction characters with
  | nil => rfl
  | cons character rest inductionHypothesis =>
    obtain ⟨oneUnit, _⟩ := encode_of_isDigit (digits character List.mem_cons_self)
    rw [List.flatMap_cons, oneUnit, List.singleton_append, List.length_cons, List.length_cons,
      inductionHypothesis fun other member => digits other (List.mem_cons_of_mem _ member)]

theorem length_ofNat_le_iff {number width : Nat} (positive : 0 < width) :
    (ofNat number).length ≤ width ↔ number < 10 ^ width := by
  rw [ofNat_eq, length_flatMap_encode _ fun _ member => isDigit_of_mem_toDigits member,
    Nat.length_toDigits_le_iff (by decide) positive]

/-! ### Digits padded to a width -/

theorem length_padded {width number : Nat} (positive : 0 < width) (fits : number < 10 ^ width) :
    (padded width number).length = width := by
  have short := (length_ofNat_le_iff positive).mpr fits
  rw [padded, List.length_append, List.length_replicate]
  omega

theorem isDigit_of_mem_padded {width number : Nat} {unit : UInt16}
    (member : unit ∈ padded width number) : isDigit unit = true := by
  rcases List.mem_append.mp member with padding | digit
  · rw [List.eq_of_mem_replicate padding]
    rfl
  · exact isDigit_of_mem_ofNat digit

theorem foldl_digits (digits : JsString) (start : Nat) :
    digits.foldl (fun value digit => 10 * value + (digit.toNat - 0x30)) start =
      10 ^ digits.length * start + digitsValue digits := by
  unfold digitsValue
  induction digits generalizing start with
  | nil => simp only [List.foldl_nil, List.length_nil, pow_zero, one_mul, add_zero]
  | cons digit rest inductionHypothesis =>
    rw [List.foldl_cons, List.foldl_cons, inductionHypothesis,
      inductionHypothesis (10 * 0 + (digit.toNat - 0x30)), List.length_cons, pow_succ]
    ring

theorem digitsValue_append (first second : JsString) :
    digitsValue (first ++ second) =
      10 ^ second.length * digitsValue first + digitsValue second := by
  rw [digitsValue, List.foldl_append, ← digitsValue, foldl_digits second]

theorem digitsValue_replicate_zero (count : Nat) :
    digitsValue (List.replicate count 0x30) = 0 := by
  induction count with
  | zero => rfl
  | succ count inductionHypothesis =>
    rw [List.replicate_succ', digitsValue_append, inductionHypothesis]
    rfl

theorem digitsValue_padded (width number : Nat) : digitsValue (padded width number) = number := by
  rw [padded, digitsValue_append, digitsValue_replicate_zero, digitsValue_ofNat, Nat.mul_zero,
    Nat.zero_add]

end JsString

end ImportService
