/-
This file proves that the text `toISOString` prints tells the time it was printed for, in the
years 0 to 9999. The calendar is undone first: a day is an era of 400 years, a year of the
era, a month and a day, counted from the first of March.
-/

import ImportService.Digits

namespace ImportService

open JsNumber JsString

namespace JsDate

/-! ### The calendar -/

/-- The year within an era of 400 years. -/
def yearOfEra (dayOfEra : Nat) : Nat :=
  (dayOfEra - dayOfEra / 1460 + dayOfEra / 36524 - dayOfEra / 146096) / 365

/-- The first day of a year of an era. -/
def yearStart (year : Nat) : Nat := 365 * year + year / 4 - year / 100

/-- The first day of a month, in a year that begins with March. -/
def monthStart (monthIndex : Nat) : Nat := (153 * monthIndex + 2) / 5

theorem yearOfEra_lt {dayOfEra : Nat} (inEra : dayOfEra < 146097) : yearOfEra dayOfEra < 400 := by
  unfold yearOfEra
  omega

/-- A day lies in its year: by centuries, and within one by cycles of four years. -/
theorem yearStart_bounds {dayOfEra : Nat} (inEra : dayOfEra < 146097) :
    yearStart (yearOfEra dayOfEra) ≤ dayOfEra ∧
      dayOfEra ≤ yearStart (yearOfEra dayOfEra) + 365 := by
  obtain ⟨cycle, isCycle⟩ : ∃ cycle, dayOfEra / 1460 = cycle := ⟨_, rfl⟩
  obtain ⟨year, isYear⟩ : ∃ year, yearOfEra dayOfEra = year := ⟨_, rfl⟩
  have centuries : dayOfEra / 36524 = 0 ∨ dayOfEra / 36524 = 1 ∨ dayOfEra / 36524 = 2 ∨
      dayOfEra / 36524 = 3 ∨ dayOfEra / 36524 = 4 := by omega
  rw [isYear]
  unfold yearOfEra at isYear
  unfold yearStart
  rcases centuries with century | century | century | century | century
  all_goals
    rw [isCycle, century] at isYear
    have inCycle : year + 1 = 4 * cycle ∨ year = 4 * cycle ∨ year = 4 * cycle + 1 ∨
        year = 4 * cycle + 2 ∨ year = 4 * cycle + 3 := by omega
    rcases inCycle with inCycle | inCycle | inCycle | inCycle | inCycle
    all_goals omega

theorem monthStart_bounds {dayOfYear : Nat} (inYear : dayOfYear ≤ 365) :
    (5 * dayOfYear + 2) / 153 < 12 ∧ monthStart ((5 * dayOfYear + 2) / 153) ≤ dayOfYear ∧
      dayOfYear ≤ monthStart ((5 * dayOfYear + 2) / 153) + 30 := by
  unfold monthStart
  omega

/-- What a day is in the calendar: January and February belong to the year before. -/
structure IsCivil (day era : Int) (year monthIndex dayOfMonth : Nat) : Prop where
  inEra : year < 400
  inYear : monthIndex < 12
  inMonth : dayOfMonth ≤ 30
  sum : day + 719468 =
    era * 146097 + (yearStart year + (monthStart monthIndex + dayOfMonth) : Nat)
  early : monthIndex < 10 → civil day = (year + era * 400, monthIndex + 3, dayOfMonth + 1)
  late : ¬ monthIndex < 10 → civil day = (year + era * 400 + 1, monthIndex - 9, dayOfMonth + 1)

theorem exists_isCivil (day : Int) :
    ∃ era year monthIndex dayOfMonth, IsCivil day era year monthIndex dayOfMonth := by
  obtain ⟨dayOfEra, isDay⟩ : ∃ dayOfEra, ((day + 719468) % 146097).toNat = dayOfEra := ⟨_, rfl⟩
  have inEra : dayOfEra < 146097 := by omega
  obtain ⟨started, notEnded⟩ := yearStart_bounds inEra
  obtain ⟨dayOfYear, isDayOfYear⟩ :
      ∃ dayOfYear, dayOfEra - yearStart (yearOfEra dayOfEra) = dayOfYear := ⟨_, rfl⟩
  have inYear : dayOfYear ≤ 365 := by omega
  obtain ⟨monthInYear, monthStarted, monthNotEnded⟩ := monthStart_bounds inYear
  obtain ⟨monthIndex, isMonth⟩ : ∃ monthIndex, (5 * dayOfYear + 2) / 153 = monthIndex := ⟨_, rfl⟩
  rw [isMonth] at monthInYear monthStarted monthNotEnded
  have isCivil : civil day =
      let month := if monthIndex < 10 then monthIndex + 3 else monthIndex - 9
      (yearOfEra dayOfEra + (day + 719468) / 146097 * 400 + (if month ≤ 2 then 1 else 0), month,
        dayOfYear - monthStart monthIndex + 1) := by
    rw [← isMonth, ← isDayOfYear, ← isDay]
    rfl
  refine ⟨(day + 719468) / 146097, yearOfEra dayOfEra, monthIndex,
    dayOfYear - monthStart monthIndex, ?_⟩
  exact
    { inEra := yearOfEra_lt inEra
      inYear := monthInYear
      inMonth := by omega
      sum := by omega
      early := by
        intro early
        have notBefore : ¬ monthIndex + 3 ≤ 2 := by omega
        simp only [isCivil, if_pos early, if_neg notBefore, Int.add_zero]
      late := by
        intro late
        have before : monthIndex - 9 ≤ 2 := by omega
        simp only [isCivil, if_neg late, if_pos before] }

/-- The day of a date. -/
def ofCivil (year : Int) (month day : Nat) : Int :=
  let shifted := if month ≤ 2 then year - 1 else year
  let monthIndex := if month ≤ 2 then month + 9 else month - 3
  shifted / 400 * 146097 +
    (yearStart (shifted % 400).toNat + (monthStart monthIndex + (day - 1)) : Nat) - 719468

theorem ofCivil_civil (day : Int) :
    ofCivil (civil day).1 (civil day).2.1 (civil day).2.2 = day := by
  obtain ⟨era, year, monthIndex, dayOfMonth, isCivil⟩ := exists_isCivil day
  have inEra := isCivil.inEra
  have inYear := isCivil.inYear
  have sum := isCivil.sum
  have sameYear : ((year + era * 400 : Int) % 400).toNat = year := by omega
  have sameEra : (year + era * 400 : Int) / 400 = era := by omega
  by_cases early : monthIndex < 10
  · have notBefore : ¬ monthIndex + 3 ≤ 2 := by omega
    rw [isCivil.early early, ofCivil]
    simp only [if_neg notBefore, sameYear, sameEra, Nat.add_sub_cancel]
    omega
  · have before : monthIndex - 9 ≤ 2 := by omega
    have sameMonth : monthIndex - 9 + 9 = monthIndex := by omega
    rw [isCivil.late early, ofCivil]
    simp only [if_pos before, Int.add_sub_cancel, sameYear, sameEra, sameMonth,
      Nat.add_sub_cancel]
    omega

theorem civil_bounds (day : Int) : (civil day).2.1 < 100 ∧ (civil day).2.2 < 100 := by
  obtain ⟨era, year, monthIndex, dayOfMonth, isCivil⟩ := exists_isCivil day
  have inYear := isCivil.inYear
  have inMonth := isCivil.inMonth
  by_cases early : monthIndex < 10
  · rw [isCivil.early early]
    simp only
    omega
  · rw [isCivil.late early]
    simp only
    omega

/-! ### Reading the text back -/

/-- The number a text starts with, in so many digits, and the text after the mark that follows. -/
def readNumber (width : Nat) (text : JsString) : Nat × JsString :=
  (digitsValue (text.take width), text.drop (width + 1))

/-- The time an ISO text tells. -/
def ofISOString (text : JsString) : Int :=
  let (year, text) := readNumber 4 text
  let (month, text) := readNumber 2 text
  let (day, text) := readNumber 2 text
  let (hours, text) := readNumber 2 text
  let (minutes, text) := readNumber 2 text
  let (seconds, text) := readNumber 2 text
  let (milliseconds, _) := readNumber 3 text
  ofCivil year month day * msPerDay +
    (3600000 * hours + 60000 * minutes + 1000 * seconds + milliseconds : Nat)

theorem readNumber_padded {width number : Nat} {mark : String}
    (oneUnit : (ofString mark).length = 1) (positive : 0 < width) (fits : number < 10 ^ width)
    (rest : JsString) :
    readNumber width (padded width number ++ (ofString mark ++ rest)) = (number, rest) := by
  have digits : (padded width number).length = width := length_padded positive fits
  have marked : (padded width number ++ ofString mark).length = width + 1 := by
    rw [List.length_append, digits, oneUnit]
  rw [readNumber, List.take_left' digits, digitsValue_padded, ← List.append_assoc,
    List.drop_left' marked]

/-- In the years 0 to 9999 the text tells the time. -/
theorem ofISOString_toISOString {time : Int} (fromYear : 0 ≤ getUTCFullYear time)
    (toYear : getUTCFullYear time ≤ 9999) : ofISOString (toISOString time) = time := by
  obtain ⟨monthFits, dayFits⟩ := civil_bounds (time / msPerDay)
  have calendar := ofCivil_civil (time / msPerDay)
  rw [getUTCFullYear] at fromYear toYear
  obtain ⟨⟨year, month, day⟩, isDate⟩ : ∃ date, civil (time / msPerDay) = date := ⟨_, rfl⟩
  obtain ⟨clock, isClock⟩ : ∃ clock, (time % msPerDay).toNat = clock := ⟨_, rfl⟩
  rw [isDate] at fromYear toYear monthFits dayFits calendar
  simp only at fromYear toYear monthFits dayFits calendar
  have sum : time / msPerDay * msPerDay + clock = time := by
    rw [msPerDay] at isClock ⊢
    omega
  have inDay : clock < 86400000 := by
    rw [msPerDay] at isClock
    omega
  have text : toISOString time =
      padded 4 year.toNat ++ (ofString "-" ++ (padded 2 month ++ (ofString "-" ++
        (padded 2 day ++ (ofString "T" ++ (padded 2 (clock / 3600000) ++ (ofString ":" ++
          (padded 2 (clock / 60000 % 60) ++ (ofString ":" ++
            (padded 2 (clock / 1000 % 60) ++ (ofString "." ++
              (padded 3 (clock % 1000) ++ (ofString "Z" ++ []))))))))))))) := by
    rw [toISOString, isDate, isClock]
    simp only [List.append_assoc, List.append_nil]
  have sameYear : (year.toNat : Int) = year := Int.toNat_of_nonneg fromYear
  have sameClock : 3600000 * (clock / 3600000) + 60000 * (clock / 60000 % 60) +
      1000 * (clock / 1000 % 60) + clock % 1000 = clock := by omega
  rw [text, ofISOString, readNumber_padded rfl (by decide) (by omega)]
  simp only
  rw [readNumber_padded rfl (by decide) monthFits]
  simp only
  rw [readNumber_padded rfl (by decide) dayFits]
  simp only
  rw [readNumber_padded rfl (by decide) (by omega)]
  simp only
  rw [readNumber_padded rfl (by decide) (by omega)]
  simp only
  rw [readNumber_padded rfl (by decide) (by omega)]
  simp only
  rw [readNumber_padded rfl (by decide) (by omega)]
  simp only [sameYear, calendar, sameClock, sum]

/-- Two times in the years 0 to 9999 print as the same text only if they are the same. -/
theorem toISOString_inj {time other : Int} (fromYear : 0 ≤ getUTCFullYear time)
    (toYear : getUTCFullYear time ≤ 9999) (otherFromYear : 0 ≤ getUTCFullYear other)
    (otherToYear : getUTCFullYear other ≤ 9999) :
    toISOString time = toISOString other ↔ time = other := by
  refine ⟨fun same => ?_, congrArg toISOString⟩
  rw [← ofISOString_toISOString fromYear toYear, same,
    ofISOString_toISOString otherFromYear otherToYear]

end JsDate

end ImportService
