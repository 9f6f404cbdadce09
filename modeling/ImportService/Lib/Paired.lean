/-
This file develops texts in which some units occur in pairs only: a unit that opens a
pair is followed at once by one that closes it, and a closing unit stands nowhere else.
Texts of this kind can be put together, and taken apart wherever no pair is cut
(`isPaired_append`): so one may strip units that take no part in pairs from either end,
and a prefix is of this kind unless it ends with an opening unit.
-/

import Mathlib.Data.List.TakeWhile

namespace ImportService.Paired

variable {CodeUnit : Type} (opens closes : CodeUnit → Bool)

/-- Every opening unit is followed by a closing one, and no other is closing. -/
def isPaired : List CodeUnit → Bool
  | [] => true
  | [unit] => !opens unit && !closes unit
  | unit :: next :: rest =>
      if opens unit then closes next && isPaired rest
      else !closes unit && isPaired (next :: rest)

/-- A unit that takes no part in pairs. -/
def isPlain (unit : CodeUnit) : Bool := !opens unit && !closes unit

variable {opens closes}

theorem isPaired_cons {unit : CodeUnit} (notOpening : opens unit = false) (rest : List CodeUnit) :
    isPaired opens closes (unit :: rest) = (!closes unit && isPaired opens closes rest) := by
  cases rest with
  | nil => rw [isPaired, isPaired, notOpening, Bool.not_false, Bool.true_and, Bool.and_true]
  | cons next rest => rw [isPaired, notOpening, if_neg Bool.false_ne_true]

theorem isPaired_cons_of_isPlain {unit : CodeUnit} (plain : isPlain opens closes unit = true)
    (rest : List CodeUnit) : isPaired opens closes (unit :: rest) = isPaired opens closes rest := by
  rw [isPlain, Bool.and_eq_true, Bool.not_eq_true', Bool.not_eq_true'] at plain
  rw [isPaired_cons plain.1, plain.2, Bool.not_false, Bool.true_and]

theorem isPaired_of_isPlain {text : List CodeUnit}
    (plain : ∀ unit ∈ text, isPlain opens closes unit = true) :
    isPaired opens closes text = true := by
  induction text with
  | nil => rfl
  | cons unit rest inductionHypothesis =>
    rw [isPaired_cons_of_isPlain (plain unit List.mem_cons_self)]
    exact inductionHypothesis fun other member => plain other (List.mem_cons_of_mem unit member)

/-- A text can be taken apart where no pair is cut. -/
theorem isPaired_append {first second : List CodeUnit}
    (uncut : ∀ unit ∈ first.getLast?, ∀ next ∈ second.head?,
      opens unit = true → closes next = false) :
    isPaired opens closes (first ++ second) =
      (isPaired opens closes first && isPaired opens closes second) := by
  fun_induction isPaired opens closes first with
  | case1 => rw [List.nil_append, Bool.true_and]
  | case2 unit =>
    cases opening : opens unit with
    | false =>
      rw [List.singleton_append, isPaired_cons opening, Bool.not_false, Bool.true_and]
    | true =>
      rw [Bool.not_true, Bool.false_and, Bool.false_and]
      cases second with
      | nil =>
        rw [List.append_nil, isPaired, opening]
        rfl
      | cons next rest =>
        rw [List.singleton_append, isPaired, if_pos opening, uncut unit rfl next rfl opening,
          Bool.false_and]
  | case3 unit next rest opening inductionHypothesis =>
    rw [List.cons_append, List.cons_append, isPaired, if_pos opening, Bool.and_assoc]
    refine congrArg _ (inductionHypothesis fun last isLast => ?_)
    exact uncut last (by rw [List.getLast?_cons_cons, List.getLast?_cons, isLast]; rfl)
  | case4 unit next rest notOpening inductionHypothesis =>
    rw [List.cons_append, List.cons_append, isPaired, if_neg notOpening, Bool.and_assoc,
      ← List.cons_append]
    refine congrArg _ (inductionHypothesis fun last isLast => ?_)
    exact uncut last (by rw [List.getLast?_cons_cons, isLast]; rfl)

/-- A paired text ends with no opening unit. -/
theorem not_opens_getLast (disjoint : ∀ unit, opens unit = true → closes unit = false)
    {text : List CodeUnit} (paired : isPaired opens closes text = true) :
    ∀ unit ∈ text.getLast?, opens unit = false := by
  intro unit isLast
  fun_induction isPaired opens closes text with
  | case1 => cases isLast
  | case2 other =>
    cases isLast
    rw [Bool.and_eq_true, Bool.not_eq_true'] at paired
    exact paired.1
  | case3 first next rest opening inductionHypothesis =>
    rw [Bool.and_eq_true] at paired
    rw [List.getLast?_cons_cons] at isLast
    cases rest with
    | nil =>
      cases isLast
      show opens next = false
      cases openingNext : opens next with
      | false => rfl
      | true =>
        rw [disjoint next openingNext] at paired
        cases paired.1
    | cons third rest =>
      rw [List.getLast?_cons_cons] at isLast
      exact inductionHypothesis paired.2 isLast
  | case4 first next rest notOpening inductionHypothesis =>
    rw [Bool.and_eq_true] at paired
    rw [List.getLast?_cons_cons] at isLast
    exact inductionHypothesis paired.2 isLast

theorem isPaired_append_of_isPaired {first second : List CodeUnit}
    (disjoint : ∀ unit, opens unit = true → closes unit = false)
    (paired : isPaired opens closes first = true) :
    isPaired opens closes (first ++ second) = isPaired opens closes second := by
  have uncut := not_opens_getLast disjoint paired
  rw [isPaired_append, paired, Bool.true_and]
  intro unit isLast next _ opening
  rw [uncut unit isLast] at opening
  cases opening

theorem isPaired_flatMap {Item : Type} (disjoint : ∀ unit, opens unit = true → closes unit = false)
    (text : Item → List CodeUnit) (items : List Item)
    (paired : ∀ item ∈ items, isPaired opens closes (text item) = true) :
    isPaired opens closes (items.flatMap text) = true := by
  induction items with
  | nil => rfl
  | cons item rest inductionHypothesis =>
    rw [List.flatMap_cons,
      isPaired_append_of_isPaired disjoint (paired item List.mem_cons_self)]
    exact inductionHypothesis fun other member => paired other (List.mem_cons_of_mem item member)

/-! ### Parts of a text -/

theorem isPaired_dropWhile (disjoint : ∀ unit, opens unit = true → closes unit = false)
    {text : List CodeUnit} {strips : CodeUnit → Bool}
    (plain : ∀ unit, strips unit = true → isPlain opens closes unit = true)
    (paired : isPaired opens closes text = true) :
    isPaired opens closes (text.dropWhile strips) = true := by
  have split : text.takeWhile strips ++ text.dropWhile strips = text :=
    List.takeWhile_append_dropWhile
  have stripped : isPaired opens closes (text.takeWhile strips) = true :=
    isPaired_of_isPlain fun unit member => plain unit (List.mem_takeWhile_imp member)
  rwa [← split,
    isPaired_append_of_isPaired disjoint stripped] at paired

theorem isPaired_rdropWhile {text : List CodeUnit} {strips : CodeUnit → Bool}
    (plain : ∀ unit, strips unit = true → isPlain opens closes unit = true)
    (paired : isPaired opens closes text = true) :
    isPaired opens closes (text.reverse.dropWhile strips).reverse = true := by
  have split : (text.reverse.dropWhile strips).reverse ++ (text.reverse.takeWhile strips).reverse =
      text := by
    rw [← List.reverse_append, List.takeWhile_append_dropWhile, List.reverse_reverse]
  rw [← split, isPaired_append, Bool.and_eq_true] at paired
  · exact paired.1
  · intro unit _ next isHead _
    have member := List.mem_reverse.mp (List.mem_of_mem_head? isHead)
    have isPlain := plain next (List.mem_takeWhile_imp member)
    rw [Paired.isPlain, Bool.and_eq_true, Bool.not_eq_true', Bool.not_eq_true'] at isPlain
    exact isPlain.2

/-- A prefix cuts a pair, or it is a paired text again. -/
theorem isPaired_take_iff (disjoint : ∀ unit, opens unit = true → closes unit = false)
    {text : List CodeUnit} (paired : isPaired opens closes text = true) (length : Nat) :
    isPaired opens closes (text.take length) = true ↔
      ∀ unit ∈ (text.take length).getLast?, opens unit = false := by
  constructor
  · exact fun prefixPaired => not_opens_getLast disjoint prefixPaired
  · intro uncut
    rw [← List.take_append_drop length text, isPaired_append, Bool.and_eq_true] at paired
    · exact paired.1
    · intro unit isLast next _ opening
      rw [uncut unit isLast] at opening
      cases opening

/-! ### Replacing unpaired units -/

/-- The text with a replacement for each unit that is half of a pair without the other half. -/
def repaired (opens closes : CodeUnit → Bool) (replacement : CodeUnit) :
    List CodeUnit → List CodeUnit
  | [] => []
  | [unit] => [if isPlain opens closes unit then unit else replacement]
  | unit :: next :: rest =>
      if opens unit && closes next then unit :: next :: repaired opens closes replacement rest
      else (if isPlain opens closes unit then unit else replacement) ::
        repaired opens closes replacement (next :: rest)

theorem repaired_cons_of_isPlain (replacement : CodeUnit) {unit : CodeUnit}
    (plain : isPlain opens closes unit = true) (rest : List CodeUnit) :
    repaired opens closes replacement (unit :: rest) =
      unit :: repaired opens closes replacement rest := by
  have notOpening := plain
  rw [isPlain, Bool.and_eq_true, Bool.not_eq_true', Bool.not_eq_true'] at notOpening
  cases rest with
  | nil =>
    show [if isPlain opens closes unit then unit else replacement] = [unit]
    rw [if_pos plain]
  | cons next rest =>
    rw [repaired, notOpening.1, Bool.false_and, if_neg Bool.false_ne_true, if_pos plain]

theorem repaired_eq_self (replacement : CodeUnit) {text : List CodeUnit}
    (plain : ∀ unit ∈ text, isPlain opens closes unit = true) :
    repaired opens closes replacement text = text := by
  induction text with
  | nil => rfl
  | cons unit rest inductionHypothesis =>
    rw [repaired_cons_of_isPlain replacement (plain unit List.mem_cons_self),
      inductionHypothesis fun other member => plain other (List.mem_cons_of_mem unit member)]

/-- A text that is repaired is repaired already, if the replacement is plain. -/
theorem repaired_repaired {replacement : CodeUnit}
    (plain : isPlain opens closes replacement = true) (text : List CodeUnit) :
    repaired opens closes replacement (repaired opens closes replacement text) =
      repaired opens closes replacement text := by
  have repairedUnit (unit : CodeUnit) :
      isPlain opens closes (if isPlain opens closes unit then unit else replacement) = true := by
    split
    · assumption
    · exact plain
  fun_induction repaired opens closes replacement text with
  | case1 => rfl
  | case2 unit => exact repaired_cons_of_isPlain replacement (repairedUnit unit) []
  | case3 unit next rest isPair inductionHypothesis =>
    rw [repaired, if_pos isPair, inductionHypothesis]
  | case4 unit next rest notPair inductionHypothesis =>
    rw [repaired_cons_of_isPlain replacement (repairedUnit unit), inductionHypothesis]

/-- The texts on both sides of a plain unit are repaired each on its own. -/
theorem repaired_append_cons (replacement : CodeUnit) (first : List CodeUnit) {unit : CodeUnit}
    (plain : isPlain opens closes unit = true) (rest : List CodeUnit) :
    repaired opens closes replacement (first ++ unit :: rest) =
      repaired opens closes replacement first ++
        unit :: repaired opens closes replacement rest := by
  have notClosing := plain
  rw [isPlain, Bool.and_eq_true, Bool.not_eq_true', Bool.not_eq_true'] at notClosing
  fun_induction repaired opens closes replacement first with
  | case1 => rw [List.nil_append, List.nil_append, repaired_cons_of_isPlain replacement plain]
  | case2 other =>
    rw [List.singleton_append, repaired, notClosing.2, Bool.and_false,
      if_neg Bool.false_ne_true, repaired_cons_of_isPlain replacement plain]
    rfl
  | case3 other next later isPair inductionHypothesis =>
    rw [List.cons_append, List.cons_append, repaired, if_pos isPair, inductionHypothesis]
    rfl
  | case4 other next later notPair inductionHypothesis =>
    rw [List.cons_append, List.cons_append, repaired, if_neg notPair, ← List.cons_append,
      inductionHypothesis]
    rfl

/-- Repairing a text adds and removes no plain unit, unless the replacement is one. -/
theorem count_repaired [DecidableEq CodeUnit] {replacement unit : CodeUnit}
    (plain : isPlain opens closes unit = true) (different : replacement ≠ unit)
    (text : List CodeUnit) :
    (repaired opens closes replacement text).count unit = text.count unit := by
  have keeps (other : CodeUnit) :
      ((if isPlain opens closes other then other else replacement) == unit) = (other == unit) := by
    split
    · rfl
    · rename_i notPlain
      have otherDiffers : other ≠ unit := by
        rintro rfl
        exact notPlain plain
      rw [beq_eq_false_iff_ne.mpr different, beq_eq_false_iff_ne.mpr otherDiffers]
  fun_induction repaired opens closes replacement text with
  | case1 => rfl
  | case2 other => rw [List.count_cons, List.count_cons, keeps]
  | case3 other next later isPair inductionHypothesis =>
    rw [List.count_cons, List.count_cons, inductionHypothesis, ← List.count_cons,
      ← List.count_cons]
  | case4 other next later notPair inductionHypothesis =>
    rw [List.count_cons, inductionHypothesis, keeps, ← List.count_cons]

end ImportService.Paired
