/-
This file develops records that are written as one text, field after field, with a
separator in between. What such a text keeps of the fields is their pieces, the fields cut
at every separator (`intercalate_eq_iff`): where a field may hold a separator of its own, it
does not keep which piece belongs to which field. With as many separators in each field the
pieces are enough (`eq_of_pieces_eq`).
-/

import Mathlib.Data.List.Basic

namespace ImportService.Delimited

variable {Symbol : Type*} [DecidableEq Symbol] (separator : Symbol)

/-- The pieces of the fields, in order. -/
def pieces (fields : List (List Symbol)) : List (List Symbol) :=
  fields.flatMap fun field => field.splitOn separator

theorem pieces_cons (field : List Symbol) (rest : List (List Symbol)) :
    pieces separator (field :: rest) = field.splitOn separator ++ pieces separator rest := rfl

theorem pieces_append (fields others : List (List Symbol)) :
    pieces separator (fields ++ others) = pieces separator fields ++ pieces separator others :=
  List.flatMap_append

/-- Fields without a separator are their own pieces. -/
theorem pieces_eq_self {fields : List (List Symbol)} (free : ∀ field ∈ fields, separator ∉ field) :
    pieces separator fields = fields := by
  induction fields with
  | nil => rfl
  | cons field rest inductionHypothesis =>
    rw [pieces_cons, List.splitOn_eq_singleton (free field List.mem_cons_self),
      inductionHypothesis fun other member => free other (List.mem_cons_of_mem _ member),
      List.singleton_append]

/-- Cutting the text gives the pieces of its fields. -/
theorem splitOn_intercalate {fields : List (List Symbol)} (notEmpty : fields ≠ []) :
    ([separator].intercalate fields).splitOn separator = pieces separator fields := by
  induction fields with
  | nil => exact absurd rfl notEmpty
  | cons field rest inductionHypothesis =>
    cases rest with
    | nil => rw [List.intercalate_singleton, pieces_cons, pieces, List.flatMap_nil, List.append_nil]
    | cons next others =>
      rw [List.intercalate_cons_cons, List.append_assoc, List.singleton_append,
        List.splitOn_append_cons_self, inductionHypothesis (List.cons_ne_nil next others),
        pieces_cons separator field]

theorem intercalate_pieces {fields : List (List Symbol)} (notEmpty : fields ≠ []) :
    [separator].intercalate (pieces separator fields) = [separator].intercalate fields := by
  rw [← splitOn_intercalate separator notEmpty, List.intercalate_splitOn]

/-- Two records have one text exactly when they have the same pieces. -/
theorem intercalate_eq_iff {fields others : List (List Symbol)} (notEmpty : fields ≠ [])
    (othersNotEmpty : others ≠ []) :
    [separator].intercalate fields = [separator].intercalate others ↔
      pieces separator fields = pieces separator others := by
  constructor
  · intro same
    rw [← splitOn_intercalate separator notEmpty, same,
      splitOn_intercalate separator othersNotEmpty]
  · intro same
    rw [← intercalate_pieces separator notEmpty, same, intercalate_pieces separator othersNotEmpty]

theorem length_splitOn (field : List Symbol) :
    (field.splitOn separator).length = field.count separator + 1 := by
  induction field with
  | nil => rfl
  | cons symbol rest inductionHypothesis =>
    rw [List.splitOn_cons_eq_if_modifyHead, List.count_cons]
    split
    · rw [List.length_cons, inductionHypothesis]
    · rw [List.length_modifyHead, inductionHypothesis]

/-- With as many separators in each field, the pieces tell the fields. -/
theorem eq_of_pieces_eq {fields others : List (List Symbol)}
    (samePieces : pieces separator fields = pieces separator others)
    (sameCounts : fields.map (List.count separator) = others.map (List.count separator)) :
    fields = others := by
  induction fields generalizing others with
  | nil => exact (List.map_eq_nil_iff.mp sameCounts.symm).symm
  | cons field rest inductionHypothesis =>
    cases others with
    | nil => cases sameCounts
    | cons other otherRest =>
      rw [List.map_cons, List.map_cons, List.cons.injEq] at sameCounts
      rw [pieces_cons, pieces_cons] at samePieces
      have sameLength : (field.splitOn separator).length = (other.splitOn separator).length := by
        rw [length_splitOn, length_splitOn, sameCounts.1]
      obtain ⟨sameFirst, sameRest⟩ := List.append_inj samePieces sameLength
      have sameField := congrArg (List.intercalate [separator]) sameFirst
      rw [List.intercalate_splitOn, List.intercalate_splitOn] at sameField
      rw [sameField, inductionHypothesis sameRest sameCounts.2]

end ImportService.Delimited
