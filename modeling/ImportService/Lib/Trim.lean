/-
This file is about lists with unwanted items in them: leading and trailing ones that are
trimmed off, and items that are filtered out wherever they stand. Doing both leaves a list
that neither changes any more.
-/

import Mathlib.Data.List.DropRight
import Mathlib.Data.List.TakeWhile

namespace ImportService.Trim

variable {Item : Type*} (isSpace isControl : Item → Bool)

/-! ### Trimming both ends -/

/-- Drop the leading and the trailing spaces. -/
def trim (items : List Item) : List Item := (items.dropWhile isSpace).rdropWhile isSpace

/-- The list neither starts nor ends with a space. -/
structure IsTrimmed (items : List Item) : Prop where
  start : ∀ item ∈ items.head?, isSpace item = false
  finish : ∀ item ∈ items.getLast?, isSpace item = false

theorem trim_sublist (items : List Item) : (trim isSpace items).Sublist items :=
  (List.rdropWhile_prefix isSpace _).sublist.trans (List.dropWhile_sublist isSpace)

theorem isTrimmed_trim (items : List Item) : IsTrimmed isSpace (trim isSpace items) where
  start := by
    intro item isHead
    rw [Option.mem_def, trim] at isHead
    obtain ⟨rest, isRest⟩ := List.rdropWhile_prefix isSpace (items.dropWhile isSpace)
    have isFirst : (items.dropWhile isSpace).head? = some item := by
      rw [← isRest, List.head?_append, isHead, Option.some_or]
    have notSpace := List.head?_dropWhile_not isSpace items
    rw [isFirst] at notSpace
    exact notSpace
  finish := by
    intro item isLast
    obtain ⟨notEmpty, rfl⟩ := List.mem_getLast?_eq_getLast isLast
    exact Bool.eq_false_iff.mpr (List.rdropWhile_last_not isSpace _ notEmpty)

theorem trim_eq_self {items : List Item} (trimmed : IsTrimmed isSpace items) :
    trim isSpace items = items := by
  have keepsStart : items.dropWhile isSpace = items := by
    refine List.dropWhile_eq_self_iff.mpr fun notEmpty => ?_
    rw [trimmed.start _ (List.head?_eq_getElem? ▸ List.getElem?_eq_getElem notEmpty)]
    exact Bool.false_ne_true
  have keepsEnd : items.rdropWhile isSpace = items := by
    refine List.rdropWhile_eq_self_iff.mpr fun notEmpty => ?_
    rw [trimmed.finish _ (List.getLast?_eq_some_getLast notEmpty)]
    exact Bool.false_ne_true
  rw [trim, keepsStart, keepsEnd]

/-! ### Filtering, then trimming -/

/-- Drop the control items, and the spaces at both ends of what is left. -/
def clean (items : List Item) : List Item :=
  trim isSpace (items.filter fun item => !isControl item)

/-- The list has no control item, and no space at either end. -/
structure IsClean (items : List Item) : Prop extends IsTrimmed isSpace items where
  noControl : ∀ item ∈ items, isControl item = false

theorem isClean_clean (items : List Item) :
    IsClean isSpace isControl (clean isSpace isControl items) where
  toIsTrimmed := isTrimmed_trim isSpace _
  noControl := by
    intro item member
    have kept := List.of_mem_filter ((trim_sublist isSpace _).mem member)
    exact Bool.not_eq_true' _ ▸ kept

theorem clean_eq_self {items : List Item} (isClean : IsClean isSpace isControl items) :
    clean isSpace isControl items = items := by
  have keeps : items.filter (fun item => !isControl item) = items :=
    List.filter_eq_self.mpr fun item member => by rw [isClean.noControl item member]; rfl
  rw [clean, keeps, trim_eq_self isSpace isClean.toIsTrimmed]

theorem isClean_nil : IsClean isSpace isControl ([] : List Item) :=
  isClean_clean isSpace isControl []

end ImportService.Trim
