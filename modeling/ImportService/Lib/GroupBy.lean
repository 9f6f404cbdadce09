/-
This file develops grouping as SQL's `GROUP BY` does it: one group for every key that
occurs, with the rows that have it. A total over all rows can be taken group by group
(`sum_groupBy`), in whatever order the groups are listed.
-/

import Mathlib.Algebra.BigOperators.Group.List.Basic
import Mathlib.Algebra.GroupWithZero.Nat
import Mathlib.Data.List.Dedup

namespace ImportService.GroupBy

variable {Row Key : Type} [DecidableEq Key]

/-- The rows of a group. -/
def rowsOf (key : Row → Key) (rows : List Row) (group : Key) : List Row :=
  rows.filter fun row => key row = group

/-- The rows in groups by a key. -/
def groupBy (key : Row → Key) (rows : List Row) : List (Key × List Row) :=
  (rows.map key).dedup.map fun group => (group, rowsOf key rows group)

variable {Total : Type} [AddCommMonoid Total]

/-- One row counts in the group of its key and in no other. -/
theorem sum_ite_eq {groups : List Key} (distinct : groups.Nodup) {group : Key}
    (member : group ∈ groups) (value : Total) :
    (groups.map fun other => if group = other then value else 0).sum = value := by
  rw [List.sum_map_eq_nsmul_single group _ fun other unequal _ => if_neg (Ne.symm unequal),
    List.count_eq_one_of_mem distinct member, if_pos rfl, one_nsmul]

theorem sum_rowsOf (key : Row → Key) (value : Row → Total) {groups : List Key}
    (distinct : groups.Nodup) (rows : List Row) (covered : ∀ row ∈ rows, key row ∈ groups) :
    (groups.map fun group => ((rowsOf key rows group).map value).sum).sum =
      (rows.map value).sum := by
  induction rows with
  | nil => simp [rowsOf]
  | cons row rest inductionHypothesis =>
    have here : key row ∈ groups := covered row List.mem_cons_self
    have split : ∀ group, ((rowsOf key (row :: rest) group).map value).sum =
        (if key row = group then value row else 0) + ((rowsOf key rest group).map value).sum := by
      intro group
      by_cases same : key row = group <;> simp [rowsOf, same]
    simp only [split, List.sum_map_add]
    rw [sum_ite_eq distinct here,
      inductionHypothesis fun other member => covered other (List.mem_cons_of_mem row member),
      List.map_cons, List.sum_cons]

/-- A total over all rows, taken group by group. -/
theorem sum_groupBy (key : Row → Key) (value : Row → Total) (rows : List Row) :
    ((groupBy key rows).map fun group => (group.2.map value).sum).sum = (rows.map value).sum := by
  rw [groupBy, List.map_map]
  refine sum_rowsOf key value (List.nodup_dedup _) rows fun row member => ?_
  exact List.mem_dedup.mpr (List.mem_map_of_mem member)

/-- The number of all rows, counted group by group. -/
theorem sum_length_groupBy (key : Row → Key) (rows : List Row) :
    ((groupBy key rows).map fun group => group.2.length).sum = rows.length := by
  have counted := sum_groupBy key (fun _ => 1) rows
  simpa using counted

end ImportService.GroupBy
