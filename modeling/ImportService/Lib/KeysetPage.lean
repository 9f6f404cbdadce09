/-
This file develops keyset pagination over rows with keys from a linear order: the rows
past a cursor, sorted by their key, are handed out a page at a time, and the last key of
a page is the cursor for the next one. A page of a sorted list is its first rows, and
says where the others go on.

A walk goes right because of two facts. Every row of the list is on the page or past its
cursor (`covers`), which survives rows that are added later. And the rows past the cursor
of a page are the sorted list without the page (`sorted_past_next`), which makes a walk
over unchanged rows come to an end.
-/

import Mathlib.Data.List.Sort

namespace ImportService.KeysetPage

variable {Row Key : Type}

/-! ### Pages -/

/-- The rows of a page, and the key at which the next one begins. -/
structure Page (Row Key : Type) where
  items : List Row
  next : Option Key

/-- The first rows of a list, and the key of the last of them if there are more. -/
def page (key : Row → Key) (limit : Nat) (rows : List Row) : Page Row Key where
  items := rows.take limit
  next := if limit < rows.length then (rows.take limit).getLast?.map key else none

section

variable {key : Row → Key}

/-- One row beyond the limit is enough to make the page. -/
theorem page_take_succ (limit : Nat) (rows : List Row) :
    page key limit (rows.take (limit + 1)) = page key limit rows := by
  have sameItems : (rows.take (limit + 1)).take limit = rows.take limit := by
    rw [List.take_take, Nat.min_eq_left (Nat.le_succ limit)]
  have sameTest : limit < (rows.take (limit + 1)).length ↔ limit < rows.length := by
    rw [List.length_take]
    omega
  simp only [page, sameItems, sameTest]

/-- The cursor of a page is the key of its last row, and the list goes on after it. -/
theorem next_eq_some {limit : Nat} {rows : List Row} {last : Key}
    (next : (page key limit rows).next = some last) :
    ∃ before row, key row = last ∧ (page key limit rows).items = before ++ [row] ∧
      rows = before ++ row :: rows.drop limit := by
  rw [page] at next
  split at next
  · obtain ⟨row, isLast, rfl⟩ := Option.map_eq_some_iff.mp next
    obtain ⟨before, taken⟩ := List.getLast?_eq_some_iff.mp isLast
    refine ⟨before, row, rfl, taken, ?_⟩
    calc rows = rows.take limit ++ rows.drop limit := (List.take_append_drop limit rows).symm
      _ = before ++ row :: rows.drop limit := by rw [taken, List.append_assoc]; rfl
  · cases next

theorem exists_item_of_next {limit : Nat} {rows : List Row} {last : Key}
    (next : (page key limit rows).next = some last) :
    ∃ row ∈ (page key limit rows).items, key row = last := by
  obtain ⟨before, row, isLast, items, _⟩ := next_eq_some next
  exact ⟨row, items ▸ List.mem_append_right before List.mem_cons_self, isLast⟩

theorem length_of_next_eq_some {limit : Nat} {rows : List Row} {last : Key}
    (next : (page key limit rows).next = some last) : limit < rows.length := by
  rw [page] at next
  split at next
  · assumption
  · cases next

/-- A page without a cursor holds the whole list. -/
theorem items_of_next_eq_none {limit : Nat} (positive : 0 < limit) {rows : List Row}
    (next : (page key limit rows).next = none) : (page key limit rows).items = rows := by
  rw [page] at next
  split at next
  · rename_i more
    rw [Option.map_eq_none_iff, List.getLast?_eq_none_iff, List.take_eq_nil_iff] at next
    rcases next with zero | rfl
    · exact absurd zero positive.ne'
    · exact absurd more (Nat.not_lt_zero limit)
  · rename_i within
    exact List.take_of_length_le (Nat.le_of_not_lt within)

end

variable [LinearOrder Key] (key : Row → Key)

/-! ### Sorted rows -/

/-- The rows are in strictly increasing order of their keys. -/
def Ascending (rows : List Row) : Prop := rows.Pairwise fun first second => key first < key second

/-- The rows in the order of their keys. -/
def sorted (rows : List Row) : List Row :=
  rows.mergeSort fun first second => decide (key first ≤ key second)

/-- The row lies past a cursor. Before the first page there is none. -/
def isPast (cursor : Option Key) (row : Row) : Bool :=
  cursor.all fun last => decide (last < key row)

variable {key}

theorem mem_sorted {rows : List Row} {row : Row} : row ∈ sorted key rows ↔ row ∈ rows :=
  List.mem_mergeSort

theorem ascending_sorted {rows : List Row} (distinct : (rows.map key).Nodup) :
    Ascending key (sorted key rows) := by
  have ordered : (sorted key rows).Pairwise fun first second => key first ≤ key second := by
    refine (List.pairwise_mergeSort ?_ ?_ rows).imp fun related => of_decide_eq_true related
    · intro first second third below above
      exact decide_eq_true ((of_decide_eq_true below).trans (of_decide_eq_true above))
    · intro first second
      rw [Bool.or_eq_true, decide_eq_true_iff, decide_eq_true_iff]
      exact le_total _ _
  have unequal : (sorted key rows).Pairwise fun first second => key first ≠ key second := by
    rw [← List.pairwise_map]
    exact ((List.mergeSort_perm rows _).map key).nodup_iff.mpr distinct
  exact ordered.imp₂ (fun _ _ => lt_of_le_of_ne) unequal

/-- Ascending lists with the same rows are the same list. -/
theorem Ascending.ext {first second : List Row} (firstAscending : Ascending key first)
    (secondAscending : Ascending key second) (same : ∀ row, row ∈ first ↔ row ∈ second) :
    first = second := by
  have nodup {rows : List Row} (ascending : Ascending key rows) : rows.Nodup :=
    ascending.imp fun below equal => absurd (congrArg key equal) below.ne
  refine List.Perm.eq_of_pairwise (fun _ _ _ _ below above => absurd below above.not_gt)
    firstAscending secondAscending ?_
  exact (List.perm_ext_iff_of_nodup (nodup firstAscending) (nodup secondAscending)).mpr same

/-! ### A page of sorted rows -/

theorem ascending_items {rows : List Row} (ascending : Ascending key rows) (limit : Nat) :
    Ascending key (page key limit rows).items := ascending.sublist (List.take_sublist limit rows)

/-- The rows of a page are at or before its cursor. -/
theorem le_next {rows : List Row} (ascending : Ascending key rows) {limit : Nat} {last : Key}
    (next : (page key limit rows).next = some last) {row : Row}
    (member : row ∈ (page key limit rows).items) : key row ≤ last := by
  obtain ⟨before, final, rfl, items, split⟩ := next_eq_some next
  rw [items, List.mem_append, List.mem_singleton] at member
  rw [split, Ascending, List.pairwise_append] at ascending
  rcases member with earlier | rfl
  · exact (ascending.2.2 row earlier final List.mem_cons_self).le
  · exact le_rfl

/-- The rows past the cursor of a page are the rest of the list. -/
theorem filter_past_next {rows : List Row} (ascending : Ascending key rows) {limit : Nat}
    {last : Key} (next : (page key limit rows).next = some last) :
    rows.filter (isPast key (some last)) = rows.drop limit := by
  have onPage : ∀ row ∈ (page key limit rows).items, isPast key (some last) row = false :=
    fun row member => decide_eq_false (le_next ascending next member).not_gt
  obtain ⟨before, final, rfl, items, split⟩ := next_eq_some next
  rw [split, Ascending, List.pairwise_append, List.pairwise_cons] at ascending
  have past : ∀ row ∈ rows.drop limit, isPast key (some (key final)) row = true :=
    fun row member => decide_eq_true (ascending.2.1.1 row member)
  have none_past : (rows.take limit).filter (isPast key (some (key final))) = [] :=
    List.filter_eq_nil_iff.mpr fun row member => ne_true_of_eq_false (onPage row member)
  calc rows.filter (isPast key (some (key final)))
      = (rows.take limit ++ rows.drop limit).filter (isPast key (some (key final))) := by
        rw [List.take_append_drop]
    _ = rows.drop limit := by
        rw [List.filter_append, none_past, List.nil_append, List.filter_eq_self.mpr past]

/-- Every row of the list is on the page or past its cursor. -/
theorem covers {rows : List Row} (ascending : Ascending key rows) {limit : Nat}
    (positive : 0 < limit) {row : Row} (member : row ∈ rows) :
    row ∈ (page key limit rows).items ∨
      ∃ last, (page key limit rows).next = some last ∧ last < key row := by
  cases next : (page key limit rows).next with
  | none =>
    rw [items_of_next_eq_none positive next]
    exact Or.inl member
  | some last =>
    rw [← List.take_append_drop limit rows, List.mem_append] at member
    refine member.imp id fun dropped => ⟨last, rfl, ?_⟩
    rw [← filter_past_next ascending next, List.mem_filter] at dropped
    exact of_decide_eq_true dropped.2

/-! ### A page after a cursor -/

/-- The sorted rows past a cursor. -/
def remaining (key : Row → Key) (cursor : Option Key) (rows : List Row) : List Row :=
  sorted key (rows.filter (isPast key cursor))

theorem remaining_none (rows : List Row) : remaining key none rows = sorted key rows := by
  have everything : rows.filter (isPast key none) = rows :=
    List.filter_eq_self.mpr fun _ _ => rfl
  rw [remaining, everything]

theorem mem_remaining {cursor : Option Key} {rows : List Row} {row : Row} :
    row ∈ remaining key cursor rows ↔ row ∈ rows ∧ isPast key cursor row = true := by
  rw [remaining, mem_sorted, List.mem_filter]

theorem ascending_remaining {rows : List Row} (distinct : (rows.map key).Nodup)
    (cursor : Option Key) : Ascending key (remaining key cursor rows) :=
  ascending_sorted (distinct.sublist (List.filter_sublist.map key))

/-- Past the cursor of a page, the remaining rows are those the page left. -/
theorem remaining_next {rows : List Row} (distinct : (rows.map key).Nodup) {cursor : Option Key}
    {limit : Nat} {last : Key}
    (next : (page key limit (remaining key cursor rows)).next = some last) :
    remaining key (some last) rows = (remaining key cursor rows).drop limit := by
  have ascending := ascending_remaining distinct cursor
  have further : ∀ row, isPast key (some last) row = true → isPast key cursor row = true := by
    obtain ⟨before, final, rfl, items, split⟩ := next_eq_some next
    have member : final ∈ remaining key cursor rows := by
      rw [split]
      exact List.mem_append_right before List.mem_cons_self
    have finalPast := (mem_remaining.mp member).2
    intro row past
    cases cursor with
    | none => rfl
    | some start =>
      exact decide_eq_true ((of_decide_eq_true finalPast).trans (of_decide_eq_true past))
  refine (ascending_remaining distinct _).ext (ascending.sublist (List.drop_sublist _ _)) ?_
  intro row
  rw [← filter_past_next ascending next, List.mem_filter, mem_remaining, mem_remaining]
  exact ⟨fun ⟨member, past⟩ => ⟨⟨member, further row past⟩, past⟩,
    fun ⟨⟨member, _⟩, past⟩ => ⟨member, past⟩⟩

end ImportService.KeysetPage
