/-
This file develops tables of rows that carry a key, as lists in insertion order:
looking a row up by its key, updating the rows a condition selects, and the
insert that skips the rows whose key is already there.

The insert is the interesting operation. `landing table rows` lists the rows of a
batch that get in: the first row of the batch for each key the table does not hold
yet. Seen through `lookup` the insert is the first-write-wins map
(`lookup_insertMissing`): a key keeps the row it has, and otherwise takes the first
row of the batch that carries it. Splitting a batch in two changes nothing
(`insertMissing_append`).
-/

import Mathlib.Data.List.Induction
import Mathlib.Data.List.Nodup

namespace ImportService.KeyedTable

variable {Row Key : Type} [DecidableEq Key] (key : Row → Key)

/-! ### Lookup and update -/

/-- The first row that carries the key. -/
def lookup (table : List Row) (wanted : Key) : Option Row :=
  table.find? fun row => decide (key row = wanted)

/-- Change a row if the condition selects it. -/
def updateRow (selects : Row → Bool) (change : Row → Row) (row : Row) : Row :=
  if selects row then change row else row

/-- Change the rows the condition selects and leave the others as they are. -/
def updateWhere (selects : Row → Bool) (change : Row → Row) (table : List Row) : List Row :=
  table.map (updateRow selects change)

theorem lookup_nil (wanted : Key) : lookup key [] wanted = none := rfl

theorem lookup_append (first second : List Row) (wanted : Key) :
    lookup key (first ++ second) wanted =
      (lookup key first wanted).or (lookup key second wanted) :=
  List.find?_append

theorem lookup_singleton (row : Row) (wanted : Key) :
    lookup key [row] wanted = if key row = wanted then some row else none := by
  by_cases same : key row = wanted <;> simp [lookup, same]

theorem lookup_cons (row : Row) (rest : List Row) (wanted : Key) :
    lookup key (row :: rest) wanted =
      if key row = wanted then some row else lookup key rest wanted := by
  by_cases same : key row = wanted <;> simp [lookup, same]

theorem lookup_mem {table : List Row} {wanted : Key} {row : Row}
    (found : lookup key table wanted = some row) : row ∈ table :=
  List.mem_of_find?_eq_some found

theorem lookup_key {table : List Row} {wanted : Key} {row : Row}
    (found : lookup key table wanted = some row) : key row = wanted := by
  have selected := List.find?_some found
  exact of_decide_eq_true selected

theorem lookup_eq_none {table : List Row} {wanted : Key} :
    lookup key table wanted = none ↔ ∀ row ∈ table, key row ≠ wanted := by
  simp [lookup]

theorem lookup_isSome {table : List Row} {wanted : Key} :
    (lookup key table wanted).isSome ↔ ∃ row ∈ table, key row = wanted := by
  simp [lookup]

/-- With distinct keys, every row of the table is the one its key looks up. -/
theorem lookup_of_mem {table : List Row} (distinct : (table.map key).Nodup) {row : Row}
    (member : row ∈ table) : lookup key table (key row) = some row := by
  induction table with
  | nil => cases member
  | cons head rest inductionHypothesis =>
    rw [List.map_cons, List.nodup_cons] at distinct
    rw [lookup_cons]
    rcases List.mem_cons.mp member with rfl | later
    · rw [if_pos rfl]
    · have different : key head ≠ key row := by
        intro same
        exact distinct.1 (same ▸ List.mem_map_of_mem later)
      rw [if_neg different]
      exact inductionHypothesis distinct.2 later

/-- A row with a new key keeps the keys distinct. -/
theorem distinct_snoc {table : List Row} (distinct : (table.map key).Nodup) {row : Row}
    (missing : lookup key table (key row) = none) : ((table ++ [row]).map key).Nodup := by
  rw [List.map_append, List.nodup_append]
  refine ⟨distinct, List.nodup_singleton _, ?_⟩
  rintro stored storedMember fresh freshMember rfl
  obtain ⟨old, oldMember, oldKey⟩ := List.mem_map.mp storedMember
  have freshKey : stored = key row := List.mem_singleton.mp freshMember
  exact (lookup_eq_none key).mp missing old oldMember (oldKey.trans freshKey)

/-- A change of the rows of one key, where only the last row has it. -/
theorem updateWhere_snoc {table : List Row} {selects : Row → Bool} {row : Row}
    (change : Row → Row) (others : ∀ other ∈ table, selects other = false)
    (selected : selects row = true) :
    updateWhere selects change (table ++ [row]) = table ++ [change row] := by
  have unchanged : table.map (updateRow selects change) = table :=
    calc table.map (updateRow selects change) = table.map id :=
          List.map_congr_left fun other member => by
            rw [updateRow, others other member, if_neg Bool.false_ne_true, id]
      _ = table := List.map_id table
  rw [updateWhere, List.map_append, unchanged, List.map_singleton, updateRow, if_pos selected]

omit [DecidableEq Key] in
theorem updateRow_key {selects : Row → Bool} {change : Row → Row}
    (keepsKey : ∀ row, key (change row) = key row) (row : Row) :
    key (updateRow selects change row) = key row := by
  unfold updateRow
  split
  · exact keepsKey row
  · rfl

/-- Looking a key up among rows that are made from others is making a row from the one looked up
among those. -/
theorem lookup_map {Source : Type} {sourceKey : Source → Key} (make : Source → Row)
    (sameKey : ∀ source, key (make source) = sourceKey source) (sources : List Source)
    (wanted : Key) :
    lookup key (sources.map make) wanted = (lookup sourceKey sources wanted).map make := by
  have sameTest : (fun row => decide (key row = wanted)) ∘ make =
      fun source => decide (sourceKey source = wanted) := by
    funext source
    simp only [Function.comp_apply, sameKey]
  rw [lookup, List.find?_map, sameTest]
  rfl

omit [DecidableEq Key] in
theorem map_key_map (change : Row → Row) (keepsKey : ∀ row, key (change row) = key row)
    (table : List Row) : (table.map change).map key = table.map key := by
  rw [List.map_map]
  exact List.map_congr_left fun row _ => keepsKey row

/-! ### The insert that skips conflicting rows -/

/-- The rows of a batch that an insert skipping key conflicts lets in. A row conflicts with
the table and with the rows of its own batch that landed before it. -/
def landing (table : List Row) : List Row → List Row
  | [] => []
  | row :: rest =>
      if (lookup key table (key row)).isSome then landing table rest
      else row :: landing (table ++ [row]) rest

/-- The table after the insert. -/
def insertMissing (table rows : List Row) : List Row := table ++ landing key table rows

theorem insertMissing_nil (table : List Row) : insertMissing key table [] = table :=
  List.append_nil table

theorem insertMissing_cons (table : List Row) (row : Row) (rest : List Row) :
    insertMissing key table (row :: rest) =
      if (lookup key table (key row)).isSome then insertMissing key table rest
      else insertMissing key (table ++ [row]) rest := by
  unfold insertMissing
  rw [landing]
  split
  · rfl
  · rw [List.append_assoc]
    rfl

theorem landing_append (table first second : List Row) :
    landing key table (first ++ second) =
      landing key table first ++ landing key (insertMissing key table first) second := by
  induction first generalizing table with
  | nil => rw [List.nil_append, insertMissing_nil]; rfl
  | cons row rest inductionHypothesis =>
    rw [List.cons_append, landing, landing, insertMissing_cons]
    split
    · exact inductionHypothesis table
    · rw [inductionHypothesis, List.cons_append]

/-- Inserting a batch is inserting its parts one after the other. -/
theorem insertMissing_append (table first second : List Row) :
    insertMissing key table (first ++ second) =
      insertMissing key (insertMissing key table first) second := by
  conv_lhs => rw [insertMissing, landing_append, ← List.append_assoc]
  rfl

/-- First write wins: a key keeps the row it has, and otherwise takes the first row of the
batch that carries it. -/
theorem lookup_insertMissing (table rows : List Row) (wanted : Key) :
    lookup key (insertMissing key table rows) wanted =
      (lookup key table wanted).or (lookup key rows wanted) := by
  induction rows generalizing table with
  | nil => rw [insertMissing_nil, lookup_nil, Option.or_none]
  | cons row rest inductionHypothesis =>
    rw [insertMissing_cons, lookup_cons]
    split
    · rename_i taken
      rw [inductionHypothesis]
      by_cases same : key row = wanted
      · obtain ⟨stored, found⟩ := Option.isSome_iff_exists.mp taken
        rw [← same, found]
        rfl
      · rw [if_neg same]
    · rw [inductionHypothesis, lookup_append, lookup_singleton, Option.or_assoc]
      by_cases same : key row = wanted
      · rw [if_pos same, if_pos same]
        rfl
      · rw [if_neg same, if_neg same, Option.none_or]

/-- A row that lands carries a key the table did not hold, and is the first of the batch to
carry it. -/
theorem mem_landing {table rows : List Row} {row : Row} (lands : row ∈ landing key table rows) :
    lookup key table (key row) = none ∧ lookup key rows (key row) = some row := by
  induction rows generalizing table with
  | nil => cases lands
  | cons head rest inductionHypothesis =>
    rw [landing] at lands
    rw [lookup_cons]
    split at lands
    · rename_i taken
      obtain ⟨missing, first⟩ := inductionHypothesis lands
      have different : key head ≠ key row := by
        intro same
        rw [same, missing] at taken
        cases taken
      exact ⟨missing, by rw [if_neg different]; exact first⟩
    · rename_i free
      rcases List.mem_cons.mp lands with rfl | later
      · exact ⟨Option.not_isSome_iff_eq_none.mp free, by rw [if_pos rfl]⟩
      · obtain ⟨missing, first⟩ := inductionHypothesis later
        rw [lookup_append, lookup_singleton, Option.or_eq_none_iff] at missing
        have different : key head ≠ key row := by
          intro same
          rw [if_pos same] at missing
          cases missing.2
        exact ⟨missing.1, by rw [if_neg different]; exact first⟩

/-- The rows that land keep the order of the batch. -/
theorem landing_sublist (table rows : List Row) : (landing key table rows).Sublist rows := by
  induction rows generalizing table with
  | nil => exact List.Sublist.refl []
  | cons row rest inductionHypothesis =>
    rw [landing]
    split
    · exact (inductionHypothesis table).cons row
    · exact (inductionHypothesis (table ++ [row])).cons_cons row

/-- The insert keeps the keys of the table distinct. -/
theorem insertMissing_distinct {table : List Row} (distinct : (table.map key).Nodup)
    (rows : List Row) : ((insertMissing key table rows).map key).Nodup := by
  induction rows generalizing table with
  | nil => rwa [insertMissing_nil]
  | cons row rest inductionHypothesis =>
    rw [insertMissing_cons]
    split
    · exact inductionHypothesis distinct
    · rename_i free
      exact inductionHypothesis
        (distinct_snoc key distinct (Option.not_isSome_iff_eq_none.mp free))

/-! ### Indexes -/

section

variable {Label Value : Type} [DecidableEq Label]

/-- The values of the rows by a label; of the rows with one label the last is kept. -/
def indexed (label : Row → Label) (value : Row → Value) (rows : List Row) :
    Label → Option Value :=
  rows.foldl (fun index row => Function.update index (label row) (some (value row)))
    fun _ => none

theorem indexed_snoc (label : Row → Label) (value : Row → Value) (rows : List Row) (row : Row)
    (wanted : Label) :
    indexed label value (rows ++ [row]) wanted =
      if label row = wanted then some (value row) else indexed label value rows wanted := by
  rw [indexed, List.foldl_append, List.foldl_cons, List.foldl_nil, ← indexed]
  by_cases same : label row = wanted
  · rw [if_pos same, ← same, Function.update_self]
  · rw [if_neg same, Function.update_of_ne fun equal => same equal.symm]

/-- An index whose rows agree on a label has their value under it. -/
theorem indexed_eq {label : Row → Label} {value : Row → Value} {rows : List Row} {wanted : Label}
    {result : Option Value} (agree : ∀ row ∈ rows, label row = wanted → some (value row) = result)
    (absent : (∀ row ∈ rows, label row ≠ wanted) → result = none) :
    indexed label value rows wanted = result := by
  induction rows using List.reverseRecOn with
  | nil => exact (absent fun _ member => by cases member).symm
  | append_singleton rows row inductionHypothesis =>
    rw [indexed_snoc]
    by_cases same : label row = wanted
    · rw [if_pos same]
      exact agree row (List.mem_append_right _ (List.mem_singleton_self row)) same
    · rw [if_neg same]
      refine inductionHypothesis (fun other member => agree other (List.mem_append_left _ member))
        fun others => absent fun other member => ?_
      rcases List.mem_append.mp member with earlier | last
      · exact others other earlier
      · rw [List.mem_singleton.mp last]
        exact same

/-- An index of the rows that a query for some keys returns, in any order, where the query looks
for another form of each key, the one in which the table has its keys. It answers for each key
what the table has under it exactly when no row that is returned has the label of a key and
another value than the table has under that key. -/
theorem indexed_exact_iff {table : List Row} (distinct : (table.map key).Nodup)
    (label : Key → Label) (value : Row → Value) {keys : List Key} {form : Key → Key}
    {selects : Row → Bool} (selected : ∀ row, selects row = true ↔ key row ∈ keys.map form)
    (formed : ∀ row ∈ table, form (key row) = key row) :
    (∀ rows, rows.Perm (table.filter selects) → ∀ wanted ∈ keys,
      indexed (fun row => label (key row)) value rows (label wanted) =
        (lookup key table wanted).map value) ↔
      ∀ wanted ∈ keys, ∀ other ∈ keys, label wanted = label (form other) →
        ∀ answer, (lookup key table (form other)).map value = some answer →
          (lookup key table wanted).map value = some answer := by
  constructor
  · intro answers wanted wantedMember other otherMember same answer answered
    obtain ⟨row, found, rfl⟩ := Option.map_eq_some_iff.mp answered
    have member : row ∈ table.filter selects := by
      rw [List.mem_filter, selected, lookup_key key found]
      exact ⟨lookup_mem key found, List.mem_map_of_mem otherMember⟩
    obtain ⟨before, after, split⟩ := List.append_of_mem member
    -- the row may be the last one to be returned
    have permutes : (before ++ after ++ [row]).Perm (table.filter selects) := by
      rw [split]
      exact (List.perm_append_singleton row _).trans List.perm_middle.symm
    rw [← answers _ permutes wanted wantedMember, indexed_snoc, lookup_key key found,
      if_pos same.symm]
  · intro agree rows permutes wanted wantedMember
    have returned {row : Row} : row ∈ rows ↔ row ∈ table ∧ key row ∈ keys.map form := by
      rw [permutes.mem_iff, List.mem_filter, selected]
    refine indexed_eq (fun row member same => ?_) fun others => ?_
    · obtain ⟨stored, requested⟩ := returned.mp member
      obtain ⟨other, otherMember, isKey⟩ := List.mem_map.mp requested
      refine (agree wanted wantedMember other otherMember ?_ (value row) ?_).symm
      · rw [isKey, same]
      · rw [isKey, lookup_of_mem key distinct stored, Option.map_some]
    · refine Option.map_eq_none_iff.mpr ((lookup_eq_none key).mpr fun row stored same => ?_)
      refine others row (returned.mpr ⟨stored, ?_⟩) (congrArg label same)
      rw [← formed row stored, same]
      exact List.mem_map_of_mem wantedMember

end

end ImportService.KeyedTable
