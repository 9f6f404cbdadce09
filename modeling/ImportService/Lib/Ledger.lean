/-
This file develops the bookkeeping of work that is handed out: an item waits, or is in the
hand of a party that takes one item at a time, or is done. The books are in order when the
three lists together are a rearrangement of all items (`Accounted`). Moving an item from one
list to the next keeps them in order, and while they are, no item is lost and none is done
twice.
-/

import Mathlib.Data.List.Perm.Basic
import Mathlib.Data.List.Nodup
import Mathlib.Logic.Function.Basic

namespace ImportService.Ledger

variable {Item Party : Type*}

/-! ### Items in hand -/

/-- The items the parties have in hand. -/
def inHand (hand : Party → Option Item) (parties : List Party) : List Item :=
  parties.filterMap hand

theorem inHand_congr {hand other : Party → Option Item} {parties : List Party}
    (same : ∀ party ∈ parties, hand party = other party) :
    inHand hand parties = inHand other parties :=
  List.filterMap_congr same

theorem inHand_eq_nil_iff {hand : Party → Option Item} {parties : List Party} :
    inHand hand parties = [] ↔ ∀ party ∈ parties, hand party = none :=
  List.filterMap_eq_nil_iff

section

variable [DecidableEq Party] {hand : Party → Option Item} {parties : List Party} {party : Party}
  {item : Item}

/-- A party that has nothing in hand takes an item. -/
theorem inHand_update_some (distinct : parties.Nodup) (member : party ∈ parties)
    (free : hand party = none) :
    (inHand (Function.update hand party (some item)) parties).Perm
      (item :: inHand hand parties) := by
  induction parties with
  | nil => cases member
  | cons other rest inductionHypothesis =>
    rw [List.nodup_cons] at distinct
    rcases List.mem_cons.mp member with rfl | later
    · have same : inHand (Function.update hand party (some item)) rest = inHand hand rest := by
        refine inHand_congr fun other isOther => Function.update_of_ne ?_ _ _
        rintro rfl
        exact distinct.1 isOther
      rw [inHand, inHand, List.filterMap_cons_some (Function.update_self party _ hand),
        List.filterMap_cons_none free, ← inHand, same, inHand]
    · have different : other ≠ party := by
        rintro rfl
        exact distinct.1 later
      have tail := inductionHypothesis distinct.2 later
      have sameHand : Function.update hand party (some item) other = hand other :=
        Function.update_of_ne different _ _
      cases has : hand other with
      | none =>
        rw [inHand, inHand, List.filterMap_cons_none (sameHand.trans has),
          List.filterMap_cons_none has]
        exact tail
      | some held =>
        rw [inHand, inHand, List.filterMap_cons_some (sameHand.trans has),
          List.filterMap_cons_some has]
        exact (tail.cons held).trans (List.Perm.swap item held _)

/-- A party puts down the item it has in hand. -/
theorem inHand_update_none (distinct : parties.Nodup) (member : party ∈ parties)
    (holds : hand party = some item) :
    (inHand hand parties).Perm
      (item :: inHand (Function.update hand party none) parties) := by
  have taken : (inHand (Function.update (Function.update hand party none) party (some item))
      parties).Perm (item :: inHand (Function.update hand party none) parties) :=
    inHand_update_some distinct member (Function.update_self party none hand)
  rwa [Function.update_idem, ← holds, Function.update_eq_self] at taken

end

/-- Parties without anything in hand make no difference. -/
theorem inHand_perm_of_subset {hand : Party → Option Item} {parties others : List Party}
    (distinct : parties.Nodup) (othersDistinct : others.Nodup) (subset : parties ⊆ others)
    (free : ∀ party ∈ others, party ∉ parties → hand party = none) :
    (inHand hand others).Perm (inHand hand parties) := by
  classical
  have split : others.Perm (parties ++ others.filter fun party => decide (party ∉ parties)) := by
    refine (List.perm_ext_iff_of_nodup othersDistinct ?_).mpr fun party => ?_
    · refine List.nodup_append.mpr ⟨distinct, othersDistinct.filter _, ?_⟩
      rintro party member other isOther rfl
      exact of_decide_eq_true (List.mem_filter.mp isOther).2 member
    · rw [List.mem_append, List.mem_filter, decide_eq_true_eq]
      constructor
      · intro member
        exact (em (party ∈ parties)).imp_right fun free => ⟨member, free⟩
      · rintro (member | ⟨member, _⟩)
        · exact subset member
        · exact member
  have nothing : inHand hand (others.filter fun party => decide (party ∉ parties)) = [] := by
    refine inHand_eq_nil_iff.mpr fun party member => ?_
    obtain ⟨isOther, notParty⟩ := List.mem_filter.mp member
    exact free party isOther (of_decide_eq_true notParty)
  have parts : (parties ++ others.filter fun party => decide (party ∉ parties)).filterMap hand =
      inHand hand parties := by
    rw [List.filterMap_append, ← inHand, ← inHand, nothing, List.append_nil]
  rw [← parts]
  exact split.filterMap hand

/-! ### The books -/

/-- Every item waits, is in hand or is done, and in one way only. -/
def Accounted (waiting held done items : List Item) : Prop :=
  (waiting ++ held ++ done).Perm items

variable {waiting held done items : List Item} {item : Item}

theorem accounted_nil : Accounted ([] : List Item) [] [] [] := List.Perm.refl []

theorem accounted_iff_count [DecidableEq Item] :
    Accounted waiting held done items ↔
      ∀ item, waiting.count item + held.count item + done.count item = items.count item := by
  simp only [Accounted, List.perm_iff_count, List.count_append]

/-- A new item waits. -/
theorem Accounted.submit (accounted : Accounted waiting held done items) (item : Item) :
    Accounted (waiting ++ [item]) held done (items ++ [item]) := by
  classical
  rw [accounted_iff_count] at *
  intro other
  have before := accounted other
  rw [List.count_append, List.count_append]
  omega

/-- A new item is done at once. -/
theorem Accounted.submitDone (accounted : Accounted waiting held done items) (item : Item) :
    Accounted waiting held (done ++ [item]) (items ++ [item]) := by
  unfold Accounted at *
  rw [← List.append_assoc]
  exact accounted.append_right [item]

/-- The first item that waits is taken in hand. -/
theorem Accounted.start {later : List Item}
    (accounted : Accounted (item :: waiting) held done items)
    (takes : later.Perm (item :: held)) : Accounted waiting later done items := by
  classical
  rw [accounted_iff_count] at *
  intro other
  have before := accounted other
  have taken := takes.count_eq other
  rw [List.count_cons] at before taken
  omega

/-- An item in hand is done. -/
theorem Accounted.finish {later : List Item} (accounted : Accounted waiting held done items)
    (gives : held.Perm (item :: later)) : Accounted waiting later (done ++ [item]) items := by
  classical
  rw [accounted_iff_count] at *
  intro other
  have before := accounted other
  have given := gives.count_eq other
  rw [List.count_cons] at given
  rw [List.count_append, List.count_singleton]
  omega

/-- All items that wait are done with. -/
theorem Accounted.abandon (accounted : Accounted waiting held done items) :
    Accounted [] held (done ++ waiting) items := by
  classical
  rw [accounted_iff_count] at *
  intro other
  have before := accounted other
  rw [List.count_nil, List.count_append]
  omega

/-- An item is in one place, once. -/
theorem Accounted.count_eq_one [DecidableEq Item] (accounted : Accounted waiting held done items)
    (distinct : items.Nodup) (member : item ∈ items) :
    (waiting ++ held ++ done).count item = 1 := by
  rw [accounted.count_eq]
  exact List.count_eq_one_of_mem distinct member

theorem Accounted.done_nodup (accounted : Accounted waiting held done items)
    (distinct : items.Nodup) : done.Nodup :=
  (List.nodup_append.mp (accounted.nodup_iff.mpr distinct)).2.1

/-- Everything is done exactly when nothing waits and nothing is in hand. -/
theorem Accounted.all_done_iff (accounted : Accounted waiting held done items)
    (distinct : items.Nodup) : (∀ item ∈ items, item ∈ done) ↔ waiting = [] ∧ held = [] := by
  classical
  constructor
  · intro allDone
    have notElsewhere : ∀ item, item ∉ waiting ++ held := by
      intro item member
      have isItem : item ∈ items := accounted.mem_iff.mp (List.mem_append_left done member)
      have once := accounted.count_eq_one distinct isItem
      have inBooks := List.count_pos_iff.mpr member
      have inDone := List.count_pos_iff.mpr (allDone item isItem)
      rw [List.count_append] at once
      omega
    exact List.append_eq_nil_iff.mp (List.eq_nil_iff_forall_not_mem.mpr notElsewhere)
  · rintro ⟨rfl, rfl⟩ item member
    exact accounted.mem_iff.mpr member

end ImportService.Ledger
