/-
This file develops the counting of pieces: a text is cut at the units that end a piece,
and a piece counts when it holds a unit of a certain kind. The count can be taken in one
pass (`scan`), in as many parts as one likes, since the pass is a fold.

Two counts of one text are compared at the end. One cuts less often and takes more units
to fill a piece, the other cuts further within these pieces. They are equal exactly when
the pieces that only the first one counts are as many as the second one counts on top
of one in each (`pieceCount_eq_iff`).
-/

import Mathlib.Algebra.BigOperators.Group.List.Basic
import Mathlib.Algebra.GroupWithZero.Nat
import Mathlib.Data.List.Basic

namespace ImportService.PieceCount

variable {Symbol : Type} (ends fills : Symbol → Bool)

/-- How many pieces hold a unit that fills them. -/
def pieceCount (text : List Symbol) : Nat :=
  (text.splitOnP ends).countP fun piece => piece.any fills

/-- The pieces counted so far, and whether the current one counts. -/
structure Scan where
  count : Nat
  filled : Bool

/-- Nothing has been read. -/
def Scan.start : Scan where
  count := 0
  filled := false

/-- The number of pieces when the text ends here. -/
def Scan.total (scan : Scan) : Nat := scan.count + scan.filled.toNat

/-- One unit is read. -/
def Scan.step (scan : Scan) (unit : Symbol) : Scan :=
  if ends unit then { count := scan.total, filled := false }
  else { scan with filled := scan.filled || fills unit }

/-- The first piece and the others. -/
theorem exists_splitOnP (ends : Symbol → Bool) (text : List Symbol) :
    ∃ first later, text.splitOnP ends = first :: later :=
  List.exists_cons_of_ne_nil (List.splitOnP_ne_nil ends text)

variable {ends fills}

theorem splitOnP_cons_of_ends {unit : Symbol} (isEnd : ends unit = true) (text : List Symbol) :
    (unit :: text).splitOnP ends = [] :: text.splitOnP ends := by
  rw [List.splitOnP_cons_eq_if_modifyHead, if_pos isEnd]

theorem splitOnP_cons_of_not_ends {unit : Symbol} (noEnd : ends unit = false)
    {text first : List Symbol} {later : List (List Symbol)}
    (pieces : text.splitOnP ends = first :: later) :
    (unit :: text).splitOnP ends = (unit :: first) :: later := by
  rw [List.splitOnP_cons_eq_if_modifyHead, if_neg (ne_true_of_eq_false noEnd), pieces]
  rfl

theorem countP_cons_toNat {Piece : Type} (counts : Piece → Bool) (first : Piece)
    (later : List Piece) :
    (first :: later).countP counts = later.countP counts + (counts first).toNat := by
  rw [List.countP_cons]
  cases counts first <;> rfl

/-- A scan that goes on over a text goes on with its first piece. -/
theorem total_foldl (scan : Scan) {text first : List Symbol} {later : List (List Symbol)}
    (pieces : text.splitOnP ends = first :: later) :
    (text.foldl (Scan.step ends fills) scan).total =
      scan.count + (scan.filled || first.any fills).toNat +
        later.countP fun piece => piece.any fills := by
  induction text generalizing scan first later with
  | nil =>
    have isEmpty : first = [] ∧ later = [] := by
      rw [List.splitOnP_nil] at pieces
      obtain ⟨rfl, rfl⟩ := List.cons.inj pieces
      exact ⟨rfl, rfl⟩
    rw [List.foldl_nil, isEmpty.1, isEmpty.2, List.any_nil, Bool.or_false, List.countP_nil]
    rfl
  | cons unit rest inductionHypothesis =>
    obtain ⟨next, others, restPieces⟩ := exists_splitOnP ends rest
    cases isEnd : ends unit with
    | true =>
      rw [splitOnP_cons_of_ends isEnd, restPieces] at pieces
      obtain ⟨rfl, rfl⟩ := List.cons.inj pieces
      rw [List.foldl_cons, inductionHypothesis _ restPieces, Scan.step, if_pos isEnd,
        countP_cons_toNat, List.any_nil, Bool.or_false, Bool.false_or]
      show scan.count + scan.filled.toNat + _ + _ = _
      omega
    | false =>
      rw [splitOnP_cons_of_not_ends isEnd restPieces] at pieces
      obtain ⟨rfl, rfl⟩ := List.cons.inj pieces
      rw [List.foldl_cons, inductionHypothesis _ restPieces, Scan.step,
        if_neg (ne_true_of_eq_false isEnd), List.any_cons, Bool.or_assoc]

/-- The count in one pass. -/
theorem total_scan (text : List Symbol) :
    (text.foldl (Scan.step ends fills) Scan.start).total = pieceCount ends fills text := by
  obtain ⟨first, later, pieces⟩ := exists_splitOnP ends text
  rw [total_foldl Scan.start pieces, pieceCount, pieces, countP_cons_toNat]
  show 0 + (false || first.any fills).toNat + _ = _
  rw [Bool.false_or]
  omega

/-! ### Cutting further -/

/-- A unit of either kind ends a piece. -/
def either (ends inner : Symbol → Bool) (unit : Symbol) : Bool := ends unit || inner unit

variable {inner : Symbol → Bool}

/-- Cutting at two kinds of units at once is cutting at the one and then at the other. -/
theorem splitOnP_either (text : List Symbol) :
    text.splitOnP (either ends inner) =
      (text.splitOnP ends).flatMap fun piece => piece.splitOnP inner := by
  induction text with
  | nil => rfl
  | cons unit rest inductionHypothesis =>
    obtain ⟨first, later, pieces⟩ := exists_splitOnP ends rest
    obtain ⟨innerFirst, innerLater, innerPieces⟩ := exists_splitOnP inner first
    rw [pieces, List.flatMap_cons, innerPieces] at inductionHypothesis
    cases isEnd : ends unit with
    | true =>
      have isEither : either ends inner unit = true := by rw [either, isEnd, Bool.true_or]
      rw [splitOnP_cons_of_ends isEnd, splitOnP_cons_of_ends isEither, inductionHypothesis, pieces,
        List.flatMap_cons, List.flatMap_cons, innerPieces]
      rfl
    | false =>
      rw [splitOnP_cons_of_not_ends isEnd pieces, List.flatMap_cons]
      cases isInner : inner unit with
      | true =>
        have isEither : either ends inner unit = true := by rw [either, isInner, Bool.or_true]
        rw [splitOnP_cons_of_ends isEither, splitOnP_cons_of_ends isInner, inductionHypothesis,
          innerPieces]
        rfl
      | false =>
        have neither : either ends inner unit = false := by rw [either, isEnd, isInner]; rfl
        rw [splitOnP_cons_of_not_ends neither inductionHypothesis,
          splitOnP_cons_of_not_ends isInner innerPieces]
        rfl

theorem pieceCount_either (text : List Symbol) :
    pieceCount (either ends inner) fills text =
      ((text.splitOnP ends).map (pieceCount inner fills)).sum := by
  rw [pieceCount, splitOnP_either, List.countP_flatMap]
  rfl

/-! ### Two counts of one text -/

/-- A text without a unit that fills has no piece that counts, if no unit that fills ends a
piece. -/
theorem pieceCount_eq_zero_iff (noEnd : ∀ unit, inner unit = true → fills unit = false)
    (text : List Symbol) : pieceCount inner fills text = 0 ↔ text.any fills = false := by
  induction text with
  | nil => exact ⟨fun _ => rfl, fun _ => rfl⟩
  | cons unit rest inductionHypothesis =>
    obtain ⟨first, later, pieces⟩ := exists_splitOnP inner rest
    rw [pieceCount, pieces, countP_cons_toNat] at inductionHypothesis
    rw [List.any_cons, Bool.or_eq_false_iff, ← inductionHypothesis, pieceCount]
    cases isEnd : inner unit with
    | true =>
      rw [splitOnP_cons_of_ends isEnd, pieces, countP_cons_toNat, countP_cons_toNat,
        noEnd unit isEnd, List.any_nil]
      simp only [Bool.toNat_false, Nat.add_zero, true_and]
    | false =>
      rw [splitOnP_cons_of_not_ends isEnd pieces, countP_cons_toNat, List.any_cons]
      cases fills unit with
      | true => simp
      | false => simp only [Bool.false_or, true_and]

/-- The pieces that hold a unit that touches and none that fills. -/
def idleCount (ends fills touches : Symbol → Bool) (text : List Symbol) : Nat :=
  (text.splitOnP ends).countP fun piece => piece.any touches && !piece.any fills

/-- How many more than one the inner pieces are that count, taken over the pieces. -/
def surplus (ends inner fills : Symbol → Bool) (text : List Symbol) : Nat :=
  ((text.splitOnP ends).map fun piece => pieceCount inner fills piece - 1).sum

variable {touches : Symbol → Bool}

/-- The pieces that are touched, and the inner ones that are filled. -/
theorem pieceCount_add_surplus (noEnd : ∀ unit, inner unit = true → fills unit = false)
    (covers : ∀ unit, fills unit = true → touches unit = true) (text : List Symbol) :
    pieceCount ends touches text + surplus ends inner fills text =
      pieceCount (either ends inner) fills text + idleCount ends fills touches text := by
  rw [pieceCount_either, pieceCount, surplus, idleCount]
  induction text.splitOnP ends with
  | nil => rfl
  | cons piece rest inductionHypothesis =>
    have here : (piece.any touches).toNat + (pieceCount inner fills piece - 1) =
        pieceCount inner fills piece + (piece.any touches && !piece.any fills).toNat := by
      have isEmpty := pieceCount_eq_zero_iff noEnd piece
      cases filled : piece.any fills with
      | true =>
        obtain ⟨unit, member, isFilling⟩ := List.any_eq_true.mp filled
        have touched : piece.any touches = true :=
          List.any_eq_true.mpr ⟨unit, member, covers unit isFilling⟩
        rw [filled] at isEmpty
        rw [touched]
        simp at isEmpty ⊢
        omega
      | false =>
        rw [isEmpty.mpr filled]
        simp
    rw [countP_cons_toNat, countP_cons_toNat, List.map_cons, List.map_cons, List.sum_cons,
      List.sum_cons]
    omega

theorem pieceCount_eq_iff (noEnd : ∀ unit, inner unit = true → fills unit = false)
    (covers : ∀ unit, fills unit = true → touches unit = true) (text : List Symbol) :
    pieceCount ends touches text = pieceCount (either ends inner) fills text ↔
      idleCount ends fills touches text = surplus ends inner fills text := by
  have balance : pieceCount ends touches text + surplus ends inner fills text =
      pieceCount (either ends inner) fills text + idleCount ends fills touches text :=
    pieceCount_add_surplus noEnd covers text
  omega

end ImportService.PieceCount
