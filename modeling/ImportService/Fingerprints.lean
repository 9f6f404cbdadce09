/-
This file proves when a fingerprint identifies the content of a transaction. The seven
fields are joined with a delimiter that four of them may contain themselves: the text that is
hashed tells their pieces apart, but not which field a piece belongs to. SHA-256 is taken to
be injective on the UTF-8 form it is computed from, in which an unpaired surrogate has become
U+FFFD.
-/

import ImportService.Acceptance
import ImportService.IsoDate
import ImportService.RawValues
import ImportService.Lib.Delimited

namespace ImportService

open JsString Delimited

/-! ### Duplicates -/

/-- What a duplicate is classified as. -/
inductive DuplicateCode
  | DUPLICATE
  | CONTENT_MISMATCH
  deriving DecidableEq, Repr

/-- A duplicate whose fingerprint is another one is a mismatch. -/
def classifyDuplicate (incomingFingerprint : JsString) (storedFingerprint : Option JsString) :
    DuplicateCode :=
  match storedFingerprint with
  | none => .DUPLICATE
  | some storedFingerprint =>
      if incomingFingerprint = storedFingerprint then .DUPLICATE else .CONTENT_MISMATCH

/-! ### The host -/

namespace JsString

/-- Below the delimiter in the order of the code units, and so no surrogates. -/
def IsSimple (text : JsString) : Prop := ∀ unit ∈ text, unit.toNat < 0x7c

end JsString

/-- SHA-256 tells texts apart that differ in UTF-8. -/
def Runtime.HashesUTF8 (runtime : Runtime) : Prop :=
  ∀ text other, runtime.sha256 text = runtime.sha256 other ↔
    toWellFormed text = toWellFormed other

/-- Numbers from `10 ^ 21` on print with an exponent, and different ones differently. -/
structure Runtime.PrintsExponents (runtime : Runtime) : Prop where
  injective : ∀ value other, 10 ^ 21 ≤ value → 10 ^ 21 ≤ other →
    runtime.numberToString value = runtime.numberToString other → value = other
  exponent : ∀ value, 10 ^ 21 ≤ value → 0x65 ∈ runtime.numberToString value
  simple : ∀ value, 10 ^ 21 ≤ value → IsSimple (runtime.numberToString value)

/-! ### The hashed text -/

theorem isPlain_of_simple {unit : UInt16} (simple : unit.toNat < 0x7c + 1) :
    Paired.isPlain isHighSurrogate isLowSurrogate unit = true :=
  isPlain_iff.mpr (Or.inl (by omega))

theorem toWellFormed_eq_self {text : JsString} (simple : IsSimple text) :
    toWellFormed text = text :=
  Paired.repaired_eq_self 0xfffd fun unit member =>
    isPlain_of_simple (Nat.lt_succ_of_lt (simple unit member))

theorem joined_eq_intercalate (separator : JsString) (texts : List JsString) :
    Json.joined separator texts = separator.intercalate texts := by
  fun_induction Json.joined separator texts with
  | case1 => rfl
  | case2 text => exact List.intercalate_singleton.symm
  | case3 text rest notEmpty inductionHypothesis =>
    obtain ⟨next, others, rfl⟩ := List.exists_cons_of_ne_nil notEmpty
    rw [inductionHypothesis, List.intercalate_cons_cons]

theorem toWellFormed_intercalate (fields : List JsString) :
    toWellFormed ([0x7c].intercalate fields) = [0x7c].intercalate (fields.map toWellFormed) := by
  induction fields with
  | nil => rfl
  | cons field rest inductionHypothesis =>
    cases rest with
    | nil =>
      rw [List.map_cons, List.map_nil, List.intercalate_singleton, List.intercalate_singleton]
    | cons next others =>
      rw [List.intercalate_cons_cons, List.map_cons, List.map_cons, List.intercalate_cons_cons,
        List.append_assoc, List.append_assoc, List.singleton_append, List.singleton_append,
        toWellFormed, Paired.repaired_append_cons 0xfffd field (isPlain_of_simple (by decide)),
        ← List.map_cons, ← inductionHypothesis]
      rfl

/-- The four fields of the client's own text. -/
def ValidatedTransaction.textFields (transaction : ValidatedTransaction) : List JsString :=
  [transaction.provider, transaction.transactionId, transaction.accountId, transaction.merchantId]

/-- The other three fields as they are hashed. -/
def printedFields (runtime : Runtime) (transaction : ValidatedTransaction) : List JsString :=
  [toFixed2 runtime transaction.amount, transaction.currency,
    JsDate.toISOString transaction.timestamp]

/-- What the hashed text keeps of the fields. -/
theorem pieces_canonicalParts {runtime : Runtime} {transaction : ValidatedTransaction}
    (simple : ∀ field ∈ printedFields runtime transaction, IsSimple field) :
    pieces 0x7c ((transaction.textFields ++ printedFields runtime transaction).map toWellFormed) =
      pieces 0x7c (transaction.textFields.map toWellFormed) ++
        printedFields runtime transaction := by
  have same : (printedFields runtime transaction).map toWellFormed =
      printedFields runtime transaction := by
    refine (List.map_congr_left fun field member => ?_).trans (List.map_id _)
    exact toWellFormed_eq_self (simple field member)
  have free : ∀ field ∈ printedFields runtime transaction, (0x7c : UInt16) ∉ field := by
    intro field member isDelimiter
    exact absurd (simple field member 0x7c isDelimiter) (by decide)
  rw [List.map_append, pieces_append, same, pieces_eq_self 0x7c free]

/-- Two fingerprints are equal exactly when the printed fields are and the text fields have the
same pieces. -/
theorem computeFingerprint_eq_iff {runtime : Runtime} (hashes : runtime.HashesUTF8)
    {transaction other : ValidatedTransaction}
    (simple : ∀ field ∈ printedFields runtime transaction, IsSimple field)
    (otherSimple : ∀ field ∈ printedFields runtime other, IsSimple field) :
    computeFingerprint runtime transaction = computeFingerprint runtime other ↔
      pieces 0x7c (transaction.textFields.map toWellFormed) =
          pieces 0x7c (other.textFields.map toWellFormed) ∧
        printedFields runtime transaction = printedFields runtime other := by
  have fingerprint (transaction : ValidatedTransaction) :
      computeFingerprint runtime transaction =
        FINGERPRINT_VERSION ++ ofString ":" ++ runtime.sha256
          ([0x7c].intercalate (transaction.textFields ++ printedFields runtime transaction)) := by
    rw [← joined_eq_intercalate]
    rfl
  have notEmpty (transaction : ValidatedTransaction) :
      (transaction.textFields ++ printedFields runtime transaction).map toWellFormed ≠ [] :=
    List.cons_ne_nil _ _
  rw [fingerprint, fingerprint, List.append_cancel_left_eq, hashes, toWellFormed_intercalate,
    toWellFormed_intercalate, intercalate_eq_iff 0x7c (notEmpty transaction) (notEmpty other),
    pieces_canonicalParts simple, pieces_canonicalParts otherSimple]
  have sameLength :
      (printedFields runtime transaction).length = (printedFields runtime other).length := by
    simp only [printedFields, List.length_cons, List.length_nil]
  constructor
  · intro same
    exact List.append_inj' same sameLength
  · rintro ⟨samePieces, samePrinted⟩
    rw [samePieces, samePrinted]

/-! ### The printed fields -/

theorem isSimple_of_isDigit {text : JsString} (digits : ∀ unit ∈ text, isDigit unit = true) :
    IsSimple text := by
  intro unit member
  have bounds := isDigit_iff.mp (digits unit member)
  omega

theorem JsString.IsSimple.append {first second : JsString} (firstSimple : IsSimple first)
    (secondSimple : IsSimple second) : IsSimple (first ++ second) := by
  intro unit member
  exact (List.mem_append.mp member).elim (firstSimple unit) (secondSimple unit)

theorem isSimple_of_all {text : JsString}
    (simple : text.all (fun unit => decide (unit.toNat < 0x7c)) = true) : IsSimple text := by
  intro unit member
  exact of_decide_eq_true (List.all_eq_true.mp simple unit member)

theorem isSimple_toISOString (time : Int) : IsSimple (JsDate.toISOString time) := by
  have dash : IsSimple (ofString "-") := isSimple_of_all rfl
  have colon : IsSimple (ofString ":") := isSimple_of_all rfl
  have letterT : IsSimple (ofString "T") := isSimple_of_all rfl
  have point : IsSimple (ofString ".") := isSimple_of_all rfl
  have letterZ : IsSimple (ofString "Z") := isSimple_of_all rfl
  have digits (width number : Nat) : IsSimple (padded width number) :=
    isSimple_of_isDigit fun _ member => isDigit_of_mem_padded member
  rw [JsDate.toISOString]
  iterate 13 refine IsSimple.append ?_ ?_
  exacts [digits 4 _, dash, digits 2 _, dash, digits 2 _, letterT, digits 2 _, colon, digits 2 _,
    colon, digits 2 _, point, digits 3 _, letterZ]

theorem isSimple_of_isCurrencyCode {currency : JsString} (code : IsCurrencyCode currency) :
    IsSimple currency := by
  intro unit member
  have upper := code.2 unit member
  rw [isUpperLetter, Bool.and_eq_true, decide_eq_true_eq, decide_eq_true_eq,
    UInt16.le_iff_toNat_le, UInt16.le_iff_toNat_le] at upper
  simp only [UInt16.reduceToNat] at upper
  omega

/-- Below the bound, an amount in cents is printed with two decimals. -/
theorem toFixed2_of_lt (runtime : Runtime) {cents : Nat} (small : (cents / 100 : Rat) < 10 ^ 21) :
    toFixed2 runtime (cents / 100) =
      ofNat (cents / 100) ++ (ofString "." ++ padded 2 (cents % 100)) := by
  have notNegative : (0 : Rat) ≤ cents / 100 := by positivity
  have rounded : mathRound ((cents / 100 : Rat) * 100) = cents := by
    rw [div_mul_cancel₀ _ (by norm_num), mathRound, Int.floor_eq_iff]
    push_cast
    constructor
    · linarith
    · linarith
  unfold toFixed2
  rw [abs_of_nonneg notNegative, if_neg (not_le.mpr small), if_neg (not_lt.mpr notNegative),
    rounded]
  simp only [Int.toNat_natCast, List.nil_append, List.append_assoc]

theorem toFixed2_of_le (runtime : Runtime) {amount : Rat} (large : 10 ^ 21 ≤ amount) :
    toFixed2 runtime amount = runtime.numberToString amount :=
  if_pos (large.trans (le_abs_self amount))

theorem isSimple_toFixed2 {runtime : Runtime} (prints : runtime.PrintsExponents) (cents : Nat) :
    IsSimple (toFixed2 runtime (cents / 100)) := by
  rcases lt_or_ge (cents / 100 : Rat) (10 ^ 21) with small | large
  · rw [toFixed2_of_lt runtime small]
    refine IsSimple.append ?_ (IsSimple.append (isSimple_of_all rfl) ?_)
    · exact isSimple_of_isDigit fun unit member => isDigit_of_mem_ofNat member
    · exact isSimple_of_isDigit fun unit member => isDigit_of_mem_padded member
  · rw [toFixed2_of_le runtime large]
    exact prints.simple _ large

theorem exponent_notMem_toFixed2 (runtime : Runtime) {cents : Nat}
    (small : (cents / 100 : Rat) < 10 ^ 21) : (0x65 : UInt16) ∉ toFixed2 runtime (cents / 100) := by
  rw [toFixed2_of_lt runtime small, List.mem_append, List.mem_append]
  rintro (digit | mark | digit)
  · exact absurd (isDigit_of_mem_ofNat digit) (by decide)
  · exact absurd mark (by decide)
  · exact absurd (isDigit_of_mem_padded digit) (by decide)

/-- The whole part and the decimals can be told from the text. -/
theorem eq_of_decimals_eq {cents others : Nat}
    (same : ofNat (cents / 100) ++ (ofString "." ++ padded 2 (cents % 100)) =
      ofNat (others / 100) ++ (ofString "." ++ padded 2 (others % 100))) : cents = others := by
  have twoDigits (number : Nat) : (padded 2 (number % 100)).length = 2 :=
    length_padded (by decide) (Nat.mod_lt number (by decide))
  have sameLength : (ofString "." ++ padded 2 (cents % 100)).length =
      (ofString "." ++ padded 2 (others % 100)).length := by
    rw [List.length_append, List.length_append, twoDigits, twoDigits]
  obtain ⟨sameWhole, sameRest⟩ := List.append_inj' same sameLength
  have whole := congrArg JsNumber.digitsValue sameWhole
  have decimals := congrArg JsNumber.digitsValue (List.append_cancel_left sameRest)
  rw [digitsValue_ofNat, digitsValue_ofNat] at whole
  rw [digitsValue_padded, digitsValue_padded] at decimals
  omega

/-- Two amounts in cents are printed the same only if they are the same. -/
theorem toFixed2_inj {runtime : Runtime} (prints : runtime.PrintsExponents) (cents others : Nat) :
    toFixed2 runtime (cents / 100) = toFixed2 runtime (others / 100) ↔
      (cents / 100 : Rat) = others / 100 := by
  refine ⟨fun same => ?_, congrArg (toFixed2 runtime)⟩
  rcases lt_or_ge (cents / 100 : Rat) (10 ^ 21) with small | large
  · have noExponent := exponent_notMem_toFixed2 runtime small
    rcases lt_or_ge (others / 100 : Rat) (10 ^ 21) with otherSmall | otherLarge
    · rw [toFixed2_of_lt runtime small, toFixed2_of_lt runtime otherSmall] at same
      rw [eq_of_decimals_eq same]
    · rw [same, toFixed2_of_le runtime otherLarge] at noExponent
      exact absurd (prints.exponent _ otherLarge) noExponent
  · rcases lt_or_ge (others / 100 : Rat) (10 ^ 21) with otherSmall | otherLarge
    · have noExponent := exponent_notMem_toFixed2 runtime otherSmall
      rw [← same, toFixed2_of_le runtime large] at noExponent
      exact absurd (prints.exponent _ large) noExponent
    · rw [toFixed2_of_le runtime large, toFixed2_of_le runtime otherLarge] at same
      exact prints.injective _ _ large otherLarge same

/-! ### Accepted records -/

/-- An accepted amount is a whole number of cents. -/
theorem Normalizes.amountInCents {runtime : Runtime} {record : List (JsString × Json)}
    {fallbackProvider : JsString} {transaction : ValidatedTransaction}
    (normalizes : Normalizes runtime record fallbackProvider transaction) :
    ∃ cents : Nat, transaction.amount = cents / 100 := by
  obtain ⟨rawAmount, _, isAmount⟩ := normalizes.amount
  obtain ⟨parsed, _, positive, rounded⟩ := amount_of_normalizeAmount isAmount
  have notNegative : 0 ≤ mathRound (parsed * 100) := by
    refine Int.floor_nonneg.mpr ?_
    linarith
  obtain ⟨cents, isCents⟩ := Int.eq_ofNat_of_zero_le notNegative
  exact ⟨cents, by rw [rounded, isCents, Int.cast_natCast]⟩

section

variable {runtime : Runtime} {record otherRecord : List (JsString × Json)}
  {fallbackProvider otherFallback : JsString} {transaction other : ValidatedTransaction}

theorem Normalizes.isSimple_printedFields (prints : runtime.PrintsExponents)
    (normalizes : Normalizes runtime record fallbackProvider transaction) :
    ∀ field ∈ printedFields runtime transaction, IsSimple field := by
  obtain ⟨cents, inCents⟩ := normalizes.amountInCents
  have code := isCurrencyCode_of_normalizeCurrency normalizes.currencyMember
  rw [printedFields, inCents, List.forall_mem_cons, List.forall_mem_cons, List.forall_mem_singleton]
  exact ⟨isSimple_toFixed2 prints cents, isSimple_of_isCurrencyCode code,
    isSimple_toISOString transaction.timestamp⟩

/-- The printed fields of accepted records tell the fields themselves. -/
theorem printedFields_eq_iff (prints : runtime.PrintsExponents)
    (normalizes : Normalizes runtime record fallbackProvider transaction)
    (otherNormalizes : Normalizes runtime otherRecord otherFallback other) :
    printedFields runtime transaction = printedFields runtime other ↔
      transaction.amount = other.amount ∧ transaction.currency = other.currency ∧
        transaction.timestamp = other.timestamp := by
  obtain ⟨cents, inCents⟩ := normalizes.amountInCents
  obtain ⟨otherCents, otherInCents⟩ := otherNormalizes.amountInCents
  obtain ⟨rawTimestamp, isTimestamp⟩ := normalizes.timestamp
  obtain ⟨otherTimestamp, isOtherTimestamp⟩ := otherNormalizes.timestamp
  have admitted := isAdmitted_of_normalizeTimestamp isTimestamp
  have otherAdmitted := isAdmitted_of_normalizeTimestamp isOtherTimestamp
  have sinceYear := admitted.sinceYear
  have untilYear := admitted.untilYear
  have otherSinceYear := otherAdmitted.sinceYear
  have otherUntilYear := otherAdmitted.untilYear
  have sameTime : JsDate.toISOString transaction.timestamp = JsDate.toISOString other.timestamp ↔
      transaction.timestamp = other.timestamp :=
    JsDate.toISOString_inj (by omega) (by omega) (by omega) (by omega)
  rw [printedFields, printedFields, inCents, otherInCents, List.cons.injEq, List.cons.injEq,
    List.cons.injEq, toFixed2_inj prints, sameTime, and_iff_left rfl]

end

/-! ### What a fingerprint identifies -/

/-- The fields a fingerprint is computed from are equal. -/
structure SameContent (transaction other : ValidatedTransaction) : Prop where
  provider : transaction.provider = other.provider
  transactionId : transaction.transactionId = other.transactionId
  accountId : transaction.accountId = other.accountId
  merchantId : transaction.merchantId = other.merchantId
  amount : transaction.amount = other.amount
  currency : transaction.currency = other.currency
  timestamp : transaction.timestamp = other.timestamp

theorem sameContent_iff (transaction other : ValidatedTransaction) :
    SameContent transaction other ↔
      transaction.textFields = other.textFields ∧ transaction.amount = other.amount ∧
        transaction.currency = other.currency ∧ transaction.timestamp = other.timestamp := by
  rw [ValidatedTransaction.textFields, ValidatedTransaction.textFields]
  simp only [List.cons.injEq, and_true]
  constructor
  · intro same
    exact ⟨⟨same.provider, same.transactionId, same.accountId, same.merchantId⟩, same.amount,
      same.currency, same.timestamp⟩
  · rintro ⟨⟨provider, transactionId, accountId, merchantId⟩, amount, currency, timestamp⟩
    exact ⟨provider, transactionId, accountId, merchantId, amount, currency, timestamp⟩

/-- The fingerprints are equal just for the same content, and a transaction that is submitted
again under its key is classified by its content. -/
structure FingerprintIdentifies (runtime : Runtime) (stored incoming : ValidatedTransaction) :
    Prop where
  equal_iff : computeFingerprint runtime stored = computeFingerprint runtime incoming ↔
    SameContent stored incoming
  duplicate_iff : stored.key = incoming.key →
    (classifyDuplicate (computeFingerprint runtime incoming)
        (some (computeFingerprint runtime stored)) = .DUPLICATE ↔ SameContent stored incoming)
  mismatch_iff : stored.key = incoming.key →
    (classifyDuplicate (computeFingerprint runtime incoming)
        (some (computeFingerprint runtime stored)) = .CONTENT_MISMATCH ↔
      ¬ SameContent stored incoming)

/-- Everything else is equal, and the four text fields have the same pieces, but they have them
in other fields, or some only look the same in UTF-8. -/
structure Ambiguous (stored incoming : ValidatedTransaction) : Prop where
  amount : stored.amount = incoming.amount
  currency : stored.currency = incoming.currency
  timestamp : stored.timestamp = incoming.timestamp
  samePieces : pieces 0x7c (stored.textFields.map toWellFormed) =
    pieces 0x7c (incoming.textFields.map toWellFormed)
  shifted : stored.textFields.map (List.count 0x7c) ≠ incoming.textFields.map (List.count 0x7c) ∨
    stored.textFields.map toWellFormed = incoming.textFields.map toWellFormed ∧
      stored.textFields ≠ incoming.textFields

theorem count_toWellFormed (text : JsString) :
    (toWellFormed text).count 0x7c = text.count 0x7c :=
  Paired.count_repaired (isPlain_of_simple (by decide)) (by decide) text

theorem classifyDuplicate_some (incomingFingerprint storedFingerprint : JsString) :
    (classifyDuplicate incomingFingerprint (some storedFingerprint) = .DUPLICATE ↔
        storedFingerprint = incomingFingerprint) ∧
      (classifyDuplicate incomingFingerprint (some storedFingerprint) = .CONTENT_MISMATCH ↔
        ¬ storedFingerprint = incomingFingerprint) := by
  unfold classifyDuplicate
  simp only
  split
  · rename_i same
    simp only [same, reduceCtorEq, not_true_eq_false, and_self]
  · rename_i different
    simp only [Ne.symm different, reduceCtorEq, not_false_eq_true, and_self]

/-- For accepted records fingerprints identify the content, except where the fields are
ambiguous. -/
theorem fingerprintIdentifies_iff (runtime : Runtime) (raw otherRaw : Json)
    (fallbackProvider otherFallback : JsString) (stored incoming : ValidatedTransaction)
    (hashes : runtime.HashesUTF8) (prints : runtime.PrintsExponents)
    (accepts : validateTransaction runtime raw fallbackProvider = .ok stored)
    (otherAccepts : validateTransaction runtime otherRaw otherFallback = .ok incoming) :
    FingerprintIdentifies runtime stored incoming ↔ ¬ Ambiguous stored incoming := by
  obtain ⟨record, rfl, normalizes⟩ := normalizes_of_eq_ok accepts
  obtain ⟨otherRecord, rfl, otherNormalizes⟩ := normalizes_of_eq_ok otherAccepts
  have fingerprints : computeFingerprint runtime stored = computeFingerprint runtime incoming ↔
      pieces 0x7c (stored.textFields.map toWellFormed) =
          pieces 0x7c (incoming.textFields.map toWellFormed) ∧
        stored.amount = incoming.amount ∧ stored.currency = incoming.currency ∧
          stored.timestamp = incoming.timestamp := by
    rw [computeFingerprint_eq_iff hashes (normalizes.isSimple_printedFields prints)
      (otherNormalizes.isSimple_printedFields prints),
      printedFields_eq_iff prints normalizes otherNormalizes]
  constructor
  · intro identifies ambiguous
    have same := identifies.equal_iff.mp (fingerprints.mpr
      ⟨ambiguous.samePieces, ambiguous.amount, ambiguous.currency, ambiguous.timestamp⟩)
    have sameFields := ((sameContent_iff stored incoming).mp same).1
    rcases ambiguous.shifted with moved | ⟨_, different⟩
    · exact moved (congrArg _ sameFields)
    · exact different sameFields
  · intro notAmbiguous
    have equal_iff : computeFingerprint runtime stored = computeFingerprint runtime incoming ↔
        SameContent stored incoming := by
      rw [fingerprints, sameContent_iff]
      refine ⟨fun ⟨samePieces, amount, currency, timestamp⟩ => ?_, fun ⟨sameFields, rest⟩ => ?_⟩
      · refine ⟨?_, amount, currency, timestamp⟩
        by_contra different
        refine notAmbiguous ⟨amount, currency, timestamp, samePieces, ?_⟩
        by_cases sameCounts : stored.textFields.map (List.count 0x7c) =
            incoming.textFields.map (List.count 0x7c)
        · refine Or.inr ⟨eq_of_pieces_eq 0x7c samePieces ?_, different⟩
          simpa only [List.map_map, Function.comp_def, count_toWellFormed] using sameCounts
        · exact Or.inl sameCounts
      · exact ⟨by rw [sameFields], rest⟩
    have classified := classifyDuplicate_some (computeFingerprint runtime incoming)
      (computeFingerprint runtime stored)
    exact
      { equal_iff := equal_iff
        duplicate_iff := fun _ => classified.1.trans equal_iff
        mismatch_iff := fun _ => classified.2.trans (not_congr equal_iff) }

/-- A host whose digests are the texts themselves, and whose large numbers print as a numerator
and a denominator. -/
def plainRuntime : Runtime :=
  { System.emptyFilePorts.runtime with
    numberToString := fun value => ofNat value.num.toNat ++ 0x65 :: ofNat value.den
    sha256 := toWellFormed }

theorem plainRuntime_hashesUTF8 : plainRuntime.HashesUTF8 := fun _ _ => Iff.rfl

theorem exponent_notMem_ofNat (number : Nat) : (0x65 : UInt16) ∉ ofNat number := by
  intro exponent
  exact absurd (isDigit_of_mem_ofNat exponent) (by decide)

theorem ofNat_inj {number other : Nat} (same : ofNat number = ofNat other) : number = other := by
  rw [← digitsValue_ofNat number, same, digitsValue_ofNat]

theorem plainRuntime_numberToString (value : Rat) :
    plainRuntime.numberToString value = ofNat value.num.toNat ++ 0x65 :: ofNat value.den := rfl

theorem plainRuntime_printsExponents : plainRuntime.PrintsExponents where
  injective := by
    intro value other large otherLarge same
    have positive : 0 ≤ value.num := Rat.num_nonneg.mpr (by linarith)
    have otherPositive : 0 ≤ other.num := Rat.num_nonneg.mpr (by linarith)
    have samePieces := congrArg (List.splitOn 0x65) same
    rw [plainRuntime_numberToString, plainRuntime_numberToString,
      List.splitOn_append_cons_self_of_not_mem (exponent_notMem_ofNat _),
      List.splitOn_append_cons_self_of_not_mem (exponent_notMem_ofNat _),
      List.splitOn_eq_singleton (exponent_notMem_ofNat _),
      List.splitOn_eq_singleton (exponent_notMem_ofNat _), List.cons.injEq, List.cons.injEq]
      at samePieces
    have sameNumerator := ofNat_inj samePieces.1
    exact Rat.ext (by omega) (ofNat_inj samePieces.2.1)
  exponent := by
    intro value _
    rw [plainRuntime_numberToString]
    exact List.mem_append_right _ List.mem_cons_self
  simple := by
    intro value _ unit member
    rw [plainRuntime_numberToString, List.mem_append, List.mem_cons] at member
    rcases member with digit | rfl | digit
    · exact isSimple_of_isDigit (fun _ digit => isDigit_of_mem_ofNat digit) unit digit
    · decide
    · exact isSimple_of_isDigit (fun _ digit => isDigit_of_mem_ofNat digit) unit digit

/-- A record of two identifiers. -/
def recordOfAccounts (accountId merchantId : String) : Json :=
  .object
    [(ofString "provider", .string (ofString "p")),
      (ofString "transactionId", .string (ofString "t")),
      (ofString "accountId", .string (ofString accountId)),
      (ofString "merchantId", .string (ofString merchantId)),
      (ofString "amount", .number (.finite 1)),
      (ofString "currency", .string (ofString "EUR")),
      (ofString "timestamp", .number (.finite 0))]

/-- A transaction with given accounts. -/
def transactionOfAccounts (accountId merchantId : String) : ValidatedTransaction where
  provider := ofString "p"
  transactionId := ofString "t"
  accountId := ofString accountId
  merchantId := ofString merchantId
  amount := 1
  currency := ofString "EUR"
  timestamp := 0
  description := none

theorem fingerprintIdentifies_iff_accounts :
    FingerprintIdentifies plainRuntime (transactionOfAccounts "x" "z")
        (transactionOfAccounts "y" "z") ↔
      ¬ Ambiguous (transactionOfAccounts "x" "z") (transactionOfAccounts "y" "z") :=
  fingerprintIdentifies_iff plainRuntime (recordOfAccounts "x" "z") (recordOfAccounts "y" "z") []
    [] _ _ plainRuntime_hashesUTF8 plainRuntime_printsExponents
    (eq_ok_of_toOption (by decide +kernel)) (eq_ok_of_toOption (by decide +kernel))

/-- Account `x|y` with merchant `z` has the fingerprint of account `x` with merchant `y|z`. -/
theorem delimiter_collides :
    validateTransaction plainRuntime (recordOfAccounts "x|y" "z") [] =
        .ok (transactionOfAccounts "x|y" "z") ∧
      validateTransaction plainRuntime (recordOfAccounts "x" "y|z") [] =
        .ok (transactionOfAccounts "x" "y|z") ∧
      (transactionOfAccounts "x|y" "z").key = (transactionOfAccounts "x" "y|z").key ∧
      computeFingerprint plainRuntime (transactionOfAccounts "x|y" "z") =
        computeFingerprint plainRuntime (transactionOfAccounts "x" "y|z") ∧
      ¬ SameContent (transactionOfAccounts "x|y" "z") (transactionOfAccounts "x" "y|z") ∧
      ¬ FingerprintIdentifies plainRuntime (transactionOfAccounts "x|y" "z")
        (transactionOfAccounts "x" "y|z") := by
  have sameFingerprint : computeFingerprint plainRuntime (transactionOfAccounts "x|y" "z") =
      computeFingerprint plainRuntime (transactionOfAccounts "x" "y|z") := by
    decide +kernel
  have different :
      ¬ SameContent (transactionOfAccounts "x|y" "z") (transactionOfAccounts "x" "y|z") := by
    intro same
    exact absurd same.accountId (by decide)
  refine ⟨eq_ok_of_toOption (by decide +kernel), eq_ok_of_toOption (by decide +kernel), rfl,
    sameFingerprint, different, fun identifies => ?_⟩
  exact different (identifies.equal_iff.mp sameFingerprint)

end ImportService
