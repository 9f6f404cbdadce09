/-
This file proves that a transaction survives being exported and imported again. What the
validator makes of a record is clean already, so that validating it once more changes
nothing: each normalisation leaves its own results as they are. The one exception is an
amount that was rounded to zero, which is not accepted a second time.
-/

import ImportService.Acceptance
import ImportService.IsoDate
import ImportService.JsonText

namespace ImportService

open JsString JsDate

/-! ### The exported record -/

/-- The members `JSON.stringify` writes of a transaction: the date as its ISO text. -/
def ValidatedTransaction.toRecord (transaction : ValidatedTransaction) :
    List (JsString × Json) :=
  [(ofString "provider", .string transaction.provider),
    (ofString "transactionId", .string transaction.transactionId),
    (ofString "accountId", .string transaction.accountId),
    (ofString "merchantId", .string transaction.merchantId),
    (ofString "amount", .number (.finite transaction.amount)),
    (ofString "currency", .string transaction.currency),
    (ofString "timestamp", .string (toISOString transaction.timestamp)),
    (ofString "description", transaction.description.elim .null .string)]

/-- `Date.parse` reads what `toISOString` prints, in the years the validator admits. -/
def Runtime.ReadsISOStrings (runtime : Runtime) : Prop :=
  ∀ time, 1970 ≤ getUTCFullYear time → getUTCFullYear time ≤ 2200 →
    runtime.dateParse (toISOString time) = some time

/-- The text of the exported record reads back, as far as its amount does. -/
theorem parse_stringify_toRecord {runtime : Runtime} (transaction : ValidatedTransaction)
    (printsAmount : Json.PrintsReadably runtime transaction.amount) :
    Json.parse (Json.stringify runtime (.object transaction.toRecord)) =
      some (.object transaction.toRecord) := by
  have names : transaction.toRecord.map Prod.fst =
      ["provider", "transactionId", "accountId", "merchantId", "amount", "currency", "timestamp",
        "description"].map ofString := rfl
  refine Json.parse_stringify_object (List.cons_ne_nil _ _) ?_ ?_ ?_
  · intro member isMember
    simp only [ValidatedTransaction.toRecord, List.mem_cons, List.not_mem_nil, or_false]
      at isMember
    rcases isMember with rfl | rfl | rfl | rfl | rfl | rfl | rfl | rfl
    · trivial
    · trivial
    · trivial
    · trivial
    · exact printsAmount
    · trivial
    · trivial
    · cases transaction.description with
      | none => trivial
      | some text => trivial
  · intro member isMember
    have noIndex : ∀ name ∈ transaction.toRecord.map Prod.fst, Json.arrayIndex name = none := by
      rw [names]
      decide
    exact noIndex member.1 (List.mem_map_of_mem isMember)
  · rw [names]
    decide

/-! ### Fields that are normal already -/

theorem normalizeAmount_eq_self {amount : Rat} (positive : 0 < amount)
    (inCents : ∃ cents : Int, amount = cents / 100) :
    normalizeAmount (.number (.finite amount)) = some amount := by
  obtain ⟨cents, rfl⟩ := inCents
  have rounded : mathRound ((cents / 100 : Rat) * 100) = cents := by
    rw [div_mul_cancel₀ _ (by norm_num), mathRound, Int.floor_eq_iff]
    constructor
    · linarith
    · linarith
  rw [normalizeAmount_eq, amountNumber, roundedAmount, if_neg (not_le.mpr positive), rounded]

theorem isUpperLetter_bounds {unit : UInt16} (upper : isUpperLetter unit = true) :
    0x41 ≤ unit.toNat ∧ unit.toNat ≤ 0x5a := by
  rw [isUpperLetter, Bool.and_eq_true, decide_eq_true_eq, decide_eq_true_eq,
    UInt16.le_iff_toNat_le, UInt16.le_iff_toNat_le] at upper
  exact upper

theorem isSpace_eq_false_of_isUpperLetter {unit : UInt16} (upper : isUpperLetter unit = true) :
    isSpace unit = false := by
  have bounds := isUpperLetter_bounds upper
  simp only [isSpace, Bool.or_eq_false_iff, Bool.and_eq_false_iff, decide_eq_false_iff_not,
    beq_eq_false_iff_ne, ne_eq, UInt16.le_iff_toNat_le, ← UInt16.toNat_inj, UInt16.reduceToNat]
  omega

theorem isControl_eq_false_of_isUpperLetter {unit : UInt16} (upper : isUpperLetter unit = true) :
    isControl unit = false := by
  have bounds := isUpperLetter_bounds upper
  simp only [isControl, Bool.or_eq_false_iff, Bool.and_eq_false_iff, decide_eq_false_iff_not,
    UInt16.le_iff_toNat_le, UInt16.reduceToNat]
  omega

theorem isCleanWithin_of_isCurrencyCode {currency : JsString} (code : IsCurrencyCode currency) :
    IsCleanWithin MAX_IDENTIFIER_LENGTH currency where
  isClean :=
    { start := fun unit isHead =>
        isSpace_eq_false_of_isUpperLetter (code.2 unit (List.mem_of_mem_head? isHead))
      finish := fun unit isLast =>
        isSpace_eq_false_of_isUpperLetter (code.2 unit (List.mem_of_mem_getLast? isLast))
      noControl := fun unit member => isControl_eq_false_of_isUpperLetter (code.2 unit member) }
  notEmpty := by
    rintro rfl
    cases code.1
  short := by
    rw [code.1]
    decide

theorem toUpperCase_eq_self {currency : JsString} (code : IsCurrencyCode currency) :
    toUpperCase currency = currency := by
  have same : ∀ unit ∈ currency, (if isLowerLetter unit then unit - 0x20 else unit) = unit := by
    intro unit member
    have bounds := isUpperLetter_bounds (code.2 unit member)
    refine if_neg ?_
    simp only [isLowerLetter, Bool.and_eq_true, decide_eq_true_eq, UInt16.le_iff_toNat_le,
      UInt16.reduceToNat]
    omega
  rw [toUpperCase, List.map_congr_left same, List.map_id']

theorem matchesCurrencyPattern_of_isCurrencyCode {currency : JsString}
    (code : IsCurrencyCode currency) : matchesCurrencyPattern currency = true := by
  rw [matchesCurrencyPattern, code.1, beq_self_eq_true, Bool.true_and, List.all_eq_true]
  intro unit member
  rw [isLetter, code.2 unit member, Bool.true_or]

theorem normalizeCurrency_eq_self {currency : JsString} (code : IsCurrencyCode currency) :
    normalizeCurrency (some (.string currency)) = some currency := by
  rw [normalizeCurrency, normalizeRequiredString_eq_self (isCleanWithin_of_isCurrencyCode code),
    Option.filter_some_pos (matchesCurrencyPattern_of_isCurrencyCode code), Option.map_some,
    toUpperCase_eq_self code]

theorem normalizeTimestamp_toISOString {runtime : Runtime} (reads : runtime.ReadsISOStrings)
    {time : Int} (admitted : IsAdmitted time) :
    normalizeTimestamp runtime (.string (toISOString time)) = some time := by
  have inYears : ¬ (getUTCFullYear time < 1970 || 2200 < getUTCFullYear time) = true := by
    rw [Bool.or_eq_true, decide_eq_true_eq, decide_eq_true_eq]
    have sinceYear := admitted.sinceYear
    have untilYear := admitted.untilYear
    omega
  rw [normalizeTimestamp, newDate, reads time admitted.sinceYear admitted.untilYear,
    Option.bind_eq_bind, Option.bind_some]
  exact if_neg inYears

theorem validateDescription_toRecord {transaction : ValidatedTransaction}
    (clean : ∀ text ∈ transaction.description, IsCleanWithin MAX_DESCRIPTION_LENGTH text) :
    validateDescription transaction.toRecord = .ok transaction.description := by
  have isMember : Json.get? transaction.toRecord "description" =
      some (transaction.description.elim .null .string) := rfl
  rw [validateDescription, isMember]
  cases given : transaction.description with
  | none => rfl
  | some text =>
    have cleanText := clean text given
    simp only [Option.elim_some, cleaned_eq_self cleanText.isClean,
      if_neg (Nat.not_lt.mpr cleanText.short),
      if_pos (List.length_pos_of_ne_nil cleanText.notEmpty)]

theorem provider_of_toRecord {value : Option Json} {provider : JsString}
    (isProvider : provider = (normalizeRequiredString value).getD []) :
    provider = (normalizeRequiredString (some (.string provider))).getD [] := by
  cases normalized : normalizeRequiredString value with
  | none =>
    rw [normalized, Option.getD_none] at isProvider
    rw [isProvider]
    rfl
  | some text =>
    rw [normalized, Option.getD_some] at isProvider
    rw [isProvider,
      normalizeRequiredString_eq_self (isCleanWithin_of_normalizeRequiredString normalized),
      Option.getD_some]

/-- The exported record of a positive amount is accepted as the same transaction. -/
theorem validateTransaction_toRecord {runtime : Runtime} (reads : runtime.ReadsISOStrings)
    {record : List (JsString × Json)} {transaction : ValidatedTransaction}
    (normalizes : Normalizes runtime record [] transaction) (positive : 0 < transaction.amount) :
    validateTransaction runtime (.object transaction.toRecord) [] = .ok transaction := by
  obtain ⟨rawAmount, _, isAmount⟩ := normalizes.amount
  obtain ⟨parsed, _, _, rounded⟩ := amount_of_normalizeAmount isAmount
  obtain ⟨rawTimestamp, isTimestamp⟩ := normalizes.timestamp
  have admitted := isAdmitted_of_normalizeTimestamp isTimestamp
  have code := isCurrencyCode_of_normalizeCurrency normalizes.currencyMember
  refine eq_ok_of_normalizes ?_
  exact
    { provider := provider_of_toRecord normalizes.provider
      transactionId := normalizeRequiredString_eq_self
        (isCleanWithin_of_normalizeRequiredString normalizes.transactionId)
      accountId := normalizeRequiredString_eq_self
        (isCleanWithin_of_normalizeRequiredString normalizes.accountId)
      merchantId := normalizeRequiredString_eq_self
        (isCleanWithin_of_normalizeRequiredString normalizes.merchantId)
      amount := ⟨.number (.finite transaction.amount), rfl,
        normalizeAmount_eq_self positive ⟨mathRound (parsed * 100), rounded⟩⟩
      currency := ⟨transaction.currency, matchesCurrencyPattern_of_isCurrencyCode code,
        (toUpperCase_eq_self code).symm⟩
      currencyMember := normalizeCurrency_eq_self code
      timestamp := ⟨_, normalizeTimestamp_toISOString reads admitted⟩
      timestampMember := normalizeTimestamp_toISOString reads admitted
      description := validateDescription_toRecord
        (isCleanWithin_of_validateDescription normalizes.description) }

/-! ### Importing again -/

/-- A record that is accepted without a fallback, with an amount above zero, is accepted again
as it is exported, as the same transaction with the same key and fingerprint; and the text of
the export reads back. -/
theorem reimport_same (runtime : Runtime) (raw : Json) (transaction : ValidatedTransaction)
    (readsISOStrings : runtime.ReadsISOStrings)
    (accepts : validateTransaction runtime raw [] = .ok transaction)
    (positive : 0 < transaction.amount) :
    (∃ again, validateTransaction runtime (.object transaction.toRecord) [] = .ok again ∧
        again = transaction ∧ again.key = transaction.key ∧
        computeFingerprint runtime again = computeFingerprint runtime transaction) ∧
      (Json.PrintsReadably runtime transaction.amount →
        Json.parse (Json.stringify runtime (.object transaction.toRecord)) =
          some (.object transaction.toRecord)) := by
  obtain ⟨record, rfl, normalizes⟩ := normalizes_of_eq_ok accepts
  refine ⟨⟨transaction, ?_, rfl, rfl, rfl⟩, parse_stringify_toRecord transaction⟩
  exact validateTransaction_toRecord readsISOStrings normalizes positive

/-- A host that reads the ISO dates it prints, and no others. -/
def isoRuntime : Runtime :=
  { System.emptyFilePorts.runtime with
    dateParse := fun text =>
      if toISOString (ofISOString text) = text then some (ofISOString text) else none }

theorem isoRuntime_readsISOStrings : isoRuntime.ReadsISOStrings := by
  intro time sinceYear untilYear
  have same : ofISOString (toISOString time) = time :=
    ofISOString_toISOString (by omega) (by omega)
  rw [isoRuntime]
  simp only [same, if_pos]

theorem reimport_same_cents :
    (∃ again, validateTransaction isoRuntime (.object (transactionOfCents 250).toRecord) [] =
          .ok again ∧
        again = transactionOfCents 250 ∧ again.key = (transactionOfCents 250).key ∧
        computeFingerprint isoRuntime again = computeFingerprint isoRuntime
          (transactionOfCents 250)) ∧
      (Json.PrintsReadably isoRuntime (transactionOfCents 250).amount →
        Json.parse (Json.stringify isoRuntime (.object (transactionOfCents 250).toRecord)) =
          some (.object (transactionOfCents 250).toRecord)) :=
  reimport_same isoRuntime (recordOfAmount (5 / 2)) (transactionOfCents 250)
    isoRuntime_readsISOStrings (eq_ok_of_toOption (by decide +kernel)) (by decide +kernel)

end ImportService
