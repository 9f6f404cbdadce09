/-
This file proves that what the validator accepts is valid: identifiers and descriptions
are clean and of the right length, the currency is a code in capitals, the time is in the
admitted years, and each field comes from the record's own member of that name.

One check is made before the value it is about is changed. An amount must be positive, and
is rounded to cents after that, so that an amount below half a cent is accepted and becomes
zero.
-/

import ImportService.Lib.Trim
import ImportService.StoredRecords

namespace ImportService

open JsString

/-! ### Valid fields -/

namespace JsString

/-- No control characters, and no white space at either end. -/
abbrev IsClean (text : JsString) : Prop := Trim.IsClean isSpace isControl text

theorem isClean_cleaned (text : JsString) : IsClean (trim (removeControls text)) :=
  Trim.isClean_clean isSpace isControl text

theorem cleaned_eq_self {text : JsString} (isClean : IsClean text) :
    trim (removeControls text) = text :=
  Trim.clean_eq_self isSpace isControl isClean

/-- A clean text of one up to `limit` code units. -/
structure IsCleanWithin (limit : Nat) (text : JsString) : Prop where
  isClean : IsClean text
  notEmpty : text ≠ []
  short : text.length ≤ limit

/-- Three letters A to Z. -/
def IsCurrencyCode (text : JsString) : Prop :=
  text.length = 3 ∧ ∀ unit ∈ text, isUpperLetter unit = true

end JsString

/-- A time value of a `Date` in the years 1970 to 2200. -/
structure JsDate.IsAdmitted (time : Int) : Prop where
  isInstant : |time| ≤ 8640000000000000
  sinceYear : 1970 ≤ getUTCFullYear time
  untilYear : getUTCFullYear time ≤ 2200

/-- What the validator promises of a transaction. -/
structure ValidatedTransaction.Valid (transaction : ValidatedTransaction) : Prop where
  provider : IsClean transaction.provider
  transactionId : IsCleanWithin MAX_IDENTIFIER_LENGTH transaction.transactionId
  accountId : IsCleanWithin MAX_IDENTIFIER_LENGTH transaction.accountId
  merchantId : IsCleanWithin MAX_IDENTIFIER_LENGTH transaction.merchantId
  positive : 0 < transaction.amount
  inCents : ∃ cents : Int, transaction.amount = cents / 100
  currency : IsCurrencyCode transaction.currency
  timestamp : JsDate.IsAdmitted transaction.timestamp
  description : ∀ text ∈ transaction.description, IsCleanWithin MAX_DESCRIPTION_LENGTH text

/-- The member of a value, which is `undefined` where the value is not an object. -/
def Json.member (name : String) : Json → Option Json
  | .object members => Json.get? members name
  | _ => none

/-- Two accepted records with the same member of a name have the same field of that name, with
the same fallback for the provider. -/
structure ReadsOwnMembers (raw other : Json) (fallbackProvider otherFallback : JsString)
    (transaction otherTransaction : ValidatedTransaction) : Prop where
  provider : raw.member "provider" = other.member "provider" →
    fallbackProvider = otherFallback → transaction.provider = otherTransaction.provider
  transactionId : raw.member "transactionId" = other.member "transactionId" →
    transaction.transactionId = otherTransaction.transactionId
  accountId : raw.member "accountId" = other.member "accountId" →
    transaction.accountId = otherTransaction.accountId
  merchantId : raw.member "merchantId" = other.member "merchantId" →
    transaction.merchantId = otherTransaction.merchantId
  amount : raw.member "amount" = other.member "amount" →
    transaction.amount = otherTransaction.amount
  currency : raw.member "currency" = other.member "currency" →
    transaction.currency = otherTransaction.currency
  timestamp : raw.member "timestamp" = other.member "timestamp" →
    transaction.timestamp = otherTransaction.timestamp
  description : raw.member "description" = other.member "description" →
    transaction.description = otherTransaction.description

/-! ### What the normalisers return -/

theorem normalizeRequiredString_string (value : JsString) :
    normalizeRequiredString (some (.string value)) =
      (if (trim (removeControls value)).length = 0 then none
        else if MAX_IDENTIFIER_LENGTH < (trim (removeControls value)).length then none
        else some (trim (removeControls value))) := rfl

theorem isCleanWithin_of_normalizeRequiredString {value : Option Json} {text : JsString}
    (normalized : normalizeRequiredString value = some text) :
    IsCleanWithin MAX_IDENTIFIER_LENGTH text := by
  unfold normalizeRequiredString at normalized
  split at normalized
  · rename_i given
    simp only [ite_eq_iff, reduceCtorEq, and_false, false_or, Option.some.injEq] at normalized
    obtain ⟨notEmpty, short, rfl⟩ := normalized
    exact
      { isClean := isClean_cleaned given
        notEmpty := fun isEmpty => notEmpty (by rw [isEmpty, List.length_nil])
        short := Nat.not_lt.mp short }
  · cases normalized

theorem normalizeRequiredString_eq_self {text : JsString}
    (clean : IsCleanWithin MAX_IDENTIFIER_LENGTH text) :
    normalizeRequiredString (some (.string text)) = some text := by
  rw [normalizeRequiredString_string, cleaned_eq_self clean.isClean,
    if_neg (mt List.length_eq_zero_iff.mp clean.notEmpty), if_neg (Nat.not_lt.mpr clean.short)]

theorem isClean_provider {value : Option Json} {fallbackProvider : JsString}
    (cleanFallback : IsClean fallbackProvider) :
    IsClean ((normalizeRequiredString value).getD fallbackProvider) := by
  cases normalized : normalizeRequiredString value with
  | none => exact cleanFallback
  | some text => exact (isCleanWithin_of_normalizeRequiredString normalized).isClean

theorem isUpperLetter_upper {unit : UInt16} (letter : isLetter unit = true) :
    isUpperLetter (if isLowerLetter unit then unit - 0x20 else unit) = true := by
  rw [isLetter, Bool.or_eq_true] at letter
  split
  · rename_i lower
    simp only [isLowerLetter, Bool.and_eq_true, decide_eq_true_eq, UInt16.le_iff_toNat_le,
      UInt16.reduceToNat] at lower
    have noBorrow : (0x20 : UInt16) ≤ unit := by
      rw [UInt16.le_iff_toNat_le]
      simp only [UInt16.reduceToNat]
      omega
    simp only [isUpperLetter, Bool.and_eq_true, decide_eq_true_eq, UInt16.le_iff_toNat_le,
      UInt16.toNat_sub_of_le _ _ noBorrow, UInt16.reduceToNat]
    omega
  · rename_i notLower
    exact letter.resolve_right notLower

theorem isCurrencyCode_of_normalizeCurrency {value : Option Json} {currency : JsString}
    (normalized : normalizeCurrency value = some currency) : IsCurrencyCode currency := by
  obtain ⟨rawCurrency, isRaw, rfl⟩ := Option.map_eq_some_iff.mp normalized
  have isPattern := (Option.filter_eq_some_iff.mp isRaw).2
  rw [matchesCurrencyPattern, Bool.and_eq_true, beq_iff_eq, List.all_eq_true] at isPattern
  obtain ⟨threeUnits, letters⟩ := isPattern
  refine ⟨by rw [toUpperCase, List.length_map, threeUnits], fun unit member => ?_⟩
  obtain ⟨rawUnit, isRawUnit, rfl⟩ := List.mem_map.mp member
  exact isUpperLetter_upper (letters rawUnit isRawUnit)

theorem isAdmitted_of_normalizeTimestamp {runtime : Runtime} {value : Json} {time : Int}
    (normalized : normalizeTimestamp runtime value = some time) : JsDate.IsAdmitted time := by
  obtain ⟨given, _, inYears⟩ := Option.bind_eq_some_iff.mp normalized
  simp only at inYears
  split at inYears
  · cases inYears
  · rename_i admitted
    cases inYears
    rw [Bool.or_eq_true, decide_eq_true_eq, decide_eq_true_eq, not_or, Int.not_lt,
      Int.not_lt] at admitted
    have era := civil_year (time / JsDate.msPerDay)
    have inYears := admitted
    rw [JsDate.getUTCFullYear] at inYears
    have isInstant : -8640000000000000 ≤ time ∧ time ≤ 8640000000000000 := by
      rw [JsDate.msPerDay] at era inYears
      omega
    exact ⟨abs_le.mpr isInstant, admitted.1, admitted.2⟩

theorem isCleanWithin_of_validateDescription {members : List (JsString × Json)}
    {description : Option JsString} (accepts : validateDescription members = .ok description) :
    ∀ text ∈ description, IsCleanWithin MAX_DESCRIPTION_LENGTH text := by
  intro text given
  unfold validateDescription at accepts
  split at accepts
  · cases accepts
    cases given
  · cases accepts
    cases given
  · rename_i value _
    simp only at accepts
    split at accepts
    · cases accepts
    · rename_i short
      cases accepts
      split at given
      · rename_i notEmpty
        cases given
        exact
          { isClean := isClean_cleaned value
            notEmpty := List.ne_nil_of_length_pos notEmpty
            short := Nat.not_lt.mp short }
      · cases given
  · cases accepts

/-- Rounded to cents, a positive number is positive when it is at least half a cent before. -/
theorem round_pos_iff (parsed : Rat) :
    (0 : Rat) < mathRound (parsed * 100) / 100 ↔ 1 / 200 ≤ parsed := by
  have atLeastOne : 1 ≤ mathRound (parsed * 100) ↔ 1 / 200 ≤ parsed := by
    rw [mathRound, Int.le_floor]
    push_cast
    constructor
    · intro large
      linarith
    · intro large
      linarith
  rw [← atLeastOne, div_pos_iff_of_pos_right (by norm_num), Int.cast_pos]
  exact Int.lt_iff_add_one_le

theorem validateDescription_congr {record other : List (JsString × Json)}
    (same : Json.get? record "description" = Json.get? other "description") :
    validateDescription record = validateDescription other := by
  unfold validateDescription
  rw [same]

theorem readsOwnMembers {runtime : Runtime} {record other : List (JsString × Json)}
    {fallbackProvider otherFallback : JsString}
    {transaction otherTransaction : ValidatedTransaction}
    (normalizes : Normalizes runtime record fallbackProvider transaction)
    (otherNormalizes : Normalizes runtime other otherFallback otherTransaction) :
    ReadsOwnMembers (.object record) (.object other) fallbackProvider otherFallback transaction
      otherTransaction where
  provider := by
    intro same sameFallback
    rw [normalizes.provider, otherNormalizes.provider, sameFallback]
    exact congrArg (fun value => (normalizeRequiredString value).getD otherFallback) same
  transactionId := by
    intro same
    have normalized := congrArg normalizeRequiredString same
    exact Option.some.inj
      (normalizes.transactionId.symm.trans (normalized.trans otherNormalizes.transactionId))
  accountId := by
    intro same
    have normalized := congrArg normalizeRequiredString same
    exact Option.some.inj
      (normalizes.accountId.symm.trans (normalized.trans otherNormalizes.accountId))
  merchantId := by
    intro same
    have normalized := congrArg normalizeRequiredString same
    exact Option.some.inj
      (normalizes.merchantId.symm.trans (normalized.trans otherNormalizes.merchantId))
  amount := by
    intro same
    obtain ⟨rawAmount, isRaw, isAmount⟩ := normalizes.amount
    obtain ⟨otherAmount, isOther, isOtherAmount⟩ := otherNormalizes.amount
    have sameAmount : rawAmount = otherAmount :=
      Option.some.inj (isRaw.symm.trans (same.trans isOther))
    rw [sameAmount, isOtherAmount] at isAmount
    exact Option.some.inj isAmount.symm
  currency := by
    intro same
    have normalized := congrArg normalizeCurrency same
    exact Option.some.inj
      (normalizes.currencyMember.symm.trans (normalized.trans otherNormalizes.currencyMember))
  timestamp := by
    intro same
    have normalized := congrArg (fun value => value.bind (normalizeTimestamp runtime)) same
    exact Option.some.inj
      (normalizes.timestampMember.symm.trans (normalized.trans otherNormalizes.timestampMember))
  description := by
    intro same
    have accepts := normalizes.description
    rw [validateDescription_congr same, otherNormalizes.description] at accepts
    exact (Except.ok.inj accepts).symm

/-! ### Accepted records -/

/-- The amount of the record, as a number, is at least half a cent. -/
def AmountIsHalfCent (raw : Json) : Prop :=
  ∀ rawAmount parsed, raw.member "amount" = some rawAmount →
    amountNumber rawAmount = .finite parsed → 1 / 200 ≤ parsed

/-- An accepted record is valid, and reads each field from its own member, exactly when its
amount is at least half a cent. -/
theorem accepted_valid_iff (runtime : Runtime) (raw : Json) (fallbackProvider : JsString)
    (transaction : ValidatedTransaction) (cleanFallback : IsClean fallbackProvider)
    (accepts : validateTransaction runtime raw fallbackProvider = .ok transaction) :
    (transaction.Valid ∧
        ∀ other otherFallback otherTransaction,
          validateTransaction runtime other otherFallback = .ok otherTransaction →
            ReadsOwnMembers raw other fallbackProvider otherFallback transaction
              otherTransaction) ↔
      AmountIsHalfCent raw := by
  obtain ⟨record, rfl, normalizes⟩ := normalizes_of_eq_ok accepts
  obtain ⟨rawAmount, isRawAmount, isAmount⟩ := normalizes.amount
  obtain ⟨parsed, isParsed, _, rounded⟩ := amount_of_normalizeAmount isAmount
  constructor
  · rintro ⟨valid, _⟩ otherAmount otherParsed isOther isNumber
    rw [Json.member, isRawAmount] at isOther
    cases isOther
    rw [isParsed] at isNumber
    cases isNumber
    rw [← round_pos_iff, ← rounded]
    exact valid.positive
  · intro halfCent
    refine ⟨?_, fun other otherFallback otherTransaction otherAccepts => ?_⟩
    · exact
        { provider := normalizes.provider ▸ isClean_provider cleanFallback
          transactionId := isCleanWithin_of_normalizeRequiredString normalizes.transactionId
          accountId := isCleanWithin_of_normalizeRequiredString normalizes.accountId
          merchantId := isCleanWithin_of_normalizeRequiredString normalizes.merchantId
          positive := by
            rw [rounded, round_pos_iff]
            exact halfCent rawAmount parsed isRawAmount isParsed
          inCents := ⟨mathRound (parsed * 100), rounded⟩
          currency := isCurrencyCode_of_normalizeCurrency normalizes.currencyMember
          timestamp := by
            obtain ⟨rawTimestamp, isTimestamp⟩ := normalizes.timestamp
            exact isAdmitted_of_normalizeTimestamp isTimestamp
          description := isCleanWithin_of_validateDescription normalizes.description }
    · obtain ⟨otherRecord, rfl, otherNormalizes⟩ := normalizes_of_eq_ok otherAccepts
      exact readsOwnMembers normalizes otherNormalizes

/-- A record of an amount, with nothing else to object to. -/
def recordOfAmount (amount : Rat) : Json :=
  .object
    [(ofString "transactionId", .string (ofString "t")),
      (ofString "accountId", .string (ofString "a")),
      (ofString "merchantId", .string (ofString "m")),
      (ofString "amount", .number (.finite amount)),
      (ofString "currency", .string (ofString "eur")),
      (ofString "timestamp", .number (.finite 0))]

/-- The transaction of an amount in cents. -/
def transactionOfCents (cents : Int) : ValidatedTransaction where
  provider := []
  transactionId := ofString "t"
  accountId := ofString "a"
  merchantId := ofString "m"
  amount := cents / 100
  currency := ofString "EUR"
  timestamp := 0
  description := none

theorem accepted_valid_iff_halfCent :
    ((transactionOfCents 1).Valid ∧
        ∀ other otherFallback otherTransaction,
          validateTransaction System.emptyFilePorts.runtime other otherFallback =
              .ok otherTransaction →
            ReadsOwnMembers (recordOfAmount (1 / 200)) other [] otherFallback
              (transactionOfCents 1) otherTransaction) ↔
      AmountIsHalfCent (recordOfAmount (1 / 200)) :=
  accepted_valid_iff System.emptyFilePorts.runtime (recordOfAmount (1 / 200)) []
    (transactionOfCents 1) (Trim.isClean_nil isSpace isControl)
    (eq_ok_of_toOption (by decide +kernel))

/-- The validator accepts an amount of 0.004, as an amount of zero. -/
theorem accepted_of_belowHalfCent :
    IsClean [] ∧
      validateTransaction System.emptyFilePorts.runtime (recordOfAmount (1 / 250)) [] =
        .ok (transactionOfCents 0) ∧
      ¬ (transactionOfCents 0).Valid := by
  refine ⟨Trim.isClean_nil isSpace isControl, eq_ok_of_toOption (by decide +kernel), ?_⟩
  intro valid
  exact absurd valid.positive (by decide +kernel)

end ImportService
