/-
This file proves which accepted records can be stored. The validator checks the fields one
by one, and the columns of the transactions table are declared in the schema: this
compares the two, column by column.

Two columns are left to the input. The validator has no upper bound for an amount, which
the column has, and a record without a provider takes the fallback as it is.
-/

import ImportService.System

namespace ImportService

open JsString

/-! ### Columns -/

namespace Column

/-- `TEXT`: the encoding has no place for U+0000. -/
def IsText (value : JsString) : Prop := 0 ∉ value

/-- The number of characters of a text, in which a pair of surrogates is one character. -/
def characterCount : JsString → Nat
  | [] => 0
  | [_] => 1
  | unit :: next :: rest =>
      if isHighSurrogate unit && isLowSurrogate next then characterCount rest + 1
      else characterCount (next :: rest) + 1

/-- `VARCHAR(limit)` -/
def IsVarchar (limit : Nat) (value : JsString) : Prop :=
  IsText value ∧ characterCount value ≤ limit

/-- `DECIMAL(precision, scale)` -/
def IsDecimal (precision scale : Nat) (value : Rat) : Prop :=
  ∃ units : Int, value = units / 10 ^ scale ∧ |units| < 10 ^ precision

/-- `TIMESTAMP(3)`: from 4714-11-24 BC to the end of the year 294276. -/
def IsTimestamp (time : Int) : Prop := -210866803200000 ≤ time ∧ time < 9224318016000000

theorem characterCount_le_length (value : JsString) : characterCount value ≤ value.length := by
  fun_induction characterCount value with
  | case1 => exact Nat.le_refl 0
  | case2 => exact Nat.le_refl 1
  | case3 unit next rest _ inductionHypothesis =>
    rw [List.length_cons, List.length_cons]
    omega
  | case4 unit next rest _ inductionHypothesis =>
    rw [List.length_cons]
    omega

theorem isVarchar_of_length {limit : Nat} {value : JsString} (isText : IsText value)
    (short : value.length ≤ limit) : IsVarchar limit value :=
  ⟨isText, (characterCount_le_length value).trans short⟩

end Column

open Column

/-- Every field of the transaction is in the domain of its column. -/
structure ValidatedTransaction.Storable (transaction : ValidatedTransaction) : Prop where
  provider : IsText transaction.provider
  transactionId : IsText transaction.transactionId
  accountId : IsText transaction.accountId
  merchantId : IsText transaction.merchantId
  amount : IsDecimal 18 2 transaction.amount
  currency : IsVarchar 3 transaction.currency
  timestamp : IsTimestamp transaction.timestamp
  description : ∀ text ∈ transaction.description, IsVarchar 500 text

/-! ### The fields of an accepted record -/

/-- The number an amount denotes; text without a number denotes none. -/
def amountNumber : Json → JsNumber
  | .number parsed => parsed
  | .string text => if (trim text).isEmpty then .nan else JsNumber.ofText (trim text)
  | _ => .nan

/-- Where the fields of an accepted record come from. -/
structure Validated (runtime : Runtime) (record : List (JsString × Json))
    (fallbackProvider : JsString) (transaction : ValidatedTransaction) : Prop where
  provider : transaction.provider =
    (normalizeRequiredString (Json.get? record "provider")).getD fallbackProvider
  transactionId :
    normalizeRequiredString (Json.get? record "transactionId") = some transaction.transactionId
  accountId : normalizeRequiredString (Json.get? record "accountId") = some transaction.accountId
  merchantId :
    normalizeRequiredString (Json.get? record "merchantId") = some transaction.merchantId
  amount : ∃ rawAmount, Json.get? record "amount" = some rawAmount ∧
    normalizeAmount rawAmount = some transaction.amount
  currency : ∃ rawCurrency, matchesCurrencyPattern rawCurrency = true ∧
    transaction.currency = toUpperCase rawCurrency
  timestamp : ∃ rawTimestamp, normalizeTimestamp runtime rawTimestamp = some transaction.timestamp
  description : validateDescription record = .ok transaction.description

/-- The currency is matched against the pattern before it is put in upper case. -/
def normalizeCurrency (value : Option Json) : Option JsString :=
  ((normalizeRequiredString value).filter matchesCurrencyPattern).map toUpperCase

/-- Every field of the transaction is what the validator makes of one member of the record. -/
structure Normalizes (runtime : Runtime) (record : List (JsString × Json))
    (fallbackProvider : JsString) (transaction : ValidatedTransaction) : Prop
    extends Validated runtime record fallbackProvider transaction where
  currencyMember : normalizeCurrency (Json.get? record "currency") = some transaction.currency
  timestampMember :
    (Json.get? record "timestamp").bind (normalizeTimestamp runtime) = some transaction.timestamp

theorem requiredString_eq_ok_iff {members : List (JsString × Json)} {field : String}
    {value : JsString} :
    requiredString members field = .ok value ↔
      normalizeRequiredString (Json.get? members field) = some value := by
  unfold requiredString
  split
  · rename_i normalized found
    rw [found, Except.ok.injEq, Option.some.injEq]
  · rename_i missing
    rw [missing]
    simp only [fail, reduceCtorEq]

/-- A member that is there and is not `null`. -/
theorem requiredValue_eq_ok_iff {members : List (JsString × Json)} {field : String}
    {value : Json} :
    requiredValue members field = .ok value ↔
      Json.get? members field = some value ∧ value ≠ .null := by
  unfold requiredValue
  split
  · rename_i missing
    simp only [missing, fail, reduceCtorEq, false_and]
  · rename_i isNull
    rw [isNull, Option.some.injEq]
    constructor
    · intro accepts
      cases accepts
    · rintro ⟨same, notNull⟩
      exact absurd same.symm notNull
  · rename_i given notNull found
    rw [found, Except.ok.injEq, Option.some.injEq]
    constructor
    · rintro rfl
      exact ⟨rfl, fun isNull => notNull isNull⟩
    · exact And.left

theorem eq_ok_of_toOption {Error Result : Type} {outcome : Except Error Result} {result : Result}
    (accepts : outcome.toOption = some result) : outcome = .ok result := by
  cases outcome with
  | error error => cases accepts
  | ok other => exact congrArg Except.ok (Option.some.inj accepts)

theorem exists_of_bind_eq_ok {Error Middle Result : Type} {first : Except Error Middle}
    {rest : Middle → Except Error Result} {result : Result}
    (accepts : (first >>= rest) = .ok result) :
    ∃ middle, first = .ok middle ∧ rest middle = .ok result := by
  cases first with
  | error error => cases accepts
  | ok middle => exact ⟨middle, rfl, accepts⟩

theorem ok_bind {Error Middle Result : Type} (middle : Middle)
    (rest : Middle → Except Error Result) : (Except.ok middle >>= rest) = rest middle := rfl

theorem normalizes_of_eq_ok {runtime : Runtime} {raw : Json} {fallbackProvider : JsString}
    {transaction : ValidatedTransaction}
    (accepts : validateTransaction runtime raw fallbackProvider = .ok transaction) :
    ∃ record, raw = .object record ∧
      Normalizes runtime record fallbackProvider transaction := by
  unfold validateTransaction at accepts
  split at accepts
  · rename_i record
    obtain ⟨transactionId, isTransactionId, accepts⟩ := exists_of_bind_eq_ok accepts
    obtain ⟨accountId, isAccountId, accepts⟩ := exists_of_bind_eq_ok accepts
    obtain ⟨merchantId, isMerchantId, accepts⟩ := exists_of_bind_eq_ok accepts
    obtain ⟨rawAmount, isRawAmount, accepts⟩ := exists_of_bind_eq_ok accepts
    split at accepts
    · rename_i amount isAmount
      obtain ⟨_, ⟨⟩, accepts⟩ := exists_of_bind_eq_ok accepts
      obtain ⟨rawCurrency, isRawCurrency, accepts⟩ := exists_of_bind_eq_ok accepts
      split at accepts
      · cases accepts
      · rename_i isCurrency
        obtain ⟨rawTimestamp, isRawTimestamp, accepts⟩ := exists_of_bind_eq_ok accepts
        split at accepts
        · rename_i timestamp isTimestamp
          obtain ⟨_, ⟨⟩, accepts⟩ := exists_of_bind_eq_ok accepts
          obtain ⟨description, isDescription, accepts⟩ := exists_of_bind_eq_ok accepts
          cases accepts
          have codeMatches : matchesCurrencyPattern rawCurrency = true := by
            simpa using isCurrency
          refine ⟨record, rfl, ?_⟩
          exact
            { provider := rfl
              transactionId := requiredString_eq_ok_iff.mp isTransactionId
              accountId := requiredString_eq_ok_iff.mp isAccountId
              merchantId := requiredString_eq_ok_iff.mp isMerchantId
              amount := ⟨rawAmount, (requiredValue_eq_ok_iff.mp isRawAmount).1, isAmount⟩
              currency := ⟨rawCurrency, codeMatches, rfl⟩
              currencyMember := by
                rw [normalizeCurrency, requiredString_eq_ok_iff.mp isRawCurrency,
                  Option.filter_some_pos codeMatches, Option.map_some]
              timestamp := ⟨rawTimestamp, isTimestamp⟩
              timestampMember := by
                rw [(requiredValue_eq_ok_iff.mp isRawTimestamp).1]
                exact isTimestamp
              description := isDescription }
        · cases accepts
    · cases accepts
  · cases accepts

/-- The validator accepts a record when each of its members normalises. -/
theorem eq_ok_of_normalizes {runtime : Runtime} {record : List (JsString × Json)}
    {fallbackProvider : JsString} {transaction : ValidatedTransaction}
    (normalizes : Normalizes runtime record fallbackProvider transaction) :
    validateTransaction runtime (.object record) fallbackProvider = .ok transaction := by
  obtain ⟨rawAmount, isRawAmount, isAmount⟩ := normalizes.amount
  obtain ⟨rawTimestamp, isRawTimestamp, isTimestamp⟩ :=
    Option.bind_eq_some_iff.mp normalizes.timestampMember
  obtain ⟨rawCurrency, isRawCurrency, upper⟩ :=
    Option.map_eq_some_iff.mp normalizes.currencyMember
  obtain ⟨isRawCurrency, isCurrency⟩ := Option.filter_eq_some_iff.mp isRawCurrency
  have amountGiven : requiredValue record "amount" = .ok rawAmount :=
    requiredValue_eq_ok_iff.mpr ⟨isRawAmount, by rintro rfl; cases isAmount⟩
  have timestampGiven : requiredValue record "timestamp" = .ok rawTimestamp :=
    requiredValue_eq_ok_iff.mpr ⟨isRawTimestamp, by rintro rfl; cases isTimestamp⟩
  unfold validateTransaction
  simp only [ok_bind, requiredString_eq_ok_iff.mpr normalizes.transactionId,
    requiredString_eq_ok_iff.mpr normalizes.accountId,
    requiredString_eq_ok_iff.mpr normalizes.merchantId, amountGiven, isAmount,
    requiredString_eq_ok_iff.mpr isRawCurrency, isCurrency, timestampGiven, isTimestamp,
    normalizes.description, ← normalizes.provider, upper, Bool.not_true, Bool.false_eq_true,
    if_false]

theorem validated_of_eq_ok {runtime : Runtime} {raw : Json} {fallbackProvider : JsString}
    {transaction : ValidatedTransaction}
    (accepts : validateTransaction runtime raw fallbackProvider = .ok transaction) :
    ∃ record, raw = .object record ∧
      Validated runtime record fallbackProvider transaction := by
  obtain ⟨record, isRecord, normalizes⟩ := normalizes_of_eq_ok accepts
  exact ⟨record, isRecord, normalizes.toValidated⟩

/-! ### The fields and their columns -/

theorem mem_of_mem_trim {unit : UInt16} {text : JsString} (member : unit ∈ trim text) :
    unit ∈ text := by
  have afterEnd := List.mem_reverse.mp
    ((List.dropWhile_sublist isSpace).mem (List.mem_reverse.mp member))
  exact (List.dropWhile_sublist isSpace).mem afterEnd

/-- The validator removes control characters, and U+0000 with them. -/
theorem isText_cleaned (value : JsString) : IsText (trim (removeControls value)) := by
  intro member
  have kept := (List.mem_filter.mp (mem_of_mem_trim member)).2
  cases kept

theorem isText_of_normalizeRequiredString {value : Option Json} {text : JsString}
    (normalized : normalizeRequiredString value = some text) : IsText text := by
  unfold normalizeRequiredString at normalized
  split at normalized
  · rename_i given
    simp only at normalized
    split at normalized
    · cases normalized
    · split at normalized
      · cases normalized
      · cases normalized
        exact isText_cleaned given
  · cases normalized

/-- The provider is the record's own, or the fallback. -/
theorem isText_provider_iff {value : Option Json} {fallbackProvider : JsString} :
    IsText ((normalizeRequiredString value).getD fallbackProvider) ↔
      (normalizeRequiredString value = none → IsText fallbackProvider) := by
  cases normalized : normalizeRequiredString value with
  | none => exact ⟨fun isText _ => isText, fun isText => isText rfl⟩
  | some text =>
    exact ⟨fun _ absent => (nomatch absent), fun _ => isText_of_normalizeRequiredString normalized⟩

theorem isVarchar_currency {rawCurrency : JsString}
    (isCurrency : matchesCurrencyPattern rawCurrency = true) :
    IsVarchar 3 (toUpperCase rawCurrency) := by
  rw [matchesCurrencyPattern, Bool.and_eq_true, beq_iff_eq, List.all_eq_true] at isCurrency
  obtain ⟨threeUnits, letters⟩ := isCurrency
  refine isVarchar_of_length ?_ ?_
  · intro member
    obtain ⟨unit, isUnit, upper⟩ := List.mem_map.mp member
    have letter := letters unit isUnit
    simp only [isLetter, isUpperLetter, isLowerLetter, Bool.or_eq_true, Bool.and_eq_true,
      decide_eq_true_eq, UInt16.le_iff_toNat_le, UInt16.reduceToNat] at letter
    split at upper
    · rename_i lower
      simp only [isLowerLetter, Bool.and_eq_true, decide_eq_true_eq, UInt16.le_iff_toNat_le,
        UInt16.reduceToNat] at lower
      have noBorrow : (0x20 : UInt16) ≤ unit := by
        rw [UInt16.le_iff_toNat_le]
        simp only [UInt16.reduceToNat]
        omega
      have difference := congrArg UInt16.toNat upper
      rw [UInt16.toNat_sub_of_le _ _ noBorrow] at difference
      simp only [UInt16.reduceToNat] at difference
      omega
    · rw [upper] at letter
      simp only [UInt16.reduceToNat] at letter
      omega
  · rw [toUpperCase, List.length_map, threeUnits]

theorem isVarchar_description {members : List (JsString × Json)} {description : Option JsString}
    (accepts : validateDescription members = .ok description) :
    ∀ text ∈ description, IsVarchar 500 text := by
  intro text given
  unfold validateDescription at accepts
  split at accepts
  · cases accepts
    cases given
  · cases accepts
    cases given
  · rename_i value _
    simp only at accepts
    split at accepts
    · cases accepts
    · rename_i short
      cases accepts
      split at given
      · cases given
        exact isVarchar_of_length (isText_cleaned value) (Nat.not_lt.mp short)
      · cases given
  · cases accepts

/-- The year of a day lies in the era of 400 years the day is in. -/
theorem civil_year (day : Int) :
    400 * ((day + 719468) / 146097) ≤ (JsDate.civil day).1 ∧
      (JsDate.civil day).1 ≤ 400 * ((day + 719468) / 146097) + 401 := by
  unfold JsDate.civil
  simp only
  constructor
  · split <;> omega
  · split <;> omega

/-- The years the validator admits lie well within the range of the column. -/
theorem isTimestamp_of_normalizeTimestamp {runtime : Runtime} {value : Json} {time : Int}
    (normalized : normalizeTimestamp runtime value = some time) : IsTimestamp time := by
  obtain ⟨given, _, inYears⟩ := Option.bind_eq_some_iff.mp normalized
  simp only at inYears
  split at inYears
  · cases inYears
  · rename_i admitted
    cases inYears
    rw [Bool.or_eq_true, decide_eq_true_eq, decide_eq_true_eq, JsDate.getUTCFullYear,
      JsDate.msPerDay] at admitted
    have era := civil_year (time / 86400000)
    unfold IsTimestamp
    omega

/-- A positive number, rounded to cents. -/
def roundedAmount : JsNumber → Option Rat
  | .finite parsed => if parsed ≤ 0 then none else some (mathRound (parsed * 100) / 100)
  | _ => none

theorem normalizeAmount_eq (value : Json) :
    normalizeAmount value = roundedAmount (amountNumber value) := by
  unfold normalizeAmount amountNumber
  cases value with
  | string text =>
    simp only
    split <;> rfl
  | _ => rfl

theorem amount_of_normalizeAmount {value : Json} {amount : Rat}
    (normalized : normalizeAmount value = some amount) :
    ∃ parsed, amountNumber value = .finite parsed ∧ 0 < parsed ∧
      amount = mathRound (parsed * 100) / 100 := by
  rw [normalizeAmount_eq] at normalized
  cases isNumber : amountNumber value with
  | finite parsed =>
    rw [isNumber, roundedAmount] at normalized
    split at normalized
    · cases normalized
    · rename_i positive
      cases normalized
      exact ⟨parsed, rfl, not_le.mp positive, rfl⟩
  | infinite | nan =>
    rw [isNumber] at normalized
    cases normalized

/-- Rounded to cents, a positive number fits the column when it is below `10 ^ 16` before. -/
theorem isDecimal_round_iff {parsed : Rat} (positive : 0 < parsed) :
    IsDecimal 18 2 (mathRound (parsed * 100) / 100) ↔ parsed < 10 ^ 16 - 1 / 200 := by
  have notNegative : 0 ≤ mathRound (parsed * 100) := by
    refine Int.floor_nonneg.mpr ?_
    linarith
  have below : mathRound (parsed * 100) < 10 ^ 18 ↔ parsed < 10 ^ 16 - 1 / 200 := by
    rw [mathRound, Int.floor_lt]
    push_cast
    constructor
    · intro small
      linarith
    · intro small
      linarith
  rw [← below]
  constructor
  · rintro ⟨units, same, small⟩
    have isUnits : mathRound (parsed * 100) = units := by
      have scaled := congrArg (fun value => value * 100) same
      norm_num at scaled
      exact scaled
    rw [isUnits]
    exact (abs_lt.mp small).2
  · intro small
    refine ⟨mathRound (parsed * 100), by norm_num, ?_⟩
    rw [abs_of_nonneg notNegative]
    exact small

/-! ### Accepted records -/

/-- What the columns ask of a record beyond what the validator checks. -/
def FitsColumns (raw : Json) (fallbackProvider : JsString) : Prop :=
  match raw with
  | .object record =>
      (∀ rawAmount parsed, Json.get? record "amount" = some rawAmount →
        amountNumber rawAmount = .finite parsed → parsed < 10 ^ 16 - 1 / 200) ∧
      (normalizeRequiredString (Json.get? record "provider") = none → IsText fallbackProvider)
  | _ => True

/-- Every accepted record can be stored exactly when its amount is below `10 ^ 16` and it has a
provider of its own or a fallback without U+0000. -/
theorem accepted_storable_iff (runtime : Runtime) (raw : Json) (fallbackProvider : JsString)
    (transaction : ValidatedTransaction)
    (accepts : validateTransaction runtime raw fallbackProvider = .ok transaction) :
    transaction.Storable ↔ FitsColumns raw fallbackProvider := by
  obtain ⟨record, rfl, validated⟩ := validated_of_eq_ok accepts
  obtain ⟨rawAmount, isRawAmount, isAmount⟩ := validated.amount
  obtain ⟨parsed, isParsed, positive, rounded⟩ := amount_of_normalizeAmount isAmount
  obtain ⟨rawCurrency, isCurrency, upper⟩ := validated.currency
  obtain ⟨rawTimestamp, isTimestamp⟩ := validated.timestamp
  have amountFits : IsDecimal 18 2 transaction.amount ↔ parsed < 10 ^ 16 - 1 / 200 := by
    rw [rounded]
    exact isDecimal_round_iff positive
  have providerFits : IsText transaction.provider ↔
      (normalizeRequiredString (Json.get? record "provider") = none →
        IsText fallbackProvider) := by
    rw [validated.provider]
    exact isText_provider_iff
  constructor
  · intro storable
    refine ⟨fun other number isOther isNumber => ?_, providerFits.mp storable.provider⟩
    rw [isRawAmount] at isOther
    cases isOther
    rw [isParsed] at isNumber
    cases isNumber
    exact amountFits.mp storable.amount
  · rintro ⟨amount, provider⟩
    exact
      { provider := providerFits.mpr provider
        transactionId := isText_of_normalizeRequiredString validated.transactionId
        accountId := isText_of_normalizeRequiredString validated.accountId
        merchantId := isText_of_normalizeRequiredString validated.merchantId
        amount := amountFits.mpr (amount rawAmount parsed isRawAmount isParsed)
        currency := by
          rw [upper]
          exact isVarchar_currency isCurrency
        timestamp := isTimestamp_of_normalizeTimestamp isTimestamp
        description := isVarchar_description validated.description }

/-- A record with the amount `10 ^ 16` and nothing else to object to. -/
def largeAmountRecord : Json :=
  .object
    [(ofString "transactionId", .string (ofString "t")),
      (ofString "accountId", .string (ofString "a")),
      (ofString "merchantId", .string (ofString "m")),
      (ofString "amount", .number (.finite (10 ^ 16))),
      (ofString "currency", .string (ofString "EUR")),
      (ofString "timestamp", .number (.finite 0))]

/-- The transaction the validator makes of it. -/
def largeAmountTransaction : ValidatedTransaction where
  provider := []
  transactionId := ofString "t"
  accountId := ofString "a"
  merchantId := ofString "m"
  amount := 10 ^ 16
  currency := ofString "EUR"
  timestamp := 0
  description := none

theorem largeAmount_accepted :
    validateTransaction System.emptyFilePorts.runtime largeAmountRecord [] =
      .ok largeAmountTransaction :=
  eq_ok_of_toOption (by decide +kernel)

theorem accepted_storable_iff_largeAmount :
    largeAmountTransaction.Storable ↔ FitsColumns largeAmountRecord [] :=
  accepted_storable_iff System.emptyFilePorts.runtime largeAmountRecord [] largeAmountTransaction
    largeAmount_accepted

/-- The validator accepts an amount the column has no room for. -/
theorem largeAmount_not_storable :
    validateTransaction System.emptyFilePorts.runtime largeAmountRecord [] =
        .ok largeAmountTransaction ∧
      ¬ largeAmountTransaction.Storable := by
  refine ⟨largeAmount_accepted, fun storable => ?_⟩
  obtain ⟨units, same, small⟩ := storable.amount
  have isUnits : (units : Rat) = 10 ^ 18 := by
    have scaled : (10 ^ 16 : Rat) = units / 10 ^ 2 := same
    linarith
  have large : units = 10 ^ 18 := by exact_mod_cast isUnits
  rw [large] at small
  exact absurd small (by decide)

end ImportService
