/-
This file proves when two records that name their provider and their transaction keep apart
under the unique key of the transactions table. A transaction that is named with more
than 128 code units is rejected. A provider that is has the fallback in its place, and so
two providers can become one. And the table has its keys in UTF-8, where names that differ
only in unpaired surrogates are one.
-/

import ImportService.Acceptance

namespace ImportService

open JsString KeyedTable

/-! ### Named records -/

/-- The record names its provider and its transaction: these are what is left of the two
strings once they are cleaned, and neither is empty. -/
structure Json.Names (raw : Json) (provider transactionId : JsString) : Prop where
  namesProvider : ∃ text, raw.member "provider" = some (.string text) ∧
    trim (removeControls text) = provider
  namesTransaction : ∃ text, raw.member "transactionId" = some (.string text) ∧
    trim (removeControls text) = transactionId
  providerGiven : provider ≠ []
  transactionIdGiven : transactionId ≠ []

/-- Longer than an identifier may be. -/
def IsTooLong (identifier : JsString) : Prop := MAX_IDENTIFIER_LENGTH < identifier.length

instance (identifier : JsString) : Decidable (IsTooLong identifier) :=
  inferInstanceAs (Decidable (MAX_IDENTIFIER_LENGTH < identifier.length))

theorem normalizeRequiredString_of_given {text identifier : JsString}
    (cleaned : trim (removeControls text) = identifier) (given : identifier ≠ []) :
    normalizeRequiredString (some (.string text)) =
      if IsTooLong identifier then none else some identifier := by
  rw [normalizeRequiredString_string, cleaned, if_neg (mt List.length_eq_zero_iff.mp given)]
  rfl

section

variable {runtime : Runtime} {raw : Json} {fallbackProvider : JsString}
  {transaction : ValidatedTransaction} {provider transactionId : JsString}

/-- A provider that is too long is replaced by the fallback. -/
theorem Json.Names.stored_provider (names : raw.Names provider transactionId)
    (accepts : validateTransaction runtime raw fallbackProvider = .ok transaction) :
    transaction.provider = if IsTooLong provider then fallbackProvider else provider := by
  obtain ⟨record, rfl, normalizes⟩ := normalizes_of_eq_ok accepts
  obtain ⟨text, isMember, cleaned⟩ := names.namesProvider
  rw [Json.member] at isMember
  rw [normalizes.provider, isMember, normalizeRequiredString_of_given cleaned names.providerGiven]
  split
  · rfl
  · rfl

/-- A record whose transaction is named at too great a length is not accepted. -/
theorem Json.Names.stored_transactionId (names : raw.Names provider transactionId)
    (accepts : validateTransaction runtime raw fallbackProvider = .ok transaction) :
    transaction.transactionId = transactionId := by
  obtain ⟨record, rfl, normalizes⟩ := normalizes_of_eq_ok accepts
  obtain ⟨text, isMember, cleaned⟩ := names.namesTransaction
  have normalized := normalizes.transactionId
  rw [Json.member] at isMember
  rw [isMember, normalizeRequiredString_of_given cleaned names.transactionIdGiven] at normalized
  split at normalized
  · cases normalized
  · exact (Option.some.inj normalized).symm

end

/-! ### Two named records -/

/-- Two providers become one in the table: as they are, as the fallback of both, or as the
fallback of one, which is the other. -/
def ShareProvider (fallbackProvider provider otherProvider : JsString) : Prop :=
  if IsTooLong provider then
    IsTooLong otherProvider ∨ toWellFormed otherProvider = toWellFormed fallbackProvider
  else if IsTooLong otherProvider then toWellFormed provider = toWellFormed fallbackProvider
  else toWellFormed provider = toWellFormed otherProvider

instance (fallbackProvider provider otherProvider : JsString) :
    Decidable (ShareProvider fallbackProvider provider otherProvider) := by
  unfold ShareProvider
  infer_instance

/-- Two different pairs of names become one key in the table. -/
structure Merge (fallbackProvider provider otherProvider transactionId
    otherTransactionId : JsString) : Prop where
  different : provider ≠ otherProvider ∨ transactionId ≠ otherTransactionId
  provider : ShareProvider fallbackProvider provider otherProvider
  transactionId : toWellFormed transactionId = toWellFormed otherTransactionId

/-- The providers that are stored are one text in the table exactly when they share it. -/
theorem stored_eq_iff (fallbackProvider provider otherProvider : JsString) :
    toWellFormed (if IsTooLong provider then fallbackProvider else provider) =
        toWellFormed (if IsTooLong otherProvider then fallbackProvider else otherProvider) ↔
      ShareProvider fallbackProvider provider otherProvider := by
  unfold ShareProvider
  by_cases tooLong : IsTooLong provider
  · by_cases otherTooLong : IsTooLong otherProvider
    · rw [if_pos tooLong, if_pos otherTooLong, if_pos tooLong]
      exact iff_of_true rfl (Or.inl otherTooLong)
    · rw [if_pos tooLong, if_neg otherTooLong, if_pos tooLong]
      exact ⟨fun same => Or.inr same.symm,
        fun shared => (shared.resolve_left otherTooLong).symm⟩
  · by_cases otherTooLong : IsTooLong otherProvider
    · rw [if_neg tooLong, if_pos otherTooLong, if_neg tooLong, if_pos otherTooLong]
    · rw [if_neg tooLong, if_neg otherTooLong, if_neg tooLong, if_neg otherTooLong]

/-- An insert into a table with one row drops a row just when the two keys are the same. -/
theorem insertMissing_singleton_iff (row otherRow : TransactionRow) :
    insertMissing TransactionRow.key [row] [otherRow] = [row] ↔ row.key = otherRow.key := by
  rw [insertMissing_cons, insertMissing_nil, insertMissing_nil, lookup_singleton]
  by_cases same : row.key = otherRow.key
  · rw [if_pos same]
    exact ⟨fun _ => same, fun _ => rfl⟩
  · rw [if_neg same]
    refine ⟨fun unchanged => ?_, fun sameKey => absurd sameKey same⟩
    cases unchanged

/-- The unique key keeps the two transactions apart: under one key in the table they have one name,
and an insert of the second after the first drops it only for the sake of its own provider. -/
structure KeepsApart (transaction otherTransaction : ValidatedTransaction)
    (provider otherProvider transactionId otherTransactionId : JsString) : Prop where
  byKey : storedKey transaction.key = storedKey otherTransaction.key →
    provider = otherProvider ∧ transactionId = otherTransactionId
  byInsert : ∀ row otherRow : TransactionRow, row.transaction = transaction.stored →
    otherRow.transaction = otherTransaction.stored →
      insertMissing TransactionRow.key [row] [otherRow] = [row] → provider = otherProvider

/-- Two accepted records of the same import that name their providers and transactions keep
apart unless they have different names that merge. -/
theorem named_keepsApart_iff (runtime : Runtime) (raw other : Json) (fallbackProvider : JsString)
    (transaction otherTransaction : ValidatedTransaction)
    (provider otherProvider transactionId otherTransactionId : JsString)
    (accepts : validateTransaction runtime raw fallbackProvider = .ok transaction)
    (otherAccepts : validateTransaction runtime other fallbackProvider = .ok otherTransaction)
    (names : raw.Names provider transactionId)
    (otherNames : other.Names otherProvider otherTransactionId) :
    KeepsApart transaction otherTransaction provider otherProvider transactionId
        otherTransactionId ↔
      ¬ Merge fallbackProvider provider otherProvider transactionId otherTransactionId := by
  have sameKey : storedKey transaction.key = storedKey otherTransaction.key ↔
      ShareProvider fallbackProvider provider otherProvider ∧
        toWellFormed transactionId = toWellFormed otherTransactionId := by
    rw [storedKey, storedKey, ValidatedTransaction.key, ValidatedTransaction.key, Prod.mk.injEq,
      names.stored_provider accepts, otherNames.stored_provider otherAccepts,
      names.stored_transactionId accepts, otherNames.stored_transactionId otherAccepts,
      stored_eq_iff]
  constructor
  · rintro apart ⟨different, shareProvider, shareTransaction⟩
    obtain ⟨sameProvider, sameTransaction⟩ :=
      apart.byKey (sameKey.mpr ⟨shareProvider, shareTransaction⟩)
    exact different.elim (absurd sameProvider) (absurd sameTransaction)
  · intro kept
    have byKey : storedKey transaction.key = storedKey otherTransaction.key →
        provider = otherProvider ∧ transactionId = otherTransactionId := by
      intro same
      obtain ⟨shareProvider, shareTransaction⟩ := sameKey.mp same
      by_contra notBoth
      exact kept ⟨Decidable.not_and_iff_or_not.mp notBoth, shareProvider, shareTransaction⟩
    refine ⟨byKey, fun row otherRow isRow isOtherRow unchanged => ?_⟩
    have sameRowKey := (insertMissing_singleton_iff row otherRow).mp unchanged
    rw [TransactionRow.key, TransactionRow.key, isRow, isOtherRow] at sameRowKey
    exact (byKey sameRowKey).1

/-- A record with a provider and an id. -/
def recordNamed (provider transactionId : JsString) : Json :=
  .object
    [(ofString "provider", .string provider),
      (ofString "transactionId", .string transactionId),
      (ofString "accountId", .string (ofString "a")),
      (ofString "merchantId", .string (ofString "m")),
      (ofString "amount", .number (.finite 1)),
      (ofString "currency", .string (ofString "EUR")),
      (ofString "timestamp", .number (.finite 0))]

/-- A transaction with a provider and an id. -/
def transactionNamed (provider transactionId : JsString) : ValidatedTransaction where
  provider := provider
  transactionId := transactionId
  accountId := ofString "a"
  merchantId := ofString "m"
  amount := 1
  currency := ofString "EUR"
  timestamp := 0
  description := none

/-- The letter x, 129 times and ended by another letter. -/
def longProvider (last : UInt16) : JsString := List.replicate 129 0x78 ++ [last]

theorem named_keepsApart_iff_short :
    KeepsApart (transactionNamed (ofString "p") (ofString "t"))
        (transactionNamed (ofString "q") (ofString "t")) (ofString "p") (ofString "q")
        (ofString "t") (ofString "t") ↔
      ¬ Merge [] (ofString "p") (ofString "q") (ofString "t") (ofString "t") :=
  named_keepsApart_iff System.emptyFilePorts.runtime (recordNamed (ofString "p") (ofString "t"))
    (recordNamed (ofString "q") (ofString "t")) []
    (transactionNamed (ofString "p") (ofString "t"))
    (transactionNamed (ofString "q") (ofString "t")) (ofString "p") (ofString "q") (ofString "t")
    (ofString "t") (eq_ok_of_toOption (by decide +kernel)) (eq_ok_of_toOption (by decide +kernel))
    ⟨⟨ofString "p", rfl, by decide +kernel⟩, ⟨ofString "t", rfl, by decide +kernel⟩,
      by decide +kernel, by decide +kernel⟩
    ⟨⟨ofString "q", rfl, by decide +kernel⟩, ⟨ofString "t", rfl, by decide +kernel⟩,
      by decide +kernel, by decide +kernel⟩

/-- The names of a record and what the validator makes of it. -/
def Stores (provider transactionId : JsString) (transaction : ValidatedTransaction) : Prop :=
  validateTransaction System.emptyFilePorts.runtime (recordNamed provider transactionId) [] =
      .ok transaction ∧
    (recordNamed provider transactionId).Names provider transactionId

/-- Two providers of 130 letters that differ in the last one are stored as the fallback: the
second transaction is dropped as a duplicate of the first. And two ids that are an unpaired
surrogate each are one id in the table. -/
theorem names_merge :
    (∃ transaction, Stores (longProvider 0x61) (ofString "t") transaction ∧
        Stores (longProvider 0x62) (ofString "t") transaction ∧
        ¬ KeepsApart transaction transaction (longProvider 0x61) (longProvider 0x62)
          (ofString "t") (ofString "t")) ∧
      ∃ transaction otherTransaction, Stores (ofString "p") [0xd800] transaction ∧
        Stores (ofString "p") [0xd801] otherTransaction ∧
        ¬ KeepsApart transaction otherTransaction (ofString "p") (ofString "p") [0xd800]
          [0xd801] := by
  constructor
  · refine ⟨transactionNamed [] (ofString "t"), ?_, ?_, fun apart => ?_⟩
    · exact ⟨eq_ok_of_toOption (by decide +kernel), ⟨longProvider 0x61, rfl, by decide +kernel⟩,
        ⟨ofString "t", rfl, by decide +kernel⟩, by decide +kernel, by decide +kernel⟩
    · exact ⟨eq_ok_of_toOption (by decide +kernel), ⟨longProvider 0x62, rfl, by decide +kernel⟩,
        ⟨ofString "t", rfl, by decide +kernel⟩, by decide +kernel, by decide +kernel⟩
    · exact absurd (apart.byKey rfl).1 (by decide +kernel)
  · refine ⟨transactionNamed (ofString "p") [0xd800], transactionNamed (ofString "p") [0xd801],
      ?_, ?_, fun apart => ?_⟩
    · exact ⟨eq_ok_of_toOption (by decide +kernel), ⟨ofString "p", rfl, by decide +kernel⟩,
        ⟨[0xd800], rfl, by decide +kernel⟩, by decide +kernel, by decide +kernel⟩
    · exact ⟨eq_ok_of_toOption (by decide +kernel), ⟨ofString "p", rfl, by decide +kernel⟩,
        ⟨[0xd801], rfl, by decide +kernel⟩, by decide +kernel, by decide +kernel⟩
    · exact absurd (apart.byKey (by decide +kernel)).2 (by decide +kernel)

end ImportService
