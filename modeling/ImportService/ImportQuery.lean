/-
This file models the read side of the API: the summary of an import, from five queries
that run side by side, and the pages of its rejected records.

The queries of a summary are statements of their own, each on the snapshot it finds, so
the summary is a function of five databases. Amounts are exact. A `_sum` over no rows is
SQL's `NULL`, which `toNumber` turns into zero.

A page orders and compares the generated ids of the records, so they are of any linearly
ordered type here, with a test for the empty string, which no cursor survives as.
-/

import Mathlib.Data.List.MinMax
import ImportService.Database
import ImportService.Lib.GroupBy

namespace ImportService

open KeyedTable GroupBy

namespace ImportQuery

/-! ### The summary -/

/-- The number of merchants a summary lists. -/
def TOP_MERCHANTS_LIMIT : Nat := 10

/-- The counters of the import. -/
structure TotalSummary where
  accepted : Nat
  rejected : Nat
  duplicated : Nat

/-- The transactions of one currency. -/
structure CurrencyBreakdown where
  currency : JsString
  count : Nat
  totalAmount : Rat

/-- The transactions of one risk level. -/
structure RiskBreakdown where
  riskLevel : RiskLevel
  count : Nat

/-- The transactions of one merchant. -/
structure MerchantBreakdown where
  merchantId : JsString
  count : Nat
  totalAmount : Rat

/-- The summary of an import. -/
structure ImportSummary where
  importId : ImportId
  totalTransactions : Nat
  totalAmount : Rat
  totals : TotalSummary
  byCurrency : List CurrencyBreakdown
  byRiskLevel : List RiskBreakdown
  topMerchants : List MerchantBreakdown
  earliestTransaction : Option Int
  latestTransaction : Option Int

/-- The queries of `getSummary`. -/
inductive Query
  | importData
  | overall
  | byCurrency
  | byRiskLevel
  | topMerchants
  deriving DecidableEq

/-- The sum of the amounts. -/
def sumAmount (rows : List TransactionRow) : Rat := (rows.map fun row => row.transaction.amount).sum

/-- The transactions by currency, in the order of the codes. -/
def currencyBreakdown (rows : List TransactionRow) : List CurrencyBreakdown :=
  ((groupBy (fun row : TransactionRow => row.transaction.currency) rows).mergeSort
      fun first second => decide (first.1 ≤ second.1)).map
    fun group =>
      { currency := group.1, count := group.2.length, totalAmount := sumAmount group.2 }

/-- The transactions by risk level. -/
def riskBreakdown (rows : List TransactionRow) : List RiskBreakdown :=
  (groupBy (fun row : TransactionRow => row.riskLevel) rows).map fun group =>
    { riskLevel := group.1, count := group.2.length }

/-- The merchants with the most transactions. -/
def merchantBreakdown (rows : List TransactionRow) : List MerchantBreakdown :=
  (((groupBy (fun row : TransactionRow => row.transaction.merchantId) rows).mergeSort
      fun first second => decide (second.2.length ≤ first.2.length)).take TOP_MERCHANTS_LIMIT).map
    fun group =>
      { merchantId := group.1, count := group.2.length, totalAmount := sumAmount group.2 }

/-- `getSummary`, from the snapshot each of its queries ran on. -/
def getSummary (importId : ImportId) (snapshot : Query → Database) : ImportSummary :=
  let importData := (snapshot .importData).findImport importId
  let overall := (snapshot .overall).transactionsOf importId
  { importId
    totalTransactions := overall.length
    totalAmount := sumAmount overall
    earliestTransaction := (overall.map fun row => row.transaction.timestamp).min?
    latestTransaction := (overall.map fun row => row.transaction.timestamp).max?
    totals :=
      { accepted := (importData.map ImportRow.acceptedCount).getD 0
        rejected := (importData.map ImportRow.rejectedCount).getD 0
        duplicated := (importData.map ImportRow.duplicateCount).getD 0 }
    byCurrency := currencyBreakdown ((snapshot .byCurrency).transactionsOf importId)
    byRiskLevel := riskBreakdown ((snapshot .byRiskLevel).transactionsOf importId)
    topMerchants := merchantBreakdown ((snapshot .topMerchants).transactionsOf importId) }

/-! ### Pages of rejected records -/

section

variable {Id : Type} [LinearOrder Id]

/-- A row of `rejected_records` with its generated id. -/
structure RejectedRecord (Id : Type) extends RejectedRecordRow where
  id : Id
  createdAt : Nat

/-- What a page shows of a record. -/
structure RejectedRecordItem (Id : Type) extends RejectedRecordInput where
  id : Id
  createdAt : Nat

/-- The columns the client gets. -/
def RejectedRecord.toItem (record : RejectedRecord Id) : RejectedRecordItem Id where
  toRejectedRecordInput := record.toRejectedRecordInput
  id := record.id
  createdAt := record.createdAt

/-- A page, and the cursor of the next one if there is one. -/
structure RejectedRecordPage (Id : Type) where
  items : List (RejectedRecordItem Id)
  nextCursor : Option Id

/-- `cursor ? { id: { gt: cursor } } : {}`: the empty string is no cursor. -/
def isAfter (isEmpty : Id → Bool) (cursor : Option Id) (record : RejectedRecord Id) : Bool :=
  match cursor with
  | none => true
  | some cursor => isEmpty cursor || decide (cursor < record.id)

/-- The query takes one record more than the limit, to see whether there are more. -/
def getRejectedRecords (isEmpty : Id → Bool) (table : List (RejectedRecord Id))
    (importId : ImportId) (cursor : Option Id) (limit : Nat) : RejectedRecordPage Id :=
  let selected := table.filter fun record =>
    record.importId == importId && isAfter isEmpty cursor record
  let rows :=
    (selected.mergeSort fun first second => decide (first.id ≤ second.id)).take (limit + 1)
  let hasMore := decide (limit < rows.length)
  let items := if hasMore then rows.take limit else rows
  { items := items.map RejectedRecord.toItem
    nextCursor := if hasMore then items.getLast?.map RejectedRecord.id else none }

end

end ImportQuery

/-! ### GetRejectedRecordsUseCase -/

namespace GetRejectedRecordsUseCase

open ImportQuery

/-- The largest page. -/
def MAX_PAGE_SIZE : Nat := 200

/-- The size of a page where none or no valid one is asked for. -/
def DEFAULT_PAGE_SIZE : Nat := 50

/-- `none` is `undefined`. -/
def clampLimit : Option JsNumber → Nat
  | some (.finite requested) =>
      if requested < 1 then DEFAULT_PAGE_SIZE else min ⌊requested⌋.toNat MAX_PAGE_SIZE
  | some (.infinite _) | some .nan | none => DEFAULT_PAGE_SIZE

/-- The error is `ImportNotFoundError`, with the id it names. -/
def execute {Id : Type} [LinearOrder Id] (isEmpty : Id → Bool) (imports : List ImportRow)
    (table : List (RejectedRecord Id)) (importId : ImportId) (cursor : Option Id)
    (requestedLimit : Option JsNumber) : Except ImportId (RejectedRecordPage Id) :=
  match lookup ImportRow.id imports importId with
  | none => .error importId
  | some _ => .ok (getRejectedRecords isEmpty table importId cursor (clampLimit requestedLimit))

end GetRejectedRecordsUseCase

end ImportService
