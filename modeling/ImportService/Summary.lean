/-
This file proves when a summary is consistent. Its queries run on their own, so it
compares numbers from four snapshots of the tables: the counter of the import and the
rows as they are counted in all, by currency and by risk level. Between two of them a
batch of the import may commit.

The rows of an import only ever grow, so the four agree exactly when they found the same
rows, and they did when no batch stored a row of the import between the first and the
last of them. A batch that only repeats lines may commit at any time.
-/

import ImportService.Counters
import ImportService.ImportQuery

namespace ImportService

open GroupBy ProcessImportFile TransactionRepository ImportQuery

namespace ImportQuery

/-! ### Consistent summaries -/

/-- The numbers of a summary fit together. -/
structure ImportSummary.Consistent (summary : ImportSummary) : Prop where
  accepted : summary.totals.accepted = summary.totalTransactions
  byCurrency :
    (summary.byCurrency.map CurrencyBreakdown.count).sum = summary.totalTransactions
  byRiskLevel :
    (summary.byRiskLevel.map RiskBreakdown.count).sum = summary.totalTransactions
  amounts :
    (summary.byCurrency.map CurrencyBreakdown.totalAmount).sum = summary.totalAmount

theorem sum_currencyBreakdown_count (rows : List TransactionRow) :
    ((currencyBreakdown rows).map CurrencyBreakdown.count).sum = rows.length := by
  rw [currencyBreakdown, List.map_map]
  calc _ = ((groupBy (fun row : TransactionRow => row.transaction.currency) rows).map
        fun group => group.2.length).sum :=
        ((List.mergeSort_perm _ _).map _).sum_eq
    _ = rows.length := sum_length_groupBy _ rows

theorem sum_currencyBreakdown_totalAmount (rows : List TransactionRow) :
    ((currencyBreakdown rows).map CurrencyBreakdown.totalAmount).sum = sumAmount rows := by
  rw [currencyBreakdown, List.map_map]
  calc _ = ((groupBy (fun row : TransactionRow => row.transaction.currency) rows).map
        fun group => sumAmount group.2).sum :=
        ((List.mergeSort_perm _ _).map _).sum_eq
    _ = sumAmount rows := sum_groupBy _ _ rows

theorem sum_riskBreakdown_count (rows : List TransactionRow) :
    ((riskBreakdown rows).map RiskBreakdown.count).sum = rows.length := by
  rw [riskBreakdown, List.map_map]
  exact sum_length_groupBy (fun row : TransactionRow => row.riskLevel) rows

/-- The queries whose answers are compared. -/
def Query.isCompared : Query → Bool
  | .importData | .overall | .byCurrency | .byRiskLevel => true
  | .topMerchants => false

/-- A summary of snapshots that found the same rows is consistent, if the counter of the import
was right. -/
theorem consistent_of_sameRows {importId : ImportId} {snapshot : Query → Database}
    {rows : List TransactionRow}
    (accepted : (((snapshot .importData).findImport importId).map ImportRow.acceptedCount).getD 0 =
      ((snapshot .importData).transactionsOf importId).length)
    (same : ∀ query, query.isCompared = true → (snapshot query).transactionsOf importId = rows) :
    (getSummary importId snapshot).Consistent where
  accepted := by
    show _ = ((snapshot .overall).transactionsOf importId).length
    rw [same .overall rfl, ← same .importData rfl]
    exact accepted
  byCurrency := by
    show _ = ((snapshot .overall).transactionsOf importId).length
    rw [same .overall rfl, ← same .byCurrency rfl]
    exact sum_currencyBreakdown_count _
  byRiskLevel := by
    show _ = ((snapshot .overall).transactionsOf importId).length
    rw [same .overall rfl, ← same .byRiskLevel rfl]
    exact sum_riskBreakdown_count _
  amounts := by
    show _ = sumAmount ((snapshot .overall).transactionsOf importId)
    rw [same .overall rfl, ← same .byCurrency rfl]
    exact sum_currencyBreakdown_totalAmount _

/-- The snapshots of a consistent summary hold equally many rows. -/
theorem lengths_of_consistent {importId : ImportId} {snapshot : Query → Database}
    (accepted : (((snapshot .importData).findImport importId).map ImportRow.acceptedCount).getD 0 =
      ((snapshot .importData).transactionsOf importId).length)
    (consistent : (getSummary importId snapshot).Consistent) {query : Query}
    (compared : query.isCompared = true) :
    ((snapshot query).transactionsOf importId).length =
      ((snapshot .overall).transactionsOf importId).length := by
  cases query with
  | importData => exact accepted.symm.trans consistent.accepted
  | overall => rfl
  | byCurrency => exact (sum_currencyBreakdown_count _).symm.trans consistent.byCurrency
  | byRiskLevel => exact (sum_riskBreakdown_count _).symm.trans consistent.byRiskLevel
  | topMerchants => cases compared

end ImportQuery

/-! ### A summary among the other parties -/

namespace SummaryRun

/-- The service with one call of `getSummary`: the snapshots of its queries so far. -/
structure State where
  system : System.State
  snapshot : Query → Option Database

/-- A step of the system, or a query of the summary. -/
inductive Action
  | step (action : System.Action)
  | query (query : Query)

/-- No query has run. -/
def start (system : System.State) : State where
  system := system
  snapshot := fun _ => none

/-- A query runs once, on the tables as they are then. -/
def step (ports : Ports) (config : Config) (state : State) : Action → Option State
  | .step action =>
      (System.step ports config state.system action).map fun system => { state with system }
  | .query query =>
      match state.snapshot query with
      | none =>
          some { state with
            snapshot := Function.update state.snapshot query (some state.system.db) }
      | some _ => none

/-- Some of the compared queries have run and some have not. -/
def Halfway (state : State) : Prop :=
  (∃ query : Query, query.isCompared = true ∧ (state.snapshot query).isSome = true) ∧
    ∃ query : Query, query.isCompared = true ∧ state.snapshot query = none

/-- No batch stores a row of the import between the first and the last compared query. -/
def StoresNothingBetween (ports : Ports) (config : Config) (importId : ImportId)
    (state : State) (action : Action) (_ : State) : Prop :=
  match action with
  | .query _ => True
  | .step action =>
      Halfway state → ∀ input,
        System.emitted ports config state.system action = some (.persistBatch input) →
          input.importId = importId → inserted input state.system.db = []

/-- What is known of a snapshot: its counter is right, and the tables still have its rows. -/
structure Snapshot (importId : ImportId) (current found : Database) : Prop where
  accepted : ((found.findImport importId).map ImportRow.acceptedCount).getD 0 =
    (found.transactionsOf importId).length
  rows : found.transactionsOf importId <+: current.transactionsOf importId

/-- What holds in every state. -/
structure Invariant (ports : Ports) (importId : ImportId) (state : State) : Prop where
  coherent : System.Coherent ports state.system
  agree : state.system.db.CountersAgree
  snapshots : ∀ query found, state.snapshot query = some found →
    Snapshot importId state.system.db found

/-- The compared queries that have run found the same rows, and while others have not run yet,
these are the rows of the import. -/
def FoundSame (importId : ImportId) (state : State) : Prop :=
  ∃ rows,
    (∀ query found, query.isCompared = true → state.snapshot query = some found →
      found.transactionsOf importId = rows) ∧
    ((∃ query : Query, query.isCompared = true ∧ state.snapshot query = none) →
      rows = state.system.db.transactionsOf importId)

section

variable {ports : Ports} {config : Config} {importId : ImportId} {state next : State}

/-- The counter of an import is the number of its rows, also when there is no such import. -/
theorem acceptedCount_eq (coherent : System.Coherent ports state.system)
    (agree : state.system.db.CountersAgree) (importId : ImportId) :
    ((state.system.db.findImport importId).map ImportRow.acceptedCount).getD 0 =
      (state.system.db.transactionsOf importId).length := by
  cases found : state.system.db.findImport importId with
  | some row =>
    have counts := (agree importId row found).accepted
    rw [KeyedTable.lookup_key ImportRow.id found] at counts
    exact counts
  | none =>
    have noRows : state.system.db.transactionsOf importId = [] := by
      refine List.filter_eq_nil_iff.mpr fun row member own => ?_
      have known := coherent.wellFormed.transactions row member
      rw [beq_iff_eq.mp own, found] at known
      cases known
    rw [noRows]
    rfl

/-- A step only adds rows to an import. -/
theorem transactionsOf_step {action : System.Action} {system : System.State}
    (enabled : System.step ports config state.system action = some system) :
    state.system.db.transactionsOf importId <+: system.db.transactionsOf importId := by
  rw [System.step_db enabled]
  cases System.emitted ports config state.system action with
  | none => exact List.prefix_rfl
  | some statement =>
    rw [System.committed, Statement.transactionsOf_commit]
    exact List.prefix_append _ _

/-- A step that stores no row of the import leaves its rows as they are. -/
theorem transactionsOf_eq {action : System.Action} {system : System.State}
    (enabled : System.step ports config state.system action = some system) :
    system.db.transactionsOf importId = state.system.db.transactionsOf importId ↔
      ∀ input, System.emitted ports config state.system action = some (.persistBatch input) →
        input.importId = importId → inserted input state.system.db = [] := by
  rw [System.step_db enabled]
  cases emits : System.emitted ports config state.system action with
  | none => exact ⟨fun _ _ stores => (nomatch stores), fun _ => rfl⟩
  | some statement =>
    rw [System.committed]
    by_cases ownBatch : ∃ input, statement = .persistBatch input ∧ input.importId = importId
    · obtain ⟨input, rfl, rfl⟩ := ownBatch
      rw [(Statement.rows_of_ownBatch state.system.now state.system.db input).1,
        List.append_right_eq_self]
      constructor
      · intro nothing other stores _
        cases stores
        exact nothing
      · exact fun nothing => nothing input rfl rfl
    · have otherBatch : ∀ input, statement = .persistBatch input → input.importId ≠ importId :=
        fun input stores own => ownBatch ⟨input, stores, own⟩
      rw [(Statement.rows_of_otherBatch state.system.now state.system.db importId otherBatch).1]
      constructor
      · exact fun _ input stores own => absurd own (otherBatch input (Option.some.inj stores))
      · exact fun _ => rfl

/-- After a query, its snapshot is of the tables as they are, and the others are as before. -/
theorem answered_cases {query other : Query} {found : Database}
    (answered : Function.update state.snapshot query (some state.system.db) other = some found) :
    found = state.system.db ∨ state.snapshot other = some found :=
  (Transition.update_cases answered).imp And.right And.right

/-- A step of the service leaves the snapshots, a query takes one. -/
theorem step_cases {action : Action} (enabled : step ports config state action = some next) :
    (∃ systemAction system, action = .step systemAction ∧
        System.step ports config state.system systemAction = some system ∧
        next = { state with system }) ∨
      ∃ query, action = .query query ∧ state.snapshot query = none ∧
        next = { state with
          snapshot := Function.update state.snapshot query (some state.system.db) } := by
  cases action with
  | step systemAction =>
    obtain ⟨system, moves, rfl⟩ := Option.map_eq_some_iff.mp enabled
    exact Or.inl ⟨systemAction, system, rfl, moves, rfl⟩
  | query query =>
    rw [step] at enabled
    split at enabled
    · rename_i unanswered
      exact Or.inr ⟨query, rfl, unanswered, (Option.some.inj enabled).symm⟩
    · cases enabled

theorem invariant_step {action : Action} (invariant : Invariant ports importId state)
    (enabled : step ports config state action = some next) : Invariant ports importId next := by
  rcases step_cases enabled with ⟨systemAction, system, rfl, moves, rfl⟩ | ⟨query, rfl, _, rfl⟩
  · exact
      { coherent := System.coherent_step invariant.coherent moves
        agree := System.countersAgree_step invariant.coherent invariant.agree moves
        snapshots := fun query found answered =>
          { accepted := (invariant.snapshots query found answered).accepted
            rows := (invariant.snapshots query found answered).rows.trans
              (transactionsOf_step moves) } }
  · refine ⟨invariant.coherent, invariant.agree, fun other found answered => ?_⟩
    rcases answered_cases answered with rfl | before
    · exact ⟨acceptedCount_eq invariant.coherent invariant.agree importId, List.prefix_rfl⟩
    · exact invariant.snapshots other found before

/-- The queries before the first step have nothing to compare. -/
theorem foundSame_start (system : System.State) : FoundSame importId (start system) :=
  ⟨system.db.transactionsOf importId, fun _ _ _ answered => (nomatch answered), fun _ => rfl⟩

/-- While no batch stores a row of the import, the queries go on finding the same rows. -/
theorem foundSame_step {action : Action} (same : FoundSame importId state)
    (enabled : step ports config state action = some next)
    (nothing : StoresNothingBetween ports config importId state action next) :
    FoundSame importId next := by
  obtain ⟨rows, found, current⟩ := same
  rcases step_cases enabled with
    ⟨systemAction, system, rfl, moves, rfl⟩ | ⟨query, rfl, unanswered, rfl⟩
  · by_cases halfway : Halfway state
    · refine ⟨rows, found, fun unanswered => ?_⟩
      rw [current unanswered]
      exact ((transactionsOf_eq moves).mpr (nothing halfway)).symm
    · by_cases unanswered : ∃ query : Query,
          query.isCompared = true ∧ state.snapshot query = none
      · refine ⟨system.db.transactionsOf importId, fun query db compared answered => ?_,
          fun _ => rfl⟩
        refine absurd ⟨⟨query, compared, ?_⟩, unanswered⟩ halfway
        rw [show state.snapshot query = some db from answered]
        rfl
      · exact ⟨rows, found, fun missing => absurd missing unanswered⟩
  · by_cases compared : query.isCompared = true
    · have sameRows := current ⟨query, compared, unanswered⟩
      refine ⟨rows, fun other db otherCompared answered => ?_, fun _ => sameRows⟩
      rcases answered_cases answered with rfl | before
      · exact sameRows.symm
      · exact found other db otherCompared before
    · have others : ∀ other : Query, other.isCompared = true →
          Function.update state.snapshot query (some state.system.db) other =
            state.snapshot other := by
        intro other otherCompared
        refine Function.update_of_ne ?_ _ _
        rintro rfl
        exact compared otherCompared
      refine ⟨rows, fun other db otherCompared answered => ?_, ?_⟩
      · exact found other db otherCompared ((others other otherCompared).symm.trans answered)
      · rintro ⟨other, otherCompared, missing⟩
        exact current ⟨other, otherCompared, (others other otherCompared).symm.trans missing⟩

/-- A batch that stores a row of the import while others of the queries have yet to run is
found by these and not by the queries before. -/
theorem storesNothing_of_foundSame {action : Action} (before : FoundSame importId state)
    (after : FoundSame importId next) (enabled : step ports config state action = some next) :
    StoresNothingBetween ports config importId state action next := by
  obtain ⟨rows, found, current⟩ := before
  obtain ⟨rowsAfter, foundAfter, currentAfter⟩ := after
  rcases step_cases enabled with ⟨systemAction, system, rfl, moves, rfl⟩ | ⟨query, rfl, _, rfl⟩
  · rintro ⟨⟨query, compared, answered⟩, unanswered⟩
    obtain ⟨db, isSnapshot⟩ := Option.isSome_iff_exists.mp answered
    refine (transactionsOf_eq moves).mp ?_
    calc system.db.transactionsOf importId = rowsAfter := (currentAfter unanswered).symm
      _ = db.transactionsOf importId := (foundAfter query db compared isSnapshot).symm
      _ = rows := found query db compared isSnapshot
      _ = state.system.db.transactionsOf importId := current unanswered
  · trivial

/-- Queries that found different rows keep them: later rows only add to the difference. -/
theorem foundSame_of_step {action : Action} (invariant : Invariant ports importId state)
    (after : FoundSame importId next) (enabled : step ports config state action = some next) :
    FoundSame importId state := by
  obtain ⟨rows, found, current⟩ := after
  rcases step_cases enabled with
    ⟨systemAction, system, rfl, moves, rfl⟩ | ⟨query, rfl, unanswered, rfl⟩
  · by_cases unanswered : ∃ query : Query, query.isCompared = true ∧ state.snapshot query = none
    · refine ⟨state.system.db.transactionsOf importId, fun query db compared answered => ?_,
        fun _ => rfl⟩
      have earlier := (invariant.snapshots query db answered).rows
      have later : state.system.db.transactionsOf importId <+: system.db.transactionsOf importId :=
        transactionsOf_step moves
      rw [← current unanswered, ← found query db compared answered] at later
      exact earlier.eq_of_length_le later.length_le
    · exact ⟨rows, found, fun missing => absurd missing unanswered⟩
  · have kept : ∀ other db, state.snapshot other = some db →
        Function.update state.snapshot query (some state.system.db) other = some db := by
      intro other db answered
      refine Transition.update_of_made answered ?_
      rintro rfl
      cases unanswered.symm.trans answered
    by_cases compared : query.isCompared = true
    · refine ⟨rows, fun other db otherCompared answered => ?_, fun _ => ?_⟩
      · exact found other db otherCompared (kept other db answered)
      · exact (found query state.system.db compared (Function.update_self _ _ _)).symm
    · refine ⟨rows, fun other db otherCompared answered => ?_, ?_⟩
      · exact found other db otherCompared (kept other db answered)
      · rintro ⟨other, otherCompared, missing⟩
        refine current ⟨other, otherCompared, ?_⟩
        rw [← missing]
        refine Function.update_of_ne ?_ _ _
        rintro rfl
        exact compared otherCompared

/-! ### The summary that is returned -/

/-- A summary is consistent exactly when its queries found the same rows. -/
theorem consistent_iff_foundSame (invariant : Invariant ports importId state)
    {answered : Query → Database}
    (answers : ∀ query, state.snapshot query = some (answered query)) :
    (getSummary importId answered).Consistent ↔ FoundSame importId state := by
  have accepted := (invariant.snapshots .importData _ (answers .importData)).accepted
  constructor
  · intro consistent
    refine ⟨(answered .overall).transactionsOf importId, fun query found compared isFound => ?_, ?_⟩
    · rw [answers query] at isFound
      cases isFound
      have sameLength := lengths_of_consistent accepted consistent compared
      have rows := (invariant.snapshots query _ (answers query)).rows
      have overall := (invariant.snapshots .overall _ (answers .overall)).rows
      exact (List.prefix_of_prefix_length_le rows overall sameLength.le).eq_of_length sameLength
    · rintro ⟨query, _, missing⟩
      rw [answers query] at missing
      cases missing
  · rintro ⟨rows, found, _⟩
    exact consistent_of_sameRows accepted fun query compared =>
      found query (answered query) compared (answers query)

/-- Of every call of `getSummary`, at any place among the steps of the service from empty
tables, the summary is consistent exactly when no batch stores a row of its import between
the first and the last of the four queries it compares. -/
theorem summary_consistent_iff (ports : Ports) (config : Config) (now : Nat) (importId : ImportId)
    (schedule : List Action) (state : State)
    (reaches : Transition.run (step ports config) (start (System.initial now Database.empty))
      schedule = some state)
    (answered : Query → Database)
    (answers : ∀ query, state.snapshot query = some (answered query)) :
    (getSummary importId answered).Consistent ↔
      Transition.Every (step ports config) (StoresNothingBetween ports config importId)
        (start (System.initial now Database.empty)) schedule := by
  have initially : Invariant ports importId (start (System.initial now Database.empty)) :=
    { coherent := System.coherent_initial ports now Database.wellFormed_empty
      agree := fun _ _ found => nomatch found
      snapshots := fun _ _ found => nomatch found }
  have kept : ∀ current action next, Invariant ports importId current →
      step ports config current action = some next → Invariant ports importId next :=
    fun _ _ _ invariant enabled => invariant_step invariant enabled
  have invariant : Invariant ports importId state :=
    (Transition.always_of_invariant (Invariant ports importId) kept (fun _ holds => holds)
      initially schedule).last reaches
  rw [consistent_iff_foundSame invariant answers]
  refine Transition.last_iff_every (Invariant ports importId) kept ?_ ?_ initially
    (foundSame_start _) reaches
  · exact fun current action next _ same enabled =>
      ⟨fun after => storesNothing_of_foundSame same after enabled,
        fun nothing => foundSame_step same enabled nothing⟩
  · exact fun current action next holds enabled after => foundSame_of_step holds after enabled

end

/-! ### A summary across a batch -/

/-- Worker 1 claims import 1 and runs until the batch of its only line is next. -/
def untilBatch : List Action :=
  ([System.upload 1] ++ System.startUp 1 ++ [System.Action.work 1 (.claimNext 1 .acknowledged)] ++
    System.replies 1 7).map Action.step

/-- The rows are counted before the batch, and everything else is read after it. -/
def acrossBatch : List Action :=
  untilBatch ++ [.query .overall, .step (.work 1 (.reply .ok)), .query .importData,
    .query .byCurrency, .query .byRiskLevel, .query .topMerchants]

/-- The accepted count and the number of rows that a summary of import 1 would show. -/
def shown (state : State) : Option Nat × Option Nat :=
  ((state.snapshot .importData).map fun db =>
      ((db.findImport 1).map ImportRow.acceptedCount).getD 0,
    (state.snapshot .overall).map fun db => (db.transactionsOf 1).length)

/-- All queries have run. -/
def allAnswered (state : State) : Bool :=
  [Query.importData, .overall, .byCurrency, .byRiskLevel, .topMerchants].all fun query =>
    (state.snapshot query).isSome

theorem snapshot_of_allAnswered {state : State} (all : allAnswered state = true) (query : Query) :
    state.snapshot query = some ((state.snapshot query).getD Database.empty) := by
  have answered := List.all_eq_true.mp all query (by cases query <;> decide)
  obtain ⟨db, found⟩ := Option.isSome_iff_exists.mp answered
  rw [found]
  rfl

/-- Everything is read after the batch. -/
def afterBatch : List Action :=
  untilBatch ++ [.step (.work 1 (.reply .ok)), .query .overall, .query .importData,
    .query .byCurrency, .query .byRiskLevel, .query .topMerchants]

/-- A summary after the batch. -/
theorem summary_consistent_iff_afterBatch :
    ∃ state answered,
      Transition.run (step System.oneRecordPorts System.defaultConfig)
          (start (System.initial 0 Database.empty)) afterBatch = some state ∧
        ((getSummary 1 answered).Consistent ↔
          Transition.Every (step System.oneRecordPorts System.defaultConfig)
            (StoresNothingBetween System.oneRecordPorts System.defaultConfig 1)
            (start (System.initial 0 Database.empty)) afterBatch) := by
  have trace : (Transition.run (step System.oneRecordPorts System.defaultConfig)
      (start (System.initial 0 Database.empty)) afterBatch).map allAnswered = some true := by
    decide +kernel
  obtain ⟨state, reaches, all⟩ := Option.map_eq_some_iff.mp trace
  exact ⟨state, fun query => (state.snapshot query).getD Database.empty, reaches,
    summary_consistent_iff System.oneRecordPorts System.defaultConfig 0 1 afterBatch state reaches _
      (snapshot_of_allAnswered all)⟩

/-- A summary across a batch shows an accepted transaction and no transaction at all. -/
theorem summary_inconsistent :
    ∃ state, Transition.run (step System.oneRecordPorts System.defaultConfig)
        (start (System.initial 0 Database.empty)) acrossBatch = some state ∧
      ∃ answered : Query → Database,
        (∀ query, state.snapshot query = some (answered query)) ∧
          ¬ (getSummary 1 answered).Consistent := by
  have trace : (Transition.run (step System.oneRecordPorts System.defaultConfig)
      (start (System.initial 0 Database.empty)) acrossBatch).map
        (fun state => (allAnswered state, shown state)) =
      some (true, some 1, some 0) := by
    decide +kernel
  obtain ⟨state, reaches, seen⟩ := Option.map_eq_some_iff.mp trace
  obtain ⟨all, numbers⟩ := Prod.mk.inj seen
  obtain ⟨counted, rows⟩ := Prod.mk.inj numbers
  have answers := snapshot_of_allAnswered all
  rw [answers .importData, Option.map_some, Option.some.injEq] at counted
  rw [answers .overall, Option.map_some, Option.some.injEq] at rows
  refine ⟨state, reaches, fun query => (state.snapshot query).getD Database.empty, answers,
    fun consistent => ?_⟩
  have same : 1 = 0 := counted.symm.trans (consistent.accepted.trans rows)
  cases same

end SummaryRun

end ImportService
