/-
This file models the retry policy with its delays, its reports and what it is configured with,
and asks for what values it does what it promises: `fn` is called up to the first attempt that
is the last, and each failed attempt before that is reported with a delay within the
exponential ceiling.

The whole effect of an execution is known in closed form (`execute_eq`). What the promise can
break on is the ceiling alone: `2 ** (attempt - 1)` is an infinity from the 1025th attempt on,
which times a base delay of zero is no number, and which hides a base delay that is tiny.
-/

import Mathlib.Order.Bounds.Defs
import ImportService.JsArithmetic
import ImportService.RetryPolicy

namespace ImportService.RetryDelays

open JsNumber ExponentialBackoffRetryPolicy

/-! ### The policy -/

/-- `MAX_ATTEMPTS`, `BASE_DELAY_MS` and `MAX_DELAY_MS`. The delays are finite numbers of
milliseconds, fractions included: an infinite one is none. -/
structure RetryConfig where
  maxAttempts : Nat
  baseDelayMs : Rat
  maxDelayMs : Rat
  someAttempt : 1 ≤ maxAttempts
  base_nonneg : 0 ≤ baseDelayMs
  max_nonneg : 0 ≤ maxDelayMs
  base_finite : baseDelayMs < overflowBound
  max_finite : maxDelayMs < overflowBound

/-- A value of `Math.random()`. -/
abbrev Random := { value : Rat // 0 ≤ value ∧ value < 1 }

/-- What `onRetry` is told. -/
structure RetryAttemptContext where
  attempt : Nat
  maxAttempts : Nat
  delayMs : JsNumber
  error : ErrorChain
  operation : JsString

/-- What an execution does: a call of `fn`, a call of `onRetry`, or a timer. -/
inductive Effect
  | fn (attempt : Nat)
  | onRetry (context : RetryAttemptContext)
  | sleep (delayMs : JsNumber)

/-- What a run of `execute` does and how it ends. -/
structure Execution (Result : Type) where
  effects : List Effect
  outcome : Except ErrorChain Result

section

variable {Result : Type} (config : RetryConfig) (operation : JsString) (random : Nat → Random)
  (fn : Nat → Except ErrorChain Result)

/-- A random share of the delay, which doubles with every attempt up to the maximum, in whole
milliseconds. -/
def computeDelay (attempt : Nat) (random : Random) : JsNumber :=
  let ceiling := JsNumber.min (mul (finite config.baseDelayMs) (powTwo (attempt - 1)))
    (finite config.maxDelayMs)
  floor (mul (finite random.val) ceiling)

/-- What `onRetry` is told. `random` is the value drawn in each attempt. -/
def retryContext (attempt : Nat) (err : ErrorChain) : RetryAttemptContext where
  attempt := attempt
  maxAttempts := config.maxAttempts
  delayMs := computeDelay config attempt (random attempt)
  error := err
  operation := operation

/-- The loop from an attempt on. The outcome of an attempt is given by its number. -/
def executeFrom (attempt : Nat) (lastError : ErrorChain) : Execution Result :=
  if attempt ≤ config.maxAttempts then
    match fn attempt with
    | .ok result => { effects := [.fn attempt], outcome := .ok result }
    | .error err =>
        if !isRetryable err then { effects := [.fn attempt], outcome := .error err }
        else if attempt = config.maxAttempts then
          { effects := [.fn attempt], outcome := .error err }
        else
          let context := retryContext config operation random attempt err
          let later := executeFrom (attempt + 1) err
          { later with
            effects := .fn attempt :: .onRetry context :: .sleep context.delayMs :: later.effects }
  else { effects := [], outcome := .error lastError }
termination_by config.maxAttempts + 1 - attempt

/-- `execute` begins with the first attempt. -/
def execute : Execution Result := executeFrom config operation random fn 1 fun _ => none

/-! ### The effect of an execution -/

/-- No attempt is made after this one. -/
def IsLastAttempt (attempt : Nat) : Prop :=
  (∃ result, fn attempt = .ok result) ∨
    (∃ err, fn attempt = .error err ∧ isRetryable err = false) ∨ attempt = config.maxAttempts

/-- The error of an attempt that has one. -/
def thrown : Except ErrorChain Result → ErrorChain
  | .ok _ => fun _ => none
  | .error err => err

/-- An attempt that another one follows. -/
def retried (attempt : Nat) : List Effect :=
  let context := retryContext config operation random attempt (thrown (fn attempt))
  [.fn attempt, .onRetry context, .sleep context.delayMs]

end

section

variable {Result : Type} {config : RetryConfig} {operation : JsString} {random : Nat → Random}
  {fn : Nat → Except ErrorChain Result} {attempt last : Nat} {lastError : ErrorChain}

theorem executeFrom_of_isLast (within : attempt ≤ config.maxAttempts)
    (isLast : IsLastAttempt config fn attempt) :
    executeFrom config operation random fn attempt lastError =
      { effects := [.fn attempt], outcome := fn attempt } := by
  rw [executeFrom, if_pos within]
  cases outcome : fn attempt with
  | ok result => rfl
  | error err =>
    cases retryable : isRetryable err with
    | false =>
      simp only [retryable]
      rfl
    | true =>
      have exhausted : attempt = config.maxAttempts := by
        rcases isLast with ⟨result, succeeds⟩ | ⟨other, fails, permanent⟩ | exhausted
        · cases outcome.symm.trans succeeds
        · cases outcome.symm.trans fails
          cases retryable.symm.trans permanent
        · exact exhausted
      simp only [if_pos exhausted, ite_self]

theorem exists_error (goesOn : ¬IsLastAttempt config fn attempt) :
    ∃ err, fn attempt = .error err ∧ isRetryable err = true ∧ attempt ≠ config.maxAttempts := by
  have notExhausted : attempt ≠ config.maxAttempts :=
    fun exhausted => goesOn (Or.inr (Or.inr exhausted))
  cases outcome : fn attempt with
  | ok result => exact absurd (Or.inl ⟨result, outcome⟩) goesOn
  | error err =>
    have retryable : isRetryable err = true :=
      Bool.eq_true_of_not_eq_false fun permanent =>
        goesOn (Or.inr (Or.inl ⟨err, outcome, permanent⟩))
    exact ⟨err, rfl, retryable, notExhausted⟩

theorem executeFrom_of_retried (within : attempt ≤ config.maxAttempts)
    (goesOn : ¬IsLastAttempt config fn attempt) :
    ∃ err, fn attempt = .error err ∧
      executeFrom config operation random fn attempt lastError =
        let later := executeFrom config operation random fn (attempt + 1) err
        { later with
          effects := retried config operation random fn attempt ++ later.effects } := by
  obtain ⟨err, outcome, retryable, notExhausted⟩ := exists_error goesOn
  refine ⟨err, outcome, ?_⟩
  rw [executeFrom, if_pos within, retried, outcome]
  simp only [retryable, Bool.not_true, Bool.false_eq_true, if_false, if_neg notExhausted]
  rfl

theorem executeFrom_eq (count : Nat) (ends : attempt + count = last)
    (within : last ≤ config.maxAttempts) (isLast : IsLastAttempt config fn last)
    (isFirst : ∀ earlier, attempt ≤ earlier → earlier < last →
      ¬IsLastAttempt config fn earlier) :
    executeFrom config operation random fn attempt lastError =
      { effects :=
          (List.range' attempt count).flatMap (retried config operation random fn) ++ [.fn last]
        outcome := fn last } := by
  induction count generalizing attempt lastError with
  | zero =>
    obtain rfl : attempt = last := ends
    exact executeFrom_of_isLast within isLast
  | succ count inductionHypothesis =>
    have before : attempt < last := by omega
    obtain ⟨err, _, goesOn⟩ := executeFrom_of_retried (Nat.le_trans (Nat.le_of_lt before) within)
      (isFirst attempt (Nat.le_refl attempt) before)
    rw [goesOn, inductionHypothesis (by omega) fun earlier after =>
      isFirst earlier (Nat.le_of_succ_le after)]
    simp only [List.range'_succ, List.flatMap_cons, List.append_assoc]

/-- The first attempt that is the last. -/
def IsFinal (config : RetryConfig) (fn : Nat → Except ErrorChain Result) (last : Nat) : Prop :=
  IsLeast { attempt | 1 ≤ attempt ∧ IsLastAttempt config fn attempt } last

theorem exists_isFinal (config : RetryConfig) (fn : Nat → Except ErrorChain Result) :
    ∃ last, IsFinal config fn last := by
  classical
  have some : ∃ attempt, 1 ≤ attempt ∧ IsLastAttempt config fn attempt :=
    ⟨config.maxAttempts, config.someAttempt, Or.inr (Or.inr rfl)⟩
  exact ⟨Nat.find some, Nat.find_spec some, fun _ isLast => Nat.find_min' some isLast⟩

/-- `fn` is called up to its final attempt, and each attempt before is followed by its report and
its delay. -/
theorem execute_eq (isFinal : IsFinal config fn last) :
    execute config operation random fn =
      { effects :=
          (List.range' 1 (last - 1)).flatMap (retried config operation random fn) ++ [.fn last]
        outcome := fn last } := by
  obtain ⟨⟨positive, isLast⟩, isFirst⟩ := isFinal
  refine executeFrom_eq (last - 1) (Nat.add_sub_of_le positive) ?_ isLast ?_
  · exact isFirst ⟨config.someAttempt, Or.inr (Or.inr rfl)⟩
  · intro earlier someAttempt before last
    exact absurd (isFirst ⟨someAttempt, last⟩) (Nat.not_le.mpr before)

/-- The loop of the policy without its delays. -/
theorem undelayed_executeFrom_eq (count : Nat) {left : Nat} (ends : attempt + count = last)
    (allowed : attempt + left = config.maxAttempts + 1) (within : last ≤ config.maxAttempts)
    (isLast : IsLastAttempt config fn last)
    (isFirst : ∀ earlier, attempt ≤ earlier → earlier < last →
      ¬IsLastAttempt config fn earlier) :
    ExponentialBackoffRetryPolicy.executeFrom fn attempt left =
      { attempts := last, outcome := fn last } := by
  induction count generalizing attempt left with
  | zero =>
    obtain rfl : attempt = last := ends
    obtain ⟨rest, rfl⟩ : ∃ rest, left = rest + 1 := ⟨left - 1, by omega⟩
    rw [ExponentialBackoffRetryPolicy.executeFrom]
    rcases isLast with ⟨result, succeeds⟩ | ⟨err, fails, permanent⟩ | exhausted
    · rw [succeeds]
    · rw [fails]
      simp only [permanent]
      rfl
    · have noneLeft : rest = 0 := by omega
      cases outcome : fn attempt with
      | ok result => rfl
      | error err => simp only [if_pos noneLeft, ite_self]
  | succ count inductionHypothesis =>
    obtain ⟨err, fails, retryable, notExhausted⟩ :=
      exists_error (isFirst attempt (Nat.le_refl attempt) (by omega))
    obtain ⟨rest, rfl⟩ : ∃ rest, left = rest + 1 := ⟨left - 1, by omega⟩
    have someLeft : rest ≠ 0 := by omega
    rw [ExponentialBackoffRetryPolicy.executeFrom, fails]
    simp only [retryable, Bool.not_true, Bool.false_eq_true, if_false, if_neg someLeft]
    exact inductionHypothesis (by omega) (by omega) fun earlier after =>
      isFirst earlier (Nat.le_of_succ_le after)

theorem undelayed_execute_eq (isFinal : IsFinal config fn last) :
    ExponentialBackoffRetryPolicy.execute config.maxAttempts fn =
      { attempts := last, outcome := fn last } := by
  obtain ⟨⟨positive, isLast⟩, isFirst⟩ := isFinal
  refine undelayed_executeFrom_eq (last - 1) (Nat.add_sub_of_le positive) (Nat.add_comm _ _) ?_
    isLast ?_
  · exact isFirst ⟨config.someAttempt, Or.inr (Or.inr rfl)⟩
  · intro earlier someAttempt before last
    exact absurd (isFirst ⟨someAttempt, last⟩) (Nat.not_le.mpr before)

/-! ### What is asked -/

/-- The attempts in which `fn` has been called. -/
def Execution.calls (execution : Execution Result) : List Nat :=
  execution.effects.filterMap fun
    | .fn attempt => some attempt
    | .onRetry _ | .sleep _ => none

/-- What `onRetry` has been told. -/
def Execution.reports (execution : Execution Result) : List RetryAttemptContext :=
  execution.effects.filterMap fun
    | .onRetry context => some context
    | .fn _ | .sleep _ => none

/-- A report is about a failed attempt, and its delay is within the exponential ceiling. -/
structure Reports (config : RetryConfig) (operation : JsString)
    (fn : Nat → Except ErrorChain Result) (attempt : Nat) (context : RetryAttemptContext) :
    Prop where
  numbered : context.attempt = attempt
  maxAttempts : context.maxAttempts = config.maxAttempts
  operation : context.operation = operation
  error : fn attempt = .error context.error
  delay : ∃ delay : Int, context.delayMs = finite delay ∧ 0 ≤ delay ∧
    (delay : Rat) ≤ Min.min (config.baseDelayMs * 2 ^ (attempt - 1)) config.maxDelayMs

/-- What the policy promises when the call at `last` is its last one. -/
structure KeepsContract (config : RetryConfig) (operation : JsString) (random : Nat → Random)
    (fn : Nat → Except ErrorChain Result) (last : Nat) : Prop where
  calls : (execute config operation random fn).calls = List.range' 1 last
  outcome : (execute config operation random fn).outcome = fn last
  reports : (execute config operation random fn).reports.length = last - 1
  reported : ∀ index context, (execute config operation random fn).reports[index]? = some context →
    Reports config operation fn (index + 1) context

/-- The powers the ceilings are computed from do not overflow, or only where the maximum is
the ceiling in any case. -/
def RetryConfig.PowersFit (config : RetryConfig) : Prop :=
  config.maxAttempts ≤ 1025 ∨
    0 < config.baseDelayMs ∧ config.maxDelayMs ≤ ⌊config.baseDelayMs * 2 ^ 1024⌋ + 1

/-! ### Delays -/

theorem computeDelay_of_ceiling {ceiling : Rat} (draw : Random)
    (isCeiling : JsNumber.min (mul (finite config.baseDelayMs) (powTwo (attempt - 1)))
      (finite config.maxDelayMs) = finite ceiling)
    (nonneg : 0 ≤ ceiling) (fits : ceiling < overflowBound) :
    ∃ delay : Int, computeDelay config attempt draw = finite delay ∧ 0 ≤ delay ∧
      delay ≤ ⌊draw.val * ceiling⌋ ∧
      (underflowBound < draw.val * ceiling → delay = ⌊draw.val * ceiling⌋) := by
  obtain ⟨value, drawn, below⟩ := draw
  have product : value * ceiling ≤ ceiling := mul_le_of_le_one_left nonneg below.le
  obtain ⟨result, isFinite, resultNonneg, resultLe, same⟩ :=
    ofRat_of_lt (mul_nonneg drawn nonneg) (product.trans_lt fits)
  refine ⟨⌊result⌋, ?_, Int.floor_nonneg.mpr resultNonneg, Int.floor_mono resultLe, fun above => ?_⟩
  · simp only [computeDelay, isCeiling, mul_finite, isFinite, floor]
  · rw [same above]

/-- A ceiling whose power does not overflow. -/
theorem exists_ceiling (small : attempt - 1 < 1024) :
    ∃ ceiling : Rat,
      JsNumber.min (mul (finite config.baseDelayMs) (powTwo (attempt - 1)))
        (finite config.maxDelayMs) = finite ceiling ∧ 0 ≤ ceiling ∧
      ceiling ≤ Min.min (config.baseDelayMs * 2 ^ (attempt - 1)) config.maxDelayMs := by
  have product : 0 ≤ config.baseDelayMs * 2 ^ (attempt - 1) :=
    mul_nonneg config.base_nonneg (by positivity)
  rw [powTwo_of_lt small, mul_finite]
  by_cases overflows : overflowBound ≤ config.baseDelayMs * 2 ^ (attempt - 1)
  · refine ⟨config.maxDelayMs, ?_, config.max_nonneg, le_min ?_ (le_refl _)⟩
    · rw [ofRat_of_le product overflows, min_infinite]
    · exact config.max_finite.le.trans overflows
  · obtain ⟨result, isFinite, nonneg, below, _⟩ := ofRat_of_lt product (not_le.mp overflows)
    rw [isFinite, min_finite]
    refine ⟨_, rfl, ?_, ?_⟩
    · split
      · exact config.max_nonneg
      · exact nonneg
    · split
      · rename_i smaller
        exact le_min (smaller.le.trans below) (le_refl _)
      · rename_i notSmaller
        exact le_min below (not_lt.mp notSmaller)

/-- The ceiling behind a power that overflows. -/
theorem ceiling_of_overflow (large : 1024 ≤ attempt - 1) (positive : 0 < config.baseDelayMs) :
    JsNumber.min (mul (finite config.baseDelayMs) (powTwo (attempt - 1)))
      (finite config.maxDelayMs) = finite config.maxDelayMs := by
  rw [powTwo_of_le large, mul, if_neg positive.ne', decide_eq_false (not_lt.mpr positive.le),
    Bool.xor_false, min_infinite]

theorem computeDelay_of_overflow (large : 1024 ≤ attempt - 1) (zero : config.baseDelayMs = 0)
    (draw : Random) : computeDelay config attempt draw = nan := by
  simp only [computeDelay, powTwo_of_le large, zero, mul, if_true, JsNumber.min, floor]

theorem delay_within (fit : config.PowersFit) (within : attempt < config.maxAttempts)
    (draw : Random) :
    ∃ delay : Int, computeDelay config attempt draw = finite delay ∧ 0 ≤ delay ∧
      (delay : Rat) ≤ Min.min (config.baseDelayMs * 2 ^ (attempt - 1)) config.maxDelayMs := by
  rcases Nat.lt_or_ge (attempt - 1) 1024 with small | large
  · obtain ⟨ceiling, isCeiling, nonneg, below⟩ := exists_ceiling small
    have fits : ceiling < overflowBound :=
      (below.trans (min_le_right _ _)).trans_lt config.max_finite
    obtain ⟨delay, isFinite, delayNonneg, delayLe, _⟩ :=
      computeDelay_of_ceiling draw isCeiling nonneg fits
    refine ⟨delay, isFinite, delayNonneg, le_trans ?_ below⟩
    calc (delay : Rat) ≤ ⌊draw.val * ceiling⌋ := Int.cast_le.mpr delayLe
      _ ≤ draw.val * ceiling := Int.floor_le _
      _ ≤ ceiling := mul_le_of_le_one_left nonneg draw.property.2.le
  · obtain ⟨positive, maxFits⟩ := fit.resolve_left (by omega)
    obtain ⟨delay, isFinite, delayNonneg, delayLe, _⟩ := computeDelay_of_ceiling draw
      (ceiling_of_overflow large positive) config.max_nonneg config.max_finite
    have drawn : (delay : Rat) ≤ draw.val * config.maxDelayMs :=
      (Int.cast_le.mpr delayLe).trans (Int.floor_le _)
    have atMost : (delay : Rat) ≤ config.maxDelayMs :=
      drawn.trans (mul_le_of_le_one_left config.max_nonneg draw.property.2.le)
    refine ⟨delay, isFinite, delayNonneg, le_min ?_ atMost⟩
    have wholePart : delay ≤ ⌊config.baseDelayMs * 2 ^ 1024⌋ := by
      rcases config.max_nonneg.eq_or_lt with zero | some
      · have none : delay ≤ 0 := by
          rw [← zero] at atMost
          exact_mod_cast atMost
        exact none.trans (Int.floor_nonneg.mpr (by positivity))
      · have below : (delay : Rat) < ⌊config.baseDelayMs * 2 ^ 1024⌋ + 1 :=
          (drawn.trans_lt (mul_lt_of_lt_one_left some draw.property.2)).trans_le maxFits
        exact Int.lt_add_one_iff.mp (by exact_mod_cast below)
    calc (delay : Rat) ≤ ⌊config.baseDelayMs * 2 ^ 1024⌋ := Int.cast_le.mpr wholePart
      _ ≤ config.baseDelayMs * 2 ^ 1024 := Int.floor_le _
      _ ≤ config.baseDelayMs * 2 ^ (attempt - 1) := by
        exact mul_le_mul_of_nonneg_left (pow_le_pow_right₀ one_le_two large) config.base_nonneg

/-! ### When the contract is kept -/

theorem calls_execute (isFinal : IsFinal config fn last) :
    (execute config operation random fn).calls = List.range' 1 last := by
  rw [execute_eq isFinal, Execution.calls, List.filterMap_append, List.filterMap_flatMap]
  simp only [retried, List.filterMap_cons, List.filterMap_nil, List.flatMap_singleton']
  rw [← Nat.sub_add_cancel isFinal.1.1, List.range'_1_concat, Nat.add_sub_cancel,
    Nat.add_sub_cancel' isFinal.1.1, Nat.sub_add_cancel isFinal.1.1]

/-- With its delays the policy tries as often as without, and ends the same way. -/
theorem execute_undelayed (config : RetryConfig) (operation : JsString) (random : Nat → Random)
    (fn : Nat → Except ErrorChain Result) :
    ExponentialBackoffRetryPolicy.execute config.maxAttempts fn =
      { attempts := (execute config operation random fn).calls.length
        outcome := (execute config operation random fn).outcome } := by
  obtain ⟨last, isFinal⟩ := exists_isFinal config fn
  rw [undelayed_execute_eq isFinal, calls_execute isFinal, List.length_range', execute_eq isFinal]

theorem reports_execute (isFinal : IsFinal config fn last) :
    (execute config operation random fn).reports = (List.range' 1 (last - 1)).map fun attempt =>
      retryContext config operation random attempt (thrown (fn attempt)) := by
  rw [execute_eq isFinal, Execution.reports, List.filterMap_append, List.filterMap_flatMap,
    List.map_eq_flatMap]
  simp only [retried, List.filterMap_cons, List.filterMap_nil, List.append_nil]

theorem reports_getElem? (isFinal : IsFinal config fn last) {index : Nat}
    (within : index < last - 1) :
    (execute config operation random fn).reports[index]? =
      some (retryContext config operation random (index + 1) (thrown (fn (index + 1)))) := by
  rw [reports_execute isFinal, List.getElem?_map, List.getElem?_range' within, Nat.one_mul,
    Nat.add_comm, Option.map_some]

theorem keepsContract (fit : config.PowersFit) (isFinal : IsFinal config fn last) :
    KeepsContract config operation random fn last := by
  have length : (execute config operation random fn).reports.length = last - 1 := by
    rw [reports_execute isFinal, List.length_map, List.length_range']
  refine ⟨calls_execute isFinal, by rw [execute_eq isFinal], length, ?_⟩
  intro index context isAt
  have within : index < last - 1 := by
    rw [← length]
    exact (List.getElem?_eq_some_iff.mp isAt).choose
  rw [reports_getElem? isFinal within, Option.some.injEq] at isAt
  subst isAt
  have goesOn : ¬IsLastAttempt config fn (index + 1) := fun isLast =>
    absurd (isFinal.2 ⟨Nat.succ_pos index, isLast⟩) (by omega)
  have atMost : last ≤ config.maxAttempts :=
    isFinal.2 ⟨config.someAttempt, Or.inr (Or.inr rfl)⟩
  obtain ⟨err, fails, _⟩ := exists_error goesOn
  exact
    { numbered := rfl
      maxAttempts := rfl
      operation := rfl
      error := by rw [fails]; rfl
      delay := delay_within fit (by omega) (random (index + 1)) }

end

/-! ### Where a power overflows -/

/-- A lost connection, in every attempt. -/
def connectionReset : ErrorChain
  | 0 => some
      { domainError := none, code := some (JsString.ofString "ECONNRESET"), originalCode := none,
        operation := none }
  | _ + 1 => none

theorem isRetryable_connectionReset : isRetryable connectionReset = true := by decide

section

variable {Result : Type} {config : RetryConfig} {operation : JsString} {random : Nat → Random}

theorem isFinal_of_always_fails :
    IsFinal config (fun _ => (.error connectionReset : Except ErrorChain Result))
      config.maxAttempts := by
  refine ⟨⟨config.someAttempt, Or.inr (Or.inr rfl)⟩, ?_⟩
  rintro attempt ⟨_, ⟨result, succeeds⟩ | ⟨err, fails, permanent⟩ | exhausted⟩
  · cases succeeds
  · cases fails
    cases isRetryable_connectionReset.symm.trans permanent
  · exact exhausted.ge

/-- Where the connection is lost in all attempts, every delay but the last is reported. -/
theorem delay_of_keepsContract (index : Nat) (retries : index + 1 < config.maxAttempts) {last : Nat}
    (isFinal : IsFinal config (fun _ => (.error connectionReset : Except ErrorChain Result)) last)
    (keeps : KeepsContract config operation random
      (fun _ => (.error connectionReset : Except ErrorChain Result)) last) :
    ∃ delay : Int, computeDelay config (index + 1) (random (index + 1)) = finite delay ∧
      (delay : Rat) ≤ config.baseDelayMs * 2 ^ index := by
  obtain rfl := isFinal.unique isFinal_of_always_fails
  obtain ⟨delay, isDelay, _, within⟩ :=
    (keeps.reported index _ (reports_getElem? isFinal (by omega))).delay
  rw [Nat.add_sub_cancel] at within
  exact ⟨delay, isDelay, within.trans (min_le_left _ _)⟩

end

/-- The draw that makes a whole number of a ceiling the delay. -/
theorem exists_draw {ceiling : Rat} {delay : Int} (nonneg : 0 ≤ delay) (below : delay < ceiling) :
    ∃ draw : Random, draw.val * ceiling = delay := by
  have positive : 0 < ceiling := lt_of_le_of_lt (Int.cast_nonneg nonneg) below
  exact ⟨⟨delay / ceiling, div_nonneg (Int.cast_nonneg nonneg) positive.le,
    (div_lt_one positive).mpr below⟩, div_mul_cancel₀ _ positive.ne'⟩

/-- The policy keeps its contract, whatever it retries, exactly when the powers its ceilings are
computed from fit. -/
theorem retry_contract_iff (Result : Type) (config : RetryConfig) :
    (∀ (operation : JsString) (random : Nat → Random) (fn : Nat → Except ErrorChain Result),
      ∃ last, IsFinal config fn last ∧ KeepsContract config operation random fn last) ↔
      config.PowersFit := by
  constructor
  · intro keeps
    refine or_iff_not_imp_left.mpr fun overflows => ?_
    have delayed (draw : Random) : ∃ delay : Int, computeDelay config (1024 + 1) draw =
        finite delay ∧ (delay : Rat) ≤ config.baseDelayMs * 2 ^ 1024 := by
      obtain ⟨last, isFinal, contract⟩ := keeps [] (fun _ => draw) fun _ => .error connectionReset
      have found := delay_of_keepsContract 1024 (by omega) isFinal contract
      exact found
    have large : 1024 ≤ 1024 + 1 - 1 := Nat.le_refl 1024
    have positive : 0 < config.baseDelayMs := by
      refine config.base_nonneg.lt_of_ne' fun zero => ?_
      obtain ⟨delay, isDelay, _⟩ := delayed ⟨0, le_refl 0, zero_lt_one⟩
      cases (computeDelay_of_overflow large zero _).symm.trans isDelay
    refine ⟨positive, not_lt.mp fun tooLarge => ?_⟩
    have wholeNonneg : 0 ≤ ⌊config.baseDelayMs * 2 ^ 1024⌋ := Int.floor_nonneg.mpr (by positivity)
    obtain ⟨draw, isDraw⟩ := exists_draw (Int.add_nonneg wholeNonneg Int.one_nonneg)
      (by exact_mod_cast tooLarge)
    obtain ⟨delay, isDelay, _, _, same⟩ := computeDelay_of_ceiling draw
      (ceiling_of_overflow large positive) config.max_nonneg config.max_finite
    obtain ⟨other, isOther, within⟩ := delayed draw
    have isWhole : delay = ⌊config.baseDelayMs * 2 ^ 1024⌋ + 1 := by
      rw [isDraw, Int.floor_intCast] at same
      refine same (underflowBound_lt_one.trans_le ?_)
      exact_mod_cast Int.le_add_of_nonneg_left wholeNonneg
    have isSame : (delay : Rat) = other := finite.inj (isDelay.symm.trans isOther)
    rw [← isSame, isWhole, Int.cast_add, Int.cast_one] at within
    exact absurd (Int.lt_floor_add_one _) (not_lt.mpr within)
  · intro fit operation random fn
    obtain ⟨last, isFinal⟩ := exists_isFinal config fn
    exact ⟨last, isFinal, keepsContract fit isFinal⟩

/-- The configuration with a base delay of zero and 1026 attempts. -/
def zeroDelay : RetryConfig where
  maxAttempts := 1026
  baseDelayMs := 0
  maxDelayMs := 5000
  someAttempt := by decide
  base_nonneg := le_refl 0
  max_nonneg := by norm_num
  base_finite := zero_lt_one.trans one_lt_overflowBound
  max_finite := by
    have small : (5000 : Rat) ≤ 2 ^ 13 := by norm_num
    exact (small.trans (pow_le_pow_right₀ one_le_two (by decide))).trans_lt powTwo_lt_overflowBound

/-- The 1025th delay of a policy with a base delay of zero is no number. -/
theorem zeroDelay_breaksContract :
    ¬∀ (operation : JsString) (random : Nat → Random) (fn : Nat → Except ErrorChain Unit),
      ∃ last, IsFinal zeroDelay fn last ∧ KeepsContract zeroDelay operation random fn last := by
  intro keeps
  let draw : Random := ⟨0, le_refl 0, zero_lt_one⟩
  obtain ⟨last, isFinal, contract⟩ := keeps [] (fun _ => draw) fun _ => .error connectionReset
  have found := delay_of_keepsContract 1024 (by decide) isFinal contract
  obtain ⟨delay, isDelay, _⟩ := found
  cases (computeDelay_of_overflow (Nat.le_refl 1024) rfl draw).symm.trans isDelay

end ImportService.RetryDelays
