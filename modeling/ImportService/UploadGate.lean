/-
This file proves what the gate of the uploads counts, and what a reply that is no acceptance says.

The counter of a process is the number of its requests whose handler has not come to its end,
whatever they end with, so no failure takes a place away for good; a request is turned away
exactly when the limit is reached by requests that are open (`gate_counts_open_requests`). What
a client is told of a failure is one of a few texts or the reason that its body is invalid, under
the id of its request, and the log has a line with the same id (`replies_are_safe`).
-/

import ImportService.UploadRetries

namespace ImportService.ImportApi

open CreateImport JsString

/-! ### Counting -/

/-- An open request of a process. -/
def isOpenIn (process : ProcessId) (exchange : Exchange) : Bool :=
  exchange.process == process && exchange.stage.isOpen

/-- The requests of a process that have a place. -/
def openRequests (state : State) (process : ProcessId) : Nat :=
  state.exchanges.countP (isOpenIn process)

/-- The counter of each process is the number of its open requests. -/
def Counts (state : State) : Prop :=
  ∀ process, state.inFlight process = openRequests state process

section

variable {config : Config} {ports : Ports} {limit : JsNumber} {state next : State}
  {action : Action}

/-- Fewer requests do not reach a limit that more do not reach. -/
theorem isReached_of_le {count other : Int} (fewer : other ≤ count)
    (below : isReached limit count = false) : isReached limit other = false := by
  cases limit with
  | finite value =>
    have less : (count : Rat) < value := by simpa [isReached, JsNumber.less] using below
    have otherLess : (other : Rat) < value := lt_of_le_of_lt (Int.cast_le.mpr fewer) less
    simpa [isReached, JsNumber.less] using otherLess
  | infinite negative => exact below
  | nan => rfl

theorem isOpen_of_proceed {now : Nat} {request : UploadRequest} {store after : Store}
    {stage reached : Stage} {event : Event}
    (enabled : proceed config ports now request store stage event = some (after, reached))
    (closed : stage.isOpen = false) : reached.isOpen = false := by
  unfold proceed at enabled
  split at enabled
  · cases closed
  · cases closed
  · cases closed
  · cases closed
  · obtain ⟨_, _, same⟩ := Option.map_eq_some_iff.mp enabled
    cases same
    rfl
  · cases enabled

/-- A request goes on, or it comes to its end and is counted out. -/
theorem countP_set_stage {index : Nat} {exchange : Exchange} {reached : Stage}
    (made : state.exchanges[index]? = some exchange)
    (closes : exchange.stage.isOpen = false → reached.isOpen = false) (process : ProcessId) :
    ((state.exchanges.set index { exchange with stage := reached }).countP
        (isOpenIn process) : Int) =
      if exchange.process = process then
        finalize exchange.stage reached (state.exchanges.countP (isOpenIn process))
      else state.exchanges.countP (isOpenIn process) := by
  obtain ⟨within, isExchange⟩ := List.getElem?_eq_some_iff.mp made
  have member : exchange ∈ state.exchanges := List.mem_of_getElem? made
  rw [List.countP_set within, isExchange]
  by_cases same : exchange.process = process
  · rw [if_pos same]
    cases opened : exchange.stage.isOpen with
    | false => simp [isOpenIn, finalize, opened, closes opened]
    | true =>
      have positive : 0 < state.exchanges.countP (isOpenIn process) :=
        List.countP_pos_iff.mpr ⟨exchange, member, by simp [isOpenIn, same, opened]⟩
      cases reachedOpen : reached.isOpen with
      | false =>
        simp only [isOpenIn, same, opened, reachedOpen, finalize, beq_self_eq_true, Bool.and_self,
          Bool.and_false, Bool.not_false, if_true, Bool.false_eq_true, if_false]
        omega
      | true =>
        simp only [isOpenIn, same, opened, reachedOpen, finalize, beq_self_eq_true, Bool.and_self,
          Bool.not_true, Bool.and_false, if_true, Bool.false_eq_true, if_false]
        omega
  · simp [isOpenIn, same]

theorem countP_restart (process other : ProcessId) :
    ((state.exchanges.map (Exchange.afterRestart process)).countP (isOpenIn other)) =
      if other = process then 0 else state.exchanges.countP (isOpenIn other) := by
  have closed (stage : Stage) : stage.sever.isOpen = false := by
    cases stage with
    | admitted | readingPart | severed | ended => rfl
    | executing command phase => cases phase <;> rfl
  rw [List.countP_map]
  split
  · rename_i same
    subst same
    refine List.countP_eq_zero.mpr fun exchange _ => ?_
    by_cases mine : exchange.process = other
    · simp [Exchange.afterRestart, isOpenIn, mine, closed]
    · simp [Exchange.afterRestart, isOpenIn, mine]
  · rename_i different
    refine List.countP_congr fun exchange _ => ?_
    by_cases mine : exchange.process = process
    · have others : process ≠ other := fun same => different same.symm
      simp [Exchange.afterRestart, isOpenIn, mine, others]
    · simp [Exchange.afterRestart, mine]

theorem counts_step (counts : Counts state) (enabled : step config ports state action = some next) :
    Counts next := by
  intro other
  cases action with
  | advance milliseconds =>
    cases enabled
    exact counts other
  | elsewhere statement =>
    rw [step] at enabled
    split at enabled
    · cases enabled
    · cases enabled
      exact counts other
  | receive process request =>
    rw [step] at enabled
    split at enabled
    · cases enabled
      rw [openRequests, List.countP_append, List.countP_singleton, isOpenIn, Stage.isOpen,
        Bool.and_false, if_neg Bool.false_ne_true, Nat.add_zero]
      exact counts other
    · cases enabled
      rw [openRequests, List.countP_append, List.countP_singleton, isOpenIn, Stage.isOpen,
        Bool.and_true, Nat.cast_add]
      dsimp only
      by_cases same : other = process
      · rw [same, Function.update_self, beq_self_eq_true, if_pos rfl, counts process]
        rfl
      · have different : (process == other) = false := beq_false_of_ne fun equal => same equal.symm
        rw [Function.update_of_ne same, different, if_neg Bool.false_ne_true, counts other]
        exact (add_zero _).symm
  | proceed index event =>
    cases made : state.exchanges[index]? with
    | none =>
      simp only [step, made] at enabled
      cases enabled
    | some exchange =>
      simp only [step, made] at enabled
      obtain ⟨⟨store, after⟩, goesOn, rfl⟩ := Option.map_eq_some_iff.mp enabled
      rw [openRequests, countP_set_stage made (isOpen_of_proceed goesOn) other]
      dsimp only
      by_cases same : other = exchange.process
      · rw [same, if_pos rfl, Function.update_self, counts exchange.process]
        rfl
      · rw [if_neg fun equal => same equal.symm, Function.update_of_ne same]
        exact counts other
  | restart process =>
    cases enabled
    show _ = (((state.exchanges.map (Exchange.afterRestart process)).countP
      (isOpenIn other) : Nat) : Int)
    rw [countP_restart]
    dsimp only
    by_cases same : other = process
    · rw [same, Function.update_self, if_pos rfl]
      rfl
    · rw [Function.update_of_ne same, if_neg same]
      exact counts other

/-- What the last request that was admitted has found was below the limit. -/
def BelowLimit (limit : JsNumber) (inFlight : Int) : Prop :=
  inFlight = 0 ∨ isReached limit (inFlight - 1) = false

theorem BelowLimit.of_le {count other : Int} (below : BelowLimit limit count)
    (fewer : other ≤ count) (nonneg : 0 ≤ other) : BelowLimit limit other := by
  rcases below with none | below
  · exact Or.inl (by omega)
  · exact Or.inr (isReached_of_le (by omega) below)

/-- A counter only grows where a request is admitted. -/
theorem inFlight_cases (counts : Counts state)
    (enabled : step config ports state action = some next) (process : ProcessId) :
    next.inFlight process ≤ state.inFlight process ∨
      next.inFlight process = state.inFlight process + 1 ∧
        isReached config.maxConcurrentUploads (state.inFlight process) = false := by
  cases action with
  | advance milliseconds =>
    cases enabled
    exact Or.inl (le_refl _)
  | elsewhere statement =>
    rw [step] at enabled
    split at enabled
    · cases enabled
    · cases enabled
      exact Or.inl (le_refl _)
  | receive receiver request =>
    rw [step] at enabled
    split at enabled
    · cases enabled
      exact Or.inl (le_refl _)
    · rename_i below
      cases enabled
      dsimp only
      by_cases same : process = receiver
      · rw [same, Function.update_self]
        exact Or.inr ⟨rfl, Bool.eq_false_of_not_eq_true below⟩
      · rw [Function.update_of_ne same]
        exact Or.inl (le_refl _)
  | proceed index event =>
    cases made : state.exchanges[index]? with
    | none =>
      simp only [step, made] at enabled
      cases enabled
    | some exchange =>
      simp only [step, made] at enabled
      obtain ⟨result, goesOn, rfl⟩ := Option.map_eq_some_iff.mp enabled
      dsimp only
      by_cases same : process = exchange.process
      · rw [same, Function.update_self, finalize]
        split
        · exact Or.inl (by omega)
        · exact Or.inl (le_refl _)
      · rw [Function.update_of_ne same]
        exact Or.inl (le_refl _)
  | restart ending =>
    cases enabled
    dsimp only
    by_cases same : process = ending
    · rw [same, Function.update_self, counts ending]
      exact Or.inl (Int.natCast_nonneg _)
    · rw [Function.update_of_ne same]
      exact Or.inl (le_refl _)

/-- What holds of the counters in every state of a run. -/
structure Counted (limit : JsNumber) (state : State) : Prop where
  counts : Counts state
  below : ∀ process, BelowLimit limit (state.inFlight process)

theorem counted_step (counted : Counted config.maxConcurrentUploads state)
    (enabled : step config ports state action = some next) :
    Counted config.maxConcurrentUploads next where
  counts := counts_step counted.counts enabled
  below := by
    intro process
    have nonneg : 0 ≤ next.inFlight process := by
      rw [counts_step counted.counts enabled process]
      exact Int.natCast_nonneg _
    rcases inFlight_cases counted.counts enabled process with fewer | ⟨more, below⟩
    · exact (counted.below process).of_le fewer nonneg
    · refine Or.inr ?_
      rw [more, Int.add_sub_cancel]
      exact below

theorem counted_run {now : Nat} {start : Store} {schedule : List Action}
    (reaches : Transition.run (step config ports) (initial now start) schedule = some state) :
    Counted config.maxConcurrentUploads state :=
  Transition.Reachable.invariant ⟨schedule, reaches⟩ (Counted config.maxConcurrentUploads)
    ⟨fun _ => rfl, fun _ => Or.inl rfl⟩ fun _ _ _ counted enabled => counted_step counted enabled

/-! ### Who is let in -/

/-- The reply to a request that finds no place. -/
def tooManyUploads (request : UploadRequest) : ErrorReply where
  status := 503
  error :=
    { code := ofString "TOO_MANY_CONCURRENT_UPLOADS"
      message := ofString "Too many uploads in progress. Please retry shortly."
      requestId := request.requestId }

/-- A request is let in exactly when the open requests of its process do not reach the limit, and
one that is turned away changes nothing. -/
def AdmitsBelowLimit (limit : JsNumber) (state : State) (action : Action) (next : State) : Prop :=
  ∀ process request, action = .receive process request →
    ∃ exchange, next.exchanges = state.exchanges ++ [exchange] ∧ next.store = state.store ∧
      exchange.request = request ∧ exchange.process = process ∧
      if isReached limit (openRequests state process) then
        exchange.reply = some (.error (tooManyUploads request)) ∧ next.inFlight = state.inFlight
      else exchange.stage = .admitted

theorem admitsBelowLimit_step (counts : Counts state)
    (enabled : step config ports state action = some next) :
    AdmitsBelowLimit config.maxConcurrentUploads state action next := by
  rintro process request rfl
  rw [step] at enabled
  cases reached : isReached config.maxConcurrentUploads (state.inFlight process) with
  | true =>
    rw [reached, if_pos rfl] at enabled
    cases enabled
    refine ⟨_, rfl, rfl, rfl, rfl, ?_⟩
    rw [← counts process, reached]
    exact ⟨rfl, rfl⟩
  | false =>
    rw [reached, if_neg Bool.false_ne_true] at enabled
    cases enabled
    refine ⟨_, rfl, rfl, rfl, rfl, ?_⟩
    rw [← counts process, reached]
    rfl

theorem openRequests_lt (counted : Counted limit state) {value : Rat}
    (finite : limit = .finite value) (process : ProcessId) :
    openRequests state process = 0 ∨ (openRequests state process : Rat) < value + 1 := by
  have below := counted.below process
  rw [counted.counts process, finite] at below
  rcases below with none | below
  · exact Or.inl (Int.natCast_eq_zero.mp none)
  · have less : (((openRequests state process : Int) - 1 : Int) : Rat) < value := by
      simpa [isReached, JsNumber.less] using below
    push_cast at less
    exact Or.inr (by linarith)

/-- Whatever requests end with, and whichever processes end: the counter of a process is the number
of its open requests, which stays within the limit, and only requests that would exceed it are
turned away. Under a negative limit no request is let in, and none is open. -/
theorem gate_counts_open_requests (config : Config) (ports : Ports) (now : Nat) (start : Store)
    {schedule : List Action} {final : State}
    (reaches : Transition.run (step config ports) (initial now start) schedule = some final) :
    Counts final ∧
      (∀ value, config.maxConcurrentUploads = .finite value → ∀ process,
        openRequests final process = 0 ∨ (openRequests final process : Rat) < value + 1) ∧
      Transition.Every (step config ports) (AdmitsBelowLimit config.maxConcurrentUploads)
        (initial now start) schedule := by
  have counted : Counted config.maxConcurrentUploads final := counted_run reaches
  refine ⟨counted.counts, fun value finite process => openRequests_lt counted finite process, ?_⟩
  exact Transition.Every.imp Counts (fun _ _ _ counts enabled _ => counts_step counts enabled)
    (fun _ _ _ counts enabled _ => admitsBelowLimit_step counts enabled) (fun _ => rfl)
    (Transition.every_true (step config ports) (initial now start) schedule)

end

/-- The second request finds the only place taken. The first one fails at the part it has read,
and its place is free again. -/
def fullGate : List Action :=
  [.receive 0 (sharedRequest [0x61]), .proceed 0 .called, .receive 0 (sharedRequest [0x62]),
    .proceed 0 (.partRead (.error lostConnection)), .receive 0 (sharedRequest [0x63])]

theorem gate_counts_open_requests_full :
    ∃ final, Transition.run (step smallApi silentPorts) (initial 0 emptyStore) fullGate =
        some final ∧
      final.exchanges.map (fun exchange => exchange.reply.map ApiReply.status) =
        [some 400, some 503, none] ∧
      Counts final ∧
      (∀ value, smallApi.maxConcurrentUploads = .finite value → ∀ process,
        openRequests final process = 0 ∨ (openRequests final process : Rat) < value + 1) ∧
      Transition.Every (step smallApi silentPorts) (AdmitsBelowLimit smallApi.maxConcurrentUploads)
        (initial 0 emptyStore) fullGate := by
  have trace : (Transition.run (step smallApi silentPorts) (initial 0 emptyStore) fullGate).map
      (fun final => final.exchanges.map (fun exchange => exchange.reply.map ApiReply.status)) =
        some [some 400, some 503, none] := by
    decide +kernel
  obtain ⟨final, reaches, seen⟩ := Option.map_eq_some_iff.mp trace
  exact ⟨final, reaches, seen, gate_counts_open_requests smallApi silentPorts 0 emptyStore reaches⟩

/-! ### What failures say -/

/-- In every state of every run, a client that is told of a failure gets its own id and one of the
listed texts, or the reason for which its body was refused, and the log has the line of it; only
what the service or its database has failed at is logged as an error. -/
theorem replies_are_safe (config : Config) (ports : Ports) (now : Nat) {start : Store}
    (consistent : start.Consistent) {schedule : List Action} {final : State}
    (reaches : Transition.run (step config ports) (initial now start) schedule = some final) :
    ∀ exchange ∈ final.exchanges, ∀ reply, exchange.reply = some (.error reply) →
      ∃ line, exchange.logged = some line ∧
        AppExceptionFilter.IsSafe exchange.request.requestId reply line := by
  intro exchange member reply replied
  obtain ⟨index, made⟩ := List.mem_iff_getElem?.mp member
  have fits := (invariant_run consistent reaches).fits index exchange made
  unfold Exchange.reply at replied
  split at replied
  · cases replied
  · rename_i command exception isStage
    cases replied
    rw [isStage] at fits
    refine ⟨_, ?_, AppExceptionFilter.isSafe_of_isExpected fits.2 exchange.request.requestId⟩
    rw [Exchange.logged, isStage]
  · cases replied
  · cases replied
  · cases replied
  · cases replied
  · cases replied

theorem replies_are_safe_lostAnswer :
    ∃ final exchange reply, Transition.run (step smallApi silentPorts) (initial 0 emptyStore)
        lostAnswer = some final ∧ exchange ∈ final.exchanges ∧
      exchange.reply = some (.error reply) ∧
      reply.error.code = ofString "DATABASE_UNAVAILABLE" ∧
      ∃ line, exchange.logged = some line ∧
        AppExceptionFilter.IsSafe exchange.request.requestId reply line := by
  have trace : (Transition.run (step smallApi silentPorts) (initial 0 emptyStore) lostAnswer).map
      (fun final => (final.exchanges.head?.bind Exchange.reply)) = some (some (.error
        { status := 503
          error :=
            { code := ofString "DATABASE_UNAVAILABLE"
              message := ofString "A database operation failed."
              requestId := [0x61] } })) := by
    decide +kernel
  obtain ⟨final, reaches, seen⟩ := Option.map_eq_some_iff.mp trace
  obtain ⟨exchange, first, replied⟩ := Option.bind_eq_some_iff.mp seen
  have member : exchange ∈ final.exchanges := List.mem_of_mem_head? first
  exact ⟨final, exchange, _, reaches, member, replied, rfl,
    replies_are_safe smallApi silentPorts 0 consistent_emptyStore reaches exchange member _ replied⟩

end ImportService.ImportApi
