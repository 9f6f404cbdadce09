/-
This file models the semaphore with any number of calls of its `run`. A permit that is
released goes to the first waiter, which takes it up only later: from `release` until its
function starts the call is `granted`, and its permit is neither free nor used yet.

A call holds a permit from there until its `finally` block has run (`Call.holds`), so that the
permits held and the permits left are always as many as the limit. The calls get their permits
in the order in which they came (`Fair.order`), and what has happened to a call is known from
where it is (`Fair.history`).
-/

import ImportService.Lib.Transition

namespace ImportService

open Transition

/-! ### Semaphore -/

/-- The callers that wait in `acquire` are known by a number. -/
structure Semaphore where
  limit : Nat
  available : Nat
  waiters : List Nat
  deriving DecidableEq

namespace Semaphore

/-- A new semaphore. The constructor throws for a limit below one. -/
def new (limit : Nat) : Semaphore where
  limit := limit
  available := limit
  waiters := []

/-- The semaphore after a call of `acquire`, and whether the caller goes on at once. -/
def acquire (caller : Nat) (semaphore : Semaphore) : Semaphore × Bool :=
  if 0 < semaphore.available then
    ({ semaphore with available := semaphore.available - 1 }, true)
  else ({ semaphore with waiters := semaphore.waiters ++ [caller] }, false)

/-- The semaphore after a call of `release`, and the caller that gets the permit. -/
def release (semaphore : Semaphore) : Semaphore × Option Nat :=
  match semaphore.waiters with
  | [] => ({ semaphore with available := semaphore.available + 1 }, none)
  | next :: rest => ({ semaphore with waiters := rest }, some next)

/-- The permits that are taken. -/
def inFlight (semaphore : Semaphore) : Nat := semaphore.limit - semaphore.available

/-- The number of callers that wait. -/
def queueDepth (semaphore : Semaphore) : Nat := semaphore.waiters.length

/-! ### Calls of run -/

/-- Where a call of `run` is: in `acquire`, before its function, in its function, with the outcome
of the function before the `finally` block, or behind it, with its own promise settled. -/
inductive Call (Outcome : Type)
  | acquiring
  | granted
  | running
  | ended (outcome : Outcome)
  | settled (outcome : Outcome)
  deriving DecidableEq

/-- The caller has a permit. -/
def Call.holds {Outcome : Type} : Call Outcome → Bool
  | .granted | .running | .ended _ => true
  | .acquiring | .settled _ => false

/-- A semaphore with the calls of its `run`, numbered as they come. `admitted` are the calls that
have had a permit, in the order in which they got it. -/
structure Usage (Outcome : Type) where
  semaphore : Semaphore
  calls : List (Call Outcome)
  admitted : List Nat
  deriving DecidableEq

/-- Nobody has called. -/
def start (Outcome : Type) (limit : Nat) : Usage Outcome where
  semaphore := new limit
  calls := []
  admitted := []

/-- `ends` is the end of the function of a call, with what it returns or throws. -/
inductive Event (Outcome : Type)
  | run
  | start (caller : Nat)
  | ends (caller : Nat) (outcome : Outcome)
  | finish (caller : Nat)
  deriving DecidableEq

section

variable {Outcome : Type}

/-- The call of `run`, up to its first `await`. -/
def enter (usage : Usage Outcome) : Usage Outcome :=
  let caller := usage.calls.length
  let (semaphore, goesOn) := usage.semaphore.acquire caller
  if goesOn then
    { semaphore, calls := usage.calls ++ [.granted], admitted := usage.admitted ++ [caller] }
  else { semaphore, calls := usage.calls ++ [.acquiring], admitted := usage.admitted }

/-- The `finally` block of a call, whose promise settles with the outcome of its function. -/
def leave (caller : Nat) (outcome : Outcome) (usage : Usage Outcome) : Usage Outcome :=
  let (semaphore, next) := usage.semaphore.release
  let calls := usage.calls.set caller (.settled outcome)
  match next with
  | none => { semaphore, calls, admitted := usage.admitted }
  | some next =>
      { semaphore, calls := calls.set next .granted, admitted := usage.admitted ++ [next] }

/-- A call of `run`, or a step of one of the calls. -/
def step (usage : Usage Outcome) : Event Outcome → Option (Usage Outcome)
  | .run => some (enter usage)
  | .start caller =>
      match usage.calls[caller]? with
      | some .granted => some { usage with calls := usage.calls.set caller .running }
      | _ => none
  | .ends caller outcome =>
      match usage.calls[caller]? with
      | some .running => some { usage with calls := usage.calls.set caller (.ended outcome) }
      | _ => none
  | .finish caller =>
      match usage.calls[caller]? with
      | some (.ended outcome) => some (leave caller outcome usage)
      | _ => none

/-! ### The invariant -/

/-- The number of calls that hold a permit. -/
def Usage.holding (usage : Usage Outcome) : Nat := usage.calls.countP Call.holds

/-- The call an event belongs to. -/
def Event.caller? : Event Outcome → Option Nat
  | .run => none
  | .start caller | .ends caller _ | .finish caller => some caller

/-- The events of a call that is there. -/
def Call.history (caller : Nat) : Call Outcome → List (Event Outcome)
  | .acquiring | .granted => []
  | .running => [.start caller]
  | .ended outcome => [.start caller, .ends caller outcome]
  | .settled outcome => [.start caller, .ends caller outcome, .finish caller]

/-- The events of one call. -/
def eventsOf (caller : Nat) (schedule : List (Event Outcome)) : List (Event Outcome) :=
  schedule.filter fun event => event.caller? == some caller

/-- How often `run` has been called. -/
def runs (schedule : List (Event Outcome)) : Nat :=
  schedule.countP fun event => event.caller?.isNone

/-- The permits held and the permits left are as many as the limit, nobody waits while one is left,
and the calls that have had a permit come before those that wait for one. -/
structure Fair (limit : Nat) (schedule : List (Event Outcome)) (usage : Usage Outcome) : Prop where
  sameLimit : usage.semaphore.limit = limit
  permits : usage.holding + usage.semaphore.available = limit
  full : usage.semaphore.waiters ≠ [] → usage.semaphore.available = 0
  order : usage.admitted ++ usage.semaphore.waiters = List.range usage.calls.length
  waiting : ∀ caller, caller ∈ usage.semaphore.waiters ↔ usage.calls[caller]? = some .acquiring
  made : usage.calls.length = runs schedule
  history : ∀ caller, eventsOf caller schedule =
    (usage.calls[caller]?).elim [] fun call => call.history caller

end

section

variable {Outcome : Type} {limit caller : Nat} {schedule : List (Event Outcome)}
  {usage next : Usage Outcome} {event : Event Outcome} {call later : Call Outcome}

theorem countP_holds_set (later : Call Outcome) {calls : List (Call Outcome)}
    (isAt : calls[caller]? = some call) :
    (calls.set caller later).countP Call.holds + call.holds.toNat =
      calls.countP Call.holds + later.holds.toNat := by
  obtain ⟨within, here⟩ := List.getElem?_eq_some_iff.mp isAt
  have counted : (if Call.holds calls[caller] then 1 else 0) ≤ calls.countP Call.holds :=
    List.boole_getElem_le_countP within
  rw [List.countP_set within]
  rw [here] at counted ⊢
  cases held : call.holds with
  | true =>
    rw [held, if_pos rfl] at counted
    rw [if_pos rfl, Bool.toNat_true]
    cases later.holds <;> simp <;> omega
  | false =>
    rw [if_neg Bool.false_ne_true, Bool.toNat_false]
    cases later.holds <;> simp

/-- A call that has an event is one step further than before. -/
theorem history_set (later : Call Outcome) (fair : Fair limit schedule usage)
    (isAt : usage.calls[caller]? = some call)
    (own : event.caller? = some caller)
    (goesOn : later.history caller = call.history caller ++ [event]) (other : Nat) :
    eventsOf other (schedule ++ [event]) =
      ((usage.calls.set caller later)[other]?).elim [] fun call => call.history other := by
  have before := fair.history other
  rw [eventsOf, List.filter_append, ← eventsOf, before]
  by_cases same : other = caller
  · subst same
    obtain ⟨within, _⟩ := List.getElem?_eq_some_iff.mp isAt
    rw [isAt, List.getElem?_set_self within, Option.elim_some, Option.elim_some, goesOn,
      List.filter_cons_of_pos (by rw [own]; exact beq_self_eq_true _), List.filter_nil]
  · rw [List.getElem?_set_ne fun same' => same same'.symm, List.filter_cons_of_neg, List.filter_nil,
      List.append_nil]
    rw [own]
    exact fun equal => same (Option.some.inj (eq_of_beq equal)).symm

theorem getElem?_set_eq_acquiring (later : Call Outcome) (notAcquiring : later ≠ .acquiring)
    (calls : List (Call Outcome)) (other : Nat) :
    (calls.set caller later)[other]? = some .acquiring ↔
      other ≠ caller ∧ calls[other]? = some .acquiring := by
  rw [List.getElem?_set]
  by_cases same : caller = other
  · rw [if_pos same]
    refine iff_of_false ?_ fun waits => waits.1 same.symm
    split
    · exact fun waits => notAcquiring (Option.some.inj waits)
    · exact nofun
  · rw [if_neg same]
    exact (and_iff_right fun equal => same equal.symm).symm

theorem runs_concat : runs (schedule ++ [event]) = runs schedule + event.caller?.isNone.toNat := by
  rw [runs, List.countP_append, List.countP_singleton, ← runs]
  cases event.caller? <;> rfl

/-- An event of a call that is there makes no call. -/
theorem runs_concat_of_own (own : event.caller? = some caller) :
    runs (schedule ++ [event]) = runs schedule := by
  rw [runs_concat, own]
  rfl

/-- A call that keeps its permit. -/
theorem fair_set (fair : Fair limit schedule usage) (isAt : usage.calls[caller]? = some call)
    (own : event.caller? = some caller) (held : call.holds = true) (holds : later.holds = true)
    (goesOn : later.history caller = call.history caller ++ [event]) :
    Fair limit (schedule ++ [event]) { usage with calls := usage.calls.set caller later } where
  sameLimit := fair.sameLimit
  permits := by
    have counted := countP_holds_set later isAt
    rw [held, holds] at counted
    have permits := fair.permits
    rw [Usage.holding, ← Nat.add_right_cancel counted] at permits
    exact permits
  full := fair.full
  order := by
    rw [List.length_set]
    exact fair.order
  waiting := by
    intro other
    have notAcquiring : later ≠ .acquiring := by
      rintro rfl
      cases holds
    rw [fair.waiting, getElem?_set_eq_acquiring later notAcquiring]
    refine (and_iff_right_of_imp fun waits => ?_).symm
    rintro rfl
    rw [isAt] at waits
    cases waits
    cases held
  made := by
    rw [List.length_set, fair.made, runs_concat_of_own own]
  history := history_set later fair isAt own goesOn

theorem eventsOf_run (caller : Nat) :
    eventsOf caller (schedule ++ [.run]) = eventsOf caller schedule := by
  rw [eventsOf, List.filter_append, List.filter_cons_of_neg (by exact Bool.false_ne_true),
    List.filter_nil, List.append_nil, eventsOf]

theorem fair_start (Outcome : Type) (limit : Nat) : Fair limit [] (start Outcome limit) where
  sameLimit := rfl
  permits := Nat.zero_add limit
  full := fun waits => absurd rfl waits
  order := rfl
  waiting := fun caller => by
    rw [start, List.getElem?_nil]
    exact iff_of_false List.not_mem_nil nofun
  made := rfl
  history := fun caller => by
    rw [start, List.getElem?_nil]
    rfl

/-! ### Calls that come -/

theorem enter_of_free (free : 0 < usage.semaphore.available) :
    enter usage =
      { semaphore := { usage.semaphore with available := usage.semaphore.available - 1 }
        calls := usage.calls ++ [.granted]
        admitted := usage.admitted ++ [usage.calls.length] } := by
  rw [enter, acquire, if_pos free]
  rfl

theorem enter_of_full (full : usage.semaphore.available = 0) :
    enter usage =
      { semaphore :=
          { usage.semaphore with waiters := usage.semaphore.waiters ++ [usage.calls.length] }
        calls := usage.calls ++ [.acquiring]
        admitted := usage.admitted } := by
  rw [enter, acquire, if_neg (Nat.not_lt.mpr (Nat.le_of_eq full))]
  rfl

theorem getElem?_concat_eq_acquiring :
    (usage.calls ++ [call])[caller]? = some .acquiring ↔
      usage.calls[caller]? = some .acquiring ∨ caller = usage.calls.length ∧ call = .acquiring := by
  rcases Nat.lt_trichotomy caller usage.calls.length with before | rfl | beyond
  · rw [List.getElem?_append_left before]
    exact (or_iff_left fun last => absurd last.1 (Nat.ne_of_lt before)).symm
  · rw [List.getElem?_concat_length, List.getElem?_eq_none (Nat.le_refl _), Option.some.injEq]
    exact ⟨fun waits => Or.inr ⟨rfl, waits⟩, fun waits => waits.elim nofun And.right⟩
  · have outside : (usage.calls ++ [call])[caller]? = none := by
      rw [List.getElem?_eq_none]
      rw [List.length_append]
      exact beyond
    rw [outside, List.getElem?_eq_none (Nat.le_of_lt beyond)]
    exact iff_of_false nofun fun waits =>
      waits.elim nofun fun last => absurd last.1 (Nat.ne_of_gt beyond)

/-- Nothing has happened yet to a call that has just been made. -/
theorem history_enter (fair : Fair limit schedule usage)
    (unstarted : ∀ caller, call.history caller = []) (caller : Nat) :
    eventsOf caller (schedule ++ [.run]) =
      ((usage.calls ++ [call])[caller]?).elim [] fun call => call.history caller := by
  rw [eventsOf_run, fair.history]
  rcases Nat.lt_trichotomy caller usage.calls.length with before | rfl | beyond
  · rw [List.getElem?_append_left before]
  · rw [List.getElem?_concat_length, List.getElem?_eq_none (Nat.le_refl _), Option.elim_some,
      unstarted, Option.elim_none]
  · rw [List.getElem?_eq_none (Nat.le_of_lt beyond), List.getElem?_eq_none]
    rw [List.length_append]
    exact beyond

theorem length_enter (fair : Fair limit schedule usage) :
    (usage.calls ++ [call]).length = runs (schedule ++ [.run]) := by
  rw [List.length_append, List.length_singleton, fair.made, runs_concat]
  rfl

theorem fair_enter (fair : Fair limit schedule usage) :
    Fair limit (schedule ++ [.run]) (enter usage) := by
  have permits := fair.permits
  rw [Usage.holding] at permits
  rcases Nat.eq_zero_or_pos usage.semaphore.available with full | free
  · rw [enter_of_full full]
    refine ⟨fair.sameLimit, ?_, fun _ => full, ?_, ?_, length_enter fair,
      history_enter fair fun _ => rfl⟩
    · rw [Usage.holding, List.countP_append]
      exact permits
    · rw [← List.append_assoc, fair.order, List.length_append, List.length_singleton,
        List.range_succ]
    · intro caller
      rw [getElem?_concat_eq_acquiring, List.mem_append, fair.waiting, List.mem_singleton]
      simp
  · have noneWaits : usage.semaphore.waiters = [] :=
      Decidable.byContradiction fun waits => absurd (fair.full waits) (Nat.ne_of_gt free)
    rw [enter_of_free free]
    refine ⟨fair.sameLimit, ?_, fun waits => absurd noneWaits waits, ?_, ?_, length_enter fair,
      history_enter fair fun _ => rfl⟩
    · rw [Usage.holding, List.countP_append]
      simp only [Call.holds, List.countP_singleton, if_true]
      omega
    · have order := fair.order
      rw [noneWaits, List.append_nil] at order
      simp only [noneWaits, List.append_nil, order, List.length_append, List.length_singleton,
        List.range_succ]
    · intro caller
      rw [getElem?_concat_eq_acquiring, fair.waiting]
      simp

/-! ### Calls that go -/

theorem leave_of_noneWaits {outcome : Outcome} (noneWaits : usage.semaphore.waiters = []) :
    leave caller outcome usage =
      { semaphore := { usage.semaphore with available := usage.semaphore.available + 1 }
        calls := usage.calls.set caller (.settled outcome)
        admitted := usage.admitted } := by
  simp only [leave, release, noneWaits]

theorem leave_of_waits {outcome : Outcome} {waiter : Nat} {rest : List Nat}
    (waits : usage.semaphore.waiters = waiter :: rest) :
    leave caller outcome usage =
      { semaphore := { usage.semaphore with waiters := rest }
        calls := (usage.calls.set caller (.settled outcome)).set waiter .granted
        admitted := usage.admitted ++ [waiter] } := by
  simp only [leave, release, waits]

/-- The waiter that comes next, with the permit of the call that goes. -/
theorem fair_handOver {outcome : Outcome} {waiter : Nat} {rest : List Nat}
    (fair : Fair limit schedule usage) (isAt : usage.calls[caller]? = some (.ended outcome))
    (waits : usage.semaphore.waiters = waiter :: rest) :
    Fair limit (schedule ++ [.finish caller]) (leave caller outcome usage) := by
  have order := fair.order
  rw [waits] at order
  have distinct : (usage.admitted ++ waiter :: rest).Nodup := order ▸ List.nodup_range
  have waiterWaits : usage.calls[waiter]? = some .acquiring :=
    (fair.waiting waiter).mp (waits ▸ List.mem_cons_self)
  have differs : caller ≠ waiter := by
    rintro rfl
    rw [isAt] at waiterWaits
    cases waiterWaits
  have stillWaits : (usage.calls.set caller (.settled outcome))[waiter]? = some .acquiring := by
    rw [List.getElem?_set_ne differs, waiterWaits]
  rw [leave_of_waits waits]
  refine ⟨fair.sameLimit, ?_, fun _ => ?_, ?_, ?_, ?_, ?_⟩
  · have goes := countP_holds_set (.settled outcome) isAt
    have comes := countP_holds_set .granted stillWaits
    have permits := fair.permits
    simp only [Usage.holding, Call.holds, Bool.toNat_true, Bool.toNat_false] at goes comes permits ⊢
    omega
  · exact fair.full (by rw [waits]; exact List.cons_ne_nil _ _)
  · rw [List.append_assoc, List.singleton_append, order, List.length_set, List.length_set]
  · intro other
    have member := fair.waiting other
    rw [waits, List.mem_cons] at member
    simp only
    rw [getElem?_set_eq_acquiring .granted nofun,
      getElem?_set_eq_acquiring (.settled outcome) nofun, ← member]
    constructor
    · intro isLater
      refine ⟨?_, ?_, Or.inr isLater⟩
      · rintro rfl
        exact List.nodup_cons.mp (List.nodup_append.mp distinct).2.1 |>.1 isLater
      · rintro rfl
        rw [member.mp (Or.inr isLater)] at isAt
        cases isAt
    · rintro ⟨notNext, _, isNext | isLater⟩
      · exact absurd isNext notNext
      · exact isLater
  · rw [List.length_set, List.length_set, fair.made, runs_concat_of_own rfl]
  · intro other
    rw [history_set (.settled outcome) fair isAt rfl rfl]
    by_cases same : other = waiter
    · subst same
      obtain ⟨within, _⟩ := List.getElem?_eq_some_iff.mp stillWaits
      rw [stillWaits, List.getElem?_set_self within]
      rfl
    · rw [List.getElem?_set_ne fun same' => same same'.symm]

theorem fair_leave {outcome : Outcome} (fair : Fair limit schedule usage)
    (isAt : usage.calls[caller]? = some (.ended outcome)) :
    Fair limit (schedule ++ [.finish caller]) (leave caller outcome usage) := by
  cases waits : usage.semaphore.waiters with
  | cons waiter rest => exact fair_handOver fair isAt waits
  | nil =>
    rw [leave_of_noneWaits waits]
    refine ⟨fair.sameLimit, ?_, fun notEmpty => absurd waits notEmpty, ?_, fun other => ?_, ?_,
      history_set (.settled outcome) fair isAt rfl rfl⟩
    · have goes := countP_holds_set (.settled outcome) isAt
      have permits := fair.permits
      simp only [Usage.holding, Call.holds, Bool.toNat_true, Bool.toNat_false] at goes permits ⊢
      omega
    · rw [List.length_set]
      exact fair.order
    · rw [fair.waiting, getElem?_set_eq_acquiring (.settled outcome) nofun]
      refine (and_iff_right_of_imp fun isWaiting => ?_).symm
      rintro rfl
      rw [isAt] at isWaiting
      cases isWaiting
    · rw [List.length_set, fair.made, runs_concat_of_own rfl]

theorem fair_step (fair : Fair limit schedule usage) (enabled : step usage event = some next) :
    Fair limit (schedule ++ [event]) next := by
  cases event with
  | run =>
    cases enabled
    exact fair_enter fair
  | start caller =>
    rw [step] at enabled
    split at enabled <;> cases enabled
    rename_i isAt
    exact fair_set fair isAt rfl rfl rfl rfl
  | ends caller outcome =>
    rw [step] at enabled
    split at enabled <;> cases enabled
    rename_i isAt
    exact fair_set fair isAt rfl rfl rfl rfl
  | finish caller =>
    rw [step] at enabled
    split at enabled <;> cases enabled
    rename_i isAt
    exact fair_leave fair isAt

theorem fair_run (reaches : Transition.run step (start Outcome limit) schedule = some usage) :
    Fair limit schedule usage :=
  run_invariant reaches (Fair limit) (fair_start Outcome limit)
    fun _ _ _ _ fair enabled => fair_step fair enabled

theorem Fair.inFlight_eq (fair : Fair limit schedule usage) :
    usage.semaphore.inFlight = usage.holding := by
  have permits := fair.permits
  rw [inFlight, fair.sameLimit]
  omega

theorem Fair.inFlight_of_waits (fair : Fair limit schedule usage)
    (waits : usage.semaphore.waiters ≠ []) : usage.semaphore.inFlight = limit := by
  rw [inFlight, fair.sameLimit, fair.full waits, Nat.sub_zero]

theorem Fair.drained (fair : Fair limit schedule usage)
    (settled : ∀ call ∈ usage.calls, ∃ outcome, call = .settled outcome) :
    usage.holding = 0 ∧ usage.semaphore.waiters = [] := by
  constructor
  · refine List.countP_eq_zero.mpr fun call member => ?_
    obtain ⟨outcome, rfl⟩ := settled call member
    exact Bool.false_ne_true
  · refine List.eq_nil_iff_forall_not_mem.mpr fun caller waits => ?_
    have isAt := (fair.waiting caller).mp waits
    obtain ⟨outcome, same⟩ := settled _ (List.mem_of_getElem? isAt)
    cases same

/-! ### Safety -/

/-- What is asked of a semaphore after a schedule. Every call of `run` has its number, calls get
their permits in the order in which they came, a call that waits is woken by one that holds a
permit, and a call settles with what its function, started once, has ended with. -/
structure Serves (limit : Nat) (schedule : List (Event Outcome)) (usage : Usage Outcome) :
    Prop where
  made : usage.calls.length = runs schedule
  bounded : usage.holding ≤ limit
  inFlight : usage.semaphore.inFlight = usage.holding
  full : 0 < usage.semaphore.queueDepth → usage.semaphore.inFlight = limit
  waiting : ∀ caller, caller ∈ usage.semaphore.waiters ↔ usage.calls[caller]? = some .acquiring
  woken : 0 < usage.semaphore.queueDepth → ∃ call ∈ usage.calls, call.holds = true
  order : usage.admitted ++ usage.semaphore.waiters = List.range usage.calls.length
  history : ∀ caller call, usage.calls[caller]? = some call →
    eventsOf caller schedule = call.history caller
  drained : (∀ call ∈ usage.calls, ∃ outcome, call = .settled outcome) →
    usage.semaphore.inFlight = 0 ∧ usage.semaphore.queueDepth = 0

/-- A semaphore serves its callers, whatever order their calls come, start, end and finish in. -/
theorem semaphore_serves (Outcome : Type) (limit : Nat) (positive : 1 ≤ limit)
    (schedule : List (Event Outcome)) (usage : Usage Outcome)
    (reaches : Transition.run step (start Outcome limit) schedule = some usage) :
    Serves limit schedule usage := by
  have fair := fair_run reaches
  have full (waits : 0 < usage.semaphore.queueDepth) : usage.semaphore.inFlight = limit :=
    fair.inFlight_of_waits (List.ne_nil_of_length_pos waits)
  refine
    { made := fair.made
      bounded := Nat.le.intro fair.permits
      inFlight := fair.inFlight_eq
      full := full
      waiting := fair.waiting
      woken := fun waits => ?_
      order := fair.order
      history := fun caller call isAt => ?_
      drained := fun settled => ?_ }
  · have held : 0 < usage.holding := by
      rw [← fair.inFlight_eq, full waits]
      exact positive
    exact List.countP_pos_iff.mp held
  · rw [fair.history, isAt, Option.elim_some]
  · obtain ⟨noneHolds, noneWaits⟩ := fair.drained settled
    exact ⟨fair.inFlight_eq.trans noneHolds, List.length_eq_zero_iff.mpr noneWaits⟩

/-- Two calls for one permit, of which the first fails. -/
theorem semaphore_serves_failure :
    @Serves (Except String Nat) 1
      [.run, .run, .start 0, .ends 0 (.error "boom"), .finish 0, .start 1]
      { semaphore := { limit := 1, available := 0, waiters := [] }
        calls := [.settled (.error "boom"), .running]
        admitted := [0, 1] } :=
  semaphore_serves (Except String Nat) 1 (Nat.le_refl 1) _ _ rfl

end

end Semaphore

end ImportService
