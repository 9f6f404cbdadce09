/-
This file relates the two models of the scoring pool. A pool is steady as long as no thread
fails: every thread answers the task it works on, and exits only after it was told to
terminate. What a steady pool does is what `WorkerThreadPool` does, which knows neither which
thread a slot has nor which promise a task has: forgetting both (`plain`) turns the one into
the other, step by step and with the same settlements (`plain_reachable`).
-/

import ImportService.ThreadPool
import ImportService.ScoringPool

namespace ImportService.ScoringPool

open ProcessImportFile

/-! ### What is forgotten -/

/-- The task as the smaller model has it. -/
def plainTask (task : PendingTask) : ImportService.PendingTask where
  inputs := task.inputs

/-- The slot as the smaller model has it. -/
def plainSlot (slot : WorkerSlot) : ImportService.WorkerSlot where
  running := !slot.exited
  busy := slot.busy
  current := slot.current.map fun current => (current.1, plainTask current.2)

/-- The pool as the smaller model has it. -/
def plain (pool : Pool) : WorkerThreadPool where
  slots := pool.slots.map fun thread => plainSlot (pool.slot thread)
  queue := pool.queue.map plainTask
  nextTaskId := pool.nextTaskId
  shuttingDown := pool.shuttingDown

/-- No thread fails, and none answers anything but its task. -/
def isSteady (pool : Pool) : Event → Bool
  | .scoreBatch _ | .shutdown => true
  | .message thread taskId failure =>
      failure.isNone && pool.slots.contains thread && !(pool.slot thread).exited &&
        (pool.slot thread).current.any fun current => current.1 == taskId
  | .exit thread _ =>
      pool.shuttingDown && pool.slots.contains thread && !(pool.slot thread).exited
  | .error _ _ | .terminated => false

/-- The steps of the pool in which no thread is replaced. -/
def steadyStep (ports : Ports) (pool : Pool) (event : Event) : Option Pool :=
  if isSteady pool event then step ports pool event else none

/-- `index` is the place of a slot in the pool. -/
inductive PlainEvent
  | scoreBatch (inputs : List ScoringInput)
  | message (index : Nat)
  | exit (index : Nat)
  | shutdown

/-- The pool and all settlements so far. -/
def plainStep (ports : Ports) (state : WorkerThreadPool × List Settlement) :
    PlainEvent → Option (WorkerThreadPool × List Settlement)
  | .scoreBatch inputs =>
      let (pool, settlement) := state.1.scoreBatch inputs
      some (pool, state.2 ++ settlement.toList)
  | .message index =>
      (state.1.message ports index).map fun (pool, settlement) => (pool, state.2 ++ [settlement])
  | .exit index => (state.1.exit index).map fun pool => (pool, state.2)
  | .shutdown =>
      let (pool, settlements) := state.1.shutdown
      some (pool, state.2 ++ settlements)

/-- The pool of the smaller model, with what has been settled. -/
def plainState (pool : Pool) : WorkerThreadPool × List Settlement :=
  (plain pool, pool.settled.map Prod.snd)

@[simp] theorem shuttingDown_plain (pool : Pool) :
    (plain pool).shuttingDown = pool.shuttingDown := rfl

/-! ### Dispatching -/

section

variable {ports : Ports} {pool : Pool}

theorem map_plainSlot_congr {next : Pool} {threads : List Nat}
    (same : ∀ thread ∈ threads, next.slot thread = pool.slot thread) :
    threads.map (fun thread => plainSlot (next.slot thread)) =
      threads.map fun thread => plainSlot (pool.slot thread) :=
  List.map_congr_left fun thread member => congrArg plainSlot (same thread member)

/-- The loop of `dispatch` gives the same tasks to the slots at the same places. -/
theorem plain_dispatchTo {threads : List Nat} (distinct : threads.Nodup) (pool : Pool) :
    WorkerThreadPool.dispatchTo (threads.map fun thread => plainSlot (pool.slot thread))
        (pool.queue.map plainTask) pool.nextTaskId =
      (threads.map (fun thread => plainSlot ((dispatchTo threads pool).slot thread)),
        (dispatchTo threads pool).queue.map plainTask, (dispatchTo threads pool).nextTaskId) := by
  induction threads generalizing pool with
  | nil => rfl
  | cons thread rest inductionHypothesis =>
    obtain ⟨notInRest, restDistinct⟩ := List.nodup_cons.mp distinct
    simp only [List.map_cons, dispatchTo]
    cases isBusy : (pool.slot thread).busy with
    | true =>
      have kept : (dispatchTo rest pool).slot thread = pool.slot thread :=
        (dispatched_dispatchTo rest pool).others thread notInRest
      rw [if_pos rfl, kept, WorkerThreadPool.dispatchTo.eq_def]
      simp only [plainSlot, isBusy, if_true]
      exact congrArg (fun after => (_ :: after.1, after.2)) (inductionHypothesis restDistinct pool)
    | false =>
      rw [if_neg Bool.false_ne_true]
      cases queue : pool.queue with
      | nil =>
        rw [WorkerThreadPool.dispatchTo.eq_def]
        simp only [plainSlot, isBusy, Bool.false_eq_true, if_false, queue, List.map_nil]
      | cons task waiting =>
        have later := inductionHypothesis restDistinct (assign thread task waiting pool)
        have restSame : ∀ other ∈ rest,
            (assign thread task waiting pool).slot other = pool.slot other := by
          intro other member
          refine slot_setSlot_of_ne ?_ _
          rintro rfl
          exact notInRest member
        rw [map_plainSlot_congr restSame] at later
        have given : (dispatchTo rest (assign thread task waiting pool)).slot thread =
            (assign thread task waiting pool).slot thread :=
          (dispatched_dispatchTo rest _).others thread notInRest
        rw [given, WorkerThreadPool.dispatchTo.eq_def]
        simp only [plainSlot, isBusy, Bool.false_eq_true, if_false, List.map_cons]
        rw [assign, slot_setSlot_self]
        exact congrArg (fun after => (_ :: after.1, after.2)) later

theorem settled_dispatchTo (threads : List Nat) (pool : Pool) :
    (dispatchTo threads pool).settled = pool.settled := by
  induction threads generalizing pool with
  | nil => rfl
  | cons thread rest inductionHypothesis =>
    rw [dispatchTo]
    split
    · exact inductionHypothesis pool
    · split
      · rfl
      · exact inductionHypothesis _

/-- Dispatching settles nothing. -/
theorem plainState_dispatch (distinct : pool.slots.Nodup) :
    plainState (dispatch pool) = ((plain pool).dispatch, pool.settled.map Prod.snd) := by
  rw [dispatch, WorkerThreadPool.dispatch, shuttingDown_plain]
  split
  · rfl
  · have dispatched := dispatched_dispatchTo pool.slots pool
    rw [plainState, settled_dispatchTo, plain, dispatched.slots, dispatched.shuttingDown]
    simp only [plain, plain_dispatchTo distinct pool]

/-! ### The operations -/

theorem plain_scoreBatch (distinct : pool.slots.Nodup) (inputs : List ScoringInput) :
    plainStep ports (plainState pool) (.scoreBatch inputs) =
      some (plainState (scoreBatch inputs pool)) := by
  show some (((plain pool).scoreBatch inputs).1,
    pool.settled.map Prod.snd ++ ((plain pool).scoreBatch inputs).2.toList) = _
  by_cases closing : pool.shuttingDown = true
  · rw [WorkerThreadPool.scoreBatch, shuttingDown_plain, if_pos closing, scoreBatch,
      if_pos closing, plainState, settle, List.map_append]
    rfl
  · rw [WorkerThreadPool.scoreBatch, shuttingDown_plain, if_neg closing, scoreBatch,
      if_neg closing]
    by_cases noInputs : inputs.isEmpty = true
    · rw [if_pos noInputs, if_pos noInputs, plainState, settle, List.map_append]
      rfl
    · rw [if_neg noInputs, if_neg noInputs]
      refine congrArg some (Eq.trans ?_ (plainState_dispatch ?_).symm)
      · simp only [plain, List.map_append, Option.toList_none, List.append_nil]
        rfl
      · exact distinct

theorem plain_shutdown :
    plainStep ports (plainState pool) .shutdown = some (plainState (shutdown pool)) := by
  show some ((plain pool).shutdown.1, pool.settled.map Prod.snd ++ (plain pool).shutdown.2) = _
  by_cases closing : pool.shuttingDown = true
  · rw [WorkerThreadPool.shutdown, shuttingDown_plain, if_pos closing, shutdown, if_pos closing,
      List.append_nil]
    rfl
  · rw [WorkerThreadPool.shutdown, shuttingDown_plain, if_neg closing, shutdown, if_neg closing,
      plainState]
    simp only [plain, List.map_append, List.map_map]
    rfl

/-- The slot at a place of the pool is that of the thread at this place. -/
theorem plain_slots_getElem? {thread index : Nat} (isAt : pool.slots[index]? = some thread) :
    (plain pool).slots[index]? = some (plainSlot (pool.slot thread)) := by
  rw [plain, List.getElem?_map, isAt]
  rfl

theorem plain_setSlot (distinct : pool.slots.Nodup) {thread index : Nat}
    (isAt : pool.slots[index]? = some thread) (slot : WorkerSlot) :
    plain (setSlot thread slot pool) =
      { plain pool with slots := (plain pool).slots.set index (plainSlot slot) } := by
  have slots : (plain (setSlot thread slot pool)).slots =
      (plain pool).slots.set index (plainSlot slot) := by
    obtain ⟨inside, threadAt⟩ := List.getElem?_eq_some_iff.mp isAt
    have place : pool.slots.idxOf thread = index := by
      rw [← threadAt]
      exact distinct.idxOf_getElem index inside
    have member : thread ∈ pool.slots := List.mem_of_getElem? isAt
    show pool.slots.map (plainSlot ∘ Function.update pool.slot thread slot) = _
    rw [Function.comp_update, distinct.map_update, if_pos member, place]
    rfl
  rw [← slots]
  rfl

theorem plain_message (distinct : pool.slots.Nodup) {thread index taskId : Nat}
    {task : PendingTask} (isAt : pool.slots[index]? = some thread)
    (alive : (pool.slot thread).exited = false)
    (current : (pool.slot thread).current = some (taskId, task)) :
    plainStep ports (plainState pool) (.message index) =
      some (plainState (message thread taskId (answer ports task.inputs none) pool)) := by
  have freed : plain (freeSlot thread pool) =
      { plain pool with slots := (plain pool).slots.set index ⟨true, false, none⟩ } := by
    rw [freeSlot, plain_setSlot distinct isAt, plainSlot, alive]
    rfl
  show ((plain pool).message ports index).map _ = _
  rw [WorkerThreadPool.message, plain_slots_getElem? isAt]
  simp only [plainSlot, current, alive, Option.map_some, Bool.not_false, if_true]
  rw [message, current]
  simp only [if_true]
  refine congrArg some (Eq.trans ?_ (plainState_dispatch ?_).symm)
  · rw [settle, List.map_append]
    show _ = ((plain (freeSlot thread pool)).dispatch, _)
    rw [freed]
    rfl
  · exact distinct

/-- The handler of `exit` does nothing while the pool shuts down. -/
theorem exit_of_closing (closing : pool.shuttingDown = true) (thread : Nat) (code : Int) :
    exit thread code pool = setSlot thread { pool.slot thread with exited := true } pool := by
  rw [exit]
  exact if_pos (Bool.or_eq_true_iff.mpr (Or.inl closing))

theorem plain_exit (distinct : pool.slots.Nodup) {thread index : Nat}
    (isAt : pool.slots[index]? = some thread) (closing : pool.shuttingDown = true)
    (alive : (pool.slot thread).exited = false) (code : Int) :
    plainStep ports (plainState pool) (.exit index) =
      some (plainState (exit thread code pool)) := by
  have gone : plain (exit thread code pool) =
      { plain pool with
        slots := (plain pool).slots.set index
          { plainSlot (pool.slot thread) with running := false } } := by
    rw [exit_of_closing closing, plain_setSlot distinct isAt]
    rfl
  have exits : ((plain pool).shuttingDown && (plainSlot (pool.slot thread)).running) = true := by
    rw [shuttingDown_plain, closing, plainSlot, alive]
    rfl
  show ((plain pool).exit index).map _ = _
  rw [WorkerThreadPool.exit, plain_slots_getElem? isAt]
  simp only [exits, if_true, Option.map_some]
  show _ = some (plain (exit thread code pool), _)
  rw [gone, exit_of_closing closing]
  rfl

/-! ### Runs -/

theorem slots_dispatch (pool : Pool) : (dispatch pool).slots = pool.slots := by
  rw [dispatch]
  split
  · rfl
  · exact (dispatched_dispatchTo pool.slots pool).slots

/-- A steady pool keeps its slots. -/
theorem slots_steadyStep {event : Event} {next : Pool}
    (steps : steadyStep ports pool event = some next) : next.slots = pool.slots := by
  obtain ⟨steady, steps⟩ := Option.ite_none_right_eq_some.mp steps
  cases event with
  | scoreBatch inputs =>
    cases steps
    simp only [scoreBatch]
    split
    · rfl
    · split
      · rfl
      · exact slots_dispatch _
  | shutdown =>
    cases steps
    rw [shutdown]
    split <;> rfl
  | message thread taskId failure =>
    obtain ⟨inputs, _, rfl⟩ := Option.map_eq_some_iff.mp steps
    rw [message]
    split
    · rfl
    · split
      · exact slots_dispatch _
      · rfl
  | exit thread code =>
    obtain ⟨_, exits⟩ := Option.ite_none_right_eq_some.mp steps
    have closing : pool.shuttingDown = true :=
      (Bool.and_eq_true_iff.mp (Bool.and_eq_true_iff.mp steady).1).1
    rw [← Option.some.inj exits, exit_of_closing closing]
    rfl
  | error | terminated => cases steady

theorem plain_step (consistent : Consistent ports pool) (distinct : pool.slots.Nodup)
    {event : Event} {next : Pool} (steps : steadyStep ports pool event = some next) :
    ∃ plainEvent, plainStep ports (plainState pool) plainEvent = some (plainState next) := by
  obtain ⟨steady, steps⟩ := Option.ite_none_right_eq_some.mp steps
  cases event with
  | scoreBatch inputs =>
    cases steps
    exact ⟨.scoreBatch inputs, plain_scoreBatch distinct inputs⟩
  | shutdown =>
    cases steps
    exact ⟨.shutdown, plain_shutdown⟩
  | message thread taskId failure =>
    simp only [isSteady, Bool.and_eq_true, Bool.not_eq_true', List.contains_eq_mem,
      decide_eq_true_eq, Option.isNone_iff_eq_none] at steady
    obtain ⟨⟨⟨rfl, member⟩, alive⟩, isCurrent⟩ := steady
    obtain ⟨index, isAt⟩ := List.mem_iff_getElem?.mp member
    obtain ⟨inputs, posted, rfl⟩ := Option.map_eq_some_iff.mp steps
    cases current : (pool.slot thread).current with
    | none =>
      rw [current] at isCurrent
      cases isCurrent
    | some given =>
      obtain ⟨currentId, task⟩ := given
      rw [current] at isCurrent
      obtain rfl : currentId = taskId := eq_of_beq isCurrent
      have sameInputs := (consistent.current thread currentId task current).2
      rw [posted] at sameInputs
      cases sameInputs
      exact ⟨.message index, plain_message distinct isAt alive current⟩
  | exit thread code =>
    simp only [isSteady, Bool.and_eq_true, Bool.not_eq_true', List.contains_eq_mem,
      decide_eq_true_eq] at steady
    obtain ⟨⟨closing, member⟩, alive⟩ := steady
    obtain ⟨index, isAt⟩ := List.mem_iff_getElem?.mp member
    obtain ⟨_, exits⟩ := Option.ite_none_right_eq_some.mp steps
    rw [← Option.some.inj exits]
    exact ⟨.exit index, plain_exit distinct isAt closing alive code⟩
  | error | terminated => cases steady

theorem plain_onModuleInit {poolSize : Nat} (someThread : 1 ≤ poolSize) :
    plainState (onModuleInit poolSize) = (WorkerThreadPool.start poolSize, []) := by
  have slots : (List.range poolSize).map (fun _ => plainSlot freshSlot) =
      List.replicate poolSize WorkerThreadPool.spawnSlot := by
    rw [List.map_const', List.length_range]
    rfl
  rw [onModuleInit_eq, plainState, plain, WorkerThreadPool.start, Nat.max_eq_right someThread,
    ← slots]
  rfl

/-- The invariant of the two runs. A steady pool has the slots it was started with, also while it
shuts down. -/
structure Follows (ports : Ports) (poolSize : Nat) (pool : Pool)
    (state : WorkerThreadPool × List Settlement) : Prop where
  isPlain : state = plainState pool
  sound : Sound ports poolSize pool
  distinct : pool.slots.Nodup

theorem follows_onModuleInit (ports : Ports) {poolSize : Nat} (someThread : 1 ≤ poolSize) :
    Follows ports poolSize (onModuleInit poolSize) (WorkerThreadPool.start poolSize, []) where
  isPlain := (plain_onModuleInit someThread).symm
  sound := sound_onModuleInit ports poolSize
  distinct := by
    rw [onModuleInit_eq]
    exact List.nodup_range

theorem follows_step {poolSize : Nat} {state : WorkerThreadPool × List Settlement}
    (follows : Follows ports poolSize pool state) {event : Event} {next : Pool}
    (steps : steadyStep ports pool event = some next) :
    ∃ plainEvent, plainStep ports state plainEvent = some (plainState next) ∧
      Follows ports poolSize next (plainState next) := by
  obtain ⟨rfl, sound, distinct⟩ := follows
  obtain ⟨plainEvent, plainSteps⟩ := plain_step sound.consistent distinct steps
  refine ⟨plainEvent, plainSteps, rfl, ?_, ?_⟩
  · exact sound_step sound (Option.ite_none_right_eq_some.mp steps).2
  · rw [slots_steadyStep steps]
    exact distinct

/-- Every state that a steady pool comes to is one that `WorkerThreadPool` comes to, with the
same settlements. -/
theorem plain_reachable (ports : Ports) {poolSize : Nat} (someThread : 1 ≤ poolSize)
    {pool : Pool}
    (reachable : Transition.Reachable (steadyStep ports) (onModuleInit poolSize) pool) :
    Transition.Reachable (plainStep ports) (WorkerThreadPool.start poolSize, [])
      (plainState pool) := by
  have advances (current : Pool) (event : Event) (next : Pool)
      (state : WorkerThreadPool × List Settlement) (follows : Follows ports poolSize current state)
      (steps : steadyStep ports current event = some next) :
      ∃ later, (later = state ∨ ∃ plainEvent, plainStep ports state plainEvent = some later) ∧
        Follows ports poolSize next later := by
    obtain ⟨plainEvent, plainSteps, followsNext⟩ := follows_step follows steps
    exact ⟨plainState next, Or.inr ⟨plainEvent, plainSteps⟩, followsNext⟩
  obtain ⟨_, reached, rfl, _⟩ := reachable.simulated (Follows ports poolSize)
    (follows_onModuleInit ports someThread) advances
  exact reached

end

end ImportService.ScoringPool
