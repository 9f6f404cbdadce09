/-
This file models the scoring pool, `WorkerThreadPool`: its slots, its queue and the way a
batch takes from the call of `scoreBatch` to its answer.

A thread that is told to terminate stops at some later point. What it has posted before
is still delivered, and what it has not is never answered: the `exit` handler returns
early while the pool shuts down. The slots stay in the list, as nothing reads it any
more. A thread does not fail by itself here, so slots are not replaced, and the task
identifiers of the messages are always those of the current tasks, as a thread gets one
task at a time. The pool whose threads may fail does the same as long as none does
(`ScoringPool.plain_reachable`).
-/

import ImportService.ProcessImportFile

namespace ImportService

open ProcessImportFile

/-- The inputs of a batch; its promise is the one `execute` awaits. -/
structure PendingTask where
  inputs : List ScoringInput
  deriving DecidableEq

/-- `running` until the thread has exited. -/
structure WorkerSlot where
  running : Bool
  busy : Bool
  current : Option (Nat × PendingTask)
  deriving DecidableEq

/-- The threads, the tasks that wait, and whether the pool shuts down. -/
structure WorkerThreadPool where
  slots : List WorkerSlot
  queue : List PendingTask
  nextTaskId : Nat
  shuttingDown : Bool

/-- How a promise of the pool is settled. -/
inductive Settlement
  | resolved (results : List ScoringOutput)
  | rejected (message : JsString)
  deriving DecidableEq

namespace WorkerThreadPool

/-- A thread that has just been started. -/
def spawnSlot : WorkerSlot where
  running := true
  busy := false
  current := none

/-- `onModuleInit`, with `POOL_SIZE` at least one. -/
def start (poolSize : Nat) : WorkerThreadPool where
  slots := List.replicate (max 1 poolSize) spawnSlot
  queue := []
  nextTaskId := 0
  shuttingDown := false

/-- The loop of `dispatch`: the slots, the queue and the next task id after it. -/
def dispatchTo : List WorkerSlot → List PendingTask → Nat →
    List WorkerSlot × List PendingTask × Nat
  | [], queue, nextTaskId => ([], queue, nextTaskId)
  | slot :: rest, queue, nextTaskId =>
      if slot.busy then
        let after := dispatchTo rest queue nextTaskId
        (slot :: after.1, after.2)
      else
        match queue with
        | [] => (slot :: rest, [], nextTaskId)
        | task :: waiting =>
            let after := dispatchTo rest waiting (nextTaskId + 1)
            ({ slot with busy := true, current := some (nextTaskId, task) } :: after.1, after.2)

/-- Waiting tasks are handed to free threads, unless the pool shuts down. -/
def dispatch (pool : WorkerThreadPool) : WorkerThreadPool :=
  if pool.shuttingDown then pool
  else
    let after := dispatchTo pool.slots pool.queue pool.nextTaskId
    { pool with slots := after.1, queue := after.2.1, nextTaskId := after.2.2 }

/-- The pool after `scoreBatch`, and the settlement if the promise does not wait. -/
def scoreBatch (inputs : List ScoringInput) (pool : WorkerThreadPool) :
    WorkerThreadPool × Option Settlement :=
  if pool.shuttingDown then
    (pool, some (.rejected (JsString.ofString "Risk scoring pool is shutting down.")))
  else if inputs.isEmpty then (pool, some (.resolved []))
  else (dispatch { pool with queue := pool.queue ++ [{ inputs }] }, none)

/-- `shutdown`, which is also the hook `onApplicationShutdown`: the pool after it, and the
settlements of the queued tasks. The threads are told to terminate. -/
def shutdown (pool : WorkerThreadPool) : WorkerThreadPool × List Settlement :=
  if pool.shuttingDown then (pool, [])
  else
    ({ pool with queue := [], shuttingDown := true },
      pool.queue.map fun _ =>
        .rejected (JsString.ofString "Risk scoring pool shut down before task ran."))

/-- A thread posts the results of its task: the handler of `message`. -/
def message (ports : Ports) (index : Nat) (pool : WorkerThreadPool) :
    Option (WorkerThreadPool × Settlement) :=
  match pool.slots[index]? with
  | none => none
  | some slot =>
      match slot.current with
      | none => none
      | some (_, task) =>
          if slot.running then
            some (dispatch { pool with
                slots := pool.slots.set index { slot with busy := false, current := none } },
              .resolved (ports.scoreBatch task.inputs))
          else none

/-- A thread that was told to terminate exits. The handler of `exit` does nothing then. -/
def exit (index : Nat) (pool : WorkerThreadPool) : Option WorkerThreadPool :=
  match pool.slots[index]? with
  | none => none
  | some slot =>
      if pool.shuttingDown && slot.running then
        some { pool with slots := pool.slots.set index { slot with running := false } }
      else none

/-! ### Idle pools and pools at work -/

/-- The slot has no task. -/
def isIdle (slot : WorkerSlot) : Bool := !slot.busy && slot.current.isNone

/-- No task is waiting or running. -/
structure Idle (pool : WorkerThreadPool) : Prop where
  queue : pool.queue = []
  slots : ∀ slot ∈ pool.slots, isIdle slot = true

/-- A thread with a task. -/
def servingSlot (taskId : Nat) (inputs : List ScoringInput) : WorkerSlot where
  running := true
  busy := true
  current := some (taskId, { inputs })

/-- A thread runs the only task. -/
structure Serves (pool : WorkerThreadPool) (inputs : List ScoringInput) : Prop where
  queue : pool.queue = []
  slot : ∃ index taskId : Nat, pool.slots[index]? = some (servingSlot taskId inputs) ∧
    ∀ other slot, other ≠ index → pool.slots[other]? = some slot → isIdle slot = true

/-- There is a thread, and no thread exits before the shutdown. -/
structure Healthy (pool : WorkerThreadPool) : Prop where
  notEmpty : pool.slots ≠ []
  running : pool.shuttingDown = false → ∀ slot ∈ pool.slots, slot.running = true

section

variable {pool next : WorkerThreadPool} {inputs : List ScoringInput}

theorem idle_start (poolSize : Nat) : (start poolSize).Idle where
  queue := rfl
  slots := by
    intro slot member
    rw [List.eq_of_mem_replicate member]
    rfl

theorem healthy_start (poolSize : Nat) : (start poolSize).Healthy where
  notEmpty := by
    have positive : max 1 poolSize ≠ 0 := by omega
    exact fun empty => positive (List.replicate_eq_nil_iff _ |>.mp empty)
  running := by
    intro _ slot member
    rw [List.eq_of_mem_replicate member]
    rfl

theorem not_busy_of_isIdle {slot : WorkerSlot} (idle : isIdle slot = true) :
    slot.busy = false ∧ slot.current = none := by
  obtain ⟨notBusy, noTask⟩ := Bool.and_eq_true_iff.mp idle
  exact ⟨Bool.not_eq_true' _ ▸ notBusy, Option.isNone_iff_eq_none.mp noTask⟩

theorem dispatchTo_nil (slots : List WorkerSlot) (nextTaskId : Nat) :
    dispatchTo slots [] nextTaskId = (slots, [], nextTaskId) := by
  induction slots with
  | nil => rfl
  | cons slot rest inductionHypothesis =>
    rw [dispatchTo, inductionHypothesis]
    split <;> rfl

theorem dispatch_of_empty (empty : pool.queue = []) : pool.dispatch = pool := by
  rw [dispatch, empty, dispatchTo_nil, ← empty]
  split <;> rfl

theorem Idle.getElem? (idle : pool.Idle) {index : Nat} {slot : WorkerSlot}
    (found : pool.slots[index]? = some slot) : isIdle slot = true :=
  idle.slots slot (List.mem_of_getElem? found)

/-- A free pool gives the batch to its first thread. -/
theorem serves_scoreBatch (healthy : pool.Healthy) (idle : pool.Idle)
    (isOpen : pool.shuttingDown = false) (notEmpty : inputs ≠ []) :
    ∃ next, pool.scoreBatch inputs = (next, none) ∧ next.Serves inputs ∧ next.Healthy := by
  obtain ⟨first, rest, slots⟩ := List.exists_cons_of_ne_nil healthy.notEmpty
  have firstIdle : isIdle first = true := idle.slots first (slots ▸ List.mem_cons_self)
  obtain ⟨notBusy, _⟩ := not_busy_of_isIdle firstIdle
  have running : first.running = true :=
    healthy.running isOpen first (slots ▸ List.mem_cons_self)
  have dispatched : dispatch { pool with queue := pool.queue ++ [{ inputs }] } =
      { pool with
        slots := servingSlot pool.nextTaskId inputs :: rest
        queue := []
        nextTaskId := pool.nextTaskId + 1 } := by
    simp only [dispatch, isOpen, idle.queue, slots, dispatchTo, notBusy, List.nil_append,
      dispatchTo_nil, Bool.false_eq_true, if_false, servingSlot, running]
  have calls : pool.scoreBatch inputs =
      ({ pool with
        slots := servingSlot pool.nextTaskId inputs :: rest
        queue := []
        nextTaskId := pool.nextTaskId + 1 }, none) := by
    have closed : ¬pool.shuttingDown = true := Bool.eq_false_iff.mp isOpen
    rw [scoreBatch, if_neg closed, if_neg (by simpa using notEmpty), dispatched]
  refine ⟨_, calls, ⟨rfl, 0, pool.nextTaskId, rfl, ?_⟩, ⟨List.cons_ne_nil _ _, ?_⟩⟩
  · intro other slot different found
    cases other with
    | zero => exact absurd rfl different
    | succ other =>
      refine idle.slots slot ?_
      rw [slots]
      exact List.mem_cons_of_mem _ (List.mem_of_getElem? found)
  · intro _ slot member
    rcases List.mem_cons.mp member with rfl | later
    · rfl
    · exact healthy.running isOpen slot (slots ▸ List.mem_cons_of_mem _ later)

theorem scoreBatch_of_shuttingDown (closed : pool.shuttingDown = true) :
    pool.scoreBatch inputs =
      (pool, some (.rejected (JsString.ofString "Risk scoring pool is shutting down."))) := by
  rw [scoreBatch, closed, if_pos rfl]

/-- A pool has no task in its queue when it shuts down. -/
theorem shutdown_of_empty (empty : pool.queue = []) :
    pool.shutdown = ({ pool with shuttingDown := true }, []) := by
  unfold shutdown
  split
  · rename_i closed
    rw [← closed]
  · rw [empty]
    rfl

/-- The slot of an answer is freed, and nothing waits for it. -/
theorem message_eq_some {ports : Ports} {index : Nat} {settlement : Settlement}
    (empty : pool.queue = [])
    (answers : pool.message ports index = some (next, settlement)) :
    ∃ slot taskId task, pool.slots[index]? = some slot ∧ slot.current = some (taskId, task) ∧
      slot.running = true ∧ settlement = .resolved (ports.scoreBatch task.inputs) ∧
      next = { pool with
        slots := pool.slots.set index { slot with busy := false, current := none } } := by
  unfold message at answers
  split at answers
  · cases answers
  · rename_i slot found
    split at answers
    · cases answers
    · rename_i taskId task current
      split at answers
      · rename_i running
        have dispatched : dispatch { pool with
            slots := pool.slots.set index { slot with busy := false, current := none } } =
            { pool with
              slots := pool.slots.set index { slot with busy := false, current := none } } :=
          dispatch_of_empty empty
        rw [dispatched] at answers
        cases answers
        exact ⟨slot, taskId, task, found, current, running, rfl, rfl⟩
      · cases answers

/-- The thread at work answers with the scores of its batch, and the pool is free again. -/
theorem idle_of_message {ports : Ports} {index : Nat} {settlement : Settlement}
    (serves : pool.Serves inputs)
    (answers : pool.message ports index = some (next, settlement)) :
    settlement = .resolved (ports.scoreBatch inputs) ∧ next.Idle := by
  obtain ⟨slot, taskId, task, found, current, _, rfl, rfl⟩ := message_eq_some serves.queue answers
  obtain ⟨serving, servingId, foundServing, others⟩ := serves.slot
  have same : index = serving := by
    by_contra different
    rw [(not_busy_of_isIdle (others index slot different found)).2] at current
    cases current
  subst same
  rw [foundServing] at found
  cases found
  cases current
  refine ⟨rfl, serves.queue, fun slot member => ?_⟩
  obtain ⟨other, isAt⟩ := List.mem_iff_getElem?.mp member
  rw [List.getElem?_set] at isAt
  split at isAt
  · split at isAt <;> cases isAt
    rfl
  · rename_i different
    exact others other slot (Ne.symm different) isAt

/-- The thread at work can answer. -/
theorem exists_message (ports : Ports) (serves : pool.Serves inputs) :
    ∃ index next settlement, pool.message ports index = some (next, settlement) := by
  obtain ⟨index, taskId, found, _⟩ := serves.slot
  refine ⟨index, ?_⟩
  unfold message
  rw [found]
  exact ⟨_, _, rfl⟩

theorem healthy_of_message {ports : Ports} {index : Nat} {settlement : Settlement}
    (healthy : pool.Healthy) (empty : pool.queue = [])
    (answers : pool.message ports index = some (next, settlement)) : next.Healthy := by
  obtain ⟨slot, taskId, task, found, current, running, _, rfl⟩ := message_eq_some empty answers
  refine ⟨?_, fun isOpen other member => ?_⟩
  · simpa using healthy.notEmpty
  · rcases List.mem_or_eq_of_mem_set member with before | rfl
    · exact healthy.running isOpen other before
    · exact running

/-- A free pool has no answer. -/
theorem message_of_idle (ports : Ports) (idle : pool.Idle) (index : Nat) :
    pool.message ports index = none := by
  unfold message
  cases found : pool.slots[index]? with
  | none => rfl
  | some slot =>
    simp only
    rw [(not_busy_of_isIdle (idle.getElem? found)).2]

/-- The slot of a thread that exits keeps its task. -/
theorem exit_eq_some {index : Nat} (exits : pool.exit index = some next) :
    ∃ slot, pool.slots[index]? = some slot ∧ pool.shuttingDown = true ∧
      next = { pool with slots := pool.slots.set index { slot with running := false } } := by
  unfold exit at exits
  split at exits
  · cases exits
  · rename_i slot found
    split at exits
    · rename_i closing
      cases exits
      exact ⟨slot, found, (Bool.and_eq_true_iff.mp closing).1, rfl⟩
    · cases exits

theorem healthy_of_exit {index : Nat} (healthy : pool.Healthy)
    (exits : pool.exit index = some next) : next.Healthy := by
  obtain ⟨slot, found, closed, rfl⟩ := exit_eq_some exits
  exact ⟨by simpa using healthy.notEmpty, fun isOpen => by cases closed.symm.trans isOpen⟩

theorem idle_of_exit {index : Nat} (idle : pool.Idle) (exits : pool.exit index = some next) :
    next.Idle := by
  obtain ⟨slot, found, _, rfl⟩ := exit_eq_some exits
  refine ⟨idle.queue, fun other member => ?_⟩
  rcases List.mem_or_eq_of_mem_set member with before | rfl
  · exact idle.slots other before
  · show isIdle slot = true
    exact idle.getElem? found

/-- The batch is still served when a free thread exits. -/
theorem serves_of_exit {index : Nat} (serves : pool.Serves inputs)
    (free : ∀ slot, pool.slots[index]? = some slot → slot.current = none)
    (exits : pool.exit index = some next) : next.Serves inputs := by
  obtain ⟨slot, found, _, rfl⟩ := exit_eq_some exits
  obtain ⟨serving, taskId, foundServing, others⟩ := serves.slot
  have different : index ≠ serving := by
    rintro rfl
    cases free _ foundServing
  refine ⟨serves.queue, serving, taskId, ?_, fun other otherSlot notServing isAt => ?_⟩
  · rw [List.getElem?_set_ne different]
    exact foundServing
  · rw [List.getElem?_set] at isAt
    split at isAt
    · rename_i same
      subst same
      split at isAt <;> cases isAt
      exact others index slot notServing found
    · exact others other otherSlot notServing isAt

/-- When the thread at work exits, nobody answers any more. -/
theorem message_of_exit (ports : Ports) {index : Nat} {slot : WorkerSlot}
    (serves : pool.Serves inputs) (found : pool.slots[index]? = some slot)
    (busy : slot.current ≠ none) (exits : pool.exit index = some next) (other : Nat) :
    next.message ports other = none := by
  obtain ⟨exited, foundExited, _, nextIs⟩ := exit_eq_some exits
  cases found.symm.trans foundExited
  have empty : next.queue = [] := by
    rw [nextIs]
    exact serves.queue
  obtain ⟨serving, taskId, _, others⟩ := serves.slot
  have same : index = serving := by
    by_contra different
    exact busy (not_busy_of_isIdle (others index slot different found)).2
  subst same
  cases answers : next.message ports other with
  | none => rfl
  | some result =>
    obtain ⟨answering, _, task, isAt, current, running, _⟩ := message_eq_some empty answers
    rw [nextIs, List.getElem?_set] at isAt
    split at isAt
    · split at isAt <;> cases isAt
      cases running
    · rename_i different
      rw [(not_busy_of_isIdle (others other answering (Ne.symm different) isAt)).2] at current
      cases current

end

end WorkerThreadPool

end ImportService
