/-
This file models the whole of `WorkerThreadPool`, with threads that fail and are replaced.
A thread and its slot are one object: the handlers of a thread keep to their slot when it is
no longer in the pool, so an event of a dead thread can still come. Everything a thread has
been sent it may answer at any time and more than once, or never.

Promises are numbered in the order of the calls of `scoreBatch`. Each call of `resolve` or
`reject` is recorded, as a promise takes no notice of a second one.
-/

import ImportService.Lib.Ledger
import ImportService.Lib.Transition
import ImportService.ThreadPool

namespace ImportService.ScoringPool

open ProcessImportFile

/-! ### The pool and its handlers -/

/-- A task, with the promise that its `resolve` and `reject` belong to. -/
structure PendingTask where
  promise : Nat
  inputs : List ScoringInput

/-- A slot with its thread: what was posted to the thread, and whether its `exit` event has
been delivered. -/
structure WorkerSlot where
  busy : Bool
  current : Option (Nat × PendingTask)
  posted : List (Nat × List ScoringInput)
  exited : Bool

/-- `slot` maps every slot there ever was, numbered as they were spawned; `slots` are the ones
in the pool. `terminating` are the threads that `shutdown` has told to terminate, and
`stopped` says that it has resolved. -/
structure Pool where
  slot : Nat → WorkerSlot
  spawned : Nat
  slots : List Nat
  queue : List PendingTask
  nextTaskId : Nat
  shuttingDown : Bool
  terminating : List Nat
  stopped : Bool
  promises : List (List ScoringInput)
  settled : List (Nat × Settlement)

/-- A thread that has just been started. -/
def freshSlot : WorkerSlot where
  busy := false
  current := none
  posted := []
  exited := false

/-- A pool without threads. -/
def Pool.empty : Pool where
  slot := fun _ => freshSlot
  spawned := 0
  slots := []
  queue := []
  nextTaskId := 0
  shuttingDown := false
  terminating := []
  stopped := false
  promises := []
  settled := []

/-- The slot of a thread is changed. -/
def setSlot (thread : Nat) (slot : WorkerSlot) (pool : Pool) : Pool :=
  { pool with slot := Function.update pool.slot thread slot }

/-- A call of the `resolve` or `reject` of a promise. -/
def settle (promise : Nat) (settlement : Settlement) (pool : Pool) : Pool :=
  { pool with settled := pool.settled ++ [(promise, settlement)] }

/-- The new slot, and the pool that knows of it. -/
def spawnSlot (pool : Pool) : Nat × Pool :=
  (pool.spawned, setSlot pool.spawned freshSlot { pool with spawned := pool.spawned + 1 })

/-- `poolSize` threads are started one after the other. -/
def onModuleInit : Nat → Pool
  | 0 => Pool.empty
  | poolSize + 1 =>
      let (thread, pool) := spawnSlot (onModuleInit poolSize)
      { pool with slots := pool.slots ++ [thread] }

/-- A free slot takes the first task of the queue. -/
def assign (thread : Nat) (task : PendingTask) (waiting : List PendingTask) (pool : Pool) : Pool :=
  let slot := pool.slot thread
  setSlot thread
    { slot with
      busy := true
      current := some (pool.nextTaskId, task)
      posted := slot.posted ++ [(pool.nextTaskId, task.inputs)] }
    { pool with queue := waiting, nextTaskId := pool.nextTaskId + 1 }

/-- The loop of `dispatch` over the slots. -/
def dispatchTo : List Nat → Pool → Pool
  | [], pool => pool
  | thread :: rest, pool =>
      if (pool.slot thread).busy then dispatchTo rest pool
      else
        match pool.queue with
        | [] => pool
        | task :: waiting => dispatchTo rest (assign thread task waiting pool)

/-- Waiting tasks are handed to free threads, unless the pool shuts down. -/
def dispatch (pool : Pool) : Pool :=
  if pool.shuttingDown then pool else dispatchTo pool.slots pool

/-- The promise of the call is settled at once in a pool that shuts down, and for no inputs. -/
def scoreBatch (inputs : List ScoringInput) (pool : Pool) : Pool :=
  let promise := pool.promises.length
  let pool := { pool with promises := pool.promises ++ [inputs] }
  if pool.shuttingDown then
    settle promise (.rejected (JsString.ofString "Risk scoring pool is shutting down.")) pool
  else if inputs.isEmpty then settle promise (.resolved []) pool
  else dispatch { pool with queue := pool.queue ++ [⟨promise, inputs⟩] }

/-- `shutdown` up to the `await` of the terminations. -/
def shutdown (pool : Pool) : Pool :=
  if pool.shuttingDown then pool
  else
    { pool with
      shuttingDown := true
      queue := []
      settled := pool.settled ++ pool.queue.map fun task =>
        (task.promise,
          .rejected (JsString.ofString "Risk scoring pool shut down before task ran."))
      terminating := pool.slots }

/-- The rest of `shutdown`. -/
def terminated (pool : Pool) : Pool := { pool with slots := [], stopped := true }

/-- The slot is free for another task. -/
def freeSlot (thread : Nat) (pool : Pool) : Pool :=
  setSlot thread { pool.slot thread with busy := false, current := none } pool

/-- The handler of `message`; another task than the current one is not answered. -/
def message (thread taskId : Nat) (reply : Settlement) (pool : Pool) : Pool :=
  match (pool.slot thread).current with
  | none => pool
  | some (currentId, task) =>
      if currentId = taskId then dispatch (settle task.promise reply (freeSlot thread pool))
      else pool

/-- The thread in a slot that has exited is replaced, and the new one gets a task. -/
def replaceSlot (dead : Nat) (pool : Pool) : Pool :=
  if pool.shuttingDown then pool
  else
    match pool.slots.idxOf? dead with
    | none => pool
    | some index =>
        let (thread, pool) := spawnSlot pool
        dispatch { pool with slots := pool.slots.set index thread }

/-- The current task of a slot is rejected, and the slot is free. -/
def rejectCurrent (thread : Nat) (error : JsString) (pool : Pool) : Pool :=
  match (pool.slot thread).current with
  | none => freeSlot thread pool
  | some (_, task) => freeSlot thread (settle task.promise (.rejected error) pool)

/-- The handler of `error`. -/
def error (thread : Nat) (error : JsString) (pool : Pool) : Pool :=
  replaceSlot thread (rejectCurrent thread error pool)

/-- The handler of `exit`. -/
def exit (thread : Nat) (code : Int) (pool : Pool) : Pool :=
  let pool := setSlot thread { pool.slot thread with exited := true } pool
  if pool.shuttingDown || code == 0 then pool
  else
    replaceSlot thread (rejectCurrent thread
      (JsString.ofString ("Scoring worker exited unexpectedly with code " ++ toString code ++ "."))
      pool)

/-! ### Events -/

/-- What a thread posts for a task it was sent: the scores, or the text of an error. -/
def answer (ports : Ports) (inputs : List ScoringInput) : Option JsString → Settlement
  | none => .resolved (ports.scoreBatch inputs)
  | some error => .rejected error

/-- `message` is the answer of a thread to a task, with `failure` if scoring threw;
`terminated` is the moment at which `shutdown` resolves. -/
inductive Event
  | scoreBatch (inputs : List ScoringInput)
  | message (thread taskId : Nat) (failure : Option JsString)
  | error (thread : Nat) (error : JsString)
  | exit (thread : Nat) (code : Int)
  | shutdown
  | terminated

/-- A call of the pool, a message or an event of a thread, or the shutdown. -/
def step (ports : Ports) (pool : Pool) : Event → Option Pool
  | .scoreBatch inputs => some (scoreBatch inputs pool)
  | .message thread taskId failure =>
      ((pool.slot thread).posted.lookup taskId).map fun inputs =>
        message thread taskId (answer ports inputs failure) pool
  | .error thread text => if thread < pool.spawned then some (error thread text pool) else none
  | .exit thread code => if thread < pool.spawned then some (exit thread code pool) else none
  | .shutdown => some (shutdown pool)
  | .terminated => if pool.shuttingDown then some (terminated pool) else none

/-! ### The books of the pool -/

/-- The promise of the task a thread is to answer. -/
def running (pool : Pool) (thread : Nat) : Option Nat :=
  (pool.slot thread).current.map fun current => current.2.promise

/-- Every promise is in one place of the pool, every task has the inputs of its promise, and the
current task of a slot was posted to its thread under its number. -/
structure Consistent (ports : Ports) (pool : Pool) : Prop where
  accounted : Ledger.Accounted (pool.queue.map PendingTask.promise)
    (Ledger.inHand (running pool) (List.range pool.spawned)) (pool.settled.map Prod.fst)
    (List.range pool.promises.length)
  busy : ∀ thread, (pool.slot thread).busy = (pool.slot thread).current.isSome
  unspawned : ∀ thread, pool.spawned ≤ thread → pool.slot thread = freshSlot
  queued : ∀ task ∈ pool.queue, pool.promises[task.promise]? = some task.inputs
  current : ∀ thread taskId task, (pool.slot thread).current = some (taskId, task) →
    pool.promises[task.promise]? = some task.inputs ∧
      (pool.slot thread).posted.lookup taskId = some task.inputs
  posted : ∀ thread taskId inputs, (taskId, inputs) ∈ (pool.slot thread).posted →
    taskId < pool.nextTaskId
  resolved : ∀ promise results, (promise, .resolved results) ∈ pool.settled →
    ∃ inputs, pool.promises[promise]? = some inputs ∧ results = ports.scoreBatch inputs

section

variable {ports : Ports} {pool : Pool} {thread : Nat}

theorem slot_setSlot (slot : WorkerSlot) :
    (setSlot thread slot pool).slot = Function.update pool.slot thread slot := rfl

theorem slot_setSlot_self (slot : WorkerSlot) : (setSlot thread slot pool).slot thread = slot := by
  rw [slot_setSlot, Function.update_self]

theorem slot_setSlot_of_ne {other : Nat} (different : other ≠ thread) (slot : WorkerSlot) :
    (setSlot thread slot pool).slot other = pool.slot other := by
  rw [slot_setSlot, Function.update_of_ne different]

theorem running_setSlot (slot : WorkerSlot) :
    running (setSlot thread slot pool) = Function.update (running pool) thread
      (slot.current.map fun current => current.2.promise) := by
  funext other
  by_cases same : other = thread
  · subst same
    rw [running, slot_setSlot_self, Function.update_self]
  · rw [running, slot_setSlot_of_ne same, Function.update_of_ne same, running]

theorem Consistent.spawned_of_current (consistent : Consistent ports pool) {taskId : Nat}
    {task : PendingTask} (current : (pool.slot thread).current = some (taskId, task)) :
    thread < pool.spawned := by
  by_contra notSpawned
  rw [consistent.unspawned thread (Nat.le_of_not_lt notSpawned)] at current
  cases current

/-- The books say nothing of which slots are in the pool and of its end. -/
theorem Consistent.of_eq (consistent : Consistent ports pool) (slots terminating : List Nat)
    (shuttingDown stopped : Bool) :
    Consistent ports { pool with slots, terminating, shuttingDown, stopped } where
  accounted := consistent.accounted
  busy := consistent.busy
  unspawned := consistent.unspawned
  queued := consistent.queued
  current := consistent.current
  posted := consistent.posted
  resolved := consistent.resolved

theorem lookup_snoc_self {posted : List (Nat × List ScoringInput)} {taskId : Nat}
    (isNew : ∀ inputs, (taskId, inputs) ∉ posted) (inputs : List ScoringInput) :
    (posted ++ [(taskId, inputs)]).lookup taskId = some inputs := by
  have missing : posted.lookup taskId = none := by
    refine List.lookup_eq_none_iff.mpr fun message isPosted => ?_
    rw [bne_iff_ne]
    rintro rfl
    exact isNew message.2 isPosted
  rw [List.lookup_append, missing, Option.none_or, List.lookup_cons_self]

theorem consistent_assign (consistent : Consistent ports pool) (spawned : thread < pool.spawned)
    (free : (pool.slot thread).busy = false) {task : PendingTask} {waiting : List PendingTask}
    (queue : pool.queue = task :: waiting) :
    Consistent ports (assign thread task waiting pool) := by
  have noTask : (pool.slot thread).current = none := by
    rw [consistent.busy] at free
    exact Option.not_isSome_iff_eq_none.mp (Bool.eq_false_iff.mp free)
  have slotIs (other : Nat) : (assign thread task waiting pool).slot other =
      if other = thread then
        { pool.slot thread with
          busy := true
          current := some (pool.nextTaskId, task)
          posted := (pool.slot thread).posted ++ [(pool.nextTaskId, task.inputs)] }
      else pool.slot other := by
    rw [assign, slot_setSlot, Function.update_apply]
  exact
    { accounted := by
        have books := consistent.accounted
        rw [queue, List.map_cons] at books
        refine books.start ?_
        rw [assign, running_setSlot]
        refine Ledger.inHand_update_some List.nodup_range (List.mem_range.mpr spawned) ?_
        rw [running, noTask]
        rfl
      busy := by
        intro other
        rw [slotIs]
        split
        · rfl
        · exact consistent.busy other
      unspawned := by
        intro other notSpawned
        have notSpawned : pool.spawned ≤ other := notSpawned
        rw [slotIs, if_neg (by omega)]
        exact consistent.unspawned other notSpawned
      queued := fun other member => consistent.queued other (queue ▸ List.mem_cons_of_mem _ member)
      current := by
        intro other taskId otherTask current
        rw [slotIs] at current ⊢
        split at current
        · rename_i same
          cases current
          refine ⟨consistent.queued task (queue ▸ List.mem_cons_self), ?_⟩
          rw [if_pos same]
          refine lookup_snoc_self (fun inputs isPosted => ?_) task.inputs
          exact Nat.lt_irrefl _ (consistent.posted thread _ inputs isPosted)
        · rename_i different
          rw [if_neg different]
          exact consistent.current other taskId otherTask current
      posted := by
        intro other taskId inputs isPosted
        show taskId < pool.nextTaskId + 1
        rw [slotIs] at isPosted
        split at isPosted
        · rcases List.mem_append.mp isPosted with before | isNew
          · exact Nat.lt_succ_of_lt (consistent.posted thread taskId inputs before)
          · cases List.mem_singleton.mp isNew
            exact Nat.lt_succ_self _
        · exact Nat.lt_succ_of_lt (consistent.posted other taskId inputs isPosted)
      resolved := consistent.resolved }

theorem consistent_dispatchTo {threads : List Nat} (consistent : Consistent ports pool)
    (spawned : ∀ thread ∈ threads, thread < pool.spawned) :
    Consistent ports (dispatchTo threads pool) := by
  induction threads generalizing pool with
  | nil => exact consistent
  | cons thread rest inductionHypothesis =>
    have spawnedRest := fun other member => spawned other (List.mem_cons_of_mem thread member)
    rw [dispatchTo]
    split
    · exact inductionHypothesis consistent spawnedRest
    · rename_i free
      split
      · exact consistent
      · rename_i task waiting queue
        exact inductionHypothesis (consistent_assign consistent (spawned thread List.mem_cons_self)
          (Bool.eq_false_iff.mpr free) queue) spawnedRest

theorem consistent_dispatch (consistent : Consistent ports pool)
    (spawned : pool.shuttingDown = false → ∀ thread ∈ pool.slots, thread < pool.spawned) :
    Consistent ports (dispatch pool) := by
  rw [dispatch]
  split
  · exact consistent
  · rename_i isOpen
    exact consistent_dispatchTo consistent (spawned (Bool.eq_false_iff.mpr isOpen))

/-- A slot without a task is free already. -/
theorem freeSlot_eq_self (consistent : Consistent ports pool)
    (noTask : (pool.slot thread).current = none) : freeSlot thread pool = pool := by
  have notBusy : (pool.slot thread).busy = false := by
    rw [consistent.busy, noTask]
    rfl
  have same : { pool.slot thread with busy := false, current := none } = pool.slot thread := by
    rw [← notBusy, ← noTask]
  rw [freeSlot, same, setSlot, Function.update_eq_self]

/-- The current task of a slot is settled, with the scores of its own inputs if it is resolved. -/
theorem consistent_finish (consistent : Consistent ports pool) {taskId : Nat} {task : PendingTask}
    (current : (pool.slot thread).current = some (taskId, task)) {settlement : Settlement}
    (own : ∀ results, settlement = .resolved results → results = ports.scoreBatch task.inputs) :
    Consistent ports (settle task.promise settlement (freeSlot thread pool)) := by
  have spawned := consistent.spawned_of_current current
  have slotIs (other : Nat) : (freeSlot thread pool).slot other =
      if other = thread then { pool.slot thread with busy := false, current := none }
      else pool.slot other := by
    rw [freeSlot, slot_setSlot, Function.update_apply]
  exact
    { accounted := by
        rw [settle, List.map_append]
        refine consistent.accounted.finish ?_
        show (Ledger.inHand (running pool) _).Perm
          (task.promise :: Ledger.inHand (running (freeSlot thread pool)) _)
        rw [freeSlot, running_setSlot]
        refine Ledger.inHand_update_none List.nodup_range (List.mem_range.mpr spawned) ?_
        rw [running, current]
        rfl
      busy := by
        intro other
        show ((freeSlot thread pool).slot other).busy = _
        rw [settle, slotIs]
        split
        · rfl
        · exact consistent.busy other
      unspawned := by
        intro other notSpawned
        have notSpawned : pool.spawned ≤ other := notSpawned
        show (freeSlot thread pool).slot other = freshSlot
        rw [slotIs, if_neg (by omega)]
        exact consistent.unspawned other notSpawned
      queued := consistent.queued
      current := by
        intro other otherId otherTask isCurrent
        rw [settle, slotIs] at isCurrent ⊢
        split at isCurrent
        · cases isCurrent
        · rename_i different
          rw [if_neg different]
          exact consistent.current other otherId otherTask isCurrent
      posted := by
        intro other otherId inputs isPosted
        rw [settle, slotIs] at isPosted
        split at isPosted
        · exact consistent.posted thread otherId inputs isPosted
        · exact consistent.posted other otherId inputs isPosted
      resolved := by
        intro promise results isSettled
        rcases List.mem_append.mp isSettled with before | isNew
        · exact consistent.resolved promise results before
        · cases List.mem_singleton.mp isNew
          exact ⟨task.inputs, (consistent.current thread taskId task current).1,
            own results rfl⟩ }

theorem consistent_rejectCurrent (consistent : Consistent ports pool) (thread : Nat)
    (text : JsString) :
    Consistent ports (rejectCurrent thread text pool) := by
  rw [rejectCurrent]
  split
  · rename_i noTask
    rw [freeSlot_eq_self consistent noTask]
    exact consistent
  · rename_i taskId task current
    exact consistent_finish consistent current fun results isResolved => by cases isResolved

theorem consistent_spawnSlot (consistent : Consistent ports pool) :
    Consistent ports (spawnSlot pool).2 := by
  have slotIs : (spawnSlot pool).2.slot = pool.slot := by
    rw [spawnSlot, slot_setSlot, ← consistent.unspawned pool.spawned (Nat.le_refl _),
      Function.update_eq_self]
  have runningIs : running (spawnSlot pool).2 = running pool := by
    funext other
    rw [running, running, slotIs]
  exact
    { accounted := by
        have notRunning : running pool pool.spawned = none := by
          rw [running, consistent.unspawned pool.spawned (Nat.le_refl _)]
          rfl
        rw [runningIs]
        show Ledger.Accounted _ (Ledger.inHand (running pool) (List.range (pool.spawned + 1))) _ _
        rw [Ledger.inHand, List.range_succ, List.filterMap_append,
          List.filterMap_cons_none notRunning, List.filterMap_nil, List.append_nil]
        exact consistent.accounted
      busy := fun other => by
        rw [slotIs]
        exact consistent.busy other
      unspawned := fun other notSpawned => by
        rw [slotIs]
        exact consistent.unspawned other (Nat.le_of_succ_le notSpawned)
      queued := consistent.queued
      current := fun other => by
        rw [slotIs]
        exact consistent.current other
      posted := fun other => by
        rw [slotIs]
        exact consistent.posted other
      resolved := consistent.resolved }

theorem consistent_setExited (consistent : Consistent ports pool)
    (spawned : thread < pool.spawned) :
    Consistent ports (setSlot thread { pool.slot thread with exited := true } pool) := by
  have slotIs (other : Nat) :
      (setSlot thread { pool.slot thread with exited := true } pool).slot other =
        if other = thread then { pool.slot thread with exited := true } else pool.slot other := by
    rw [slot_setSlot, Function.update_apply]
  have runningIs :
      running (setSlot thread { pool.slot thread with exited := true } pool) = running pool := by
    rw [running_setSlot]
    exact Function.update_eq_self thread (running pool)
  exact
    { accounted := by
        rw [runningIs]
        exact consistent.accounted
      busy := by
        intro other
        rw [slotIs]
        split
        · exact consistent.busy thread
        · exact consistent.busy other
      unspawned := by
        intro other notSpawned
        have notSpawned : pool.spawned ≤ other := notSpawned
        rw [slotIs, if_neg (by omega)]
        exact consistent.unspawned other notSpawned
      queued := consistent.queued
      current := by
        intro other taskId task current
        rw [slotIs] at current ⊢
        split at current
        · rename_i same
          rw [if_pos same]
          exact consistent.current thread taskId task current
        · rename_i different
          rw [if_neg different]
          exact consistent.current other taskId task current
      posted := by
        intro other taskId inputs isPosted
        rw [slotIs] at isPosted
        split at isPosted
        · exact consistent.posted thread taskId inputs isPosted
        · exact consistent.posted other taskId inputs isPosted
      resolved := consistent.resolved }

theorem getElem?_snoc_of_some {promises : List (List ScoringInput)} {promise : Nat}
    {inputs : List ScoringInput} (found : promises[promise]? = some inputs)
    (next : List ScoringInput) : (promises ++ [next])[promise]? = some inputs := by
  obtain ⟨inRange, _⟩ := List.getElem?_eq_some_iff.mp found
  rw [List.getElem?_append_left inRange, found]

/-- A new promise that is settled at once. -/
theorem consistent_submitDone (consistent : Consistent ports pool) {inputs : List ScoringInput}
    {settlement : Settlement}
    (own : ∀ results, settlement = .resolved results → results = ports.scoreBatch inputs) :
    Consistent ports (settle pool.promises.length settlement
      { pool with promises := pool.promises ++ [inputs] }) where
  accounted := by
    show Ledger.Accounted (pool.queue.map PendingTask.promise)
      (Ledger.inHand (running pool) (List.range pool.spawned))
      ((pool.settled ++ [(pool.promises.length, settlement)]).map Prod.fst)
      (List.range (pool.promises ++ [inputs]).length)
    rw [List.map_append, List.length_append, List.length_singleton, List.range_succ]
    exact consistent.accounted.submitDone pool.promises.length
  busy := consistent.busy
  unspawned := consistent.unspawned
  queued := fun task member => getElem?_snoc_of_some (consistent.queued task member) inputs
  current := fun other taskId task current =>
    have before := consistent.current other taskId task current
    ⟨getElem?_snoc_of_some before.1 inputs, before.2⟩
  posted := consistent.posted
  resolved := by
    intro promise results isSettled
    rcases List.mem_append.mp isSettled with before | isNew
    · obtain ⟨given, found, scores⟩ := consistent.resolved promise results before
      exact ⟨given, getElem?_snoc_of_some found inputs, scores⟩
    · cases List.mem_singleton.mp isNew
      exact ⟨inputs, List.getElem?_concat_length, own results rfl⟩

/-- A new promise whose task waits. -/
theorem consistent_submit (consistent : Consistent ports pool) (inputs : List ScoringInput) :
    Consistent ports
      { pool with
        promises := pool.promises ++ [inputs]
        queue := pool.queue ++ [⟨pool.promises.length, inputs⟩] } where
  accounted := by
    show Ledger.Accounted
      ((pool.queue ++ [PendingTask.mk pool.promises.length inputs]).map PendingTask.promise)
      (Ledger.inHand (running pool) (List.range pool.spawned)) (pool.settled.map Prod.fst)
      (List.range (pool.promises ++ [inputs]).length)
    rw [List.map_append, List.length_append, List.length_singleton, List.range_succ]
    exact consistent.accounted.submit pool.promises.length
  busy := consistent.busy
  unspawned := consistent.unspawned
  queued := by
    intro task member
    rcases List.mem_append.mp member with before | isNew
    · exact getElem?_snoc_of_some (consistent.queued task before) inputs
    · cases List.mem_singleton.mp isNew
      exact List.getElem?_concat_length
  current := fun other taskId task current =>
    have before := consistent.current other taskId task current
    ⟨getElem?_snoc_of_some before.1 inputs, before.2⟩
  posted := consistent.posted
  resolved := fun promise results isSettled =>
    have ⟨given, found, scores⟩ := consistent.resolved promise results isSettled
    ⟨given, getElem?_snoc_of_some found inputs, scores⟩

theorem consistent_shutdown (consistent : Consistent ports pool) :
    Consistent ports (shutdown pool) := by
  rw [shutdown]
  split
  · exact consistent
  · exact
      { accounted := by
          have books := consistent.accounted.abandon
          rw [List.map_append, List.map_map]
          exact books
        busy := consistent.busy
        unspawned := consistent.unspawned
        queued := fun task member => absurd member List.not_mem_nil
        current := consistent.current
        posted := consistent.posted
        resolved := by
          intro promise results isSettled
          rcases List.mem_append.mp isSettled with before | rejected
          · exact consistent.resolved promise results before
          · obtain ⟨task, _, isRejected⟩ := List.mem_map.mp rejected
            cases isRejected }

/-! ### The slots of an open pool -/

/-- There are `poolSize` slots in the pool, and no other slot has a task. -/
structure Staffed (poolSize : Nat) (pool : Pool) : Prop where
  size : pool.slots.length = poolSize
  distinct : pool.slots.Nodup
  spawned : ∀ thread ∈ pool.slots, thread < pool.spawned
  retired : ∀ thread, thread ∉ pool.slots → (pool.slot thread).current = none

/-- No slot is idle while a task waits. -/
def NoneIdle (pool : Pool) : Prop :=
  pool.queue ≠ [] → ∀ thread ∈ pool.slots, (pool.slot thread).busy = true

/-- What the loop of `dispatch` over some slots leaves as it was, and what it has done. -/
structure Dispatched (threads : List Nat) (pool next : Pool) : Prop where
  slots : next.slots = pool.slots
  spawned : next.spawned = pool.spawned
  shuttingDown : next.shuttingDown = pool.shuttingDown
  others : ∀ thread, thread ∉ threads → next.slot thread = pool.slot thread
  busy : ∀ thread, (pool.slot thread).busy = true → next.slot thread = pool.slot thread
  exited : ∀ thread, (next.slot thread).exited = (pool.slot thread).exited
  noneIdle : next.queue ≠ [] → ∀ thread ∈ threads, (next.slot thread).busy = true

theorem dispatched_dispatchTo (threads : List Nat) (pool : Pool) :
    Dispatched threads pool (dispatchTo threads pool) := by
  induction threads generalizing pool with
  | nil =>
    exact
      { slots := rfl
        spawned := rfl
        shuttingDown := rfl
        others := fun _ _ => rfl
        busy := fun _ _ => rfl
        exited := fun _ => rfl
        noneIdle := fun _ _ member => absurd member List.not_mem_nil }
  | cons thread rest inductionHypothesis =>
    rw [dispatchTo]
    split
    · rename_i isBusy
      have later := inductionHypothesis pool
      exact
        { later with
          others := fun other notMember =>
            later.others other fun member => notMember (List.mem_cons_of_mem thread member)
          noneIdle := by
            intro waits other member
            rcases List.mem_cons.mp member with rfl | inRest
            · rw [later.busy other isBusy]
              exact isBusy
            · exact later.noneIdle waits other inRest }
    · rename_i free
      split
      · rename_i queue
        exact
          { slots := rfl
            spawned := rfl
            shuttingDown := rfl
            others := fun _ _ => rfl
            busy := fun _ _ => rfl
            exited := fun _ => rfl
            noneIdle := fun waits => absurd queue waits }
      · rename_i task waiting queue
        have later := inductionHypothesis (assign thread task waiting pool)
        have slotIs (other : Nat) (different : other ≠ thread) :
            (assign thread task waiting pool).slot other = pool.slot other :=
          slot_setSlot_of_ne different _
        exact
          { slots := later.slots
            spawned := later.spawned
            shuttingDown := later.shuttingDown
            others := by
              intro other notMember
              rw [List.mem_cons, not_or] at notMember
              rw [later.others other notMember.2, slotIs other notMember.1]
            busy := by
              intro other isBusy
              have different : other ≠ thread := by
                rintro rfl
                exact free isBusy
              rw [later.busy other (by rw [slotIs other different]; exact isBusy),
                slotIs other different]
            exited := by
              intro other
              rw [later.exited]
              by_cases same : other = thread
              · subst same
                rw [assign, slot_setSlot_self]
              · rw [slotIs other same]
            noneIdle := by
              intro waits other member
              rcases List.mem_cons.mp member with rfl | inRest
              · have assigned : ((assign other task waiting pool).slot other).busy = true := by
                  rw [assign, slot_setSlot_self]
                rw [later.busy other assigned]
                exact assigned
              · exact later.noneIdle waits other inRest }

theorem dispatched_dispatch (isOpen : pool.shuttingDown = false) :
    Dispatched pool.slots pool (dispatch pool) := by
  rw [dispatch, if_neg (Bool.eq_false_iff.mp isOpen)]
  exact dispatched_dispatchTo pool.slots pool

variable {poolSize : Nat}

theorem staffed_dispatch (isOpen : pool.shuttingDown = false) (staffed : Staffed poolSize pool) :
    Staffed poolSize (dispatch pool) ∧ NoneIdle (dispatch pool) := by
  have dispatched := dispatched_dispatch isOpen
  refine ⟨?_, ?_⟩
  · exact
      { size := by rw [dispatched.slots, staffed.size]
        distinct := by
          rw [dispatched.slots]
          exact staffed.distinct
        spawned := by
          rw [dispatched.slots, dispatched.spawned]
          exact staffed.spawned
        retired := by
          intro thread notInPool
          rw [dispatched.slots] at notInPool
          rw [dispatched.others thread notInPool]
          exact staffed.retired thread notInPool }
  · rw [NoneIdle, dispatched.slots]
    exact dispatched.noneIdle

theorem slot_freeSlot (other : Nat) :
    (freeSlot thread pool).slot other =
      if other = thread then { pool.slot thread with busy := false, current := none }
      else pool.slot other := by
  rw [freeSlot, slot_setSlot, Function.update_apply]

theorem staffed_freeSlot (staffed : Staffed poolSize pool) :
    Staffed poolSize (freeSlot thread pool) where
  size := staffed.size
  distinct := staffed.distinct
  spawned := staffed.spawned
  retired := by
    intro other notInPool
    rw [slot_freeSlot]
    split
    · rfl
    · exact staffed.retired other notInPool

theorem slot_spawnSlot (consistent : Consistent ports pool) :
    (spawnSlot pool).2.slot = pool.slot := by
  rw [spawnSlot, slot_setSlot, ← consistent.unspawned pool.spawned (Nat.le_refl _),
    Function.update_eq_self]

/-- A slot without a task is replaced by a new one. -/
theorem staffed_replace (consistent : Consistent ports pool) (staffed : Staffed poolSize pool)
    {dead index : Nat} (isAt : pool.slots[index]? = some dead)
    (noTask : (pool.slot dead).current = none) :
    Staffed poolSize { (spawnSlot pool).2 with slots := pool.slots.set index pool.spawned } where
  size := by
    rw [List.length_set]
    exact staffed.size
  distinct := by
    refine staffed.distinct.set fun isThere => ?_
    exact Nat.lt_irrefl _ (staffed.spawned pool.spawned isThere)
  spawned := by
    intro thread member
    show thread < pool.spawned + 1
    rcases List.mem_or_eq_of_mem_set member with before | rfl
    · exact Nat.lt_succ_of_lt (staffed.spawned thread before)
    · exact Nat.lt_succ_self _
  retired := by
    intro thread notInPool
    show ((spawnSlot pool).2.slot thread).current = none
    rw [slot_spawnSlot consistent]
    by_cases isDead : thread = dead
    · rw [isDead]
      exact noTask
    · refine staffed.retired thread fun inPool => notInPool ?_
      obtain ⟨place, isThere⟩ := List.mem_iff_getElem?.mp inPool
      have elsewhere : index ≠ place := by
        rintro rfl
        exact isDead (Option.some.inj (isThere.symm.trans isAt))
      exact List.mem_of_getElem? ((List.getElem?_set_ne elsewhere).trans isThere)

/-- The invariant of a pool: its books are in order, and while it is open it has all its slots
and none of them is idle while a task waits. -/
structure Sound (ports : Ports) (poolSize : Nat) (pool : Pool) : Prop where
  consistent : Consistent ports pool
  staffed : pool.shuttingDown = false → Staffed poolSize pool
  noneIdle : pool.shuttingDown = false → NoneIdle pool

/-- `dispatch` makes a pool sound whose books and slots are in order. -/
theorem sound_dispatch (consistent : Consistent ports pool)
    (staffed : pool.shuttingDown = false → Staffed poolSize pool) :
    Sound ports poolSize (dispatch pool) := by
  have consistent := consistent_dispatch consistent fun isOpen => (staffed isOpen).spawned
  cases closing : pool.shuttingDown with
  | true =>
    have same : dispatch pool = pool := if_pos closing
    rw [same] at consistent ⊢
    have notOpen : pool.shuttingDown ≠ false := ne_false_of_eq_true closing
    exact ⟨consistent, fun isOpen => absurd isOpen notOpen, fun isOpen => absurd isOpen notOpen⟩
  | false =>
    have dispatched := staffed_dispatch closing (staffed closing)
    exact ⟨consistent, fun _ => dispatched.1, fun _ => dispatched.2⟩

theorem Sound.of_closing (consistent : Consistent ports pool)
    (closing : pool.shuttingDown = true) : Sound ports poolSize pool where
  consistent := consistent
  staffed := fun isOpen => absurd isOpen (ne_false_of_eq_true closing)
  noneIdle := fun isOpen => absurd isOpen (ne_false_of_eq_true closing)

theorem Staffed.of_same {next : Pool} (staffed : Staffed poolSize pool)
    (slots : next.slots = pool.slots) (spawned : next.spawned = pool.spawned)
    (slot : next.slot = pool.slot) : Staffed poolSize next where
  size := slots ▸ staffed.size
  distinct := slots ▸ staffed.distinct
  spawned := slots ▸ spawned ▸ staffed.spawned
  retired := slots ▸ slot ▸ staffed.retired

theorem sound_scoreBatch (sound : Sound ports poolSize pool) (inputs : List ScoringInput) :
    Sound ports poolSize (scoreBatch inputs pool) := by
  rw [scoreBatch]
  simp only
  split
  · rename_i closing
    refine Sound.of_closing (consistent_submitDone sound.consistent fun results isResolved => ?_)
      closing
    cases isResolved
  · split
    · rename_i empty
      have noInputs : inputs = [] := List.isEmpty_iff.mp empty
      refine ⟨consistent_submitDone sound.consistent fun results isResolved => ?_,
        fun isOpen => (sound.staffed isOpen).of_same rfl rfl rfl, sound.noneIdle⟩
      cases isResolved
      rw [noInputs]
      rfl
    · exact sound_dispatch (consistent_submit sound.consistent inputs)
        fun isOpen => (sound.staffed isOpen).of_same rfl rfl rfl

/-- A thread answers with the scores of what it was sent, or an error. -/
theorem sound_message (sound : Sound ports poolSize pool) {taskId : Nat}
    {inputs : List ScoringInput} (posted : (pool.slot thread).posted.lookup taskId = some inputs)
    (failure : Option JsString) :
    Sound ports poolSize (message thread taskId (answer ports inputs failure) pool) := by
  rw [message]
  split
  · exact sound
  · rename_i currentId task current
    split
    · rename_i same
      subst same
      have sameInputs : inputs = task.inputs := Option.some.inj
        (posted.symm.trans (sound.consistent.current thread currentId task current).2)
      refine sound_dispatch
        (consistent_finish sound.consistent current fun results isResolved => ?_)
        fun isOpen => (staffed_freeSlot (sound.staffed isOpen)).of_same rfl rfl rfl
      cases failure with
      | none =>
        cases isResolved
        rw [sameInputs]
      | some text => cases isResolved
    · exact sound

theorem slot_rejectCurrent (text : JsString) (other : Nat) :
    (rejectCurrent thread text pool).slot other =
      if other = thread then { pool.slot thread with busy := false, current := none }
      else pool.slot other := by
  rw [rejectCurrent]
  split
  · exact slot_freeSlot other
  · exact slot_freeSlot other

theorem rejectCurrent_frame (thread : Nat) (text : JsString) (pool : Pool) :
    (rejectCurrent thread text pool).slots = pool.slots ∧
      (rejectCurrent thread text pool).spawned = pool.spawned ∧
      (rejectCurrent thread text pool).shuttingDown = pool.shuttingDown ∧
      (rejectCurrent thread text pool).queue = pool.queue := by
  rw [rejectCurrent]
  split
  · exact ⟨rfl, rfl, rfl, rfl⟩
  · exact ⟨rfl, rfl, rfl, rfl⟩

/-- A thread that fails loses its task, and its slot is replaced if it is in the pool. -/
theorem sound_replaceSlot (sound : Sound ports poolSize pool) (text : JsString) :
    Sound ports poolSize (replaceSlot thread (rejectCurrent thread text pool)) := by
  obtain ⟨sameSlots, sameSpawned, sameClosing, sameQueue⟩ :=
    rejectCurrent_frame thread text pool
  have consistent := consistent_rejectCurrent sound.consistent thread text
  rw [replaceSlot]
  split
  · rename_i closing
    exact Sound.of_closing consistent closing
  · rename_i notClosing
    have isOpen : pool.shuttingDown = false := by
      rw [← sameClosing]
      exact Bool.eq_false_iff.mpr notClosing
    have before := sound.staffed isOpen
    have staffed : Staffed poolSize (rejectCurrent thread text pool) :=
      { size := sameSlots ▸ before.size
        distinct := sameSlots ▸ before.distinct
        spawned := sameSlots ▸ sameSpawned ▸ before.spawned
        retired := by
          intro other notInPool
          rw [sameSlots] at notInPool
          rw [slot_rejectCurrent]
          split
          · rfl
          · exact before.retired other notInPool }
    split
    · rename_i notFound
      have notInPool : thread ∉ pool.slots := by
        rw [sameSlots] at notFound
        exact List.idxOf?_eq_none_iff.mp notFound
      refine ⟨consistent, fun _ => staffed, fun _ => ?_⟩
      intro waits other inPool
      rw [sameSlots] at inPool
      rw [sameQueue] at waits
      have different : other ≠ thread := by
        rintro rfl
        exact notInPool inPool
      rw [slot_rejectCurrent, if_neg different]
      exact sound.noneIdle isOpen waits other inPool
    · rename_i index found
      obtain ⟨inRange, isAt, _⟩ := List.idxOf?_eq_some_iff.mp found
      have noTask : ((rejectCurrent thread text pool).slot thread).current = none := by
        rw [slot_rejectCurrent, if_pos rfl]
      exact sound_dispatch ((consistent_spawnSlot consistent).of_eq _ _ _ _)
        fun _ => staffed_replace consistent staffed (List.getElem?_eq_some_iff.mpr ⟨inRange, isAt⟩)
          noTask

/-- The books take no notice of which threads have exited. -/
theorem sound_setExited (sound : Sound ports poolSize pool) (spawned : thread < pool.spawned) :
    Sound ports poolSize (setSlot thread { pool.slot thread with exited := true } pool) := by
  have slotIs (other : Nat) :
      (setSlot thread { pool.slot thread with exited := true } pool).slot other =
        { pool.slot other with
          exited := if other = thread then true else (pool.slot other).exited } := by
    by_cases same : other = thread
    · subst same
      rw [slot_setSlot_self, if_pos rfl]
    · rw [slot_setSlot_of_ne same, if_neg same]
  exact
    { consistent := consistent_setExited sound.consistent spawned
      staffed := fun isOpen =>
        have before := sound.staffed isOpen
        { size := before.size
          distinct := before.distinct
          spawned := before.spawned
          retired := fun other notInPool => by
            rw [slotIs]
            exact before.retired other notInPool }
      noneIdle := fun isOpen waits other inPool => by
        rw [slotIs]
        exact sound.noneIdle isOpen waits other inPool }

theorem sound_exit (sound : Sound ports poolSize pool) (spawned : thread < pool.spawned)
    (code : Int) : Sound ports poolSize (exit thread code pool) := by
  have marked := sound_setExited sound spawned
  rw [exit]
  simp only
  split
  · exact marked
  · exact sound_replaceSlot marked _

theorem sound_step (sound : Sound ports poolSize pool) {event : Event} {next : Pool}
    (steps : step ports pool event = some next) : Sound ports poolSize next := by
  cases event with
  | scoreBatch inputs =>
    cases steps
    exact sound_scoreBatch sound inputs
  | message thread taskId failure =>
    obtain ⟨inputs, posted, rfl⟩ := Option.map_eq_some_iff.mp steps
    exact sound_message sound posted failure
  | error thread text =>
    rw [step, Option.ite_none_right_eq_some] at steps
    cases steps.2
    exact sound_replaceSlot sound text
  | exit thread code =>
    rw [step, Option.ite_none_right_eq_some] at steps
    cases steps.2
    exact sound_exit sound steps.1 code
  | shutdown =>
    cases steps
    refine Sound.of_closing (consistent_shutdown sound.consistent) ?_
    rw [shutdown]
    split
    · assumption
    · rfl
  | terminated =>
    rw [step, Option.ite_none_right_eq_some] at steps
    cases steps.2
    exact Sound.of_closing (sound.consistent.of_eq [] _ _ true) steps.1

end

/-! ### The start -/

theorem onModuleInit_eq (poolSize : Nat) :
    onModuleInit poolSize =
      { Pool.empty with spawned := poolSize, slots := List.range poolSize } := by
  induction poolSize with
  | zero => rfl
  | succ poolSize inductionHypothesis =>
    have allFresh : Function.update Pool.empty.slot poolSize freshSlot = Pool.empty.slot :=
      Function.update_eq_self poolSize Pool.empty.slot
    rw [onModuleInit, inductionHypothesis, spawnSlot, setSlot, List.range_succ]
    simp only [allFresh]

theorem sound_onModuleInit (ports : Ports) (poolSize : Nat) :
    Sound ports poolSize (onModuleInit poolSize) := by
  have noTasks : Ledger.inHand (running (onModuleInit poolSize)) (List.range poolSize) = [] := by
    rw [onModuleInit_eq, Ledger.inHand_eq_nil_iff]
    exact fun _ _ => rfl
  have consistent : Consistent ports (onModuleInit poolSize) :=
    { accounted := by
        have books : Ledger.Accounted [] (Ledger.inHand (running (onModuleInit poolSize))
            (List.range poolSize)) [] [] := by
          rw [noTasks]
          exact Ledger.accounted_nil
        rw [onModuleInit_eq] at books ⊢
        exact books
      busy := fun _ => by rw [onModuleInit_eq]; rfl
      unspawned := fun _ _ => by rw [onModuleInit_eq]; rfl
      queued := fun task member => by
        rw [onModuleInit_eq] at member
        cases member
      current := fun _ _ _ current => by
        rw [onModuleInit_eq] at current
        cases current
      posted := fun _ _ _ isPosted => by
        rw [onModuleInit_eq] at isPosted
        cases isPosted
      resolved := fun _ _ isSettled => by
        rw [onModuleInit_eq] at isSettled
        cases isSettled }
  refine ⟨consistent, fun _ => ?_, fun _ waits => ?_⟩
  · rw [onModuleInit_eq]
    exact
      { size := List.length_range
        distinct := List.nodup_range
        spawned := fun thread member => List.mem_range.mp member
        retired := fun _ _ => rfl }
  · rw [onModuleInit_eq] at waits
    exact absurd rfl waits

/-! ### The calls of a schedule -/

/-- The batch of an event that is a call of `scoreBatch`. -/
def Event.batch? : Event → Option (List ScoringInput)
  | .scoreBatch inputs => some inputs
  | _ => none

/-- The batches that a schedule submits, in the order of the calls. -/
def submitted (schedule : List Event) : List (List ScoringInput) :=
  schedule.filterMap Event.batch?

section

variable {ports : Ports} {pool next : Pool} {thread : Nat}

theorem promises_dispatchTo (threads : List Nat) (pool : Pool) :
    (dispatchTo threads pool).promises = pool.promises := by
  induction threads generalizing pool with
  | nil => rfl
  | cons thread rest inductionHypothesis =>
    rw [dispatchTo]
    split
    · exact inductionHypothesis pool
    · split
      · rfl
      · exact inductionHypothesis _

theorem promises_dispatch (pool : Pool) : (dispatch pool).promises = pool.promises := by
  rw [dispatch]
  split
  · rfl
  · exact promises_dispatchTo pool.slots pool

theorem promises_scoreBatch (inputs : List ScoringInput) (pool : Pool) :
    (scoreBatch inputs pool).promises = pool.promises ++ [inputs] := by
  simp only [scoreBatch]
  split
  · rfl
  · split
    · rfl
    · exact promises_dispatch _

theorem promises_message (taskId : Nat) (reply : Settlement) :
    (message thread taskId reply pool).promises = pool.promises := by
  rw [message]
  split
  · rfl
  · split
    · exact promises_dispatch _
    · rfl

theorem promises_replaceSlot (pool : Pool) :
    (replaceSlot thread pool).promises = pool.promises := by
  rw [replaceSlot]
  split
  · rfl
  · split
    · rfl
    · exact promises_dispatch _

theorem promises_rejectCurrent (text : JsString) :
    (rejectCurrent thread text pool).promises = pool.promises := by
  rw [rejectCurrent]
  split
  · rfl
  · rfl

theorem promises_error (text : JsString) : (error thread text pool).promises = pool.promises := by
  rw [error, promises_replaceSlot, promises_rejectCurrent]

theorem promises_exit (code : Int) : (exit thread code pool).promises = pool.promises := by
  simp only [exit]
  split
  · rfl
  · rw [promises_replaceSlot, promises_rejectCurrent]
    rfl

/-- A call of `scoreBatch` makes a promise, and nothing else does. -/
theorem promises_step {event : Event} (steps : step ports pool event = some next) :
    next.promises = pool.promises ++ event.batch?.toList := by
  cases event with
  | scoreBatch inputs =>
    cases steps
    exact promises_scoreBatch inputs pool
  | message thread taskId failure =>
    obtain ⟨inputs, _, rfl⟩ := Option.map_eq_some_iff.mp steps
    exact (promises_message taskId _).trans (List.append_nil _).symm
  | error thread text =>
    rw [step, Option.ite_none_right_eq_some] at steps
    cases steps.2
    exact (promises_error text).trans (List.append_nil _).symm
  | exit thread code =>
    rw [step, Option.ite_none_right_eq_some] at steps
    cases steps.2
    exact (promises_exit code).trans (List.append_nil _).symm
  | shutdown =>
    cases steps
    rw [shutdown]
    split
    · exact (List.append_nil _).symm
    · exact (List.append_nil _).symm
  | terminated =>
    rw [step, Option.ite_none_right_eq_some] at steps
    cases steps.2
    exact (List.append_nil _).symm

theorem promises_run {poolSize : Nat} {schedule : List Event}
    (reaches : Transition.run (step ports) (onModuleInit poolSize) schedule = some pool) :
    pool.promises = submitted schedule :=
  Transition.run_invariant reaches (fun earlier pool => pool.promises = submitted earlier)
    (by rw [onModuleInit_eq]; rfl) fun earlier pool event next known steps => by
      rw [promises_step steps, known, submitted, submitted, List.filterMap_append]
      cases event <;> rfl

end

/-! ### No task lost or repeated -/

/-- The promises of the tasks in the queue and in the slots of the pool, and of the tasks that
are settled. -/
def places (pool : Pool) : List Nat :=
  pool.queue.map PendingTask.promise ++ Ledger.inHand (running pool) pool.slots ++
    pool.settled.map Prod.fst

/-- What is asked of an open pool to which `batches` have been submitted, the first of them with
the promise 0. -/
structure KeepsTasks (ports : Ports) (poolSize : Nat) (batches : List (List ScoringInput))
    (pool : Pool) : Prop where
  once : ∀ promise < batches.length, (places pool).count promise = 1
  known : ∀ promise ∈ places pool, promise < batches.length
  queued : ∀ task ∈ pool.queue, batches[task.promise]? = some task.inputs
  current : ∀ thread ∈ pool.slots, ∀ taskId task,
    (pool.slot thread).current = some (taskId, task) → batches[task.promise]? = some task.inputs
  settledOnce : (pool.settled.map Prod.fst).Nodup
  ownReply : ∀ promise results, (promise, .resolved results) ∈ pool.settled →
    ∃ inputs, batches[promise]? = some inputs ∧ results = ports.scoreBatch inputs
  size : pool.slots.length = poolSize
  busy : ∀ thread ∈ pool.slots,
    ((pool.slot thread).busy = true ↔ ∃ current, (pool.slot thread).current = some current)
  noneIdle : pool.queue ≠ [] → ∀ thread ∈ pool.slots, (pool.slot thread).busy = true

theorem Sound.keepsTasks {ports : Ports} {poolSize : Nat} {pool : Pool}
    (sound : Sound ports poolSize pool) (isOpen : pool.shuttingDown = false) :
    KeepsTasks ports poolSize pool.promises pool := by
  have consistent := sound.consistent
  have staffed := sound.staffed isOpen
  have inPool : (Ledger.inHand (running pool) (List.range pool.spawned)).Perm
      (Ledger.inHand (running pool) pool.slots) := by
    refine Ledger.inHand_perm_of_subset staffed.distinct List.nodup_range
      (fun thread member => List.mem_range.mpr (staffed.spawned thread member))
      fun thread _ notInPool => ?_
    rw [running, staffed.retired thread notInPool]
    rfl
  have accounted : Ledger.Accounted (pool.queue.map PendingTask.promise)
      (Ledger.inHand (running pool) pool.slots) (pool.settled.map Prod.fst)
      (List.range pool.promises.length) :=
    ((inPool.symm.append_left _).append_right _).trans consistent.accounted
  exact
    { once := fun promise isPromise =>
        accounted.count_eq_one List.nodup_range (List.mem_range.mpr isPromise)
      known := fun promise member => List.mem_range.mp (accounted.mem_iff.mp member)
      queued := consistent.queued
      current := fun thread _ taskId task current =>
        (consistent.current thread taskId task current).1
      settledOnce := accounted.done_nodup List.nodup_range
      ownReply := consistent.resolved
      size := staffed.size
      busy := fun thread _ => by
        rw [consistent.busy, Option.isSome_iff_exists]
      noneIdle := sound.noneIdle isOpen }

/-- Whatever happens to a pool of any size after its start, in any order: as long as it does not
shut down, every batch that has been submitted is in one place of the pool or has been settled
once. -/
theorem pool_keepsTasks (ports : Ports) (poolSize : Nat) (schedule : List Event) (pool : Pool)
    (reaches : Transition.run (step ports) (onModuleInit poolSize) schedule = some pool)
    (isOpen : pool.shuttingDown = false) :
    KeepsTasks ports poolSize (submitted schedule) pool := by
  have sound : Sound ports poolSize pool :=
    Transition.Reachable.invariant ⟨schedule, reaches⟩ (Sound ports poolSize)
      (sound_onModuleInit ports poolSize) fun _ _ _ sound steps => sound_step sound steps
  rw [← promises_run reaches]
  exact sound.keepsTasks isOpen

/-- Threads whose score of a transaction is its amount. -/
def amountPorts : Ports where
  runtime :=
    { dateParse := fun _ => none, numberToString := fun _ => [], syntaxErrorMessage := id,
      sha256 := id }
  readLines := fun _ => []
  countLines := fun _ => 0
  computeRiskScore := fun transaction _ => (transaction.amount, .LOW)

/-- An input with a given amount. -/
def inputOf (amount : Rat) : ScoringInput where
  transaction :=
    { provider := [], transactionId := [], accountId := [], merchantId := [], amount,
      currency := [], timestamp := 0, description := none }
  fingerprint := []

/-- Three batches for two threads, of which the first fails with its batch and exits, and a late
answer of it. -/
def failedThread : List Event :=
  [.scoreBatch [inputOf 1], .scoreBatch [inputOf 2], .scoreBatch [inputOf 3, inputOf 4],
    .error 0 [], .exit 0 1, .message 1 1 none, .message 0 0 none]

/-- The third batch is with the thread that has come for the first one. -/
theorem pool_keepsTasks_failedThread :
    ∃ pool, Transition.run (step amountPorts) (onModuleInit 2) failedThread = some pool ∧
      pool.slots = [2, 1] ∧ running pool 2 = some 2 ∧
      pool.settled = [(0, .rejected []), (1, .resolved [⟨2, .LOW, []⟩])] ∧
      KeepsTasks amountPorts 2 [[inputOf 1], [inputOf 2], [inputOf 3, inputOf 4]] pool :=
  ⟨_, rfl, rfl, rfl, rfl, pool_keepsTasks amountPorts 2 failedThread _ rfl rfl⟩

end ImportService.ScoringPool
