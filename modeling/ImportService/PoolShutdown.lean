/-
This file asks whether a shutdown of the scoring pool leaves a caller without an answer.

`shutdown` rejects the tasks of the queue. A task that a thread works on is left to the
handlers of the thread, and the handler of `exit` returns early while the pool shuts down, as
it does for the code 0. The task of a thread that exits so is never settled (`Stranded`): the
thread says nothing more, and `dispatch` passes over its slot, which stays busy. A pool strands
no task exactly when no step of its run is one that does (`Strands`), and after a shutdown all
promises are settled exactly when no task is stranded.
-/

import ImportService.ScoringPool
import ImportService.System

namespace ImportService.ScoringPool

/-! ### Threads that have exited -/

/-- The thread that an event comes from. -/
def source : Event → Option Nat
  | .message thread _ _ => some thread
  | .error thread _ => some thread
  | .exit thread _ => some thread
  | _ => none

/-- The `exit` event of a thread is its last one. -/
def nodeStep (ports : Ports) (pool : Pool) (event : Event) : Option Pool :=
  if ∀ thread ∈ source event, (pool.slot thread).exited = false then step ports pool event
  else none

/-- The thread has exited with a task that is not settled. -/
def Stranded (pool : Pool) (thread : Nat) : Prop :=
  (pool.slot thread).exited = true ∧ (pool.slot thread).current ≠ none

/-- No thread has a task that it will never answer. -/
def NoneStranded (pool : Pool) : Prop := ∀ thread, ¬Stranded pool thread

/-- The slot that the next task goes to. -/
def firstIdle (pool : Pool) : Option Nat :=
  pool.slots.find? fun thread => !(pool.slot thread).busy

/-- An event that strands a task: a thread with a task exits and its handler returns early, or a
new task goes to a thread that has exited. -/
def Strands (pool : Pool) : Event → Prop
  | .exit thread code =>
      (pool.shuttingDown = true ∨ code = 0) ∧ (pool.slot thread).current ≠ none
  | .scoreBatch inputs =>
      pool.shuttingDown = false ∧ inputs ≠ [] ∧
        ∃ thread, firstIdle pool = some thread ∧ (pool.slot thread).exited = true
  | _ => False

section

variable {ports : Ports} {pool next : Pool} {thread : Nat} {poolSize : Nat}

theorem nodeStep_eq_some_iff {event : Event} :
    nodeStep ports pool event = some next ↔
      (∀ thread, source event = some thread → (pool.slot thread).exited = false) ∧
        step ports pool event = some next :=
  Option.ite_none_right_eq_some

/-! ### What `dispatch` does to exited threads -/

theorem dispatchTo_of_queue_nil (threads : List Nat) (queue : pool.queue = []) :
    dispatchTo threads pool = pool := by
  induction threads with
  | nil => rfl
  | cons thread rest inductionHypothesis =>
    simp only [dispatchTo, queue, inductionHypothesis, ite_self]

theorem dispatch_of_queue_nil (queue : pool.queue = []) : dispatch pool = pool := by
  simp only [dispatch, dispatchTo_of_queue_nil pool.slots queue, ite_self]

/-- The only task of the queue goes to the first idle slot. -/
theorem dispatchTo_of_queue_singleton (threads : List Nat) {task : PendingTask}
    (queue : pool.queue = [task]) :
    dispatchTo threads pool =
      match threads.find? fun thread => !(pool.slot thread).busy with
      | none => pool
      | some thread => assign thread task [] pool := by
  induction threads with
  | nil => rfl
  | cons thread rest inductionHypothesis =>
    have nothingLeft : dispatchTo rest (assign thread task [] pool) = assign thread task [] pool :=
      dispatchTo_of_queue_nil rest rfl
    cases isBusy : (pool.slot thread).busy <;>
      simp only [dispatchTo, isBusy, queue, nothingLeft, inductionHypothesis, List.find?_cons,
        Bool.not_true, Bool.not_false, if_true, if_false, Bool.false_eq_true]

theorem slot_dispatch_of_busy (isBusy : (pool.slot thread).busy = true) :
    (dispatch pool).slot thread = pool.slot thread := by
  cases closing : pool.shuttingDown with
  | true => rw [dispatch, if_pos closing]
  | false => exact (dispatched_dispatch closing).busy thread isBusy

/-- Nothing is stranded by a `dispatch` whose idle slots have live threads. -/
theorem noneStranded_dispatch (noneStranded : NoneStranded pool)
    (live : pool.shuttingDown = false → pool.queue ≠ [] → ∀ thread ∈ pool.slots,
      (pool.slot thread).busy = false → (pool.slot thread).exited = false) :
    NoneStranded (dispatch pool) := by
  cases closing : pool.shuttingDown with
  | true =>
    rw [dispatch, if_pos closing]
    exact noneStranded
  | false =>
    by_cases queue : pool.queue = []
    · rw [dispatch_of_queue_nil queue]
      exact noneStranded
    · have dispatched := dispatched_dispatch closing
      intro thread stranded
      have hasExited : (pool.slot thread).exited = true := by
        rw [← dispatched.exited]
        exact stranded.1
      have same : (dispatch pool).slot thread = pool.slot thread := by
        by_cases inPool : thread ∈ pool.slots
        · refine dispatched.busy thread (Bool.of_not_eq_false fun idle => ?_)
          exact Bool.false_ne_true ((live closing queue thread inPool idle).symm.trans hasExited)
        · exact dispatched.others thread inPool
      rw [Stranded, same] at stranded
      exact noneStranded thread stranded

/-! ### Stranded tasks stay stranded -/

theorem slot_replaceSlot_of_busy (consistent : Consistent ports pool) (dead : Nat)
    (isBusy : (pool.slot thread).busy = true) :
    (replaceSlot dead pool).slot thread = pool.slot thread := by
  have spawned := slot_spawnSlot consistent
  rw [replaceSlot]
  split
  · rfl
  · split
    · rfl
    · refine (slot_dispatch_of_busy ?_).trans (congrFun spawned thread)
      exact (congrArg WorkerSlot.busy (congrFun spawned thread)).trans isBusy

theorem slot_rejectCurrent_of_ne {other : Nat} (different : other ≠ thread) (text : JsString) :
    (rejectCurrent thread text pool).slot other = pool.slot other := by
  rw [slot_rejectCurrent, if_neg different]

theorem slot_fail_of_busy (consistent : Consistent ports pool) {sender : Nat}
    (different : thread ≠ sender) (text : JsString) (isBusy : (pool.slot thread).busy = true) :
    (replaceSlot sender (rejectCurrent sender text pool)).slot thread = pool.slot thread := by
  have kept : (rejectCurrent sender text pool).slot thread = pool.slot thread :=
    slot_rejectCurrent_of_ne different text
  exact (slot_replaceSlot_of_busy (consistent_rejectCurrent consistent sender text) sender
    ((congrArg WorkerSlot.busy kept).trans isBusy)).trans kept

/-- A step of another thread leaves a busy slot as it is. -/
theorem slot_step_of_busy (sound : Sound ports poolSize pool) {event : Event}
    (steps : step ports pool event = some next) (other : source event ≠ some thread)
    (isBusy : (pool.slot thread).busy = true) : next.slot thread = pool.slot thread := by
  cases event with
  | scoreBatch inputs =>
    cases steps
    rw [scoreBatch]
    simp only
    split
    · rfl
    · split
      · rfl
      · exact slot_dispatch_of_busy isBusy
  | message sender taskId failure =>
    obtain ⟨inputs, _, rfl⟩ := Option.map_eq_some_iff.mp steps
    have different : thread ≠ sender := fun same => other (congrArg some same.symm)
    rw [message]
    split
    · rfl
    · split
      · have kept : (freeSlot sender pool).slot thread = pool.slot thread :=
          slot_setSlot_of_ne different _
        refine (slot_dispatch_of_busy ?_).trans kept
        exact (congrArg WorkerSlot.busy kept).trans isBusy
      · rfl
  | error sender text =>
    obtain ⟨_, ⟨⟩⟩ := Option.ite_none_right_eq_some.mp steps
    have different : thread ≠ sender := fun same => other (congrArg some same.symm)
    exact slot_fail_of_busy sound.consistent different text isBusy
  | exit sender code =>
    obtain ⟨spawned, ⟨⟩⟩ := Option.ite_none_right_eq_some.mp steps
    have different : thread ≠ sender := fun same => other (congrArg some same.symm)
    have marked := consistent_setExited sound.consistent spawned
    have keptMark : (setSlot sender { pool.slot sender with exited := true } pool).slot thread =
        pool.slot thread := slot_setSlot_of_ne different _
    rw [exit]
    simp only
    split
    · exact keptMark
    · exact (slot_fail_of_busy marked different _
        ((congrArg WorkerSlot.busy keptMark).trans isBusy)).trans keptMark
  | shutdown =>
    cases steps
    rw [shutdown]
    split
    · rfl
    · rfl
  | terminated =>
    obtain ⟨_, ⟨⟩⟩ := Option.ite_none_right_eq_some.mp steps
    rfl

theorem stranded_step (sound : Sound ports poolSize pool) {event : Event}
    (steps : nodeStep ports pool event = some next) (stranded : Stranded pool thread) :
    Stranded next thread := by
  obtain ⟨fromLive, steps⟩ := nodeStep_eq_some_iff.mp steps
  have other : source event ≠ some thread := fun same =>
    Bool.false_ne_true ((fromLive thread same).symm.trans stranded.1)
  have isBusy : (pool.slot thread).busy = true := by
    rw [sound.consistent.busy, Option.isSome_iff_ne_none]
    exact stranded.2
  rw [Stranded, slot_step_of_busy sound steps other isBusy]
  exact stranded

/-! ### The steps that strand a task -/

theorem NoneStranded.of_slot (noneStranded : NoneStranded pool)
    (same : next.slot = pool.slot) : NoneStranded next := by
  intro thread
  rw [Stranded, same]
  exact noneStranded thread

theorem noneStranded_freeSlot (others : ∀ other, other ≠ thread → ¬Stranded pool other) :
    NoneStranded (freeSlot thread pool) := by
  intro other
  rw [Stranded, slot_freeSlot]
  split
  · exact fun stranded => stranded.2 rfl
  · rename_i different
    exact others other different

theorem noneStranded_rejectCurrent (others : ∀ other, other ≠ thread → ¬Stranded pool other)
    (text : JsString) : NoneStranded (rejectCurrent thread text pool) := by
  rw [rejectCurrent]
  split
  · exact noneStranded_freeSlot others
  · exact (noneStranded_freeSlot others).of_slot rfl

theorem mem_set_of_nodup {slots : List Nat} (distinct : slots.Nodup) {index dead new other : Nat}
    (isAt : slots[index]? = some dead) (member : other ∈ slots.set index new) :
    other = new ∨ (other ∈ slots ∧ other ≠ dead) := by
  obtain ⟨place, isThere⟩ := List.mem_iff_getElem?.mp member
  by_cases same : index = place
  · subst same
    rw [List.getElem?_set_self (List.getElem?_eq_some_iff.mp isAt).1] at isThere
    exact .inl (Option.some.inj isThere).symm
  · rw [List.getElem?_set_ne same] at isThere
    refine .inr ⟨List.mem_of_getElem? isThere, fun isDead => same ?_⟩
    subst isDead
    exact (List.getElem?_inj (List.getElem?_eq_some_iff.mp isAt).1 distinct).mp
      (isAt.trans isThere.symm)

/-- The slot of a thread that failed is replaced by one with a live thread, and while a task
waits the other slots are busy. -/
theorem noneStranded_replaceSlot (sound : Sound ports poolSize pool)
    (others : ∀ other, other ≠ thread → ¬Stranded pool other) (text : JsString) :
    NoneStranded (replaceSlot thread (rejectCurrent thread text pool)) := by
  obtain ⟨sameSlots, sameSpawned, sameClosing, sameQueue⟩ := rejectCurrent_frame thread text pool
  have consistent := consistent_rejectCurrent sound.consistent thread text
  have rejected := noneStranded_rejectCurrent others text
  have spawnedSlots := slot_spawnSlot consistent
  rw [replaceSlot]
  split
  · exact rejected
  · rename_i notClosing
    have isOpen : pool.shuttingDown = false := by
      rw [← sameClosing]
      exact Bool.eq_false_iff.mpr notClosing
    split
    · exact rejected
    · rename_i index found
      obtain ⟨inRange, isAt, _⟩ := List.idxOf?_eq_some_iff.mp found
      refine noneStranded_dispatch (rejected.of_slot spawnedSlots)
        fun _ waits other inPool idle => ?_
      have waits : pool.queue ≠ [] := sameQueue ▸ waits
      have slotIs : (spawnSlot (rejectCurrent thread text pool)).2.slot other =
          (rejectCurrent thread text pool).slot other := congrFun spawnedSlots other
      have distinct : (rejectCurrent thread text pool).slots.Nodup :=
        sameSlots ▸ (sound.staffed isOpen).distinct
      rcases mem_set_of_nodup distinct (List.getElem?_eq_some_iff.mpr ⟨inRange, isAt⟩) inPool with
        rfl | ⟨before, different⟩
      · refine (congrArg WorkerSlot.exited slotIs).trans ?_
        exact congrArg WorkerSlot.exited (consistent.unspawned _ (Nat.le_refl _))
      · have isBusy : (pool.slot other).busy = true :=
          sound.noneIdle isOpen waits other (sameSlots ▸ before)
        have kept := slotIs.trans (slot_rejectCurrent_of_ne different text)
        exact absurd ((congrArg WorkerSlot.busy kept).symm.trans idle)
          (ne_false_of_eq_true isBusy)

theorem noneStranded_message (sound : Sound ports poolSize pool)
    (noneStranded : NoneStranded pool) (live : (pool.slot thread).exited = false) (taskId : Nat)
    (reply : Settlement) : NoneStranded (message thread taskId reply pool) := by
  rw [message]
  split
  · exact noneStranded
  · split
    · rename_i currentId task current same
      have freed : NoneStranded (settle task.promise reply (freeSlot thread pool)) :=
        (noneStranded_freeSlot fun other _ => noneStranded other).of_slot rfl
      refine noneStranded_dispatch freed fun isOpen waits other inPool idle => ?_
      show ((freeSlot thread pool).slot other).exited = false
      have idle : ((freeSlot thread pool).slot other).busy = false := idle
      rw [slot_freeSlot] at idle ⊢
      split
      · exact live
      · rename_i different
        rw [if_neg different] at idle
        exact absurd idle (ne_false_of_eq_true (sound.noneIdle isOpen waits other inPool))
    · exact noneStranded

/-- The only task of the queue is stranded if it goes to a thread that has exited. -/
theorem noneStranded_dispatch_singleton_iff (noneStranded : NoneStranded pool)
    (isOpen : pool.shuttingDown = false) {task : PendingTask} (queue : pool.queue = [task]) :
    NoneStranded (dispatch pool) ↔
      ∀ thread, firstIdle pool = some thread → (pool.slot thread).exited = false := by
  rw [dispatch, if_neg (Bool.eq_false_iff.mp isOpen),
    dispatchTo_of_queue_singleton pool.slots queue, ← firstIdle]
  split
  · rename_i allBusy
    refine iff_of_true noneStranded fun thread isFirst => ?_
    rw [allBusy] at isFirst
    exact absurd isFirst.symm (Option.some_ne_none thread)
  · rename_i first isFirst
    constructor
    · intro noneStranded thread alsoFirst
      rw [isFirst, Option.some.injEq] at alsoFirst
      subst alsoFirst
      refine Bool.eq_false_iff.mpr fun hasExited => noneStranded first ?_
      rw [Stranded, assign, slot_setSlot_self]
      exact ⟨hasExited, Option.some_ne_none _⟩
    · intro live other stranded
      rw [Stranded, assign, slot_setSlot, Function.update_apply] at stranded
      split at stranded
      · exact Bool.false_ne_true ((live first isFirst).symm.trans stranded.1)
      · exact noneStranded other stranded

/-- A new task goes to the first idle slot, if there is one. -/
theorem noneStranded_scoreBatch_iff (sound : Sound ports poolSize pool)
    (noneStranded : NoneStranded pool) (inputs : List ScoringInput) :
    NoneStranded (scoreBatch inputs pool) ↔ ¬Strands pool (.scoreBatch inputs) := by
  rw [scoreBatch]
  simp only
  split
  · rename_i closing
    exact iff_of_true (noneStranded.of_slot rfl)
      fun strands => Bool.false_ne_true (strands.1.symm.trans closing)
  · rename_i notClosing
    have isOpen : pool.shuttingDown = false := Bool.eq_false_iff.mpr notClosing
    split
    · rename_i empty
      exact iff_of_true (noneStranded.of_slot rfl)
        fun strands => strands.2.1 (List.isEmpty_iff.mp empty)
    · rename_i notEmpty
      have notEmpty : inputs ≠ [] := fun empty => notEmpty (List.isEmpty_iff.mpr empty)
      by_cases queue : pool.queue = []
      · have single : pool.queue ++ [PendingTask.mk pool.promises.length inputs] =
            [⟨pool.promises.length, inputs⟩] := by
          rw [queue, List.nil_append]
        have submitted : NoneStranded
            { pool with
              promises := pool.promises ++ [inputs]
              queue := pool.queue ++ [⟨pool.promises.length, inputs⟩] } :=
          noneStranded.of_slot rfl
        refine (noneStranded_dispatch_singleton_iff submitted isOpen single).trans ?_
        simp only [Strands, isOpen, notEmpty, ne_eq, not_false_eq_true, true_and, not_exists,
          not_and, Bool.not_eq_true]
        exact Iff.rfl
      · have allBusy := sound.noneIdle isOpen queue
        refine iff_of_true (noneStranded_dispatch (noneStranded.of_slot rfl)
          fun _ _ other inPool idle => absurd idle (ne_false_of_eq_true (allBusy other inPool))) ?_
        rintro ⟨_, _, thread, isFirst, _⟩
        have idle := List.find?_some isFirst
        rw [allBusy thread (List.mem_of_find?_eq_some isFirst)] at idle
        exact Bool.false_ne_true idle

/-- A thread with a task exits and its handler returns early, or its slot is replaced. -/
theorem noneStranded_exit_iff (sound : Sound ports poolSize pool)
    (noneStranded : NoneStranded pool) (spawned : thread < pool.spawned) (code : Int) :
    NoneStranded (exit thread code pool) ↔ ¬Strands pool (.exit thread code) := by
  have markedSound := sound_setExited sound spawned
  have markedIs (other : Nat) :
      (setSlot thread { pool.slot thread with exited := true } pool).slot other =
        if other = thread then { pool.slot thread with exited := true } else pool.slot other := by
    rw [slot_setSlot, Function.update_apply]
  have others (other : Nat) (different : other ≠ thread) :
      ¬Stranded (setSlot thread { pool.slot thread with exited := true } pool) other := by
    rw [Stranded, markedIs, if_neg different]
    exact noneStranded other
  rw [exit]
  simp only
  split
  · rename_i returnsEarly
    have early : pool.shuttingDown = true ∨ code = 0 := by
      rw [Bool.or_eq_true, beq_iff_eq] at returnsEarly
      exact returnsEarly
    constructor
    · intro noneStranded strands
      refine noneStranded thread ?_
      rw [Stranded, markedIs, if_pos rfl]
      exact ⟨rfl, strands.2⟩
    · intro noTask other stranded
      by_cases same : other = thread
      · subst same
        rw [Stranded, markedIs, if_pos rfl] at stranded
        exact noTask ⟨early, stranded.2⟩
      · exact others other same stranded
  · rename_i goesOn
    refine iff_of_true (noneStranded_replaceSlot markedSound others _) fun strands => goesOn ?_
    rw [Bool.or_eq_true, beq_iff_eq]
    exact strands.1

/-- A step keeps every task from being stranded exactly when it strands none itself. -/
theorem noneStranded_step_iff (sound : Sound ports poolSize pool)
    (noneStranded : NoneStranded pool) {event : Event}
    (steps : nodeStep ports pool event = some next) :
    NoneStranded next ↔ ¬Strands pool event := by
  obtain ⟨fromLive, steps⟩ := nodeStep_eq_some_iff.mp steps
  cases event with
  | scoreBatch inputs =>
    cases steps
    exact noneStranded_scoreBatch_iff sound noneStranded inputs
  | message thread taskId failure =>
    obtain ⟨inputs, _, rfl⟩ := Option.map_eq_some_iff.mp steps
    exact iff_of_true
      (noneStranded_message sound noneStranded (fromLive thread rfl) taskId _) not_false
  | error thread text =>
    obtain ⟨_, ⟨⟩⟩ := Option.ite_none_right_eq_some.mp steps
    exact iff_of_true
      (noneStranded_replaceSlot sound (fun other _ => noneStranded other) text) not_false
  | exit thread code =>
    obtain ⟨spawned, ⟨⟩⟩ := Option.ite_none_right_eq_some.mp steps
    exact noneStranded_exit_iff sound noneStranded spawned code
  | shutdown =>
    cases steps
    refine iff_of_true (noneStranded.of_slot ?_) not_false
    rw [shutdown]
    split
    · rfl
    · rfl
  | terminated =>
    obtain ⟨_, ⟨⟩⟩ := Option.ite_none_right_eq_some.mp steps
    exact iff_of_true (noneStranded.of_slot rfl) not_false

/-! ### A pool that shuts down -/

/-- Once a pool shuts down its queue is empty, and only threads that are told to terminate have
a task. -/
def Closed (pool : Pool) : Prop :=
  pool.shuttingDown = true →
    pool.queue = [] ∧ ∀ thread, thread ∉ pool.terminating → (pool.slot thread).current = none

/-- What a step of a pool that shuts down leaves as it was: no task is handed out. -/
structure Shrinks (pool next : Pool) : Prop where
  shuttingDown : next.shuttingDown = pool.shuttingDown
  queue : next.queue = pool.queue
  terminating : next.terminating = pool.terminating
  current : ∀ thread, (pool.slot thread).current = none → (next.slot thread).current = none

theorem Shrinks.refl (pool : Pool) : Shrinks pool pool := ⟨rfl, rfl, rfl, fun _ => id⟩

theorem shrinks_freeSlot (thread : Nat) (pool : Pool) : Shrinks pool (freeSlot thread pool) := by
  refine ⟨rfl, rfl, rfl, fun other noTask => ?_⟩
  rw [slot_freeSlot]
  split
  · rfl
  · exact noTask

theorem shrinks_rejectCurrent (thread : Nat) (text : JsString) (pool : Pool) :
    Shrinks pool (rejectCurrent thread text pool) := by
  have freed := shrinks_freeSlot thread pool
  rw [rejectCurrent]
  split
  · exact freed
  · exact ⟨rfl, rfl, rfl, freed.current⟩

theorem shrinks_step (closing : pool.shuttingDown = true) {event : Event}
    (steps : step ports pool event = some next) : Shrinks pool next := by
  have noDispatch (after : Pool) (same : after.shuttingDown = pool.shuttingDown) :
      dispatch after = after := if_pos (same.trans closing)
  cases event with
  | scoreBatch inputs =>
    cases steps
    rw [scoreBatch]
    simp only
    rw [if_pos closing]
    exact ⟨rfl, rfl, rfl, fun _ => id⟩
  | message thread taskId failure =>
    obtain ⟨inputs, _, rfl⟩ := Option.map_eq_some_iff.mp steps
    rw [message]
    split
    · exact Shrinks.refl pool
    · split
      · rename_i taskIs task current same
        rw [noDispatch
          (settle task.promise (answer ports inputs failure) (freeSlot thread pool)) rfl]
        exact ⟨rfl, rfl, rfl, (shrinks_freeSlot thread pool).current⟩
      · exact Shrinks.refl pool
  | error thread text =>
    obtain ⟨_, ⟨⟩⟩ := Option.ite_none_right_eq_some.mp steps
    have rejected := shrinks_rejectCurrent thread text pool
    rw [error, replaceSlot, if_pos (rejected.shuttingDown.trans closing)]
    exact rejected
  | exit thread code =>
    obtain ⟨_, ⟨⟩⟩ := Option.ite_none_right_eq_some.mp steps
    have early : (pool.shuttingDown || code == 0) = true := by rw [closing, Bool.true_or]
    have marks : exit thread code pool =
        setSlot thread { pool.slot thread with exited := true } pool := if_pos early
    rw [marks]
    refine ⟨rfl, rfl, rfl, fun other noTask => ?_⟩
    rw [slot_setSlot, Function.update_apply]
    split
    · rename_i same
      subst same
      exact noTask
    · exact noTask
  | shutdown =>
    cases steps
    rw [shutdown, if_pos closing]
    exact Shrinks.refl pool
  | terminated =>
    obtain ⟨_, ⟨⟩⟩ := Option.ite_none_right_eq_some.mp steps
    exact ⟨rfl, rfl, rfl, fun _ => id⟩

theorem shuttingDown_dispatch : (dispatch pool).shuttingDown = pool.shuttingDown := by
  cases closing : pool.shuttingDown with
  | true => rw [dispatch, if_pos closing, closing]
  | false => exact (dispatched_dispatch closing).shuttingDown.trans closing

theorem shuttingDown_replaceSlot (dead : Nat) :
    (replaceSlot dead pool).shuttingDown = pool.shuttingDown := by
  rw [replaceSlot]
  split
  · rfl
  · split
    · rfl
    · exact shuttingDown_dispatch

/-- Only `shutdown` begins a shutdown. -/
theorem isOpen_step (isOpen : pool.shuttingDown = false) {event : Event}
    (steps : step ports pool event = some next) (notShutdown : event ≠ .shutdown) :
    next.shuttingDown = false := by
  cases event with
  | scoreBatch inputs =>
    cases steps
    rw [scoreBatch]
    simp only
    rw [if_neg (Bool.eq_false_iff.mp isOpen)]
    split
    · exact isOpen
    · exact shuttingDown_dispatch.trans isOpen
  | message thread taskId failure =>
    obtain ⟨inputs, _, rfl⟩ := Option.map_eq_some_iff.mp steps
    rw [message]
    split
    · exact isOpen
    · split
      · exact shuttingDown_dispatch.trans isOpen
      · exact isOpen
  | error thread text =>
    obtain ⟨_, ⟨⟩⟩ := Option.ite_none_right_eq_some.mp steps
    exact ((shuttingDown_replaceSlot thread).trans
      (shrinks_rejectCurrent thread text pool).shuttingDown).trans isOpen
  | exit thread code =>
    obtain ⟨_, ⟨⟩⟩ := Option.ite_none_right_eq_some.mp steps
    rw [exit]
    simp only
    split
    · exact isOpen
    · exact ((shuttingDown_replaceSlot thread).trans
        (shrinks_rejectCurrent thread _ _).shuttingDown).trans isOpen
  | shutdown => exact absurd rfl notShutdown
  | terminated =>
    obtain ⟨closing, _⟩ := Option.ite_none_right_eq_some.mp steps
    exact absurd (isOpen.symm.trans closing) Bool.false_ne_true

theorem closed_step (sound : Sound ports poolSize pool) (closed : Closed pool) {event : Event}
    (steps : step ports pool event = some next) : Closed next := by
  intro nextCloses
  cases closing : pool.shuttingDown with
  | true =>
    have shrinks := shrinks_step closing steps
    obtain ⟨noQueue, noTask⟩ := closed closing
    rw [shrinks.queue, shrinks.terminating]
    exact ⟨noQueue, fun thread spared => shrinks.current thread (noTask thread spared)⟩
  | false =>
    by_cases isShutdown : event = .shutdown
    · subst isShutdown
      cases steps
      rw [shutdown, if_neg (Bool.eq_false_iff.mp closing)]
      exact ⟨rfl, (sound.staffed closing).retired⟩
    · have isOpen := isOpen_step closing steps isShutdown
      exact absurd (isOpen.symm.trans nextCloses) Bool.false_ne_true

/-- In a pool that shuts down and whose terminated threads have exited, every promise is settled
exactly when no task is stranded. -/
theorem settled_iff_noneStranded (sound : Sound ports poolSize pool) (closed : Closed pool)
    (closing : pool.shuttingDown = true)
    (ended : ∀ thread ∈ pool.terminating, (pool.slot thread).exited = true) :
    (∀ promise < pool.promises.length, promise ∈ pool.settled.map Prod.fst) ↔
      NoneStranded pool := by
  obtain ⟨noQueue, noTask⟩ := closed closing
  have allDone := sound.consistent.accounted.all_done_iff List.nodup_range
  simp only [List.mem_range] at allDone
  rw [allDone, Ledger.inHand_eq_nil_iff, noQueue]
  simp only [List.map_nil, true_and, List.mem_range, running, Option.map_eq_none_iff]
  constructor
  · intro free thread stranded
    have spawned : thread < pool.spawned := by
      obtain ⟨⟨taskId, task⟩, current⟩ := Option.ne_none_iff_exists'.mp stranded.2
      exact sound.consistent.spawned_of_current current
    exact stranded.2 (free thread spawned)
  · intro noneStranded thread _
    by_cases told : thread ∈ pool.terminating
    · by_contra hasTask
      exact noneStranded thread ⟨ended thread told, hasTask⟩
    · exact noTask thread told

/-! ### No caller left hanging -/

/-- Whatever happens to a pool before and after it shuts down: once the terminated threads have
exited, every promise it has given is settled exactly when no step has stranded a task. Nothing
is asked of `stopped`, as a second call of `shutdown` resolves at once. -/
theorem shutdown_settles_iff (ports : Ports) (poolSize : Nat) (schedule : List Event) (pool : Pool)
    (reaches : Transition.run (nodeStep ports) (onModuleInit poolSize) schedule = some pool)
    (closing : pool.shuttingDown = true)
    (ended : ∀ thread ∈ pool.terminating, (pool.slot thread).exited = true) :
    (∀ promise < pool.promises.length, promise ∈ pool.settled.map Prod.fst) ↔
      Transition.Every (nodeStep ports) (fun pool event _ => ¬Strands pool event)
        (onModuleInit poolSize) schedule := by
  have initially : Sound ports poolSize (onModuleInit poolSize) ∧
      Closed (onModuleInit poolSize) := by
    refine ⟨sound_onModuleInit ports poolSize, fun closing => ?_⟩
    rw [onModuleInit_eq] at closing
    exact absurd closing Bool.false_ne_true
  have noneAtStart : NoneStranded (onModuleInit poolSize) := by
    rw [onModuleInit_eq]
    exact fun thread stranded => Bool.false_ne_true stranded.1
  have kept (current : Pool) (event : Event) (next : Pool)
      (good : Sound ports poolSize current ∧ Closed current)
      (steps : nodeStep ports current event = some next) :
      Sound ports poolSize next ∧ Closed next :=
    have steps := (nodeStep_eq_some_iff.mp steps).2
    ⟨sound_step good.1 steps, closed_step good.1 good.2 steps⟩
  have atEnd : Sound ports poolSize pool ∧ Closed pool :=
    Transition.Reachable.invariant ⟨schedule, reaches⟩ _ initially kept
  rw [settled_iff_noneStranded atEnd.1 atEnd.2 closing ended]
  refine Transition.last_iff_every (fun pool => Sound ports poolSize pool ∧ Closed pool) kept ?_ ?_
    initially noneAtStart reaches
  · exact fun current event next good noneStranded steps =>
      noneStranded_step_iff good.1 noneStranded steps
  · exact fun current event next good steps noneStranded thread stranded =>
      noneStranded thread (stranded_step good.1 steps stranded)

end

/-! ### A task that runs when the pool shuts down -/

open ImportService.System (emptyFilePorts)

/-- An input of one. -/
def oneInput : ScoringInput := inputOf 1

/-- The pool of one thread where a schedule ends. -/
def endOf (schedule : List Event) : Pool :=
  (Transition.run (nodeStep emptyFilePorts) (onModuleInit 1) schedule).getD Pool.empty

theorem run_eq_endOf {schedule : List Event}
    (enabled : (Transition.run (nodeStep emptyFilePorts) (onModuleInit 1) schedule).isSome) :
    Transition.run (nodeStep emptyFilePorts) (onModuleInit 1) schedule =
      some (endOf schedule) := by
  obtain ⟨pool, reaches⟩ := Option.isSome_iff_exists.mp enabled
  rw [endOf, reaches, Option.getD_some]

/-- A task is answered before the shutdown. -/
def answeredTask : List Event :=
  [.scoreBatch [oneInput], .message 0 0 none, .shutdown, .exit 0 1, .terminated]

/-- A pool that shuts down after the answer to its only task. -/
theorem shutdown_settles_iff_answered :
    (∀ promise < (endOf answeredTask).promises.length,
        promise ∈ (endOf answeredTask).settled.map Prod.fst) ↔
      Transition.Every (nodeStep emptyFilePorts) (fun pool event _ => ¬Strands pool event)
        (onModuleInit 1) answeredTask :=
  shutdown_settles_iff emptyFilePorts 1 answeredTask (endOf answeredTask)
    (run_eq_endOf (by decide +kernel)) (by decide +kernel) (by decide +kernel)

/-- A task runs when the shutdown comes. -/
def runningTask : List Event := [.scoreBatch [oneInput], .shutdown, .exit 0 1, .terminated]

/-- `shutdown` has resolved, the only thread has exited, and the promise of its task is never
settled. -/
theorem runningTask_hangs :
    Transition.run (nodeStep emptyFilePorts) (onModuleInit 1) runningTask =
        some (endOf runningTask) ∧
      (endOf runningTask).stopped = true ∧
      (∀ thread ∈ (endOf runningTask).terminating,
        ((endOf runningTask).slot thread).exited = true) ∧
      ¬∀ promise < (endOf runningTask).promises.length,
        promise ∈ (endOf runningTask).settled.map Prod.fst :=
  ⟨run_eq_endOf (by decide +kernel), by decide +kernel, by decide +kernel, by decide +kernel⟩

end ImportService.ScoringPool
