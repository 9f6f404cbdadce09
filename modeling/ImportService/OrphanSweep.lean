/-
This file models the sweeps of the worker beside any number of calls of `execute`. A sweep asks
the database for the paths that are referenced, then the directory for its files, and takes its
cutoff only after that, so that the three can be far apart; a file it finds is read and removed
in two steps. The two processes have one clock, and a chunk that is written gives the file a new
time.

What is known of a path later is kept beside the tables and the directory: the names that have
been used, when each file was created, when each row was committed, and which files were removed.

A sweep that starts in time after its query can still take its cutoff too late, and remove a file
that has a row by then (`lateCutoff_removes`). Counted up to the cutoff the margin is enough
(`sweeps_spare_live_files`): a row that the query has not seen is younger than the query, its file
is not younger than the cutoff, and so the two spans together are as long as the age.
-/

import ImportService.Idempotency
import ImportService.Lib.Transition

namespace ImportService.OrphanSweep

open Transition

/-! ### The sweeper -/

/-- Where `sweep` is: behind the query, in `readdir`, with the entries that it is about to return,
in the loop, or in the loop before the `rm` of an entry. The times are those of the call of
`cleanupOrphans` and of its cutoff. An entry is known by its full path. -/
inductive SweepPhase
  | listed
  | reading (startedAt : Nat)
  | returning (startedAt : Nat) (entries : List JsString)
  | scanning (startedAt cutoffAt : Nat) (entries : List JsString)
  | removing (startedAt cutoffAt : Nat) (entry : JsString) (entries : List JsString)
  | failed (startedAt : Nat)
  deriving DecidableEq

/-- The time at which `cleanupOrphans` was called. -/
def SweepPhase.startedAt? : SweepPhase → Option Nat
  | .listed => none
  | .reading startedAt | .returning startedAt _ | .scanning startedAt _ _
  | .removing startedAt _ _ _ | .failed startedAt => some startedAt

/-- The time at which the cutoff was computed. -/
def SweepPhase.cutoffAt? : SweepPhase → Option Nat
  | .scanning _ cutoffAt _ | .removing _ cutoffAt _ _ => some cutoffAt
  | .listed | .reading _ | .returning _ _ | .failed _ => none

/-- A sweep with what its query has returned, and when. -/
structure Sweep where
  referenced : List JsString
  listedAt : Nat
  phase : SweepPhase
  deriving DecidableEq

/-- The number of a sweep. -/
abbrev SweepId := Nat

/-- The service with the times of its files and its sweeps, and what has been observed of it. -/
structure State where
  service : CreateImport.State
  modified : JsString → Nat
  sweeps : SweepId → Option Sweep
  used : List JsString
  created : JsString → Option Nat
  commits : List (JsString × Nat)
  removed : List JsString

/-- `readdir`, `stat` and `rm` end, or fail; `resume` is the code after `readdir`. -/
inductive SweepEvent
  | start
  | readdir
  | readdirFails
  | resume
  | stat
  | statFails
  | rm
  | rmFails
  deriving DecidableEq

/-- What the loop finds out about an entry before it removes it. -/
def isOrphan (orphanAgeMs : Int) (state : State) (referenced : List JsString) (cutoffAt : Nat)
    (entry : JsString) : Bool :=
  state.service.store.paths.contains entry &&
    !decide ((cutoffAt : Int) - orphanAgeMs < state.modified entry) && !referenced.contains entry

/-- From one `await` of a sweep to the next. -/
def sweepStep (orphanAgeMs : Int) (state : State) (referenced : List JsString) :
    SweepPhase → SweepEvent → Option SweepPhase
  | .listed, .start => some (.reading state.service.now)
  | .reading startedAt, .readdir => some (.returning startedAt state.service.store.paths)
  | .reading startedAt, .readdirFails => some (.failed startedAt)
  | .returning startedAt entries, .resume =>
      some (.scanning startedAt state.service.now entries)
  | .scanning startedAt cutoffAt (entry :: rest), .stat =>
      if isOrphan orphanAgeMs state referenced cutoffAt entry then
        some (.removing startedAt cutoffAt entry rest)
      else some (.scanning startedAt cutoffAt rest)
  | .scanning startedAt cutoffAt (_ :: rest), .statFails =>
      some (.scanning startedAt cutoffAt rest)
  | .removing startedAt cutoffAt _ rest, .rm | .removing startedAt cutoffAt _ rest, .rmFails =>
      some (.scanning startedAt cutoffAt rest)
  | _, _ => none

/-- What is removed with an event of a sweep. -/
def removedBy : SweepPhase → SweepEvent → Option JsString
  | .removing _ _ entry _, .rm => some entry
  | _, _ => none

/-! ### The system -/

/-- The paths of a store that another one does not have. -/
def missingFrom (other store : Store) : List JsString :=
  store.paths.filter fun path => !other.paths.contains path

/-- The service goes on, and the new files, rows and removals are noted down. A name that is
generated has not been used before. -/
def observe (state : State) (service : CreateImport.State) : Option State :=
  let opened := missingFrom state.service.store service.store
  if opened.any state.used.contains then none
  else
    some
      { service
        modified := fun path =>
          if opened.contains path then service.now else state.modified path
        sweeps := state.sweeps
        used := state.used ++ opened
        created := fun path =>
          if opened.contains path then some service.now else state.created path
        commits := state.commits ++
          (service.store.referenced.drop state.service.store.referenced.length).map
            fun path => (path, service.now)
        removed := state.removed ++ missingFrom service.store state.service.store }

/-- `write` is a chunk that reaches the file of a call, and `list` the query of a new sweep. -/
inductive Action
  | service (action : CreateImport.Action)
  | write (callId : CreateImport.CallId)
  | list (sweepId : SweepId)
  | sweep (sweepId : SweepId) (event : SweepEvent)

/-- A file that is being written gets the current time. -/
def write (callId : CreateImport.CallId) (state : State) : Option State :=
  match state.service.calls callId with
  | some ⟨_, .saving _ storagePath⟩ =>
      some { state with
        modified := Function.update state.modified storagePath state.service.now }
  | _ => none

/-- A sweep begins with the query for the paths that are referenced. -/
def list (sweepId : SweepId) (state : State) : Option State :=
  match state.sweeps sweepId with
  | some _ => none
  | none =>
      let sweep : Sweep :=
        { referenced := state.service.store.referenced
          listedAt := state.service.now
          phase := .listed }
      some { state with sweeps := Function.update state.sweeps sweepId (some sweep) }

/-- The next event of a sweep, with what it removes. -/
def sweepOn (orphanAgeMs : Int) (sweepId : SweepId) (event : SweepEvent) (state : State) :
    Option State := do
  let sweep ← state.sweeps sweepId
  let phase ← sweepStep orphanAgeMs state sweep.referenced sweep.phase event
  let next : State :=
    { state with sweeps := Function.update state.sweeps sweepId (some { sweep with phase }) }
  match removedBy sweep.phase event with
  | none => some next
  | some entry =>
      observe next
        { state.service with store := DiskFileStorage.rm entry state.service.store }

/-- A step of the service, of a write, or of a sweep. -/
def step (config : StorageConfig) (orphanAgeMs : Int) (state : State) : Action → Option State
  | .service action => (CreateImport.step config state.service action).bind (observe state)
  | .write callId => write callId state
  | .list sweepId => list sweepId state
  | .sweep sweepId event => sweepOn orphanAgeMs sweepId event state

/-- No call has been made and no sweep begun. -/
def initial (now : Nat) (store : Store) (modified : JsString → Nat) : State where
  service := CreateImport.initial now store
  modified := modified
  sweeps := fun _ => none
  used := store.paths ++ store.referenced
  created := fun _ => none
  commits := []
  removed := []

/-! ### The margin -/

/-- From the creation of a file to the commit of its row, and from the query of a sweep to the
time that counts for it, is together less than the age. -/
def InTime (orphanAgeMs : Int) (counts : SweepPhase → Option Nat) (state : State) : Prop :=
  ∀ path committedAt, (path, committedAt) ∈ state.commits →
    ∀ createdAt, state.created path = some createdAt →
      ∀ sweepId sweep, state.sweeps sweepId = some sweep →
        ∀ time, counts sweep.phase = some time →
          ((committedAt : Int) - createdAt) + (time - sweep.listedAt) < orphanAgeMs

/-- No file that has been removed has a row. -/
def SparesLive (state : State) : Prop :=
  ∀ path ∈ state.removed, path ∉ state.service.store.referenced

/-! ### What a step of the service does to paths -/

/-- A call has the path of an upload that has no row. -/
def Owns (service : CreateImport.State) (callId : CreateImport.CallId) (path : JsString) : Prop :=
  ∃ call, service.calls callId = some call ∧ call.phase.path? = some path

/-- What a call does with its path: it opens it, puts it into a row, or removes it. -/
inductive Touches (store : Store) : CreateImport.Phase → Store → CreateImport.Phase → Prop
  | opens {source : FileStream} {extension path : JsString}
      (fresh : CreateImport.isFreshPath path store = true) :
      Touches store (.starting source extension) (DiskFileStorage.createWriteStream path store)
        (.saving source path)
  | commits {path : JsString} {next : Store} {result : CreateImportResult}
      (referenced : next.referenced = store.referenced ++ [path])
      (paths : next.paths = store.paths) :
      Touches store (.creating path) next (.returned result)
  | discards {path : JsString} {phase after : CreateImport.Phase} (owned : phase.path? = some path)
      (ended : after.path? = none) : Touches store phase (DiskFileStorage.rm path store) after
  | stays {next : Store} {phase after : CreateImport.Phase}
      (referenced : next.referenced = store.referenced) (paths : next.paths = store.paths)
      (owned : after.path? = none ∨ after.path? = phase.path?) : Touches store phase next after

section

variable {config : StorageConfig} {now : Nat} {command : CreateImport.CreateImportCommand}
  {store next : Store} {phase after : CreateImport.Phase} {event : CreateImport.Event}

theorem createTransaction_paths {input : CreateImportInput} {jobId : JobId}
    (created : ImportRepository.createTransaction input jobId now store = .ok next) :
    next.referenced = store.referenced ++ [input.storagePath] ∧ next.paths = store.paths := by
  simp only [ImportRepository.createTransaction, bind, Except.bind, ImportRepository.insertImport,
    ImportRepository.insertIdempotencyKey, ImportRepository.insertProcessingJob] at created
  split at created
  · cases created
  · rename_i imported isImported
    split at isImported
    · cases isImported
    · cases isImported
      split at created
      · cases created
      · rename_i keyed isKeyed
        split at isKeyed
        · cases isKeyed
        · split at isKeyed
          · cases isKeyed
          · cases isKeyed
            split at created
            · cases created
            · cases created
              exact ⟨List.map_append, rfl⟩

theorem touches_of_transaction {input : CreateImportInput} {jobId : JobId} {shape : MetaShape}
    (result : CreateImport.afterTransaction input jobId now shape store = (next, after)) :
    Touches store (.creating input.storagePath) next after := by
  unfold CreateImport.afterTransaction at result
  split at result
  · rename_i created
    obtain ⟨referenced, paths⟩ := createTransaction_paths created
    cases result
    exact .commits referenced paths
  · split at result
    · cases result
      exact .stays rfl rfl (Or.inr rfl)
    · cases result
      exact .stays rfl rfl (Or.inl rfl)

theorem touches_of_proceed
    (enabled : CreateImport.proceed config now command store phase event = some (next, after)) :
    Touches store phase next after := by
  unfold CreateImport.proceed at enabled
  split at enabled
  · simp only at enabled
    split at enabled
    · rename_i fresh
      cases enabled
      exact .opens fresh
    · cases enabled
  · split at enabled
    · cases enabled
      exact .stays rfl (CreateImport.paths_fill _) (Or.inr rfl)
    · cases enabled
      exact .discards rfl rfl
  · split at enabled
    · exact touches_of_transaction (Option.some.inj enabled)
    · cases enabled
  · split at enabled
    · cases enabled
      exact .stays rfl rfl (Or.inl rfl)
    · cases enabled
      exact .stays rfl rfl (Or.inr rfl)
  · cases enabled
    exact .discards rfl rfl
  · cases enabled

end

/-- A call gives up the path that it has. -/
def Leaves (before after : CreateImport.State) (path : JsString) : Prop :=
  ∃ callId, Owns before callId path ∧ ∀ other, ¬ Owns after callId other

/-- What a step of the service does to paths, but for those that are swept: only a path that a call
gives up gets into a row or is lost, and only a call that opens a file gets a path. -/
structure Moves (swept : JsString → Prop) (before after : CreateImport.State) : Prop where
  time : before.now ≤ after.now
  rows : ∃ rows, after.store.referenced = before.store.referenced ++ rows ∧
    ∀ path ∈ rows, Leaves before after path
  lost : ∀ path ∈ before.store.paths, path ∉ after.store.paths →
    Leaves before after path ∧ after.store.referenced = before.store.referenced ∨ swept path
  owners : ∃ opener, ∀ callId path, Owns after callId path → Owns before callId path ∨
    callId = opener ∧ path ∈ after.store.paths ∧ path ∉ before.store.paths

section

variable {config : StorageConfig} {before after : CreateImport.State} {swept : JsString → Prop}

/-- Paths and rows are left alone, and no call gets a path. -/
theorem moves_of_same (time : before.now ≤ after.now)
    (referenced : after.store.referenced = before.store.referenced)
    (paths : after.store.paths = before.store.paths)
    (owners : ∀ callId path, Owns after callId path → Owns before callId path) :
    Moves swept before after where
  time := time
  rows := ⟨[], by rw [referenced, List.append_nil], nofun⟩
  lost := fun path member missing => absurd (paths ▸ member) missing
  owners := ⟨0, fun callId path owns => Or.inl (owners callId path owns)⟩

/-- The owners of paths when a call goes on. -/
theorem owns_update {callId other : CreateImport.CallId} {call : CreateImport.Call}
    {next : CreateImport.State} {path : JsString}
    (calls : next.calls = Function.update before.calls callId (some call))
    (owns : Owns next other path) :
    other = callId ∧ call.phase.path? = some path ∨ other ≠ callId ∧ Owns before other path := by
  obtain ⟨owner, made, owned⟩ := owns
  rw [calls] at made
  rcases update_cases made with ⟨same, rfl⟩ | ⟨different, earlier⟩
  · exact Or.inl ⟨same, owned⟩
  · exact Or.inr ⟨different, owner, earlier, owned⟩

/-- A call that goes on without a path gives up the one that it had. -/
theorem leaves_update {callId : CreateImport.CallId} {call : CreateImport.Call}
    {phase : CreateImport.Phase} {path : JsString} (made : before.calls callId = some call)
    (owned : call.phase.path? = some path) (ended : phase.path? = none)
    (calls : after.calls = Function.update before.calls callId (some { call with phase })) :
    Leaves before after path ∧
      ∀ other otherPath, Owns after other otherPath → Owns before other otherPath := by
  constructor
  · refine ⟨callId, ⟨call, made, owned⟩, fun other owns => ?_⟩
    rcases owns_update calls owns with ⟨_, still⟩ | ⟨different, _⟩
    · cases ended.symm.trans still
    · exact different rfl
  · intro other otherPath owns
    rcases owns_update calls owns with ⟨_, still⟩ | ⟨_, earlier⟩
    · cases ended.symm.trans still
    · exact earlier

theorem moves_of_touches {callId : CreateImport.CallId} {call : CreateImport.Call} {next : Store}
    {phase : CreateImport.Phase} (made : before.calls callId = some call)
    (touches : Touches before.store call.phase next phase) :
    Moves swept before { before with
      store := next
      calls := Function.update before.calls callId (some { call with phase }) } := by
  have calls : CreateImport.State.calls { before with
      store := next
      calls := Function.update before.calls callId (some { call with phase }) } =
        Function.update before.calls callId (some { call with phase }) := rfl
  generalize isPhase : call.phase = current at touches
  cases touches with
  | @opens source extension path fresh =>
    refine ⟨Nat.le_refl _, ⟨[], (List.append_nil _).symm, nofun⟩, fun other member missing => ?_,
      callId, fun other otherPath owns => ?_⟩
    · exact absurd (CreateImport.mem_paths_createWriteStream.mpr (Or.inl member)) missing
    · rcases owns_update rfl owns with ⟨same, owned⟩ | ⟨_, earlier⟩
      · rw [← Option.some.inj owned]
        exact Or.inr ⟨same, CreateImport.mem_paths_createWriteStream.mpr (Or.inr rfl),
          (CreateImport.isFreshPath_iff.mp fresh).1⟩
      · exact Or.inl earlier
  | @commits path next result referenced paths =>
    have owned : call.phase.path? = some path := by rw [isPhase, CreateImport.Phase.path?]
    have ended : (CreateImport.Phase.returned result).path? = none := by
      rw [CreateImport.Phase.path?]
    obtain ⟨leaves, owners⟩ := leaves_update made owned ended calls
    exact
      { time := Nat.le_refl _
        rows := ⟨[path], referenced, List.forall_mem_singleton.mpr leaves⟩
        lost := fun other member missing => absurd (paths ▸ member) missing
        owners := ⟨callId, fun other otherPath owns => Or.inl (owners other otherPath owns)⟩ }
  | @discards path _ after owned ended =>
    obtain ⟨leaves, owners⟩ := leaves_update made (isPhase ▸ owned) ended calls
    refine ⟨Nat.le_refl _, ⟨[], (List.append_nil _).symm, nofun⟩, fun other member missing => ?_,
      callId, fun other otherPath owns => Or.inl (owners other otherPath owns)⟩
    have isPath : other = path :=
      Decidable.byContradiction fun different =>
        missing (CreateImport.mem_paths_rm.mpr ⟨member, different⟩)
    exact Or.inl ⟨isPath ▸ leaves, rfl⟩
  | stays referenced paths owned =>
    refine moves_of_same (Nat.le_refl _) referenced paths fun other path owns => ?_
    rcases owns_update rfl owns with ⟨rfl, still⟩ | ⟨_, earlier⟩
    · rcases owned with none | same
      · cases none.symm.trans still
      · exact ⟨call, made, isPhase ▸ same.symm.trans still⟩
    · exact earlier

theorem moves_of_step {action : CreateImport.Action}
    (enabled : CreateImport.step config before action = some after) : Moves swept before after := by
  unfold CreateImport.step at enabled
  split at enabled
  · cases enabled
    exact moves_of_same (Nat.le_add_right _ _) rfl rfl fun _ _ owns => owns
  · split at enabled
    · cases enabled
    · rename_i statement other
      have same := CreateImport.sameRows_commit before.now before.store.db
        (Bool.eq_false_iff.mpr other)
      cases enabled
      refine moves_of_same (Nat.le_refl _) ?_ rfl fun _ _ owns => owns
      rw [Store.referenced, same.importFiles]
      rfl
  · split at enabled
    · cases enabled
    · cases enabled
      refine moves_of_same (Nat.le_refl _) rfl rfl fun other path owns => ?_
      rcases owns_update rfl owns with ⟨_, owned⟩ | ⟨_, earlier⟩
      · cases (CreateImport.path?_begin _).symm.trans owned
      · exact earlier
  · split at enabled
    · cases enabled
    · rename_i call made
      obtain ⟨⟨next, phase⟩, proceeds, rfl⟩ := Option.map_eq_some_iff.mp enabled
      exact moves_of_touches made (touches_of_proceed proceeds)

/-- The `rm` of a sweep. -/
theorem moves_rm (entry : JsString) :
    Moves (fun path => path = entry) before
      { before with store := DiskFileStorage.rm entry before.store } where
  time := Nat.le_refl _
  rows := ⟨[], (List.append_nil _).symm, nofun⟩
  lost := by
    intro path member missing
    refine Or.inr (Decidable.byContradiction fun different => ?_)
    exact missing (CreateImport.mem_paths_rm.mpr ⟨member, different⟩)
  owners := ⟨0, fun _ _ owns => Or.inl owns⟩

end

/-! ### What is noted down -/

/-- What is observed of a step of the service. -/
structure Observed (state : State) (after : CreateImport.State) (next : State) : Prop where
  service : next.service = after
  sweeps : next.sweeps = state.sweeps
  fresh : ∀ path ∈ after.store.paths, path ∉ state.service.store.paths → path ∉ state.used
  used : ∀ path, path ∈ next.used ↔
    path ∈ state.used ∨ path ∈ after.store.paths ∧ path ∉ state.service.store.paths
  created : ∀ path ∈ after.store.paths, path ∉ state.service.store.paths →
    next.created path = some after.now ∧ next.modified path = after.now
  others : ∀ path, (path ∈ after.store.paths → path ∈ state.service.store.paths) →
    next.created path = state.created path ∧ next.modified path = state.modified path
  commits : ∀ rows, after.store.referenced = state.service.store.referenced ++ rows →
    next.commits = state.commits ++ rows.map fun path => (path, after.now)
  removed : ∀ path, path ∈ next.removed ↔
    path ∈ state.removed ∨ path ∈ state.service.store.paths ∧ path ∉ after.store.paths

section

variable {state next : State} {after : CreateImport.State}

theorem mem_missingFrom {other store : Store} {path : JsString} :
    path ∈ missingFrom other store ↔ path ∈ store.paths ∧ path ∉ other.paths := by
  simp [missingFrom]

theorem observed_of_observe (observes : observe state after = some next) :
    Observed state after next := by
  unfold observe at observes
  simp only at observes
  split at observes
  · cases observes
  · rename_i noneUsed
    have isOpened {path : JsString} (stored : path ∈ after.store.paths)
        (new : path ∉ state.service.store.paths) :
        (missingFrom state.service.store after.store).contains path = true :=
      List.contains_iff_mem.mpr (mem_missingFrom.mpr ⟨stored, new⟩)
    cases observes
    exact
      { service := rfl
        sweeps := rfl
        fresh := fun path stored new isUsed => noneUsed <|
          List.any_eq_true.mpr ⟨path, mem_missingFrom.mpr ⟨stored, new⟩,
            List.contains_iff_mem.mpr isUsed⟩
        used := fun path => by rw [List.mem_append, mem_missingFrom]
        created := fun path stored new => by
          simp only [isOpened stored new, if_true, and_self]
        others := fun path old => by
          have notOpened :
              ¬ (missingFrom state.service.store after.store).contains path = true := by
            rw [List.contains_iff_mem, mem_missingFrom]
            exact fun ⟨stored, new⟩ => new (old stored)
          simp only [if_neg notOpened, and_self]
        commits := fun rows referenced => by rw [referenced, List.drop_left]
        removed := fun path => by rw [List.mem_append, mem_missingFrom] }

end

/-! ### What holds of the files -/

/-- A file that has been created has a time and a name that is used up; a path that a call has is
its own and has no row yet; and every row that is new is of a file that has been created. -/
structure Accounts (state : State) : Prop where
  created : ∀ path createdAt, state.created path = some createdAt →
    path ∈ state.used ∧ createdAt ≤ state.modified path ∧ createdAt ≤ state.service.now
  used : ∀ path, path ∈ state.service.store.paths ∨ path ∈ state.service.store.referenced →
    path ∈ state.used
  owned : ∀ callId path, Owns state.service callId path →
    (∃ createdAt, state.created path = some createdAt) ∧
      path ∉ state.service.store.referenced
  single : ∀ callId other path, Owns state.service callId path → Owns state.service other path →
    callId = other
  commits : ∀ path committedAt, (path, committedAt) ∈ state.commits →
    ∃ createdAt, state.created path = some createdAt

section

variable {state next : State} {after : CreateImport.State} {swept : JsString → Prop}
  {path : JsString}

theorem Observed.created_of_used (observed : Observed state after next)
    (isUsed : path ∈ state.used) : next.created path = state.created path :=
  (observed.others path fun stored => Decidable.byContradiction fun new =>
    observed.fresh path stored new isUsed).1

theorem Accounts.used_of_owns (accounts : Accounts state) {callId : CreateImport.CallId}
    (owns : Owns state.service callId path) : path ∈ state.used := by
  obtain ⟨⟨createdAt, isCreated⟩, _⟩ := accounts.owned callId path owns
  exact (accounts.created path createdAt isCreated).1

/-- A path that is given up has no owner any more. -/
theorem Accounts.not_owns_of_leaves (accounts : Accounts state)
    (observed : Observed state after next) (moves : Moves swept state.service after)
    (leaves : Leaves state.service after path)
    (callId : CreateImport.CallId) : ¬ Owns after callId path := by
  obtain ⟨leaver, owned, gone⟩ := leaves
  intro owns
  obtain ⟨opener, owners⟩ := moves.owners
  rcases owners callId path owns with earlier | ⟨_, stored, new⟩
  · rw [accounts.single callId leaver path earlier owned] at owns
    exact gone path owns
  · exact observed.fresh path stored new (accounts.used_of_owns owned)

theorem Accounts.rows_used (accounts : Accounts state) (moves : Moves swept state.service after)
    (referenced : path ∈ after.store.referenced) : path ∈ state.used := by
  obtain ⟨rows, isReferenced, leaves⟩ := moves.rows
  rw [isReferenced] at referenced
  rcases List.mem_append.mp referenced with earlier | new
  · exact accounts.used path (Or.inr earlier)
  · obtain ⟨leaver, owned, _⟩ := leaves path new
    exact accounts.used_of_owns owned

theorem Accounts.observe (accounts : Accounts state) (moves : Moves swept state.service after)
    (observed : Observed state after next) : Accounts next where
  created := by
    intro path createdAt isCreated
    rw [observed.service, observed.used]
    by_cases new : path ∈ after.store.paths ∧ path ∉ state.service.store.paths
    · obtain ⟨createdNow, modifiedNow⟩ := observed.created path new.1 new.2
      cases createdNow.symm.trans isCreated
      exact ⟨Or.inr new, modifiedNow.ge, Nat.le_refl _⟩
    · obtain ⟨sameCreated, sameModified⟩ := observed.others path fun stored =>
        Decidable.byContradiction fun missing => new ⟨stored, missing⟩
      obtain ⟨isUsed, beforeModified, beforeNow⟩ :=
        accounts.created path createdAt (sameCreated ▸ isCreated)
      exact ⟨Or.inl isUsed, sameModified ▸ beforeModified, beforeNow.trans moves.time⟩
  used := by
    intro path
    rw [observed.service, observed.used]
    rintro (stored | referenced)
    · by_cases old : path ∈ state.service.store.paths
      · exact Or.inl (accounts.used path (Or.inl old))
      · exact Or.inr ⟨stored, old⟩
    · exact Or.inl (accounts.rows_used moves referenced)
  owned := by
    intro callId path
    rw [observed.service]
    intro owns
    obtain ⟨opener, owners⟩ := moves.owners
    rcases owners callId path owns with earlier | ⟨_, stored, new⟩
    · obtain ⟨isCreated, notReferenced⟩ := accounts.owned callId path earlier
      rw [observed.created_of_used (accounts.used_of_owns earlier)]
      refine ⟨isCreated, fun referenced => ?_⟩
      obtain ⟨rows, isReferenced, leaves⟩ := moves.rows
      rw [isReferenced] at referenced
      rcases List.mem_append.mp referenced with before | isRow
      · exact notReferenced before
      · exact accounts.not_owns_of_leaves observed moves (leaves path isRow) callId owns
    · refine ⟨⟨_, (observed.created path stored new).1⟩, fun referenced => ?_⟩
      exact observed.fresh path stored new (accounts.rows_used moves referenced)
  single := by
    intro callId other path
    rw [observed.service]
    intro owns otherOwns
    obtain ⟨opener, owners⟩ := moves.owners
    rcases owners callId path owns with earlier | ⟨isOpener, stored, new⟩
    · rcases owners other path otherOwns with otherEarlier | ⟨_, stored, new⟩
      · exact accounts.single callId other path earlier otherEarlier
      · exact absurd (accounts.used_of_owns earlier) (observed.fresh path stored new)
    · rcases owners other path otherOwns with otherEarlier | ⟨otherIsOpener, _, _⟩
      · exact absurd (accounts.used_of_owns otherEarlier) (observed.fresh path stored new)
      · rw [isOpener, otherIsOpener]
  commits := by
    intro path committedAt committed
    obtain ⟨rows, isReferenced, leaves⟩ := moves.rows
    rw [observed.commits rows isReferenced] at committed
    rcases List.mem_append.mp committed with earlier | new
    · obtain ⟨createdAt, isCreated⟩ := accounts.commits path committedAt earlier
      rw [observed.created_of_used (accounts.created path createdAt isCreated).1]
      exact ⟨createdAt, isCreated⟩
    · obtain ⟨row, isRow, same⟩ := List.mem_map.mp new
      cases same
      obtain ⟨leaver, owned, _⟩ := leaves path isRow
      rw [observed.created_of_used (accounts.used_of_owns owned)]
      exact (accounts.owned leaver path owned).1

end

/-! ### What holds of the sweeps -/

/-- No row refers to the path, and none ever will. -/
def Dead (state : State) (path : JsString) : Prop :=
  path ∈ state.used ∧ path ∉ state.service.store.referenced ∧
    ∀ callId, ¬ Owns state.service callId path

/-- The query of a sweep has not seen the path, and its file is not younger than the cutoff. -/
def Orphaned (orphanAgeMs : Int) (state : State) (sweep : Sweep) (path : JsString) : Prop :=
  path ∈ state.used ∧ path ∉ sweep.referenced ∧
    ∃ cutoffAt, sweep.phase.cutoffAt? = some cutoffAt ∧
      ∀ createdAt, state.created path = some createdAt → createdAt + orphanAgeMs ≤ cutoffAt

/-- A row that a sweep has not seen is younger than its query, and what a sweep is about to remove
or has removed is orphaned. -/
structure SweepsHold (orphanAgeMs : Int) (state : State) : Prop where
  listed : ∀ sweepId sweep, state.sweeps sweepId = some sweep →
    sweep.listedAt ≤ state.service.now ∧
      ∀ path ∈ state.service.store.referenced, path ∈ sweep.referenced ∨
        ∃ committedAt, (path, committedAt) ∈ state.commits ∧ sweep.listedAt ≤ committedAt
  removing : ∀ sweepId sweep startedAt cutoffAt entry rest,
    state.sweeps sweepId = some sweep → sweep.phase = .removing startedAt cutoffAt entry rest →
      Orphaned orphanAgeMs state sweep entry
  removed : ∀ path ∈ state.removed, Dead state path ∨
    ∃ sweepId sweep, state.sweeps sweepId = some sweep ∧ Orphaned orphanAgeMs state sweep path

section

variable {config : StorageConfig} {orphanAgeMs : Int} {state next : State}
  {after : CreateImport.State} {swept : JsString → Prop} {path : JsString} {sweep : Sweep}
  {sweepId : SweepId} {phase following : SweepPhase} {event : SweepEvent}

theorem Orphaned.observe (orphaned : Orphaned orphanAgeMs state sweep path)
    (observed : Observed state after next) : Orphaned orphanAgeMs next sweep path := by
  obtain ⟨isUsed, notListed, cutoffAt, isCutoff, old⟩ := orphaned
  refine ⟨(observed.used path).mpr (Or.inl isUsed), notListed, cutoffAt, isCutoff, ?_⟩
  rw [observed.created_of_used isUsed]
  exact old

theorem Dead.observe (dead : Dead state path) (moves : Moves swept state.service after)
    (observed : Observed state after next) : Dead next path := by
  obtain ⟨isUsed, notReferenced, notOwned⟩ := dead
  refine ⟨(observed.used path).mpr (Or.inl isUsed), ?_, fun callId owns => ?_⟩
  · rw [observed.service]
    obtain ⟨rows, isReferenced, leaves⟩ := moves.rows
    rw [isReferenced]
    intro referenced
    rcases List.mem_append.mp referenced with earlier | new
    · exact notReferenced earlier
    · obtain ⟨leaver, owned, _⟩ := leaves path new
      exact notOwned leaver owned
  · rw [observed.service] at owns
    obtain ⟨opener, owners⟩ := moves.owners
    rcases owners callId path owns with earlier | ⟨_, stored, new⟩
    · exact notOwned callId earlier
    · exact observed.fresh path stored new isUsed

/-- A path that is given up without a row is dead. -/
theorem dead_of_leaves (accounts : Accounts state) (moves : Moves swept state.service after)
    (observed : Observed state after next) (leaves : Leaves state.service after path)
    (sameRows : after.store.referenced = state.service.store.referenced) : Dead next path := by
  have gone := accounts.not_owns_of_leaves observed moves leaves
  obtain ⟨leaver, owned, _⟩ := leaves
  refine ⟨(observed.used path).mpr (Or.inl (accounts.used_of_owns owned)), ?_, ?_⟩
  · rw [observed.service, sameRows]
    exact (accounts.owned leaver path owned).2
  · rw [observed.service]
    exact gone

theorem SweepsHold.observe (holds : SweepsHold orphanAgeMs state) (accounts : Accounts state)
    (moves : Moves swept state.service after) (observed : Observed state after next)
    (orphans : ∀ path, swept path → ∃ sweepId sweep, state.sweeps sweepId = some sweep ∧
      Orphaned orphanAgeMs state sweep path) : SweepsHold orphanAgeMs next where
  listed := by
    intro sweepId sweep begun
    rw [observed.sweeps] at begun
    rw [observed.service]
    obtain ⟨before, seen⟩ := holds.listed sweepId sweep begun
    refine ⟨before.trans moves.time, fun path referenced => ?_⟩
    obtain ⟨rows, isReferenced, _⟩ := moves.rows
    rw [isReferenced] at referenced
    rw [observed.commits rows isReferenced]
    rcases List.mem_append.mp referenced with earlier | new
    · refine (seen path earlier).imp_right fun ⟨committedAt, committed, later⟩ => ?_
      exact ⟨committedAt, List.mem_append_left _ committed, later⟩
    · refine Or.inr ⟨after.now, ?_, before.trans moves.time⟩
      exact List.mem_append_right _ (List.mem_map.mpr ⟨path, new, rfl⟩)
  removing := by
    intro sweepId sweep startedAt cutoffAt entry rest begun isPhase
    rw [observed.sweeps] at begun
    have orphaned := holds.removing sweepId sweep startedAt cutoffAt entry rest begun isPhase
    exact orphaned.observe observed
  removed := by
    intro path isRemoved
    rw [observed.sweeps]
    have carried (orphan : ∃ sweepId sweep, state.sweeps sweepId = some sweep ∧
        Orphaned orphanAgeMs state sweep path) : ∃ sweepId sweep,
        state.sweeps sweepId = some sweep ∧ Orphaned orphanAgeMs next sweep path := by
      obtain ⟨sweepId, sweep, begun, orphaned⟩ := orphan
      exact ⟨sweepId, sweep, begun, orphaned.observe observed⟩
    rcases (observed.removed path).mp isRemoved with earlier | ⟨stored, missing⟩
    · exact (holds.removed path earlier).imp (fun dead => dead.observe moves observed) carried
    · rcases moves.lost path stored missing with ⟨leaves, sameRows⟩ | isSwept
      · exact Or.inl (dead_of_leaves accounts moves observed leaves sameRows)
      · exact Or.inr (carried (orphans path isSwept))

/-! ### Steps of a sweep -/

/-- How a sweep goes on: up to its cutoff, to the `rm` of an entry that it has found to be an
orphan, or in its loop. -/
inductive GoesOn (orphanAgeMs : Int) (state : State) (referenced : List JsString) :
    SweepPhase → SweepPhase → Prop
  | begins {phase following : SweepPhase} (noCutoff : phase.cutoffAt? = none)
      (notRemoving : ∀ startedAt cutoffAt entry rest,
        following ≠ .removing startedAt cutoffAt entry rest) :
      GoesOn orphanAgeMs state referenced phase following
  | finds {startedAt cutoffAt : Nat} {entry : JsString} {rest : List JsString}
      (found : isOrphan orphanAgeMs state referenced cutoffAt entry = true) :
      GoesOn orphanAgeMs state referenced (.scanning startedAt cutoffAt (entry :: rest))
        (.removing startedAt cutoffAt entry rest)
  | loops {phase : SweepPhase} {startedAt cutoffAt : Nat} {rest : List JsString}
      (isCutoff : phase.cutoffAt? = some cutoffAt) :
      GoesOn orphanAgeMs state referenced phase (.scanning startedAt cutoffAt rest)

theorem goesOn_of_sweepStep {referenced : List JsString}
    (enabled : sweepStep orphanAgeMs state referenced phase event = some following) :
    GoesOn orphanAgeMs state referenced phase following := by
  unfold sweepStep at enabled
  split at enabled
  · cases enabled
    exact .begins rfl nofun
  · cases enabled
    exact .begins rfl nofun
  · cases enabled
    exact .begins rfl nofun
  · cases enabled
    exact .begins rfl nofun
  · split at enabled
    · rename_i found
      cases enabled
      exact .finds found
    · cases enabled
      exact .loops rfl
  · cases enabled
    exact .loops rfl
  · cases enabled
    exact .loops rfl
  · cases enabled
    exact .loops rfl
  · cases enabled

theorem GoesOn.cutoffAt {referenced : List JsString} {cutoffAt : Nat}
    (goesOn : GoesOn orphanAgeMs state referenced phase following)
    (isCutoff : phase.cutoffAt? = some cutoffAt) : following.cutoffAt? = some cutoffAt := by
  cases goesOn with
  | begins noCutoff => cases noCutoff.symm.trans isCutoff
  | finds => exact isCutoff
  | loops sameCutoff =>
    cases sameCutoff.symm.trans isCutoff
    rfl

theorem GoesOn.isOrphan {referenced : List JsString} {startedAt cutoffAt : Nat} {entry : JsString}
    {rest : List JsString} (goesOn : GoesOn orphanAgeMs state referenced phase
      (.removing startedAt cutoffAt entry rest)) :
    isOrphan orphanAgeMs state referenced cutoffAt entry = true := by
  cases goesOn with
  | begins _ notRemoving => exact absurd rfl (notRemoving startedAt cutoffAt entry rest)
  | finds found => exact found

theorem removedBy_eq {entry : JsString} (removes : removedBy phase event = some entry) :
    ∃ startedAt cutoffAt rest, phase = .removing startedAt cutoffAt entry rest := by
  unfold removedBy at removes
  split at removes
  · cases removes
    exact ⟨_, _, _, rfl⟩
  · cases removes

theorem orphaned_of_isOrphan (accounts : Accounts state) {entry : JsString} {cutoffAt : Nat}
    (found : isOrphan orphanAgeMs state sweep.referenced cutoffAt entry = true)
    (isCutoff : sweep.phase.cutoffAt? = some cutoffAt) :
    Orphaned orphanAgeMs state sweep entry := by
  simp only [isOrphan, Bool.and_eq_true, Bool.not_eq_true', decide_eq_false_iff_not, not_lt,
    List.contains_iff_mem] at found
  obtain ⟨⟨stored, old⟩, notListed⟩ := found
  refine ⟨accounts.used entry (Or.inl stored), ?_, cutoffAt, isCutoff, ?_⟩
  · intro listed
    rw [List.contains_iff_mem.mpr listed] at notListed
    cases notListed
  · intro createdAt isCreated
    have written := (accounts.created entry createdAt isCreated).2.1
    omega

/-- A sweep goes on, without an `rm` so far. -/
theorem SweepsHold.goesOn (holds : SweepsHold orphanAgeMs state) (accounts : Accounts state)
    (begun : state.sweeps sweepId = some sweep)
    (goesOn : GoesOn orphanAgeMs state sweep.referenced sweep.phase following) :
    SweepsHold orphanAgeMs { state with
      sweeps := Function.update state.sweeps sweepId (some { sweep with phase := following }) }
    where
  listed := by
    intro other otherSweep isSweep
    rcases update_cases isSweep with ⟨_, rfl⟩ | ⟨_, earlier⟩
    · exact holds.listed sweepId sweep begun
    · exact holds.listed other otherSweep earlier
  removing := by
    intro other otherSweep startedAt cutoffAt entry rest isSweep isRemoving
    rcases update_cases isSweep with ⟨_, rfl⟩ | ⟨_, earlier⟩
    · obtain rfl : following = .removing startedAt cutoffAt entry rest := isRemoving
      exact orphaned_of_isOrphan accounts goesOn.isOrphan rfl
    · exact holds.removing other otherSweep startedAt cutoffAt entry rest earlier isRemoving
  removed := by
    intro path isRemoved
    refine (holds.removed path isRemoved).imp_right fun ⟨other, otherSweep, isSweep, orphaned⟩ => ?_
    by_cases same : other = sweepId
    · rw [same] at isSweep
      obtain rfl := Option.some.inj (begun.symm.trans isSweep)
      obtain ⟨isUsed, notListed, cutoffAt, isCutoff, old⟩ := orphaned
      exact ⟨sweepId, { sweep with phase := following }, Function.update_self _ _ _, isUsed,
        notListed, cutoffAt, goesOn.cutoffAt isCutoff, old⟩
    · exact ⟨other, otherSweep, update_of_made isSweep same, orphaned⟩

theorem holds_sweepOn (accounts : Accounts state) (holds : SweepsHold orphanAgeMs state)
    (enabled : sweepOn orphanAgeMs sweepId event state = some next) :
    Accounts next ∧ SweepsHold orphanAgeMs next := by
  simp only [sweepOn, bind, Option.bind_eq_some_iff] at enabled
  obtain ⟨sweep, begun, following, steps, enabled⟩ := enabled
  have goesOn := goesOn_of_sweepStep steps
  have sweepsHold := holds.goesOn accounts begun goesOn
  have sameAccounts : Accounts { state with
      sweeps := Function.update state.sweeps sweepId (some { sweep with phase := following }) } :=
    { accounts with }
  split at enabled
  · cases enabled
    exact ⟨sameAccounts, sweepsHold⟩
  · rename_i entry removes
    have observed := observed_of_observe enabled
    refine ⟨sameAccounts.observe (moves_rm entry) observed,
      sweepsHold.observe sameAccounts (moves_rm entry) observed ?_⟩
    rintro path rfl
    obtain ⟨startedAt, cutoffAt, rest, isRemoving⟩ := removedBy_eq removes
    obtain ⟨isUsed, notListed, cutoff, isCutoff, old⟩ :=
      holds.removing sweepId sweep startedAt cutoffAt path rest begun isRemoving
    exact ⟨sweepId, { sweep with phase := following }, Function.update_self _ _ _, isUsed,
      notListed, cutoff, goesOn.cutoffAt isCutoff, old⟩

theorem holds_list (accounts : Accounts state) (holds : SweepsHold orphanAgeMs state)
    (enabled : list sweepId state = some next) :
    Accounts next ∧ SweepsHold orphanAgeMs next := by
  unfold list at enabled
  split at enabled
  · cases enabled
  · rename_i free
    cases enabled
    refine ⟨{ accounts with }, fun other sweep begun => ?_, ?_, fun path isRemoved => ?_⟩
    · rcases update_cases begun with ⟨_, rfl⟩ | ⟨_, earlier⟩
      · exact ⟨Nat.le_refl _, fun path referenced => Or.inl referenced⟩
      · exact holds.listed other sweep earlier
    · intro other sweep startedAt cutoffAt entry rest begun isRemoving
      rcases update_cases begun with ⟨_, rfl⟩ | ⟨_, earlier⟩
      · cases isRemoving
      · exact holds.removing other sweep startedAt cutoffAt entry rest earlier isRemoving
    · refine (holds.removed path isRemoved).imp_right fun ⟨other, sweep, begun, orphaned⟩ => ?_
      have different : other ≠ sweepId := by
        rintro rfl
        cases free.symm.trans begun
      exact ⟨other, sweep, update_of_made begun different, orphaned⟩

theorem holds_write {callId : CreateImport.CallId} (accounts : Accounts state)
    (holds : SweepsHold orphanAgeMs state) (enabled : write callId state = some next) :
    Accounts next ∧ SweepsHold orphanAgeMs next := by
  unfold write at enabled
  split at enabled
  · rename_i source storagePath made
    cases enabled
    refine ⟨{ accounts with created := fun path createdAt isCreated => ?_ }, { holds with }⟩
    obtain ⟨isUsed, beforeModified, beforeNow⟩ := accounts.created path createdAt isCreated
    refine ⟨isUsed, ?_, beforeNow⟩
    show createdAt ≤ Function.update state.modified storagePath state.service.now path
    by_cases same : path = storagePath
    · rw [same, Function.update_self]
      exact beforeNow
    · rw [Function.update_of_ne same]
      exact beforeModified
  · cases enabled

theorem holds_step {action : Action} (accounts : Accounts state)
    (holds : SweepsHold orphanAgeMs state)
    (enabled : step config orphanAgeMs state action = some next) :
    Accounts next ∧ SweepsHold orphanAgeMs next := by
  cases action with
  | service action =>
    obtain ⟨after, serves, observes⟩ := Option.bind_eq_some_iff.mp enabled
    have moves : Moves (fun _ => False) state.service after := moves_of_step serves
    have observed := observed_of_observe observes
    exact ⟨accounts.observe moves observed, holds.observe accounts moves observed nofun⟩
  | write callId => exact holds_write accounts holds enabled
  | list sweepId => exact holds_list accounts holds enabled
  | sweep sweepId event => exact holds_sweepOn accounts holds enabled

/-! ### Live files are spared -/

theorem holds_initial (orphanAgeMs : Int) (now : Nat) (store : Store) (modified : JsString → Nat) :
    Accounts (initial now store modified) ∧
      SweepsHold orphanAgeMs (initial now store modified) := by
  refine ⟨⟨nofun, fun path known => List.mem_append.mpr known, ?_, ?_, nofun⟩,
    ⟨nofun, nofun, nofun⟩⟩
  · rintro callId path ⟨call, made, _⟩
    cases made
  · rintro callId other path ⟨call, made, _⟩
    cases made

theorem holds_run {now : Nat} {store : Store} {modified : JsString → Nat} {schedule : List Action}
    (reaches : run (step config orphanAgeMs) (initial now store modified) schedule = some state) :
    Accounts state ∧ SweepsHold orphanAgeMs state :=
  run_invariant reaches (fun _ state => Accounts state ∧ SweepsHold orphanAgeMs state)
    (holds_initial orphanAgeMs now store modified)
    fun _ _ _ _ holds enabled => holds_step holds.1 holds.2 enabled

end

/-- No file with a row, and none of an upload that gets one later, is ever removed, if the margin
is kept up to the cutoff of every sweep. -/
theorem sweeps_spare_live_files (config : StorageConfig) (orphanAgeMs : Int) (now : Nat)
    (store : Store) (modified : JsString → Nat) (schedule : List Action) (state : State)
    (reaches : run (step config orphanAgeMs) (initial now store modified) schedule = some state)
    (inTime : InTime orphanAgeMs SweepPhase.cutoffAt? state) : SparesLive state := by
  obtain ⟨accounts, holds⟩ := holds_run reaches
  intro path isRemoved referenced
  rcases holds.removed path isRemoved with ⟨_, notReferenced, _⟩ | orphan
  · exact notReferenced referenced
  · obtain ⟨sweepId, sweep, begun, _, notListed, cutoffAt, isCutoff, old⟩ := orphan
    obtain ⟨committedAt, committed, later⟩ :=
      ((holds.listed sweepId sweep begun).2 path referenced).resolve_left notListed
    obtain ⟨createdAt, isCreated⟩ := accounts.commits path committedAt committed
    have margin := inTime path committedAt committed createdAt isCreated sweepId sweep begun
      cutoffAt isCutoff
    have tooOld := old createdAt isCreated
    omega

/-! ### A cutoff that is taken late -/

/-- The storage of the schedules below. -/
def lateConfig : StorageConfig where
  storageRoot := JsString.ofString "/u"
  maxUploadBytes := 100

/-- An upload of an empty file. -/
def lateCommand : CreateImport.CreateImportCommand where
  idempotencyKey := JsString.ofString "k"
  fileStream := some { bytes := [], truncated := false }
  originalFilename := some (JsString.ofString "a.json")
  mimeType := JsString.ofString "application/json"

/-- A directory with a file that no row refers to. -/
def lateStart : State :=
  initial 20
    { db := Database.empty
      idempotencyKeys := []
      files := [{ storagePath := JsString.ofString "/u/old.json", content := [] }] }
    fun _ => 0

/-- An upload has its file when a sweep starts and gets its row soon after, and `readdir` returns
ten milliseconds later. The sweep removes the old file and looks at the new one. -/
def lateSchedule : List Action :=
  [.service (.execute 0 lateCommand),
    .service (.proceed 0 (.createFile (JsString.ofString "f"))),
    .service (.proceed 0 .streamEnded), .list 0, .sweep 0 .start, .service (.advance 1),
    .service (.proceed 0 (.transaction 1 1 1 .target)), .service (.advance 9),
    .sweep 0 .readdir, .sweep 0 .resume, .sweep 0 .stat, .sweep 0 .rm, .sweep 0 .stat]

/-- What the run of a schedule with one sweep is about. -/
structure OneSweep (state : State) (removed : List JsString) : Prop where
  commits : state.commits = [(JsString.ofString "/u/f.json", 21)]
  created : state.created (JsString.ofString "/u/f.json") = some 20
  sweep : state.sweeps 0 = some ⟨[], 20, .scanning 20 30 []⟩
  noOther : ∀ sweepId, state.sweeps (sweepId + 1) = none
  removed : state.removed = removed
  referenced : state.service.store.referenced = [JsString.ofString "/u/f.json"]

theorem OneSweep.inTime {state : State} {removed : List JsString} (one : OneSweep state removed)
    {orphanAgeMs : Int} {counts : SweepPhase → Option Nat} {time : Nat}
    (counted : counts (.scanning 20 30 []) = some time) (margin : (time : Int) - 19 < orphanAgeMs) :
    InTime orphanAgeMs counts state := by
  intro path committedAt committed createdAt isCreated sweepId sweep begun other isTime
  rw [one.commits] at committed
  cases List.mem_singleton.mp committed
  cases one.created.symm.trans isCreated
  cases sweepId with
  | succ sweepId => cases (one.noOther sweepId).symm.trans begun
  | zero =>
    cases one.sweep.symm.trans begun
    cases counted.symm.trans isTime
    show ((21 : Nat) : Int) - (20 : Nat) + (time - (20 : Nat)) < orphanAgeMs
    omega

/-- With the margin kept up to the cutoff, only the old file is removed. -/
theorem sweeps_spare_live_files_late :
    ∃ state, run (step lateConfig 12) lateStart lateSchedule = some state ∧
      state.removed = [JsString.ofString "/u/old.json"] ∧ SparesLive state := by
  obtain ⟨state, reaches⟩ : ∃ state,
      run (step lateConfig 12) lateStart lateSchedule = some state :=
    Option.isSome_iff_exists.mp rfl
  have one : OneSweep state [JsString.ofString "/u/old.json"] :=
    { commits := view_of_run reaches State.commits rfl
      created :=
        view_of_run reaches (fun state => state.created (JsString.ofString "/u/f.json")) rfl
      sweep := view_of_run reaches (fun state => state.sweeps 0) rfl
      noOther := fun other => view_of_run reaches (fun state => state.sweeps (other + 1)) rfl
      removed := view_of_run reaches State.removed rfl
      referenced := view_of_run reaches (fun state => state.service.store.referenced) rfl }
  exact ⟨state, reaches, one.removed,
    sweeps_spare_live_files lateConfig 12 _ _ _ lateSchedule state reaches
      (one.inTime rfl (by decide))⟩

/-- Counted up to the start of `cleanupOrphans` only, the margin is kept, and the file of the
upload is removed although it has a row. -/
theorem lateCutoff_removes :
    ¬ ∀ (config : StorageConfig) (orphanAgeMs : Int) (now : Nat) (store : Store)
      (modified : JsString → Nat) (schedule : List Action) (state : State),
      run (step config orphanAgeMs) (initial now store modified) schedule = some state →
        InTime orphanAgeMs SweepPhase.startedAt? state → SparesLive state := by
  intro spares
  obtain ⟨state, reaches⟩ : ∃ state,
      run (step lateConfig 10) lateStart (lateSchedule ++ [.sweep 0 .rm]) = some state :=
    Option.isSome_iff_exists.mp rfl
  have one : OneSweep state [JsString.ofString "/u/old.json", JsString.ofString "/u/f.json"] :=
    { commits := view_of_run reaches State.commits rfl
      created :=
        view_of_run reaches (fun state => state.created (JsString.ofString "/u/f.json")) rfl
      sweep := view_of_run reaches (fun state => state.sweeps 0) rfl
      noOther := fun other => view_of_run reaches (fun state => state.sweeps (other + 1)) rfl
      removed := view_of_run reaches State.removed rfl
      referenced := view_of_run reaches (fun state => state.service.store.referenced) rfl }
  have spared := spares lateConfig 10 _ _ _ _ state reaches (one.inTime rfl (by decide))
  rw [SparesLive, one.removed, one.referenced] at spared
  exact spared _ (List.mem_cons_of_mem _ (List.mem_singleton_self _)) (List.mem_singleton_self _)

end ImportService.OrphanSweep
