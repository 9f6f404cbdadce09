/-
This file joins the requests for uploads and the workers: any number of processes of either kind
over one store and one clock, with the requests for cancellations. An execution reads the file
that the directory has at the path of its import.

A step is one of the requests or one of the workers, and the two parts only meet in the store: a
request changes the tables by adding the rows of an import (`step_request`), and nothing that a
worker does touches a file or a key (`step_process`). The sweeps for orphaned files are left out.
-/

import ImportService.EffectivelyOnce
import ImportService.LineReader
import ImportService.UploadRetries

namespace ImportService

open KeyedTable JobPollerService

/-! ### The files an execution reads -/

/-- The functions of the host, with the decoding of UTF-8. -/
structure Host where
  runtime : Runtime
  decode : List UInt8 → List Char
  computeRiskScore : ValidatedTransaction → JsString → Rat × RiskLevel

/-- The ports over files of some content. -/
def Host.ports (host : Host) (contentAt : JsString → List UInt8) : Ports where
  runtime := host.runtime
  readLines storagePath := ReadlineLineReader.readLines (host.decode (contentAt storagePath))
  countLines storagePath := ReadlineLineReader.countLines [contentAt storagePath]
  computeRiskScore := host.computeRiskScore

/-- What the file at a path holds. A path that a row refers to has a file. -/
def Store.contentAt (store : Store) (storagePath : JsString) : List UInt8 :=
  ((lookup StoredFile.storagePath store.files storagePath).map StoredFile.content).getD []

namespace Service

/-- The configurations of the two parts, and what they run on. -/
structure Config where
  api : ImportApi.Config
  apiPorts : ImportApi.Ports
  worker : ImportService.Config
  host : Host

/-- The state of the requests, which has the store, and that of the workers. -/
structure State where
  api : ImportApi.State
  workers : WorkerId → Worker
  requests : RequestId → Request

/-- What the workers and the cancellations see. -/
def State.view (state : State) : System.State where
  now := state.api.now
  db := state.api.store.db
  workers := state.workers
  requests := state.requests

/-- The state after a step of theirs. -/
def State.withView (state : State) (view : System.State) : State where
  api := { state.api with now := view.now, store := { state.api.store with db := view.db } }
  workers := view.workers
  requests := view.requests

/-- The ports of the workers over the files of the store. -/
def State.ports (host : Host) (state : State) : Ports := host.ports state.api.store.contentAt

/-- A step of the requests or of the workers. -/
inductive Action
  | api (action : ImportApi.Action)
  | process (action : System.Action)

/-- The actions of either part, without those in which it stands for the other one. -/
def isOfRequests : ImportApi.Action → Bool
  | .receive _ _ | .proceed _ _ | .restart _ => true
  | .advance _ | .elsewhere _ => false

/-- The workers, the clock and the cancellations. An upload is a request here. -/
def isOfWorkers : System.Action → Bool
  | .advance _ | .requestCancellation _ _ | .cancel _ _ | .work _ _ => true
  | .create _ _ _ _ => false

/-- A step of either part on the store they share. -/
def step (config : Config) (state : State) : Action → Option State
  | .api action =>
      if isOfRequests action then
        (ImportApi.step config.api config.apiPorts state.api action).map fun api =>
          { state with api }
      else none
  | .process action =>
      if isOfWorkers action then
        (System.step (state.ports config.host) config.worker state.view action).map state.withView
      else none

/-- No request has come, and no worker has started. -/
def initial (now : Nat) (store : Store) : State where
  api := ImportApi.initial now store
  workers := fun _ => Worker.new
  requests := fun _ => .unsent

/-! ### What a request does to the tables -/

/-- A step leaves the tables as they are, or it adds the rows of an import. -/
inductive AddsImport (store : Store) : Store → Prop
  | none {next : Store} (db : next.db = store.db)
      (keys : next.idempotencyKeys = store.idempotencyKeys) : AddsImport store next
  | one {input : CreateImportInput} {jobId : JobId} {now : Nat}
      (fresh : System.isFresh input.id jobId store.db = true) :
      AddsImport store (store.withImport input jobId now)

theorem AddsImport.transactions {store next : Store} (adds : AddsImport store next) :
    next.db.transactions = store.db.transactions := by
  cases adds with
  | none db => rw [db]
  | one => rfl

section

variable {config : ImportApi.Config} {ports : ImportApi.Ports} {request : UploadRequest}
  {command : CreateImport.CreateImportCommand} {start store next : Store}
  {stage after : ImportApi.Stage}

theorem addsImport_of_unanswered {storagePath : JsString}
    (transaction : ImportApi.Unanswered command storagePath store next) :
    AddsImport store next := by
  cases transaction with
  | rollsBack => exact .none rfl rfl
  | commits free fresh => exact .one fresh

theorem addsImport_of_goes (goes : ImportApi.Goes config ports request store stage next after) :
    AddsImport store next := by
  cases goes with
  | turnsDown | checks | starts => exact .none rfl rfl
  | proceeds moves =>
    cases moves with
    | wins free fresh => exact .one fresh
    | opens | saves | exceeds | loses | replays | discards => exact .none rfl rfl
  | breaks fails =>
    cases fails with
    | untouched | removes | leaves => exact .none rfl rfl
    | unanswered transaction => exact addsImport_of_unanswered transaction
  | comesThrough transaction => exact addsImport_of_unanswered transaction

/-! ### No two files have one path -/

theorem distinct_paths_of_goes (distinct : store.paths.Nodup)
    (goes : ImportApi.Goes config ports request store stage next after) : next.paths.Nodup := by
  have filled (storagePath : JsString) (bytes : List UInt8) :
      (DiskFileStorage.fill storagePath bytes store).paths.Nodup := by
    rw [CreateImport.paths_fill]
    exact distinct
  have removed (storagePath : JsString) : (DiskFileStorage.rm storagePath store).paths.Nodup :=
    distinct.sublist (List.Sublist.map _ List.filter_sublist)
  cases goes with
  | turnsDown | checks | starts => exact distinct
  | proceeds moves =>
    cases moves with
    | @opens source extension storagePath fresh =>
      refine distinct_snoc StoredFile.storagePath distinct ((lookup_eq_none _).mpr ?_)
      rintro file member rfl
      exact (CreateImport.isFreshPath_iff.mp fresh).1 (List.mem_map_of_mem member)
    | saves => exact filled _ _
    | exceeds | discards => exact removed _
    | wins | loses | replays => exact distinct
  | breaks fails =>
    cases fails with
    | untouched => exact distinct
    | removes => exact removed _
    | leaves => exact filled _ _
    | unanswered transaction => cases transaction <;> exact distinct
  | comesThrough transaction => cases transaction <;> exact distinct

theorem contentAt_of_mem (distinct : store.paths.Nodup) {file : StoredFile}
    (member : file ∈ store.files) : store.contentAt file.storagePath = file.content := by
  rw [Store.contentAt, lookup_of_mem StoredFile.storagePath distinct member]
  rfl

end

/-! ### The steps of the two parts -/

section

variable {config : Config} {start : Store} {state next : State}

/-- The invariant of the requests, and that no two files have one path. -/
structure Invariant (config : Config) (start : Store) (state : State) : Prop where
  api : ImportApi.Invariant config.api.storage.maxUploadBytes start state.api
  paths : state.api.store.paths.Nodup

/-- What a step of a request is for the workers. -/
structure RequestStep (state next : State) : Prop where
  workers : next.workers = state.workers
  requests : next.requests = state.requests
  adds : AddsImport state.api.store next.api.store
  contents : ∀ path ∈ state.api.store.referenced,
    next.api.store.contentAt path = state.api.store.contentAt path

/-- What a step of a worker is for the requests. -/
structure ProcessStep (config : Config) (state next : State) (action : System.Action) : Prop where
  enabled : System.step (state.ports config.host) config.worker state.view action = some next.view
  keys : next.api.store.idempotencyKeys = state.api.store.idempotencyKeys
  files : next.api.store.files = state.api.store.files
  exchanges : next.api.exchanges = state.api.exchanges

/-- Only a request that goes on touches the store. -/
theorem store_of_apiStep {action : ImportApi.Action} {api : ImportApi.State}
    (invariant : Invariant config start state) (own : isOfRequests action = true)
    (enabled : ImportApi.step config.api config.apiPorts state.api action = some api) :
    api.store = state.api.store ∨ ∃ request stage after,
      ImportApi.Goes config.api config.apiPorts request state.api.store stage api.store after := by
  cases action with
  | advance | elsewhere => cases own
  | receive process request =>
    rw [ImportApi.step] at enabled
    split at enabled <;>
    · cases enabled
      exact Or.inl rfl
  | proceed index event =>
    cases made : state.api.exchanges[index]? with
    | none =>
      simp only [ImportApi.step, made] at enabled
      cases enabled
    | some exchange =>
      simp only [ImportApi.step, made] at enabled
      obtain ⟨⟨store, after⟩, goesOn, rfl⟩ := Option.map_eq_some_iff.mp enabled
      exact Or.inr ⟨_, _, after, ImportApi.goes_of_proceed invariant.api.consistent
        (invariant.api.fits index exchange made) goesOn⟩
  | restart process =>
    cases enabled
    exact Or.inl rfl

theorem requestStep_of_step {action : ImportApi.Action} (invariant : Invariant config start state)
    (enabled : step config state (.api action) = some next) :
    Invariant config start next ∧ RequestStep state next := by
  rw [step] at enabled
  split at enabled
  case isFalse => cases enabled
  rename_i own
  obtain ⟨api, moves, rfl⟩ := Option.map_eq_some_iff.mp enabled
  have isInvariant := ImportApi.invariant_step invariant.api moves
  have keeps := ImportApi.keepsPromises_step invariant.api moves
  have touches := store_of_apiStep invariant own moves
  have paths : api.store.paths.Nodup := by
    rcases touches with unchanged | ⟨_, _, _, goes⟩
    · rw [unchanged]
      exact invariant.paths
    · exact distinct_paths_of_goes invariant.paths goes
  refine ⟨⟨isInvariant, paths⟩, ?_⟩
  exact
    { workers := rfl
      requests := rfl
      adds := by
        rcases touches with unchanged | ⟨_, _, _, goes⟩
        · exact .none (congrArg Store.db unchanged) (congrArg Store.idempotencyKeys unchanged)
        · exact addsImport_of_goes goes
      contents := by
        intro path referenced
        obtain ⟨file, member, rfl⟩ :=
          List.mem_map.mp (invariant.api.consistent.stored referenced)
        rw [contentAt_of_mem paths (keeps.files file member referenced),
          contentAt_of_mem invariant.paths member] }

/-- A worker writes no row of a file and creates no import. -/
theorem sameRows_of_step {action : System.Action} {view : System.State}
    (own : isOfWorkers action = true)
    (enabled : System.step (state.ports config.host) config.worker state.view action = some view) :
    CreateImport.SameRows state.api.store.db view.db := by
  rw [System.step_db enabled]
  cases emits : System.emitted (state.ports config.host) config.worker state.view action with
  | none => exact ⟨rfl, rfl, rfl⟩
  | some statement =>
    refine CreateImport.sameRows_commit state.api.now state.api.store.db ?_
    cases System.emitted_origin emits with
    | create => cases own
    | execute executing calls => cases calls <;> rfl
    | cancel | reclaim | claimNext | releaseJob | releaseImport => rfl

theorem processStep_of_step {action : System.Action} (invariant : Invariant config start state)
    (enabled : step config state (.process action) = some next) :
    Invariant config start next ∧ ProcessStep config state next action := by
  rw [step] at enabled
  split at enabled
  · rename_i own
    obtain ⟨view, moves, rfl⟩ := Option.map_eq_some_iff.mp enabled
    have api : ImportApi.Invariant config.api.storage.maxUploadBytes start
        (state.withView view).api :=
      ImportApi.invariant_elsewhere invariant.api (sameRows_of_step own moves)
    exact ⟨⟨api, invariant.paths⟩, ⟨moves, rfl, rfl, rfl⟩⟩
  · cases enabled

theorem invariant_initial (config : Config) (now : Nat) (consistent : start.Consistent)
    (paths : start.paths.Nodup) : Invariant config start (initial now start) where
  api := ImportApi.invariant_initial config.api.storage.maxUploadBytes now consistent
  paths := paths

end

end Service

end ImportService
