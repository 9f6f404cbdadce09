/-
This file proves that a client may send an upload again whenever it has not been told how the
first one ended. Whatever fails on the way, and whatever processes end, a key has one import, and
every acceptance for the key names it. The requests that may have made an import or left a file
without saying so are told apart from the others by their replies: one that was turned down has
done neither (`retries_are_safe`).
-/

import ImportService.UploadSteps

namespace ImportService.ImportApi

open KeyedTable CreateImport JsString

/-! ### The invariant of a run -/

/-- A file that has come and that no row refers to. -/
structure Stray (start store : Store) (path : JsString) : Prop where
  stored : path ∈ store.paths
  isNew : path ∉ start.paths
  notReferenced : path ∉ store.referenced

/-- Every stray file is held by a request of its own. -/
def Accounted (start : Store) (state : State) : Prop :=
  ∃ holder : JsString → Nat,
    (∀ path, Stray start state.store path → ∃ exchange,
      state.exchanges[holder path]? = some exchange ∧ exchange.stage.Holds path) ∧
    Set.InjOn holder {path | Stray start state.store path}

/-- What holds in every state. -/
structure Invariant (maxUploadBytes : Nat) (start : Store) (state : State) : Prop where
  consistent : state.store.Consistent
  startFiles : start.files ⊆ state.store.files
  startKeys : start.idempotencyKeys ⊆ state.store.idempotencyKeys
  fits : ∀ (index : Nat) (exchange : Exchange), state.exchanges[index]? = some exchange →
    exchange.stage.Fits maxUploadBytes start state.store exchange.request
  apart : ∀ (first second : Nat) (firstExchange secondExchange : Exchange) (path : JsString),
    state.exchanges[first]? = some firstExchange →
    state.exchanges[second]? = some secondExchange →
    firstExchange.stage.path? = some path → secondExchange.stage.path? = some path →
    first = second
  created : ∀ row ∈ state.store.idempotencyKeys, row ∈ start.idempotencyKeys ∨
    ∃ exchange ∈ state.exchanges, exchange.stage.Created state.store row
  accounted : Accounted start state

theorem invariant_initial (maxUploadBytes now : Nat) {start : Store}
    (consistent : start.Consistent) : Invariant maxUploadBytes start (initial now start) where
  consistent := consistent
  startFiles := List.Subset.refl _
  startKeys := List.Subset.refl _
  fits := fun index exchange made => by cases made
  apart := fun first second _ _ _ made => by cases made
  created := fun _ member => Or.inl member
  accounted := ⟨fun _ => 0, fun _ stray => absurd stray.stored stray.isNew,
    fun _ stray => absurd stray.stored stray.isNew⟩

section

variable {maxUploadBytes : Nat} {start : Store} {state : State}

theorem Stage.Created.keeps {stage : Stage} {store next : Store} {row : IdempotencyKeyRow}
    {touched : Option JsString} (created : stage.Created store row)
    (keeps : Keeps touched store next)
    (notReferenced : ∀ path ∈ store.referenced, touched ≠ some path) : stage.Created next row := by
  obtain ⟨ending, command, isEnded, mayHave, mine, key, stored⟩ := created
  exact ⟨ending, command, isEnded, mayHave, mine, key, stored.keeps keeps notReferenced⟩

/-! ### Steps that are no step of a request -/

/-- A step of another part of the service. -/
theorem invariant_elsewhere {now : Nat} {db : Database}
    (invariant : Invariant maxUploadBytes start state) (same : SameRows state.store.db db) :
    Invariant maxUploadBytes start { state with now, store := { state.store with db } } where
  consistent := consistent_of_sameRows invariant.consistent same
  startFiles := invariant.startFiles
  startKeys := invariant.startKeys
  fits := fun index exchange made => (invariant.fits index exchange made).keeps
    (keeps_of_sameRows same) (fun _ _ same => by cases same) (fun _ _ same => by cases same)
  apart := invariant.apart
  created := by
    intro row member
    refine (invariant.created row member).imp_right fun creator => ?_
    obtain ⟨exchange, exchangeMember, created⟩ := creator
    exact ⟨exchange, exchangeMember, created.keeps (keeps_of_sameRows same)
      fun _ _ same => by cases same⟩
  accounted := by
    obtain ⟨holder, holds, injective⟩ := invariant.accounted
    have before : ∀ path, Stray start { state.store with db } path →
        Stray start state.store path := by
      intro path stray
      refine ⟨stray.stored, stray.isNew, fun member => stray.notReferenced ?_⟩
      rw [Store.referenced, same.importFiles]
      exact member
    exact ⟨holder, fun path stray => holds path (before path stray),
      injective.mono fun path stray => before path stray⟩

/-- A request comes in. It has nothing yet. -/
theorem invariant_receives {new : Exchange} {inFlight : ProcessId → Int}
    (invariant : Invariant maxUploadBytes start state)
    (fits : new.stage.Fits maxUploadBytes start state.store new.request)
    (noPath : new.stage.path? = none) :
    Invariant maxUploadBytes start
      { state with inFlight, exchanges := state.exchanges ++ [new] } where
  consistent := invariant.consistent
  startFiles := invariant.startFiles
  startKeys := invariant.startKeys
  fits := by
    intro index exchange made
    rcases Transition.snoc_cases made with rfl | before
    · exact fits
    · exact invariant.fits index exchange before
  apart := by
    intro first second firstExchange secondExchange path madeFirst madeSecond pathFirst pathSecond
    rcases Transition.snoc_cases madeFirst with rfl | beforeFirst
    · cases noPath.symm.trans pathFirst
    · rcases Transition.snoc_cases madeSecond with rfl | beforeSecond
      · cases noPath.symm.trans pathSecond
      · exact invariant.apart first second _ _ path beforeFirst beforeSecond pathFirst pathSecond
  created := by
    intro row member
    refine (invariant.created row member).imp_right fun creator => ?_
    obtain ⟨exchange, exchangeMember, created⟩ := creator
    exact ⟨exchange, List.mem_append_left _ exchangeMember, created⟩
  accounted := by
    obtain ⟨holder, holds, injective⟩ := invariant.accounted
    refine ⟨holder, fun path stray => ?_, injective⟩
    obtain ⟨exchange, made, holdsPath⟩ := holds path stray
    refine ⟨exchange, ?_, holdsPath⟩
    have within : holder path < state.exchanges.length := (List.getElem?_eq_some_iff.mp made).1
    rw [List.getElem?_append_left within]
    exact made

end

/-! ### A process that ends -/

section

variable {maxUploadBytes : Nat} {start store : Store} {state : State} {stage : Stage}

theorem fits_sever {request : UploadRequest}
    (fits : stage.Fits maxUploadBytes start store request) :
    stage.sever.Fits maxUploadBytes start store request := by
  cases stage with
  | admitted | readingPart =>
    refine ⟨fun command mine => ?_, trivial⟩
    cases mine
  | executing command phase =>
    have mine : ∀ other, some command = some other →
        request.idempotencyKey = some (.text other.idempotencyKey) := by
      rintro other ⟨⟩
      exact fits.1
    cases phase with
    | creating storagePath => exact fits
    | starting | saving | readingExisting | deleting | returned | threw => exact ⟨mine, trivial⟩
  | severed | ended => exact fits

theorem path?_of_sever {path : JsString} (has : stage.sever.path? = some path) :
    stage.path? = some path := by
  cases stage with
  | admitted | readingPart => cases has
  | executing command phase =>
    cases phase with
    | creating storagePath => exact has
    | starting | saving | readingExisting | deleting | returned | threw => cases has
  | severed | ended => exact has

theorem created_sever {row : IdempotencyKeyRow} (created : stage.Created store row) :
    stage.sever.Created store row := by
  obtain ⟨ending, command, rfl, created⟩ := created
  exact ⟨ending, command, rfl, created⟩

theorem holds_sever {path : JsString} (holds : stage.Holds path) : stage.sever.Holds path := by
  rcases holds with has | ⟨ending, command, rfl, held⟩
  · cases stage with
    | admitted | readingPart | ended => cases has
    | executing command phase =>
      cases phase with
      | creating storagePath => exact Or.inl has
      | starting | saving | readingExisting | deleting | returned | threw =>
        exact Stage.holds_ended rfl rfl path
    | severed => exact Or.inl has
  · exact Or.inr ⟨ending, command, rfl, held⟩

/-- An exchange as it is when a process has ended. -/
def Exchange.afterRestart (process : ProcessId) (exchange : Exchange) : Exchange :=
  if exchange.process = process then { exchange with stage := exchange.stage.sever } else exchange

theorem afterRestart_cases (process : ProcessId) (exchange : Exchange) :
    (exchange.afterRestart process).request = exchange.request ∧
      ((exchange.afterRestart process).stage = exchange.stage.sever ∨
        (exchange.afterRestart process).stage = exchange.stage) := by
  unfold Exchange.afterRestart
  split
  · exact ⟨rfl, Or.inl rfl⟩
  · exact ⟨rfl, Or.inr rfl⟩

theorem invariant_restarts {inFlight : ProcessId → Int} (process : ProcessId)
    (invariant : Invariant maxUploadBytes start state) :
    Invariant maxUploadBytes start { state with
      inFlight, exchanges := state.exchanges.map (Exchange.afterRestart process) } where
  consistent := invariant.consistent
  startFiles := invariant.startFiles
  startKeys := invariant.startKeys
  fits := by
    intro index exchange made
    rw [List.getElem?_map] at made
    obtain ⟨before, madeBefore, rfl⟩ := Option.map_eq_some_iff.mp made
    have fits := invariant.fits index before madeBefore
    obtain ⟨sameRequest, severed | unchanged⟩ := afterRestart_cases process before
    · rw [sameRequest, severed]
      exact fits_sever fits
    · rw [sameRequest, unchanged]
      exact fits
  apart := by
    have pathBefore {exchange : Exchange} {path : JsString}
        (has : (exchange.afterRestart process).stage.path? = some path) :
        exchange.stage.path? = some path := by
      rcases (afterRestart_cases process exchange).2 with severed | unchanged
      · rw [severed] at has
        exact path?_of_sever has
      · rwa [unchanged] at has
    intro first second firstExchange secondExchange path madeFirst madeSecond pathFirst pathSecond
    rw [List.getElem?_map] at madeFirst madeSecond
    obtain ⟨beforeFirst, wasFirst, rfl⟩ := Option.map_eq_some_iff.mp madeFirst
    obtain ⟨beforeSecond, wasSecond, rfl⟩ := Option.map_eq_some_iff.mp madeSecond
    exact invariant.apart first second _ _ path wasFirst wasSecond (pathBefore pathFirst)
      (pathBefore pathSecond)
  created := by
    intro row member
    refine (invariant.created row member).imp_right fun creator => ?_
    obtain ⟨exchange, exchangeMember, created⟩ := creator
    refine ⟨_, List.mem_map_of_mem exchangeMember, ?_⟩
    rcases (afterRestart_cases process exchange).2 with severed | unchanged
    · rw [severed]
      exact created_sever created
    · rw [unchanged]
      exact created
  accounted := by
    obtain ⟨holder, holds, injective⟩ := invariant.accounted
    refine ⟨holder, fun path stray => ?_, injective⟩
    obtain ⟨exchange, made, holdsPath⟩ := holds path stray
    refine ⟨exchange.afterRestart process, ?_, ?_⟩
    · rw [List.getElem?_map, made]
      rfl
    · rcases (afterRestart_cases process exchange).2 with severed | unchanged
      · rw [severed]
        exact holds_sever holdsPath
      · rw [unchanged]
        exact holdsPath

end

/-! ### The step of a request -/

section

variable {config : Config} {ports : Ports} {start store : Store} {state : State} {index : Nat}
  {exchange : Exchange} {after : Stage}

/-- The path a step touches is nothing to the rest of the system. -/
structure Separate (start : Store) (state : State) (index : Nat) (touched : Option JsString) :
    Prop where
  notReferenced : ∀ other ∈ state.store.referenced, touched ≠ some other
  notAtStart : ∀ other ∈ start.paths, touched ≠ some other
  others : ∀ (other : Nat) (otherExchange : Exchange), other ≠ index →
    state.exchanges[other]? = some otherExchange →
    ∀ path, otherExchange.stage.path? = some path → touched ≠ some path

theorem separate_of_owns {maxUploadBytes : Nat} {touched : Option JsString}
    (invariant : Invariant maxUploadBytes start state)
    (made : state.exchanges[index]? = some exchange)
    (owns : ∀ path, touched = some path → exchange.stage.path? = some path ∨
      exchange.stage.path? = none ∧ isFreshPath path state.store = true) :
    Separate start state index touched where
  notReferenced := by
    rintro path member same
    rcases owns path same with own | ⟨_, fresh⟩
    · exact ((invariant.fits index exchange made).uploading own).notReferenced member
    · exact (isFreshPath_iff.mp fresh).2 member
  notAtStart := by
    rintro path member same
    rcases owns path same with own | ⟨_, fresh⟩
    · exact ((invariant.fits index exchange made).uploading own).isNew member
    · exact (isFreshPath_iff.mp fresh).1 (List.map_subset _ invariant.startFiles member)
  others := by
    rintro other otherExchange different otherMade path has same
    rcases owns path same with own | ⟨_, fresh⟩
    · exact different (invariant.apart other index otherExchange exchange path otherMade made has
        own)
    · exact (isFreshPath_iff.mp fresh).1
        ((invariant.fits other otherExchange otherMade).uploading has).written

/-- A holder keeps its file, or another request than the one of the step does; the file of an
upload that begins is held by its request. -/
theorem accounted_goes {maxUploadBytes : Nat} {inFlight : ProcessId → Int}
    (invariant : Invariant maxUploadBytes start state)
    (made : state.exchanges[index]? = some exchange)
    (goes : Goes config ports exchange.request state.store exchange.stage store after)
    {touched : Option JsString} (keeps : Keeps touched state.store store) :
    Accounted start { state with
      store, inFlight
      exchanges := state.exchanges.set index { exchange with stage := after } } := by
  obtain ⟨holder, holds, injective⟩ := invariant.accounted
  have before {path : JsString} (stray : Stray start store path)
      (member : path ∈ state.store.paths) : Stray start state.store path :=
    ⟨member, stray.isNew, fun referenced =>
      stray.notReferenced (List.map_subset _ keeps.importFiles referenced)⟩
  have opened {path : JsString} (stray : Stray start store path)
      (absent : path ∉ state.store.paths) :
      exchange.stage.path? = none ∧ after.path? = some path :=
    path_of_new goes stray.stored absent
  -- before its upload begins the request of the step holds nothing
  have unheld {path other : JsString} (stray : Stray start store path)
      (member : path ∈ state.store.paths) (otherStray : Stray start store other)
      (absent : other ∉ state.store.paths) : holder path ≠ index := by
    intro same
    obtain ⟨holding, holdingMade, holdsPath⟩ := holds path (before stray member)
    rw [same, made] at holdingMade
    cases holdingMade
    refine not_holds_of_goes goes (fun has => ?_) holdsPath
    cases (opened otherStray absent).1.symm.trans has
  refine ⟨fun path => if path ∈ state.store.paths then holder path else index, ?_, ?_⟩
  · intro path stray
    by_cases member : path ∈ state.store.paths
    · obtain ⟨holding, holdingMade, holdsPath⟩ := holds path (before stray member)
      simp only [member, if_true]
      by_cases same : holder path = index
      · rw [same, made] at holdingMade
        cases holdingMade
        refine ⟨_, (congrArg _ same).trans (Transition.set_self made), ?_⟩
        rcases paths_of_goes goes stray.stored with held | referenced | ⟨_, other⟩
        · exact held
        · exact absurd referenced stray.notReferenced
        · exact absurd holdsPath (not_holds_of_goes goes other)
      · refine ⟨holding, ?_, holdsPath⟩
        rw [List.getElem?_set_ne fun equal => same equal.symm]
        exact holdingMade
    · simp only [member, if_false]
      exact ⟨_, Transition.set_self made, Or.inl (opened stray member).2⟩
  · intro first firstStray second secondStray same
    by_cases firstMember : first ∈ state.store.paths
    · by_cases secondMember : second ∈ state.store.paths
      · simp only [firstMember, secondMember, if_true] at same
        exact injective (before firstStray firstMember) (before secondStray secondMember) same
      · simp only [firstMember, secondMember, if_true, if_false] at same
        exact absurd same (unheld firstStray firstMember secondStray secondMember)
    · by_cases secondMember : second ∈ state.store.paths
      · simp only [firstMember, secondMember, if_true, if_false] at same
        exact absurd same.symm (unheld secondStray secondMember firstStray firstMember)
      · have firstPath := (opened firstStray firstMember).2
        have secondPath := (opened secondStray secondMember).2
        exact Option.some.inj (firstPath.symm.trans secondPath)

theorem invariant_goes {inFlight : ProcessId → Int}
    (invariant : Invariant config.storage.maxUploadBytes start state)
    (made : state.exchanges[index]? = some exchange)
    (goes : Goes config ports exchange.request state.store exchange.stage store after) :
    Invariant config.storage.maxUploadBytes start { state with
      store, inFlight
      exchanges := state.exchanges.set index { exchange with stage := after } } := by
  obtain ⟨touched, keeps, pathAfter, owns⟩ := keeps_of_goes goes
  have separate : Separate start state index touched := separate_of_owns invariant made owns
  have fits := invariant.fits index exchange made
  exact
    { consistent := consistent_of_goes invariant.consistent fits goes
      startFiles := fun file member => keeps.files file (invariant.startFiles member)
        (separate.notAtStart _ (List.mem_map_of_mem member))
      startKeys := fun _ member => keeps.idempotencyKeys (invariant.startKeys member)
      fits := by
        intro other otherExchange otherMade
        rcases Transition.set_cases otherMade with ⟨_, rfl⟩ | ⟨different, before⟩
        · exact fits_of_goes invariant.startFiles invariant.startKeys fits goes
        · exact (invariant.fits other otherExchange before).keeps keeps separate.notReferenced
            (separate.others other otherExchange different before)
      apart := by
        have alone {other : Nat} {otherExchange : Exchange} {path : JsString}
            (different : other ≠ index)
            (before : state.exchanges[other]? = some otherExchange)
            (own : after.path? = some path) : otherExchange.stage.path? ≠ some path := by
          intro has
          rcases pathAfter with none | same
          · cases none.symm.trans own
          · exact separate.others other otherExchange different before path has
              (same.symm.trans own)
        intro first second firstExchange secondExchange path madeFirst madeSecond pathFirst
          pathSecond
        rcases Transition.set_cases madeFirst with ⟨sameFirst, rfl⟩ | ⟨differentFirst, beforeFirst⟩
        · rcases Transition.set_cases madeSecond with
            ⟨sameSecond, rfl⟩ | ⟨differentSecond, beforeSecond⟩
          · exact sameFirst.trans sameSecond.symm
          · exact absurd pathSecond (alone differentSecond beforeSecond pathFirst)
        · rcases Transition.set_cases madeSecond with ⟨_, rfl⟩ | ⟨_, beforeSecond⟩
          · exact absurd pathFirst (alone differentFirst beforeFirst pathSecond)
          · exact invariant.apart first second _ _ path beforeFirst beforeSecond pathFirst
              pathSecond
      created := by
        intro row member
        rcases keys_of_goes invariant.startKeys invariant.startFiles fits goes member with
          before | created
        · refine (invariant.created row before).imp_right fun creator => ?_
          obtain ⟨creating, creatingMember, created⟩ := creator
          obtain ⟨other, otherMade⟩ := List.mem_iff_getElem?.mp creatingMember
          refine ⟨creating, ?_, created.keeps keeps separate.notReferenced⟩
          by_cases same : other = index
          · obtain ⟨ending, _, isEnded, _⟩ := created
            rw [same, made] at otherMade
            cases otherMade
            exact absurd isEnded (not_ended_of_goes goes ending)
          · refine List.mem_of_getElem? (i := other) ?_
            rw [List.getElem?_set_ne fun equal => same equal.symm]
            exact otherMade
        · exact Or.inr ⟨_, List.mem_of_getElem? (Transition.set_self made), created⟩
      accounted := accounted_goes invariant made goes keeps }

/-! ### Runs -/

variable {next : State} {action : Action}

/-- What a step of a run does. -/
theorem step_cases (invariant : Invariant config.storage.maxUploadBytes start state)
    (enabled : step config ports state action = some next) :
    (∃ now db, SameRows state.store.db db ∧
        next = { state with now, store := { state.store with db } }) ∨
      (∃ process request inFlight stage, (∀ store,
          Stage.Fits config.storage.maxUploadBytes start store request stage) ∧
        stage.path? = none ∧ next = { state with
          inFlight, exchanges := state.exchanges ++ [⟨process, request, stage⟩] }) ∨
      (∃ index exchange inFlight store after, state.exchanges[index]? = some exchange ∧
        Goes config ports exchange.request state.store exchange.stage store after ∧
        next = { state with
          store, inFlight
          exchanges := state.exchanges.set index { exchange with stage := after } }) ∨
      ∃ process inFlight, next = { state with
        inFlight, exchanges := state.exchanges.map (Exchange.afterRestart process) } := by
  cases action with
  | advance milliseconds =>
    cases enabled
    exact Or.inl ⟨_, state.store.db, ⟨rfl, rfl, rfl⟩, rfl⟩
  | elsewhere statement =>
    rw [step] at enabled
    cases other : createsImport statement with
    | true =>
      rw [other, if_pos rfl] at enabled
      cases enabled
    | false =>
      rw [other, if_neg Bool.false_ne_true] at enabled
      cases enabled
      exact Or.inl ⟨state.now, _, sameRows_commit state.now state.store.db other, rfl⟩
  | receive process request =>
    rw [step] at enabled
    split at enabled
    · cases enabled
      refine Or.inr (Or.inl ⟨process, request, state.inFlight, .ended (.threw none
        (.domain (.TooManyConcurrentUploadsError config.maxConcurrentUploads))), fun _ => ⟨?_, ?_⟩,
        rfl, rfl⟩)
      · rintro command ⟨⟩
      · exact .listed (List.mem_of_getElem? (i := 7) rfl) rfl rfl rfl rfl
    · cases enabled
      exact Or.inr (Or.inl ⟨process, request, _, .admitted, fun _ => trivial, rfl, rfl⟩)
  | proceed index event =>
    cases made : state.exchanges[index]? with
    | none =>
      simp only [step, made] at enabled
      cases enabled
    | some exchange =>
      simp only [step, made] at enabled
      obtain ⟨⟨store, after⟩, goesOn, rfl⟩ := Option.map_eq_some_iff.mp enabled
      exact Or.inr (Or.inr (Or.inl ⟨index, exchange, _, store, after, made,
        goes_of_proceed invariant.consistent (invariant.fits index exchange made) goesOn, rfl⟩))
  | restart process =>
    cases enabled
    exact Or.inr (Or.inr (Or.inr ⟨process, _, rfl⟩))

theorem invariant_step (invariant : Invariant config.storage.maxUploadBytes start state)
    (enabled : step config ports state action = some next) :
    Invariant config.storage.maxUploadBytes start next := by
  rcases step_cases invariant enabled with ⟨now, db, same, rfl⟩ |
    ⟨process, request, inFlight, stage, fits, noPath, rfl⟩ |
    ⟨index, exchange, inFlight, store, after, made, goes, rfl⟩ | ⟨process, inFlight, rfl⟩
  · exact invariant_elsewhere invariant same
  · exact invariant_receives invariant (fits state.store) noPath
  · exact invariant_goes invariant made goes
  · exact invariant_restarts process invariant

/-- No row and no file that a row refers to is lost or changed. -/
structure KeepsPromises (state : State) (_ : Action) (next : State) : Prop where
  keys : state.store.idempotencyKeys ⊆ next.store.idempotencyKeys
  importFiles : state.store.db.importFiles ⊆ next.store.db.importFiles
  files : ∀ file ∈ state.store.files, file.storagePath ∈ state.store.referenced →
    file ∈ next.store.files

theorem keepsPromises_of_keeps {touched : Option JsString}
    (keeps : Keeps touched state.store next.store)
    (notReferenced : ∀ path ∈ state.store.referenced, touched ≠ some path) :
    KeepsPromises state action next where
  keys := keeps.idempotencyKeys
  importFiles := keeps.importFiles
  files := fun file member referenced => keeps.files file member (notReferenced _ referenced)

theorem keepsPromises_step (invariant : Invariant config.storage.maxUploadBytes start state)
    (enabled : step config ports state action = some next) : KeepsPromises state action next := by
  rcases step_cases invariant enabled with ⟨now, db, same, rfl⟩ |
    ⟨process, request, inFlight, stage, fits, noPath, rfl⟩ |
    ⟨index, exchange, inFlight, store, after, made, goes, rfl⟩ | ⟨process, inFlight, rfl⟩
  · exact keepsPromises_of_keeps (keeps_of_sameRows same) fun _ _ same => by cases same
  · exact keepsPromises_of_keeps (keeps_refl none _) fun _ _ same => by cases same
  · obtain ⟨touched, keeps, _, owns⟩ := keeps_of_goes goes
    exact keepsPromises_of_keeps keeps (separate_of_owns invariant made owns).notReferenced
  · exact keepsPromises_of_keeps (keeps_refl none _) fun _ _ same => by cases same

theorem invariant_run {now : Nat} (consistent : start.Consistent) {schedule : List Action}
    (reaches : Transition.run (step config ports) (initial now start) schedule = some state) :
    Invariant config.storage.maxUploadBytes start state :=
  Transition.Reachable.invariant ⟨schedule, reaches⟩
    (Invariant config.storage.maxUploadBytes start)
    (invariant_initial config.storage.maxUploadBytes now consistent)
    fun _ _ _ invariant enabled => invariant_step invariant enabled

end

/-! ### What a client can tell from a reply -/

/-- What requests have come to that came in on a store. -/
structure RetriesSafely (start : Store) (state : State) : Prop where
  consistent : state.store.Consistent
  oneOfEach : state.store.OneOfEach
  /-- An acceptance names the import of the key. -/
  accepted : ∀ exchange ∈ state.exchanges, ∀ body, exchange.reply = some (.accepted body) →
    ∃ key, exchange.request.idempotencyKey = some (.text key) ∧
      ⟨key, body.id⟩ ∈ state.store.idempotencyKeys
  /-- Acceptances name one import if and only if they are for one key. -/
  sameImport : ∀ first ∈ state.exchanges, ∀ second ∈ state.exchanges, ∀ firstBody secondBody,
    first.reply = some (.accepted firstBody) → second.reply = some (.accepted secondBody) →
    (first.request.idempotencyKey = second.request.idempotencyKey ↔
      firstBody.id = secondBody.id)
  /-- The import of a new key has the upload of a request with this key, which was told so, or
  that the database was unavailable, or nothing. -/
  created : ∀ row ∈ state.store.idempotencyKeys, row ∉ start.idempotencyKeys →
    ∃ exchange ∈ state.exchanges, ∃ command,
      exchange.request.idempotencyKey = some (.text row.key) ∧
      command.idempotencyKey = row.key ∧ StoredFor state.store command row.importId ∧
      ∀ reply, exchange.reply = some reply →
        (∃ body, reply = .accepted body ∧ body.id = row.importId) ∨
          reply.code = some (ofString "DATABASE_UNAVAILABLE")
  /-- A file that no row refers to is the one of a request which is told of a failure of the
  service, or nothing, and no two files are of one request. -/
  strays : ∃ holder : JsString → Nat,
    Set.InjOn holder {path | Stray start state.store path} ∧
      ∀ path, Stray start state.store path →
        ∃ exchange, state.exchanges[holder path]? = some exchange ∧
          ∀ reply, exchange.reply = some reply →
            reply.code = some (ofString "DATABASE_UNAVAILABLE") ∨
              reply.code = some (ofString "INTERNAL_ERROR")

section

variable {maxUploadBytes : Nat} {start : Store} {state : State} {exchange : Exchange}

/-- A request that may have made an import tells of it, or of the database, or nothing. -/
theorem reply_of_mayHaveCreated {ending : Ending} (isEnded : exchange.stage = .ended ending)
    (mayHave : ending.mayHaveCreated = true) {reply : ApiReply}
    (replied : exchange.reply = some reply) :
    (∃ body, reply = .accepted body) ∨ reply.code = some (ofString "DATABASE_UNAVAILABLE") := by
  rw [Exchange.reply, isEnded] at replied
  cases ending with
  | returned command importRecord =>
    cases replied
    exact Or.inl ⟨_, rfl⟩
  | threw command exception =>
    cases replied
    cases exception with
    | domain error => exact Or.inr (congrArg some (eq_of_beq mayHave))
    | raised => cases mayHave
  | lost => cases replied

/-- A request that may have left a file tells of a failure of the service, or nothing. -/
theorem reply_of_holds {path : JsString} (holds : exchange.stage.Holds path) {reply : ApiReply}
    (replied : exchange.reply = some reply) :
    reply.code = some (ofString "DATABASE_UNAVAILABLE") ∨
      reply.code = some (ofString "INTERNAL_ERROR") := by
  rcases holds with has | ⟨ending, command, isEnded, mayLeave, _⟩
  · cases isStage : exchange.stage with
    | admitted | readingPart | ended =>
      rw [isStage] at has
      cases has
    | executing | severed =>
      rw [Exchange.reply, isStage] at replied
      cases replied
  · rw [Exchange.reply, isEnded] at replied
    cases ending with
    | returned => cases mayLeave
    | threw command exception =>
      cases replied
      cases exception with
      | domain error =>
        rw [Ending.mayLeaveFile, isRaised, Bool.or_false] at mayLeave
        exact Or.inl (congrArg some (eq_of_beq mayLeave))
      | raised => exact Or.inr rfl
    | lost => cases replied

theorem accepted_of_invariant (invariant : Invariant maxUploadBytes start state)
    (member : exchange ∈ state.exchanges) {body : CreateImportResponseDto}
    (replied : exchange.reply = some (.accepted body)) :
    ∃ key, exchange.request.idempotencyKey = some (.text key) ∧
      ⟨key, body.id⟩ ∈ state.store.idempotencyKeys := by
  obtain ⟨index, made⟩ := List.mem_iff_getElem?.mp member
  have fits := invariant.fits index exchange made
  unfold Exchange.reply at replied
  split at replied
  · rename_i command importRecord isStage
    cases replied
    rw [isStage] at fits
    exact ⟨command.idempotencyKey, fits.1 command rfl, fits.2⟩
  · cases replied
  · cases replied
  · cases replied
  · cases replied
  · cases replied
  · cases replied

/-- A key has one import, and an import has one key. -/
theorem sameKey_iff (consistent : state.store.Consistent) {first second : IdempotencyKeyRow}
    (firstMember : first ∈ state.store.idempotencyKeys)
    (secondMember : second ∈ state.store.idempotencyKeys) :
    first.key = second.key ↔ first.importId = second.importId := by
  have importIds : (state.store.idempotencyKeys.map IdempotencyKeyRow.importId).Nodup :=
    consistent.keyed.nodup_iff.mpr consistent.importIds
  constructor
  · intro same
    rw [List.inj_on_of_nodup_map consistent.keys firstMember secondMember same]
  · intro same
    rw [List.inj_on_of_nodup_map importIds firstMember secondMember same]

theorem retriesSafely_of_invariant (invariant : Invariant maxUploadBytes start state) :
    RetriesSafely start state where
  consistent := invariant.consistent
  oneOfEach := invariant.consistent.oneOfEach
  accepted := fun _ member _ replied => accepted_of_invariant invariant member replied
  sameImport := by
    intro first firstMember second secondMember firstBody secondBody firstReply secondReply
    obtain ⟨firstKey, firstGiven, firstKeyed⟩ :=
      accepted_of_invariant invariant firstMember firstReply
    obtain ⟨secondKey, secondGiven, secondKeyed⟩ :=
      accepted_of_invariant invariant secondMember secondReply
    rw [firstGiven, secondGiven, Option.some_inj, HeaderValue.text.injEq]
    exact sameKey_iff invariant.consistent firstKeyed secondKeyed
  created := by
    intro row member isNew
    rcases invariant.created row member with old | ⟨exchange, exchangeMember, created⟩
    · exact absurd old isNew
    · obtain ⟨ending, command, isEnded, mayHave, mine, sameKey, stored⟩ := created
      obtain ⟨index, made⟩ := List.mem_iff_getElem?.mp exchangeMember
      have fits := invariant.fits index exchange made
      rw [isEnded] at fits
      have given := fits.1 command mine
      rw [sameKey] at given
      refine ⟨exchange, exchangeMember, command, given, sameKey, stored, fun reply replied => ?_⟩
      refine (reply_of_mayHaveCreated isEnded mayHave replied).imp_left fun accepted => ?_
      obtain ⟨body, rfl⟩ := accepted
      refine ⟨body, rfl, ?_⟩
      obtain ⟨key, otherGiven, keyed⟩ := accepted_of_invariant invariant exchangeMember replied
      cases given.symm.trans otherGiven
      exact (sameKey_iff invariant.consistent keyed member).mp rfl
  strays := by
    obtain ⟨holder, holds, injective⟩ := invariant.accounted
    refine ⟨holder, injective, fun path stray => ?_⟩
    obtain ⟨exchange, made, holdsPath⟩ := holds path stray
    exact ⟨exchange, made, fun reply replied => reply_of_holds holdsPath replied⟩

end

/-- Any requests to any processes, whatever fails and whichever processes end, from any consistent
store: a key gets one import, each acceptance for the key names it, what was created or left behind
without an acceptance is known by the replies, and nothing that was promised is lost. -/
theorem retries_are_safe (config : Config) (ports : Ports) (now : Nat) {start : Store}
    (consistent : start.Consistent) {schedule : List Action} {final : State}
    (reaches : Transition.run (step config ports) (initial now start) schedule = some final) :
    RetriesSafely start final ∧
      Transition.Every (step config ports) KeepsPromises (initial now start) schedule := by
  refine ⟨retriesSafely_of_invariant (invariant_run consistent reaches), ?_⟩
  exact Transition.Every.imp (Invariant config.storage.maxUploadBytes start)
    (fun _ _ _ invariant enabled _ => invariant_step invariant enabled)
    (fun _ _ _ invariant enabled _ => keepsPromises_step invariant enabled)
    (invariant_initial config.storage.maxUploadBytes now consistent)
    (Transition.every_true (step config ports) (initial now start) schedule)

/-- An upload that is sent with a key, and its part. -/
def sharedRequest (requestId : JsString) : UploadRequest where
  requestId := requestId
  idempotencyKey := some (.text [0x6b])
  isMultipart := true
  contentEncoding := none

/-- A part with an empty line. -/
def sharedPart : FilePart where
  fieldname := ofString "file"
  filename := some (ofString "a.ndjson")
  mimetype := ofString "text/plain"
  file := ⟨[0x0a], false⟩

/-- The connection to the database is lost. -/
def lostConnection : Raised := .error (ofString "Error") (ofString "connection lost") none

/-- A service with one place. -/
def smallApi : Config where
  storage := smallStorage
  maxConcurrentUploads := .finite 1

/-- Ports that know one error. -/
def silentPorts : Ports where
  uniqueViolation := fun _ => lostConnection
  recordNotFound := lostConnection

/-- The first request has its import made but is told that the database is unavailable. The second
one is lost with its process, and the third is told of the import. -/
def lostAnswer : List Action :=
  [.receive 0 (sharedRequest [0x61]), .proceed 0 .called, .proceed 0 (.partRead (.ok sharedPart)),
    .proceed 0 (.proceeds (.createFile [0x31])), .proceed 0 (.proceeds .streamEnded),
    .proceed 0 (.breaksDown (.transaction (some ⟨1, 1, 0⟩) lostConnection)),
    .receive 0 (sharedRequest [0x62]), .proceed 1 .called, .proceed 1 (.partRead (.ok sharedPart)),
    .proceed 1 (.proceeds (.createFile [0x32])), .restart 0,
    .receive 0 (sharedRequest [0x63]), .proceed 2 .called, .proceed 2 (.partRead (.ok sharedPart)),
    .proceed 2 (.proceeds (.createFile [0x33])), .proceed 2 (.proceeds .streamEnded),
    .proceed 2 (.proceeds (.transaction 2 2 0 .target)), .proceed 2 (.proceeds .existingRead),
    .proceed 2 (.proceeds .fileDeleted)]

theorem retries_are_safe_lostAnswer :
    ∃ final, Transition.run (step smallApi silentPorts) (initial 0 emptyStore) lostAnswer =
        some final ∧
      final.exchanges.map (fun exchange => exchange.reply.map ApiReply.status) =
        [some 503, none, some 202] ∧
      final.store.files.length = 2 ∧
      RetriesSafely emptyStore final ∧
      Transition.Every (step smallApi silentPorts) KeepsPromises (initial 0 emptyStore)
        lostAnswer := by
  have trace : (Transition.run (step smallApi silentPorts) (initial 0 emptyStore) lostAnswer).map
      (fun final => (final.exchanges.map (fun exchange => exchange.reply.map ApiReply.status),
        final.store.files.length)) = some ([some 503, none, some 202], 2) := by
    decide +kernel
  obtain ⟨final, reaches, seen⟩ := Option.map_eq_some_iff.mp trace
  obtain ⟨replies, files⟩ := Prod.mk.inj seen
  exact ⟨final, reaches, replies, files,
    retries_are_safe smallApi silentPorts 0 consistent_emptyStore reaches⟩

end ImportService.ImportApi
