/-
This file develops labelled transition systems whose step is a partial function:
a label either is not enabled in a state or leads to exactly one next state. All
nondeterminism (which party moves, whether a call fails) is in the labels, so a
schedule is a list of labels and a run is the fold of the step over it.

Three readings of a run are used: an invariant of every reachable state, a
property of every state a schedule visits (`Always`), and a property of every
step a schedule takes (`Every`). One system simulates another when its steps
follow the other's or stay (`Reachable.simulated`). The transfer rules at the end
turn a fact about one step into a fact about whole schedules, in both directions.
Where a state is a map or a list of parts, `update_cases` and `set_cases` say which part a step has
changed.
-/

import Mathlib.Logic.Function.Basic

namespace ImportService.Transition

variable {State Label : Type}

/-! ### Runs and reachable states -/

/-- The state a schedule leads to, when every one of its steps is enabled. -/
def run (step : State → Label → Option State) : State → List Label → Option State
  | state, [] => some state
  | state, label :: rest => (step state label).bind fun next => run step next rest

/-- A state some schedule leads to. -/
def Reachable (step : State → Label → Option State) (start state : State) : Prop :=
  ∃ schedule, run step start schedule = some state

/-- The invariant rule: what holds at the start and is kept by every step holds in every
reachable state. -/
theorem Reachable.invariant {step : State → Label → Option State} {start state : State}
    (reachable : Reachable step start state) (invariant : State → Prop)
    (holds : invariant start)
    (kept : ∀ current label next, invariant current → step current label = some next →
      invariant next) :
    invariant state := by
  obtain ⟨schedule, reaches⟩ := reachable
  induction schedule generalizing start with
  | nil =>
    cases reaches
    exact holds
  | cons label rest inductionHypothesis =>
    rw [run] at reaches
    cases enabled : step start label with
    | none =>
      rw [enabled] at reaches
      cases reaches
    | some next =>
      rw [enabled] at reaches
      exact inductionHypothesis (kept start label next holds enabled) reaches

/-- What a view of the state is after a run, where the view of the run is known. -/
theorem view_of_run {View : Type} {step : State → Label → Option State} {start last : State}
    {schedule : List Label} (reaches : run step start schedule = some last) (view : State → View)
    {value : View} (isValue : (run step start schedule).map view = some value) :
    view last = value := by
  rw [reaches] at isValue
  exact Option.some.inj isValue

/-- A run is not longer than what every step takes from a measure. -/
theorem run_length_le {step : State → Label → Option State} (measure : State → Nat)
    (decreases : ∀ current label next, step current label = some next →
      measure next < measure current) {start last : State} {schedule : List Label}
    (reaches : run step start schedule = some last) :
    schedule.length + measure last ≤ measure start := by
  induction schedule generalizing start with
  | nil =>
    cases reaches
    exact Nat.le_of_eq (Nat.zero_add _)
  | cons label rest inductionHypothesis =>
    rw [run] at reaches
    obtain ⟨next, enabled, later⟩ := Option.bind_eq_some_iff.mp reaches
    have smaller := decreases start label next enabled
    have shorter := inductionHypothesis later
    rw [List.length_cons]
    omega

/-- The invariant rule for what is said of a state and of the schedule that has led to it. -/
theorem run_invariant {step : State → Label → Option State} {start last : State}
    {schedule : List Label} (reaches : run step start schedule = some last)
    (invariant : List Label → State → Prop) (holds : invariant [] start)
    (kept : ∀ earlier current label next, invariant earlier current →
      step current label = some next → invariant (earlier ++ [label]) next) :
    invariant schedule last := by
  have goesOn : ∀ later earlier current, invariant earlier current →
      run step current later = some last → invariant (earlier ++ later) last := by
    intro later
    induction later with
    | nil =>
      intro earlier current holds reaches
      cases reaches
      rw [List.append_nil]
      exact holds
    | cons label rest inductionHypothesis =>
      intro earlier current holds reaches
      rw [run] at reaches
      obtain ⟨next, enabled, later⟩ := Option.bind_eq_some_iff.mp reaches
      rw [List.append_cons]
      exact inductionHypothesis (earlier ++ [label]) next
        (kept earlier current label next holds enabled) later
  exact goesOn schedule [] start holds reaches

/-! ### Properties of the states and of the steps of a schedule -/

/-- `property` holds in every state the schedule visits, the start included. -/
def Always (step : State → Label → Option State) (property : State → Prop) :
    State → List Label → Prop
  | state, [] => property state
  | state, label :: rest =>
      property state ∧ ∀ next, step state label = some next → Always step property next rest

/-- `property` holds of every step the schedule takes. It reads the state before the step,
the label and the state after it. -/
def Every (step : State → Label → Option State) (property : State → Label → State → Prop) :
    State → List Label → Prop
  | _, [] => True
  | state, label :: rest => ∀ next, step state label = some next →
      property state label next ∧ Every step property next rest

theorem Always.head {step : State → Label → Option State} {property : State → Prop}
    {state : State} {schedule : List Label} (always : Always step property state schedule) :
    property state := by
  cases schedule with
  | nil => exact always
  | cons label rest => exact always.1

/-- A property of every visited state holds where the schedule ends. -/
theorem Always.last {step : State → Label → Option State} {property : State → Prop}
    {start state : State} {schedule : List Label}
    (always : Always step property start schedule)
    (reaches : run step start schedule = some state) : property state := by
  induction schedule generalizing start with
  | nil =>
    cases reaches
    exact always
  | cons label rest inductionHypothesis =>
    rw [run] at reaches
    cases enabled : step start label with
    | none =>
      rw [enabled] at reaches
      cases reaches
    | some next =>
      rw [enabled] at reaches
      exact inductionHypothesis (always.2 next enabled) reaches

theorem Every.of_append {step : State → Label → Option State}
    {property : State → Label → State → Prop} {start state : State} {first second : List Label}
    (every : Every step property start (first ++ second))
    (reaches : run step start first = some state) : Every step property state second := by
  induction first generalizing start with
  | nil =>
    cases reaches
    exact every
  | cons label rest inductionHypothesis =>
    rw [run] at reaches
    obtain ⟨next, enabled, later⟩ := Option.bind_eq_some_iff.mp reaches
    exact inductionHypothesis (every next enabled).2 later

theorem Every.append {step : State → Label → Option State}
    {property : State → Label → State → Prop} {start state : State} {first second : List Label}
    (every : Every step property start first) (reaches : run step start first = some state)
    (later : Every step property state second) : Every step property start (first ++ second) := by
  induction first generalizing start with
  | nil =>
    cases reaches
    exact later
  | cons label rest inductionHypothesis =>
    intro next enabled
    obtain ⟨here, after⟩ := every next enabled
    rw [run, enabled] at reaches
    exact ⟨here, inductionHypothesis after reaches⟩

theorem run_append {step : State → Label → Option State} {start state : State}
    {first : List Label} (reaches : run step start first = some state) (second : List Label) :
    run step start (first ++ second) = run step state second := by
  induction first generalizing start with
  | nil =>
    cases reaches
    rfl
  | cons label rest inductionHypothesis =>
    rw [run] at reaches
    obtain ⟨next, enabled, later⟩ := Option.bind_eq_some_iff.mp reaches
    rw [List.cons_append, run, enabled]
    exact inductionHypothesis later

/-- A property of every state holds before and after every step. -/
theorem Every.and_always {step : State → Label → Option State}
    {condition : State → Label → State → Prop} {property : State → Prop} {start : State}
    {schedule : List Label} (every : Every step condition start schedule)
    (always : Always step property start schedule) :
    Every step (fun current label next =>
      condition current label next ∧ property current ∧ property next) start schedule := by
  induction schedule generalizing start with
  | nil => trivial
  | cons label rest inductionHypothesis =>
    intro next enabled
    obtain ⟨here, later⟩ := every next enabled
    have alwaysLater := always.2 next enabled
    exact ⟨⟨here, always.1, alwaysLater.head⟩, inductionHypothesis later alwaysLater⟩

/-- What can be seen before and after the last step of a schedule, when every step has a
property. -/
theorem Every.observe {step : State → Label → Option State}
    {property : State → Label → State → Prop} {start : State} {before : List Label}
    {label : Label} (every : Every step property start (before ++ [label])) {Seen : Type}
    (see : State → Seen) {first second : Seen}
    (trace : ((run step start before).bind fun state =>
      (step state label).map fun next => (see state, see next)) = some (first, second)) :
    ∃ state next, property state label next ∧ see state = first ∧ see next = second := by
  obtain ⟨state, reaches, last⟩ := Option.bind_eq_some_iff.mp trace
  obtain ⟨next, enabled, seen⟩ := Option.map_eq_some_iff.mp last
  obtain ⟨seenFirst, seenSecond⟩ := Prod.mk.inj seen
  exact ⟨state, next, ((every.of_append reaches) next enabled).1, seenFirst, seenSecond⟩

/-- What can be seen where a schedule ends, when every state it visits has a property. -/
theorem Always.observe {step : State → Label → Option State} {property : State → Prop}
    {start : State} {schedule : List Label} (always : Always step property start schedule)
    {Seen : Type} (see : State → Seen) {seen : Seen}
    (trace : (run step start schedule).map see = some seen) :
    ∃ state, property state ∧ see state = seen := by
  obtain ⟨state, reaches, sees⟩ := Option.map_eq_some_iff.mp trace
  exact ⟨state, always.last reaches, sees⟩

/-- The invariant rule for schedules whose steps meet an assumption: what follows from an
invariant that such steps keep holds in every state the schedule visits. -/
theorem Every.always {step : State → Label → Option State}
    {assumption : State → Label → State → Prop} {start : State} {schedule : List Label}
    (assumed : Every step assumption start schedule) (invariant : State → Prop)
    (kept : ∀ current label next, invariant current → step current label = some next →
      assumption current label next → invariant next)
    {property : State → Prop} (implies : ∀ current, invariant current → property current)
    (holds : invariant start) : Always step property start schedule := by
  induction schedule generalizing start with
  | nil => exact implies start holds
  | cons label rest inductionHypothesis =>
    refine ⟨implies start holds, fun next enabled => ?_⟩
    obtain ⟨here, later⟩ := assumed next enabled
    exact inductionHypothesis later (kept start label next holds enabled here)

/-! ### Schedules whose steps have a property -/

/-- Some schedule, all of whose steps have a property, leads from one state to another. -/
def Leads (step : State → Label → Option State) (property : State → Label → State → Prop)
    (start last : State) : Prop :=
  ∃ schedule, run step start schedule = some last ∧ Every step property start schedule

section

variable {step : State → Label → Option State} {property : State → Label → State → Prop}
  {start state next : State} {label : Label}

theorem Leads.refl (state : State) : Leads step property state state := ⟨[], rfl, trivial⟩

theorem Leads.trans (first : Leads step property start state)
    (second : Leads step property state next) : Leads step property start next := by
  obtain ⟨before, reaches, every⟩ := first
  obtain ⟨after, goesOn, later⟩ := second
  exact ⟨before ++ after, (run_append reaches after).trans goesOn, every.append reaches later⟩

theorem Leads.single (enabled : step state label = some next)
    (holds : property state label next) : Leads step property state next := by
  refine ⟨[label], ?_, fun other leads => ?_⟩
  · rw [run, enabled]
    rfl
  · rw [enabled] at leads
    cases leads
    exact ⟨holds, trivial⟩

/-- The progress rule: where an invariant holds and the goal is not reached, some step keeps the
invariant and takes something from a measure. So the goal can be reached. -/
theorem Leads.of_measure (invariant goal : State → Prop) (measure : State → Nat)
    (progress : ∀ current, invariant current → goal current ∨
      ∃ label later, step current label = some later ∧ property current label later ∧
        invariant later ∧ measure later < measure current)
    (holds : invariant start) : ∃ last, goal last ∧ Leads step property start last := by
  induction bound : measure start using Nat.strongRecOn generalizing start with
  | ind size inductionHypothesis =>
    rcases progress start holds with reached | ⟨label, later, enabled, has, kept, less⟩
    · exact ⟨start, reached, Leads.refl start⟩
    · rw [bound] at less
      obtain ⟨last, reached, leads⟩ := inductionHypothesis (measure later) less kept rfl
      exact ⟨last, reached, (Leads.single enabled has).trans leads⟩

/-- Where one property of all steps of a schedule implies another, so it does for a step that
comes next. -/
theorem Leads.conclude {conclusion : State → Label → State → Prop}
    (leads : Leads step property start state)
    (implies : ∀ schedule, Every step property start schedule →
      Every step conclusion start schedule)
    (enabled : step state label = some next) (holds : property state label next) :
    conclusion state label next := by
  obtain ⟨schedule, reaches, every⟩ := leads
  have last : Every step property state [label] := by
    intro other leads
    rw [enabled] at leads
    cases leads
    exact ⟨holds, trivial⟩
  have all := implies (schedule ++ [label]) (every.append reaches last)
  exact ((all.of_append reaches) next enabled).1

end

/-! ### Simulations -/

theorem Reachable.step {step : State → Label → Option State} {start state next : State}
    {label : Label} (reachable : Reachable step start state)
    (enabled : step state label = some next) : Reachable step start next := by
  obtain ⟨schedule, reaches⟩ := reachable
  refine ⟨schedule ++ [label], (run_append reaches [label]).trans ?_⟩
  rw [run, enabled]
  rfl

/-- Where every step of a system stays at what another system shows or is a step of that
system, every reachable state shows a reachable state of the other. -/
theorem Reachable.simulated {OtherState OtherLabel : Type}
    {step : State → Label → Option State}
    {otherStep : OtherState → OtherLabel → Option OtherState} {start state : State}
    {otherStart : OtherState} (reachable : Reachable step start state)
    (shows : State → OtherState → Prop) (initially : shows start otherStart)
    (advances : ∀ current label next other, shows current other →
      step current label = some next →
      ∃ later, (later = other ∨ ∃ label, otherStep other label = some later) ∧
        shows next later) :
    ∃ other, Reachable otherStep otherStart other ∧ shows state other := by
  refine reachable.invariant
    (fun current => ∃ other, Reachable otherStep otherStart other ∧ shows current other)
    ⟨otherStart, ⟨[], rfl⟩, initially⟩ ?_
  rintro current label next ⟨other, reached, showsCurrent⟩ enabled
  obtain ⟨later, moves, showsNext⟩ := advances current label next other showsCurrent enabled
  refine ⟨later, ?_, showsNext⟩
  rcases moves with rfl | ⟨otherLabel, moves⟩
  · exact reached
  · exact reached.step moves

/-! ### Transfer rules -/

/-- Two step properties agree along a schedule whose steps meet an assumption, if they agree
wherever the invariant and the assumption hold. -/
theorem every_congr_of {step : State → Label → Option State} (invariant : State → Prop)
    {assumption first second : State → Label → State → Prop}
    (kept : ∀ current label next, invariant current → step current label = some next →
      assumption current label next → invariant next)
    (agree : ∀ current label next, invariant current → step current label = some next →
      assumption current label next → (first current label next ↔ second current label next))
    {start : State} (holds : invariant start) {schedule : List Label}
    (assumed : Every step assumption start schedule) :
    Every step first start schedule ↔ Every step second start schedule := by
  induction schedule generalizing start with
  | nil => exact Iff.rfl
  | cons label rest inductionHypothesis =>
    refine forall_congr' fun next => forall_congr' fun enabled => ?_
    obtain ⟨here, later⟩ := assumed next enabled
    exact and_congr (agree start label next holds enabled here)
      (inductionHypothesis (kept start label next holds enabled here) later)

/-- A property of the labels alone. -/
theorem every_of_labels (step : State → Label → Option State) (property : Label → Prop)
    (start : State) {schedule : List Label} (labels : ∀ label ∈ schedule, property label) :
    Every step (fun _ label _ => property label) start schedule := by
  induction schedule generalizing start with
  | nil => trivial
  | cons label rest inductionHypothesis =>
    intro next _
    exact ⟨labels label List.mem_cons_self,
      inductionHypothesis next fun later member => labels later (List.mem_cons_of_mem _ member)⟩

theorem every_true (step : State → Label → Option State) (start : State)
    (schedule : List Label) : Every step (fun _ _ _ => True) start schedule :=
  every_of_labels step (fun _ => True) start fun _ _ => trivial

/-- A test of every step that a schedule takes. -/
def checkEvery (step : State → Label → Option State) (test : State → Label → Bool) :
    State → List Label → Bool
  | _, [] => true
  | state, label :: rest =>
      test state label && (step state label).all fun next => checkEvery step test next rest

/-- A property that a test implies holds of every step of a schedule that passes it. -/
theorem every_of_checkEvery {step : State → Label → Option State} {test : State → Label → Bool}
    {property : State → Label → State → Prop}
    (sound : ∀ state label next, test state label = true → property state label next)
    {start : State} {schedule : List Label}
    (passes : checkEvery step test start schedule = true) :
    Every step property start schedule := by
  induction schedule generalizing start with
  | nil => trivial
  | cons label rest inductionHypothesis =>
    obtain ⟨here, later⟩ := Bool.and_eq_true_iff.mp passes
    intro next enabled
    refine ⟨sound start label next here, inductionHypothesis ?_⟩
    rwa [enabled, Option.all_some] at later

/-- The invariant rule for schedules: what follows from an invariant that every step keeps holds
in every state a schedule visits. -/
theorem always_of_invariant {step : State → Label → Option State} (invariant : State → Prop)
    (kept : ∀ current label next, invariant current → step current label = some next →
      invariant next)
    {property : State → Prop} (implies : ∀ current, invariant current → property current)
    {start : State} (holds : invariant start) (schedule : List Label) :
    Always step property start schedule :=
  (every_true step start schedule).always invariant
    (fun current label next invariantHolds enabled _ =>
      kept current label next invariantHolds enabled)
    implies holds

/-- Two step properties that agree wherever the invariant holds agree along every schedule. -/
theorem every_congr {step : State → Label → Option State} (invariant : State → Prop)
    (kept : ∀ current label next, invariant current → step current label = some next →
      invariant next)
    {first second : State → Label → State → Prop}
    (agree : ∀ current label next, invariant current → step current label = some next →
      (first current label next ↔ second current label next))
    {start : State} (holds : invariant start) (schedule : List Label) :
    Every step first start schedule ↔ Every step second start schedule :=
  every_congr_of invariant
    (fun current label next invariantHolds enabled _ =>
      kept current label next invariantHolds enabled)
    (fun current label next invariantHolds enabled _ =>
      agree current label next invariantHolds enabled)
    holds (every_true step start schedule)

/-- A step property that follows from another one wherever the invariant holds follows from
it along every schedule. -/
theorem Every.imp {step : State → Label → Option State} (invariant : State → Prop)
    {first second : State → Label → State → Prop}
    (kept : ∀ current label next, invariant current → step current label = some next →
      first current label next → invariant next)
    (implies : ∀ current label next, invariant current → step current label = some next →
      first current label next → second current label next)
    {start : State} (holds : invariant start) {schedule : List Label}
    (every : Every step first start schedule) : Every step second start schedule := by
  induction schedule generalizing start with
  | nil => trivial
  | cons label rest inductionHypothesis =>
    intro next enabled
    obtain ⟨here, later⟩ := every next enabled
    exact ⟨implies start label next holds enabled here,
      inductionHypothesis (kept start label next holds enabled here) later⟩

/-- Where, under an invariant, the steps that keep a state property are exactly those that
meet a condition, the property holds along a schedule exactly when every step of the schedule
meets the condition. -/
theorem always_iff_every {step : State → Label → Option State} (invariant : State → Prop)
    (kept : ∀ current label next, invariant current → step current label = some next →
      invariant next)
    {property : State → Prop} {condition : State → Label → State → Prop}
    (exact : ∀ current label next, invariant current → property current →
      step current label = some next → (property next ↔ condition current label next))
    {start : State} (holds : invariant start) (initially : property start)
    (schedule : List Label) :
    Always step property start schedule ↔ Every step condition start schedule := by
  induction schedule generalizing start with
  | nil => exact ⟨fun _ => trivial, fun _ => initially⟩
  | cons label rest inductionHypothesis =>
    constructor
    · rintro ⟨_, later⟩ next enabled
      have nextHolds := kept start label next holds enabled
      have nextProperty := (later next enabled).head
      exact ⟨(exact start label next holds initially enabled).mp nextProperty,
        (inductionHypothesis nextHolds nextProperty).mp (later next enabled)⟩
    · intro every
      refine ⟨initially, fun next enabled => ?_⟩
      obtain ⟨here, later⟩ := every next enabled
      have nextHolds := kept start label next holds enabled
      have nextProperty := (exact start label next holds initially enabled).mpr here
      exact (inductionHypothesis nextHolds nextProperty).mpr later

/-- A property that no step restores holds all along a schedule at whose end it holds. -/
theorem always_of_last {step : State → Label → Option State} (invariant : State → Prop)
    (kept : ∀ current label next, invariant current → step current label = some next →
      invariant next)
    {property : State → Prop}
    (stays : ∀ current label next, invariant current → step current label = some next →
      property next → property current)
    {start last : State} (holds : invariant start) {schedule : List Label}
    (reaches : run step start schedule = some last) (atLast : property last) :
    Always step property start schedule := by
  induction schedule generalizing start with
  | nil =>
    cases reaches
    exact atLast
  | cons label rest inductionHypothesis =>
    rw [run] at reaches
    obtain ⟨next, enabled, later⟩ := Option.bind_eq_some_iff.mp reaches
    have always := inductionHypothesis (kept start label next holds enabled) later
    refine ⟨stays start label next holds enabled always.head, fun other leads => ?_⟩
    rw [enabled] at leads
    cases leads
    exact always

/-- A property that no step restores, and that the steps of a condition are exactly those that
keep it, holds at the end of a schedule exactly when every step of the schedule meets the
condition. -/
theorem last_iff_every {step : State → Label → Option State} (invariant : State → Prop)
    (kept : ∀ current label next, invariant current → step current label = some next →
      invariant next)
    {property : State → Prop} {condition : State → Label → State → Prop}
    (exact : ∀ current label next, invariant current → property current →
      step current label = some next → (property next ↔ condition current label next))
    (stays : ∀ current label next, invariant current → step current label = some next →
      property next → property current)
    {start last : State} (holds : invariant start) (initially : property start)
    {schedule : List Label} (reaches : run step start schedule = some last) :
    property last ↔ Every step condition start schedule := by
  rw [← always_iff_every invariant kept exact holds initially schedule]
  exact ⟨always_of_last invariant kept stays holds reaches, fun always => always.last reaches⟩

/-! ### Counting steps -/

/-- How many steps of the schedule are counted. -/
def tally (step : State → Label → Option State) (counts : State → Label → Bool) :
    State → List Label → Nat
  | _, [] => 0
  | state, label :: rest =>
      match step state label with
      | none => 0
      | some next => (counts state label).toNat + tally step counts next rest

/-- The accounting rule: where every counted step adds one to a measure and every other step
leaves it as it is, the measure has grown by the number of counted steps. -/
theorem Every.tally_add {step : State → Label → Option State}
    {assumption : State → Label → State → Prop} {start last : State} {schedule : List Label}
    (assumed : Every step assumption start schedule) (counts : State → Label → Bool)
    (invariant : State → Prop) (measure : State → Nat)
    (kept : ∀ current label next, invariant current → step current label = some next →
      assumption current label next → invariant next)
    (grows : ∀ current label next, invariant current → step current label = some next →
      assumption current label next →
        measure next = measure current + (counts current label).toNat)
    (holds : invariant start) (reaches : run step start schedule = some last) :
    measure start + tally step counts start schedule = measure last := by
  induction schedule generalizing start with
  | nil =>
    cases reaches
    rfl
  | cons label rest inductionHypothesis =>
    rw [run] at reaches
    obtain ⟨next, enabled, later⟩ := Option.bind_eq_some_iff.mp reaches
    obtain ⟨here, after⟩ := assumed next enabled
    have goesOn := inductionHypothesis after (kept start label next holds enabled here) later
    have grown := grows start label next holds enabled here
    simp only [tally, enabled]
    omega

/-! ### States with many parts -/

section

variable {Id Part : Type} [DecidableEq Id] {parts : Id → Option Part} {id other : Id}
  {new part : Part}

/-- A part that is updated, or another one as it was. -/
theorem update_cases (made : Function.update parts id (some new) other = some part) :
    other = id ∧ part = new ∨ other ≠ id ∧ parts other = some part := by
  by_cases same : other = id
  · subst same
    rw [Function.update_self] at made
    exact Or.inl ⟨rfl, (Option.some.inj made).symm⟩
  · rw [Function.update_of_ne same] at made
    exact Or.inr ⟨same, made⟩

/-- A part is still there when another one is made or goes on. -/
theorem update_of_made (made : parts other = some part) (different : other ≠ id) :
    Function.update parts id (some new) other = some part := by
  rw [Function.update_of_ne different, made]

end

section

variable {Part : Type} {parts : List Part} {index other : Nat} {new part : Part}

/-- A part that has come last, or an earlier one. -/
theorem snoc_cases (made : (parts ++ [new])[index]? = some part) :
    part = new ∨ parts[index]? = some part := by
  rcases Nat.lt_or_ge index parts.length with within | beyond
  · rw [List.getElem?_append_left within] at made
    exact Or.inr made
  · rw [List.getElem?_append_right beyond] at made
    exact Or.inl (List.mem_singleton.mp (List.mem_of_getElem? made))

/-- A part that is replaced, or another one as it was. -/
theorem set_cases (made : (parts.set index new)[other]? = some part) :
    other = index ∧ part = new ∨ other ≠ index ∧ parts[other]? = some part := by
  by_cases same : other = index
  · subst same
    rw [List.getElem?_set_self'] at made
    obtain ⟨_, _, rfl⟩ := Option.map_eq_some_iff.mp made
    exact Or.inl ⟨rfl, rfl⟩
  · rw [List.getElem?_set_ne fun equal => same equal.symm] at made
    exact Or.inr ⟨same, made⟩

theorem set_self (made : parts[index]? = some part) :
    (parts.set index new)[index]? = some new := by
  rw [List.getElem?_set_self', made]
  rfl

end

end ImportService.Transition
