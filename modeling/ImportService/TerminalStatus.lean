/-
This file asks whether a terminal import keeps its status. The transition table says so
(`canTransition_of_isTerminal`), but no statement consults the table: the second
statement of `updateBoth`, the writes of `requestCancellation` and the failing half of a
sweep select the row by its id alone. A terminal status is kept by a step exactly when
the step commits none of these for that import (`terminal_kept_iff`), and a cancellation
whose read came before the completion does commit one (`completed_then_cancelling`).
-/

import ImportService.System

namespace ImportService

open JobRepository ProcessImportFile JobPollerService

namespace Statement

/-- The statement writes another status to the import without looking at the one it has. -/
def overwrites (importId : ImportId) (status : ImportStatus) : Statement → Prop
  | .updateBothImport selected mark => selected = importId ∧ mark.status ≠ status
  | .cancel selected => selected = importId ∧ status ≠ .CANCELLING
  | .reclaim maxAttempts sweep _ =>
      (∃ job ∈ sweep.toFail maxAttempts, job.importId = importId) ∧ status ≠ .FAILED
  | .create _ _ _ _ | .claimNext _ _ _ | .renewLease _ _ _ | .updateBothJob _ _
  | .releaseJob _ _ | .releaseImport _ | .persistBatch _ => False

theorem terminal_ne_processing {status : ImportStatus} (terminal : status.isTerminal = true) :
    status ≠ .PROCESSING := by
  rintro rfl
  cases terminal

/-- A statement keeps a terminal status exactly when it does not overwrite it. -/
theorem onImport_status_iff (now : Nat) (db : Database) (statement : Statement)
    {row : ImportRow} (terminal : row.status.isTerminal = true) :
    (statement.onImport now db row).status = row.status ↔
      ¬ statement.overwrites row.id row.status := by
  cases statement with
  | updateBothImport importId mark =>
    simp only [onImport, setImport_status, overwrites, Mark.importData_status, beq_iff_eq]
    by_cases selected : row.id = importId
    · simp [selected]
    · simp [selected, Ne.symm selected]
  | cancel importId =>
    have notCancelling : row.status ≠ .CANCELLING := by
      intro cancelling
      rw [cancelling] at terminal
      cases terminal
    simp only [onImport, setImport_status, overwrites, beq_iff_eq]
    by_cases selected : row.id = importId
    · simp [selected, ImportRepository.cancelImport, notCancelling, Ne.symm notCancelling]
    · simp [selected, Ne.symm selected]
  | reclaim maxAttempts sweep passed =>
    rw [onImport_reclaim now db maxAttempts sweep passed (terminal_ne_processing terminal),
      setImport_status, overwrites, ← selectsImport_iff]
    by_cases selected : selectsImport (sweep.toFail maxAttempts) row = true
    · simp [selected, abandonImport, eq_comm]
    · simp [selected]
  | releaseImport importId =>
    have notProcessing := terminal_ne_processing terminal
    simp [onImport, overwrites, notProcessing]
  | persistBatch input => simp [onImport, overwrites, TransactionRepository.countBatch]
  | create | claimNext | renewLease | updateBothJob | releaseJob => simp [onImport, overwrites]

end Statement

namespace System

/-- The step leaves every terminal status as it is. -/
def KeepsTerminal (state : State) (_ : Action) (next : State) : Prop :=
  ∀ importId row, state.db.findImport importId = some row → row.status.isTerminal = true →
    (next.db.findImport importId).map ImportRow.status = some row.status

/-- The step commits no statement that overwrites a terminal status. -/
def OverwritesNoTerminal (ports : Ports) (config : Config) (state : State) (action : Action)
    (_ : State) : Prop :=
  ∀ importId row, state.db.findImport importId = some row → row.status.isTerminal = true →
    ∀ statement, emitted ports config state action = some statement →
      ¬ statement.overwrites importId row.status

variable {ports : Ports} {config : Config}

theorem keepsTerminal_iff {state next : State} {action : Action}
    (enabled : step ports config state action = some next) :
    KeepsTerminal state action next ↔ OverwritesNoTerminal ports config state action next := by
  refine forall_congr' fun importId => forall_congr' fun row => forall_congr' fun found =>
    forall_congr' fun terminal => ?_
  have rowId : row.id = importId := KeyedTable.lookup_key ImportRow.id found
  rw [step_findImport enabled found, Option.map_some, Option.some_inj]
  cases emitted ports config state action with
  | none => exact ⟨fun _ _ emits => (nomatch emits), fun _ => rfl⟩
  | some statement =>
    rw [onImport, Statement.onImport_status_iff state.now state.db statement terminal, rowId]
    constructor
    · intro keeps committed emits
      cases emits
      exact keeps
    · intro keeps
      exact keeps statement rfl

/-- Along every schedule and from every state, the steps leave the terminal statuses alone
exactly when none of them commits an overwriting statement to a terminal import. -/
theorem terminal_kept_iff (start : State) (schedule : List Action) :
    Transition.Every (step ports config) KeepsTerminal start schedule ↔
      Transition.Every (step ports config) (OverwritesNoTerminal ports config) start schedule := by
  refine Transition.every_congr (fun _ => True) (fun _ _ _ _ _ => trivial) ?_ trivial schedule
  exact fun state action next _ enabled => keepsTerminal_iff enabled

/-- The request reads the import before worker 1 completes it, and writes afterwards. -/
def completeBehindRead : List Action :=
  [upload 1] ++ startUp 1 ++
    [.work 1 (.claimNext 1 .acknowledged), .requestCancellation 0 1] ++ replies 1 7

/-- The cancellation takes the import out of `COMPLETED`. -/
theorem completed_then_cancelling :
    ¬ Transition.Every (step emptyFilePorts defaultConfig) KeepsTerminal
      (initial 0 Database.empty) (completeBehindRead ++ [.cancel 0 .acknowledged]) := by
  intro every
  obtain ⟨state, next, keeps, before, after⟩ := every.observe
    (fun state => (state.db.findImport 1).map ImportRow.status)
    (show _ = some (some .COMPLETED, some .CANCELLING) by decide)
  obtain ⟨row, found, completed⟩ := Option.map_eq_some_iff.mp before
  have kept := keeps 1 row found (by rw [completed]; rfl)
  rw [after, completed] at kept
  cases kept

end System

end ImportService
