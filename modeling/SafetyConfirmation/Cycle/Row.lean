import SafetyConfirmation.Lib.KeyedStore
import SafetyConfirmation.Data.Value

/-!
# The Cycle row

One row of the Cycle table and its writers: CycleApi puts it and marks a failed start, CycleFinalizer closes it
and flags the 30-minute warning, both on the condition that it is still `RUNNING`.
-/

namespace SafetyConfirmation

open KeyedStore

inductive CycleStatus where
  | running
  | completed
  | timeout
  | startFailed
  deriving DecidableEq, Repr

namespace CycleStatus

def name : CycleStatus → String
  | running => "RUNNING"
  | completed => "COMPLETED"
  | timeout => "TIMEOUT"
  | startFailed => "START_FAILED"

end CycleStatus

/-- `VALID_MODES`: which employees a cycle calls. -/
inductive Mode where
  | all
  | unreachableOnly
  deriving DecidableEq, Repr

namespace Mode

def name : Mode → String
  | all => "ALL"
  | unreachableOnly => "UNREACHABLE_ONLY"

def ofName? : String → Option Mode
  | "ALL" => some all
  | "UNREACHABLE_ONLY" => some unreachableOnly
  | _ => none

@[simp] theorem ofName?_name (mode : Mode) : ofName? mode.name = some mode := by
  cases mode <;> rfl

def ofValue? (v : Value) : Option Mode := v.asStr?.bind ofName?

end Mode

/-- A Cycle row, as `_create_cycle` puts it. -/
structure Cycle where
  status : CycleStatus
  mode : Mode
  retryCount : Value
  retryIntervalMinutes : Value
  dictionaryVersion : Int
  startedAt : Instant
  idempotencyKey : Option String := none
  referencedCycleId : Option String := none
  completedAt : Option Instant := none
  slaWarning30min : Bool := false

namespace Cycle

def isRunning (row : Option Cycle) : Bool := row.any fun cycle => cycle.status == .running

/-- CycleApi's update after a failed StartExecution: no condition, on the row it has just put. -/
def setStartFailed : Write Cycle := { update := Option.map fun cycle => { cycle with status := .startFailed } }

/-- CycleFinalizer's `_set_cycle_status`. -/
def setCycleStatus (newStatus : CycleStatus) (now : Instant) : Write Cycle where
  condition := isRunning
  update := Option.map fun cycle => { cycle with status := newStatus, completedAt := some now }

/-- CycleFinalizer's `_set_sla_warning_flag`. -/
def setSlaWarningFlag : Write Cycle where
  condition := isRunning
  update := Option.map fun cycle => { cycle with slaWarning30min := true }

def statusOf (row : Option Cycle) : Option CycleStatus := row.map status

theorem isRunning_iff {row : Option Cycle} : isRunning row = true ↔ statusOf row = some .running := by
  cases row <;> simp [isRunning, statusOf]

theorem statusOf_setCycleStatus {row : Option Cycle} {newStatus : CycleStatus} {now : Instant}
    (h : isRunning row = true) : statusOf ((setCycleStatus newStatus now).run row) = some newStatus := by
  rw [Write.run_of_condition h]
  cases row with
  | none => cases h
  | some cycle => rfl

theorem setCycleStatus_of_not_running {row : Option Cycle} {newStatus : CycleStatus} {now : Instant}
    (h : isRunning row = false) : (setCycleStatus newStatus now).run row = row := Write.run_of_not_condition h

end Cycle

end SafetyConfirmation
