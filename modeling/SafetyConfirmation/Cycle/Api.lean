import Mathlib.Data.List.Sort
import SafetyConfirmation.Lib.Checks
import SafetyConfirmation.Cycle.Row

/-!
# POST /cycles

CycleApi's `_create_cycle`: the checks of the body, the refusal while another cycle runs, the row it puts and the
ways StartExecution can end after that.
-/

namespace SafetyConfirmation

namespace CycleApi

open KeyedStore Checks

/-- The defaults the environment of the lambda gives. -/
structure Settings where
  defaultRetryCount : Int := 3
  defaultRetryIntervalMinutes : Int := 5

/-- A body that passed the checks, with its idempotency key (empty when there was none). -/
structure Request where
  mode : Mode
  retryCount : Value
  retryIntervalMinutes : Value
  referencedCycleId : Option String := none
  idempotencyKey : String := ""

def inRange (low high : Int) (v : Value) : Bool := v.asInt?.any fun n => decide (low ≤ n ∧ n ≤ high)

def parseMode (mode : Value) : Except PyError Mode := do
  mode.requireHashable
  match Mode.ofValue? mode with
  | some mode => return mode
  | none => .error (.valueError "mode must be one of ['ALL', 'UNREACHABLE_ONLY']")

def parseRequest (settings : Settings) (body : Value) (idempotencyKey : String) : Except PyError Request := do
  let mode ← parseMode ((body.get? "mode").getD .none)
  let retryCount := (body.get? "retryCount").getD (.int settings.defaultRetryCount)
  let retryInterval := (body.get? "retryIntervalMinutes").getD (.int settings.defaultRetryIntervalMinutes)
  require (inRange 0 5 retryCount = true) (.valueError "retryCount must be an integer in [0, 5]")
  require (inRange 1 60 retryInterval = true) (.valueError "retryIntervalMinutes must be an integer in [1, 60]")
  return {
    mode
    retryCount
    retryIntervalMinutes := retryInterval
    referencedCycleId := ((body.get? "referencedCycleId").bind Value.asStr?).filter (· != "")
    idempotencyKey }

def queryRunningCycles (table : Store String Cycle) : List (String × Cycle) :=
  ((table.rows.filter fun entry => entry.2.status == .running).insertionSort
    fun left right => right.2.startedAt ≤ left.2.startedAt).take 1

def canStartCycle (cycles : List (String × Cycle)) : Bool := cycles.all fun entry => entry.2.status != .running

inductive Answer where
  | created (cycleId : String)
  | replay (cycleId : String)
  | conflict
  | dictionaryEmpty
  | startFailed (cycleId : String)
  deriving DecidableEq

/-- The answer that keeps a request from starting a cycle, `none` when it may. -/
def refuse (request : Request) (isActiveDictionaryEmpty : Bool) (table : Store String Cycle) : Option Answer :=
  if isActiveDictionaryEmpty then some .dictionaryEmpty
  else
    let existingCycles := queryRunningCycles table
    if canStartCycle existingCycles then none
    else
      match existingCycles with
      | [] => none
      | existing :: _ =>
        if request.idempotencyKey ≠ "" ∧ existing.2.idempotencyKey.getD "" = request.idempotencyKey then
          some (.replay existing.1)
        else some .conflict

def newCycle (request : Request) (dictVersion : Int) (startedAt : Instant) : Cycle where
  status := .running
  mode := request.mode
  retryCount := request.retryCount
  retryIntervalMinutes := request.retryIntervalMinutes
  dictionaryVersion := dictVersion
  startedAt := startedAt
  idempotencyKey := if request.idempotencyKey = "" then none else some request.idempotencyKey
  referencedCycleId := request.referencedCycleId

/-- How StartExecution ends: another exception than a ClientError may come although the execution started, and
after a ClientError the update of the row may not be reached. -/
inductive StartExecution where
  | started
  | clientError (code : String) (updated : Bool)
  | raised (name : String) (started : Bool)
  deriving DecidableEq

theorem mem_queryRunningCycles {table : Store String Cycle} {entry : String × Cycle}
    (h : entry ∈ queryRunningCycles table) : entry ∈ table.rows ∧ entry.2.status = .running := by
  have hmem := (List.perm_insertionSort _ _).mem_iff.1 (List.mem_of_mem_take h)
  obtain ⟨hrow, hrunning⟩ := List.mem_filter.1 hmem
  exact ⟨hrow, by simpa using hrunning⟩

theorem queryRunningCycles_eq_nil_iff {table : Store String Cycle} :
    queryRunningCycles table = [] ↔ ∀ entry ∈ table.rows, entry.2.status ≠ .running := by
  have hlength : ((table.rows.filter fun entry => entry.2.status == .running).insertionSort
      fun left right => right.2.startedAt ≤ left.2.startedAt).length =
        (table.rows.filter fun entry => entry.2.status == .running).length :=
    (List.perm_insertionSort _ _).length_eq
  have hnil : queryRunningCycles table = [] ↔ (table.rows.filter fun entry => entry.2.status == .running) = [] := by
    rw [queryRunningCycles, List.take_eq_nil_iff, ← List.length_eq_zero_iff, hlength, List.length_eq_zero_iff]
    simp
  rw [hnil, List.filter_eq_nil_iff]
  simp

/-- A request without an idempotency key is refused with 409 exactly while some cycle runs. -/
theorem refuse_eq_conflict_iff {request : Request} {table : Store String Cycle}
    (hkey : request.idempotencyKey = "") :
    refuse request false table = some .conflict ↔ ∃ entry ∈ table.rows, entry.2.status = .running := by
  cases hquery : queryRunningCycles table with
  | nil =>
    refine iff_of_false ?_ ?_
    · simp [refuse, hquery, canStartCycle]
    · rintro ⟨entry, hentry, hrunning⟩
      exact queryRunningCycles_eq_nil_iff.1 hquery entry hentry hrunning
  | cons existing rest =>
    have hmem : existing ∈ queryRunningCycles table := by
      rw [hquery]
      exact List.mem_cons_self
    obtain ⟨hrow, hrunning⟩ := mem_queryRunningCycles hmem
    refine iff_of_true ?_ ⟨existing, hrow, hrunning⟩
    simp [refuse, hquery, canStartCycle, hrunning, hkey]

theorem refuse_ne_conflict {request : Request} {isActiveDictionaryEmpty : Bool} {table : Store String Cycle}
    (h : ∀ entry ∈ table.rows, entry.2.status ≠ .running) :
    refuse request isActiveDictionaryEmpty table ≠ some .conflict := by
  rw [refuse]
  split
  · exact fun heq => by cases heq
  · rw [queryRunningCycles_eq_nil_iff.2 h]
    exact fun heq => by cases heq

end CycleApi

end SafetyConfirmation
