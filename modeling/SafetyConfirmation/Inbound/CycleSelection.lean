import Mathlib.Data.List.Sort
import SafetyConfirmation.Lib.Checks
import SafetyConfirmation.Cycle.Row

/-!
# Which cycle an inbound call belongs to

The four flows of an inbound call and the decision between them: a running cycle first, then one completed within
the reception window, then one that ended otherwise within it.
-/

namespace SafetyConfirmation

open KeyedStore Checks

inductive InboundFlow where
  | notRegistered
  | noCycle
  | cycleTerminated
  | activeCycle
  deriving DecidableEq, Repr

namespace InboundFlow

def name : InboundFlow → String
  | notRegistered => "NOT_REGISTERED"
  | noCycle => "NO_CYCLE"
  | cycleTerminated => "CYCLE_TERMINATED"
  | activeCycle => "ACTIVE_CYCLE"

def ofName? : String → Option InboundFlow
  | "NOT_REGISTERED" => some notRegistered
  | "NO_CYCLE" => some noCycle
  | "CYCLE_TERMINATED" => some cycleTerminated
  | "ACTIVE_CYCLE" => some activeCycle
  | _ => none

@[simp] theorem ofName?_name (flow : InboundFlow) : ofName? flow.name = some flow := by
  cases flow <;> rfl

theorem name_injective : Function.Injective name := by
  intro flow flow' h
  have hname := congrArg ofName? h
  rw [ofName?_name, ofName?_name] at hname
  exact Option.some.inj hname

end InboundFlow

namespace Inbound

def isTerminalStatus : CycleStatus → Bool
  | .timeout | .startFailed => true
  | _ => false

/-- `_validate_cycle`, on the row of a cycle: every status but `RUNNING` needs `completedAt`. -/
def validateCycle (entry : String × Cycle) : Except PyError PUnit := do
  require (entry.1 ≠ "") (.valueError "cycle.cycleId must be a non-empty str; got ''")
  require (entry.2.status = .running ∨ entry.2.completedAt.isSome) (.valueError
    ("cycle.completedAt is required for status='" ++ entry.2.status.name ++ "'; got None for cycleId='" ++ entry.1 ++
      "'"))

/-- `timedelta(days=...)`, in microseconds. -/
def days (n : Int) : Int := n * 86400 * 1000000

/-- `_is_within_window`, on the `completedAt` of a row. The end of the calendar is in `CycleRecords.isWithinWindow`. -/
def isWithinWindow (now : Instant) (windowDays : Int) (cycle : Cycle) : Bool :=
  cycle.completedAt.any fun completedAt => decide (now ≤ completedAt + days windowDays)

def accepts (now : Instant) (windowDays : Int) (cycle : Cycle) : Bool :=
  cycle.status == .running || cycle.status == .completed && isWithinWindow now windowDays cycle

/-- `_select_latest`: the first of the entries with the greatest key. -/
def selectLatest (key : Cycle → Instant) : List (String × Cycle) → Option (String × Cycle)
  | [] => none
  | entry :: rest =>
    match selectLatest key rest with
    | none => some entry
    | some best => if key entry.2 < key best.2 then some best else some entry

/-- The part of `decide_inbound_flow` after its checks. -/
def selectFlow (cycles : List (String × Cycle)) (now : Instant) (windowDays : Int) : InboundFlow × Option String :=
  let running := cycles.filter fun entry => entry.2.status == .running
  let completedRecent := cycles.filter fun entry =>
    entry.2.status == .completed && isWithinWindow now windowDays entry.2
  let terminatedRecent := cycles.filter fun entry =>
    isTerminalStatus entry.2.status && isWithinWindow now windowDays entry.2
  match selectLatest Cycle.startedAt running with
  | some entry => (.activeCycle, some entry.1)
  | none =>
    match selectLatest (fun cycle => cycle.completedAt.getD 0) completedRecent with
    | some entry => (.activeCycle, some entry.1)
    | none =>
      match selectLatest (fun cycle => cycle.completedAt.getD 0) terminatedRecent with
      | some entry => (.cycleTerminated, some entry.1)
      | none => (.noCycle, none)

def decideInboundFlow (employeeMatched : Bool) (cycles : List (String × Cycle)) (now : Instant)
    (eligibilityWindowDays : Int) : Except PyError (InboundFlow × Option String) := do
  require (1 ≤ eligibilityWindowDays ∧ eligibilityWindowDays ≤ 365)
    (.valueError "eligibility_window_days must be an int in [1, 365]; got" (some (.int eligibilityWindowDays)))
  if employeeMatched then do
    cycles.forM validateCycle
    return selectFlow cycles now eligibilityWindowDays
  else return (.notRegistered, none)

def cycleQueryStatuses : List CycleStatus := [.running, .completed, .timeout, .startFailed]

/-- One query of `StatusStartedAtIndex`: the ten newest rows of the status. -/
def queryByStatus (table : Store String Cycle) (status : CycleStatus) : List (String × Cycle) :=
  ((table.rows.filter fun entry => entry.2.status == status).insertionSort
    fun left right => right.2.startedAt ≤ left.2.startedAt).take 10

def queryRecentCycles (table : Store String Cycle) : List (String × Cycle) :=
  cycleQueryStatuses.flatMap (queryByStatus table)

theorem selectLatest_eq_none {key : Cycle → Instant} {entries : List (String × Cycle)}
    (h : selectLatest key entries = none) : entries = [] := by
  cases entries with
  | nil => rfl
  | cons entry rest =>
    rw [selectLatest] at h
    split at h
    · cases h
    · split at h <;> cases h

theorem mem_of_selectLatest {key : Cycle → Instant} {entries : List (String × Cycle)} {latest : String × Cycle}
    (h : selectLatest key entries = some latest) : latest ∈ entries := by
  induction entries with
  | nil => cases h
  | cons entry rest ih =>
    rw [selectLatest] at h
    split at h
    · cases h
      exact List.mem_cons_self
    · rename_i best hbest
      split at h
      · cases h
        exact List.mem_cons_of_mem _ (ih hbest)
      · cases h
        exact List.mem_cons_self

/-- The call is taken for a cycle exactly when one of the rows accepts it. -/
theorem selectFlow_eq_activeCycle_iff (cycles : List (String × Cycle)) (now : Instant) (windowDays : Int) :
    (selectFlow cycles now windowDays).1 = .activeCycle ↔ ∃ entry ∈ cycles, accepts now windowDays entry.2 = true := by
  rw [selectFlow]
  split
  · rename_i entry hentry
    obtain ⟨hmem, hrunning⟩ := List.mem_filter.1 (mem_of_selectLatest hentry)
    exact iff_of_true rfl ⟨entry, hmem, by rw [accepts, hrunning, Bool.true_or]⟩
  · rename_i hrunning
    have hrunning := List.filter_eq_nil_iff.1 (selectLatest_eq_none hrunning)
    split
    · rename_i entry hentry
      obtain ⟨hmem, hcompleted⟩ := List.mem_filter.1 (mem_of_selectLatest hentry)
      exact iff_of_true rfl ⟨entry, hmem, by rw [accepts, hcompleted, Bool.or_true]⟩
    · rename_i hcompleted
      have hcompleted := List.filter_eq_nil_iff.1 (selectLatest_eq_none hcompleted)
      apply iff_of_false
      · split <;> simp
      · rintro ⟨entry, hmem, haccepts⟩
        rw [accepts, Bool.or_eq_true] at haccepts
        rcases haccepts with h | h
        · exact hrunning entry hmem h
        · exact hcompleted entry hmem h

theorem decideInboundFlow_eq_ok {cycles : List (String × Cycle)} {now : Instant} {windowDays : Int}
    {result : InboundFlow × Option String} (h : decideInboundFlow true cycles now windowDays = .ok result) :
    result = selectFlow cycles now windowDays := by
  obtain ⟨_, -, h⟩ := bind_eq_ok.1 h
  obtain ⟨_, -, h⟩ := bind_eq_ok.1 h
  cases h
  rfl

end Inbound

end SafetyConfirmation
