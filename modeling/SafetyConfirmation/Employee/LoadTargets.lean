import SafetyConfirmation.Lib.Checks
import SafetyConfirmation.Cycle.Row
import SafetyConfirmation.Response.Row

/-!
# The LoadTargets lambda

Which employees a cycle calls: the visible ones, or the visible ones a former cycle did not reach. The list it
returns names no employee twice, which the Map relies on.
-/

namespace SafetyConfirmation

open KeyedStore Checks

/-- A row of the Employee table, keyed by `employeeId`, with the name that each of its writers gives it. -/
structure Employee where
  name : String
  phoneNumber : Option Value := none
  deleted : Option Value := none

/-- `is_visible`: only the literal `True` hides a row, and a phone number is a non-empty string. -/
def isVisible (employee : Employee) : Bool :=
  match employee.deleted with
  | some (.bool true) => false
  | _ => (employee.phoneNumber.bind Value.asStr?).any (· != "")

theorem phoneNumber_of_isVisible {employee : Employee} (h : isVisible employee = true) :
    ∃ number, employee.phoneNumber = some (.str number) := by
  rw [isVisible] at h
  split at h
  · cases h
  · obtain ⟨number, hnumber, -⟩ := (Option.any_eq_true ..).1 h
    obtain ⟨v, hv, hstr⟩ := Option.bind_eq_some_iff.1 hnumber
    cases v with
    | str s => exact ⟨s, hv⟩
    | _ => cases hstr

namespace LoadTargets

structure Target where
  employeeId : String
  name : String
  phoneNumber : String
  deriving DecidableEq

structure Event where
  cycleId : Option Value := none
  mode : Option Value := none
  referencedCycleId : Option Value := none

def parseEvent (event : Event) : Except PyError (String × Mode × Option String) := do
  let cycleId := (event.cycleId.bind Value.asStr?).getD ""
  require (cycleId ≠ "") (.valueError "cycleId is required and must be a non-empty string")
  (event.mode.getD .none).requireHashable
  match event.mode.bind Mode.ofValue? with
  | none => .error (.valueError "mode must be one of ['ALL', 'UNREACHABLE_ONLY']; got" (some (event.mode.getD .none)))
  | some .all => return (cycleId, .all, none)
  | some .unreachableOnly =>
    let referencedCycleId := (event.referencedCycleId.bind Value.asStr?).getD ""
    require (referencedCycleId ≠ "") (.valueError
      "referencedCycleId is required and must be a non-empty string when mode=UNREACHABLE_ONLY")
    return (cycleId, .unreachableOnly, some referencedCycleId)

def isUnreachedStatus : VoiceStatus → Bool
  | .unreachable | .other => true
  | _ => false

/-- `_query_unreachable_response_ids`, on the rows of the referenced cycle. -/
def queryUnreachableResponseIds (responses : Store String Response) : List String :=
  (responses.rows.filter fun entry => entry.1 != "" && entry.2.voiceStatus.any isUnreachedStatus).map Prod.fst

/-- `_batch_get_employees`: the rows that exist, in some order. -/
def batchGetEmployees (employees : Store String Employee) (employeeIds : List String) : List (String × Employee) :=
  employeeIds.filterMap fun employeeId => (employees.lookup employeeId).map fun row => (employeeId, row)

def projectTarget (entry : String × Employee) : Target where
  employeeId := entry.1
  name := entry.2.name
  phoneNumber := (entry.2.phoneNumber.bind Value.asStr?).getD ""

/-- The rows the two modes start from: all of them, or those the referenced cycle did not reach. -/
def loadCandidates (employees : Store String Employee) (responses : String → Store String Response) :
    Option String → Except PyError (List (String × Employee))
  | none => .ok employees.rows
  | some referencedCycleId => do
    let employeeIds := queryUnreachableResponseIds (responses referencedCycleId)
    require (employeeIds ≠ []) (.noTargetsError
      ("No UNREACHABLE/OTHER responses found in referencedCycleId=" ++ referencedCycleId))
    return batchGetEmployees employees employeeIds

def lambdaHandler (employees : Store String Employee) (responses : String → Store String Response) (event : Event) :
    Except PyError (List Target) := do
  let (cycleId, mode, referencedCycleId) ← parseEvent event
  let candidates ← loadCandidates employees responses referencedCycleId
  let visible := candidates.filter fun entry => isVisible entry.2
  require (visible.map Prod.fst ≠ []) (.noTargetsError
    ("No visible employees for cycleId=" ++ cycleId ++ " mode=" ++ mode.name))
  return visible.map projectTarget

/-- What `CallMap` iterates over: at least one employee, none of them twice. -/
structure TargetList where
  employeeIds : List String
  nodup : employeeIds.Nodup
  ne_nil : employeeIds ≠ []
  ne_empty : ∀ employeeId ∈ employeeIds, employeeId ≠ ""
  deriving DecidableEq

theorem requireHashable_of_ofValue? {v : Option Value} {mode : Mode} (h : v.bind Mode.ofValue? = some mode) :
    (v.getD .none).requireHashable = .ok ⟨⟩ := by
  obtain ⟨v, rfl, hv⟩ := Option.bind_eq_some_iff.1 h
  cases v with
  | str s => rfl
  | _ => cases hv

theorem map_fst_batchGetEmployees (employees : Store String Employee) (employeeIds : List String) :
    (batchGetEmployees employees employeeIds).map Prod.fst =
      employeeIds.filter fun employeeId => (employees.lookup employeeId).isSome := by
  induction employeeIds with
  | nil => rfl
  | cons employeeId rest ih =>
    rw [batchGetEmployees] at ih
    cases hrow : employees.lookup employeeId with
    | none => simp [batchGetEmployees, hrow, ih]
    | some row => simp [batchGetEmployees, hrow, ih]

theorem nodup_queryUnreachableResponseIds (responses : Store String Response) :
    (queryUnreachableResponseIds responses).Nodup :=
  responses.nodup_map_fst_rows.sublist (List.filter_sublist.map Prod.fst)

/-- The candidates are rows of the table, each under its own key and none of them twice. -/
theorem loadCandidates_spec {employees : Store String Employee} {responses : String → Store String Response}
    {referencedCycleId : Option String} {candidates : List (String × Employee)}
    (h : loadCandidates employees responses referencedCycleId = .ok candidates) :
    (candidates.map Prod.fst).Nodup ∧ ∀ entry ∈ candidates, employees.lookup entry.1 = some entry.2 := by
  cases referencedCycleId with
  | none =>
    cases h
    exact ⟨employees.nodup_map_fst_rows, fun entry hentry => Store.mem_rows.1 hentry⟩
  | some referencedCycleId =>
    obtain ⟨_, -, h⟩ := bind_eq_ok.1 h
    cases h
    constructor
    · rw [map_fst_batchGetEmployees]
      exact (nodup_queryUnreachableResponseIds _).filter _
    · rintro ⟨employeeId, row⟩ hentry
      obtain ⟨id, -, hid⟩ := List.mem_filterMap.1 hentry
      obtain ⟨row', hrow', heq⟩ := Option.map_eq_some_iff.1 hid
      cases heq
      exact hrow'

theorem lambdaHandler_spec {employees : Store String Employee} {responses : String → Store String Response}
    {event : Event} {targets : List Target} (h : lambdaHandler employees responses event = .ok targets) :
    (targets.map Target.employeeId).Nodup ∧ targets.map Target.employeeId ≠ [] ∧
      ∀ target ∈ targets, ∃ row, employees.lookup target.employeeId = some row ∧ isVisible row = true := by
  obtain ⟨⟨cycleId, mode, referencedCycleId⟩, -, h⟩ := bind_eq_ok.1 h
  obtain ⟨candidates, hcandidates, h⟩ := bind_eq_ok.1 h
  obtain ⟨_, hvisible, h⟩ := bind_eq_ok.1 h
  have hrows := loadCandidates_spec hcandidates
  cases h
  have hids : ((candidates.filter fun entry => isVisible entry.2).map projectTarget).map Target.employeeId =
      (candidates.filter fun entry => isVisible entry.2).map Prod.fst := by
    rw [List.map_map]
    rfl
  refine ⟨?_, ?_, ?_⟩
  · rw [hids]
    exact hrows.1.sublist (List.filter_sublist.map Prod.fst)
  · rw [hids]
    exact require_eq_ok.1 hvisible
  · intro target htarget
    obtain ⟨entry, hentry, rfl⟩ := List.mem_map.1 htarget
    obtain ⟨hmem, hsee⟩ := List.mem_filter.1 hentry
    exact ⟨entry.2, hrows.2 entry hmem, hsee⟩

/-- Each target is made of the row of its employee. -/
theorem eq_projectTarget_of_mem {employees : Store String Employee} {responses : String → Store String Response}
    {event : Event} {targets : List Target} (h : lambdaHandler employees responses event = .ok targets) {target : Target}
    (hmem : target ∈ targets) :
    ∃ row, employees.lookup target.employeeId = some row ∧ target = projectTarget (target.employeeId, row) := by
  obtain ⟨⟨cycleId, mode, referencedCycleId⟩, -, h⟩ := bind_eq_ok.1 h
  obtain ⟨candidates, hcandidates, h⟩ := bind_eq_ok.1 h
  obtain ⟨_, -, h⟩ := bind_eq_ok.1 h
  cases h
  obtain ⟨entry, hentry, rfl⟩ := List.mem_map.1 hmem
  exact ⟨entry.2, (loadCandidates_spec hcandidates).2 entry (List.mem_filter.1 hentry).1, rfl⟩

/-- A cycle for all employees calls every visible one. -/
theorem lambdaHandler_all (employees : Store String Employee) (responses : String → Store String Response) {cycleId : String}
    (hcycleId : cycleId ≠ "") {employeeId : String} {row : Employee} (hrow : employees.lookup employeeId = some row)
    (hvisible : isVisible row = true) : ∃ targets,
      lambdaHandler employees responses { cycleId := some (.str cycleId), mode := some (.str "ALL") } = .ok targets ∧
        projectTarget (employeeId, row) ∈ targets := by
  have hmem : (employeeId, row) ∈ employees.rows.filter fun entry => isVisible entry.2 :=
    List.mem_filter.2 ⟨Store.mem_rows.2 hrow, hvisible⟩
  refine ⟨_, ?_, List.mem_map_of_mem hmem⟩
  have hparse : parseEvent { cycleId := some (.str cycleId), mode := some (.str "ALL") } = .ok (cycleId, .all, none) := by
    rw [parseEvent]
    exact bind_eq_ok.2 ⟨(), require_eq_ok.2 hcycleId, rfl⟩
  refine bind_eq_ok.2 ⟨_, hparse, bind_eq_ok.2 ⟨_, rfl, bind_eq_ok.2 ⟨(), require_eq_ok.2 ?_, rfl⟩⟩⟩
  exact List.ne_nil_of_mem (List.mem_map_of_mem hmem)

/-- The answer of the lambda as the list the Map iterates over. A key attribute is never the empty string. -/
def targetList {employees : Store String Employee} {responses : String → Store String Response} {event : Event}
    {targets : List Target} (hkeys : ∀ employeeId ∈ employees.keys, employeeId ≠ "")
    (h : lambdaHandler employees responses event = .ok targets) : TargetList where
  employeeIds := targets.map Target.employeeId
  nodup := (lambdaHandler_spec h).1
  ne_nil := (lambdaHandler_spec h).2.1
  ne_empty := by
    intro employeeId hmem
    obtain ⟨target, htarget, rfl⟩ := List.mem_map.1 hmem
    obtain ⟨row, hrow, -⟩ := (lambdaHandler_spec h).2.2 target htarget
    exact hkeys _ (Store.mem_keys_iff.2 ⟨row, hrow⟩)

end LoadTargets

end SafetyConfirmation
