import Mathlib.Data.List.MinMax
import SafetyConfirmation.Inbound.CycleSelection
import SafetyConfirmation.Lib.IsoText

/-!
# The decision on the records of cycles

`decide_inbound_flow` on the dictionaries that DynamoDB answers with: the checks of each record, the window as arithmetic
on parsed timestamps, and the latest record as the one with the greatest text.
-/

namespace SafetyConfirmation

namespace Inbound

namespace CycleRecords

open Checks CivilTime IsoText

/-- `cycle.get(key)`. -/
def get (cycle : Value) (key : String) : Value := (cycle.get? key).getD .none

/-- The text under a key that the checks have found one under. -/
def textAt (cycle : Value) (key : String) : String := (get cycle key).asStr?.getD ""

/-- `value.replace("Z", "+00:00") if value.endswith("Z") else value`. -/
def withoutZ (cs : List Char) : List Char :=
  if cs.getLast? = some 'Z' then cs.flatMap fun c => if c = 'Z' then "+00:00".toList else [c] else cs

/-- `_parse_iso8601`. -/
def parseIso8601 (value : String) : Except PyError Aware :=
  if value = "" then .error (.valueError "timestamp must be a non-empty string; got" (some (.str value)))
  else
    match read (withoutZ value.toList) with
    | .malformed => .error (.valueError "timestamp not ISO 8601:" (some (.str value)))
    | .naive _ => .error (.valueError "timestamp must be timezone-aware; got naive" (some (.str value)))
    | .aware t => .ok t

def statusOf? (cycle : Value) : Option CycleStatus :=
  match get cycle "status" with
  | .str "RUNNING" => some .running
  | .str "COMPLETED" => some .completed
  | .str "TIMEOUT" => some .timeout
  | .str "START_FAILED" => some .startFailed
  | _ => none

/-- `_validate_cycle`. -/
def validateCycle (cycle : Value) : Except PyError PUnit := do
  match cycle with
  | .dict _ => do
    require (textAt cycle "cycleId" ≠ "") (.valueError "cycle.cycleId must be a non-empty str; got" (some (get cycle "cycleId")))
    (get cycle "status").requireHashable
    let status ← demand (statusOf? cycle) (.valueError
      "cycle.status must be one of ['COMPLETED', 'RUNNING', 'START_FAILED', 'TIMEOUT']; got" (some (get cycle "status")))
    match get cycle "startedAt" with
    | .str startedAt => discard (parseIso8601 startedAt)
    | startedAt => .error (.valueError "cycle.startedAt must be an ISO 8601 string; got" (some startedAt))
    if status = .running then return ⟨⟩
    else do
      require (textAt cycle "completedAt" ≠ "")
        (.valueError ("cycle.completedAt is required for status='" ++ status.name ++ "'; got") (some (get cycle "completedAt")))
      discard (parseIso8601 (textAt cycle "completedAt"))
  | cycle => .error (.valueError ("cycle must be a dict; got " ++ cycle.typeName))

/-- `_is_within_window`. -/
def isWithinWindow (timestamp : String) (now : Instant) (windowDays : Int) : Except PyError Bool := do
  let parsed ← parseIso8601 timestamp
  match parsed.plus? (days windowDays) with
  | some limit => return decide (now ≤ limit.instant)
  | none => .error (.other "OverflowError")

/-- `_select_latest`: `max` takes the first of the records with the greatest text. -/
def selectLatest (cycles : List Value) (keyAttr : String) : Option Value := cycles.argmax fun cycle => textAt cycle keyAttr

def hasStatus (status : CycleStatus) (cycle : Value) : Bool := statusOf? cycle == some status

def isTerminated (cycle : Value) : Bool := (statusOf? cycle).any isTerminalStatus

/-- The records that a test finds and whose `completedAt` is in the window. -/
def recent (test : Value → Bool) (now : Instant) (windowDays : Int) : List Value → Except PyError (List Value)
  | [] => return []
  | cycle :: rest =>
    if test cycle then do
      let inside ← isWithinWindow (textAt cycle "completedAt") now windowDays
      let others ← recent test now windowDays rest
      return if inside then cycle :: others else others
    else recent test now windowDays rest

def cycleIdOf (cycle : Value) : String := textAt cycle "cycleId"

def decideInboundFlow (employeeMatched : Bool) (cycles : List Value) (now : Instant) (eligibilityWindowDays : Int) :
    Except PyError (InboundFlow × Option String) := do
  require (1 ≤ eligibilityWindowDays ∧ eligibilityWindowDays ≤ 365)
    (.valueError "eligibility_window_days must be an int in [1, 365]; got" (some (.int eligibilityWindowDays)))
  if employeeMatched then do
    cycles.forM validateCycle
    match selectLatest (cycles.filter (hasStatus .running)) "startedAt" with
    | some cycle => return (.activeCycle, some (cycleIdOf cycle))
    | none => do
      let completedRecent ← recent (hasStatus .completed) now eligibilityWindowDays cycles
      match selectLatest completedRecent "completedAt" with
      | some cycle => return (.activeCycle, some (cycleIdOf cycle))
      | none => do
        let terminatedRecent ← recent isTerminated now eligibilityWindowDays cycles
        match selectLatest terminatedRecent "completedAt" with
        | some cycle => return (.cycleTerminated, some (cycleIdOf cycle))
        | none => return (.noCycle, none)
  else return (.notRegistered, none)

/-! ### Records with timestamps as the lambdas write them -/

/-- The record has the time under the key, as a text of whole seconds. -/
def HasTime (cycle : Value) (key : String) (t : Datetime) : Prop :=
  cycle.get? key = some (.str (isoformatZ t)) ∧ IsWhole t

/-- A record that passes the checks, with timestamps in the form `YYYY-MM-DDTHH:MM:SSZ`. -/
structure WellFormed (cycle : Value) : Prop where
  dict : ∃ items, cycle = .dict items
  cycleId : textAt cycle "cycleId" ≠ ""
  status : ∃ status : CycleStatus, cycle.get? "status" = some (.str status.name)
  startedAt : ∃ t, HasTime cycle "startedAt" t
  completedAt : hasStatus .running cycle = false → ∃ t, HasTime cycle "completedAt" t

/-- What the text under a key stands for. -/
def instantAt (cycle : Value) (key : String) : Instant :=
  match parseIso8601 (textAt cycle key) with
  | .ok t => t.instant
  | .error _ => 0

theorem withoutZ_isoformatZ (t : Datetime) : withoutZ (isoText t ++ ['Z']) = isoText t ++ "+00:00".toList := by
  have hkeep : ∀ cs : List Char, 'Z' ∉ cs → cs.flatMap (fun c => if c = 'Z' then "+00:00".toList else [c]) = cs := by
    intro cs hcs
    induction cs with
    | nil => rfl
    | cons c cs ih =>
      have hc : c ≠ 'Z' := fun h => hcs (List.mem_cons.2 (.inl h.symm))
      rw [List.flatMap_cons, ih fun h => hcs (List.mem_cons_of_mem _ h), if_neg hc]
      rfl
  rw [withoutZ, if_pos List.getLast?_concat, List.flatMap_append, hkeep _ (not_mem_isoText t)]
  rfl

theorem isoformatZ_ne_empty (t : Datetime) : isoformatZ t ≠ "" := by
  intro h
  have htoList := congrArg String.toList h
  rw [isoformatZ, String.toList_ofList] at htoList
  simp at htoList

@[simp] theorem parseIso8601_isoformatZ (t : Datetime) : parseIso8601 (isoformatZ t) = .ok { wall := t, offset := 0 } := by
  have hread : read (withoutZ (isoformatZ t).toList) = .aware { wall := t, offset := 0 } := by
    rw [isoformatZ, String.toList_ofList, withoutZ_isoformatZ, read_isoText]
  rw [parseIso8601, if_neg (isoformatZ_ne_empty t), hread]

theorem statusOf?_eq {cycle : Value} {status : CycleStatus} (h : cycle.get? "status" = some (.str status.name)) :
    statusOf? cycle = some status := by
  rw [statusOf?, get, h]
  cases status <;> rfl

namespace HasTime

variable {cycle : Value} {key : String} {t : Datetime}

theorem get_eq (h : HasTime cycle key t) : get cycle key = .str (isoformatZ t) := by
  rw [get, h.1]
  rfl

theorem textAt_eq (h : HasTime cycle key t) : textAt cycle key = isoformatZ t := by
  rw [textAt, h.get_eq]
  rfl

theorem instantAt_eq (h : HasTime cycle key t) : instantAt cycle key = t.instant := by
  rw [instantAt, h.textAt_eq, parseIso8601_isoformatZ]
  exact Int.sub_zero _

/-- The window reaches as far as the calendar does. -/
theorem isWithinWindow_eq (h : HasTime cycle key t) (now : Instant) (windowDays : Int) :
    isWithinWindow (textAt cycle key) now windowDays =
      if Datetime.InRange (instantAt cycle key + days windowDays) then
        .ok (decide (now ≤ instantAt cycle key + days windowDays))
      else .error (.other "OverflowError") := by
  rw [h.instantAt_eq, h.textAt_eq, isWithinWindow, parseIso8601_isoformatZ, ok_bind]
  split
  · rename_i limit hlimit
    have hinstant := Aware.instant_of_plus? hlimit
    obtain ⟨wall, hwall, -⟩ := Option.map_eq_some_iff.1 hlimit
    rw [if_pos (Datetime.isSome_ofInstant?_iff.1 (by rw [hwall]; rfl)), hinstant]
    show Except.ok (decide (now ≤ t.instant - 0 + _)) = _
    rw [Int.sub_zero]
  · rename_i hnone
    have hout : ¬ Datetime.InRange (t.instant + days windowDays) := by
      rw [← Datetime.isSome_ofInstant?_iff, Option.map_eq_none_iff.1 hnone]
      exact Bool.false_ne_true
    rw [if_neg hout]

end HasTime

theorem textAt_lt_iff {cycle cycle' : Value} {key : String} {t t' : Datetime} (h : HasTime cycle key t)
    (h' : HasTime cycle' key t') : textAt cycle key < textAt cycle' key ↔ instantAt cycle key < instantAt cycle' key := by
  rw [h.textAt_eq, h'.textAt_eq, h.instantAt_eq, h'.instantAt_eq]
  exact isoformatZ_lt_iff h.2 h'.2

theorem validateCycle_of_wellFormed {cycle : Value} (h : WellFormed cycle) : validateCycle cycle = .ok ⟨⟩ := by
  obtain ⟨⟨items, rfl⟩, hid, ⟨status, hstatus⟩, ⟨t, ht⟩, hcompleted⟩ := h
  have hget : get (.dict items) "status" = .str status.name := by
    rw [get, hstatus]
    rfl
  have hstatusOf := statusOf?_eq hstatus
  have hhashable : Value.requireHashable.{0} (.str status.name) = .ok ⟨⟩ := rfl
  have hdemand : ∀ e : PyError, demand (some status) e = .ok status := fun _ => rfl
  have hstarted : (discard (parseIso8601 (isoformatZ t)) : Except PyError PUnit) = .ok ⟨⟩ := by
    rw [parseIso8601_isoformatZ]
    rfl
  simp only [validateCycle, require_of hid, ok_bind, hget, hhashable, hstatusOf, hdemand, ht.get_eq, hstarted]
  by_cases hrunning : status = .running
  · rw [if_pos hrunning]
    rfl
  · obtain ⟨t', ht'⟩ := hcompleted (by rw [hasStatus, hstatusOf]; simpa using hrunning)
    have hne : textAt (.dict items) "completedAt" ≠ "" := by
      rw [ht'.textAt_eq]
      exact isoformatZ_ne_empty t'
    rw [if_neg hrunning, require_of hne, ok_bind, ht'.textAt_eq, parseIso8601_isoformatZ]
    rfl

/-! ### The record of a cycle -/

/-- The attributes that the decision reads. -/
def record (cycleId : String) (status : CycleStatus) (startedAt : String) (completedAt : Option String) : Value :=
  .dict ([("cycleId", .str cycleId), ("status", .str status.name), ("startedAt", .str startedAt)] ++
    Value.entry "completedAt" (completedAt.map .str))

section

variable {cycleId startedAt : String} {status : CycleStatus} {completedAt : Option String} {t : Datetime}

@[simp] theorem cycleIdOf_record : cycleIdOf (record cycleId status startedAt completedAt) = cycleId := rfl

@[simp] theorem statusOf?_record : statusOf? (record cycleId status startedAt completedAt) = some status :=
  statusOf?_eq rfl

/-- A record of a cycle that is over is refused without its time of completion. -/
theorem validateCycle_record_ne_ok (h : status ≠ .running) :
    validateCycle (record cycleId status startedAt none) ≠ .ok ⟨⟩ := by
  obtain ⟨items, hitems⟩ : ∃ items, record cycleId status startedAt none = .dict items := ⟨_, rfl⟩
  have hstatus := @statusOf?_record cycleId startedAt status none
  have hstarted : get (record cycleId status startedAt none) "startedAt" = .str startedAt := rfl
  have hempty : textAt (record cycleId status startedAt none) "completedAt" = "" := rfl
  rw [hitems] at hstatus hstarted hempty ⊢
  intro hvalid
  rw [validateCycle] at hvalid
  obtain ⟨_, -, hvalid⟩ := bind_eq_ok.1 hvalid
  obtain ⟨_, -, hvalid⟩ := bind_eq_ok.1 hvalid
  obtain ⟨found, hfound, hvalid⟩ := bind_eq_ok.1 hvalid
  rw [demand_eq_ok, hstatus] at hfound
  simp only [hstarted, ← Option.some.inj hfound, if_neg h] at hvalid
  obtain ⟨_, -, hvalid⟩ := bind_eq_ok.1 hvalid
  obtain ⟨_, hrequired, -⟩ := bind_eq_ok.1 hvalid
  exact require_eq_ok.1 hrequired hempty

theorem hasTime_startedAt (h : IsWhole t) : HasTime (record cycleId status (isoformatZ t) completedAt) "startedAt" t :=
  ⟨rfl, h⟩

theorem hasTime_completedAt (h : IsWhole t) :
    HasTime (record cycleId status startedAt (some (isoformatZ t))) "completedAt" t := ⟨rfl, h⟩

theorem wellFormed_record (hid : cycleId ≠ "") (hstarted : ∃ t, startedAt = isoformatZ t ∧ IsWhole t)
    (hcompleted : status ≠ .running → ∃ t, completedAt = some (isoformatZ t) ∧ IsWhole t) :
    WellFormed (record cycleId status startedAt completedAt) where
  dict := ⟨_, rfl⟩
  cycleId := hid
  status := ⟨status, rfl⟩
  startedAt := by
    obtain ⟨t, rfl, ht⟩ := hstarted
    exact ⟨t, hasTime_startedAt ht⟩
  completedAt := by
    intro hrunning
    rw [hasStatus, statusOf?_record, beq_eq_false_iff_ne] at hrunning
    obtain ⟨t, rfl, ht⟩ := hcompleted fun heq => hrunning (congrArg some heq)
    exact ⟨t, hasTime_completedAt ht⟩

end

end CycleRecords

end Inbound

end SafetyConfirmation
