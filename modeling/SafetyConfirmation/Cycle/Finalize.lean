import SafetyConfirmation.Lib.Checks
import SafetyConfirmation.Response.Row

/-!
# The aggregates of a cycle

`shared.cycle.finalize`: the five helpers CycleFinalizer decides with, on the Response rows of a cycle as
dictionaries whose attributes may be missing or of any type. The rows the system writes are well typed, and on
those every helper answers with the count or test it is named after.
-/

namespace SafetyConfirmation

open Checks Response

/-- A Response row as the helpers read it: `none` where the key is absent. -/
structure ResponseItem where
  employeeId : Option Value := none
  voiceStatus : Option Value := none
  callAttempts : Option Value := none

namespace Finalize

def statusIn (statuses : VoiceStatus → Bool) (status : Option Value) : Except PyError Bool := do
  (status.getD .none).requireHashable
  return (status.bind Value.asStr?).any fun s => (VoiceStatus.ofName? s).any statuses

/-- `_coerce_call_attempts`: `int()` of a Decimal drops its fraction. -/
def coerceCallAttempts (idx : Nat) : Value → Except PyError Int
  | .int n => .ok n
  | .decimal q => .ok (q.num.tdiv q.den)
  | raw => .error (.typeError
      ("responses[" ++ toString idx ++ "].callAttempts must be int or Decimal; got " ++ raw.typeName))

def isCycleCompleted : List ResponseItem → Except PyError Bool
  | [] => .ok true
  | row :: rows => do
    if ← statusIn VoiceStatus.isTerminal row.voiceStatus then isCycleCompleted rows else return false

def countPendingResponses : List ResponseItem → Except PyError Nat
  | [] => .ok 0
  | row :: rows => do
    let terminal ← statusIn VoiceStatus.isTerminal row.voiceStatus
    let rest ← countPendingResponses rows
    return if terminal then rest else rest + 1

structure Summary where
  targetTotal : Nat
  dispatched : Nat := 0
  responded : Nat := 0
  unreachable : Nat := 0
  byStatus : List (Value × Nat) := []

/-- Two keys of a dictionary are one: equal strings, or equal numbers whatever their type. -/
def sameKey (left right : Value) : Bool :=
  match left.asStr?, right.asStr? with
  | some s, some t => s == t
  | none, none =>
    match left.number?, right.number? with
    | some p, some q => p == q
    | none, none => true
    | _, _ => false
  | _, _ => false

def increment (status : Value) : List (Value × Nat) → List (Value × Nat)
  | [] => [(status, 1)]
  | (key, count) :: rest =>
    if sameKey key status then (key, count + 1) :: rest else (key, count) :: increment status rest

/-- The loop of `compute_summary` from row `idx` on. -/
def summarize : Nat → Summary → List ResponseItem → Except PyError Summary
  | _, summary, [] => .ok summary
  | idx, summary, row :: rows => do
    let attempts ← coerceCallAttempts idx (row.callAttempts.getD (.int 0))
    let status := row.voiceStatus.getD (.str VoiceStatus.pending.name)
    status.requireHashable
    let confirmed ← statusIn VoiceStatus.isConfirmed (some status)
    let unreachable := status.asStr? == some VoiceStatus.unreachable.name
    summarize (idx + 1)
      { summary with
        dispatched := summary.dispatched + if 0 < attempts then 1 else 0
        responded := summary.responded + if confirmed then 1 else 0
        unreachable := summary.unreachable + if unreachable then 1 else 0
        byStatus := increment status summary.byStatus } rows

def computeSummary (rows : List ResponseItem) : Except PyError Summary :=
  summarize 0 { targetTotal := rows.length } rows

/-- The row's id where it is a string, and otherwise the empty string, which no key attribute can be. -/
def addressOf (row : ResponseItem) : String := (row.employeeId.bind Value.asStr?).getD ""

def missingEmployeeId (idx : Nat) (row : ResponseItem) : PyError :=
  .typeError
    ("responses[" ++ toString idx ++ "] in " ++ (row.voiceStatus.bind Value.asStr?).getD "" ++
      " state must include a non-empty employeeId; got")
    (some (row.employeeId.getD .none))

def applyTimeoutFrom : Nat → List ResponseItem → Except PyError (List (String × VoiceStatus))
  | _, [] => .ok []
  | idx, row :: rows => do
    if ← statusIn VoiceStatus.isRetryable row.voiceStatus then
      require (addressOf row ≠ "") (missingEmployeeId idx row)
      let rest ← applyTimeoutFrom (idx + 1) rows
      return (addressOf row, .unreachable) :: rest
    else applyTimeoutFrom (idx + 1) rows

def applyTimeout (rows : List ResponseItem) : Except PyError (List (String × VoiceStatus)) := applyTimeoutFrom 0 rows

def firstDispatchIncompleteFrom : Nat → List ResponseItem → Except PyError Bool
  | _, [] => .ok false
  | idx, row :: rows => do
    let attempts ← coerceCallAttempts idx (row.callAttempts.getD (.int 0))
    if attempts = 0 then return true else firstDispatchIncompleteFrom (idx + 1) rows

def isFirstDispatchIncomplete (rows : List ResponseItem) : Except PyError Bool := firstDispatchIncompleteFrom 0 rows

end Finalize

/-! ### One reading of a row -/

namespace ResponseItem

/-- `callAttempts` is missing or a number of calls, and `voiceStatus` is missing or a string. -/
structure IsCountable (row : ResponseItem) : Prop where
  callAttempts : ∀ raw, row.callAttempts = some raw →
    (∃ n : Int, 0 ≤ n ∧ raw = .int n) ∨ ∃ q : ℚ, 0 ≤ q ∧ raw = .decimal q
  voiceStatus : ∀ raw, row.voiceStatus = some raw → ∃ s, raw = .str s

def attempts (row : ResponseItem) : Int :=
  match row.callAttempts with
  | some (.int n) => n
  | some (.decimal q) => q.num.tdiv q.den
  | _ => 0

def status (row : ResponseItem) : String := (row.voiceStatus.bind Value.asStr?).getD VoiceStatus.pending.name

def isDispatched (row : ResponseItem) : Bool := decide (0 < row.attempts)

def hasStatus (statuses : VoiceStatus → Bool) (row : ResponseItem) : Bool :=
  (VoiceStatus.ofName? row.status).any statuses

variable {row : ResponseItem}

theorem coerceCallAttempts_eq (hrow : row.IsCountable) (idx : Nat) :
    Finalize.coerceCallAttempts idx (row.callAttempts.getD (.int 0)) = .ok row.attempts := by
  cases hraw : row.callAttempts with
  | none => simp [attempts, hraw, Finalize.coerceCallAttempts]
  | some raw =>
    rcases hrow.callAttempts raw hraw with ⟨n, -, rfl⟩ | ⟨q, -, rfl⟩
    · simp [attempts, hraw, Finalize.coerceCallAttempts]
    · simp [attempts, hraw, Finalize.coerceCallAttempts]

theorem attempts_nonneg (hrow : row.IsCountable) : 0 ≤ row.attempts := by
  cases hraw : row.callAttempts with
  | none => simp [attempts, hraw]
  | some raw =>
    rcases hrow.callAttempts raw hraw with ⟨n, hn, rfl⟩ | ⟨q, hq, rfl⟩
    · simpa [attempts, hraw] using hn
    · have hnum : 0 ≤ q.num := Rat.num_nonneg.2 hq
      simpa [attempts, hraw] using Int.tdiv_nonneg hnum (Int.natCast_nonneg q.den)

theorem attempts_eq_zero_iff (hrow : row.IsCountable) : row.attempts = 0 ↔ row.isDispatched = false := by
  have hnonneg := attempts_nonneg hrow
  rw [isDispatched, decide_eq_false_iff_not]
  omega

theorem voiceStatus_getD (hrow : row.IsCountable) :
    row.voiceStatus.getD (.str VoiceStatus.pending.name) = .str row.status := by
  cases hraw : row.voiceStatus with
  | none => simp [status, hraw]
  | some raw =>
    obtain ⟨s, rfl⟩ := hrow.voiceStatus raw hraw
    simp [status, hraw, Value.asStr?]

/-- A test of the status as the row has it: a missing one is in none of the sets the helpers test. -/
theorem statusIn_eq (hrow : row.IsCountable) {statuses : VoiceStatus → Bool} (hpending : statuses .pending = false) :
    Finalize.statusIn statuses row.voiceStatus = .ok (row.hasStatus statuses) := by
  cases hraw : row.voiceStatus with
  | none => simp [Finalize.statusIn, hasStatus, status, hraw, Value.requireHashable, hpending]
  | some raw =>
    obtain ⟨s, rfl⟩ := hrow.voiceStatus raw hraw
    simp [Finalize.statusIn, hasStatus, status, hraw, Value.requireHashable, Value.asStr?]

/-- A test of the status with its default put in. -/
theorem statusIn_status (row : ResponseItem) (statuses : VoiceStatus → Bool) :
    Finalize.statusIn statuses (some (.str row.status)) = .ok (row.hasStatus statuses) := by
  simp [Finalize.statusIn, hasStatus, Value.requireHashable, Value.asStr?]

theorem hasStatus_beq (row : ResponseItem) (status : VoiceStatus) :
    row.hasStatus (· == status) = (row.status == status.name) := by
  rw [hasStatus, Bool.eq_iff_iff, beq_iff_eq]
  constructor
  · intro h
    obtain ⟨found, hfound, heq⟩ := (Option.any_eq_true _ _).1 h
    rw [VoiceStatus.eq_name_of_ofName? hfound, beq_iff_eq.1 heq]
  · intro h
    simp [h]

/-- A status is terminal in one of two ways, and never in both. -/
theorem terminal_split (found : Option VoiceStatus) :
    ((if found.any VoiceStatus.isConfirmed then 1 else 0) + if found.any (· == .unreachable) then 1 else 0) =
      if found.any VoiceStatus.isTerminal then 1 else 0 := by
  cases found with
  | none => rfl
  | some status => cases status <;> rfl

end ResponseItem

namespace Finalize

/-- The statuses the histogram counts. -/
def histogram (rows : List ResponseItem) (byStatus : List (Value × Nat)) : List (Value × Nat) :=
  rows.foldl (fun counted row => increment (.str row.status) counted) byStatus

section Counts

variable {rows : List ResponseItem}

theorem summarize_eq (hrows : ∀ row ∈ rows, row.IsCountable) (idx : Nat) (summary : Summary) :
    summarize idx summary rows = .ok
      { targetTotal := summary.targetTotal
        dispatched := summary.dispatched + rows.countP ResponseItem.isDispatched
        responded := summary.responded + rows.countP (ResponseItem.hasStatus VoiceStatus.isConfirmed)
        unreachable := summary.unreachable + rows.countP (ResponseItem.hasStatus (· == .unreachable))
        byStatus := histogram rows summary.byStatus } := by
  induction rows generalizing idx summary with
  | nil => rfl
  | cons row rows ih =>
    obtain ⟨hrow, hrest⟩ := List.forall_mem_cons.1 hrows
    have hname : ((Value.str row.status).asStr? == some VoiceStatus.unreachable.name) =
        row.hasStatus (· == .unreachable) := by
      rw [row.hasStatus_beq]
      rfl
    have hdispatched : (if 0 < row.attempts then 1 else 0) = if row.isDispatched then 1 else 0 := by
      simp [ResponseItem.isDispatched]
    rw [summarize, row.coerceCallAttempts_eq hrow, ok_bind, row.voiceStatus_getD hrow]
    simp only [Value.requireHashable, ok_bind, row.statusIn_status, hname, hdispatched]
    rw [ih hrest]
    simp only [List.countP_cons, Except.ok.injEq, Summary.mk.injEq, true_and]
    refine ⟨?_, ?_, ?_, rfl⟩ <;> omega

theorem countPendingResponses_eq (hrows : ∀ row ∈ rows, row.IsCountable) :
    countPendingResponses rows = .ok (rows.countP fun row => !row.hasStatus VoiceStatus.isTerminal) := by
  induction rows with
  | nil => rfl
  | cons row rows ih =>
    obtain ⟨hrow, hrest⟩ := List.forall_mem_cons.1 hrows
    rw [countPendingResponses, row.statusIn_eq hrow rfl, ok_bind, ih hrest, ok_bind, List.countP_cons]
    cases row.hasStatus VoiceStatus.isTerminal <;> rfl

theorem isCycleCompleted_eq (hrows : ∀ row ∈ rows, row.IsCountable) :
    isCycleCompleted rows = .ok (rows.all (ResponseItem.hasStatus VoiceStatus.isTerminal)) := by
  induction rows with
  | nil => rfl
  | cons row rows ih =>
    obtain ⟨hrow, hrest⟩ := List.forall_mem_cons.1 hrows
    rw [isCycleCompleted, row.statusIn_eq hrow rfl, ok_bind, List.all_cons]
    cases row.hasStatus VoiceStatus.isTerminal with
    | true => simpa using ih hrest
    | false => rfl

theorem firstDispatchIncompleteFrom_eq (hrows : ∀ row ∈ rows, row.IsCountable) (idx : Nat) :
    firstDispatchIncompleteFrom idx rows = .ok (rows.any fun row => !row.isDispatched) := by
  induction rows generalizing idx with
  | nil => rfl
  | cons row rows ih =>
    obtain ⟨hrow, hrest⟩ := List.forall_mem_cons.1 hrows
    rw [firstDispatchIncompleteFrom, row.coerceCallAttempts_eq hrow, ok_bind, List.any_cons]
    cases hdispatched : row.isDispatched with
    | true =>
      have hnonzero : row.attempts ≠ 0 := by
        intro hzero
        rw [(row.attempts_eq_zero_iff hrow).1 hzero] at hdispatched
        cases hdispatched
      rw [if_neg hnonzero]
      simpa using ih hrest (idx + 1)
    | false =>
      rw [if_pos ((row.attempts_eq_zero_iff hrow).2 hdispatched)]
      rfl

end Counts

/-! ### On the rows the system writes -/

/-- A stored row as the query returns it: DynamoDB numbers are Decimals. -/
def item (employeeId : String) (row : Response) : ResponseItem where
  employeeId := some (.str employeeId)
  voiceStatus := row.voiceStatus.map fun status => .str status.name
  callAttempts := row.callAttempts.map fun n => .decimal n

def items (rows : List (String × Response)) : List ResponseItem := rows.map fun entry => item entry.1 entry.2

theorem items_cons (entry : String × Response) (rows : List (String × Response)) :
    items (entry :: rows) = item entry.1 entry.2 :: items rows := rfl

@[simp] theorem addressOf_item (entry : String × Response) : addressOf (item entry.1 entry.2) = entry.1 := rfl

def hasStatus (statuses : VoiceStatus → Bool) (entry : String × Response) : Bool := entry.2.voiceStatus.any statuses

def isDispatched (entry : String × Response) : Bool := decide (0 < attemptsOf (some entry.2))

@[simp] theorem statusIn_name (statuses : VoiceStatus → Bool) (status : VoiceStatus) :
    statusIn statuses (some (.str status.name)) = .ok (statuses status) := by
  simp [statusIn, Value.requireHashable, Value.asStr?]

theorem statusIn_item (statuses : VoiceStatus → Bool) (entry : String × Response) :
    statusIn statuses (item entry.1 entry.2).voiceStatus = .ok (hasStatus statuses entry) := by
  cases hstatus : entry.2.voiceStatus with
  | none => simp [item, hasStatus, hstatus, statusIn, Value.requireHashable]
  | some status => simp [item, hasStatus, hstatus]

theorem isCountable_item (entry : String × Response) : (item entry.1 entry.2).IsCountable where
  callAttempts := by
    intro raw hraw
    cases hattempts : entry.2.callAttempts with
    | none => simp [item, hattempts] at hraw
    | some n =>
      have hvalue : Value.decimal n = raw := by simpa [item, hattempts] using hraw
      exact .inr ⟨n, Rat.natCast_nonneg, hvalue.symm⟩
  voiceStatus := by
    intro raw hraw
    obtain ⟨status, -, rfl⟩ := Option.map_eq_some_iff.1 hraw
    exact ⟨status.name, rfl⟩

theorem isCountable_items (rows : List (String × Response)) : ∀ row ∈ items rows, row.IsCountable := by
  intro row hrow
  obtain ⟨entry, -, rfl⟩ := List.mem_map.1 hrow
  exact isCountable_item entry

theorem hasStatus_item (statuses : VoiceStatus → Bool) (hpending : statuses .pending = false)
    (entry : String × Response) : (item entry.1 entry.2).hasStatus statuses = hasStatus statuses entry :=
  Except.ok.inj
    ((ResponseItem.statusIn_eq (isCountable_item entry) hpending).symm.trans (statusIn_item statuses entry))

theorem isDispatched_item (entry : String × Response) :
    (item entry.1 entry.2).isDispatched = isDispatched entry := by
  cases hattempts : entry.2.callAttempts with
  | none => simp [ResponseItem.isDispatched, ResponseItem.attempts, isDispatched, item, attemptsOf, hattempts]
  | some n => simp [ResponseItem.isDispatched, ResponseItem.attempts, isDispatched, item, attemptsOf, hattempts]

theorem isCycleCompleted_items (rows : List (String × Response)) :
    isCycleCompleted (items rows) = .ok (rows.all (hasStatus VoiceStatus.isTerminal)) := by
  rw [isCycleCompleted_eq (isCountable_items rows), items, List.all_map]
  simp only [Function.comp_def, hasStatus_item VoiceStatus.isTerminal rfl]

theorem countPendingResponses_items (rows : List (String × Response)) :
    countPendingResponses (items rows) = .ok (rows.countP fun entry => !hasStatus VoiceStatus.isTerminal entry) := by
  rw [countPendingResponses_eq (isCountable_items rows), items, List.countP_map]
  simp only [Function.comp_def, hasStatus_item VoiceStatus.isTerminal rfl]

theorem isFirstDispatchIncomplete_items (rows : List (String × Response)) :
    isFirstDispatchIncomplete (items rows) = .ok (rows.any fun entry => !isDispatched entry) := by
  rw [isFirstDispatchIncomplete, firstDispatchIncompleteFrom_eq (isCountable_items rows), items, List.any_map]
  simp only [Function.comp_def, isDispatched_item]

theorem applyTimeoutFrom_items (idx : Nat) {rows : List (String × Response)} (hids : ∀ entry ∈ rows, entry.1 ≠ "") :
    applyTimeoutFrom idx (items rows) =
      .ok ((rows.filter (hasStatus VoiceStatus.isRetryable)).map fun entry => (entry.1, .unreachable)) := by
  induction rows generalizing idx with
  | nil => rfl
  | cons entry rows ih =>
    have hid : entry.1 ≠ "" := hids entry List.mem_cons_self
    have htail := ih (idx + 1) fun other hother => hids other (List.mem_cons_of_mem entry hother)
    rw [items_cons, applyTimeoutFrom, statusIn_item, ok_bind]
    cases hopen : hasStatus VoiceStatus.isRetryable entry with
    | true =>
      rw [if_pos rfl, addressOf_item, require_of hid, ok_bind, htail, List.filter_cons_of_pos hopen]
      rfl
    | false =>
      rw [if_neg (by simp), htail, List.filter_cons_of_neg (by simp [hopen])]

theorem applyTimeout_items {rows : List (String × Response)} (hids : ∀ entry ∈ rows, entry.1 ≠ "") :
    applyTimeout (items rows) =
      .ok ((rows.filter (hasStatus VoiceStatus.isRetryable)).map fun entry => (entry.1, .unreachable)) :=
  applyTimeoutFrom_items 0 hids

structure Summary.Counts (summary : Summary) (rows : List (String × Response)) : Prop where
  targetTotal : summary.targetTotal = rows.length
  dispatched : summary.dispatched = rows.countP isDispatched
  responded : summary.responded = rows.countP (hasStatus VoiceStatus.isConfirmed)
  unreachable : summary.unreachable = rows.countP (hasStatus (· == .unreachable))

theorem computeSummary_items (rows : List (String × Response)) :
    ∃ summary, computeSummary (items rows) = .ok summary ∧ summary.Counts rows := by
  refine ⟨_, summarize_eq (isCountable_items rows) 0 _, ?_, ?_, ?_, ?_⟩
  · simp [items]
  · simp only [Nat.zero_add, items, List.countP_map, Function.comp_def, isDispatched_item]
  · simp only [Nat.zero_add, items, List.countP_map, Function.comp_def, hasStatus_item VoiceStatus.isConfirmed rfl]
  · simp only [Nat.zero_add, items, List.countP_map, Function.comp_def, hasStatus_item (· == .unreachable) rfl]

/-- Where every row is terminal, the responded and the unreachable rows are all of them. -/
theorem Summary.Counts.responded_add_unreachable {summary : Summary} {rows : List (String × Response)}
    (h : summary.Counts rows) (hterminal : ∀ entry ∈ rows, hasStatus VoiceStatus.isTerminal entry = true) :
    summary.responded + summary.unreachable = rows.length := by
  rw [h.responded, h.unreachable]
  clear h
  induction rows with
  | nil => rfl
  | cons entry rows ih =>
    have hrest := ih fun other hother => hterminal other (List.mem_cons_of_mem entry hother)
    have hentry := hterminal entry List.mem_cons_self
    rw [List.countP_cons, List.countP_cons, List.length_cons, ← hrest]
    have hsplit : ((if hasStatus VoiceStatus.isConfirmed entry then 1 else 0) +
        if hasStatus (· == .unreachable) entry then 1 else 0) = 1 := by
      cases hstatus : entry.2.voiceStatus with
      | none =>
        rw [hasStatus, hstatus] at hentry
        cases hentry
      | some status =>
        simp only [hasStatus, hstatus, Option.any_some] at hentry ⊢
        revert hentry
        cases status <;> decide
    omega

end Finalize

end SafetyConfirmation
