import SafetyConfirmation.Cycle.Row
import SafetyConfirmation.Cycle.Finalize

/-!
# The CycleFinalizer lambda

The three triggers, on what an invocation can read and change. Every AWS call succeeds here; a write whose
condition fails is one of the ways it can.
-/

namespace SafetyConfirmation

namespace CycleFinalizer

open KeyedStore Checks Response Finalize

structure Notification where
  event : String
  summary : Summary
  stoppedResponses : Option Nat := none

/-- The cycle an invocation is about: its row, its Response rows by employee, and what went out for it. -/
structure World where
  cycle : Option Cycle
  responses : Store String Response
  executionStopped : Bool := false
  metrics : List String := []
  notifications : List Notification := []
  timerRulesDeleted : Bool := false

inductive Outcome where
  | incomplete (pendingCount : Nat)
  | completed (summary : Summary)
  | alreadyTerminal (summary : Option Summary)
  | noOp
  | noWarningNeeded
  | warningApplied (summary : Summary)
  | timeoutApplied (stoppedResponses : Nat) (summary : Summary)

def queryResponses (world : World) : List ResponseItem := items world.responses.rows

/-- `_set_cycle_status`, which reports whether the cycle was still running. -/
def World.setCycleStatus (world : World) (newStatus : CycleStatus) (now : Instant) : World :=
  { world with cycle := (Cycle.setCycleStatus newStatus now).run world.cycle }

def handleMapCompleted (now : Instant) (world : World) : Except PyError (Outcome × World) := do
  let responses := queryResponses world
  if ← isCycleCompleted responses then
    let summary ← computeSummary responses
    let closed := world.setCycleStatus .completed now
    if Cycle.isRunning world.cycle then
      return (.completed summary, { closed with timerRulesDeleted := true })
    else
      return (.alreadyTerminal (some summary), closed)
  else
    let pending ← countPendingResponses responses
    return (.incomplete pending, world)

def World.warn (world : World) (summary : Summary) : World :=
  { world with
    cycle := Cycle.setSlaWarningFlag.run world.cycle
    metrics := world.metrics ++ ["SlaWarning30Min"]
    notifications := world.notifications ++ [{ event := "SLA_WARNING_30MIN", summary }] }

def handleTimer30Min (world : World) : Except PyError (Outcome × World) := do
  if Cycle.isRunning world.cycle then
    let responses := queryResponses world
    if ← isFirstDispatchIncomplete responses then
      if Cycle.isRunning world.cycle then
        let summary ← computeSummary responses
        return (.warningApplied summary, world.warn summary)
      else
        return (.noOp, world)
    else
      return (.noWarningNeeded, world)
  else
    return (.noOp, world)

/-- The rows after the flips an invocation of TIMER_60MIN makes. -/
def forceUnreachable (responses : Store String Response) (rewrites : List (String × VoiceStatus)) :
    Store String Response := responses.writeAll (rewrites.map Prod.fst) forceResponseUnreachable

/-- The cycle once its execution was stopped, its open rows flipped and its status set. -/
def World.timeOut (world : World) (executionArn : Option String) (rewrites : List (String × VoiceStatus))
    (now : Instant) : World :=
  { world with
    executionStopped := world.executionStopped || executionArn.any (· != "")
    responses := forceUnreachable world.responses rewrites
    cycle := (Cycle.setCycleStatus .timeout now).run world.cycle }

def World.reportTimeout (world : World) (summary : Summary) (stoppedResponses : Nat) : World :=
  { world with
    metrics := world.metrics ++ ["CycleTimeout"]
    notifications := world.notifications ++
      [{ event := "CYCLE_TIMEOUT_60MIN", summary, stoppedResponses := some stoppedResponses }]
    timerRulesDeleted := true }

def handleTimer60Min (executionArn : Option String) (now : Instant) (world : World) :
    Except PyError (Outcome × World) := do
  if Cycle.isRunning world.cycle then
    let rewrites ← applyTimeout (queryResponses world)
    let closed := world.timeOut executionArn rewrites now
    if Cycle.isRunning world.cycle then
      let summary ← computeSummary (queryResponses closed)
      return (.timeoutApplied rewrites.length summary, closed.reportTimeout summary rewrites.length)
    else
      return (.alreadyTerminal none, closed)
  else
    return (.noOp, world)

/-! ### What each trigger does -/

/-- MAP_COMPLETED completes a running cycle exactly when every row is terminal, and changes nothing when not. -/
theorem handleMapCompleted_cases (now : Instant) (world : World) :
    (world.responses.rows.all (hasStatus VoiceStatus.isTerminal) = true ∧ ∃ outcome world',
      handleMapCompleted now world = .ok (outcome, world') ∧
      world'.cycle = (Cycle.setCycleStatus .completed now).run world.cycle ∧
      if Cycle.isRunning world.cycle then ∃ summary, outcome = .completed summary
      else ∃ summary, outcome = .alreadyTerminal (some summary)) ∨
    (world.responses.rows.all (hasStatus VoiceStatus.isTerminal) = false ∧
      ∃ pending, handleMapCompleted now world = .ok (.incomplete pending, world)) := by
  have hcompleted := isCycleCompleted_items world.responses.rows
  obtain ⟨summary, hsummary, -⟩ := computeSummary_items world.responses.rows
  have hpending := countPendingResponses_items world.responses.rows
  cases hall : world.responses.rows.all (hasStatus VoiceStatus.isTerminal) with
  | true =>
    rw [hall] at hcompleted
    refine .inl ⟨rfl, ?_⟩
    cases hrunning : Cycle.isRunning world.cycle with
    | true =>
      have heq : handleMapCompleted now world = .ok
          (.completed summary, { world.setCycleStatus .completed now with timerRulesDeleted := true }) := by
        simp only [handleMapCompleted, queryResponses, hcompleted, hsummary, ok_bind, hrunning, if_true, pure_eq_ok]
      exact ⟨_, _, heq, rfl, by rw [if_pos rfl]; exact ⟨_, rfl⟩⟩
    | false =>
      have heq : handleMapCompleted now world = .ok
          (.alreadyTerminal (some summary), world.setCycleStatus .completed now) := by
        simp only [handleMapCompleted, queryResponses, hcompleted, hsummary, ok_bind, hrunning, if_true,
          Bool.false_eq_true, if_false, pure_eq_ok]
      exact ⟨_, _, heq, rfl, by rw [if_neg (by simp)]; exact ⟨_, rfl⟩⟩
  | false =>
    rw [hall] at hcompleted
    have heq : handleMapCompleted now world = .ok (.incomplete
        (world.responses.rows.countP fun entry => !hasStatus VoiceStatus.isTerminal entry), world) := by
      simp only [handleMapCompleted, queryResponses, hcompleted, hpending, ok_bind, Bool.false_eq_true, if_false,
        pure_eq_ok]
    exact .inr ⟨rfl, _, heq⟩

/-- TIMER_30MIN warns about a running cycle exactly when some row has no attempt recorded. -/
theorem handleTimer30Min_cases {world : World} (hrunning : Cycle.isRunning world.cycle = true) :
    (world.responses.rows.any (fun entry => !isDispatched entry) = true ∧ ∃ summary world',
      handleTimer30Min world = .ok (.warningApplied summary, world') ∧
      world'.cycle = Cycle.setSlaWarningFlag.run world.cycle ∧
      world'.notifications = world.notifications ++ [{ event := "SLA_WARNING_30MIN", summary }]) ∨
    (world.responses.rows.any (fun entry => !isDispatched entry) = false ∧
      handleTimer30Min world = .ok (.noWarningNeeded, world)) := by
  have hincomplete := isFirstDispatchIncomplete_items world.responses.rows
  obtain ⟨summary, hsummary, -⟩ := computeSummary_items world.responses.rows
  cases hany : world.responses.rows.any (fun entry => !isDispatched entry) with
  | true =>
    rw [hany] at hincomplete
    have heq : handleTimer30Min world = .ok (.warningApplied summary, world.warn summary) := by
      simp only [handleTimer30Min, queryResponses, hrunning, hincomplete, hsummary, ok_bind, if_true, pure_eq_ok]
    exact .inl ⟨rfl, _, _, heq, rfl, rfl⟩
  | false =>
    rw [hany] at hincomplete
    refine .inr ⟨rfl, ?_⟩
    simp only [handleTimer30Min, queryResponses, hrunning, hincomplete, ok_bind, if_true, Bool.false_eq_true, if_false,
      pure_eq_ok]

/-- An open row is closed by the flip, and any other row is left. -/
theorem forceResponseUnreachable_run (row : Option Response) :
    forceResponseUnreachable.run row =
      if (statusOf row).any VoiceStatus.isRetryable then forceResponseUnreachable.update row else row := by
  rw [Write.run]
  congr 1
  rw [eq_iff_iff]
  cases hstatus : statusOf row with
  | none =>
    have hrow : row.bind voiceStatus = none := hstatus
    simp [forceResponseUnreachable, hrow]
  | some status =>
    have hrow : row.bind voiceStatus = some status := hstatus
    cases status <;> simp [forceResponseUnreachable, hrow, VoiceStatus.isRetryable]

/-- The flips of TIMER_60MIN reach every row. -/
theorem lookup_forceUnreachable {responses : Store String Response}
    {rewrites : List (String × VoiceStatus)}
    (hrewrites : rewrites = (responses.rows.filter (hasStatus VoiceStatus.isRetryable)).map
      fun entry => (entry.1, .unreachable)) (employeeId : String) :
    (forceUnreachable responses rewrites).lookup employeeId =
      forceResponseUnreachable.run (responses.lookup employeeId) := by
  have hkeys : rewrites.map Prod.fst = (responses.rows.filter (hasStatus VoiceStatus.isRetryable)).map Prod.fst := by
    rw [hrewrites, List.map_map]
    rfl
  have hnodup : (rewrites.map Prod.fst).Nodup := by
    rw [hkeys]
    exact responses.nodup_map_fst_rows.sublist (List.filter_sublist.map Prod.fst)
  rw [forceUnreachable, Store.lookup_writeAll responses hnodup]
  split
  · rfl
  · rename_i hnot
    rw [forceResponseUnreachable_run]
    split
    · rename_i hopen
      exfalso
      apply hnot
      cases hrow : responses.lookup employeeId with
      | none =>
        rw [hrow] at hopen
        cases hopen
      | some row =>
        rw [hrow] at hopen
        rw [hkeys, List.mem_map]
        exact ⟨(employeeId, row), List.mem_filter.2 ⟨Store.mem_rows.2 hrow, hopen⟩, rfl⟩
    · rfl

/-- TIMER_60MIN times a running cycle out, closes its open rows and reports the rows it leaves. -/
theorem handleTimer60Min_cases (executionArn : Option String) (now : Instant) {world : World}
    (hrunning : Cycle.isRunning world.cycle = true) (hids : ∀ entry ∈ world.responses.rows, entry.1 ≠ "") :
    ∃ stopped summary world', handleTimer60Min executionArn now world = .ok (.timeoutApplied stopped summary, world') ∧
      Cycle.statusOf world'.cycle = some .timeout ∧
      (∀ employeeId, world'.responses.lookup employeeId =
        forceResponseUnreachable.run (world.responses.lookup employeeId)) ∧
      world'.notifications = world.notifications ++
        [{ event := "CYCLE_TIMEOUT_60MIN", summary, stoppedResponses := some stopped }] ∧
      summary.Counts world'.responses.rows := by
  have hrewrites := applyTimeout_items hids
  generalize hlist : (world.responses.rows.filter (hasStatus VoiceStatus.isRetryable)).map
    (fun entry => (entry.1, VoiceStatus.unreachable)) = rewrites at hrewrites
  obtain ⟨summary, hsummary, hcounts⟩ := computeSummary_items (forceUnreachable world.responses rewrites).rows
  have hqueried : computeSummary (queryResponses (world.timeOut executionArn rewrites now)) = _ := hsummary
  have heq : handleTimer60Min executionArn now world = .ok (.timeoutApplied rewrites.length summary,
      (world.timeOut executionArn rewrites now).reportTimeout summary rewrites.length) := by
    rw [handleTimer60Min, if_pos hrunning, queryResponses, hrewrites, ok_bind, if_pos hrunning, hqueried, ok_bind]
    rfl
  exact ⟨_, _, _, heq, Cycle.statusOf_setCycleStatus hrunning, lookup_forceUnreachable hlist.symm, rfl, hcounts⟩

end CycleFinalizer

end SafetyConfirmation
