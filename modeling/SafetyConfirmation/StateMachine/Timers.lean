import Mathlib.Data.List.Perm.Subperm
import SafetyConfirmation.StateMachine.MapRun

/-!
# The timers on a partly started Map

The finalizer counts the rows it finds, and the Map makes a row only when it starts an iteration. A timer that
fires before every target has a row reports the rows for the targets.
-/

namespace SafetyConfirmation

namespace StateMachine

open KeyedStore Response StepMachine LoadTargets CycleFinalizer Finalize

/-- TIMER_60MIN times the cycle out, leaves each target with a closed row, and reports all targets as responded
or unreachable. -/
def SettlesTargets (x : Execution) (executionArn : Option String) (now : Instant) (world : World) : Prop :=
  ∃ stopped summary world', handleTimer60Min executionArn now world = .ok (.timeoutApplied stopped summary, world') ∧
    Cycle.statusOf world'.cycle = some .timeout ∧
    (∀ employeeId ∈ x.targets.employeeIds, ∃ status,
      statusOf (world'.responses.lookup employeeId) = some status ∧ status.isTerminal = true) ∧
    world'.notifications = world.notifications ++
      [{ event := "CYCLE_TIMEOUT_60MIN", summary, stoppedResponses := some stopped }] ∧
    summary.targetTotal = x.targets.employeeIds.length ∧
    summary.responded + summary.unreachable = x.targets.employeeIds.length

theorem isTerminal_forceResponseUnreachable {row : Response} (h : ∃ status, row.voiceStatus = some status) :
    ∃ status, statusOf (forceResponseUnreachable.run (some row)) = some status ∧ status.isTerminal = true := by
  obtain ⟨status, hstatus⟩ := h
  rw [forceResponseUnreachable_run]
  have hsame : statusOf (some row) = some status := hstatus
  cases hopen : status.isRetryable with
  | true =>
    rw [hsame, Option.any_some, hopen, if_pos rfl]
    exact ⟨.unreachable, rfl, rfl⟩
  | false =>
    rw [hsame, Option.any_some, hopen, if_neg Bool.false_ne_true]
    refine ⟨status, hsame, ?_⟩
    rw [VoiceStatus.isTerminal_eq_not_isRetryable, hopen]
    rfl

theorem isSome_forceResponseUnreachable (row : Option Response) :
    (forceResponseUnreachable.run row).isSome = row.isSome := by
  cases row with
  | none => rfl
  | some row =>
    rw [Write.run]
    split <;> rfl

/-- As many rows as targets, all of them targets' or all targets with one, means the rows are the targets'. -/
theorem forall_mem_iff {x : Execution} {s : MapState} :
    (∀ employeeId ∈ x.targets.employeeIds, employeeId ∈ s.responses.keys) ∧
        s.responses.keys.length = x.targets.employeeIds.length ↔
      (∀ employeeId ∈ x.targets.employeeIds, employeeId ∈ s.responses.keys) ∧
        ∀ employeeId ∈ s.responses.keys, employeeId ∈ x.targets.employeeIds := by
  refine and_congr_right fun hsub => ?_
  constructor
  · intro hlength
    have hperm : x.targets.employeeIds.Perm s.responses.keys :=
      (List.Nodup.subperm x.targets.nodup hsub).perm_of_length_le hlength.le
    exact fun employeeId hmem => hperm.mem_iff.2 hmem
  · intro hsup
    have hperm : x.targets.employeeIds.Perm s.responses.keys :=
      (List.perm_ext_iff_of_nodup x.targets.nodup s.responses.keys_nodup).2
        fun employeeId => ⟨hsub employeeId, hsup employeeId⟩
    exact hperm.length_eq.symm

/-- In every reachable state, TIMER_60MIN settles the targets of a running cycle exactly when the rows of the
cycle are the targets' rows: every target has one, and no one else. -/
theorem timeout_settles_iff {x : Execution} {labels : List MapLabel} {s : MapState} {world : World}
    (executionArn : Option String) (now : Instant) (hrun : exec (mapStep x) {} labels = some s)
    (hworld : world.responses = s.responses) (hrunning : Cycle.isRunning world.cycle = true) :
    SettlesTargets x executionArn now world ↔
      (∀ employeeId ∈ x.targets.employeeIds, employeeId ∈ s.responses.keys) ∧
      ∀ employeeId ∈ s.responses.keys, employeeId ∈ x.targets.employeeIds := by
  have hs := mapSound_of_exec hrun
  have hids : ∀ entry ∈ world.responses.rows, entry.1 ≠ "" := by
    intro entry hentry
    rw [hworld] at hentry
    exact (hs.row entry.1 entry.2 (Store.mem_rows.1 hentry)).key
  obtain ⟨stopped, summary, world', heq, htimeout, hlookup, hnotified, hcounts⟩ :=
    handleTimer60Min_cases executionArn now hrunning hids
  rw [hworld] at hlookup
  have hterminal : ∀ employeeId row, world'.responses.lookup employeeId = some row →
      ∃ status, statusOf (some row) = some status ∧ status.isTerminal = true := by
    intro employeeId row hrow
    have hsome : (s.responses.lookup employeeId).isSome = true := by
      rw [← isSome_forceResponseUnreachable, ← hlookup, hrow]
      rfl
    obtain ⟨row₀, hrow₀⟩ := Option.isSome_iff_exists.1 hsome
    rw [← hrow, hlookup, hrow₀]
    exact isTerminal_forceResponseUnreachable (hs.row employeeId row₀ hrow₀).status
  have hlength : world'.responses.rows.length = s.responses.keys.length := by
    rw [Store.length_rows]
    apply Store.length_keys_eq
    intro employeeId
    rw [hlookup, isSome_forceResponseUnreachable]
  have htotal : summary.responded + summary.unreachable = world'.responses.rows.length := by
    apply hcounts.responded_add_unreachable
    intro entry hentry
    exact (Option.any_eq_true _ _).2 (hterminal entry.1 entry.2 (Store.mem_rows.1 hentry))
  rw [← forall_mem_iff]
  constructor
  · rintro ⟨stopped', summary', world'', heq', -, hsettled, -, hn, -⟩
    rw [heq] at heq'
    cases heq'
    refine ⟨fun employeeId hmem => ?_, ?_⟩
    · obtain ⟨status, hstatus, -⟩ := hsettled employeeId hmem
      rw [Store.mem_keys_iff, ← Option.isSome_iff_exists, ← isSome_forceResponseUnreachable, ← hlookup]
      obtain ⟨row, hrow, -⟩ := Option.bind_eq_some_iff.1 hstatus
      rw [hrow]
      rfl
    · rw [← hlength, ← hcounts.targetTotal, hn]
  · rintro ⟨hsub, hcount⟩
    refine ⟨stopped, summary, world', heq, htimeout, fun employeeId hmem => ?_, hnotified, ?_, ?_⟩
    · obtain ⟨row, hrow⟩ := Store.mem_keys_iff.1 (hsub employeeId hmem)
      rw [hlookup, hrow]
      exact isTerminal_forceResponseUnreachable (hs.row employeeId row hrow).status
    · rw [hcounts.targetTotal, hlength, hcount]
    · rw [htotal, hlength, hcount]

def twoTargets : Execution where
  cycleId := "c"
  targets := ⟨["e1", "e2"], by decide, by decide, by decide⟩
  maxConcurrency := 1
  retryCount := .int 0
  retryIntervalMinutes := .int 1
  dictionaryVersion := 1

def runningCycle : Cycle where
  status := .running
  mode := .all
  retryCount := .int 0
  retryIntervalMinutes := .int 1
  dictionaryVersion := 1
  startedAt := 0

/-- The first of two employees has been dialled, the second iteration has not started. -/
def firstDialled : List MapLabel :=
  [.start "e1", .iterate "e1" (.success 0 0), .write "e1" (.recordSuccess "contact" 0)]

def firstDialledResponses : Store String Response :=
  (∅ : Store String Response).set "e1" (some
    { voiceStatus := some .pending
      callAttempts := some 1
      dictionaryVersion := some 1
      contactId := some "contact"
      dispatchedAt := some 0 })

/-- When the cycle times out, the second employee has no row and is not counted. -/
theorem timeout_leaves_target_out :
    (exec (mapStep twoTargets) {} firstDialled).map MapState.responses = some firstDialledResponses ∧
      ∀ executionArn now, ¬ SettlesTargets twoTargets executionArn now
        { cycle := some runningCycle, responses := firstDialledResponses } := by
  refine ⟨rfl, fun executionArn now => ?_⟩
  rintro ⟨stopped, summary, world', heq, -, hsettled, -⟩
  obtain ⟨status, hstatus, -⟩ := hsettled "e2" (by decide)
  have hids : ∀ entry ∈ firstDialledResponses.rows, entry.1 ≠ "" := by decide
  have hrunning : Cycle.isRunning (some runningCycle) = true := rfl
  have hcases := @handleTimer60Min_cases executionArn now
    { cycle := some runningCycle, responses := firstDialledResponses } hrunning hids
  obtain ⟨_, _, _, heq', -, hlookup, -⟩ := hcases
  rw [heq'] at heq
  cases heq
  rw [hlookup] at hstatus
  cases hstatus

/-- The first employee has been reached for the last time, and the second iteration has started. -/
def bothStarted : List MapLabel :=
  .start "e1" :: List.replicate 7 (.iterate "e1" (.success 0 0)) ++ [.start "e2", .iterate "e2" (.success 0 0)]

theorem timeout_settles_iff_both_started :
    ∃ s, exec (mapStep twoTargets) {} bothStarted = some s ∧
      SettlesTargets twoTargets (some "arn") 0 { cycle := some runningCycle, responses := s.responses } := by
  have hrun : exec (mapStep twoTargets) {} bothStarted = some _ := rfl
  exact ⟨_, rfl, (timeout_settles_iff (some "arn") 0 hrun rfl rfl).2 ⟨by decide, by decide⟩⟩

def Warns (world : World) : Prop :=
  ∃ summary world', handleTimer30Min world = .ok (.warningApplied summary, world') ∧
    world'.cycle.any Cycle.slaWarning30min = true ∧
    world'.notifications = world.notifications ++ [{ event := "SLA_WARNING_30MIN", summary }]

/-- A target has had no dispatch attempt recorded: its row counts none, or it has no row. -/
def AwaitsDispatch (x : Execution) (s : MapState) : Prop :=
  ∃ employeeId ∈ x.targets.employeeIds, attemptsOf (s.responses.lookup employeeId) = 0

theorem warns_iff {world : World} (hrunning : Cycle.isRunning world.cycle = true) :
    Warns world ↔ ∃ employeeId row, world.responses.lookup employeeId = some row ∧ attemptsOf (some row) = 0 := by
  have hany : world.responses.rows.any (fun entry => !isDispatched entry) = true ↔
      ∃ employeeId row, world.responses.lookup employeeId = some row ∧ attemptsOf (some row) = 0 := by
    rw [List.any_eq_true]
    constructor
    · rintro ⟨⟨employeeId, row⟩, hmem, hzero⟩
      exact ⟨employeeId, row, Store.mem_rows.1 hmem, by simpa [isDispatched] using hzero⟩
    · rintro ⟨employeeId, row, hrow, hzero⟩
      exact ⟨(employeeId, row), Store.mem_rows.2 hrow, by simp [isDispatched, hzero]⟩
  rw [← hany]
  rcases handleTimer30Min_cases hrunning with ⟨hincomplete, summary, world', heq, hcycle, hnotified⟩ |
    ⟨hcomplete, heq⟩
  · refine iff_of_true ⟨summary, world', heq, ?_, hnotified⟩ hincomplete
    rw [hcycle, Write.run_of_condition hrunning]
    cases hrow : world.cycle with
    | none =>
      rw [hrow] at hrunning
      cases hrunning
    | some cycle => rfl
  · refine iff_of_false ?_ (by rw [hcomplete]; exact Bool.false_ne_true)
    rintro ⟨summary, world', heq', -⟩
    rw [heq] at heq'
    cases heq'

/-- In every reachable state of a running cycle the warning is exact in two cases: a target's row counts no
attempt, or a target lacks its row just when some row is not a target's. -/
theorem warning_exact_iff {x : Execution} {labels : List MapLabel} {s : MapState} {world : World}
    (hrun : exec (mapStep x) {} labels = some s) (hworld : world.responses = s.responses)
    (hrunning : Cycle.isRunning world.cycle = true) :
    (Warns world ↔ AwaitsDispatch x s) ↔
      (∃ employeeId ∈ x.targets.employeeIds, ∃ row, s.responses.lookup employeeId = some row ∧
        attemptsOf (some row) = 0) ∨
      ((∃ employeeId ∈ x.targets.employeeIds, employeeId ∉ s.responses.keys) ↔
        ∃ employeeId ∈ s.responses.keys, employeeId ∉ x.targets.employeeIds) := by
  have hs := mapSound_of_exec hrun
  have hrow : Warns world ↔
      (∃ employeeId ∈ x.targets.employeeIds, ∃ row, s.responses.lookup employeeId = some row ∧
        attemptsOf (some row) = 0) ∨
      ∃ employeeId ∈ s.responses.keys, employeeId ∉ x.targets.employeeIds := by
    rw [warns_iff hrunning, hworld]
    constructor
    · rintro ⟨employeeId, row, hrow, hzero⟩
      by_cases hmem : employeeId ∈ x.targets.employeeIds
      · exact .inl ⟨employeeId, hmem, row, hrow, hzero⟩
      · exact .inr ⟨employeeId, Store.mem_keys_iff.2 ⟨row, hrow⟩, hmem⟩
    · rintro (⟨employeeId, -, row, hrow, hzero⟩ | ⟨employeeId, hkey, hout⟩)
      · exact ⟨employeeId, row, hrow, hzero⟩
      · obtain ⟨row, hrow⟩ := Store.mem_keys_iff.1 hkey
        exact ⟨employeeId, row, hrow, ((hs.row employeeId row hrow).outside hout).1⟩
  have htarget : AwaitsDispatch x s ↔
      (∃ employeeId ∈ x.targets.employeeIds, ∃ row, s.responses.lookup employeeId = some row ∧
        attemptsOf (some row) = 0) ∨
      ∃ employeeId ∈ x.targets.employeeIds, employeeId ∉ s.responses.keys := by
    constructor
    · rintro ⟨employeeId, hmem, hzero⟩
      cases hlookup : s.responses.lookup employeeId with
      | none =>
        refine .inr ⟨employeeId, hmem, fun hkey => ?_⟩
        obtain ⟨row, hrow⟩ := Store.mem_keys_iff.1 hkey
        rw [hlookup] at hrow
        cases hrow
      | some row =>
        rw [hlookup] at hzero
        exact .inl ⟨employeeId, hmem, row, hlookup, hzero⟩
    · rintro (⟨employeeId, hmem, row, hrow, hzero⟩ | ⟨employeeId, hmem, hkey⟩)
      · exact ⟨employeeId, hmem, by rw [hrow]; exact hzero⟩
      · refine ⟨employeeId, hmem, ?_⟩
        cases hlookup : s.responses.lookup employeeId with
        | none => rfl
        | some row => exact absurd (Store.mem_keys_iff.2 ⟨row, hlookup⟩) hkey
  rw [hrow, htarget]
  generalize (∃ employeeId ∈ x.targets.employeeIds, ∃ row, s.responses.lookup employeeId = some row ∧
    attemptsOf (some row) = 0) = idle
  by_cases hidle : idle
  · simp only [hidle, true_or]
  · simp only [hidle, false_or]
    exact iff_comm

/-- With the first employee dialled and the second without a row, there is no warning. -/
theorem warning_missed :
    ∃ s, exec (mapStep twoTargets) {} firstDialled = some s ∧ AwaitsDispatch twoTargets s ∧
      handleTimer30Min { cycle := some runningCycle, responses := s.responses } =
        .ok (.noWarningNeeded, { cycle := some runningCycle, responses := s.responses }) :=
  ⟨_, rfl, ⟨"e2", by decide, rfl⟩, rfl⟩

theorem warning_exact_iff_both_started :
    ∃ s, exec (mapStep twoTargets) {} bothStarted = some s ∧
      (Warns { cycle := some runningCycle, responses := s.responses } ↔ AwaitsDispatch twoTargets s) := by
  have hrun : exec (mapStep twoTargets) {} bothStarted = some _ := rfl
  exact ⟨_, rfl, (warning_exact_iff hrun rfl rfl).2 (.inl ⟨"e1", by decide, _, rfl, rfl⟩)⟩

end StateMachine

end SafetyConfirmation
