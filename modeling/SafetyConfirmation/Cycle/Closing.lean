import SafetyConfirmation.Cycle.FinalizerCalls
import SafetyConfirmation.StateMachine.Drained
import SafetyConfirmation.StateMachine.Timers

/-!
# Closing a cycle

Any number of CycleFinalizer invocations for one cycle, one AWS call of one of them at a step, between the steps of the
Map and the writes of the other lambdas. An invocation can raise at any call, before the call has taken effect or after.
-/

namespace SafetyConfirmation

namespace CycleFinalizer

open KeyedStore StepMachine Response StateMachine

variable {ι : Type}

structure State (ι : Type) where
  world : World
  frames : Store String Frame := ∅
  invocations : Store Nat (Invocation ι) := ∅

inductive Label (ι : Type) where
  | map (label : MapLabel)
  | invoke (i : Nat) (trigger : Trigger)
  | call (i : Nat) (call : Call ι)
  /-- The invocation dies, after the effect of one more call where it is given. -/
  | raise (i : Nat) (last : Option (Call ι))

def Label.isFinalizer : Label ι → Bool
  | map _ => false
  | _ => true

def State.map (s : State ι) : MapState where
  frames := s.frames
  responses := s.world.responses

variable [LinearOrder ι] (x : Execution) (position : String → ι)

def step (s : State ι) : Label ι → Option (State ι)
  | .map label =>
    (mapStep x s.map label).map fun m =>
      { s with world := { s.world with responses := m.responses }, frames := m.frames }
  | .invoke i trigger =>
    if (s.invocations.lookup i).isNone then
      some { s with invocations := s.invocations.set i (some (.start trigger)) }
    else none
  | .call i c =>
    (s.invocations.lookup i).bind fun invocation =>
      (invocation.call position s.world c).map fun next =>
        { s with world := next.2, invocations := s.invocations.set i (some next.1) }
  | .raise i none =>
    (s.invocations.lookup i).bind fun invocation =>
      if invocation.isEnded then none else some { s with invocations := s.invocations.set i (some .raised) }
  | .raise i (some c) =>
    (s.invocations.lookup i).bind fun invocation =>
      (invocation.call position s.world c).map fun next =>
        { s with world := next.2, invocations := s.invocations.set i (some .raised) }

/-- What a step does: one of the Map's, a new invocation, a call whose answer arrived or got lost, or a death. -/
inductive Steps (s : State ι) : Label ι → State ι → Prop where
  | mapped {label : MapLabel} {m : MapState} (h : mapStep x s.map label = some m) :
      Steps s (.map label) { s with world := { s.world with responses := m.responses }, frames := m.frames }
  | invoked {i : Nat} {trigger : Trigger} (hfresh : s.invocations.lookup i = none) :
      Steps s (.invoke i trigger) { s with invocations := s.invocations.set i (some (.start trigger)) }
  | moved {i : Nat} {c : Call ι} {invocation next after : Invocation ι} {world : World} {label : Label ι}
      (hinvocation : s.invocations.lookup i = some invocation)
      (hcall : invocation.call position s.world c = some (next, world))
      (hafter : label = .call i c ∧ after = next ∨ label = .raise i (some c) ∧ after = .raised) :
      Steps s label { s with world, invocations := s.invocations.set i (some after) }
  | died {i : Nat} {invocation : Invocation ι} (hinvocation : s.invocations.lookup i = some invocation)
      (hended : invocation.isEnded = false) :
      Steps s (.raise i none) { s with invocations := s.invocations.set i (some .raised) }

variable {x position}

theorem steps_of_step {s t : State ι} {label : Label ι} (h : step x position s label = some t) :
    Steps x position s label t := by
  cases label with
  | map label =>
    obtain ⟨m, hm, rfl⟩ := Option.map_eq_some_iff.1 h
    exact .mapped hm
  | invoke i trigger =>
    rw [step] at h
    split at h
    · rename_i hfresh
      cases h
      exact .invoked (Option.isNone_iff_eq_none.1 hfresh)
    · cases h
  | call i c =>
    obtain ⟨invocation, hinvocation, h⟩ := Option.bind_eq_some_iff.1 h
    obtain ⟨⟨next, world⟩, hcall, rfl⟩ := Option.map_eq_some_iff.1 h
    exact .moved hinvocation hcall (.inl ⟨rfl, rfl⟩)
  | raise i last =>
    cases last with
    | none =>
      obtain ⟨invocation, hinvocation, h⟩ := Option.bind_eq_some_iff.1 h
      split at h
      · cases h
      · rename_i hended
        cases h
        exact .died hinvocation (Bool.eq_false_iff.2 hended)
    | some c =>
      obtain ⟨invocation, hinvocation, h⟩ := Option.bind_eq_some_iff.1 h
      obtain ⟨⟨next, world⟩, hcall, rfl⟩ := Option.map_eq_some_iff.1 h
      exact .moved hinvocation hcall (.inr ⟨rfl, rfl⟩)

/-! ### What a call does to the cycle row -/

/-- A call of an invocation leaves the cycle row, closes it, or flags it, the last two only while it is running. -/
theorem Invocation.Moves.cycle_cases {world world' : World} {invocation next : Invocation ι} {c : Call ι}
    (h : invocation.Moves position world c next world') :
    world'.cycle = world.cycle ∨
      Cycle.isRunning world.cycle = true ∧
        ((∃ closing now, invocation = .setCycleStatus closing ∧ next = afterSetCycleStatus closing ∧
            world'.metrics = world.metrics ∧
            world'.cycle = (Cycle.setCycleStatus closing.status now).run world.cycle) ∨
          world'.cycle = Cycle.setSlaWarningFlag.run world.cycle) := by
  cases h with
  | @closed closing now hrunning => exact .inr ⟨hrunning, .inl ⟨closing, now, rfl, rfl, rfl, rfl⟩⟩
  | warned hrunning => exact .inr ⟨hrunning, .inr rfl⟩
  | _ => exact .inl rfl

theorem cycle_cases_of_step {s t : State ι} {label : Label ι} (h : step x position s label = some t) :
    t.world.cycle = s.world.cycle ∨
      Cycle.isRunning s.world.cycle = true ∧
        ((∃ (closing : Closing) (now : Instant), t.world.metrics = s.world.metrics ∧
            t.world.cycle = (Cycle.setCycleStatus closing.status now).run s.world.cycle) ∨
          t.world.cycle = Cycle.setSlaWarningFlag.run s.world.cycle) := by
  cases steps_of_step h with
  | moved _ hcall _ =>
    refine (Invocation.moves_of_call hcall).cycle_cases.imp_right fun ⟨hrunning, hcases⟩ => ⟨hrunning, hcases.imp_left ?_⟩
    exact fun ⟨closing, now, _, _, hmetrics, hcycle⟩ => ⟨closing, now, hmetrics, hcycle⟩
  | mapped _ | invoked _ | died _ _ => exact .inl rfl

theorem cycle_eq_of_step {s t : State ι} {label : Label ι} (hended : Cycle.isRunning s.world.cycle = false)
    (h : step x position s label = some t) : t.world.cycle = s.world.cycle := by
  refine (cycle_cases_of_step h).elim id fun ⟨hrunning, _⟩ => ?_
  rw [hended] at hrunning
  cases hrunning

/-- Once the cycle is not running, nothing changes its row. -/
theorem cycle_eq_of_exec {s t : State ι} {labels : List (Label ι)} (hended : Cycle.isRunning s.world.cycle = false)
    (h : exec (step x position) s labels = some t) : t.world.cycle = s.world.cycle := by
  have hkeep : ∀ m label u, m.world.cycle = s.world.cycle → step x position m label = some u →
      u.world.cycle = s.world.cycle := by
    intro m label u hm hstep
    rw [← hm] at hended
    rw [cycle_eq_of_step hended hstep, hm]
  exact invariant hkeep rfl h

/-! ### The winner -/

def completedAtOf (row : Option Cycle) : Option Instant := row.bind Cycle.completedAt

def slaWarningOf (row : Option Cycle) : Option Bool := row.map Cycle.slaWarning30min

def timeoutMetrics (world : World) : Nat := world.metrics.count "CycleTimeout"

namespace Invocation

omit [LinearOrder ι]

/-- The invocation has closed the cycle and has not put the metric yet. -/
def putsTimeoutMetric : Invocation ι → Bool
  | putTimeoutMetric _ => true
  | _ => false

@[simp] theorem putsTimeoutMetric_start (trigger : Trigger) :
    (start trigger : Invocation ι).putsTimeoutMetric = false := by
  cases trigger <;> rfl

@[simp] theorem putsTimeoutMetric_afterForce (stoppedResponses : Nat) (pending : List String) :
    (afterForce stoppedResponses pending : Invocation ι).putsTimeoutMetric = false := by
  rw [afterForce]
  split <;> rfl

@[simp] theorem putsTimeoutMetric_afterQuery (trigger : Trigger) (found : List (String × Response)) :
    (ofExcept (afterQuery trigger found) : Invocation ι).putsTimeoutMetric = false := by
  rcases @afterQuery_cases ι trigger found with hended | ⟨-, heq⟩ | ⟨-, -, summary, heq⟩ | ⟨_, rewrites, -, -, heq⟩
  · cases hnext : (ofExcept (afterQuery trigger found) : Invocation ι) <;> rw [hnext] at hended <;> first
      | rfl
      | cases hended
  · rw [heq]
    rfl
  · rw [heq]
    rfl
  · rw [heq, putsTimeoutMetric_afterForce]

@[simp] theorem putsTimeoutMetric_afterRuleCall (pending : List RuleCall) (outcome : Outcome) :
    (afterRuleCall pending outcome : Invocation ι).putsTimeoutMetric = false := by
  rw [afterRuleCall]
  split <;> rfl

theorem putsTimeoutMetric_ofExcept_map {α : Type} {e : Except PyError α} {f : α → Invocation ι}
    (hf : ∀ a, (f a).putsTimeoutMetric = false) : (ofExcept (e.map f)).putsTimeoutMetric = false := by
  cases e with
  | error e => rfl
  | ok a => exact hf a

theorem puts_of_set {invocations : Store Nat (Invocation ι)} {i : Nat} {after : Invocation ι}
    (hafter : after.putsTimeoutMetric = false) : ∀ j invocation,
      (invocations.set i (some after)).lookup j = some invocation → invocation.putsTimeoutMetric = true →
        invocations.lookup j = some invocation := by
  apply Store.forall_lookup_set
  · exact fun j invocation _ hinvocation _ => hinvocation
  · intro hputs
    rw [hafter] at hputs
    cases hputs

end Invocation

/-- Only the update that times the cycle out leads to the metric, and only the metric's own call adds to it. -/
theorem Invocation.Moves.metric_cases {world world' : World} {invocation next : Invocation ι} {c : Call ι}
    (h : invocation.Moves position world c next world') :
    (timeoutMetrics world' = timeoutMetrics world ∧ (next.putsTimeoutMetric = true →
        Cycle.isRunning world.cycle = true ∧ Cycle.statusOf world'.cycle = some .timeout)) ∨
      (invocation.putsTimeoutMetric = true ∧ timeoutMetrics world' = timeoutMetrics world + 1 ∧
        world'.cycle = world.cycle ∧ next.putsTimeoutMetric = false) := by
  cases h with
  | timeoutMetric => exact .inr ⟨rfl, by simp [timeoutMetrics], rfl, rfl⟩
  | @closed closing now hrunning =>
    refine .inl ⟨rfl, fun hnext => ⟨hrunning, ?_⟩⟩
    cases closing with
    | completed summary => cases hnext
    | timeout stopped => exact Cycle.statusOf_setCycleStatus hrunning
  | warningMetric =>
    refine .inl ⟨by simp [timeoutMetrics], fun hnext => ?_⟩
    rw [Invocation.putsTimeoutMetric_ofExcept_map fun _ => rfl] at hnext
    cases hnext
  | requeried =>
    refine .inl ⟨rfl, fun hnext => ?_⟩
    rw [Invocation.putsTimeoutMetric_ofExcept_map fun _ => rfl] at hnext
    cases hnext
  | got _ hnext =>
    refine .inl ⟨rfl, fun hputs => ?_⟩
    rcases hnext with rfl | rfl <;> cases hputs
  | queried | forced _ | ruleCalled => exact .inl ⟨rfl, fun hnext => by simp at hnext⟩
  | _ => exact .inl ⟨rfl, fun hnext => by cases hnext⟩

structure OneWinner (s : State ι) : Prop where
  unique : ∀ i j left right, s.invocations.lookup i = some left → s.invocations.lookup j = some right →
    left.putsTimeoutMetric = true → right.putsTimeoutMetric = true → i = j
  pending : ∀ i invocation, s.invocations.lookup i = some invocation → invocation.putsTimeoutMetric = true →
    timeoutMetrics s.world = 0 ∧ Cycle.statusOf s.world.cycle = some .timeout
  metrics : timeoutMetrics s.world ≤ 1
  timeout : timeoutMetrics s.world ≠ 0 → Cycle.statusOf s.world.cycle = some .timeout
  completedAt : (completedAtOf s.world.cycle).isSome = true ↔ Cycle.isRunning s.world.cycle = false

/-! ### The cycle row over a step -/

theorem Closing.status_ne_running (closing : Closing) : closing.status ≠ .running := by
  cases closing <;> exact CycleStatus.noConfusion

theorem setCycleStatus_run_of_running {row : Option Cycle} {newStatus : CycleStatus} {now : Instant}
    (h : Cycle.isRunning row = true) : ∃ cycle, row = some cycle ∧ cycle.status = .running ∧
      (Cycle.setCycleStatus newStatus now).run row =
        some { cycle with status := newStatus, completedAt := some now } := by
  cases row with
  | none => cases h
  | some cycle => exact ⟨cycle, rfl, by simpa [Cycle.isRunning] using h, Write.run_of_condition h⟩

theorem setSlaWarningFlag_run_of_running {row : Option Cycle} (h : Cycle.isRunning row = true) :
    ∃ cycle, row = some cycle ∧ Cycle.setSlaWarningFlag.run row = some { cycle with slaWarning30min := true } := by
  cases row with
  | none => cases h
  | some cycle => exact ⟨cycle, rfl, Write.run_of_condition h⟩

/-- The row over a step: kept, closed with its `completedAt`, or flagged. -/
theorem cycle_row_cases {s t : State ι} {label : Label ι} (h : step x position s label = some t) :
    t.world.cycle = s.world.cycle ∨
      ∃ cycle, s.world.cycle = some cycle ∧ Cycle.isRunning s.world.cycle = true ∧
        ((∃ newStatus now, newStatus ≠ .running ∧
            t.world.cycle = some { cycle with status := newStatus, completedAt := some now }) ∨
          t.world.cycle = some { cycle with slaWarning30min := true }) := by
  rcases cycle_cases_of_step h with hsame | ⟨hrunning, ⟨closing, now, -, hclosed⟩ | hflagged⟩
  · exact .inl hsame
  · obtain ⟨cycle, hcycle, -, hrun⟩ := @setCycleStatus_run_of_running _ closing.status now hrunning
    exact .inr ⟨cycle, hcycle, hrunning, .inl ⟨closing.status, now, closing.status_ne_running, hclosed.trans hrun⟩⟩
  · obtain ⟨cycle, hcycle, hrun⟩ := setSlaWarningFlag_run_of_running hrunning
    exact .inr ⟨cycle, hcycle, hrunning, .inr (hflagged.trans hrun)⟩

theorem completedAt_iff_of_step {s t : State ι} {label : Label ι} (h : step x position s label = some t)
    (hs : (completedAtOf s.world.cycle).isSome = true ↔ Cycle.isRunning s.world.cycle = false) :
    (completedAtOf t.world.cycle).isSome = true ↔ Cycle.isRunning t.world.cycle = false := by
  rcases cycle_row_cases h with hsame | ⟨cycle, hcycle, hrunning, ⟨newStatus, now, hne, hclosed⟩ | hflagged⟩
  · rw [hsame]
    exact hs
  · rw [hclosed]
    simp [completedAtOf, Cycle.isRunning, hne]
  · rw [hflagged]
    rw [hcycle] at hs
    exact hs

theorem statusOf_timeout_of_step {s t : State ι} {label : Label ι} (h : step x position s label = some t)
    (hs : Cycle.statusOf s.world.cycle = some .timeout) : Cycle.statusOf t.world.cycle = some .timeout := by
  have hended : Cycle.isRunning s.world.cycle = false := by
    rw [Bool.eq_false_iff, Ne, Cycle.isRunning_iff, hs]
    simp
  rw [cycle_eq_of_step hended h, hs]

/-! ### One winner in every run -/

theorem OneWinner.keep {s t : State ι} {label : Label ι} (hs : OneWinner s) (h : step x position s label = some t)
    (hmetrics : timeoutMetrics t.world = timeoutMetrics s.world)
    (hputs : ∀ i invocation, t.invocations.lookup i = some invocation → invocation.putsTimeoutMetric = true →
      s.invocations.lookup i = some invocation) : OneWinner t where
  unique i j left right hleft hright hl hr := hs.unique i j left right (hputs i left hleft hl) (hputs j right hright hr) hl hr
  pending i invocation hinvocation hp := by
    obtain ⟨hzero, hstatus⟩ := hs.pending i invocation (hputs i invocation hinvocation hp) hp
    exact ⟨hmetrics.trans hzero, statusOf_timeout_of_step h hstatus⟩
  metrics := hmetrics ▸ hs.metrics
  timeout hne := statusOf_timeout_of_step h (hs.timeout (hmetrics ▸ hne))
  completedAt := completedAt_iff_of_step h hs.completedAt

/-- The update that takes the cycle from `RUNNING` to `TIMEOUT` leaves its invocation as the only one to put the metric. -/
theorem OneWinner.win {s t : State ι} {label : Label ι} {i : Nat} {after : Invocation ι} (hs : OneWinner s)
    (h : step x position s label = some t) (hset : t.invocations = s.invocations.set i (some after))
    (hmetrics : timeoutMetrics t.world = timeoutMetrics s.world) (hrunning : Cycle.isRunning s.world.cycle = true)
    (hstatus : Cycle.statusOf t.world.cycle = some .timeout) : OneWinner t := by
  have hnot : Cycle.statusOf s.world.cycle ≠ some .timeout := by
    rw [Cycle.isRunning_iff.1 hrunning]
    simp
  have hzero : timeoutMetrics s.world = 0 := by
    by_contra hne
    exact hnot (hs.timeout hne)
  have honly : ∀ j other, t.invocations.lookup j = some other → other.putsTimeoutMetric = true → j = i := by
    intro j other hother hputs
    by_contra hji
    rw [hset, Store.lookup_set_ne _ _ hji] at hother
    exact hnot (hs.pending j other hother hputs).2
  refine ⟨?_, ?_, ?_, fun _ => hstatus, completedAt_iff_of_step h hs.completedAt⟩
  · intro j k left right hleft hright hl hr
    exact (honly j left hleft hl).trans (honly k right hright hr).symm
  · intro _ _ _ _
    exact ⟨hmetrics.trans hzero, hstatus⟩
  · omega

/-- Once the metric is put no invocation is left that puts it. -/
theorem OneWinner.report {s t : State ι} {label : Label ι} {i : Nat} {invocation after : Invocation ι} (hs : OneWinner s)
    (h : step x position s label = some t) (hset : t.invocations = s.invocations.set i (some after))
    (hinvocation : s.invocations.lookup i = some invocation) (hput : invocation.putsTimeoutMetric = true)
    (hafter : after.putsTimeoutMetric = false) (hmetrics : timeoutMetrics t.world = timeoutMetrics s.world + 1) :
    OneWinner t := by
  obtain ⟨hzero, hstatus⟩ := hs.pending i invocation hinvocation hput
  have hnone : ∀ j other, t.invocations.lookup j = some other → ¬ other.putsTimeoutMetric = true := by
    rw [hset]
    apply Store.forall_lookup_set
    · intro j other hji hother hputs
      exact hji (hs.unique j i other invocation hother hinvocation hputs hput)
    · exact Bool.eq_false_iff.1 hafter
  refine ⟨?_, ?_, ?_, ?_, completedAt_iff_of_step h hs.completedAt⟩
  · intro j k left right hleft _ hl _
    exact absurd hl (hnone j left hleft)
  · intro j other hother hputs
    exact absurd hputs (hnone j other hother)
  · omega
  · intro _
    exact statusOf_timeout_of_step h hstatus

theorem OneWinner.step {s t : State ι} {label : Label ι} (hs : OneWinner s) (h : step x position s label = some t) :
    OneWinner t := by
  cases steps_of_step h with
  | mapped _ => exact hs.keep h rfl fun _ _ hinvocation _ => hinvocation
  | invoked _ => exact hs.keep h rfl (Invocation.puts_of_set (Invocation.putsTimeoutMetric_start _))
  | died _ _ => exact hs.keep h rfl (Invocation.puts_of_set rfl)
  | @moved i c invocation next after world label hinvocation hcall hafter =>
    have hputs : after.putsTimeoutMetric = true → next.putsTimeoutMetric = true := by
      rcases hafter with ⟨-, rfl⟩ | ⟨-, rfl⟩
      · exact id
      · intro hraised
        cases hraised
    rcases (Invocation.moves_of_call hcall).metric_cases with ⟨hmetrics, hnext⟩ | ⟨hput, hmetrics, -, hnext⟩
    · cases hcase : after.putsTimeoutMetric with
      | false => exact hs.keep h hmetrics (Invocation.puts_of_set hcase)
      | true =>
        obtain ⟨hrunning, hstatus⟩ := hnext (hputs hcase)
        exact hs.win h rfl hmetrics hrunning hstatus
    · have hquiet : after.putsTimeoutMetric = false := by
        rw [Bool.eq_false_iff]
        intro hraised
        rw [hputs hraised] at hnext
        cases hnext
      exact hs.report h rfl hinvocation hput hquiet hmetrics

/-- What a call of an invocation can do to a row: nothing, or flip an open one. -/
theorem responses_of_finalizer_step {s t : State ι} {label : Label ι} (hlabel : label.isFinalizer = true)
    (h : step x position s label = some t) :
    t.world.responses = s.world.responses ∨
      ∃ employeeId, t.world.responses = s.world.responses.write employeeId forceResponseUnreachable := by
  cases steps_of_step h with
  | mapped _ => cases hlabel
  | invoked _ | died _ _ => exact .inl rfl
  | moved _ hcall _ =>
    cases Invocation.moves_of_call hcall with
    | forced _ => exact .inr ⟨_, rfl⟩
    | _ => exact .inl rfl

theorem lookup_eq_of_finalizer_step {s t : State ι} {label : Label ι} (hlabel : label.isFinalizer = true)
    (h : step x position s label = some t) {employeeId : String}
    (hrow : Confirmed (s.world.responses.lookup employeeId)) :
    t.world.responses.lookup employeeId = s.world.responses.lookup employeeId := by
  rcases responses_of_finalizer_step hlabel h with hsame | ⟨written, hwritten⟩
  · rw [hsame]
  · rw [hwritten]
    by_cases heq : employeeId = written
    · subst employeeId
      rw [Store.lookup_write_self, forceResponseUnreachable_run, if_neg]
      obtain ⟨status, hstatus, hconfirmed⟩ := hrow
      rw [hstatus]
      cases status <;> simp_all [VoiceStatus.isConfirmed, VoiceStatus.isRetryable]
    · exact Store.lookup_write_ne _ _ heq

/-- A cycle as CycleApi starts it, before any invocation. -/
structure Started (s : State ι) : Prop where
  running : Cycle.isRunning s.world.cycle = true
  completedAt : completedAtOf s.world.cycle = none
  metrics : timeoutMetrics s.world = 0
  invocations : s.invocations = ∅

omit [LinearOrder ι] in
theorem Started.oneWinner {s : State ι} (hs : Started s) : OneWinner s where
  unique i j left right hleft := by
    rw [hs.invocations] at hleft
    cases hleft
  pending i invocation hinvocation := by
    rw [hs.invocations] at hinvocation
    cases hinvocation
  metrics := hs.metrics.le.trans (Nat.zero_le 1)
  timeout hne := absurd hs.metrics hne
  completedAt := by
    rw [hs.completedAt, hs.running]
    simp

/-- What a step from a state of the run leaves as it is and what it may change. -/
structure KeepsWinner (s : State ι) (label : Label ι) (t : State ι) : Prop where
  cycle : Cycle.isRunning s.world.cycle = false → t.world.cycle = s.world.cycle
  completedAt : completedAtOf t.world.cycle ≠ completedAtOf s.world.cycle ↔
    Cycle.statusOf t.world.cycle ≠ Cycle.statusOf s.world.cycle
  metrics : timeoutMetrics t.world ≤ 1 ∧ (timeoutMetrics t.world ≠ 0 → Cycle.statusOf t.world.cycle = some .timeout)
  slaWarning : slaWarningOf t.world.cycle ≠ slaWarningOf s.world.cycle → Cycle.isRunning s.world.cycle = true
  confirmed : label.isFinalizer = true → ∀ employeeId, Confirmed (s.world.responses.lookup employeeId) →
    t.world.responses.lookup employeeId = s.world.responses.lookup employeeId

theorem keepsWinner_of_step {s t : State ι} {label : Label ι} (hs : OneWinner s)
    (h : step x position s label = some t) : KeepsWinner s label t where
  cycle hended := cycle_eq_of_step hended h
  completedAt := by
    rcases cycle_row_cases h with hsame | ⟨cycle, hcycle, hrunning, ⟨newStatus, now, hne, hclosed⟩ | hflagged⟩
    · rw [hsame]
      simp
    · have hnone : completedAtOf s.world.cycle = none := by
        rw [← Option.not_isSome_iff_eq_none, hs.completedAt, hrunning]
        simp
      have hstatus := Cycle.isRunning_iff.1 hrunning
      rw [hclosed, hnone, hstatus]
      simp [completedAtOf, Cycle.statusOf, hne]
    · rw [hflagged, hcycle]
      simp [completedAtOf, Cycle.statusOf]
  metrics := ⟨(hs.step h).metrics, (hs.step h).timeout⟩
  slaWarning hne := by
    rcases cycle_cases_of_step h with hsame | ⟨hrunning, -⟩
    · exact absurd (congrArg slaWarningOf hsame) hne
    · exact hrunning
  confirmed hlabel _ hrow := lookup_eq_of_finalizer_step hlabel h hrow

/-- However its invocations interleave, die and repeat, a cycle is closed once: in every state of every run, nothing
changes the row of a closed cycle any more, and each step keeps the winner. -/
theorem single_winner {s t : State ι} {labels : List (Label ι)} (hs : Started s)
    (hrun : exec (step x position) s labels = some t) :
    (Cycle.isRunning t.world.cycle = false → ∀ rest u, exec (step x position) t rest = some u →
        u.world.cycle = t.world.cycle) ∧
      ∀ label u, step x position t label = some u → KeepsWinner t label u := by
  have hwinner : OneWinner t := invariant (fun _ _ _ => OneWinner.step) hs.oneWinner hrun
  exact ⟨fun hended _ _ => cycle_eq_of_exec hended, fun _ _ => keepsWinner_of_step hwinner⟩

/-! ### A timer that fires twice -/

def started : State ℕ where
  world := { cycle := some runningCycle, responses := ∅ }

def timer60Min : Trigger := .timer60Min none

/-- Both invocations of the timer find the one open row, and the second one closes the cycle. -/
def firedTwice : List (Label ℕ) :=
  [.map (.start "e"), .map (.iterate "e" (.success 0 0)), .invoke 0 timer60Min, .invoke 1 timer60Min,
    .call 0 (.next 60), .call 1 (.next 60), .call 0 (.page none), .call 1 (.page none), .call 0 (.force "e"),
    .call 1 (.force "e"), .call 1 (.next 60), .call 1 (.next 60), .call 0 (.next 61)]

theorem single_winner_firedTwice :
    ∃ t, exec (step oneTarget String.length) started firedTwice = some t ∧
      Cycle.statusOf t.world.cycle = some .timeout ∧ timeoutMetrics t.world = 1 ∧
      ∀ label u, step oneTarget String.length t label = some u → KeepsWinner t label u :=
  ⟨_, rfl, rfl, rfl, (@single_winner ℕ _ oneTarget String.length started _ firedTwice ⟨rfl, rfl, rfl, rfl⟩ rfl).2⟩

end CycleFinalizer

end SafetyConfirmation
