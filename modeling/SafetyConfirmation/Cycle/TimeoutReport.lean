import SafetyConfirmation.Cycle.Closing

/-!
# What a timeout reports

TIMER_60MIN closes the cycle first and then puts the metric, publishes the notification and deletes the timer rules. An
invocation that dies in between has closed the cycle for its retries too, which find it closed and return normally.
-/

namespace SafetyConfirmation

namespace CycleFinalizer

open KeyedStore StepMachine Checks Response Finalize StateMachine

variable {ι : Type}

structure Reported (world : World) : Prop where
  metric : "CycleTimeout" ∈ world.metrics
  notification : ∃ notification ∈ world.notifications, notification.event = "CYCLE_TIMEOUT_60MIN"
  timerRules : world.timerRulesDeleted = true

/-- The invocation has timed the cycle out and not reported everything yet. -/
def Invocation.owesReport : Invocation ι → Bool
  | putTimeoutMetric _ | requery .. | publishTimeout .. | deleteRules _ (.timeoutApplied ..) => true
  | _ => false

/-- What an invocation that still owes has reported so far. -/
def Invocation.Progress (world : World) : Invocation ι → Prop
  | putTimeoutMetric _ => True
  | requery .. | publishTimeout .. => "CycleTimeout" ∈ world.metrics
  | deleteRules _ (.timeoutApplied ..) =>
    "CycleTimeout" ∈ world.metrics ∧ ∃ notification ∈ world.notifications, notification.event = "CYCLE_TIMEOUT_60MIN"
  | _ => False

theorem Invocation.owesReport_of_progress {world : World} {invocation : Invocation ι} (h : invocation.Progress world) :
    invocation.owesReport = true ∧ invocation.isEnded = false := by
  cases invocation with
  | deleteRules pending outcome => cases outcome <;> first
    | exact ⟨rfl, rfl⟩
    | cases h
  | putTimeoutMetric _ | requery _ _ _ | publishTimeout _ _ => exact ⟨rfl, rfl⟩
  | _ => cases h

/-- One invocation at a time: a retry comes when the invocation before it has ended. -/
def OneAtATime (s : State ι) : Label ι → Prop
  | .invoke _ _ => ∀ entry ∈ s.invocations.rows, entry.2.isEnded = true
  | _ => True

/-! ### The invariant -/

theorem Invocation.Progress.congr {world world' : World} {invocation : Invocation ι}
    (hmetrics : world'.metrics = world.metrics) (hnotifications : world'.notifications = world.notifications)
    (h : invocation.Progress world) : invocation.Progress world' := by
  cases invocation with
  | requery | publishTimeout =>
    rw [Progress, hmetrics]
    exact h
  | deleteRules pending outcome =>
    cases outcome with
    | timeoutApplied =>
      rw [Progress, hmetrics, hnotifications]
      exact h
    | _ => cases h
  | putTimeoutMetric => trivial
  | _ => cases h

structure Reporting (s : State ι) : Prop where
  sequential : ∀ i j left right, s.invocations.lookup i = some left → s.invocations.lookup j = some right →
    left.isEnded = false → right.isEnded = false → i = j
  progress : Cycle.statusOf s.world.cycle = some .timeout →
    Reported s.world ∨ ∃ i invocation, s.invocations.lookup i = some invocation ∧ invocation.Progress s.world

theorem sequential_of_set {invocations : Store Nat (Invocation ι)} {i : Nat} {after : Invocation ι}
    (hothers : ∀ j other, j ≠ i → invocations.lookup j = some other → other.isEnded = true) :
    ∀ j k left right, (invocations.set i (some after)).lookup j = some left →
      (invocations.set i (some after)).lookup k = some right → left.isEnded = false → right.isEnded = false → j = k := by
  have honly : ∀ j other, (invocations.set i (some after)).lookup j = some other → other.isEnded = false → j = i := by
    intro j other hother hended
    by_contra hji
    rw [Store.lookup_set_ne _ _ hji] at hother
    rw [hothers j other hji hother] at hended
    cases hended
  intro j k left right hleft hright hl hr
  exact (honly j left hleft hl).trans (honly k right hright hr).symm

/-- While an invocation is in progress every other one has ended. -/
theorem Reporting.others_ended {s : State ι} (hs : Reporting s) {i : Nat} {invocation : Invocation ι}
    (hinvocation : s.invocations.lookup i = some invocation) (hended : invocation.isEnded = false) :
    ∀ j other, j ≠ i → s.invocations.lookup j = some other → other.isEnded = true := by
  intro j other hji hother
  by_contra hnot
  exact hji (hs.sequential j i other invocation hother hinvocation ((Bool.not_eq_true _).mp hnot) hended)

instance OneAtATime.decidable (s : State ι) : ∀ label, Decidable (OneAtATime s label)
  | .invoke _ _ => inferInstanceAs (Decidable (∀ entry ∈ s.invocations.rows, _))
  | .map _ | .call _ _ | .raise _ _ => .isTrue trivial

/-! ### The steps -/

variable [LinearOrder ι] (position : String → ι)

/-- An invocation that dies owes nothing at the point it dies at. -/
def DiesSettled (s : State ι) : Label ι → Prop
  | .raise i none => ∀ invocation ∈ s.invocations.lookup i, invocation.owesReport = false
  | .raise i (some c) => ∀ invocation ∈ s.invocations.lookup i,
      ∀ next ∈ invocation.call position s.world c, next.1.owesReport = false
  | _ => True

instance DiesSettled.decidable (s : State ι) : ∀ label, Decidable (DiesSettled position s label)
  | .raise i none => inferInstanceAs (Decidable (∀ invocation ∈ s.invocations.lookup i, _))
  | .raise i (some c) => inferInstanceAs (Decidable (∀ invocation ∈ s.invocations.lookup i,
      ∀ next ∈ invocation.call position s.world c, _))
  | .map _ | .invoke _ _ | .call _ _ => .isTrue trivial

variable {position}

theorem Reported.of_moves {world world' : World} {invocation next : Invocation ι} {c : Call ι}
    (hworld : Reported world) (h : invocation.Moves position world c next world') : Reported world' := by
  obtain ⟨hmetric, ⟨notification, hmem, hevent⟩, hrules⟩ := hworld
  cases h with
  | warningMetric | timeoutMetric =>
    exact { metric := List.mem_append_left _ hmetric, notification := ⟨notification, hmem, hevent⟩, timerRules := hrules }
  | warningPublished _ | timeoutPublished _ =>
    exact {
      metric := hmetric
      notification := ⟨notification, List.mem_append_left _ hmem, hevent⟩
      timerRules := hrules }
  | ruleCalled =>
    refine { metric := hmetric, notification := ⟨notification, hmem, hevent⟩, timerRules := ?_ }
    rw [Invocation.nextRuleCall, hrules, Bool.true_or]
  | _ => exact { metric := hmetric, notification := ⟨notification, hmem, hevent⟩, timerRules := hrules }

/-- A call of an invocation that owes leaves it owing with more reported, or ends it with everything reported. -/
theorem Invocation.Progress.of_moves {world world' : World} {invocation next : Invocation ι} {c : Call ι}
    (hprogress : invocation.Progress world) (h : invocation.Moves position world c next world') :
    next.Progress world' ∨ Reported world' := by
  cases h with
  | timeoutMetric => exact .inl (List.mem_append_right _ List.mem_cons_self)
  | repaged => exact .inl hprogress
  | @requeried stoppedResponses cursor found found' =>
    obtain ⟨summary, hsummary, -⟩ := computeSummary_items found'
    rw [hsummary]
    exact .inl hprogress
  | @timeoutPublished _ _ _ notification hevent =>
    exact .inl ⟨hprogress, notification, List.mem_append_right _ List.mem_cons_self, hevent⟩
  | @ruleCalled ruleCall pending outcome =>
    cases outcome with
    | timeoutApplied stoppedResponses summary =>
      by_cases hpending : pending = []
      · subst pending
        exact .inr { metric := hprogress.1, notification := hprogress.2, timerRules := by simp [nextRuleCall] }
      · rw [afterRuleCall, if_neg hpending]
        exact .inl hprogress
    | _ => cases hprogress
  | _ => cases hprogress

theorem not_isEnded_of_call {world : World} {invocation : Invocation ι} {c : Call ι} {next : Invocation ι × World}
    (h : invocation.call position world c = some next) : invocation.isEnded = false := by
  cases invocation with
  | done outcome => cases c <;> cases h
  | raised => cases c <;> cases h
  | _ => rfl

/-- A call that times the cycle out leaves its invocation owing the report. -/
theorem Invocation.Moves.progress_of_timeout {world world' : World} {invocation next : Invocation ι} {c : Call ι}
    (h : invocation.Moves position world c next world') (hbefore : Cycle.statusOf world.cycle ≠ some .timeout)
    (hafter : Cycle.statusOf world'.cycle = some .timeout) : next.Progress world' := by
  rcases h.cycle_cases with hsame | ⟨hrunning, ⟨closing, now, -, rfl, -, hcycle⟩ | hflagged⟩
  · rw [hsame] at hafter
    exact absurd hafter hbefore
  · rw [hcycle, Cycle.statusOf_setCycleStatus hrunning] at hafter
    cases closing with
    | completed summary => cases hafter
    | timeout stoppedResponses => trivial
  · obtain ⟨cycle, hcycle, hrun⟩ := setSlaWarningFlag_run_of_running hrunning
    rw [hcycle] at hbefore
    rw [hflagged, hrun] at hafter
    exact absurd hafter hbefore

theorem Reporting.step {x : Execution} {s t : State ι} {label : Label ι} (hs : Reporting s)
    (hsequential : OneAtATime s label) (hdies : DiesSettled position s label)
    (h : step x position s label = some t) : Reporting t := by
  cases steps_of_step h with
  | mapped _ =>
    refine { sequential := hs.sequential, progress := fun hstatus => (hs.progress hstatus).imp ?_ ?_ }
    · exact fun hreported => ⟨hreported.metric, hreported.notification, hreported.timerRules⟩
    · exact fun ⟨i, invocation, hinvocation, hprogress⟩ => ⟨i, invocation, hinvocation, hprogress.congr rfl rfl⟩
  | invoked _ =>
    have hended : ∀ j other, s.invocations.lookup j = some other → other.isEnded = true :=
      fun j other hother => hsequential (j, other) (Store.mem_rows.2 hother)
    refine { sequential := sequential_of_set fun j other _ => hended j other, progress := fun hstatus => .inl ?_ }
    refine (hs.progress hstatus).elim id fun ⟨j, other, hother, hprogress⟩ => ?_
    have hnot := (Invocation.owesReport_of_progress hprogress).2
    rw [hended j other hother] at hnot
    cases hnot
  | @died i invocation hinvocation hended =>
    refine {
      sequential := sequential_of_set (hs.others_ended hinvocation hended)
      progress := fun hstatus => (hs.progress hstatus).imp_right ?_ }
    rintro ⟨j, other, hother, hprogress⟩
    refine ⟨j, other, ?_, hprogress⟩
    rw [Store.lookup_set_ne, hother]
    intro hji
    have howes := (Invocation.owesReport_of_progress hprogress).1
    rw [hdies other (hji ▸ hother)] at howes
    cases howes
  | @moved i c invocation next after world label hinvocation hcall hafter =>
    have hmoves := Invocation.moves_of_call hcall
    have hended := not_isEnded_of_call hcall
    refine { sequential := sequential_of_set (hs.others_ended hinvocation hended), progress := fun hstatus => ?_ }
    have hfinish : next.Progress world ∨ Reported world → Reported world ∨
        ∃ j other, (s.invocations.set i (some after)).lookup j = some other ∧ other.Progress world := by
      rintro (hprogress | hreported)
      · rcases hafter with ⟨-, rfl⟩ | ⟨rfl, -⟩
        · exact .inr ⟨i, after, Store.lookup_set_self .., hprogress⟩
        · have howes := (Invocation.owesReport_of_progress hprogress).1
          rw [hdies invocation hinvocation (next, world) hcall] at howes
          cases howes
      · exact .inl hreported
    by_cases hbefore : Cycle.statusOf s.world.cycle = some .timeout
    · rcases hs.progress hbefore with hreported | ⟨j, other, hother, hprogress⟩
      · exact .inl (hreported.of_moves hmoves)
      · have hji : j = i := hs.sequential j i other invocation hother hinvocation
          (Invocation.owesReport_of_progress hprogress).2 hended
        rw [hji, hinvocation] at hother
        cases hother
        exact hfinish (hprogress.of_moves hmoves)
    · exact hfinish (.inl (hmoves.progress_of_timeout hbefore hstatus))

omit [LinearOrder ι] in
theorem Started.reporting {s : State ι} (hs : Started s) : Reporting s where
  sequential i j left right hleft := by
    rw [hs.invocations] at hleft
    cases hleft
  progress hstatus := by
    rw [Cycle.isRunning_iff.1 hs.running] at hstatus
    cases hstatus

/-- When an invocation returns normally and the cycle has been timed out, everything has been reported, provided no
invocation before died between its update of the status and the last of its rule calls. -/
theorem reported_of_diesSettled {x : Execution} {s t u : State ι} {labels : List (Label ι)} {i : Nat} {c : Call ι}
    {outcome : Outcome} (hs : Started s)
    (hguard : Guarded (step x position) (fun s label => OneAtATime s label ∧ DiesSettled position s label) s labels)
    (hrun : exec (step x position) s labels = some t) (hstep : step x position t (.call i c) = some u)
    (hreturned : u.invocations.lookup i = some (.done outcome))
    (hstatus : Cycle.statusOf u.world.cycle = some .timeout) : Reported u.world := by
  have hkeep : ∀ m label m', Reporting m → OneAtATime m label ∧ DiesSettled position m label →
      step x position m label = some m' → Reporting m' :=
    fun _ _ _ hm hlabel => hm.step hlabel.1 hlabel.2
  have ht : Reporting t := invariant_of_guarded hkeep hs.reporting hguard hrun
  have hsequential : OneAtATime t (.call i c) := trivial
  have hdies : DiesSettled position t (.call i c) := trivial
  have hu : Reporting u := ht.step hsequential hdies hstep
  refine (hu.progress hstatus).elim id fun ⟨j, other, hother, hprogress⟩ => ?_
  obtain ⟨howes, hended⟩ := Invocation.owesReport_of_progress hprogress
  cases steps_of_step hstep with
  | @moved _ _ invocation next after world _ hinvocation hcall hafter =>
    obtain ⟨heq, -⟩ | ⟨heq, -⟩ := hafter
    all_goals cases heq
    by_cases hji : j = i
    · rw [hji, hreturned] at hother
      cases hother
      cases howes
    · rw [Store.lookup_set_ne _ _ hji] at hother
      exact absurd (ht.sequential j i other invocation hother hinvocation hended (not_isEnded_of_call hcall)) hji

/-- The condition cannot be dropped: once the cycle is timed out, a retry returns normally and reports nothing. -/
theorem no_op_after_timeout {x : Execution} {s : State ι} {i : Nat} (executionArn : Option String) (now : Instant)
    (hfresh : s.invocations.lookup i = none) (hstatus : Cycle.statusOf s.world.cycle = some .timeout) :
    ∃ u, exec (step x position) s [.invoke i (.timer60Min executionArn), .call i (.next now)] = some u ∧
      u.invocations.lookup i = some (.done .noOp) ∧ u.world = s.world := by
  have hended : Cycle.isRunning s.world.cycle = false := by
    rw [Bool.eq_false_iff, Ne, Cycle.isRunning_iff, hstatus]
    simp
  have hinvoke : step x position s (.invoke i (.timer60Min executionArn)) = some { s with
      invocations := s.invocations.set i (some (.getCycle (.timer60Min executionArn))) } := by
    rw [step, if_pos (Option.isNone_iff_eq_none.2 hfresh)]
    rfl
  rw [exec_cons_of_eq hinvoke, exec_singleton, step, Store.lookup_set_self, Option.bind_some, Invocation.call, hended]
  exact ⟨_, rfl, Store.lookup_set_self .., rfl⟩

/-! ### An invocation that dies -/

/-- The first invocation closes the cycle and dies at the metric; its retry finds the cycle closed. -/
def diedAtMetric : List (Label ℕ) :=
  [.invoke 0 timer60Min, .call 0 (.next 60), .call 0 (.page none), .call 0 (.next 60), .raise 0 none,
    .invoke 1 timer60Min]

theorem timeout_report_lost :
    ∃ t u, exec (step oneTarget String.length) started diedAtMetric = some t ∧
      step oneTarget String.length t (.call 1 (.next 61)) = some u ∧
      u.invocations.lookup 1 = some (.done .noOp) ∧ Cycle.statusOf u.world.cycle = some .timeout ∧
      ¬ Reported u.world := by
  refine ⟨_, _, rfl, rfl, rfl, rfl, ?_⟩
  intro hreported
  cases hreported.metric

/-- The first invocation dies at its query, and its retry does everything. -/
def diedAtQuery : List (Label ℕ) :=
  [.invoke 0 timer60Min, .call 0 (.next 60), .raise 0 none, .invoke 1 timer60Min, .call 1 (.next 61),
    .call 1 (.page none), .call 1 (.next 61), .call 1 (.next 61), .call 1 (.page none), .call 1 (.next 61),
    .call 1 (.next 61), .call 1 (.next 61), .call 1 (.next 61)]

theorem reported_diedAtQuery :
    ∃ t u, exec (step oneTarget String.length) started diedAtQuery = some t ∧
      step oneTarget String.length t (.call 1 (.next 61)) = some u ∧ Reported u.world := by
  refine ⟨_, _, rfl, rfl, ?_⟩
  refine @reported_of_diesSettled ℕ _ String.length oneTarget started _ _ diedAtQuery 1 (.next 61) _
    ⟨rfl, rfl, rfl, rfl⟩ (by decide) rfl rfl rfl rfl

end CycleFinalizer

end SafetyConfirmation
