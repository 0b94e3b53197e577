import SafetyConfirmation.StateMachine.MapRun

/-!
# What MAP_COMPLETED finds when the Map has drained

Every iteration has ended in `FinalizeOne` or in `FinalizeOneError`, and no row was changed after its own
iteration had. The cycle completes on the terminal rows; `FinalizeOneError` leaves `OTHER`, which is not one of
them, and an inbound call of an employee who is not a target leaves `PENDING`.
-/

namespace SafetyConfirmation

namespace StateMachine

open KeyedStore Response StepMachine LoadTargets CycleFinalizer Finalize

/-- No write changes the row of an iteration that is over. -/
def LeavesEnded (s : MapState) : MapLabel → Prop
  | .write employeeId w => (s.frames.lookup employeeId).any (fun frame => frame.control.isEnded) = true →
      w.run (s.responses.lookup employeeId) = s.responses.lookup employeeId
  | _ => True

instance (s : MapState) : ∀ label, Decidable (LeavesEnded s label)
  | .start _ => .isTrue trivial
  | .iterate _ _ => .isTrue trivial
  | .write employeeId w => inferInstanceAs (Decidable
      ((s.frames.lookup employeeId).any (fun frame => frame.control.isEnded) = true →
        w.run (s.responses.lookup employeeId) = s.responses.lookup employeeId))

/-- The iteration of the employee is over, and this is how. -/
def EndedIn (s : MapState) (control : Control) (employeeId : String) : Prop :=
  ∃ frame, s.frames.lookup employeeId = some frame ∧ frame.control = control

instance (s : MapState) (control : Control) (employeeId : String) : Decidable (EndedIn s control employeeId) :=
  decidable_of_iff ((s.frames.lookup employeeId).any (fun frame => frame.control == control) = true) (by
    simp [EndedIn, Option.any_eq_true])

/-- Every iteration has ended in `FinalizeOne` or `FinalizeOneError`. -/
def Drained (x : Execution) (s : MapState) : Prop :=
  ∀ employeeId ∈ x.targets.employeeIds,
    EndedIn s .finalized employeeId ∨ EndedIn s .finalizedError employeeId

instance (x : Execution) (s : MapState) : Decidable (Drained x s) :=
  inferInstanceAs (Decidable (∀ employeeId ∈ x.targets.employeeIds,
    EndedIn s .finalized employeeId ∨ EndedIn s .finalizedError employeeId))

/-- MAP_COMPLETED flips a running cycle to `COMPLETED` and never answers `incomplete`. -/
def CompletesCycle (now : Instant) (world : World) : Prop :=
  ∃ outcome world', handleMapCompleted now world = .ok (outcome, world') ∧ (∀ n, outcome ≠ .incomplete n) ∧
    (Cycle.isRunning world.cycle = true → Cycle.statusOf world'.cycle = some .completed)

def FinalStatus (frame : Frame) (row : Option Response) : Prop :=
  (frame.control = .finalized → ∃ status, statusOf row = some status ∧ status.isTerminal = true) ∧
    (frame.control = .finalizedError → statusOf row = some .other)

theorem finalStatus_of_not_ended {frame : Frame} {row : Option Response} (h : frame.control.isEnded = false) :
    FinalStatus frame row := by
  constructor <;> intro hcontrol <;> rw [hcontrol] at h <;> cases h

theorem not_ended_of_step {input : Input} {row row' : Option Response} {frame frame' : Frame} {event : Event}
    (h : step input row frame event = some (row', frame')) : frame.control.isEnded = false := by
  rcases step_frame h with ⟨enteredTime, now, hnext⟩ | ⟨hended, -⟩ | rfl
  · cases hcontrol : frame.control with
    | finalized | finalizedError | failed => simp only [Frame.next, hcontrol, reduceCtorEq] at hnext
    | _ => rfl
  · exact hended
  · cases event with
    | success enteredTime now =>
      obtain ⟨next, hnext, -⟩ := Option.map_eq_some_iff.1 h
      cases hcontrol : frame'.control with
      | finalized | finalizedError | failed => simp only [Frame.next, hcontrol, reduceCtorEq] at hnext
      | _ => rfl
    | error name applied enteredTime =>
      simp only [step, Option.ite_none_left_eq_some] at h
      simpa using h.1
    | repeated enteredTime =>
      simp only [step, Option.ite_none_right_eq_some] at h
      cases hcontrol : frame'.control with
      | finalized | finalizedError | failed =>
        rw [hcontrol] at h
        cases h.1
      | _ => rfl

/-- A step that ends the iteration has just written the final status. -/
theorem finalStatus_step {input : Input} {row row' : Option Response} {frame frame' : Frame} {event : Event}
    (hdecided : frame.Decided) (h : step input row frame event = some (row', frame')) : FinalStatus frame' row' := by
  have hended := not_ended_of_step h
  cases event with
  | repeated enteredTime =>
    simp only [step, Option.ite_none_right_eq_some, Option.some.injEq, Prod.mk.injEq] at h
    rw [← h.2.2]
    exact finalStatus_of_not_ended hended
  | error name applied enteredTime =>
    simp only [step, Option.ite_none_left_eq_some, Option.some.injEq, Prod.mk.injEq] at h
    obtain ⟨-, -, -, rfl⟩ := h
    rcases onError_cases frame name with ⟨-, -, heq⟩ | ⟨-, heq⟩ | heq | heq <;> rw [heq] <;>
      constructor <;> intro hcontrol <;> cases hcontrol
  | success enteredTime now =>
    obtain ⟨next, hnext, heq⟩ := Option.map_eq_some_iff.1 h
    cases heq
    cases hcontrol : frame.control with
    | finalizeOne =>
      simp only [Frame.next, hcontrol, Option.some.injEq] at hnext
      rw [Frame.Decided, hcontrol] at hdecided
      obtain ⟨status, finalStatus, -, hfinal, hresult⟩ := hdecided
      rw [← hnext, Frame.write, hcontrol, hresult]
      refine ⟨fun _ => ⟨finalStatus, rfl, Retry.isTerminal_of_deriveFinalStatus hfinal⟩, fun hcontrol => ?_⟩
      cases hcontrol
    | finalizeOneError =>
      simp only [Frame.next, hcontrol, Option.some.injEq] at hnext
      rw [← hnext, Frame.write, hcontrol]
      refine ⟨fun hcontrol => ?_, fun _ => rfl⟩
      cases hcontrol
    | finalized | finalizedError | failed =>
      simp only [Frame.next, hcontrol, reduceCtorEq] at hnext
    | evaluateRetry =>
      simp only [Frame.next, hcontrol, Option.some.injEq] at hnext
      rw [← hnext]
      rcases evaluate_cases enteredTime now hcontrol with heq | heq | ⟨status, decision, -, heq, -⟩ <;>
        rw [heq] <;> constructor <;> intro hcontrol <;> cases hcontrol
    | retryChoice =>
      rw [Frame.Decided, hcontrol] at hdecided
      obtain ⟨status, decision, -, hresult, -⟩ := hdecided
      simp only [Frame.next, hcontrol, hresult, Option.some.injEq] at hnext
      rw [← hnext]
      cases decision.retry <;> constructor <;> intro hcontrol <;> cases hcontrol
    | _ =>
      simp only [Frame.next, hcontrol, Option.some.injEq] at hnext
      rw [← hnext]
      constructor <;> intro hcontrol <;> cases hcontrol

structure DrainSound (x : Execution) (s : MapState) : Prop where
  sound : MapSound x s
  final : ∀ employeeId frame, s.frames.lookup employeeId = some frame →
    FinalStatus frame (s.responses.lookup employeeId)

theorem drainSound_step {x : Execution} {s t : MapState} {label : MapLabel} (hs : DrainSound x s)
    (hleaves : LeavesEnded s label) (h : mapStep x s label = some t) : DrainSound x t := by
  refine ⟨mapSound_step hs.sound h, fun other frame hframe => ?_⟩
  obtain ⟨employeeId, hother, hcases⟩ := mapStep_cases h
  by_cases hne : other = employeeId
  · subst other
    rcases hcases with ⟨-, -, -, hnew, -⟩ | ⟨event, frame₀, frame', row', -, hfound, hstep, hnew, hrow⟩ |
      ⟨w, rfl, -, hsame, hrow⟩
    · rw [hnew] at hframe
      cases hframe
      exact finalStatus_of_not_ended rfl
    · rw [hnew] at hframe
      cases hframe
      rw [hrow]
      exact finalStatus_step (hs.sound.decided employeeId frame₀ hfound) hstep
    · rw [hsame] at hframe
      cases hended : frame.control.isEnded with
      | false => exact finalStatus_of_not_ended hended
      | true =>
        have hkept : w.run (s.responses.lookup employeeId) = s.responses.lookup employeeId :=
          hleaves (by rw [hframe, Option.any_some, hended])
        rw [hrow, hkept]
        exact hs.final employeeId frame hframe
  · rw [(hother other hne).1] at hframe
    rw [(hother other hne).2]
    exact hs.final other frame hframe

theorem drainSound_of_exec {x : Execution} {labels : List MapLabel} {s : MapState}
    (hleaves : Guarded (mapStep x) LeavesEnded {} labels) (hrun : exec (mapStep x) {} labels = some s) :
    DrainSound x s :=
  invariant_of_guarded (fun _ _ _ hs hguard h => drainSound_step hs hguard h)
    ⟨mapSound_start x, fun _ _ hframe => by cases hframe⟩ hleaves hrun

/-- MAP_COMPLETED completes the cycle exactly when every row is terminal. -/
theorem completesCycle_iff (now : Instant) (world : World) :
    CompletesCycle now world ↔ ∀ employeeId row, world.responses.lookup employeeId = some row →
      ∃ status, row.voiceStatus = some status ∧ status.isTerminal = true := by
  have hrows : world.responses.rows.all (hasStatus VoiceStatus.isTerminal) = true ↔
      ∀ employeeId row, world.responses.lookup employeeId = some row →
        ∃ status, row.voiceStatus = some status ∧ status.isTerminal = true := by
    rw [List.all_eq_true]
    constructor
    · intro hall employeeId row hrow
      exact (Option.any_eq_true _ _).1 (hall (employeeId, row) (Store.mem_rows.2 hrow))
    · rintro hall ⟨employeeId, row⟩ hmem
      exact (Option.any_eq_true _ _).2 (hall employeeId row (Store.mem_rows.1 hmem))
  rw [← hrows]
  rcases handleMapCompleted_cases now world with ⟨hall, outcome, world', heq, hcycle, hcases⟩ | ⟨hall, pending, heq⟩
  · refine iff_of_true ⟨outcome, world', heq, ?_, ?_⟩ hall
    · intro n houtcome
      split at hcases <;> obtain ⟨summary, hsummary⟩ := hcases <;> rw [hsummary] at houtcome <;> cases houtcome
    · intro hrunning
      rw [hcycle]
      exact Cycle.statusOf_setCycleStatus hrunning
  · refine iff_of_false ?_ (by rw [hall]; exact Bool.false_ne_true)
    rintro ⟨outcome, world', heq', hnot, -⟩
    rw [heq] at heq'
    cases heq'
    exact hnot pending rfl

/-- After a drained run MAP_COMPLETED completes the cycle exactly when every iteration ended in `FinalizeOne`
and every row of an employee who is not a target was flipped to `UNREACHABLE` by a timeout. -/
theorem map_completed_iff {x : Execution} {labels : List MapLabel} {s : MapState} {world : World} (now : Instant)
    (hleaves : Guarded (mapStep x) LeavesEnded {} labels) (hrun : exec (mapStep x) {} labels = some s)
    (hdrained : Drained x s) (hworld : world.responses = s.responses) :
    CompletesCycle now world ↔
      (∀ employeeId ∈ x.targets.employeeIds, EndedIn s .finalized employeeId) ∧
      ∀ employeeId row, s.responses.lookup employeeId = some row → employeeId ∉ x.targets.employeeIds →
        row.voiceStatus = some .unreachable := by
  have hs := drainSound_of_exec hleaves hrun
  rw [completesCycle_iff, hworld]
  constructor
  · intro hterminal
    refine ⟨fun employeeId hmem => ?_, fun employeeId row hrow hout => ?_⟩
    · rcases hdrained employeeId hmem with hended | ⟨frame, hframe, hcontrol⟩
      · exact hended
      · have hother := (hs.final employeeId frame hframe).2 hcontrol
        obtain ⟨row, hrow, hstatus⟩ := Option.bind_eq_some_iff.1 hother
        obtain ⟨status, hset, hclosed⟩ := hterminal employeeId row hrow
        rw [hstatus] at hset
        cases hset
        cases hclosed
    · obtain ⟨status, hset, hclosed⟩ := hterminal employeeId row hrow
      rcases ((hs.sound.row employeeId row hrow).outside hout).2 with hpending | hunreachable
      · rw [hpending] at hset
        cases hset
        cases hclosed
      · exact hunreachable
  · rintro ⟨hended, houtside⟩ employeeId row hrow
    by_cases hmem : employeeId ∈ x.targets.employeeIds
    · obtain ⟨frame, hframe, hcontrol⟩ := hended employeeId hmem
      obtain ⟨status, hstatus, hclosed⟩ := (hs.final employeeId frame hframe).1 hcontrol
      rw [hrow] at hstatus
      exact ⟨status, hstatus, hclosed⟩
    · exact ⟨.unreachable, houtside employeeId row hrow hmem, rfl⟩

def oneTarget : Execution where
  cycleId := "c"
  targets := ⟨["e"], by decide, by decide, by decide⟩
  maxConcurrency := 1
  retryCount := .int 0
  retryIntervalMinutes := .int 1
  dictionaryVersion := 1

/-- DynamoDB fails `InitAttempt` for good, and `FinalizeOneError` ends the iteration. -/
def failedInitAttempt : List MapLabel :=
  [.start "e", .iterate "e" (.error "DynamoDB.AmazonDynamoDBException" false 0), .iterate "e" (.success 0 0)]

/-- The drained Map leaves the cycle as it was: MAP_COMPLETED counts the row as pending. -/
theorem drained_map_incomplete :
    ∃ s, exec (mapStep oneTarget) {} failedInitAttempt = some s ∧ Drained oneTarget s ∧
      Guarded (mapStep oneTarget) LeavesEnded {} failedInitAttempt ∧
      ∀ now cycle, handleMapCompleted now { cycle, responses := s.responses } =
        .ok (.incomplete 1, { cycle, responses := s.responses }) := by
  refine ⟨_, rfl, by decide, by decide, fun now cycle => rfl⟩

/-- One attempt that reaches nobody, with no redial in the budget. -/
def unansweredAttempt : List MapLabel :=
  .start "e" :: List.replicate 7 (.iterate "e" (.success 0 0))

def cycleOfOneTarget : Cycle where
  status := .running
  mode := .all
  retryCount := .int 0
  retryIntervalMinutes := .int 1
  dictionaryVersion := 1
  startedAt := 0

/-- Its MAP_COMPLETED takes the running cycle to `COMPLETED`. -/
theorem map_completed_iff_unanswered :
    ∃ s, exec (mapStep oneTarget) {} unansweredAttempt = some s ∧ ∃ outcome world',
      handleMapCompleted 0 { cycle := some cycleOfOneTarget, responses := s.responses } = .ok (outcome, world') ∧
        Cycle.statusOf world'.cycle = some .completed := by
  have hleaves : Guarded (mapStep oneTarget) LeavesEnded {} unansweredAttempt := by decide
  obtain ⟨s, hrun, hdrained, hended, hkeys⟩ : ∃ s, exec (mapStep oneTarget) {} unansweredAttempt = some s ∧
      Drained oneTarget s ∧ EndedIn s .finalized "e" ∧ s.responses.keys = ["e"] :=
    ⟨_, rfl, by decide, by decide, rfl⟩
  have hcompletes : CompletesCycle 0 { cycle := some cycleOfOneTarget, responses := s.responses } := by
    apply (map_completed_iff 0 hleaves hrun hdrained rfl).2
    refine ⟨fun employeeId hmem => ?_, fun employeeId row hrow hout => ?_⟩
    · rw [List.mem_singleton.1 hmem]
      exact hended
    · have hmem : employeeId ∈ s.responses.keys := Store.mem_keys_iff.2 ⟨row, hrow⟩
      rw [hkeys] at hmem
      exact absurd hmem hout
  obtain ⟨outcome, world', hanswer, -, hcompleted⟩ := hcompletes
  exact ⟨s, hrun, outcome, world', hanswer, hcompleted rfl⟩

end StateMachine

end SafetyConfirmation
