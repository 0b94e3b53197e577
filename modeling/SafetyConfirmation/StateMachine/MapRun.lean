import SafetyConfirmation.Cycle.Finalizer
import SafetyConfirmation.Employee.LoadTargets
import SafetyConfirmation.StateMachine.RowRun

/-!
# The Map over all targets

An execution of the Map: the frames of the iterations it has started, and the Response rows of its cycle. At
most `maxConcurrency` iterations run at a time. InboundHandler may write a row of any employee; the other lambdas
write the rows of employees that were dialled, which is after `InitAttempt` has found or made the row.
-/

namespace SafetyConfirmation

namespace StateMachine

open KeyedStore Response StepMachine LoadTargets

/-- An execution of the state machine, from `CallMap` on. -/
structure Execution where
  cycleId : String
  targets : TargetList
  maxConcurrency : Nat
  retryCount : Value
  retryIntervalMinutes : Value
  dictionaryVersion : Int

def Execution.input (x : Execution) (employeeId : String) : Input where
  cycleId := x.cycleId
  employeeId := employeeId
  retryCount := x.retryCount
  retryIntervalMinutes := x.retryIntervalMinutes
  dictionaryVersion := x.dictionaryVersion

structure MapState where
  frames : Store String Frame := ∅
  responses : Store String Response := ∅

inductive MapLabel where
  | start (employeeId : String)
  | iterate (employeeId : String) (event : Event)
  | write (employeeId : String) (w : RowWrite)

def MapState.active (s : MapState) : Nat := s.frames.rows.countP fun entry => !entry.2.control.isEnded

/-- The iteration has left `InitAttempt` and its row exists, as it does from the first `Dispatch` on. -/
def MapState.isDialled (s : MapState) (employeeId : String) : Bool :=
  (s.responses.lookup employeeId).isSome &&
    (s.frames.lookup employeeId).any fun frame => frame.control != .initAttempt

/-- Which lambda can write which row: InboundHandler puts before it appends, and CycleFinalizer flips any row. -/
def MapState.mayWrite (s : MapState) (employeeId : String) : RowWrite → Bool
  | .putInbound => employeeId != ""
  | .appendInbound => (s.responses.lookup employeeId).isSome
  | .forceResponseUnreachable => true
  | _ => s.isDialled employeeId

def mapStep (x : Execution) (s : MapState) : MapLabel → Option MapState
  | .start employeeId =>
    if employeeId ∈ x.targets.employeeIds ∧ s.frames.lookup employeeId = none ∧ s.active < x.maxConcurrency then
      some { s with frames := s.frames.set employeeId (some {}) }
    else none
  | .iterate employeeId event =>
    (s.frames.lookup employeeId).bind fun frame =>
      (step (x.input employeeId) (s.responses.lookup employeeId) frame event).map fun t =>
        { frames := s.frames.set employeeId (some t.2), responses := s.responses.set employeeId t.1 }
  | .write employeeId w =>
    if s.mayWrite employeeId w then some { s with responses := s.responses.write employeeId w.write } else none

/-- What a label does to the state of one employee, and that it leaves every other employee's. -/
theorem mapStep_cases {x : Execution} {s t : MapState} {label : MapLabel} (h : mapStep x s label = some t) :
    ∃ employeeId, (∀ other, other ≠ employeeId →
        t.frames.lookup other = s.frames.lookup other ∧ t.responses.lookup other = s.responses.lookup other) ∧
      ((label = .start employeeId ∧ employeeId ∈ x.targets.employeeIds ∧ s.frames.lookup employeeId = none ∧
          t.frames.lookup employeeId = some {} ∧
          t.responses.lookup employeeId = s.responses.lookup employeeId) ∨
        (∃ event frame frame' row', label = .iterate employeeId event ∧ s.frames.lookup employeeId = some frame ∧
          step (x.input employeeId) (s.responses.lookup employeeId) frame event = some (row', frame') ∧
          t.frames.lookup employeeId = some frame' ∧ t.responses.lookup employeeId = row') ∨
        (∃ w : RowWrite, label = .write employeeId w ∧ s.mayWrite employeeId w = true ∧
          t.frames.lookup employeeId = s.frames.lookup employeeId ∧
          t.responses.lookup employeeId = w.run (s.responses.lookup employeeId))) := by
  cases label with
  | start employeeId =>
    simp only [mapStep, Option.ite_none_right_eq_some, Option.some.injEq] at h
    obtain ⟨⟨hmem, hnone, -⟩, rfl⟩ := h
    refine ⟨employeeId, fun other hother => ⟨Store.lookup_set_ne _ _ hother, rfl⟩, .inl ?_⟩
    exact ⟨rfl, hmem, hnone, Store.lookup_set_self .., rfl⟩
  | iterate employeeId event =>
    obtain ⟨frame, hframe, h⟩ := Option.bind_eq_some_iff.1 h
    obtain ⟨⟨row', frame'⟩, hstep, rfl⟩ := Option.map_eq_some_iff.1 h
    refine ⟨employeeId, fun other hother => ⟨Store.lookup_set_ne _ _ hother, Store.lookup_set_ne _ _ hother⟩,
      .inr (.inl ?_)⟩
    exact ⟨event, frame, frame', row', rfl, hframe, hstep, Store.lookup_set_self .., Store.lookup_set_self ..⟩
  | write employeeId w =>
    simp only [mapStep, Option.ite_none_right_eq_some, Option.some.injEq] at h
    obtain ⟨hmay, rfl⟩ := h
    refine ⟨employeeId, fun other hother => ⟨rfl, Store.lookup_write_ne _ _ hother⟩, .inr (.inr ?_)⟩
    exact ⟨w, rfl, hmay, rfl, Store.lookup_write_self ..⟩

/-! ### What holds of every reachable state -/

/-- The rows of an execution: each has a key and a status, and a row of an employee who is not a target is
one that an inbound call opened. -/
structure RowSound (x : Execution) (employeeId : String) (row : Response) : Prop where
  key : employeeId ≠ ""
  status : ∃ status, row.voiceStatus = some status
  outside : employeeId ∉ x.targets.employeeIds → attemptsOf (some row) = 0 ∧
    (row.voiceStatus = some .pending ∨ row.voiceStatus = some .unreachable)

structure MapSound (x : Execution) (s : MapState) : Prop where
  frame_mem : ∀ employeeId frame, s.frames.lookup employeeId = some frame → employeeId ∈ x.targets.employeeIds
  decided : ∀ employeeId frame, s.frames.lookup employeeId = some frame → frame.Decided
  row : ∀ employeeId row, s.responses.lookup employeeId = some row → RowSound x employeeId row

theorem mapSound_start (x : Execution) : MapSound x {} where
  frame_mem _ _ h := by cases h
  decided _ _ h := by cases h
  row _ _ h := by cases h

theorem statusOf_write {input : Input} {frame : Frame} (enteredTime : Instant) (row : Option Response) :
    (frame.write input enteredTime).run row = row ∨
      ∃ status, statusOf ((frame.write input enteredTime).run row) = some status := by
  cases hcontrol : frame.control with
  | initAttempt =>
    rw [Frame.write, hcontrol]
    cases row with
    | none => exact .inr ⟨.pending, rfl⟩
    | some row => exact .inl rfl
  | finalizeOne =>
    rw [Frame.write, hcontrol]
    cases frame.evaluateResult with
    | none => exact .inl rfl
    | some decision =>
      cases decision with
      | redial wait next => exact .inl rfl
      | final finalStatus => exact .inr ⟨finalStatus, rfl⟩
  | finalizeOneError =>
    rw [Frame.write, hcontrol]
    exact .inr ⟨.other, rfl⟩
  | _ =>
    left
    rw [write_eq_skip enteredTime (by rw [hcontrol]; rfl), Write.run_skip]

theorem rowSound_step {x : Execution} {employeeId : String} {row : Option Response} {row' : Response}
    {frame frame' : Frame} {event : Event} (hmem : employeeId ∈ x.targets.employeeIds)
    (hrow : ∀ r, row = some r → RowSound x employeeId r)
    (h : step (x.input employeeId) row frame event = some (some row', frame')) : RowSound x employeeId row' := by
  have hfound : row = some row' ∨ ∃ status, statusOf (some row') = some status := by
    rcases step_row h with heq | ⟨enteredTime, heq⟩
    · exact .inl heq.symm
    · rw [heq]
      rcases statusOf_write enteredTime row with hsame | hset
      · exact .inl hsame.symm
      · exact .inr hset
  rcases hfound with hfound | hstatus
  · exact hrow row' hfound
  · exact ⟨x.targets.ne_empty employeeId hmem, hstatus, fun hout => absurd hmem hout⟩

/-- The three writes that reach rows of employees who were not dialled. -/
theorem mayWrite_cases {s : MapState} {employeeId : String} {w : RowWrite} (h : s.mayWrite employeeId w = true) :
    (w = .putInbound ∧ employeeId ≠ "") ∨
    (w = .appendInbound ∧ (s.responses.lookup employeeId).isSome = true) ∨
    w = .forceResponseUnreachable ∨
    (s.responses.lookup employeeId).isSome = true ∧ ∃ frame, s.frames.lookup employeeId = some frame := by
  have hdialled : s.isDialled employeeId = true → (s.responses.lookup employeeId).isSome = true ∧
      ∃ frame, s.frames.lookup employeeId = some frame := by
    intro hdialled
    rw [MapState.isDialled, Bool.and_eq_true] at hdialled
    exact ⟨hdialled.1, Option.isSome_iff_exists.1 (Option.isSome_of_any hdialled.2)⟩
  cases w with
  | putInbound => exact .inl ⟨rfl, by simpa [MapState.mayWrite] using h⟩
  | appendInbound => exact .inr (.inl ⟨rfl, h⟩)
  | forceResponseUnreachable => exact .inr (.inr (.inl rfl))
  | _ => exact .inr (.inr (.inr (hdialled h)))

theorem rowSound_write {x : Execution} {s : MapState} {employeeId : String} {w : RowWrite} {row' : Response}
    (hs : MapSound x s) (hmay : s.mayWrite employeeId w = true)
    (hrun : w.run (s.responses.lookup employeeId) = some row') : RowSound x employeeId row' := by
  cases hrow : s.responses.lookup employeeId with
  | none =>
    rw [hrow] at hrun
    rcases mayWrite_cases hmay with ⟨rfl, hkey⟩ | ⟨-, hsome⟩ | rfl | ⟨hsome, -⟩
    · cases hrun
      exact ⟨hkey, ⟨.pending, rfl⟩, fun _ => ⟨rfl, .inl rfl⟩⟩
    · rw [hrow] at hsome
      cases hsome
    · cases hrun
    · rw [hrow] at hsome
      cases hsome
  | some row =>
    have hsound := hs.row employeeId row hrow
    obtain ⟨status, hstatus⟩ := hsound.status
    rw [hrow] at hrun
    refine ⟨hsound.key, ?_, fun hout => ?_⟩
    · have hset : ∃ status, statusOf (w.run (some row)) = some status := by
        rcases statusOf_run w (some row) with ⟨_, -, h⟩ | ⟨-, -, h⟩ | ⟨-, -, h⟩ | ⟨-, h⟩
        · exact ⟨_, h⟩
        · exact ⟨_, h⟩
        · exact ⟨_, h⟩
        · exact ⟨status, h.trans hstatus⟩
      rwa [hrun] at hset
    · obtain ⟨hattempts, hclosed⟩ := hsound.outside hout
      rcases mayWrite_cases hmay with ⟨rfl, -⟩ | ⟨rfl, -⟩ | rfl | ⟨-, frame, hframe⟩
      · cases hrun
        exact ⟨hattempts, hclosed⟩
      · cases hrun
        exact ⟨hattempts, hclosed⟩
      · have hforced : RowWrite.forceResponseUnreachable.run (some row) = some row ∨
            RowWrite.forceResponseUnreachable.run (some row) =
              some { row with voiceStatus := some .unreachable } := by
          rw [RowWrite.run, RowWrite.write, Write.run]
          split
          · exact .inr rfl
          · exact .inl rfl
        rw [hrun] at hforced
        rcases hforced with heq | heq
        · cases heq
          exact ⟨hattempts, hclosed⟩
        · cases heq
          exact ⟨hattempts, .inr rfl⟩
      · exact absurd (hs.frame_mem employeeId frame hframe) hout

theorem mapSound_step {x : Execution} {s t : MapState} {label : MapLabel} (hs : MapSound x s)
    (h : mapStep x s label = some t) : MapSound x t := by
  obtain ⟨employeeId, hother, hcases⟩ := mapStep_cases h
  have hlift : ∀ {motive : String → Prop}, motive employeeId →
      (∀ other, other ≠ employeeId → motive other) → ∀ other, motive other := by
    intro motive hself hrest other
    by_cases heq : other = employeeId
    · rw [heq]
      exact hself
    · exact hrest other heq
  refine ⟨hlift ?_ ?_, hlift ?_ ?_, hlift ?_ ?_⟩
  · intro frame hframe
    rcases hcases with ⟨-, hmem, -⟩ | ⟨_, frame, _, _, -, hfound, -⟩ | ⟨w, -, -, hsame, -⟩
    · exact hmem
    · exact hs.frame_mem employeeId frame hfound
    · exact hs.frame_mem employeeId frame (hsame.symm.trans hframe)
  · intro other hne frame hframe
    exact hs.frame_mem other frame ((hother other hne).1.symm.trans hframe)
  · intro frame hframe
    rcases hcases with ⟨-, -, -, hnew, -⟩ | ⟨event, frame₀, frame', row', -, hfound, hstep, hnew, -⟩ |
      ⟨w, -, -, hsame, -⟩
    · rw [hnew] at hframe
      cases hframe
      trivial
    · rw [hnew] at hframe
      cases hframe
      exact decided_step (hs.decided employeeId frame₀ hfound) hstep
    · exact hs.decided employeeId frame (hsame.symm.trans hframe)
  · intro other hne frame hframe
    exact hs.decided other frame ((hother other hne).1.symm.trans hframe)
  · intro row hrow
    rcases hcases with ⟨-, -, -, -, hsame⟩ | ⟨event, frame, frame', row', -, hfound, hstep, -, hnew⟩ |
      ⟨w, -, hmay, -, hnew⟩
    · exact hs.row employeeId row (hsame.symm.trans hrow)
    · rw [hnew] at hrow
      rw [hrow] at hstep
      exact rowSound_step (hs.frame_mem employeeId frame hfound) (fun r hr => hs.row employeeId r hr) hstep
    · exact rowSound_write hs hmay (hnew.symm.trans hrow)
  · intro other hne row hrow
    exact hs.row other row ((hother other hne).2.symm.trans hrow)

theorem mapSound_of_exec {x : Execution} {labels : List MapLabel} {s : MapState}
    (hrun : exec (mapStep x) {} labels = some s) : MapSound x s :=
  invariant (fun _ _ _ hs h => mapSound_step hs h) (mapSound_start x) hrun

end StateMachine

end SafetyConfirmation
