import SafetyConfirmation.StateMachine.RowRun

/-!
# No redial after a confirmed answer

The iteration decides on a redial from one reading of the row and does not look again before it dials. The
answers that stop it are the ones that land while the reading is still to come, or when no redial is left.
-/

namespace SafetyConfirmation

namespace StateMachine

open KeyedStore Response StepMachine

def EntersDispatch (s t : RowState) : Prop := s.frame.control ≠ .dispatch ∧ t.frame.control = .dispatch

instance (s t : RowState) : Decidable (EntersDispatch s t) := inferInstanceAs (Decidable (_ ∧ _))

/-- A KeywordMatcher write that brings a confirmed answer, or replaces one, leaves no redial due. -/
def Settles (input : Input) (s : RowState) : RowLabel → Prop
  | .iteration _ => True
  | .lambda w => w.classified?.isSome = true → Confirmed s.row ∨ Confirmed (w.run s.row) →
      s.frame.willRedial input (w.run s.row) = false

instance (input : Input) (s : RowState) : ∀ label, Decidable (Settles input s label)
  | .iteration _ => .isTrue trivial
  | .lambda w => inferInstanceAs (Decidable (w.classified?.isSome = true →
      Confirmed s.row ∨ Confirmed (w.run s.row) → s.frame.willRedial input (w.run s.row) = false))

/-- No redial is due, and the decision agrees with the reading it was taken on. -/
structure Settled (input : Input) (s : RowState) : Prop where
  decided : s.frame.Decided
  quiet : s.frame.willRedial input s.row = false

theorem willRedial_congr {input : Input} {row row' : Option Response} {frame : Frame}
    (h : Confirmed row ↔ Confirmed row') : frame.willRedial input row = frame.willRedial input row' := by
  simp only [Frame.willRedial, h]

/-- A write by another lambda than KeywordMatcher neither brings nor takes a confirmed answer. -/
theorem confirmed_run_iff {w : RowWrite} {row : Option Response} (h : w.classified? = none) :
    Confirmed (w.run row) ↔ Confirmed row := by
  constructor
  · intro hrun
    rcases confirmed_of_confirmed_run hrun with hrow | hset
    · exact hrow
    · rw [RowWrite.confirms, h] at hset
      cases hset
  · intro hrow
    apply confirmed_run hrow
    rw [RowWrite.IsOther, h]
    exact fun hother => by cases hother

theorem willRedial_onError {input : Input} {row : Option Response} {frame : Frame} (name : String)
    (hquiet : frame.willRedial input row = false) : (frame.onError name).willRedial input row = false := by
  rcases onError_cases frame name with ⟨hcontrol, -, -⟩ | ⟨hcontrol, h⟩ | h | h
  · rw [Frame.willRedial, hcontrol] at hquiet
    cases hquiet
  · rw [Frame.willRedial, hcontrol] at hquiet
    rw [h]
    exact hquiet
  · rw [h]
    rfl
  · rw [h]
    rfl

/-- The iteration is in one of its last two states, or over. -/
def Control.isClosing : Control → Bool
  | .finalizeOne | .finalizeOneError | .finalized | .finalizedError | .failed => true
  | _ => false

theorem willRedial_of_isClosing {input : Input} {row : Option Response} {frame : Frame}
    (h : frame.control.isClosing = true) : frame.willRedial input row = false := by
  cases hcontrol : frame.control <;> simp_all [Frame.willRedial, Control.isClosing]

theorem isClosing_next {input : Input} {row : Option Response} {frame frame' : Frame} {enteredTime now : Instant}
    (hclosing : frame.control.isClosing = true) (hnext : frame.next input row enteredTime now = some frame') :
    frame'.control.isClosing = true := by
  cases hcontrol : frame.control with
  | finalizeOne | finalizeOneError =>
    simp only [Frame.next, hcontrol, Option.some.injEq] at hnext
    rw [← hnext]
    rfl
  | finalized | finalizedError | failed =>
    simp only [Frame.next, hcontrol, reduceCtorEq] at hnext
  | _ =>
    rw [hcontrol] at hclosing
    cases hclosing

theorem willRedial_next {input : Input} {row : Option Response} {frame frame' : Frame} {enteredTime now : Instant}
    (hdecided : frame.Decided) (hquiet : frame.willRedial input row = false)
    (hnext : frame.next input row enteredTime now = some frame') : frame'.willRedial input row = false := by
  cases hcontrol : frame.control with
  | readResponse =>
    simp only [Frame.next, hcontrol, Option.some.injEq] at hnext
    rw [← hnext]
    simp only [Frame.willRedial, hcontrol, Bool.and_eq_false_iff, Bool.not_eq_false', decide_eq_true_eq] at hquiet
    rcases hquiet with hbudget | ⟨status, hstatus, hconfirmed⟩
    · simp only [Frame.willRedial, Bool.and_eq_false_iff]
      exact .inl hbudget
    · simp only [Frame.willRedial, hstatus, Option.any_some, Bool.and_eq_false_iff]
      have hterminal := VoiceStatus.isTerminal_eq_not_isRetryable status
      rw [VoiceStatus.isTerminal_of_isConfirmed hconfirmed] at hterminal
      exact .inr (by simpa using hterminal.symm)
  | evaluateRetry =>
    simp only [Frame.next, hcontrol, Option.some.injEq] at hnext
    rw [← hnext]
    rcases evaluate_cases enteredTime now hcontrol with heq | heq | ⟨status, decision, -, heq, hredial, -⟩
    · rw [heq]
      rfl
    · rw [heq]
      rfl
    · have hsame : frame.willRedial input none = frame.willRedial input row := by
        simp only [Frame.willRedial, hcontrol]
      rw [heq]
      simp only [Frame.willRedial, Option.any_some]
      rw [hredial, hsame, hquiet]
  | retryChoice =>
    rw [Frame.Decided, hcontrol] at hdecided
    obtain ⟨status, decision, -, hresult, -⟩ := hdecided
    simp only [Frame.next, hcontrol, hresult, Option.some.injEq] at hnext
    have hfinal : decision.retry = false := by
      simpa only [Frame.willRedial, hcontrol, hresult, Option.any_some] using hquiet
    rw [← hnext]
    simp only [Frame.willRedial, hfinal, Bool.false_eq_true, if_false]
  | initAttempt | waitInterval | incrementAttempt =>
    rw [Frame.willRedial, hcontrol] at hquiet
    cases hquiet
  | dispatch | waitForTranscribe =>
    simp only [Frame.next, hcontrol, Option.some.injEq] at hnext
    rw [← hnext]
    rw [Frame.willRedial, hcontrol] at hquiet
    exact hquiet
  | finalizeOne | finalizeOneError | finalized | finalizedError | failed =>
    exact willRedial_of_isClosing (isClosing_next (by rw [hcontrol]; rfl) hnext)

theorem isClosing_step {input : Input} {row row' : Option Response} {frame frame' : Frame} {event : Event}
    (hclosing : frame.control.isClosing = true) (h : step input row frame event = some (row', frame')) :
    frame'.control.isClosing = true := by
  rcases step_frame h with ⟨enteredTime, now, hnext⟩ | ⟨-, name, rfl⟩ | rfl
  · exact isClosing_next hclosing hnext
  · rcases onError_cases frame name with ⟨hcontrol, -, -⟩ | ⟨hcontrol, -⟩ | h | h
    · rw [hcontrol] at hclosing
      cases hclosing
    · rw [hcontrol] at hclosing
      cases hclosing
    · rw [h]
      rfl
    · rw [h]
      rfl
  · exact hclosing

theorem willRedial_step {input : Input} {row row' : Option Response} {frame frame' : Frame} {event : Event}
    (hdecided : frame.Decided) (hquiet : frame.willRedial input row = false)
    (h : step input row frame event = some (row', frame')) : frame'.willRedial input row' = false := by
  by_cases hclosing : frame.control.isClosing = true
  · exact willRedial_of_isClosing (isClosing_step hclosing h)
  · have hsilent : frame.control.isRetried = false := by
      cases hcontrol : frame.control <;> simp_all [Frame.willRedial, Control.isRetried, Control.isClosing]
    rw [step_row_eq h hsilent]
    rcases step_frame h with ⟨enteredTime, now, hnext⟩ | ⟨-, name, rfl⟩ | rfl
    · exact willRedial_next hdecided hquiet hnext
    · exact willRedial_onError name hquiet
    · exact hquiet

/-- A step of the iteration brings a confirmed answer only by writing one back. -/
theorem isClosing_of_confirmed_step {input : Input} {row row' : Option Response} {frame frame' : Frame}
    {event : Event} (h : step input row frame event = some (row', frame')) (hrow : ¬ Confirmed row)
    (hrow' : Confirmed row') : frame.control.isClosing = true := by
  rcases step_row h with rfl | ⟨enteredTime, rfl⟩
  · exact absurd hrow' hrow
  · cases hcontrol : frame.control with
    | finalizeOne | finalizeOneError | finalized | finalizedError | failed => rfl
    | initAttempt =>
      exfalso
      rw [Frame.write, hcontrol] at hrow'
      cases row with
      | none =>
        obtain ⟨status, hstatus, hconfirmed⟩ := hrow'
        cases hstatus
        cases hconfirmed
      | some row => exact hrow hrow'
    | _ =>
      rw [write_eq_skip enteredTime (by rw [hcontrol]; rfl), Write.run_skip] at hrow'
      exact absurd hrow' hrow

theorem settled_rowStep {input : Input} {s t : RowState} {label : RowLabel} (hs : Settled input s)
    (hsettles : Settles input s label) (hstep : rowStep input s label = some t) : Settled input t := by
  cases label with
  | lambda w =>
    cases hstep
    refine ⟨hs.decided, ?_⟩
    show s.frame.willRedial input (w.run s.row) = false
    cases hclassified : w.classified? with
    | none => rw [willRedial_congr (confirmed_run_iff hclassified), hs.quiet]
    | some status =>
      by_cases hconfirmed : Confirmed s.row ∨ Confirmed (w.run s.row)
      · exact hsettles (by rw [hclassified]; rfl) hconfirmed
      · rw [not_or] at hconfirmed
        rw [willRedial_congr (iff_of_false hconfirmed.2 hconfirmed.1), hs.quiet]
  | iteration event =>
    obtain ⟨⟨row', frame'⟩, hevent, rfl⟩ := Option.map_eq_some_iff.1 hstep
    exact ⟨decided_step hs.decided hevent, willRedial_step hs.decided hs.quiet hevent⟩

/-- What a settling run keeps from the start: once the row is confirmed, no redial is due. -/
structure SettledOnceConfirmed (input : Input) (s : RowState) : Prop where
  decided : s.frame.Decided
  quiet : Confirmed s.row → s.frame.willRedial input s.row = false

theorem settledOnceConfirmed_rowStep {input : Input} {s t : RowState} {label : RowLabel}
    (hs : SettledOnceConfirmed input s) (hsettles : Settles input s label)
    (hstep : rowStep input s label = some t) : SettledOnceConfirmed input t := by
  by_cases hconfirmed : Confirmed s.row
  · have ht := settled_rowStep ⟨hs.decided, hs.quiet hconfirmed⟩ hsettles hstep
    exact ⟨ht.decided, fun _ => ht.quiet⟩
  · cases label with
    | lambda w =>
      cases hstep
      refine ⟨hs.decided, fun hrun => ?_⟩
      apply hsettles
      · rcases confirmed_of_confirmed_run hrun with hrow | hset
        · exact absurd hrow hconfirmed
        · rw [RowWrite.confirms] at hset
          exact Option.isSome_of_any hset
      · exact .inr hrun
    | iteration event =>
      obtain ⟨⟨row', frame'⟩, hevent, rfl⟩ := Option.map_eq_some_iff.1 hstep
      refine ⟨decided_step hs.decided hevent, fun hrun => ?_⟩
      exact willRedial_of_isClosing (isClosing_step (isClosing_of_confirmed_step hevent hconfirmed hrun) hevent)

theorem not_entersDispatch {input : Input} {s t : RowState} {label : RowLabel} (hs : Settled input s)
    (hstep : rowStep input s label = some t) : ¬ EntersDispatch s t := by
  rintro ⟨hfrom, hto⟩
  cases label with
  | lambda w =>
    cases hstep
    exact hfrom hto
  | iteration event =>
    obtain ⟨⟨row', frame'⟩, hevent, rfl⟩ := Option.map_eq_some_iff.1 hstep
    have hquiet := hs.quiet
    rcases step_frame hevent with ⟨enteredTime, now, hnext⟩ | ⟨-, name, heq⟩ | heq
    · cases hcontrol : s.frame.control with
      | initAttempt | incrementAttempt =>
        rw [Frame.willRedial, hcontrol] at hquiet
        cases hquiet
      | evaluateRetry =>
        simp only [Frame.next, hcontrol, Option.some.injEq] at hnext
        rw [← hnext] at hto
        rcases evaluate_cases enteredTime now hcontrol with heq | heq | ⟨status, decision, -, heq, -⟩
        · rw [heq] at hto
          cases hto
        · rw [heq] at hto
          cases hto
        · rw [heq] at hto
          cases hto
      | retryChoice =>
        simp only [Frame.next, hcontrol] at hnext
        split at hnext
        · cases hnext
          dsimp only at hto
          split at hto <;> cases hto
        · cases hnext
          cases hto
      | dispatch => exact hfrom hcontrol
      | finalized | finalizedError | failed =>
        simp only [Frame.next, hcontrol, reduceCtorEq] at hnext
      | _ =>
        simp only [Frame.next, hcontrol, Option.some.injEq] at hnext
        rw [← hnext] at hto
        cases hto
    · rcases onError_cases s.frame name with ⟨hcontrol, -, -⟩ | ⟨hcontrol, -⟩ | h | h
      · rw [Frame.willRedial, hcontrol] at hquiet
        cases hquiet
      · exact hfrom hcontrol
      · rw [heq, h] at hto
        cases hto
      · rw [heq, h] at hto
        cases hto
    · rw [heq] at hto
      exact hfrom hto

/-- When every confirmed answer lands while its row is still to be read again or no redial is left, and none is
replaced before it is read, the iteration does not enter `Dispatch` once the row was confirmed. -/
theorem no_redial_after_confirmed {input : Input} {row : Option Response} {first rest : List RowLabel}
    {label : RowLabel} {s t u : RowState} (hrow : ¬ Confirmed row)
    (hsettles : Guarded (rowStep input) (Settles input) { row } (first ++ rest))
    (hfirst : exec (rowStep input) { row } first = some s) (hconfirmed : Confirmed s.row)
    (hrest : exec (rowStep input) s rest = some t) (hstep : rowStep input t label = some u) :
    ¬ EntersDispatch t u := by
  have hguards := (guarded_append hfirst).1 hsettles
  have hstart : SettledOnceConfirmed input { row } := ⟨trivial, fun h => absurd h hrow⟩
  have hs : SettledOnceConfirmed input s :=
    invariant_of_guarded (fun _ _ _ hs hguard hstep => settledOnceConfirmed_rowStep hs hguard hstep)
      hstart hguards.1 hfirst
  have ht : Settled input t :=
    invariant_of_guarded (fun _ _ _ hs hguard hstep => settled_rowStep hs hguard hstep)
      ⟨hs.decided, hs.quiet hconfirmed⟩ hguards.2 hrest
  exact not_entersDispatch ht hstep

def successes (states : Nat) : List RowLabel := List.replicate states (.iteration (.success 0 0))

/-- An answer that lands in `WaitInterval` does not keep the iteration from dialling again. -/
theorem redial_after_answer_in_waitInterval :
    ∃ s t u, exec (rowStep itemWithOneRedial) { row := none } (successes 6 ++ transcriptRun "I am fine") = some s ∧
      Confirmed s.row ∧ exec (rowStep itemWithOneRedial) s (successes 1) = some t ∧
      rowStep itemWithOneRedial t (.iteration (.success 0 0)) = some u ∧ EntersDispatch t u := by
  refine ⟨_, _, _, rfl, ?_, rfl, rfl, ?_⟩
  · decide
  · decide

/-- The iteration after it has read a matched row: it goes on to close it. -/
def fineFrame (control : Control) : Frame where
  control := control
  responseRow := some fineRow
  evaluateResult := some (.final .safe)

theorem no_redial_after_confirmed_in_waitForTranscribe :
    ¬ EntersDispatch { row := some fineRow, frame := fineFrame .retryChoice }
      { row := some fineRow, frame := fineFrame .finalizeOne } := by
  have hsettles : Guarded (rowStep itemWithOneRedial) (Settles itemWithOneRedial) { row := none }
      ((successes 2 ++ transcriptRun "I am fine") ++ successes 3) := by decide
  have hfirst : exec (rowStep itemWithOneRedial) { row := none } (successes 2 ++ transcriptRun "I am fine") =
      some { row := some fineRow, frame := { control := .waitForTranscribe } } := by decide
  have hrest : exec (rowStep itemWithOneRedial)
      { row := some fineRow, frame := { control := .waitForTranscribe } } (successes 3) =
        some { row := some fineRow, frame := fineFrame .retryChoice } := by decide
  have hstep : rowStep itemWithOneRedial { row := some fineRow, frame := fineFrame .retryChoice }
      (.iteration (.success 0 0)) = some { row := some fineRow, frame := fineFrame .finalizeOne } := by decide
  exact no_redial_after_confirmed (by decide) hsettles hfirst (by decide) hrest hstep

end StateMachine

end SafetyConfirmation
