import SafetyConfirmation.Lib.StepMachine
import SafetyConfirmation.KeywordMatcher.Handler
import SafetyConfirmation.StateMachine.Iteration

/-!
# One Response row under its iteration and the lambdas

The row of one `(cycleId, employeeId)` together with the frame of its iteration. A label is a step of the
iteration or one write of the row by a lambda, so a run is any interleaving of them: KeywordMatcher runs for
any transcripts, delivered any number of times and failing at any call, are sequences of such writes.
-/

namespace SafetyConfirmation

namespace StateMachine

open KeyedStore Response StepMachine

structure RowState where
  row : Option Response
  frame : Frame := {}
  deriving DecidableEq

inductive RowLabel where
  | iteration (event : Event)
  | lambda (w : RowWrite)
  deriving DecidableEq

def rowStep (input : Input) (s : RowState) : RowLabel → Option RowState
  | .iteration event => (step input s.row s.frame event).map fun t => { row := t.1, frame := t.2 }
  | .lambda w => some { s with row := w.run s.row }

def Frame.budgetLeft (input : Input) (frame : Frame) : Bool :=
  match input.retryCount with
  | .int retryCount => decide ((frame.currentAttempt : Int) < retryCount)
  | _ => false

/-- The iteration goes on to `Dispatch` unless a write of its row comes between: it is on the way there, it has
decided to, or it is going to decide on an open row with budget left. -/
def Frame.willRedial (input : Input) (row : Option Response) (frame : Frame) : Bool :=
  match frame.control with
  | .initAttempt | .waitInterval | .incrementAttempt => true
  | .dispatch | .waitForTranscribe | .readResponse => frame.budgetLeft input && !decide (Confirmed row)
  | .evaluateRetry => frame.budgetLeft input && (statusOf frame.responseRow).any VoiceStatus.isRetryable
  | .retryChoice => frame.evaluateResult.any Retry.Decision.retry
  | _ => false

/-- The decision a frame carries is the one `derive_final_status` takes on the row it has read. -/
def Frame.Decided (frame : Frame) : Prop :=
  match frame.control with
  | .retryChoice => ∃ status decision, statusOf frame.responseRow = some status ∧
      frame.evaluateResult = some decision ∧
      (decision.retry = true ∨ ∃ finalStatus, Retry.deriveFinalStatus status.name = .ok finalStatus ∧
        decision = .final finalStatus)
  | .finalizeOne => ∃ status finalStatus, statusOf frame.responseRow = some status ∧
      Retry.deriveFinalStatus status.name = .ok finalStatus ∧ frame.evaluateResult = some (.final finalStatus)
  | _ => True

/-- `FinalizeOne` is due and will write `UNREACHABLE` from a row that was read before. -/
def Frame.IsStale (input : Input) (frame : Frame) : Prop :=
  ¬ Confirmed frame.responseRow ∧
    (frame.control = .finalizeOne ∨
      (frame.control = .evaluateRetry ∨ frame.control = .retryChoice) ∧ frame.willRedial input none = false)

instance (input : Input) (frame : Frame) : Decidable (frame.IsStale input) := inferInstanceAs (Decidable (_ ∧ _))

/-! ### The decision -/

theorem shouldRetry_retryEvent {input : Input} {frame : Frame} {status : VoiceStatus} {enteredTime : Instant}
    {retry : Bool}
    (h : Retry.shouldRetry status.name (frame.retryEvent input enteredTime status).callResultCode
      (.int frame.currentAttempt) input.retryCount = .ok retry) :
    retry = (frame.budgetLeft input && status.isRetryable) := by
  obtain ⟨n, m, hn, hm, -, -, rfl⟩ := Retry.shouldRetry_eq_ok.1 h
  cases hn
  rw [Frame.budgetLeft, hm, Bool.and_comm]

/-- `EvaluateRetry` fails, or decides on the row that was read: a redial when it is open with budget left, the
final status when not. -/
theorem evaluate_cases {input : Input} {frame : Frame} (enteredTime now : Instant)
    (hcontrol : frame.control = .evaluateRetry) :
    frame.evaluate input enteredTime now = { frame with control := .finalizeOneError } ∨
    frame.evaluate input enteredTime now = { frame with control := .failed } ∨
    ∃ status decision, statusOf frame.responseRow = some status ∧
      frame.evaluate input enteredTime now =
        { frame with control := .retryChoice, evaluateResult := some decision } ∧
      decision.retry = frame.willRedial input none ∧
      (decision.retry = true ∨ ∃ finalStatus, Retry.deriveFinalStatus status.name = .ok finalStatus ∧
        decision = .final finalStatus) := by
  have herror : ∀ name, frame.onError name = { frame with control := .finalizeOneError } ∨
      frame.onError name = { frame with control := .failed } := by
    intro name
    rcases onError_cases frame name with ⟨h, -, -⟩ | ⟨h, -⟩ | h | h
    · rw [hcontrol] at h
      cases h
    · rw [hcontrol] at h
      cases h
    · exact .inl h
    · exact .inr h
  have hredial : frame.willRedial input none =
      (frame.budgetLeft input && (statusOf frame.responseRow).any VoiceStatus.isRetryable) := by
    rw [Frame.willRedial, hcontrol]
  cases hstatus : statusOf frame.responseRow with
  | none =>
    rw [Frame.evaluate, hstatus]
    rcases herror "States.Runtime" with h | h
    · exact .inl h
    · exact .inr (.inl h)
  | some status =>
    cases hanswer : Retry.lambdaHandler (frame.retryEvent input enteredTime status) now with
    | error e =>
      simp only [Frame.evaluate, hstatus, hanswer]
      rcases herror e.errorName with h | h
      · exact .inl h
      · exact .inr (.inl h)
    | ok decision =>
      refine .inr (.inr ⟨status, decision, rfl, ?_, ?_⟩)
      · simp only [Frame.evaluate, hstatus, hanswer]
      · rw [hredial, hstatus]
        rcases Retry.lambdaHandler_cases hanswer with ⟨hretry, wait, next, rfl⟩ | ⟨hretry, final, hfinal, rfl⟩
        · exact ⟨shouldRetry_retryEvent hretry, .inl rfl⟩
        · exact ⟨shouldRetry_retryEvent hretry, .inr ⟨final, hfinal, rfl⟩⟩

theorem decided_onError (frame : Frame) (name : String) : (frame.onError name).Decided := by
  rcases onError_cases frame name with ⟨-, -, h⟩ | ⟨-, h⟩ | h | h <;> rw [h] <;> trivial

theorem decided_step {input : Input} {row row' : Option Response} {frame frame' : Frame} {event : Event}
    (hdecided : frame.Decided) (h : step input row frame event = some (row', frame')) : frame'.Decided := by
  rcases step_frame h with ⟨enteredTime, now, hnext⟩ | ⟨-, name, rfl⟩ | rfl
  · cases hcontrol : frame.control with
    | evaluateRetry =>
      simp only [Frame.next, hcontrol, Option.some.injEq] at hnext
      rw [← hnext]
      rcases evaluate_cases enteredTime now hcontrol with heq | heq | ⟨status, decision, hstatus, heq, -, hfinal⟩
      · rw [heq]
        trivial
      · rw [heq]
        trivial
      · rw [heq]
        exact ⟨status, decision, hstatus, rfl, hfinal⟩
    | retryChoice =>
      rw [Frame.Decided, hcontrol] at hdecided
      obtain ⟨status, decision, hstatus, hresult, hfinal⟩ := hdecided
      simp only [Frame.next, hcontrol, hresult, Option.some.injEq] at hnext
      rw [← hnext]
      cases hretry : decision.retry with
      | true => trivial
      | false =>
        rcases hfinal with hfinal | ⟨finalStatus, hfinal, rfl⟩
        · rw [hretry] at hfinal
          cases hfinal
        · exact ⟨status, finalStatus, hstatus, hfinal, rfl⟩
    | finalized | finalizedError | failed =>
      simp only [Frame.next, hcontrol, reduceCtorEq] at hnext
    | _ =>
      simp only [Frame.next, hcontrol, Option.some.injEq] at hnext
      rw [← hnext]
      trivial
  · exact decided_onError frame name
  · exact hdecided

/-! ### Which steps take a confirmed answer away -/

theorem write_eq_skip {input : Input} {frame : Frame} (enteredTime : Instant)
    (h : frame.control.isRetried = false) : frame.write input enteredTime = .skip := by
  cases hcontrol : frame.control <;> simp_all [Frame.write, Control.isRetried]

theorem step_row_eq {input : Input} {row row' : Option Response} {frame frame' : Frame} {event : Event}
    (h : step input row frame event = some (row', frame')) (hcontrol : frame.control.isRetried = false) :
    row' = row := by
  rcases step_row h with rfl | ⟨enteredTime, rfl⟩
  · rfl
  · rw [write_eq_skip enteredTime hcontrol, Write.run_skip]

/-- What `FinalizeOne` writes is confirmed exactly when the row that was read was. -/
theorem confirmed_finalizeOne_iff {input : Input} {row : Option Response} {frame : Frame} (enteredTime : Instant)
    (hdecided : frame.Decided) (hcontrol : frame.control = .finalizeOne) :
    Confirmed ((frame.write input enteredTime).run row) ↔ Confirmed frame.responseRow := by
  rw [Frame.Decided, hcontrol] at hdecided
  obtain ⟨status, finalStatus, hstatus, hfinal, hresult⟩ := hdecided
  rw [Retry.deriveFinalStatus_name] at hfinal
  cases hfinal
  have hwritten : statusOf ((frame.write input enteredTime).run row) =
      some (if status.isConfirmed then status else .unreachable) := by
    rw [Frame.write, hcontrol, hresult]
    rfl
  rw [Confirmed, Confirmed, hwritten, hstatus]
  have hunreachable : VoiceStatus.unreachable.isConfirmed = false := rfl
  cases hconfirmed : status.isConfirmed <;> simp [hconfirmed, hunreachable]

/-- A stale frame comes from reading an open row, or from a stale frame. -/
theorem isStale_of_next {input : Input} {row : Option Response} {frame frame' : Frame} {enteredTime now : Instant}
    (hdecided : frame.Decided) (hnext : frame.next input row enteredTime now = some frame')
    (hstale : frame'.IsStale input) :
    frame.control.isRetried = false ∧ (frame.IsStale input ∨ ¬ Confirmed row) := by
  cases hcontrol : frame.control with
  | readResponse =>
    simp only [Frame.next, hcontrol, Option.some.injEq] at hnext
    rw [← hnext] at hstale
    exact ⟨rfl, .inr hstale.1⟩
  | evaluateRetry =>
    simp only [Frame.next, hcontrol, Option.some.injEq] at hnext
    rw [← hnext] at hstale
    rcases evaluate_cases enteredTime now hcontrol with heq | heq | ⟨status, decision, -, heq, hredial, -⟩
    · rw [heq] at hstale
      simp [Frame.IsStale] at hstale
    · rw [heq] at hstale
      simp [Frame.IsStale] at hstale
    · rw [heq] at hstale
      obtain ⟨hopen, hfinal⟩ := hstale
      refine ⟨rfl, .inl ⟨hopen, .inr ⟨.inl hcontrol, ?_⟩⟩⟩
      rw [← hredial]
      simpa [Frame.willRedial] using hfinal
  | retryChoice =>
    rw [Frame.Decided, hcontrol] at hdecided
    obtain ⟨status, decision, -, hresult, -⟩ := hdecided
    simp only [Frame.next, hcontrol, hresult, Option.some.injEq] at hnext
    rw [← hnext] at hstale
    obtain ⟨hopen, hfinal⟩ := hstale
    refine ⟨rfl, .inl ⟨hopen, .inr ⟨.inr hcontrol, ?_⟩⟩⟩
    have hredial : frame.willRedial input none = decision.retry := by
      rw [Frame.willRedial, hcontrol, hresult]
      rfl
    rw [hredial]
    cases hretry : decision.retry with
    | true => simp [hretry] at hfinal
    | false => rfl
  | finalized | finalizedError | failed =>
    simp only [Frame.next, hcontrol, reduceCtorEq] at hnext
  | _ =>
    simp only [Frame.next, hcontrol, Option.some.injEq] at hnext
    rw [← hnext] at hstale
    simp [Frame.IsStale] at hstale

theorem not_isStale_onError {input : Input} {frame : Frame} (name : String) : ¬ (frame.onError name).IsStale input := by
  rcases onError_cases frame name with ⟨-, -, h⟩ | ⟨-, h⟩ | h | h <;> rw [h] <;> simp [Frame.IsStale]

/-- No confirmed answer lands while `FinalizeOne` is about to close the row on an older, open reading of it. -/
def InTime (input : Input) (s : RowState) : RowLabel → Prop
  | .iteration _ => True
  | .lambda w => w.confirms = true → ¬ s.frame.IsStale input

instance (input : Input) (s : RowState) : ∀ label, Decidable (InTime input s label)
  | .iteration _ => .isTrue trivial
  | .lambda w => inferInstanceAs (Decidable (w.confirms = true → ¬ s.frame.IsStale input))

/-- What an in-time run keeps: the decision agrees with the reading, and a confirmed row is not about to be
closed on an older one. -/
structure Coherent (input : Input) (s : RowState) : Prop where
  decided : s.frame.Decided
  fresh : Confirmed s.row → ¬ s.frame.IsStale input

theorem coherent_start (input : Input) (row : Option Response) : Coherent input { row } :=
  ⟨trivial, fun _ => by simp [Frame.IsStale]⟩

theorem coherent_rowStep {input : Input} {s t : RowState} {label : RowLabel} (hs : Coherent input s)
    (hintime : InTime input s label) (hstep : rowStep input s label = some t) : Coherent input t := by
  cases label with
  | lambda w =>
    cases hstep
    refine ⟨hs.decided, fun hconfirmed => ?_⟩
    rcases confirmed_of_confirmed_run hconfirmed with hrow | hset
    · exact hs.fresh hrow
    · exact hintime hset
  | iteration event =>
    obtain ⟨⟨row', frame'⟩, hevent, rfl⟩ := Option.map_eq_some_iff.1 hstep
    refine ⟨decided_step hs.decided hevent, fun hconfirmed hstale => ?_⟩
    rcases step_frame hevent with ⟨enteredTime, now, hnext⟩ | ⟨-, name, rfl⟩ | rfl
    · obtain ⟨hsilent, hfrom⟩ := isStale_of_next hs.decided hnext hstale
      have hrow : row' = s.row := step_row_eq hevent hsilent
      rw [hrow] at hconfirmed
      rcases hfrom with hfrom | hfrom
      · exact hs.fresh hconfirmed hfrom
      · exact hfrom hconfirmed
    · exact not_isStale_onError name hstale
    · rcases step_row hevent with rfl | ⟨enteredTime, rfl⟩
      · exact hs.fresh hconfirmed hstale
      · by_cases hcontrol : s.frame.control = .finalizeOne
        · exact hstale.1 ((confirmed_finalizeOne_iff enteredTime hs.decided hcontrol).1 hconfirmed)
        · have hsilent : s.frame.control.isRetried = false := by
            obtain ⟨-, hlate⟩ := hstale
            rcases hlate with hlate | ⟨hlate | hlate, -⟩
            · exact absurd hlate hcontrol
            · rw [hlate]
              rfl
            · rw [hlate]
              rfl
          rw [write_eq_skip enteredTime hsilent, Write.run_skip] at hconfirmed
          exact hs.fresh hconfirmed hstale

/-- A confirmed answer is taken away by a KeywordMatcher write of `OTHER` or by `FinalizeOneError`, and by no
other step: `InitAttempt`, `ReadResponse`, `EvaluateRetry`, `FinalizeOne` and the timeout keep it. -/
theorem confirmed_step {input : Input} {s t : RowState} {label : RowLabel} (hs : Coherent input s)
    (hstep : rowStep input s label = some t) (hconfirmed : Confirmed s.row) (hlost : ¬ Confirmed t.row) :
    (∃ w : RowWrite, label = .lambda w ∧ w.IsOther) ∨
      ∃ event, label = .iteration event ∧ s.frame.control = .finalizeOneError := by
  cases label with
  | lambda w =>
    cases hstep
    refine .inl ⟨w, rfl, ?_⟩
    by_contra hother
    exact hlost (confirmed_run hconfirmed hother)
  | iteration event =>
    obtain ⟨⟨row', frame'⟩, hevent, rfl⟩ := Option.map_eq_some_iff.1 hstep
    refine .inr ⟨event, rfl, ?_⟩
    rcases step_row hevent with rfl | ⟨enteredTime, rfl⟩
    · exact absurd hconfirmed hlost
    · cases hcontrol : s.frame.control with
      | finalizeOneError => rfl
      | finalizeOne =>
        exfalso
        apply hlost
        rw [confirmed_finalizeOne_iff enteredTime hs.decided hcontrol]
        by_contra hopen
        exact hs.fresh hconfirmed ⟨hopen, .inl hcontrol⟩
      | initAttempt =>
        exfalso
        apply hlost
        obtain ⟨status, hstatus, -⟩ := id hconfirmed
        cases hrow : s.row with
        | none =>
          rw [hrow] at hstatus
          cases hstatus
        | some row =>
          rw [hrow] at hconfirmed
          rw [Frame.write, hcontrol]
          exact hconfirmed
      | _ =>
        exfalso
        apply hlost
        rw [write_eq_skip enteredTime (by rw [hcontrol]; rfl), Write.run_skip]
        exact hconfirmed

/-- In every interleaving in which no confirmed answer lands between a reading of the open row and the
`FinalizeOne` that acts on it, only a KeywordMatcher write of `OTHER` and `FinalizeOneError` take a confirmed
answer away. -/
theorem confirmed_lost_only_by_other {input : Input} {row : Option Response} {labels : List RowLabel}
    {label : RowLabel} {s t : RowState} (hintime : Guarded (rowStep input) (InTime input) { row } labels)
    (hrun : exec (rowStep input) { row } labels = some s) (hstep : rowStep input s label = some t)
    (hconfirmed : Confirmed s.row) (hlost : ¬ Confirmed t.row) :
    (∃ w : RowWrite, label = .lambda w ∧ w.IsOther) ∨
      ∃ event, label = .iteration event ∧ s.frame.control = .finalizeOneError :=
  confirmed_step
    (invariant_of_guarded (fun _ _ _ hs hguard hstep => coherent_rowStep hs hguard hstep)
      (coherent_start input row) hintime hrun)
    hstep hconfirmed hlost

def itemWithOneRedial : Input where
  cycleId := "c"
  employeeId := "e"
  retryCount := .int 2
  retryIntervalMinutes := .int 1
  dictionaryVersion := 1

/-- The tries of a handler run whose calls all succeed, on a dictionary that knows one word. -/
def untroubled (text : String) : Nat → KeywordMatcher.Try := fun _ =>
  { readTranscript := .ok (text, 1)
    resolveDictionaryVersion := .ok 1
    getDictionarySnapshot := .ok { safe := ["fine"] }
    recordResponse := .ok
    recordTranscriptMeta := .ok }

def transcriptRun (text : String) : List RowLabel :=
  (KeywordMatcher.lambdaHandler id (untroubled text) .ok).1.map .lambda

def fineRow : Response where
  voiceStatus := some .safe
  callAttempts := some 0
  dictionaryVersion := some 1
  matchedKeywords := some ["fine"]
  transcriptExcerpt := some "I am fine"

def helloRow : Response where
  voiceStatus := some .other
  callAttempts := some 0
  dictionaryVersion := some 1
  matchedKeywords := some []
  transcriptExcerpt := some "hello"

/-- Two transcripts of one call cycle: the second, unmatched, takes the answer of the first away. -/
theorem confirmed_answer_overwritten :
    exec (rowStep itemWithOneRedial) { row := none } (.iteration (.success 0 0) :: transcriptRun "I am fine") =
        some { row := some fineRow, frame := { control := .dispatch } } ∧
      exec (rowStep itemWithOneRedial) { row := some fineRow, frame := { control := .dispatch } }
        (transcriptRun "hello") = some { row := some helloRow, frame := { control := .dispatch } } ∧
      Confirmed (some fineRow) ∧ statusOf (some helloRow) = some .other := by
  refine ⟨?_, ?_, ?_, ?_⟩
  all_goals decide

theorem confirmed_lost_only_by_other_overwritten :
    (∃ w : RowWrite, RowLabel.lambda .recordOtherFallback = .lambda w ∧ w.IsOther) ∨
      ∃ event, RowLabel.lambda .recordOtherFallback = .iteration event ∧ Control.dispatch = .finalizeOneError := by
  have hintime : Guarded (rowStep itemWithOneRedial) (InTime itemWithOneRedial) { row := none }
      (.iteration (.success 0 0) :: transcriptRun "I am fine") := by decide
  have hrun : exec (rowStep itemWithOneRedial) { row := none }
      (.iteration (.success 0 0) :: transcriptRun "I am fine") =
        some { row := some fineRow, frame := { control := .dispatch } } := by decide
  have hstep : rowStep itemWithOneRedial { row := some fineRow, frame := { control := .dispatch } }
      (.lambda .recordOtherFallback) =
        some { row := some { fineRow with voiceStatus := some .other, matchedKeywords := some [] },
               frame := { control := .dispatch } } := by decide
  exact confirmed_lost_only_by_other hintime hrun hstep (by decide) (by decide)

end StateMachine

end SafetyConfirmation
