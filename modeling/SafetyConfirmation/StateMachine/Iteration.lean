import SafetyConfirmation.Retry.Evaluator
import SafetyConfirmation.Response.Row

/-!
# One iteration of the Map

The iterator of the cycle state machine, from `InitAttempt` to `FinalizeOne` or `FinalizeOneError`. A frame is
what Step Functions keeps of a running iteration; a step runs the state the frame is in on the Response row it
finds. The environment chooses how a state ends: with success, with an error that its retries did not heal, or
with an attempt that took effect and is run again because its answer was lost.
-/

namespace SafetyConfirmation

namespace StateMachine

open KeyedStore Response

/-- The item of the iteration, as `CallMap`'s `Parameters` build it. -/
structure Input where
  cycleId : String
  employeeId : String
  retryCount : Value
  retryIntervalMinutes : Value
  dictionaryVersion : Int

/-- The states of the iterator, the two ways it can end, and the failure no `Catch` takes. -/
inductive Control where
  | initAttempt
  | dispatch
  | waitForTranscribe
  | readResponse
  | evaluateRetry
  | retryChoice
  | waitInterval
  | incrementAttempt
  | finalizeOne
  | finalizeOneError
  | finalized
  | finalizedError
  | failed
  deriving DecidableEq, Repr

def Control.isEnded : Control → Bool
  | .finalized | .finalizedError | .failed => true
  | _ => false

/-- The state writes the row and has a `Retry`. -/
def Control.isRetried : Control → Bool
  | .initAttempt | .finalizeOne | .finalizeOneError => true
  | _ => false

structure Frame where
  control : Control := .initAttempt
  currentAttempt : Nat := 1
  responseRow : Option Response := none
  evaluateResult : Option Retry.Decision := none
  deriving DecidableEq

/-! ### Errors and catchers -/

structure Catcher where
  errorEquals : List String
  next : Control

def conditionalCheckFailed : String := "DynamoDB.ConditionalCheckFailedException"

/-- The errors that `States.ALL` does not catch. -/
def uncatchable : List String := ["States.Runtime", "States.DataLimitExceeded"]

/-- The wildcards of `ErrorEquals`: `States.TaskFailed` takes every error but a timeout. -/
def matchesError (name pattern : String) : Bool :=
  if pattern = "States.ALL" then !uncatchable.contains name
  else if pattern = "States.TaskFailed" then name != "States.Timeout" && !uncatchable.contains name
  else name == pattern

def Control.catchers : Control → List Catcher
  | .initAttempt => [⟨[conditionalCheckFailed], .dispatch⟩, ⟨["States.ALL"], .finalizeOneError⟩]
  | .dispatch =>
    [⟨["States.Timeout", "States.TaskFailed", "Lambda.ServiceException", "Lambda.AWSLambdaException",
        "Lambda.SdkClientException"], .waitForTranscribe⟩,
      ⟨["States.ALL"], .finalizeOneError⟩]
  | .readResponse | .evaluateRetry => [⟨["States.ALL"], .finalizeOneError⟩]
  | _ => []

/-- Where an error leads: the first catcher that matches, or the failure of the iteration. -/
def Frame.onError (frame : Frame) (name : String) : Frame :=
  match frame.control.catchers.find? fun c => c.errorEquals.any (matchesError name) with
  | some catcher => { frame with control := catcher.next }
  | none => { frame with control := .failed }

/-! ### One step -/

/-- The write the state makes when it takes effect at `enteredTime`. -/
def Frame.write (input : Input) (enteredTime : Instant) (frame : Frame) : Write Response :=
  match frame.control with
  | .initAttempt => initAttempt input.dictionaryVersion
  | .finalizeOne =>
    match frame.evaluateResult with
    | some (.final finalStatus) => finalizeOne finalStatus enteredTime
    | _ => .skip
  | .finalizeOneError => finalizeOneError enteredTime
  | _ => .skip

def Frame.retryEvent (input : Input) (enteredTime : Instant) (voiceStatus : VoiceStatus) (frame : Frame) :
    Retry.Event where
  cycleId := input.cycleId
  employeeId := input.employeeId
  voiceStatus := voiceStatus.name
  attempts := .int frame.currentAttempt
  retryCount := input.retryCount
  retryIntervalMinutes := input.retryIntervalMinutes
  prevEndAt := enteredTime

/-- `EvaluateRetry` on the row that was read. A row without a status cannot be resolved by the payload's path,
which no `Catch` takes; an exception of the lambda is caught. -/
def Frame.evaluate (input : Input) (enteredTime now : Instant) (frame : Frame) : Frame :=
  match statusOf frame.responseRow with
  | none => frame.onError "States.Runtime"
  | some voiceStatus =>
    match Retry.lambdaHandler (frame.retryEvent input enteredTime voiceStatus) now with
    | .ok decision => { frame with control := .retryChoice, evaluateResult := some decision }
    | .error e => frame.onError e.errorName

/-- The frame after the state took effect on the row: `now` is the clock of the lambda it invokes. -/
def Frame.next (input : Input) (row : Option Response) (enteredTime now : Instant) (frame : Frame) : Option Frame :=
  match frame.control with
  | .initAttempt => some { frame with control := .dispatch }
  | .dispatch => some { frame with control := .waitForTranscribe }
  | .waitForTranscribe => some { frame with control := .readResponse }
  | .readResponse => some { frame with control := .evaluateRetry, responseRow := row }
  | .evaluateRetry => some (frame.evaluate input enteredTime now)
  | .retryChoice =>
    match frame.evaluateResult with
    | some decision => some { frame with control := if decision.retry then .waitInterval else .finalizeOne }
    | none => some { frame with control := .failed }
  | .waitInterval => some { frame with control := .incrementAttempt }
  | .incrementAttempt => some { control := .dispatch, currentAttempt := frame.currentAttempt + 1 }
  | .finalizeOne => some { frame with control := .finalized }
  | .finalizeOneError => some { frame with control := .finalizedError }
  | .finalized | .finalizedError | .failed => none

inductive Event where
  | success (enteredTime now : Instant)
  | error (name : String) (applied : Bool) (enteredTime : Instant)
  | repeated (enteredTime : Instant)
  deriving DecidableEq

/-- One step of the iteration on its row. DynamoDB reports a failed condition only where it failed. -/
def step (input : Input) (row : Option Response) (frame : Frame) : Event → Option (Option Response × Frame)
  | .success enteredTime now =>
    (frame.next input row enteredTime now).map fun next => ((frame.write input enteredTime).run row, next)
  | .error name applied enteredTime =>
    let row' := if applied then (frame.write input enteredTime).run row else row
    if frame.control.isEnded then none
    else if name = conditionalCheckFailed ∧ (frame.write input enteredTime).condition row' = true then none
    else some (row', frame.onError name)
  | .repeated enteredTime =>
    if frame.control.isRetried then some ((frame.write input enteredTime).run row, frame) else none

/-! ### What a step can do -/

/-- An error leads on from `InitAttempt` and `Dispatch` as their success does, to `FinalizeOneError`, or out of
the iteration. -/
theorem onError_cases (frame : Frame) (name : String) :
    (frame.control = .initAttempt ∧ name = conditionalCheckFailed ∧
      frame.onError name = { frame with control := .dispatch }) ∨
    (frame.control = .dispatch ∧ frame.onError name = { frame with control := .waitForTranscribe }) ∨
    frame.onError name = { frame with control := .finalizeOneError } ∨
    frame.onError name = { frame with control := .failed } := by
  unfold Frame.onError
  split
  next catcher hcatcher =>
    have hmem := List.mem_of_find?_eq_some hcatcher
    have hmatch := List.find?_some hcatcher
    cases hcontrol : frame.control with
    | initAttempt =>
      rw [hcontrol] at hmem
      rcases List.mem_cons.1 hmem with rfl | hmem
      · refine .inl ⟨rfl, ?_, rfl⟩
        simpa [matchesError, conditionalCheckFailed] using hmatch
      · rw [List.mem_singleton.1 hmem]
        exact .inr (.inr (.inl rfl))
    | dispatch =>
      rw [hcontrol] at hmem
      rcases List.mem_cons.1 hmem with rfl | hmem
      · exact .inr (.inl ⟨rfl, rfl⟩)
      · rw [List.mem_singleton.1 hmem]
        exact .inr (.inr (.inl rfl))
    | readResponse | evaluateRetry =>
      rw [hcontrol, Control.catchers] at hmem
      rw [List.mem_singleton.1 hmem]
      exact .inr (.inr (.inl rfl))
    | _ =>
      rw [hcontrol] at hmem
      cases hmem
  next => exact .inr (.inr (.inr rfl))

/-- The row after a step is the row before it, or what the state's write leaves of it. -/
theorem step_row {input : Input} {row row' : Option Response} {frame frame' : Frame} {event : Event}
    (h : step input row frame event = some (row', frame')) :
    row' = row ∨ ∃ enteredTime, row' = (frame.write input enteredTime).run row := by
  cases event with
  | success enteredTime now =>
    obtain ⟨_, -, heq⟩ := Option.map_eq_some_iff.1 h
    cases heq
    exact .inr ⟨enteredTime, rfl⟩
  | error name applied enteredTime =>
    simp only [step, Option.ite_none_left_eq_some, Option.some.injEq, Prod.mk.injEq] at h
    obtain ⟨-, -, rfl, -⟩ := h
    cases applied with
    | true => exact .inr ⟨enteredTime, rfl⟩
    | false => exact .inl rfl
  | repeated enteredTime =>
    simp only [step, Option.ite_none_right_eq_some, Option.some.injEq, Prod.mk.injEq] at h
    exact .inr ⟨enteredTime, h.2.1.symm⟩

theorem step_frame {input : Input} {row row' : Option Response} {frame frame' : Frame} {event : Event}
    (h : step input row frame event = some (row', frame')) :
    (∃ enteredTime now, frame.next input row enteredTime now = some frame') ∨
    (frame.control.isEnded = false ∧ ∃ name, frame' = frame.onError name) ∨ frame' = frame := by
  cases event with
  | success enteredTime now =>
    obtain ⟨next, hnext, heq⟩ := Option.map_eq_some_iff.1 h
    cases heq
    exact .inl ⟨enteredTime, now, hnext⟩
  | error name applied enteredTime =>
    simp only [step, Option.ite_none_left_eq_some, Option.some.injEq, Prod.mk.injEq] at h
    obtain ⟨hended, -, -, rfl⟩ := h
    exact .inr (.inl ⟨by simpa using hended, name, rfl⟩)
  | repeated enteredTime =>
    simp only [step, Option.ite_none_right_eq_some, Option.some.injEq, Prod.mk.injEq] at h
    exact .inr (.inr h.2.2.symm)

end StateMachine

end SafetyConfirmation
