import SafetyConfirmation.Lib.BoundedRetry
import SafetyConfirmation.Lib.FlowGraph
import SafetyConfirmation.Keyword.Transcript
import SafetyConfirmation.Recording.Transcription

/-!
# The ConnectDispatcher lambda

One run for an entry of the state `Dispatch`: dial the employee, write the Response row, and release the task only where no
call will come to its end. A run is a program over its AWS calls, and `Stage` is how far such a run has come, with the one
call it may make next.
-/

namespace SafetyConfirmation

open Checks FlowGraph

/-! ### The calls -/

/-- The parameters of `StartOutboundVoiceContact`. -/
structure OutboundCall where
  instanceId : String
  contactFlowId : String
  destinationPhoneNumber : String
  sourcePhoneNumber : String
  attributes : StringMap
  deriving DecidableEq

/-- The updates of a Response row by ConnectDispatcher and CallEndHandler, which take the instant from the clock. -/
inductive RowUpdate where
  | recordSuccess (contactId : String)
  | recordError
  | recordCallEnd (code : String)
  deriving DecidableEq

def RowUpdate.write (now : Instant) : RowUpdate → RowWrite
  | recordSuccess contactId => .recordSuccess contactId now
  | recordError => .recordError now
  | recordCallEnd code => .recordCallEnd code now

/-- What the two lambdas of an outbound call ask of AWS. -/
inductive ConnectCall where
  | startOutboundVoiceContact (outbound : OutboundCall)
  | sleep (tryIdx : Nat)
  | updateResponse (key : String × String) (update : RowUpdate)
  | putObject (bucket key : String)
  | sendTaskSuccess (taskToken : String) (output : Value)

abbrev ConnectCall.Reply : ConnectCall → Type
  | startOutboundVoiceContact _ => Value
  | _ => Unit

abbrev ConnectLambda := Program ConnectCall ConnectCall.Reply PyError

abbrev ConnectCall.perform (c : ConnectCall) : ConnectLambda c.Reply := Program.perform c

/-- A string among the parameters of a call, which botocore validates. -/
def parameterStr (v : Value) : Except PyError String := RecordingRelocator.requireStr "ParamValidationError" v

/-- A string of the key of a row. Nothing else is one, and a float is not even sent. -/
def keyStr : Value → Except PyError String
  | .str s => .ok s
  | .float _ => .error (.typeError "Float types are not supported. Use Decimal types instead.")
  | _ => .error (.clientError "ValidationException")

def conditionalCheckFailed : PyError → Bool
  | .clientError code => code == "ConditionalCheckFailedException"
  | _ => false

namespace ConnectDispatcher

/-- The environment of the lambda. `mockMode` is what `_MOCK_MODE_ENABLED` comes to, and `digestByte` the first byte of the
SHA-256 digest. -/
structure Settings where
  mockMode : Bool
  connectInstanceId : String
  outboundContactFlowId : String
  outboundPhoneNumber : String
  recordingsBucketName : String
  digestByte : String → Nat

/-! ### Input -/

def requiredInputKeys : List String := ["cycleId", "employeeId", "phoneNumber", "attempt", "taskToken"]

/-- The fields of the event. Only `attempt` is checked for its type, and `True` passes as `1`. -/
structure Parsed where
  cycleId : Value
  employeeId : Value
  phoneNumber : Value
  attempt : Value
  taskToken : Value

/-- `event.get(key)` is falsy. -/
def lacks (event : Value) (key : String) : Bool := !((event.get? key).getD .none).truthy

def missingKeys (event : Value) : List String :=
  requiredInputKeys.filter (fun key => key != "attempt" && lacks event key) ++
    if (event.get? "attempt").isNone then ["attempt"] else []

def isPositiveInt (v : Value) : Bool := v.asInt?.any fun n => decide (1 ≤ n)

def parseEvent (event : Value) : Except PyError Parsed := do
  require (Transcript.isDict event = true) (.valueError "event must be a JSON object")
  require (missingKeys event = [])
    (.valueError "missing required input keys:" (some (.list ((missingKeys event).map .str))))
  let field := fun key => (event.get? key).getD .none
  require (isPositiveInt (field "attempt") = true)
    (.valueError "attempt must be a positive integer; got" (some (field "attempt")))
  return {
    cycleId := field "cycleId"
    employeeId := field "employeeId"
    phoneNumber := field "phoneNumber"
    attempt := field "attempt"
    taskToken := field "taskToken" }

/-- `str(attempt)`. -/
def attemptText : Value → String
  | .bool b => if b then "True" else "False"
  | v => toString (v.asInt?.getD 0)

/-! ### The call -/

def maxDispatchAttempts : Nat := 3

def retryableErrorCodes : List String := ["ThrottlingException", "LimitExceededException"]

def isRetryable : PyError → Bool
  | .clientError code => retryableErrorCodes.contains code
  | _ => false

def outboundCall (settings : Settings) (parsed : Parsed) : Except PyError OutboundCall := do
  let destinationPhoneNumber ← parameterStr parsed.phoneNumber
  let cycleId ← parameterStr parsed.cycleId
  let employeeId ← parameterStr parsed.employeeId
  let taskToken ← parameterStr parsed.taskToken
  return {
    instanceId := settings.connectInstanceId
    contactFlowId := settings.outboundContactFlowId
    destinationPhoneNumber
    sourcePhoneNumber := settings.outboundPhoneNumber
    attributes := [("cycleId", cycleId), ("employeeId", employeeId), ("attempt", attemptText parsed.attempt),
      ("taskToken", taskToken)] }

def contactIdOf (resp : Value) : Except PyError String :=
  match resp.get? "ContactId" with
  | some (.str contactId) =>
    if contactId = "" then .error (.valueError "StartOutboundVoiceContact returned no ContactId:" (some resp))
    else .ok contactId
  | _ => .error (.valueError "StartOutboundVoiceContact returned no ContactId:" (some resp))

/-- One try of the loop. -/
def dial (outbound : OutboundCall) : ConnectLambda String := do
  let resp ← ConnectCall.perform (.startOutboundVoiceContact outbound)
  Program.ofExcept (contactIdOf resp)

/-- `_start_outbound_call`, with `none` for `_DispatchExhaustedError`. -/
def startOutboundCall (settings : Settings) (parsed : Parsed) : ConnectLambda (Option String) := do
  let outbound ← Program.ofExcept (outboundCall settings parsed)
  Program.retrying isRetryable (dial outbound) (fun tryIdx => ConnectCall.perform (.sleep tryIdx)) 0 maxDispatchAttempts

/-! ### The writes -/

def responseKey (parsed : Parsed) : Except PyError (String × String) := do
  let cycleId ← keyStr parsed.cycleId
  let employeeId ← keyStr parsed.employeeId
  return (cycleId, employeeId)

def recordSuccess (parsed : Parsed) (contactId : String) : ConnectLambda Unit := do
  let key ← Program.ofExcept (responseKey parsed)
  ConnectCall.perform (.updateResponse key (.recordSuccess contactId))

def recordError (parsed : Parsed) : ConnectLambda Unit := do
  let key ← Program.ofExcept (responseKey parsed)
  Program.tryCatch (ConnectCall.perform (.updateResponse key .recordError)) fun e =>
    if conditionalCheckFailed e then return () else throw e

def sendTaskSuccess (parsed : Parsed) (output : Value) : ConnectLambda Unit := do
  let taskToken ← Program.ofExcept (parameterStr parsed.taskToken)
  ConnectCall.perform (.sendTaskSuccess taskToken output)

/-- The output of `_send_retry_task_success`. -/
def dispatchFailed : Value := .dict [("retry", .bool true), ("reason", .str "DISPATCH_FAILED")]

def answer (status : String) (contactId : Value) (retry : Bool) : Value :=
  .dict [("status", .str status), ("contactId", contactId), ("retry", .bool retry)]

/-! ### The mock -/

def mockContactId (key : String × String) (attempt : String) : String := "mock-" ++ key.1 ++ "-" ++ key.2 ++ "-" ++ attempt

/-- `derive_target_outbound_key` on the fields of the event. -/
def mockRecordingKey (parsed : Parsed) : Except PyError String :=
  match parsed.cycleId, parsed.employeeId, parsed.attempt with
  | .str cycleId, .str employeeId, .int seq => Recording.deriveTargetOutboundKey cycleId employeeId seq
  | .str _, .str _, seq => .error (.valueError "seq must be a non-negative int; got" (some seq))
  | .str _, employeeId, _ =>
    .error (.valueError "employee_id must be a non-empty string without '/'; got" (some employeeId))
  | cycleId, _, _ => .error (.valueError "cycle_id must be a non-empty string without '/'; got" (some cycleId))

def mockResponse (settings : Settings) (parsed : Parsed) : Except PyError (String × Option String) :=
  match parsed.employeeId with
  | .str employeeId => TranscribeStarter.deriveMockResponse settings.digestByte employeeId
  | employeeId => .error (.valueError ("employee_id must be str; got " ++ employeeId.typeName))

/-- The output of `_send_mock_task_success`. -/
def mockOutput (contactId callResultCode : String) (retry : Bool) : Value :=
  .dict [("retry", .bool retry), ("contactId", .str contactId), ("callResultCode", .str callResultCode)]

def dispatchMock (settings : Settings) (parsed : Parsed) : ConnectLambda Value := do
  let (callResultCode, _) ← Program.ofExcept (mockResponse settings parsed)
  if callResultCode = "RECORDED" then do
    let recordingKey ← Program.ofExcept (mockRecordingKey parsed)
    ConnectCall.perform (.putObject settings.recordingsBucketName recordingKey)
  let retry := callResultCode != "RECORDED"
  let key ← Program.ofExcept (responseKey parsed)
  let contactId := mockContactId key (attemptText parsed.attempt)
  recordSuccess parsed contactId
  sendTaskSuccess parsed (mockOutput contactId callResultCode retry)
  return answer "ok" (.str contactId) retry

def lambdaHandler (settings : Settings) (event : Value) : ConnectLambda Value := do
  let parsed ← Program.ofExcept (parseEvent event)
  if settings.mockMode then dispatchMock settings parsed
  else do
    match ← startOutboundCall settings parsed with
    | none => do
      recordError parsed
      sendTaskSuccess parsed dispatchFailed
      return answer "error" .none true
    | some contactId => do
      recordSuccess parsed contactId
      return answer "ok" (.str contactId) false

/-! ### How far a run has come -/

/-- What a run works on once its event has been read. -/
structure Dispatch where
  outbound : OutboundCall
  key : String × String
  taskToken : String

def dispatchOf (settings : Settings) (event : Value) : Except PyError Dispatch := do
  let parsed ← parseEvent event
  let outbound ← outboundCall settings parsed
  let key ← responseKey parsed
  let taskToken ← parameterStr parsed.taskToken
  return { outbound, key, taskToken }

/-- A run that has failed raises; after `gaveUp` no call has been placed. -/
inductive Stage where
  | dialing (tryIdx : Nat)
  | pausing (tryIdx : Nat)
  | placed (contactId : String)
  | recorded (contactId : String)
  | exhausted
  | unreleased
  | released
  | failed
  | gaveUp
  deriving DecidableEq

namespace Stage

/-- The one call that is made next. -/
def call? (dispatch : Dispatch) : Stage → Option ConnectCall
  | dialing _ => some (.startOutboundVoiceContact dispatch.outbound)
  | pausing tryIdx => some (.sleep tryIdx)
  | placed contactId => some (.updateResponse dispatch.key (.recordSuccess contactId))
  | exhausted => some (.updateResponse dispatch.key .recordError)
  | unreleased => some (.sendTaskSuccess dispatch.taskToken dispatchFailed)
  | recorded _ | released | failed | gaveUp => none

/-- After a try that is to be retried. -/
def afterThrottle (tryIdx : Nat) : Stage := if tryIdx + 1 < maxDispatchAttempts then pausing tryIdx else exhausted

def afterDial (tryIdx : Nat) : Except PyError Value → Stage
  | .ok resp =>
    match contactIdOf resp with
    | .ok contactId => placed contactId
    | .error _ => failed
  | .error e => if isRetryable e then afterThrottle tryIdx else failed

def afterError : Except PyError Unit → Stage
  | .ok _ => unreleased
  | .error e => if conditionalCheckFailed e then unreleased else gaveUp

def advance : Stage → (c : ConnectCall) → Except PyError c.Reply → Stage
  | dialing tryIdx, .startOutboundVoiceContact _, result => afterDial tryIdx result
  | pausing tryIdx, .sleep _, .ok _ => dialing (tryIdx + 1)
  | placed contactId, .updateResponse .., .ok _ => recorded contactId
  | exhausted, .updateResponse .., result => afterError result
  | unreleased, .sendTaskSuccess .., .ok _ => released
  | unreleased, .sendTaskSuccess .., .error _ => gaveUp
  | _, _, _ => failed

/-- How a run ends. -/
def Ends : Except PyError Value → Stage → Prop
  | .ok v, recorded contactId => v = answer "ok" (.str contactId) false
  | .ok v, released => v = answer "error" .none true
  | .ok _, _ => False
  | .error _, stage => stage = dialing 0 ∨ stage = failed ∨ stage = gaveUp

end Stage

def protocol (settings : Settings) (event : Value) : Program.Spec ConnectCall ConnectCall.Reply PyError Stage where
  allowed stage c := ∃ dispatch, dispatchOf settings event = .ok dispatch ∧ stage.call? dispatch = some c
  advance := Stage.advance

variable {settings : Settings} {event : Value} {parsed : Parsed} {outbound : OutboundCall} {dispatch : Dispatch}

theorem parameterStr_eq_ok {v : Value} {s : String} (h : parameterStr v = .ok s) : v = .str s :=
  RecordingRelocator.requireStr_eq_ok h

/-- The fields of the event give what the run works on. -/
structure Reads (settings : Settings) (event : Value) (parsed : Parsed) (dispatch : Dispatch) : Prop where
  ok : dispatchOf settings event = .ok dispatch
  key : responseKey parsed = .ok dispatch.key
  taskToken : parameterStr parsed.taskToken = .ok dispatch.taskToken

/-- The strings that the call needs are those of the row and of the task. -/
theorem exists_reads (hparse : parseEvent event = .ok parsed) (houtbound : outboundCall settings parsed = .ok outbound) :
    ∃ dispatch, Reads settings event parsed dispatch ∧ dispatch.outbound = outbound := by
  have hread := houtbound
  obtain ⟨_, -, hread⟩ := bind_eq_ok.1 hread
  obtain ⟨cycleId, hcycle, hread⟩ := bind_eq_ok.1 hread
  obtain ⟨employeeId, hemployee, hread⟩ := bind_eq_ok.1 hread
  obtain ⟨taskToken, htoken, -⟩ := bind_eq_ok.1 hread
  have hkey : responseKey parsed = .ok (cycleId, employeeId) := by
    rw [responseKey, parameterStr_eq_ok hcycle, parameterStr_eq_ok hemployee]
    rfl
  refine ⟨{ outbound, key := (cycleId, employeeId), taskToken }, ⟨?_, hkey, htoken⟩, rfl⟩
  simp only [dispatchOf, hparse, houtbound, hkey, htoken, ok_bind]
  rfl

theorem dial_wp (hdispatch : dispatchOf settings event = .ok dispatch) (tryIdx : Nat) :
    (dial dispatch.outbound).wp (protocol settings event) (fun result stage =>
      match result with
      | .ok contactId => stage = .placed contactId
      | .error e => if isRetryable e then stage = .afterThrottle tryIdx else stage = .failed) (.dialing tryIdx) := by
  refine Program.wp_perform_bind ⟨dispatch, hdispatch, rfl⟩ (fun e _ => ?_) (fun resp _ => ?_)
  · show if isRetryable e then (if isRetryable e then Stage.afterThrottle tryIdx else .failed) = .afterThrottle tryIdx
      else (if isRetryable e then Stage.afterThrottle tryIdx else .failed) = .failed
    split <;> rfl
  · show (Program.ofExcept (contactIdOf resp)).wp _ _ (Stage.afterDial tryIdx (.ok resp))
    cases hid : contactIdOf resp with
    | ok contactId =>
      show Stage.afterDial tryIdx (.ok resp) = .placed contactId
      rw [Stage.afterDial, hid]
    | error e =>
      have hvalue : isRetryable e = false := by
        unfold contactIdOf at hid
        split at hid
        · split at hid <;> cases hid
          rfl
        · cases hid
          rfl
      show if isRetryable e then Stage.afterDial tryIdx (.ok resp) = _ else Stage.afterDial tryIdx (.ok resp) = .failed
      simp [hvalue, Stage.afterDial, hid]

theorem startOutboundCall_wp (hparse : parseEvent event = .ok parsed) :
    (startOutboundCall settings parsed).wp (protocol settings event) (fun result stage =>
      match result with
      | .ok none => stage = .exhausted ∧ ∃ dispatch, Reads settings event parsed dispatch
      | .ok (some contactId) => stage = .placed contactId ∧ ∃ dispatch, Reads settings event parsed dispatch
      | .error _ => stage = .dialing 0 ∨ stage = .failed) (.dialing 0) := by
  apply Program.wp_ofExcept_bind
  · intro e _
    exact .inl rfl
  · intro outbound houtbound
    obtain ⟨dispatch, hreads, rfl⟩ := exists_reads hparse houtbound
    apply @Program.wp_retrying _ _ _ _ _ _ _ _ (protocol settings event) _
      (fun tryIdx left stage => stage = .dialing tryIdx ∧ tryIdx + left + 1 = maxDispatchAttempts)
      (fun tryIdx left stage => stage = .afterThrottle tryIdx ∧ tryIdx + left + 1 = maxDispatchAttempts)
    · rintro tryIdx left stage ⟨rfl, hcount⟩
      apply Program.wp_mono ?_ (dial_wp hreads.ok tryIdx)
      intro result stage hresult
      cases result with
      | ok contactId => exact ⟨hresult, dispatch, hreads⟩
      | error e =>
        by_cases hretry : isRetryable e = true
        · simp only [hretry, if_true] at hresult ⊢
          exact ⟨hresult, hcount⟩
        · simp only [hretry, Bool.false_eq_true, if_false] at hresult ⊢
          exact .inr hresult
    · rintro tryIdx left stage ⟨rfl, hcount⟩
      have hpausing : Stage.afterThrottle tryIdx = .pausing tryIdx := if_pos (by omega)
      rw [hpausing]
      apply Program.wp_perform.2
      refine ⟨⟨dispatch, hreads.ok, rfl⟩, fun result _ => ?_⟩
      cases result with
      | ok _ => exact ⟨rfl, by omega⟩
      | error e => exact .inr rfl
    · rintro tryIdx stage ⟨rfl, hcount⟩
      exact ⟨if_neg (by omega), dispatch, hreads⟩
    · exact ⟨rfl, rfl⟩

theorem recordSuccess_wp (hreads : Reads settings event parsed dispatch) (contactId : String) :
    (recordSuccess parsed contactId).wp (protocol settings event) (fun result stage =>
      match result with
      | .ok _ => stage = .recorded contactId
      | .error _ => stage = .failed) (.placed contactId) := by
  rw [recordSuccess, hreads.key]
  apply Program.wp_perform.2
  refine ⟨⟨dispatch, hreads.ok, rfl⟩, fun result _ => ?_⟩
  cases result <;> rfl

theorem recordError_wp (hreads : Reads settings event parsed dispatch) :
    (recordError parsed).wp (protocol settings event) (fun result stage =>
      match result with
      | .ok _ => stage = .unreleased
      | .error _ => stage = .gaveUp) .exhausted := by
  rw [recordError, hreads.key]
  apply Program.wp_tryCatch.2
  apply Program.wp_perform.2
  refine ⟨⟨dispatch, hreads.ok, rfl⟩, fun result _ => ?_⟩
  cases result with
  | ok _ => rfl
  | error e =>
    show (if conditionalCheckFailed e then (return () : ConnectLambda Unit) else throw e).wp _ _
      (if conditionalCheckFailed e then Stage.unreleased else Stage.gaveUp)
    split <;> rfl

theorem sendTaskSuccess_wp (hreads : Reads settings event parsed dispatch) :
    (sendTaskSuccess parsed dispatchFailed).wp (protocol settings event) (fun result stage =>
      match result with
      | .ok _ => stage = .released
      | .error _ => stage = .gaveUp) .unreleased := by
  rw [sendTaskSuccess, hreads.taskToken]
  apply Program.wp_perform.2
  refine ⟨⟨dispatch, hreads.ok, rfl⟩, fun result _ => ?_⟩
  cases result <;> rfl

/-- Whatever is answered, a run that dials makes its calls in the order of the stages and ends as they say. -/
theorem lambdaHandler_wp (hreal : settings.mockMode = false) (event : Value) :
    (lambdaHandler settings event).wp (protocol settings event) Stage.Ends (.dialing 0) := by
  apply Program.wp_ofExcept_bind
  · intro e _
    exact .inl rfl
  · intro parsed hparse
    rw [hreal, if_neg Bool.false_ne_true]
    apply Program.wp_bind.2
    apply Program.wp_mono ?_ (startOutboundCall_wp hparse)
    intro result stage hresult
    cases result with
    | error e => exact hresult.imp_right .inl
    | ok dialled =>
      cases dialled with
      | some contactId =>
        obtain ⟨rfl, dispatch, hreads⟩ := hresult
        apply Program.wp_bind.2
        apply Program.wp_mono ?_ (recordSuccess_wp hreads contactId)
        intro result stage hrecorded
        cases result with
        | ok _ =>
          subst hrecorded
          rfl
        | error e => exact .inr (.inl hrecorded)
      | none =>
        obtain ⟨rfl, dispatch, hreads⟩ := hresult
        apply Program.wp_bind.2
        apply Program.wp_mono ?_ (recordError_wp hreads)
        intro result stage hwritten
        cases result with
        | error e => exact .inr (.inr hwritten)
        | ok _ =>
          subst hwritten
          apply Program.wp_bind.2
          apply Program.wp_mono ?_ (sendTaskSuccess_wp hreads)
          intro result stage hreleased
          cases result with
          | ok _ =>
            subst hreleased
            rfl
          | error e => exact .inr (.inr hreleased)

end ConnectDispatcher

end SafetyConfirmation
