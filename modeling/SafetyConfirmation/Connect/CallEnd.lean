import SafetyConfirmation.Connect.Dispatcher
import SafetyConfirmation.Lib.Decimals

/-!
# The CallEndHandler lambda

One run for the end of an outbound call: record its result, unless the row has one, and release the task of the call. The
event comes from the contact flow, and `attempt` is a text there.
-/

namespace SafetyConfirmation

namespace CallEndHandler

open Checks FlowGraph

/-! ### Input -/

def requiredInputKeys : List String := ["contactId", "cycleId", "employeeId", "attempt", "callResultCode", "taskToken"]

def validCallResultCodes : List String := ["RECORDED", "NO_ANSWER", "BUSY", "VOICEMAIL", "ERROR", "TRANSCRIBE_FAILED"]

structure Parsed where
  contactId : Value
  cycleId : Value
  employeeId : Value
  attempt : Int
  callResultCode : String
  taskToken : Value

/-- The nested event of a contact flow as a flat one. Anything else is returned as it is. -/
def normalizeConnectEvent (event : Value) : Except PyError Value :=
  match event.get? "Details" with
  | some (.dict details) =>
    match details.lookup "ContactData" with
    | some (.dict contactData) => do
      let attributes := (contactData.lookup "Attributes").getD .none
      let parameters := (details.lookup "Parameters").getD .none
      let cycleId ← attributes.getOrEmpty "cycleId"
      let employeeId ← attributes.getOrEmpty "employeeId"
      let attempt ← attributes.getOrEmpty "attempt"
      let taskToken ← attributes.getOrEmpty "taskToken"
      let callResultCode ← parameters.getOrEmpty "callResultCode"
      return .dict [("contactId", (contactData.lookup "ContactId").getD .none), ("cycleId", cycleId),
        ("employeeId", employeeId), ("attempt", attempt), ("taskToken", taskToken), ("callResultCode", callResultCode)]
    | _ => .ok event
  | _ => .ok event

def missingKeys (event : Value) : List String := requiredInputKeys.filter (ConnectDispatcher.lacks event)

/-- `int(v)`, `none` for a `TypeError` or a `ValueError`. A fraction is cut off. -/
def intOf? : Value → Option Int
  | .str s => Decimals.intOf s.toList
  | .float q | .decimal q => some (q.num.tdiv q.den)
  | v => v.asInt?

def parseEvent (event : Value) : Except PyError Parsed := do
  require (Transcript.isDict event = true) (.valueError "event must be a JSON object")
  let event ← normalizeConnectEvent event
  require (missingKeys event = [])
    (.valueError "missing required input keys:" (some (.list ((missingKeys event).map .str))))
  let field := fun key => (event.get? key).getD .none
  let attempt ← demand (intOf? (field "attempt"))
    (.valueError "attempt must be an integer (string-coercible); got" (some (field "attempt")))
  require (1 ≤ attempt) (.valueError "attempt must be a positive integer; got" (some (.int attempt)))
  (field "callResultCode").requireHashable
  let callResultCode ← demand ((field "callResultCode").asStr?.filter validCallResultCodes.contains) (.valueError
    "callResultCode must be one of ['BUSY', 'ERROR', 'NO_ANSWER', 'RECORDED', 'TRANSCRIBE_FAILED', 'VOICEMAIL']; got"
    (some (field "callResultCode")))
  return {
    contactId := field "contactId"
    cycleId := field "cycleId"
    employeeId := field "employeeId"
    attempt
    callResultCode
    taskToken := field "taskToken" }

/-! ### The writes -/

def responseKey (parsed : Parsed) : Except PyError (String × String) := do
  let cycleId ← keyStr parsed.cycleId
  let employeeId ← keyStr parsed.employeeId
  return (cycleId, employeeId)

def recordCallEnd (parsed : Parsed) : ConnectLambda Unit := do
  let key ← Program.ofExcept (responseKey parsed)
  Program.tryCatch (ConnectCall.perform (.updateResponse key (.recordCallEnd parsed.callResultCode))) fun e =>
    if conditionalCheckFailed e then return () else throw e

def callEndOutput (contactId : Value) (callResultCode : String) : Value :=
  .dict [("retry", .bool false), ("contactId", contactId), ("callResultCode", .str callResultCode)]

def sendTaskSuccess (parsed : Parsed) : ConnectLambda Unit := do
  let taskToken ← Program.ofExcept (parameterStr parsed.taskToken)
  ConnectCall.perform (.sendTaskSuccess taskToken (callEndOutput parsed.contactId parsed.callResultCode))

def answer (contactId : Value) (callResultCode : String) : Value :=
  .dict [("status", .str "ok"), ("contactId", contactId), ("callResultCode", .str callResultCode)]

def lambdaHandler (event : Value) : ConnectLambda Value := do
  let parsed ← Program.ofExcept (parseEvent event)
  recordCallEnd parsed
  sendTaskSuccess parsed
  return answer parsed.contactId parsed.callResultCode

/-! ### How far a run has come -/

inductive Stage where
  | recording
  | releasing
  | released
  | failed
  deriving DecidableEq

namespace Stage

/-- The one call that is made next. -/
def MayCall (parsed : Parsed) (stage : Stage) (c : ConnectCall) : Prop :=
  match stage with
  | recording => ∃ key, responseKey parsed = .ok key ∧ c = .updateResponse key (.recordCallEnd parsed.callResultCode)
  | releasing => ∃ taskToken, parsed.taskToken = .str taskToken ∧
      c = .sendTaskSuccess taskToken (callEndOutput parsed.contactId parsed.callResultCode)
  | released | failed => False

def afterRecord : Except PyError Unit → Stage
  | .ok _ => releasing
  | .error e => if conditionalCheckFailed e then releasing else failed

def advance : Stage → (c : ConnectCall) → Except PyError c.Reply → Stage
  | recording, .updateResponse .., result => afterRecord result
  | releasing, .sendTaskSuccess .., .ok _ => released
  | _, _, _ => failed

end Stage

theorem Stage.afterRecord_ne_released (result : Except PyError Unit) : Stage.afterRecord result ≠ .released := by
  cases result with
  | ok _ =>
    rw [Stage.afterRecord]
    decide
  | error e =>
    rw [Stage.afterRecord]
    split <;> decide

def protocol (event : Value) : Program.Spec ConnectCall ConnectCall.Reply PyError Stage where
  allowed stage c := ∃ parsed, parseEvent event = .ok parsed ∧ stage.MayCall parsed c
  advance := Stage.advance

/-- A run that returns has released its task, and says of which call. -/
def Ends (event : Value) : Except PyError Value → Stage → Prop
  | .ok v, stage => stage = .released ∧
      ∃ parsed, parseEvent event = .ok parsed ∧ v = answer parsed.contactId parsed.callResultCode
  | .error _, stage => stage ≠ .released

variable {event : Value} {parsed : Parsed}

theorem recordCallEnd_wp (hparse : parseEvent event = .ok parsed) :
    (recordCallEnd parsed).wp (protocol event) (fun result stage =>
      match result with
      | .ok _ => stage = .releasing
      | .error _ => stage ≠ .released) .recording := by
  apply Program.wp_ofExcept_bind
  · intro e _
    show Stage.recording ≠ Stage.released
    decide
  · intro key hkey
    apply Program.wp_tryCatch.2
    apply Program.wp_perform.2
    refine ⟨⟨parsed, hparse, key, hkey, rfl⟩, fun result _ => ?_⟩
    cases result with
    | ok _ => rfl
    | error e =>
      show (if conditionalCheckFailed e then (return () : ConnectLambda Unit) else throw e).wp _ _
        (if conditionalCheckFailed e then Stage.releasing else Stage.failed)
      split
      · rfl
      · show Stage.failed ≠ Stage.released
        decide

theorem sendTaskSuccess_wp (hparse : parseEvent event = .ok parsed) :
    (sendTaskSuccess parsed).wp (protocol event) (fun result stage =>
      match result with
      | .ok _ => stage = .released
      | .error _ => stage ≠ .released) .releasing := by
  apply Program.wp_ofExcept_bind
  · intro e _
    show Stage.releasing ≠ Stage.released
    decide
  · intro taskToken htoken
    apply Program.wp_perform.2
    refine ⟨⟨parsed, hparse, taskToken, ConnectDispatcher.parameterStr_eq_ok htoken, rfl⟩, fun result _ => ?_⟩
    cases result with
    | ok _ => rfl
    | error e =>
      show Stage.failed ≠ Stage.released
      decide

/-- Whatever is answered, a run records its result and then releases its task, and it returns only where it has done so. -/
theorem lambdaHandler_wp (event : Value) : (lambdaHandler event).wp (protocol event) (Ends event) .recording := by
  apply Program.wp_ofExcept_bind
  · intro e _
    show Stage.recording ≠ Stage.released
    decide
  · intro parsed hparse
    apply Program.wp_bind.2
    apply Program.wp_mono ?_ (recordCallEnd_wp hparse)
    intro result stage hrecorded
    cases result with
    | error e => exact hrecorded
    | ok _ =>
      subst hrecorded
      apply Program.wp_bind.2
      apply Program.wp_mono ?_ (sendTaskSuccess_wp hparse)
      intro result stage hreleased
      cases result with
      | error e => exact hreleased
      | ok _ => exact ⟨hreleased, parsed, hparse, rfl⟩

end CallEndHandler

end SafetyConfirmation
