import SafetyConfirmation.Connect.CallEnd
import SafetyConfirmation.Inbound.ContactFlow

/-!
# An outbound call, from its number to CallEndHandler

The outbound contact flow, and the way the fields of a Dispatch take through it: into the attributes of the contact as texts,
and out of them again where the flow invokes CallEndHandler. Every action of the flow may fail, and the employee may hang up.
-/

namespace SafetyConfirmation

namespace Outbound

open Checks FlowGraph

/-! ### The action graph -/

/-- The actions of the flow, in the order of their identifiers `01` to `06`. -/
inductive FlowAction where
  | setVoice
  | setRecording
  | playGuidance
  | waitForVoice
  | invokeCallEnd
  | disconnect
  deriving DecidableEq

def callEndParameters : StringMap := [("callResultCode", "RECORDED")]

def outboundFlow : FlowAction → Action FlowAction
  | .setVoice => { kind := .updateContactTextToSpeechVoice "Mizuki", nextAction := some .setRecording }
  | .setRecording => { kind := .updateContactRecordingBehavior "Both", nextAction := some .playGuidance }
  | .playGuidance => {
      kind := .messageParticipant "${OutboundGuidanceText}"
      nextAction := some .waitForVoice
      errors := [(.noMatchingError, .disconnect)] }
  | .waitForVoice => {
      kind := .wait 30
      nextAction := some .invokeCallEnd
      errors := [(.noMatchingError, .invokeCallEnd)] }
  | .invokeCallEnd => {
      kind := .invokeLambdaFunction callEndParameters
      nextAction := some .disconnect
      errors := [(.noMatchingError, .disconnect)] }
  | .disconnect => { kind := .disconnectParticipant }

/-- A contact in the flow, with what it was placed with. -/
structure Contact where
  outbound : OutboundCall
  current : Option FlowAction := some .setVoice
  recordingBehavior : Option String := none
  deriving DecidableEq

/-- The action the contact is at ends. -/
def Contact.leave (contact : Contact) (outcome : Outcome) : Contact :=
  match contact.current with
  | none => contact
  | some action =>
    { contact with
      current := (outboundFlow action).leave outcome
      recordingBehavior :=
        match (outboundFlow action).kind, outcome with
        | .updateContactRecordingBehavior behavior, .succeeded => some behavior
        | _, _ => contact.recordingBehavior }

/-- Past the action that sets the recording, the call is recorded. -/
def Contact.Recorded (contact : Contact) : Prop :=
  (contact.current = some .playGuidance ∨ contact.current = some .waitForVoice ∨
    contact.current = some .invokeCallEnd) → contact.recordingBehavior = some "Both"

theorem recorded_leave {contact : Contact} (h : contact.Recorded) (outcome : Outcome) : (contact.leave outcome).Recorded := by
  obtain ⟨outbound, current, recordingBehavior⟩ := contact
  cases current with
  | none => exact h
  | some action =>
    intro hcurrent
    cases action <;> cases outcome <;>
      simp_all [Contact.leave, Contact.Recorded, outboundFlow, Action.leave, List.lookup_cons]

/-! ### The fields of a Dispatch -/

/-- The item of an iteration that enters `Dispatch`, with its attempt. -/
structure DispatchInput where
  cycleId : String
  employeeId : String
  phoneNumber : String
  attempt : Nat
  deriving DecidableEq

namespace DispatchInput

def key (input : DispatchInput) : String × String := (input.cycleId, input.employeeId)

/-- The `Payload` of the state. -/
def event (input : DispatchInput) (taskToken : String) : Value :=
  .dict [("cycleId", .str input.cycleId), ("employeeId", .str input.employeeId), ("phoneNumber", .str input.phoneNumber),
    ("attempt", .int input.attempt), ("taskToken", .str taskToken)]

/-- What ConnectDispatcher does not refuse. -/
structure Complete (input : DispatchInput) (taskToken : String) : Prop where
  cycleId : input.cycleId ≠ ""
  employeeId : input.employeeId ≠ ""
  phoneNumber : input.phoneNumber ≠ ""
  attempt : 1 ≤ input.attempt
  taskToken : taskToken ≠ ""

def outbound (settings : ConnectDispatcher.Settings) (input : DispatchInput) (taskToken : String) : OutboundCall where
  instanceId := settings.connectInstanceId
  contactFlowId := settings.outboundContactFlowId
  destinationPhoneNumber := input.phoneNumber
  sourcePhoneNumber := settings.outboundPhoneNumber
  attributes := [("cycleId", input.cycleId), ("employeeId", input.employeeId), ("attempt", toString (input.attempt : Int)),
    ("taskToken", taskToken)]

end DispatchInput

theorem truthy_str {s : String} : (Value.str s).truthy = true ↔ s ≠ "" := bne_iff_ne

variable {settings : ConnectDispatcher.Settings} {input : DispatchInput} {taskToken contactId : String}

theorem missingKeys_event : ConnectDispatcher.missingKeys (input.event taskToken) = [] ↔
    input.cycleId ≠ "" ∧ input.employeeId ≠ "" ∧ input.phoneNumber ≠ "" ∧ taskToken ≠ "" := by
  have hlacks : ∀ {key s : String}, (input.event taskToken).get? key = some (.str s) →
      (ConnectDispatcher.lacks (input.event taskToken) key = false ↔ s ≠ "") := by
    intro key s hget
    rw [ConnectDispatcher.lacks, hget, Option.getD_some, Bool.not_eq_false', truthy_str]
  have hcycle := @hlacks "cycleId" input.cycleId (by simp [DispatchInput.event, Value.get?])
  have hemployee := @hlacks "employeeId" input.employeeId (by simp [DispatchInput.event, Value.get?, List.lookup_cons])
  have hphone := @hlacks "phoneNumber" input.phoneNumber (by simp [DispatchInput.event, Value.get?, List.lookup_cons])
  have htoken := @hlacks "taskToken" taskToken (by simp [DispatchInput.event, Value.get?, List.lookup_cons])
  have hattempt : (input.event taskToken).get? "attempt" = some (.int input.attempt) := by
    simp [DispatchInput.event, Value.get?, List.lookup_cons]
  simp [ConnectDispatcher.missingKeys, ConnectDispatcher.requiredInputKeys, hattempt, hcycle, hemployee, hphone, htoken]

def DispatchInput.parsed (input : DispatchInput) (taskToken : String) : ConnectDispatcher.Parsed where
  cycleId := .str input.cycleId
  employeeId := .str input.employeeId
  phoneNumber := .str input.phoneNumber
  attempt := .int input.attempt
  taskToken := .str taskToken

theorem parseEvent_event {parsed : ConnectDispatcher.Parsed} :
    ConnectDispatcher.parseEvent (input.event taskToken) = .ok parsed ↔
      input.Complete taskToken ∧ parsed = input.parsed taskToken := by
  have hattempt : ((input.event taskToken).get? "attempt").getD .none = .int input.attempt := by
    simp [DispatchInput.event, Value.get?, List.lookup_cons]
  have hpositive : ConnectDispatcher.isPositiveInt (.int input.attempt) = true ↔ 1 ≤ input.attempt := by
    simp only [ConnectDispatcher.isPositiveInt, Value.asInt?, Option.any_some, decide_eq_true_eq]
    omega
  have hdict : Transcript.isDict (input.event taskToken) = true := rfl
  simp only [ConnectDispatcher.parseEvent, bind_eq_ok, require_eq_ok, exists_and_left, exists_const, missingKeys_event,
    hattempt, hpositive, hdict, true_and, pure_eq_ok, Except.ok.injEq]
  constructor
  · rintro ⟨⟨hcycle, hemployee, hphone, htoken⟩, hattempt, rfl⟩
    exact ⟨⟨hcycle, hemployee, hphone, hattempt, htoken⟩, rfl⟩
  · rintro ⟨h, rfl⟩
    exact ⟨⟨h.cycleId, h.employeeId, h.phoneNumber, h.taskToken⟩, h.attempt, rfl⟩

theorem dispatchOf_event {dispatch : ConnectDispatcher.Dispatch} :
    ConnectDispatcher.dispatchOf settings (input.event taskToken) = .ok dispatch ↔ input.Complete taskToken ∧
      dispatch = { outbound := input.outbound settings taskToken, key := input.key, taskToken } := by
  simp only [ConnectDispatcher.dispatchOf, bind_eq_ok, parseEvent_event]
  constructor
  · rintro ⟨parsed, ⟨hcomplete, rfl⟩, outbound, houtbound, key, hkey, token, htoken, hdispatch⟩
    cases houtbound
    cases hkey
    cases htoken
    cases hdispatch
    exact ⟨hcomplete, rfl⟩
  · rintro ⟨hcomplete, rfl⟩
    exact ⟨input.parsed taskToken, ⟨hcomplete, rfl⟩, _, rfl, _, rfl, _, rfl, rfl⟩

/-- The event that Connect invokes a lambda of a flow with. -/
def contactFlowEvent (contactId : String) (attributes parameters : StringMap) : Value :=
  .dict [("Details", .dict [
    ("ContactData", .dict [("ContactId", .str contactId), ("Attributes", Inbound.stringMapValue attributes)]),
    ("Parameters", Inbound.stringMapValue parameters)]), ("Name", .str "ContactFlowEvent")]

/-- The flat event of such a contact. -/
def DispatchInput.callEndEvent (input : DispatchInput) (taskToken contactId : String) : Value :=
  .dict [("contactId", .str contactId), ("cycleId", .str input.cycleId), ("employeeId", .str input.employeeId),
    ("attempt", .str (toString (input.attempt : Int))), ("taskToken", .str taskToken), ("callResultCode", .str "RECORDED")]

theorem normalizeConnectEvent_contactFlowEvent : CallEndHandler.normalizeConnectEvent
    (contactFlowEvent contactId (input.outbound settings taskToken).attributes callEndParameters) =
      .ok (input.callEndEvent taskToken contactId) := rfl

/-- What CallEndHandler reads of a contact is what ConnectDispatcher was started with. -/
theorem parseEvent_contactFlowEvent (h : input.Complete taskToken) (hid : contactId ≠ "") :
    CallEndHandler.parseEvent (contactFlowEvent contactId (input.outbound settings taskToken).attributes callEndParameters) =
      .ok {
        contactId := .str contactId
        cycleId := .str input.cycleId
        employeeId := .str input.employeeId
        attempt := input.attempt
        callResultCode := "RECORDED"
        taskToken := .str taskToken } := by
  have hdict : Transcript.isDict
      (contactFlowEvent contactId (input.outbound settings taskToken).attributes callEndParameters) = true := rfl
  have hmissing : CallEndHandler.missingKeys (input.callEndEvent taskToken contactId) = [] := by
    have hlacks : ∀ {key s : String}, (input.callEndEvent taskToken contactId).get? key = some (.str s) → s ≠ "" →
        ConnectDispatcher.lacks (input.callEndEvent taskToken contactId) key = false := by
      intro key s hget hs
      rw [ConnectDispatcher.lacks, hget, Option.getD_some, Bool.not_eq_false', truthy_str]
      exact hs
    have hattempt : toString (input.attempt : Int) ≠ "" := by
      intro hempty
      have hread := Decimals.intOf_toString input.attempt
      rw [hempty] at hread
      cases hread
    rw [CallEndHandler.missingKeys, List.filter_eq_nil_iff]
    intro key hkey
    simp only [CallEndHandler.requiredInputKeys, List.mem_cons, List.not_mem_nil, or_false] at hkey
    rw [Bool.not_eq_true]
    obtain rfl | rfl | rfl | rfl | rfl | rfl := hkey
    · exact hlacks rfl hid
    · exact hlacks rfl h.cycleId
    · exact hlacks rfl h.employeeId
    · exact hlacks rfl hattempt
    · exact @hlacks _ "RECORDED" rfl (by decide)
    · exact hlacks rfl h.taskToken
  have hattempt : CallEndHandler.intOf? (((input.callEndEvent taskToken contactId).get? "attempt").getD .none) =
      some (input.attempt : Int) := Decimals.intOf_toString input.attempt
  have hpositive : (1 : Int) ≤ input.attempt := by
    have := h.attempt
    omega
  rw [CallEndHandler.parseEvent, require_of hdict, ok_bind, normalizeConnectEvent_contactFlowEvent, ok_bind,
    require_of hmissing, ok_bind]
  simp only [hattempt, demand_some, ok_bind, require_of hpositive]
  rfl

end Outbound

end SafetyConfirmation
