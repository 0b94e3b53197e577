import SafetyConfirmation.Lib.FlowGraph
import SafetyConfirmation.Employee.LoadTargets
import SafetyConfirmation.Inbound.Contact

/-!
# The InboundHandler lambda

The two steps an inbound call invokes it with: identify finds the caller and the cycle the call belongs to, and
finalize links the recording and appends `INBOUND` to the Response row of an `ACTIVE_CYCLE` call.
-/

namespace SafetyConfirmation

namespace Inbound

open KeyedStore Checks FlowGraph

/-- The tables of the lambda. A Response row is keyed by `cycleId` and `employeeId`. -/
structure Tables where
  employees : Store String Employee := ∅
  cycles : Store String Cycle := ∅
  responses : Store (String × String) Response := ∅
  inboundContacts : Store String InboundContact := ∅

/-! ### Input -/

/-- `_normalize_connect_event`: an event that is not Connect's is left as it is. -/
def normalizeConnectEvent (event : Value) : Except PyError Value :=
  match event.get? "Details" with
  | some (.dict details) =>
    match details.lookup "ContactData" with
    | some (.dict contactData) => do
      let attributes := (contactData.lookup "Attributes").getD .none
      let parameters := (details.lookup "Parameters").getD .none
      let customerEndpoint := (contactData.lookup "CustomerEndpoint").getD .none
      let step ← parameters.getOrEmpty "step"
      let callerNumber ← customerEndpoint.getOrEmpty "Address"
      let flow ← attributes.getOrEmpty "flow"
      let employeeId ← attributes.getOrEmpty "employeeId"
      let cycleId ← attributes.getOrEmpty "cycleId"
      return .dict [("step", step), ("contactId", (contactData.lookup "ContactId").getD .none),
        ("callerNumber", callerNumber), ("flow", flow), ("employeeId", employeeId), ("cycleId", cycleId)]
    | _ => return event
  | _ => return event

def requireString (message : String) (v : Value) : Except PyError String :=
  match v with
  | .str s => if s = "" then .error (.valueError message (some v)) else .ok s
  | v => .error (.valueError message (some v))

theorem requireString_eq_ok {message s : String} {v : Value} (h : requireString message v = .ok s) :
    v = .str s ∧ s ≠ "" := by
  unfold requireString at h
  split at h
  · split at h
    · cases h
    · cases h
      exact ⟨rfl, ‹_›⟩
  · cases h

def field (event : Value) (key : String) : Value := (event.get? key).getD .none

def parseIdentifyEvent (event : Value) : Except PyError (String × String) := do
  let contactId ← requireString "identify: contactId is required (non-empty str); got" (field event "contactId")
  let callerNumber ←
    requireString "identify: callerNumber is required (non-empty str); got" (field event "callerNumber")
  require (callerNumber.toList.head? = some '+')
    (.valueError "identify: callerNumber must start with '+' (E.164); got" (some (.str callerNumber)))
  return (contactId, callerNumber)

/-- What finalize is asked for. The two ids are those of an `ACTIVE_CYCLE` call. -/
structure FinalizeEvent where
  contactId : String
  flow : InboundFlow
  employeeId : String := ""
  cycleId : String := ""

def parseFlow (flow : Value) : Except PyError InboundFlow := do
  flow.requireHashable
  match flow.asStr?.bind InboundFlow.ofName? with
  | some flow => return flow
  | none => .error (.valueError
      "finalize: flow must be one of ['ACTIVE_CYCLE', 'CYCLE_TERMINATED', 'NOT_REGISTERED', 'NO_CYCLE']; got" (some flow))

def parseFinalizeEvent (event : Value) : Except PyError FinalizeEvent := do
  let contactId ← requireString "finalize: contactId is required (non-empty str); got" (field event "contactId")
  let flow ← parseFlow (field event "flow")
  if flow = .activeCycle then do
    let employeeId ← requireString "finalize: employeeId is required for ACTIVE_CYCLE; got" (field event "employeeId")
    let cycleId ← requireString "finalize: cycleId is required for ACTIVE_CYCLE; got" (field event "cycleId")
    return { contactId, flow, employeeId, cycleId }
  else return { contactId, flow }

/-! ### The identify step -/

/-- `_lookup_employee_by_phone`: the first visible row of the phone number's index entry. -/
def lookupEmployeeByPhone (employees : Store String Employee) (callerNumber : String) : Option (String × Employee) :=
  (employees.rows.filter fun entry => (entry.2.phoneNumber.bind Value.asStr?) == some callerNumber).find? fun entry =>
    isVisible entry.2

/-- The answer of identify: the ids only for an `ACTIVE_CYCLE` call, which has both. -/
def identifyAnswer (flow : InboundFlow) (employeeId cycleId : Option String) : Except PyError StringMap :=
  if flow = .activeCycle then
    match employeeId, cycleId with
    | some employeeId, some cycleId =>
      .ok [("flow", flow.name), ("employeeId", employeeId), ("cycleId", cycleId)]
    | _, _ => .error (.other "AssertionError")
  else .ok [("flow", flow.name)]

def handleIdentify (windowDays : Int) (now : Instant) (event : Value) (tables : Tables) :
    Except PyError StringMap × Tables :=
  match parseIdentifyEvent event with
  | .error e => (.error e, tables)
  | .ok (contactId, callerNumber) =>
    let employee := lookupEmployeeByPhone tables.employees callerNumber
    let cycles := if employee.isSome then queryRecentCycles tables.cycles else []
    match decideInboundFlow employee.isSome cycles now windowDays with
    | .error e => (.error e, tables)
    | .ok (flow, cycleId) =>
      let employeeId := employee.map Prod.fst
      (identifyAnswer flow employeeId cycleId,
        { tables with
          inboundContacts := tables.inboundContacts.write contactId
            (InboundContact.putProvisional now callerNumber flow employeeId cycleId) })

/-! ### The finalize step -/

/-- `_append_inbound_to_response`: put the row where it is missing, then append to it. -/
def appendInboundToResponse (responses : Store (String × String) Response) (cycleId employeeId : String) :
    Store (String × String) Response :=
  (responses.write (cycleId, employeeId) Response.putInbound).write (cycleId, employeeId) Response.appendInbound

/-- An UpdateItem of the Inbound_Contact row; its condition failing is a `ClientError`. -/
def finalizeInboundContact (contactId : String) (flow : InboundFlow) (completion : InboundContact.Completion)
    (answer : StringMap) (tables : Tables) : Except PyError StringMap × Tables :=
  let update := InboundContact.complete flow completion
  if update.condition (tables.inboundContacts.lookup contactId) then
    (.ok answer, { tables with inboundContacts := tables.inboundContacts.write contactId update })
  else (.error (.clientError "ConditionalCheckFailedException"), tables)

/-- `inbound/{yyyymm}/{employee_id}/{contact_id}` and an extension. -/
def inboundKey (now : Instant) (employeeId contactId extension : String) : String :=
  "inbound/" ++ now.formatYyyymm ++ "/" ++ employeeId ++ "/" ++ contactId ++ extension

def handleFinalize (now : Instant) (event : Value) (tables : Tables) : Except PyError StringMap × Tables :=
  match parseFinalizeEvent event with
  | .error e => (.error e, tables)
  | .ok { contactId, flow, employeeId, cycleId } =>
    if flow = .activeCycle then
      finalizeInboundContact contactId flow {
          employeeId := some employeeId
          recordingS3Key := some (inboundKey now employeeId contactId ".wav")
          transcriptS3Key := some (inboundKey now employeeId contactId ".json")
          callResultCode := "RECORDED"
          voiceStatus := some .pending }
        [("status", "ok"), ("flow", flow.name), ("contactId", contactId), ("cycleId", cycleId),
          ("employeeId", employeeId)]
        { tables with responses := appendInboundToResponse tables.responses cycleId employeeId }
    else
      finalizeInboundContact contactId flow { callResultCode := "NO_RECORDING" }
        [("status", "ok"), ("flow", flow.name), ("contactId", contactId)] tables

def lambdaHandler (windowDays : Int) (now : Instant) (event : Value) (tables : Tables) :
    Except PyError StringMap × Tables :=
  match event with
  | .dict _ =>
    match normalizeConnectEvent event with
    | .error e => (.error e, tables)
    | .ok flat =>
      match field flat "step" with
      | .str "identify" => handleIdentify windowDays now flat tables
      | .str "finalize" => handleFinalize now flat tables
      | step => (.error (.valueError "step must be 'identify' or 'finalize'; got" (some step)), tables)
  | _ => (.error (.valueError "event must be a JSON object"), tables)

end Inbound

end SafetyConfirmation
