import SafetyConfirmation.Inbound.Handler

/-!
# Deliveries of an inbound contact

Connect may invoke the lambda again for the same contact, and every DynamoDB call of an invocation may fail. The steps
with the faults of their calls: without any they are those of the handler.
-/

namespace SafetyConfirmation

namespace Inbound

open KeyedStore FlowGraph

/-- A call that ends in an error other than a failed condition, and may have been applied all the same. -/
structure Fault where
  code : String
  applied : Bool
  ne_conditionalCheckFailed : code ≠ "ConditionalCheckFailedException"
  deriving DecidableEq

def Fault.error (fault : Fault) : PyError := .clientError fault.code

/-- The three calls of a finalize. -/
structure FinalizeFaults where
  putItem : Option Fault := none
  appendItem : Option Fault := none
  updateItem : Option Fault := none
  deriving DecidableEq

structure Faults where
  identify : Option Fault := none
  finalize : FinalizeFaults := {}
  deriving DecidableEq

/-- A step whose last call meets the fault, if it gets there. -/
def withFault (fault : Option Fault) (tables : Tables) (result : Except PyError StringMap × Tables) :
    Except PyError StringMap × Tables :=
  match fault with
  | none => result
  | some fault =>
    match result.1 with
    | .ok _ => (.error fault.error, if fault.applied then result.2 else tables)
    | .error _ => result

def handleIdentifyWith (fault : Option Fault) (windowDays : Int) (now : Instant) (event : Value) (tables : Tables) :
    Except PyError StringMap × Tables :=
  withFault fault tables (handleIdentify windowDays now event tables)

/-- `_append_inbound_to_response`, with the error it raises. -/
def appendInboundToResponseWith (faults : FinalizeFaults) (responses : Store (String × String) Response)
    (cycleId employeeId : String) : Option PyError × Store (String × String) Response :=
  let put := responses.write (cycleId, employeeId) Response.putInbound
  match faults.putItem with
  | some fault => (some fault.error, if fault.applied then put else responses)
  | none =>
    match faults.appendItem with
    | some fault => (some fault.error, if fault.applied then put.write (cycleId, employeeId) Response.appendInbound else put)
    | none => (none, put.write (cycleId, employeeId) Response.appendInbound)

def finalizeInboundContactWith (fault : Option Fault) (contactId : String) (flow : InboundFlow)
    (completion : InboundContact.Completion) (answer : StringMap) (tables : Tables) : Except PyError StringMap × Tables :=
  withFault fault tables (finalizeInboundContact contactId flow completion answer tables)

def activeCompletion (now : Instant) (contactId employeeId : String) : InboundContact.Completion where
  employeeId := some employeeId
  recordingS3Key := some (inboundKey now employeeId contactId ".wav")
  transcriptS3Key := some (inboundKey now employeeId contactId ".json")
  callResultCode := "RECORDED"
  voiceStatus := some .pending

/-- The `ACTIVE_CYCLE` branch of `_handle_finalize`. -/
def finalizeActive (faults : FinalizeFaults) (now : Instant) (contactId employeeId cycleId : String) (tables : Tables) :
    Except PyError StringMap × Tables :=
  match appendInboundToResponseWith faults tables.responses cycleId employeeId with
  | (some e, responses) => (.error e, { tables with responses })
  | (none, responses) =>
    finalizeInboundContactWith faults.updateItem contactId .activeCycle (activeCompletion now contactId employeeId)
      [("status", "ok"), ("flow", InboundFlow.activeCycle.name), ("contactId", contactId), ("cycleId", cycleId),
        ("employeeId", employeeId)]
      { tables with responses }

def handleFinalizeWith (faults : FinalizeFaults) (now : Instant) (event : Value) (tables : Tables) :
    Except PyError StringMap × Tables :=
  match parseFinalizeEvent event with
  | .error e => (.error e, tables)
  | .ok { contactId, flow, employeeId, cycleId } =>
    if flow = .activeCycle then finalizeActive faults now contactId employeeId cycleId tables
    else
      finalizeInboundContactWith faults.updateItem contactId flow { callResultCode := "NO_RECORDING" }
        [("status", "ok"), ("flow", flow.name), ("contactId", contactId)] tables

/-- `lambda_handler`, given its two steps. -/
def dispatch (identify finalize : Value → Except PyError StringMap × Tables) (event : Value) (tables : Tables) :
    Except PyError StringMap × Tables :=
  match event with
  | .dict _ =>
    match normalizeConnectEvent event with
    | .error e => (.error e, tables)
    | .ok flat =>
      match field flat "step" with
      | .str "identify" => identify flat
      | .str "finalize" => finalize flat
      | step => (.error (.valueError "step must be 'identify' or 'finalize'; got" (some step)), tables)
  | _ => (.error (.valueError "event must be a JSON object"), tables)

/-- One invocation of the lambda. -/
def deliver (faults : Faults) (windowDays : Int) (now : Instant) (event : Value) (tables : Tables) :
    Except PyError StringMap × Tables :=
  dispatch (fun flat => handleIdentifyWith faults.identify windowDays now flat tables)
    (fun flat => handleFinalizeWith faults.finalize now flat tables) event tables

/-! ### Without faults -/

theorem handleFinalizeWith_none (now : Instant) (event : Value) (tables : Tables) :
    handleFinalizeWith {} now event tables = handleFinalize now event tables := by
  rw [handleFinalizeWith, handleFinalize]
  cases parseFinalizeEvent event with
  | error e => rfl
  | ok parsed =>
    dsimp only
    split
    · rename_i hactive
      rw [hactive]
      rfl
    · rfl

theorem lambdaHandler_eq_dispatch (windowDays : Int) (now : Instant) (event : Value) (tables : Tables) :
    lambdaHandler windowDays now event tables = dispatch (fun flat => handleIdentify windowDays now flat tables)
      (fun flat => handleFinalize now flat tables) event tables := rfl

/-- Without faults a delivery is a run of the handler. -/
theorem deliver_without_faults (windowDays : Int) (now : Instant) (event : Value) (tables : Tables) :
    deliver {} windowDays now event tables = lambdaHandler windowDays now event tables := by
  have hfinalize : (fun flat => handleFinalizeWith {} now flat tables) = fun flat => handleFinalize now flat tables := by
    funext flat
    exact handleFinalizeWith_none now flat tables
  rw [lambdaHandler_eq_dispatch, ← hfinalize]
  rfl

end Inbound

end SafetyConfirmation
