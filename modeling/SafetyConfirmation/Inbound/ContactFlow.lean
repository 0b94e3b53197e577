import SafetyConfirmation.Inbound.Handler

/-!
# An inbound call, from its first action to the disconnect

The inbound contact flow composed with InboundHandler. The flow stores one attribute of what identify answers,
`flow`, so finalize is invoked without the two ids and raises on every call that is taken for a cycle.
-/

namespace SafetyConfirmation

namespace Inbound

open KeyedStore Checks FlowGraph

/-! ### The action graph -/

/-- The actions of the flow, in the order of their identifiers `01` to `0C`. -/
inductive FlowAction where
  | setVoice
  | invokeIdentify
  | storeFlow
  | compareFlow
  | setRecording
  | playGuidance
  | waitForMessage
  | invokeFinalize
  | playNoCycle
  | playNotRegistered
  | playCycleTerminated
  | disconnect
  deriving DecidableEq

def identifyParameters : StringMap := [("step", "identify")]

def finalizeParameters : StringMap := [("step", "finalize")]

def inboundFlow : FlowAction → Action FlowAction
  | .setVoice => { kind := .updateContactTextToSpeechVoice "Mizuki", nextAction := some .invokeIdentify }
  | .invokeIdentify => {
      kind := .invokeLambdaFunction identifyParameters
      nextAction := some .storeFlow
      errors := [(.noMatchingError, .disconnect)] }
  | .storeFlow => {
      kind := .updateContactAttributes [("flow", .external "flow")]
      nextAction := some .compareFlow
      errors := [(.noMatchingError, .disconnect)] }
  | .compareFlow => {
      kind := .compare (.attributes "flow")
      nextAction := some .disconnect
      errors := [(.noMatchingCondition, .disconnect)]
      conditions := [("ACTIVE_CYCLE", .setRecording), ("NO_CYCLE", .playNoCycle),
        ("NOT_REGISTERED", .playNotRegistered), ("CYCLE_TERMINATED", .playCycleTerminated)] }
  | .setRecording => { kind := .updateContactRecordingBehavior "Both", nextAction := some .playGuidance }
  | .playGuidance => {
      kind := .messageParticipant "${InboundGuidanceText}"
      nextAction := some .waitForMessage
      errors := [(.noMatchingError, .disconnect)] }
  | .waitForMessage => {
      kind := .wait 30
      nextAction := some .invokeFinalize
      errors := [(.noMatchingError, .invokeFinalize)] }
  | .invokeFinalize => {
      kind := .invokeLambdaFunction finalizeParameters
      nextAction := some .disconnect
      errors := [(.noMatchingError, .disconnect)] }
  | .playNoCycle => {
      kind := .messageParticipant "現在受付対象のサイクルがありません。お電話ありがとうございました。"
      nextAction := some .disconnect
      errors := [(.noMatchingError, .disconnect)] }
  | .playNotRegistered => {
      kind := .messageParticipant "番号が登録されていないため受付できません。お電話ありがとうございました。"
      nextAction := some .disconnect
      errors := [(.noMatchingError, .disconnect)] }
  | .playCycleTerminated => {
      kind := .messageParticipant "対象のサイクルは既に終了しています。お電話ありがとうございました。"
      nextAction := some .disconnect
      errors := [(.noMatchingError, .disconnect)] }
  | .disconnect => { kind := .disconnectParticipant }

def branch : InboundFlow → FlowAction
  | .activeCycle => .setRecording
  | .noCycle => .playNoCycle
  | .notRegistered => .playNotRegistered
  | .cycleTerminated => .playCycleTerminated

/-! ### One call -/

/-- A call, with the instants at which its lambda invocations run. -/
structure Contact where
  contactId : String
  callerNumber : String
  clock : Nat → Instant

def stringMapValue (map : StringMap) : Value := .dict (map.map fun entry => (entry.1, .str entry.2))

/-- The event Connect invokes a lambda with. -/
def connectEvent (contact : Contact) (parameters attributes : StringMap) : Value :=
  .dict [("Details", .dict [
    ("ContactData", .dict [("ContactId", .str contact.contactId),
      ("CustomerEndpoint", .dict [("Address", .str contact.callerNumber)]),
      ("Attributes", stringMapValue attributes)]),
    ("Parameters", stringMapValue parameters)])]

def invokeInboundHandler (windowDays : Int) (contact : Contact) : Lambda PyError Tables :=
  fun invocation parameters attributes tables =>
    lambdaHandler windowDays (contact.clock invocation) (connectEvent contact parameters attributes) tables

/-- A call that comes in carries no attributes. -/
def incoming (tables : Tables) : State FlowAction PyError Tables := { current := some .setVoice, world := tables }

/-- The call after twelve actions: the graph has no cycle, so it is over. -/
def runContact (windowDays : Int) (tables : Tables) (contact : Contact) : State FlowAction PyError Tables :=
  run inboundFlow (invokeInboundHandler windowDays contact) 12 (incoming tables)

def callResultCodesOf (row : Option Response) : List String := (row.bind Response.callResultCodes).getD []

/-- What an answer of identify promises of its call. -/
def CarriedThrough (windowDays : Int) (tables : Tables) (contact : Contact) (answer : StringMap) : Prop :=
  let final := runContact windowDays tables contact
  if answer.lookup "flow" = some "ACTIVE_CYCLE" then
    ∃ employeeId cycleId, answer.lookup "employeeId" = some employeeId ∧ answer.lookup "cycleId" = some cycleId ∧
      (∃ result, (finalizeParameters, .ok result) ∈ final.invocations) ∧
      callResultCodesOf (final.world.responses.lookup (cycleId, employeeId)) =
        callResultCodesOf (tables.responses.lookup (cycleId, employeeId)) ++ ["INBOUND"] ∧
      (final.world.inboundContacts.lookup contact.contactId).bind InboundContact.callResultCode = some "RECORDED"
  else final.world.responses = tables.responses

def IsRegistered (tables : Tables) (contact : Contact) : Prop :=
  ∃ entry ∈ tables.employees.rows,
    entry.2.phoneNumber = some (.str contact.callerNumber) ∧ isVisible entry.2 = true

/-! ### What the two steps make of the event -/

def flatEvent (contact : Contact) (step : String) (attributes : StringMap) : Value :=
  let value := fun key => (((stringMapValue attributes).get? key).getD .none)
  .dict [("step", .str step), ("contactId", .str contact.contactId), ("callerNumber", .str contact.callerNumber),
    ("flow", value "flow"), ("employeeId", value "employeeId"), ("cycleId", value "cycleId")]

theorem invoke_identify (windowDays : Int) (contact : Contact) (invocation : Nat) (attributes : StringMap)
    (tables : Tables) :
    invokeInboundHandler windowDays contact invocation identifyParameters attributes tables =
      handleIdentify windowDays (contact.clock invocation) (flatEvent contact "identify" attributes) tables := rfl

theorem parseIdentifyEvent_flatEvent {contact : Contact} {attributes : StringMap} {contactId callerNumber : String}
    (h : parseIdentifyEvent (flatEvent contact "identify" attributes) = .ok (contactId, callerNumber)) :
    contact.contactId ≠ "" ∧ callerNumber = contact.callerNumber := by
  obtain ⟨contactId', hid, h⟩ := bind_eq_ok.1 h
  obtain ⟨callerNumber', hnumber, h⟩ := bind_eq_ok.1 h
  obtain ⟨_, -, h⟩ := bind_eq_ok.1 h
  cases h
  have hid' := requireString_eq_ok hid
  have hnumber' := requireString_eq_ok hnumber
  constructor
  · show contact.contactId ≠ ""
    rw [Value.str.inj hid'.1]
    exact hid'.2
  · exact (Value.str.inj hnumber'.1).symm

theorem isSome_lookupEmployeeByPhone {tables : Tables} {contact : Contact} (h : IsRegistered tables contact) :
    (lookupEmployeeByPhone tables.employees contact.callerNumber).isSome = true := by
  obtain ⟨entry, hmem, hnumber, hvisible⟩ := h
  rw [lookupEmployeeByPhone, List.find?_isSome]
  refine ⟨entry, List.mem_filter.2 ⟨hmem, ?_⟩, hvisible⟩
  rw [hnumber]
  exact beq_self_eq_true _

theorem lookup_identifyAnswer {flow : InboundFlow} {employeeId cycleId : Option String} {answer : StringMap}
    (h : identifyAnswer flow employeeId cycleId = .ok answer) : answer.lookup "flow" = some flow.name := by
  unfold identifyAnswer at h
  split at h
  · split at h
    · cases h
      rfl
    · cases h
  · cases h
    rfl

/-- An answer of identify names the flow, and the step leaves the Response rows alone. -/
theorem handleIdentify_spec {windowDays : Int} {contact : Contact} {now : Instant} {attributes answer : StringMap}
    {tables tables' : Tables}
    (h : handleIdentify windowDays now (flatEvent contact "identify" attributes) tables = (.ok answer, tables')) :
    contact.contactId ≠ "" ∧ tables'.responses = tables.responses ∧
      ∃ flow : InboundFlow, answer.lookup "flow" = some flow.name ∧
        (IsRegistered tables contact →
          flow = (selectFlow (queryRecentCycles tables.cycles) now windowDays).1) := by
  rw [handleIdentify] at h
  split at h
  · cases h
  · rename_i contactId callerNumber hparse
    obtain ⟨hid, hnumber⟩ := parseIdentifyEvent_flatEvent hparse
    subst callerNumber
    dsimp only at h
    split at h
    · cases h
    · rename_i flow cycleId hdecide
      obtain ⟨hanswer, rfl⟩ := Prod.mk.inj h
      refine ⟨hid, rfl, flow, lookup_identifyAnswer hanswer, ?_⟩
      intro hregistered
      have hfound := isSome_lookupEmployeeByPhone hregistered
      rw [hfound] at hdecide
      have hselect := decideInboundFlow_eq_ok hdecide
      rw [if_pos rfl] at hselect
      exact congrArg Prod.fst hselect

def missingEmployeeId : PyError :=
  .valueError "finalize: employeeId is required for ACTIVE_CYCLE; got" (some .none)

theorem handleFinalize_of_missing_employeeId {contact : Contact} (hid : contact.contactId ≠ "") (now : Instant)
    (tables : Tables) :
    handleFinalize now (flatEvent contact "finalize" [("flow", InboundFlow.activeCycle.name)]) tables =
      (.error missingEmployeeId, tables) := by
  have hparse : parseFinalizeEvent (flatEvent contact "finalize" [("flow", InboundFlow.activeCycle.name)]) =
      .error missingEmployeeId := by
    have hcontact : requireString "finalize: contactId is required (non-empty str); got" (.str contact.contactId) =
        .ok contact.contactId := if_neg hid
    show (requireString "finalize: contactId is required (non-empty str); got" (.str contact.contactId) >>= _) = _
    rw [hcontact]
    rfl
  rw [handleFinalize, hparse]

/-! ### The runs of the flow -/

section Runs

variable {windowDays : Int} {tables tables' : Tables} {contact : Contact}

theorem runContact_of_identify_error {e : PyError}
    (h : invokeInboundHandler windowDays contact 0 identifyParameters [] tables = (.error e, tables')) :
    runContact windowDays tables contact =
      { current := none, invocations := [(identifyParameters, .error e)], world := tables' } := by
  let s : State FlowAction PyError Tables := { current := some .invokeIdentify, world := tables }
  have hstep : step inboundFlow (invokeInboundHandler windowDays contact) s = _ :=
    step_invoke_of_error rfl rfl h
  have hrun : run inboundFlow (invokeInboundHandler windowDays contact) 3 (incoming tables) =
      { current := none, invocations := [(identifyParameters, .error e)], world := tables' } := by
    show run inboundFlow _ 1 (step inboundFlow _ s) = _
    rw [hstep]
    rfl
  have hdone := @run_eq_of_disconnected _ _ _ _ _ 3 12 _ (by rw [hrun]) (by omega)
  rw [runContact, hdone, hrun]

/-- The call at an action after identify answered, with the flow it has stored. -/
def classified (current : Option FlowAction) (flow : String) (answer : StringMap) (tables : Tables) :
    State FlowAction PyError Tables where
  current := current
  attributes := [("flow", flow)]
  external := answer
  invocations := [(identifyParameters, .ok answer)]
  world := tables

/-- The flow is all that identify's answer leaves on the contact. -/
theorem run_of_identify_ok {answer : StringMap} {flow : InboundFlow}
    (h : invokeInboundHandler windowDays contact 0 identifyParameters [] tables = (.ok answer, tables'))
    (hflow : answer.lookup "flow" = some flow.name) :
    run inboundFlow (invokeInboundHandler windowDays contact) 4 (incoming tables) =
      classified (some (branch flow)) flow.name answer tables' := by
  let s : State FlowAction PyError Tables := { current := some .invokeIdentify, world := tables }
  have hstep : step inboundFlow (invokeInboundHandler windowDays contact) s =
      { s with
        current := some .storeFlow, external := answer, world := tables'
        invocations := [(identifyParameters, .ok answer)] } :=
    @step_invoke_of_ok _ _ _ inboundFlow _ s .invokeIdentify _ _ _ rfl rfl h
  show run inboundFlow _ 2 (step inboundFlow _ s) = _
  rw [hstep]
  show step inboundFlow (invokeInboundHandler windowDays contact)
    (classified (some .compareFlow) ((answer.lookup "flow").getD "") answer tables') = _
  rw [hflow]
  cases flow <;> rfl

theorem runContact_of_activeCycle {answer : StringMap} (hid : contact.contactId ≠ "")
    (h : invokeInboundHandler windowDays contact 0 identifyParameters [] tables = (.ok answer, tables'))
    (hflow : answer.lookup "flow" = some InboundFlow.activeCycle.name) :
    runContact windowDays tables contact =
      { classified none InboundFlow.activeCycle.name answer tables' with
        invocations := [(identifyParameters, .ok answer), (finalizeParameters, .error missingEmployeeId)] } := by
  let s := classified (some .invokeFinalize) InboundFlow.activeCycle.name answer tables'
  have hfinalize : step inboundFlow (invokeInboundHandler windowDays contact) s =
      { s with
        current := some .disconnect
        invocations := [(identifyParameters, .ok answer), (finalizeParameters, .error missingEmployeeId)] } :=
    @step_invoke_of_error _ _ _ inboundFlow _ s .invokeFinalize _ _ _ rfl rfl
      (handleFinalize_of_missing_employeeId hid _ tables')
  have hrun : run inboundFlow (invokeInboundHandler windowDays contact) 9 (incoming tables) =
      { s with
        current := none
        invocations := [(identifyParameters, .ok answer), (finalizeParameters, .error missingEmployeeId)] } := by
    rw [run_add 4 5, run_of_identify_ok h hflow]
    show run inboundFlow _ 1 (step inboundFlow _ s) = _
    rw [hfinalize]
    rfl
  have hdone := @run_eq_of_disconnected _ _ _ _ _ 9 12 _ (by rw [hrun]) (by omega)
  rw [runContact, hdone, hrun]
  rfl

theorem runContact_of_ne_activeCycle {answer : StringMap} {flow : InboundFlow} (hne : flow ≠ .activeCycle)
    (h : invokeInboundHandler windowDays contact 0 identifyParameters [] tables = (.ok answer, tables'))
    (hflow : answer.lookup "flow" = some flow.name) :
    runContact windowDays tables contact = classified none flow.name answer tables' := by
  have hrun : run inboundFlow (invokeInboundHandler windowDays contact) 6 (incoming tables) =
      classified none flow.name answer tables' := by
    rw [run_add 4 2, run_of_identify_ok h hflow]
    cases flow with
    | activeCycle => exact absurd rfl hne
    | notRegistered | noCycle | cycleTerminated => rfl
  have hdone := @run_eq_of_disconnected _ _ _ _ _ 6 12 _ (by rw [hrun]; rfl) (by omega)
  rw [runContact, hdone, hrun]

/-- Every call ends disconnected; once identify has answered, finalize is reached by the calls taken for a cycle
and by no other, and it raises there. -/
theorem runContact_cases (windowDays : Int) (tables : Tables) (contact : Contact) :
    (runContact windowDays tables contact).current = none ∧
    ((∃ e, (runContact windowDays tables contact).invocations = [(identifyParameters, .error e)]) ∨
    ∃ answer flow, answer.lookup "flow" = some (InboundFlow.name flow) ∧
      (IsRegistered tables contact →
        flow = (selectFlow (queryRecentCycles tables.cycles) (contact.clock 0) windowDays).1) ∧
      (runContact windowDays tables contact).world.responses = tables.responses ∧
      (runContact windowDays tables contact).invocations = (identifyParameters, .ok answer) ::
        if flow = .activeCycle then [(finalizeParameters, .error missingEmployeeId)] else []) := by
  rcases hidentify : invokeInboundHandler windowDays contact 0 identifyParameters [] tables with
    ⟨e | answer, tables'⟩
  · rw [runContact_of_identify_error hidentify]
    exact ⟨rfl, .inl ⟨e, rfl⟩⟩
  · have hhandled := hidentify
    rw [invoke_identify] at hhandled
    obtain ⟨hid, hresponses, flow, hflow, hregistered⟩ := handleIdentify_spec hhandled
    by_cases hactive : flow = .activeCycle
    · subst flow
      rw [runContact_of_activeCycle hid hidentify hflow]
      exact ⟨rfl, .inr ⟨answer, .activeCycle, hflow, hregistered, hresponses, rfl⟩⟩
    · rw [runContact_of_ne_activeCycle hactive hidentify hflow]
      refine ⟨rfl, .inr ⟨answer, flow, hflow, hregistered, hresponses, ?_⟩⟩
      rw [if_neg hactive]
      rfl

end Runs

/-! ### Calls carried through to finalize -/

theorem finalize_answered_of_carriedThrough {windowDays : Int} {tables : Tables} {contact : Contact} {answer : StringMap}
    (hflow : answer.lookup "flow" = some "ACTIVE_CYCLE") (h : CarriedThrough windowDays tables contact answer) :
    ∃ result, (finalizeParameters, .ok result) ∈ (runContact windowDays tables contact).invocations := by
  rw [CarriedThrough, if_pos hflow] at h
  obtain ⟨-, -, -, -, hfinalize, -⟩ := h
  exact hfinalize

/-- The call of a registered employee that identify answers is carried through exactly when no cycle takes it: no
queried row is `RUNNING`, and none completed within the window. -/
theorem inbound_carried_through_iff {windowDays : Int} {tables : Tables} {contact : Contact} {answer : StringMap}
    (hregistered : IsRegistered tables contact)
    (hidentified : (identifyParameters, .ok answer) ∈ (runContact windowDays tables contact).invocations) :
    CarriedThrough windowDays tables contact answer ↔
      ∀ entry ∈ queryRecentCycles tables.cycles, accepts (contact.clock 0) windowDays entry.2 = false := by
  obtain ⟨-, ⟨e, hraised⟩ | ⟨answer', flow, hflow, hselect, hresponses, hinvocations⟩⟩ :=
    runContact_cases windowDays tables contact
  · rw [hraised] at hidentified
    simp at hidentified
  have haccepts := selectFlow_eq_activeCycle_iff (queryRecentCycles tables.cycles) (contact.clock 0) windowDays
  rw [← hselect hregistered] at haccepts
  have hanswer : answer = answer' := by
    rw [hinvocations] at hidentified
    rcases List.mem_cons.1 hidentified with h | h
    · cases h
      rfl
    · split at h <;> simp at h
  subst answer'
  by_cases hactive : flow = .activeCycle
  · rw [hactive] at hflow hinvocations
    apply iff_of_false
    · intro hcarried
      obtain ⟨result, hresult⟩ := finalize_answered_of_carriedThrough hflow hcarried
      rw [hinvocations] at hresult
      simp [identifyParameters, finalizeParameters] at hresult
    · intro hnone
      obtain ⟨entry, hmem, htrue⟩ := haccepts.1 hactive
      rw [hnone entry hmem] at htrue
      cases htrue
  · apply iff_of_true
    · have hne : answer.lookup "flow" ≠ some "ACTIVE_CYCLE" := by
        intro h
        rw [hflow] at h
        exact hactive (InboundFlow.name_injective (Option.some.inj h))
      rw [CarriedThrough, if_neg hne]
      exact hresponses
    · intro entry hmem
      by_contra hentry
      exact hactive (haccepts.2 ⟨entry, hmem, Bool.eq_true_of_not_eq_false hentry⟩)

def caller : Contact where
  contactId := "contact-1"
  callerNumber := "+819012345678"
  clock := fun _ => 0

def tablesWith (cycles : Store String Cycle) : Tables where
  employees := (∅ : Store String Employee).insert "e1"
    { name := "Sato", phoneNumber := some (.str "+819012345678") }
  cycles := cycles

def runningCycle : Cycle where
  status := .running
  mode := .all
  retryCount := .int 3
  retryIntervalMinutes := .int 5
  dictionaryVersion := 1
  startedAt := 0

theorem isRegistered_caller (cycles : Store String Cycle) : IsRegistered (tablesWith cycles) caller :=
  ⟨("e1", _), List.mem_singleton.2 rfl, rfl, rfl⟩

theorem inbound_carried_through_iff_no_cycle :
    CarriedThrough 30 (tablesWith ∅) caller [("flow", "NO_CYCLE")] :=
  (inbound_carried_through_iff (isRegistered_caller ∅) (List.mem_singleton.2 rfl)).2 (fun _ h => nomatch h)

/-- A call during a running cycle: identify answers with the cycle, finalize raises, and the Response row stays
without `INBOUND`. -/
theorem inbound_call_lost :
    let tables := tablesWith ((∅ : Store String Cycle).insert "c1" runningCycle)
    let answer := [("flow", "ACTIVE_CYCLE"), ("employeeId", "e1"), ("cycleId", "c1")]
    IsRegistered tables caller ∧
    (runContact 30 tables caller).invocations =
      [(identifyParameters, .ok answer), (finalizeParameters, .error missingEmployeeId)] ∧
    ¬ CarriedThrough 30 tables caller answer := by
  have hinvocations : (runContact 30 (tablesWith ((∅ : Store String Cycle).insert "c1" runningCycle)) caller).invocations =
      [(identifyParameters, .ok [("flow", "ACTIVE_CYCLE"), ("employeeId", "e1"), ("cycleId", "c1")]),
        (finalizeParameters, .error missingEmployeeId)] := rfl
  refine ⟨isRegistered_caller _, hinvocations, ?_⟩
  intro hcarried
  obtain ⟨result, hresult⟩ := finalize_answered_of_carriedThrough rfl hcarried
  rw [hinvocations] at hresult
  simp [identifyParameters, finalizeParameters] at hresult

end Inbound

end SafetyConfirmation
