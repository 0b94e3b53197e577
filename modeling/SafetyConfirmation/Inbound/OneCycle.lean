import SafetyConfirmation.Inbound.FinalizeOnce

/-!
# One cycle for each contact

The first identify of a contact stores its decision, every later one answers with a decision of its own, and finalize
believes the attributes that Connect took from one of the answers. When all of them speak of the same cycle.
-/

namespace SafetyConfirmation

namespace Inbound

open KeyedStore StepMachine FlowGraph Checks

/-! ### The decision of identify -/

structure Decision where
  flow : InboundFlow
  employeeId : Option String
  cycleId : Option String
  deriving DecidableEq

/-- What an identify reads: its event, the clock, and the two tables. -/
structure IdentifyInputs where
  contactId : String
  callerNumber : String
  windowDays : Int
  now : Instant
  employees : Store String Employee
  cycles : Store String Cycle

def identifyFlat (contactId callerNumber : String) : Value :=
  .dict [("contactId", .str contactId), ("callerNumber", .str callerNumber)]

namespace IdentifyInputs

def caller (inputs : IdentifyInputs) : Option (String × Employee) :=
  lookupEmployeeByPhone inputs.employees inputs.callerNumber

/-- The employee and the cycle that the tables give for the call. -/
def decision (inputs : IdentifyInputs) : Decision :=
  match inputs.caller with
  | none => { flow := .notRegistered, employeeId := none, cycleId := none }
  | some employee =>
    let selected := selectFlow (queryRecentCycles inputs.cycles) inputs.now inputs.windowDays
    { flow := selected.1, employeeId := some employee.1, cycleId := selected.2 }

/-- The checks of the step, on its event and on the rows it queries. -/
def checks (inputs : IdentifyInputs) : Except PyError PUnit := do
  let _ ← parseIdentifyEvent (identifyFlat inputs.contactId inputs.callerNumber)
  let cycles := if inputs.caller.isSome then queryRecentCycles inputs.cycles else []
  let _ ← decideInboundFlow inputs.caller.isSome cycles inputs.now inputs.windowDays
  return ()

def Valid (inputs : IdentifyInputs) : Prop := inputs.checks.toOption.isSome = true

end IdentifyInputs

namespace Decision

def answer (d : Decision) : Except PyError StringMap := identifyAnswer d.flow d.employeeId d.cycleId

/-- What an answer shows of the decision: the ids only for an `ACTIVE_CYCLE` call. -/
def shown (d : Decision) : InboundFlow × Option String × Option String :=
  if d.flow = .activeCycle then (d.flow, d.employeeId, d.cycleId) else (d.flow, none, none)

/-- The decision a row holds. -/
def ofRow (row : InboundContact) : Decision where
  flow := row.flow
  employeeId := row.employeeId
  cycleId := row.cycleId

end Decision

/-! ### The deliveries of a contact -/

namespace OneCycle

/-- `answers` are those identify returned, and `origins` what the identify read that stored the row of a contact. -/
structure State where
  tables : Tables
  answers : List (String × StringMap) := []
  origins : Store String IdentifyInputs := ∅

/-- Finalize is delivered with the attributes of an answer; between two deliveries the other tables change. -/
inductive Label where
  | identify (fault : Option Fault) (contact : Contact) (windowDays : Int) (now : Instant)
  | finalize (index : Nat) (faults : FinalizeFaults) (callerNumber : String) (now : Instant)
  | others (employees : Store String Employee) (cycles : Store String Cycle)
      (responses : Store (String × String) Response)

def inputsOf (contact : Contact) (windowDays : Int) (now : Instant) (tables : Tables) : IdentifyInputs where
  contactId := contact.contactId
  callerNumber := contact.callerNumber
  windowDays := windowDays
  now := now
  employees := tables.employees
  cycles := tables.cycles

def deliverIdentify (fault : Option Fault) (contact : Contact) (windowDays : Int) (now : Instant) (tables : Tables) :
    Except PyError StringMap × Tables :=
  deliver { identify := fault } windowDays now (connectEvent contact identifyParameters []) tables

def callback (contactId callerNumber : String) (now : Instant) : Contact where
  contactId := contactId
  callerNumber := callerNumber
  clock := fun _ => now

/-- The attributes of an answer, as Connect sends them back. -/
def deliverFinalize (faults : FinalizeFaults) (contactId callerNumber : String) (answer : StringMap) (now : Instant)
    (tables : Tables) : Except PyError StringMap × Tables :=
  deliver { finalize := faults } 0 now
    (connectEvent (callback contactId callerNumber now) finalizeParameters answer) tables

/-- Whether an identify has stored the row of its contact, where there was none. -/
def stores (contactId : String) (tables tables' : Tables) : Bool :=
  (tables.inboundContacts.lookup contactId).isNone && (tables'.inboundContacts.lookup contactId).isSome

def step (s : State) : Label → Option State
  | .identify fault contact windowDays now =>
    let result := deliverIdentify fault contact windowDays now s.tables
    some {
      tables := result.2
      answers := match result.1 with
        | .ok answer => (contact.contactId, answer) :: s.answers
        | .error _ => s.answers
      origins :=
        if stores contact.contactId s.tables result.2 then
          s.origins.set contact.contactId (some (inputsOf contact windowDays now s.tables))
        else s.origins }
  | .finalize index faults callerNumber now =>
    s.answers[index]?.map fun entry =>
      { s with tables := (deliverFinalize faults entry.1 callerNumber entry.2 now s.tables).2 }
  | .others employees cycles responses => some { s with tables := { s.tables with employees, cycles, responses } }

def start (employees : Store String Employee) (cycles : Store String Cycle)
    (responses : Store (String × String) Response) : State where
  tables := { employees, cycles, responses }

/-- A finalize changes the result codes of the row. -/
def Receives (tables tables' : Tables) (key : String × String) : Prop :=
  callResultCodesOf (tables'.responses.lookup key) ≠ callResultCodesOf (tables.responses.lookup key)

/-- What an answer says is what the contact's row holds, and a finalize with it appends to a row of that cycle. -/
structure Agrees (tables : Tables) (contactId : String) (answer : StringMap) (row : InboundContact) : Prop where
  flow : answer.lookup "flow" = some row.flow.name
  employeeId : ∀ employeeId, answer.lookup "employeeId" = some employeeId → row.employeeId = some employeeId
  cycleId : ∀ cycleId, answer.lookup "cycleId" = some cycleId → row.cycleId = some cycleId
  received : ∀ faults callerNumber now key,
    Receives tables (deliverFinalize faults contactId callerNumber answer now tables).2 key → row.cycleId = some key.1

def Agreed (s : State) : Prop :=
  ∀ contactId answer, (contactId, answer) ∈ s.answers →
    ∃ row, s.tables.inboundContacts.lookup contactId = some row ∧ Agrees s.tables contactId answer row

/-- An identify that returns, after the one that stored the row of its contact, finds what that one found: the same flow
and, for `ACTIVE_CYCLE`, the same employee and the same cycle. -/
def SameDecision (s : State) : Label → Prop
  | .identify none contact windowDays now =>
    (inputsOf contact windowDays now s.tables).Valid → ∀ origin ∈ s.origins.lookup contact.contactId,
      (inputsOf contact windowDays now s.tables).decision.shown = origin.decision.shown
  | _ => True

instance (s : State) : (label : Label) → Decidable (SameDecision s label)
  | .identify none contact windowDays now =>
    match horigin : s.origins.lookup contact.contactId with
    | none => .isTrue (by simp [SameDecision, horigin])
    | some origin => decidable_of_iff ((inputsOf contact windowDays now s.tables).checks.toOption.isSome = true →
        (inputsOf contact windowDays now s.tables).decision.shown = origin.decision.shown)
        (by simp [SameDecision, IdentifyInputs.Valid, horigin])
  | .identify (some _) .. => .isTrue trivial
  | .finalize .. => .isTrue trivial
  | .others .. => .isTrue trivial

/-! ### What an answer shows -/

variable {d d' : Decision} {answer : StringMap}

theorem shown_eq_iff : d.shown = d'.shown ↔
    d.flow = d'.flow ∧ (d.flow = .activeCycle → d.employeeId = d'.employeeId ∧ d.cycleId = d'.cycleId) := by
  obtain ⟨flow, employeeId, cycleId⟩ := d
  obtain ⟨flow', employeeId', cycleId'⟩ := d'
  cases flow <;> cases flow' <;> simp [Decision.shown]

theorem identifyAnswer_of_ne {flow : InboundFlow} (hne : flow ≠ .activeCycle) (employeeId cycleId : Option String) :
    identifyAnswer flow employeeId cycleId = .ok [("flow", flow.name)] := by
  cases flow with
  | activeCycle => exact absurd rfl hne
  | notRegistered | noCycle | cycleTerminated => rfl

/-- The answer of a decision that is one: an `ACTIVE_CYCLE` one has both ids. -/
theorem answer_eq_ok (h : d.answer = .ok answer) :
    (d.flow = .activeCycle ∧ ∃ employeeId cycleId, d.employeeId = some employeeId ∧ d.cycleId = some cycleId ∧
      answer = [("flow", InboundFlow.activeCycle.name), ("employeeId", employeeId), ("cycleId", cycleId)]) ∨
    (d.flow ≠ .activeCycle ∧ answer = [("flow", d.flow.name)]) := by
  obtain ⟨flow, employeeId, cycleId⟩ := d
  by_cases hactive : flow = .activeCycle
  · subst flow
    cases employeeId with
    | none => cases h
    | some employeeId =>
      cases cycleId with
      | none => cases h
      | some cycleId =>
        cases h
        exact .inl ⟨rfl, employeeId, cycleId, rfl, rfl, rfl⟩
  · rw [Decision.answer, identifyAnswer_of_ne hactive] at h
    cases h
    exact .inr ⟨hactive, rfl⟩

theorem selectFlow_active {cycles : List (String × Cycle)} {now : Instant} {windowDays : Int}
    (h : (selectFlow cycles now windowDays).1 = .activeCycle) : (selectFlow cycles now windowDays).2.isSome = true := by
  revert h
  rw [selectFlow]
  split
  · exact fun _ => rfl
  · split
    · exact fun _ => rfl
    · intro h
      split at h <;> cases h

theorem exists_answer (inputs : IdentifyInputs) : ∃ answer, inputs.decision.answer = .ok answer := by
  by_cases hactive : inputs.decision.flow = .activeCycle
  · unfold IdentifyInputs.decision at hactive ⊢
    split at hactive
    · cases hactive
    · obtain ⟨cycleId, hcycle⟩ := Option.isSome_iff_exists.1 (selectFlow_active hactive)
      dsimp only at hactive ⊢
      rw [Decision.answer, hactive, hcycle]
      exact ⟨_, rfl⟩
  · exact ⟨_, identifyAnswer_of_ne hactive _ _⟩

/-! ### What a delivery of identify does -/

variable {fault : Option Fault} {contact : Contact} {windowDays : Int} {now : Instant} {tables : Tables}

def firstRow (inputs : IdentifyInputs) : InboundContact where
  receivedAt := inputs.now.truncateToSeconds
  callerNumber := inputs.callerNumber
  callerNumberMasked := maskPhone inputs.callerNumber
  flow := inputs.decision.flow
  employeeId := inputs.decision.employeeId
  cycleId := inputs.decision.cycleId

/-- The tables after the PutItem of an identify. -/
def stored (inputs : IdentifyInputs) (tables : Tables) : Tables :=
  { tables with
    inboundContacts := tables.inboundContacts.write inputs.contactId (.put (firstRow inputs) fun row => row.isNone) }

theorem lookup_stored (inputs : IdentifyInputs) (tables : Tables) (contactId : String) :
    (stored inputs tables).inboundContacts.lookup contactId =
      if contactId = inputs.contactId then some ((tables.inboundContacts.lookup inputs.contactId).getD (firstRow inputs))
      else tables.inboundContacts.lookup contactId := by
  rw [stored, Store.write, Store.lookup_set]
  split
  · cases tables.inboundContacts.lookup inputs.contactId <;> rfl
  · rfl

theorem decideInboundFlow_decision {inputs : IdentifyInputs} {result : InboundFlow × Option String}
    (h : decideInboundFlow inputs.caller.isSome (if inputs.caller.isSome then queryRecentCycles inputs.cycles else [])
      inputs.now inputs.windowDays = .ok result) :
    inputs.decision = { flow := result.1, employeeId := inputs.caller.map Prod.fst, cycleId := result.2 } := by
  rw [IdentifyInputs.decision]
  cases hcaller : inputs.caller with
  | none =>
    rw [hcaller] at h
    obtain ⟨_, -, h⟩ := bind_eq_ok.1 h
    cases h
    rfl
  | some employee =>
    rw [hcaller] at h
    rw [decideInboundFlow_eq_ok h]
    rfl

theorem handleIdentify_cases (contact : Contact) (windowDays : Int) (now : Instant) (tables : Tables) :
    let inputs := inputsOf contact windowDays now tables
    let result := handleIdentify windowDays now (flatEvent contact "identify" []) tables
    (¬ inputs.Valid ∧ ∃ e, result = (.error e, tables)) ∨
    (inputs.Valid ∧ result = (inputs.decision.answer, stored inputs tables)) := by
  intro inputs result
  have hparse : parseIdentifyEvent (flatEvent contact "identify" []) =
      parseIdentifyEvent (identifyFlat inputs.contactId inputs.callerNumber) := rfl
  have hresult : result = handleIdentify windowDays now (flatEvent contact "identify" []) tables := rfl
  rw [handleIdentify] at hresult
  cases hevent : parseIdentifyEvent (flatEvent contact "identify" []) with
  | error e =>
    rw [hevent] at hresult
    refine .inl ⟨?_, e, hresult⟩
    rw [IdentifyInputs.Valid, IdentifyInputs.checks, ← hparse, hevent]
    simp [Except.toOption, bind, Except.bind]
  | ok parsed =>
    obtain ⟨contactId, callerNumber⟩ := parsed
    obtain ⟨-, hnumber⟩ := parseIdentifyEvent_flatEvent hevent
    have hid : contactId = inputs.contactId := by
      obtain ⟨contactId', hcontact, h⟩ := bind_eq_ok.1 hevent
      obtain ⟨_, -, h⟩ := bind_eq_ok.1 h
      obtain ⟨_, -, h⟩ := bind_eq_ok.1 h
      cases h
      exact (Value.str.inj (requireString_eq_ok hcontact).1).symm
    rw [hevent] at hresult
    subst contactId callerNumber
    dsimp only at hresult
    cases hdecide : decideInboundFlow inputs.caller.isSome
        (if inputs.caller.isSome then queryRecentCycles inputs.cycles else []) inputs.now inputs.windowDays with
    | error e =>
      refine .inl ⟨?_, e, ?_⟩
      · rw [IdentifyInputs.Valid, IdentifyInputs.checks, ← hparse, hevent]
        simp [Except.toOption, bind, Except.bind, hdecide]
      · rw [hresult]
        have hdecide' := hdecide
        simp only [IdentifyInputs.caller, inputs, inputsOf] at hdecide'
        rw [hdecide']
    | ok selected =>
      refine .inr ⟨?_, ?_⟩
      · rw [IdentifyInputs.Valid, IdentifyInputs.checks, ← hparse, hevent]
        simp [Except.toOption, bind, Except.bind, hdecide, pure, Except.pure]
      · have hdecision := decideInboundFlow_decision hdecide
        have hdecide' := hdecide
        simp only [IdentifyInputs.caller, inputs, inputsOf] at hdecide'
        rw [hdecide'] at hresult
        rw [hresult, Decision.answer, stored, firstRow, hdecision]
        rfl

inductive IdentifyOutcome (fault : Option Fault) (inputs : IdentifyInputs) (tables : Tables)
    (result : Except PyError StringMap × Tables) : Prop where
  | refused (hraised : ∃ e, result = (.error e, tables)) (hfault : fault = none → ¬ inputs.Valid)
  | lost (hraised : ∃ e, result = (.error e, stored inputs tables)) (hfault : fault ≠ none)
  | answered (hfault : fault = none) (hvalid : inputs.Valid) (hok : ∃ answer, inputs.decision.answer = .ok answer ∧
      result = (.ok answer, stored inputs tables))

theorem deliverIdentify_outcome (fault : Option Fault) (contact : Contact) (windowDays : Int) (now : Instant)
    (tables : Tables) : IdentifyOutcome fault (inputsOf contact windowDays now tables) tables
      (deliverIdentify fault contact windowDays now tables) := by
  have hdeliver : deliverIdentify fault contact windowDays now tables =
      withFault fault tables (handleIdentify windowDays now (flatEvent contact "identify" []) tables) := rfl
  rw [hdeliver]
  obtain ⟨hinvalid, e, hresult⟩ | ⟨hvalid, hresult⟩ := handleIdentify_cases contact windowDays now tables
  · rw [hresult]
    exact .refused ⟨e, by cases fault <;> rfl⟩ fun _ => hinvalid
  · obtain ⟨answer, hanswer⟩ := exists_answer (inputsOf contact windowDays now tables)
    rw [hresult, hanswer]
    cases fault with
    | none => exact .answered rfl hvalid ⟨answer, hanswer, rfl⟩
    | some fault =>
      cases happlied : fault.applied with
      | true => exact .lost ⟨fault.error, by simp [withFault, happlied]⟩ (Option.some_ne_none fault)
      | false => exact .refused ⟨fault.error, by simp [withFault, happlied]⟩ fun h => absurd h (Option.some_ne_none fault)

/-! ### What a delivery of finalize does -/

variable {contactId callerNumber : String} {faults : FinalizeFaults}

theorem parseFlow_name (flow : InboundFlow) : parseFlow (.str flow.name) = .ok flow := by
  cases flow <;> rfl

/-- Finalize is asked for what the answer shows. -/
theorem parseFinalizeEvent_answer {contact : Contact} {parsed : FinalizeEvent} (hanswer : d.answer = .ok answer)
    (h : parseFinalizeEvent (flatEvent contact "finalize" answer) = .ok parsed) :
    parsed.contactId = contact.contactId ∧ parsed.flow = d.flow ∧
      (d.flow = .activeCycle → d.employeeId = some parsed.employeeId ∧ d.cycleId = some parsed.cycleId) := by
  obtain ⟨contactId, hcontact, h⟩ := bind_eq_ok.1 h
  obtain ⟨flow, hflow, h⟩ := bind_eq_ok.1 h
  have hid : contact.contactId = contactId := Value.str.inj (requireString_eq_ok hcontact).1
  obtain ⟨hactive, employeeId, cycleId, hemployee, hcycle, rfl⟩ | ⟨hne, rfl⟩ := answer_eq_ok hanswer
  · have hflow' : flow = .activeCycle := by
      cases hflow
      rfl
    subst flow
    rw [if_pos rfl] at h
    obtain ⟨employeeId', hemployee', h⟩ := bind_eq_ok.1 h
    obtain ⟨cycleId', hcycle', h⟩ := bind_eq_ok.1 h
    cases h
    have hsame : employeeId = employeeId' := Value.str.inj (requireString_eq_ok hemployee').1
    have hsame' : cycleId = cycleId' := Value.str.inj (requireString_eq_ok hcycle').1
    rw [hemployee, hcycle, hsame, hsame']
    exact ⟨hid.symm, hactive.symm, fun _ => ⟨rfl, rfl⟩⟩
  · have hflow' : flow = d.flow := by
      have hparsed : parseFlow (.str d.flow.name) = .ok flow := hflow
      rw [parseFlow_name] at hparsed
      exact (Except.ok.inj hparsed).symm
    subst flow
    rw [if_neg hne] at h
    cases h
    exact ⟨hid.symm, rfl, fun hactive => absurd hactive hne⟩

theorem lookup_appendInboundToResponseWith_ne {responses : Store (String × String) Response} {employeeId cycleId : String}
    {key : String × String} (h : key ≠ (cycleId, employeeId)) :
    (appendInboundToResponseWith faults responses cycleId employeeId).2.lookup key = responses.lookup key := by
  have hput : (responses.write (cycleId, employeeId) Response.putInbound).lookup key = responses.lookup key :=
    Store.lookup_write_ne _ _ h
  have happend : ((responses.write (cycleId, employeeId) Response.putInbound).write (cycleId, employeeId)
      Response.appendInbound).lookup key = responses.lookup key := (Store.lookup_write_ne _ _ h).trans hput
  rw [appendInboundToResponseWith]
  split
  · dsimp only
    split
    · exact hput
    · rfl
  · split
    · dsimp only
      split
      · exact happend
      · exact hput
    · exact happend

/-- The UpdateItem of a finalize, which may fail and be applied all the same. -/
theorem finalizeInboundContactWith_tables (fault : Option Fault) (contactId : String) (flow : InboundFlow)
    (completion : InboundContact.Completion) (answer : StringMap) (tables : Tables) :
    let tables' := (finalizeInboundContactWith fault contactId flow completion answer tables).2
    tables'.responses = tables.responses ∧ (tables'.inboundContacts = tables.inboundContacts ∨
      tables'.inboundContacts = tables.inboundContacts.write contactId (InboundContact.complete flow completion)) := by
  intro tables'
  have hresult : tables' = (withFault fault tables (finalizeInboundContact contactId flow completion answer tables)).2 := rfl
  rw [hresult, finalizeInboundContact]
  split
  · cases fault with
    | none => exact ⟨rfl, .inr rfl⟩
    | some fault =>
      cases happlied : fault.applied with
      | true => exact ⟨by simp [withFault, happlied], .inr (by simp [withFault, happlied])⟩
      | false => exact ⟨by simp [withFault, happlied], .inl (by simp [withFault, happlied])⟩
  · cases fault <;> exact ⟨rfl, .inl rfl⟩

/-- A finalize writes the row of the cycle its answer shows, and completes its contact with the employee it shows. -/
theorem deliverFinalize_tables (hanswer : d.answer = .ok answer) (faults : FinalizeFaults)
    (contactId callerNumber : String) (now : Instant) (tables : Tables) :
    let tables' := (deliverFinalize faults contactId callerNumber answer now tables).2
    (∀ key, Receives tables tables' key → d.flow = .activeCycle ∧ d.cycleId = some key.1) ∧
    (tables'.inboundContacts = tables.inboundContacts ∨ ∃ completion : InboundContact.Completion,
      completion.employeeId = (if d.flow = .activeCycle then d.employeeId else none) ∧
      tables'.inboundContacts = tables.inboundContacts.write contactId (InboundContact.complete d.flow completion)) := by
  intro tables'
  have hdeliver : tables' =
      (handleFinalizeWith faults now (flatEvent (callback contactId callerNumber now) "finalize" answer) tables).2 := rfl
  rw [handleFinalizeWith] at hdeliver
  cases hparse : parseFinalizeEvent (flatEvent (callback contactId callerNumber now) "finalize" answer) with
  | error e =>
    rw [hparse] at hdeliver
    rw [hdeliver]
    exact ⟨fun key hkey => absurd rfl hkey, .inl rfl⟩
  | ok parsed =>
    obtain ⟨hid, hflow, hids⟩ := parseFinalizeEvent_answer hanswer hparse
    rw [hparse] at hdeliver
    dsimp only at hdeliver
    rw [hid, hflow] at hdeliver
    by_cases hactive : d.flow = .activeCycle
    · obtain ⟨hemployee, hcycle⟩ := hids hactive
      rw [if_pos hactive, finalizeActive] at hdeliver
      rw [if_pos hactive, hemployee, hcycle, hactive]
      have hreceives : ∀ key, tables'.responses.lookup key = (appendInboundToResponseWith faults tables.responses
          parsed.cycleId parsed.employeeId).2.lookup key → Receives tables tables' key →
          InboundFlow.activeCycle = .activeCycle ∧ some parsed.cycleId = some key.1 := by
        intro key hrows hkey
        by_contra hne
        refine hkey (congrArg callResultCodesOf (hrows.trans ?_))
        apply lookup_appendInboundToResponseWith_ne
        rintro rfl
        exact hne ⟨rfl, rfl⟩
      split at hdeliver
      · rename_i e responses happend
        refine ⟨fun key => hreceives key ?_, .inl ?_⟩
        · rw [hdeliver, happend]
        · rw [hdeliver]
      · rename_i responses happend
        obtain ⟨hresponses, hcontacts⟩ := finalizeInboundContactWith_tables faults.updateItem contactId .activeCycle
          (activeCompletion now contactId parsed.employeeId)
          [("status", "ok"), ("flow", InboundFlow.activeCycle.name), ("contactId", contactId),
            ("cycleId", parsed.cycleId), ("employeeId", parsed.employeeId)] { tables with responses }
        refine ⟨fun key => hreceives key ?_, ?_⟩
        · rw [hdeliver, happend]
          exact congrArg (fun rows : Store (String × String) Response => rows.lookup key) hresponses
        · rw [hdeliver]
          exact hcontacts.imp_right fun h => ⟨_, rfl, h⟩
    · rw [if_neg hactive] at hdeliver
      obtain ⟨hresponses, hcontacts⟩ := finalizeInboundContactWith_tables faults.updateItem contactId d.flow
        { callResultCode := "NO_RECORDING" } [("status", "ok"), ("flow", d.flow.name), ("contactId", contactId)] tables
      rw [if_neg hactive, hdeliver]
      refine ⟨fun key hkey => absurd ?_ hkey, hcontacts.imp_right fun h => ⟨_, rfl, h⟩⟩
      exact congrArg (fun rows : Store (String × String) Response => callResultCodesOf (rows.lookup key)) hresponses

/-! ### What the rows hold -/

/-- The decision that the row of a contact holds. -/
def held (inboundContacts : Store String InboundContact) (contactId : String) :
    Option (InboundFlow × Option String × Option String) :=
  (inboundContacts.lookup contactId).map fun row => (Decision.ofRow row).shown

theorem held_stored (inputs : IdentifyInputs) (tables : Tables) (contactId : String) :
    held (stored inputs tables).inboundContacts contactId =
      if contactId = inputs.contactId then some ((held tables.inboundContacts inputs.contactId).getD inputs.decision.shown)
      else held tables.inboundContacts contactId := by
  rw [held, lookup_stored, held]
  split
  · cases tables.inboundContacts.lookup inputs.contactId <;> rfl
  · rfl

/-- Completing a contact with what its row holds changes no decision. -/
theorem held_complete {inboundContacts : Store String InboundContact} {completion : InboundContact.Completion}
    (hheld : held inboundContacts contactId = some d.shown)
    (hcompletion : completion.employeeId = if d.flow = .activeCycle then d.employeeId else none) (other : String) :
    held (inboundContacts.write contactId (InboundContact.complete d.flow completion)) other =
      held inboundContacts other := by
  by_cases hother : other = contactId
  · subst other
    obtain ⟨row, hrow, hshown⟩ := Option.map_eq_some_iff.1 hheld
    obtain ⟨hflow, hids⟩ := shown_eq_iff.1 hshown
    rw [held, held, Store.lookup_write_self, hrow, Write.run_of_condition (condition_complete.2 ⟨row, rfl, hflow⟩)]
    refine congrArg some (shown_eq_iff.2 ⟨rfl, fun hactive => ⟨?_, rfl⟩⟩)
    have hrowActive : row.flow = .activeCycle := hactive
    have hemployee : row.employeeId = d.employeeId := (hids hrowActive).1
    show completion.employeeId.or row.employeeId = row.employeeId
    rw [hcompletion, if_pos (hflow.symm.trans hrowActive), ← hemployee, Option.or_self]
  · rw [held, held, Store.lookup_write_ne _ _ hother]

theorem agrees_iff (hanswer : d.answer = .ok answer) {row : InboundContact} :
    Agrees tables contactId answer row ↔ d.shown = (Decision.ofRow row).shown := by
  rw [shown_eq_iff]
  obtain ⟨hactive, employeeId, cycleId, hemployee, hcycle, rfl⟩ | ⟨hne, rfl⟩ := answer_eq_ok hanswer
  · rw [hactive, hemployee, hcycle]
    constructor
    · intro h
      refine ⟨InboundFlow.name_injective (Option.some.inj h.flow), fun _ => ⟨?_, ?_⟩⟩
      · exact (h.employeeId employeeId rfl).symm
      · exact (h.cycleId cycleId rfl).symm
    · rintro ⟨hflow, hids⟩
      obtain ⟨hemployee', hcycle'⟩ := hids rfl
      refine ⟨?_, ?_, ?_, ?_⟩
      · exact congrArg (fun flow : InboundFlow => some flow.name) hflow
      · rintro _ ⟨⟩
        exact hemployee'.symm
      · rintro _ ⟨⟩
        exact hcycle'.symm
      · intro faults callerNumber now key hkey
        have hreceived := ((deliverFinalize_tables hanswer faults contactId callerNumber now tables).1 key hkey).2
        exact hcycle'.symm.trans (hcycle.symm.trans hreceived)
  · constructor
    · intro h
      exact ⟨InboundFlow.name_injective (Option.some.inj h.flow), fun hactive => absurd hactive hne⟩
    · rintro ⟨hflow, -⟩
      refine ⟨congrArg (fun flow : InboundFlow => some flow.name) hflow, nofun, nofun, ?_⟩
      intro faults callerNumber now key hkey
      exact absurd ((deliverFinalize_tables hanswer faults contactId callerNumber now tables).1 key hkey).1 hne

/-! ### All deliveries -/

/-- The row of a contact holds what the identify that stored it found, and every answer is that of a decision. -/
structure Sound (s : State) : Prop where
  origins : ∀ contactId, held s.tables.inboundContacts contactId =
    (s.origins.lookup contactId).map fun origin => origin.decision.shown
  answers : ∀ contactId answer, (contactId, answer) ∈ s.answers → ∃ d : Decision, d.answer = .ok answer

theorem sound_start (employees : Store String Employee) (cycles : Store String Cycle)
    (responses : Store (String × String) Response) : Sound (start employees cycles responses) where
  origins _ := rfl
  answers _ _ h := nomatch h

variable {s t : State}

theorem agreed_iff (hs : Sound s) : Agreed s ↔ ∀ contactId answer, (contactId, answer) ∈ s.answers →
    ∀ d : Decision, d.answer = .ok answer → held s.tables.inboundContacts contactId = some d.shown := by
  constructor
  · intro hagreed contactId answer hmem d hanswer
    obtain ⟨row, hrow, hagrees⟩ := hagreed contactId answer hmem
    rw [held, hrow, Option.map_some, ← (agrees_iff hanswer).1 hagrees]
  · intro hheld contactId answer hmem
    obtain ⟨d, hanswer⟩ := hs.answers contactId answer hmem
    obtain ⟨row, hrow, hshown⟩ := Option.map_eq_some_iff.1 (hheld contactId answer hmem d hanswer)
    exact ⟨row, hrow, (agrees_iff hanswer).2 hshown.symm⟩

theorem shown_of_answer (h : d.answer = .ok answer) (h' : d'.answer = .ok answer) : d.shown = d'.shown := by
  rw [shown_eq_iff]
  obtain ⟨hactive, employeeId, cycleId, hemployee, hcycle, rfl⟩ | ⟨hne, rfl⟩ := answer_eq_ok h
  · obtain ⟨hactive', employeeId', cycleId', hemployee', hcycle', hsame⟩ | ⟨-, hsame⟩ := answer_eq_ok h'
    · simp only [List.cons.injEq, Prod.mk.injEq, true_and, and_true] at hsame
      obtain ⟨rfl, rfl⟩ := hsame
      exact ⟨hactive.trans hactive'.symm, fun _ => ⟨hemployee.trans hemployee'.symm, hcycle.trans hcycle'.symm⟩⟩
    · simp at hsame
  · obtain ⟨hactive', employeeId', cycleId', -, -, hsame⟩ | ⟨-, hsame⟩ := answer_eq_ok h'
    · simp at hsame
    · simp only [List.cons.injEq, Prod.mk.injEq, true_and, and_true] at hsame
      exact ⟨InboundFlow.name_injective hsame, fun hactive => absurd hactive hne⟩

/-- The first identify of a contact is the origin of what its row holds, and no later one changes it. -/
theorem origins_stored (hs : Sound s) (inputs : IdentifyInputs) (contactId : String) :
    held (stored inputs s.tables).inboundContacts contactId =
      ((if stores inputs.contactId s.tables (stored inputs s.tables) then
          s.origins.set inputs.contactId (some inputs)
        else s.origins).lookup contactId).map fun origin => origin.decision.shown := by
  have hpresent : ((stored inputs s.tables).inboundContacts.lookup inputs.contactId).isSome = true := by
    rw [lookup_stored, if_pos rfl]
    rfl
  rw [stores, hpresent, Bool.and_true, held_stored]
  cases hrow : s.tables.inboundContacts.lookup inputs.contactId with
  | none =>
    rw [show (if (none : Option InboundContact).isNone = true then s.origins.set inputs.contactId (some inputs)
      else s.origins) = s.origins.set inputs.contactId (some inputs) from rfl, Store.lookup_set]
    split
    · rw [held, hrow]
      rfl
    · exact hs.origins contactId
  | some row =>
    rw [show (if (some row).isNone = true then s.origins.set inputs.contactId (some inputs) else s.origins) = s.origins
      from rfl, ← hs.origins]
    split
    · subst contactId
      rw [held, hrow]
      rfl
    · rfl

theorem stores_refl (contactId : String) (tables : Tables) : stores contactId tables tables = false := by
  rw [stores]
  cases tables.inboundContacts.lookup contactId <;> rfl

theorem held_stored_of_held (inputs : IdentifyInputs) {shown : InboundFlow × Option String × Option String}
    (h : held tables.inboundContacts contactId = some shown) :
    held (stored inputs tables).inboundContacts contactId = some shown := by
  rw [held_stored]
  split
  · subst contactId
    rw [h, Option.getD_some]
  · exact h

theorem held_stored_first {inputs : IdentifyInputs} (h : held tables.inboundContacts inputs.contactId = none) :
    held (stored inputs tables).inboundContacts inputs.contactId = some inputs.decision.shown := by
  rw [held_stored, h]
  exact if_pos rfl

theorem sound_identify (hs : Sound s) (h : step s (.identify fault contact windowDays now) = some t) : Sound t := by
  cases h
  have houtcome := deliverIdentify_outcome fault contact windowDays now s.tables
  cases houtcome with
  | refused hraised _ =>
    obtain ⟨e, hresult⟩ := hraised
    rw [hresult]
    refine ⟨?_, hs.answers⟩
    rw [stores_refl]
    exact hs.origins
  | lost hraised _ =>
    obtain ⟨e, hresult⟩ := hraised
    rw [hresult]
    exact ⟨origins_stored hs (inputsOf contact windowDays now s.tables), hs.answers⟩
  | answered _ _ hok =>
    obtain ⟨answer, hanswer, hresult⟩ := hok
    rw [hresult]
    refine ⟨origins_stored hs (inputsOf contact windowDays now s.tables), fun contactId answer' hmem => ?_⟩
    rcases List.mem_cons.1 hmem with hnew | hold
    · cases hnew
      exact ⟨_, hanswer⟩
    · exact hs.answers contactId answer' hold

/-- A finalize with an answer that agrees leaves what the rows hold as it is. -/
theorem held_finalize (hs : Sound s) (hagreed : Agreed s) {entry : String × StringMap} (hmem : entry ∈ s.answers)
    (faults : FinalizeFaults) (callerNumber : String) (now : Instant) (contactId : String) :
    held (deliverFinalize faults entry.1 callerNumber entry.2 now s.tables).2.inboundContacts contactId =
      held s.tables.inboundContacts contactId := by
  obtain ⟨d, hanswer⟩ := hs.answers entry.1 entry.2 hmem
  have hheld := (agreed_iff hs).1 hagreed entry.1 entry.2 hmem d hanswer
  obtain ⟨-, hsame | ⟨completion, hcompletion, hwrite⟩⟩ :=
    deliverFinalize_tables hanswer faults entry.1 callerNumber now s.tables
  · rw [hsame]
  · rw [hwrite, held_complete hheld hcompletion]

theorem sound_and_agreed_step {label : Label} (hs : Sound s) (hagreed : Agreed s) (hguard : SameDecision s label)
    (h : step s label = some t) : Sound t ∧ Agreed t := by
  cases label with
  | others employees cycles responses =>
    cases h
    have ht : Sound { s with tables := { s.tables with employees, cycles, responses } } := ⟨hs.origins, hs.answers⟩
    exact ⟨ht, (agreed_iff ht).2 ((agreed_iff hs).1 hagreed)⟩
  | finalize index faults callerNumber now =>
    obtain ⟨entry, hentry, rfl⟩ := Option.map_eq_some_iff.1 h
    have hheld := held_finalize hs hagreed (List.mem_of_getElem? hentry) faults callerNumber now
    have ht : Sound { s with tables := (deliverFinalize faults entry.1 callerNumber entry.2 now s.tables).2 } :=
      ⟨fun contactId => (hheld contactId).trans (hs.origins contactId), hs.answers⟩
    refine ⟨ht, (agreed_iff ht).2 fun contactId answer hmem d hanswer => ?_⟩
    exact (hheld contactId).trans ((agreed_iff hs).1 hagreed contactId answer hmem d hanswer)
  | identify fault contact windowDays now =>
    have ht := sound_identify hs h
    refine ⟨ht, (agreed_iff ht).2 ?_⟩
    cases h
    have hold := (agreed_iff hs).1 hagreed
    have houtcome := deliverIdentify_outcome fault contact windowDays now s.tables
    cases houtcome with
    | refused hraised _ =>
      obtain ⟨e, hresult⟩ := hraised
      rw [hresult]
      exact hold
    | lost hraised _ =>
      obtain ⟨e, hresult⟩ := hraised
      rw [hresult]
      exact fun contactId answer hmem d hanswer => held_stored_of_held _ (hold contactId answer hmem d hanswer)
    | answered hfault hvalid hok =>
      subst fault
      obtain ⟨answer, hanswer, hresult⟩ := hok
      rw [hresult]
      intro contactId answer' hmem d hanswer'
      rcases List.mem_cons.1 hmem with hnew | hmem
      · cases hnew
        rw [shown_of_answer hanswer' hanswer]
        cases hlookup : s.origins.lookup contact.contactId with
        | none => exact held_stored_first (by rw [inputsOf, hs.origins, hlookup]; rfl)
        | some origin =>
          rw [hguard hvalid origin hlookup]
          exact held_stored_of_held _ (by rw [hs.origins, hlookup]; rfl)
      · exact held_stored_of_held _ (hold contactId answer' hmem d hanswer')

/-- An identify that finds something else than the one that stored the row answers with what the row does not hold. -/
theorem not_agreed_step {label : Label} (hs : Sound s) (hguard : ¬ SameDecision s label) (h : step s label = some t) :
    ¬ Agreed t := by
  cases label with
  | others employees cycles responses => exact absurd trivial hguard
  | finalize index faults callerNumber now => exact absurd trivial hguard
  | identify fault contact windowDays now =>
    cases fault with
    | some fault => exact absurd trivial hguard
    | none =>
      intro hagreed
      apply hguard
      intro hvalid origin horigin
      have hheld : held s.tables.inboundContacts contact.contactId = some origin.decision.shown := by
        rw [hs.origins, horigin]
        rfl
      have hanswers := (agreed_iff (sound_identify hs h)).1 hagreed
      cases h
      have houtcome := deliverIdentify_outcome none contact windowDays now s.tables
      cases houtcome with
      | refused _ hinvalid => exact absurd hvalid (hinvalid rfl)
      | lost _ hfault => exact absurd rfl hfault
      | answered _ _ hok =>
        obtain ⟨answer, hanswer, hresult⟩ := hok
        rw [hresult] at hanswers
        have hnew := hanswers contact.contactId answer List.mem_cons_self _ hanswer
        rw [held_stored_of_held _ hheld] at hnew
        exact (Option.some.inj hnew).symm

/-- However identify and finalize are delivered, the answers, the row and the `INBOUND` of every contact are of one cycle,
in every state, exactly when each identify that returns finds what the one that stored the row found. -/
theorem agreed_iff_sameDecision {employees : Store String Employee} {cycles : Store String Cycle}
    {responses : Store (String × String) Response} {labels : List Label}
    (hrun : exec step (start employees cycles responses) labels = some t) :
    (∀ before after m, labels = before ++ after → exec step (start employees cycles responses) before = some m →
      Agreed m) ↔ Guarded step SameDecision (start employees cycles responses) labels := by
  have hstart := sound_start employees cycles responses
  refine (@guarded_iff_everywhere _ _ _ _ Sound Agreed ?_ ?_ _ _ _ hstart ?_ hrun).symm
  · exact fun s label t hs hagreed hguard h => sound_and_agreed_step hs hagreed hguard h
  · exact fun s label t hs _ hguard h => not_agreed_step hs hguard h
  · exact fun _ _ hmem => nomatch hmem

def firstIdentify : Label := .identify none caller 30 0

def firstCycle : Store String Cycle := (∅ : Store String Cycle).insert "c1" runningCycle

/-- The first cycle has completed and a second one runs. -/
def nextCycle : Store String Cycle :=
  ((∅ : Store String Cycle).insert "c1" { runningCycle with status := .completed, completedAt := some 1 }).insert "c2"
    { runningCycle with startedAt := 1 }

def startCall : State := start (tablesWith firstCycle).employees firstCycle ∅

theorem agreed_retried : ∃ t, exec step startCall [firstIdentify, firstIdentify, .finalize 0 {} "+819012345678" 0] = some t ∧
    Agreed t := by
  obtain ⟨t, hrun⟩ := Option.isSome_iff_exists.1 (show (exec step startCall
    [firstIdentify, firstIdentify, .finalize 0 {} "+819012345678" 0]).isSome = true by decide)
  exact ⟨t, hrun, (agreed_iff_sameDecision hrun).2 (by decide) _ [] t (List.append_nil _).symm hrun⟩

/-- The cycle changes between the two deliveries of identify: the second answer says `c2`, the row says `c1`, and the
`INBOUND` goes to `c2`. -/
theorem second_identify_disagrees : ∃ t, exec step startCall [firstIdentify,
      .others (tablesWith firstCycle).employees nextCycle ∅, .identify none caller 30 2,
      .finalize 0 {} "+819012345678" 2] = some t ∧
    t.answers.map (fun entry => entry.2.lookup "cycleId") = [some "c2", some "c1"] ∧
    (t.tables.inboundContacts.lookup "contact-1").bind InboundContact.cycleId = some "c1" ∧
    callResultCodesOf (t.tables.responses.lookup ("c2", "e1")) = ["INBOUND"] ∧
    callResultCodesOf (t.tables.responses.lookup ("c1", "e1")) = [] ∧ ¬ Agreed t := by
  refine ⟨_, rfl, by decide, by decide, by decide, by decide, fun hagreed => ?_⟩
  obtain ⟨row, hrow, hagrees⟩ := hagreed "contact-1"
    [("flow", "ACTIVE_CYCLE"), ("employeeId", "e1"), ("cycleId", "c2")] List.mem_cons_self
  have hcycle := hagrees.cycleId "c2" rfl
  revert hcycle
  cases hrow
  decide

end OneCycle

end Inbound

end SafetyConfirmation
