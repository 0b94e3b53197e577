import SafetyConfirmation.Audit.Log
import SafetyConfirmation.Inbound.Handler
import SafetyConfirmation.Lib.Program

/-!
# What InboundHandler writes

The two steps of the lambda as programs over the calls that they make, with the audit records and the log lines that they
write. Where no call fails they are the handler of `Inbound.Handler`.
-/

namespace SafetyConfirmation

namespace Inbound

open KeyedStore FlowGraph Audit

inductive Call where
  | queryEmployees (callerNumber : String)
  | queryCycles (status : CycleStatus)
  | putContact (contactId : String) (contact : InboundContact)
  | putResponse (cycleId employeeId : String)
  | appendResponse (cycleId employeeId : String)
  | updateContact (contactId : String) (flow : InboundFlow) (completion : InboundContact.Completion)

abbrev Result : Call → Type
  | .queryEmployees _ => List (String × Employee)
  | .queryCycles _ => List (String × Cycle)
  | _ => Unit

abbrev Act := Call ⊕ Line

abbrev Act.Result : Act → Type := Sum.elim Inbound.Result fun _ => Unit

abbrev LoggedAction := Program Act Act.Result PyError

def call (c : Call) : LoggedAction (Result c) := Program.perform (Sum.inl c : Act)

def emit (line : Line) : LoggedAction Unit := Program.perform (Sum.inr line : Act)

def log (message : String) (arguments : List String) : LoggedAction Unit := emit (.log message arguments none)

def conditionalCheckFailed : PyError := .clientError "ConditionalCheckFailedException"

/-- `_lookup_employee_by_phone`. -/
def lookupEmployee (callerNumber : String) : LoggedAction (Option (String × Employee)) := do
  let items ← call (.queryEmployees callerNumber)
  return items.find? fun entry => isVisible entry.2

/-- `_query_recent_cycles`. -/
def queryCyclesOf : List CycleStatus → LoggedAction (List (String × Cycle))
  | [] => return []
  | status :: rest => do
    let rows ← call (.queryCycles status)
    let others ← queryCyclesOf rest
    return rows ++ others

/-- The cycles are read for an employee only. -/
def cyclesFor (employeeMatched : Bool) : LoggedAction (List (String × Cycle)) :=
  if employeeMatched then queryCyclesOf cycleQueryStatuses else pure []

def provisionalContact (now : Instant) (callerNumber : String) (flow : InboundFlow) (employeeId cycleId : Option String) :
    InboundContact where
  receivedAt := now.truncateToSeconds
  callerNumber
  callerNumberMasked := maskPhone callerNumber
  flow
  employeeId
  cycleId

/-- `_put_provisional_inbound_contact`. -/
def putProvisionalInboundContact (contactId : String) (contact : InboundContact) : LoggedAction Unit :=
  Program.tryCatch (call (.putContact contactId contact)) fun e =>
    match e with
    | .clientError "ConditionalCheckFailedException" =>
      log "Inbound_Contact identify put_item skipped (already exists) contactId=%s flow=%s" [contactId, contact.flow.name]
    | e => throw e

def stringOrNone (s : Option String) : Value := (s.map Value.str).getD .none

def auditReceived (now : Instant) (contactId callerNumber : String) (flow : InboundFlow)
    (employeeId cycleId : Option String) : LoggedAction Unit :=
  emit (auditLine now "INBOUND_CONTACT_RECEIVED" (.str "<connect-service>") contactId (some callerNumber)
    [("flow", .str flow.name), ("employeeId", stringOrNone employeeId), ("cycleId", stringOrNone cycleId)])

def identify (windowDays : Int) (now : Instant) (event : Value) : LoggedAction StringMap := do
  let parsed ← Program.ofExcept (parseIdentifyEvent event)
  let employee ← lookupEmployee parsed.2
  let cycles ← cyclesFor employee.isSome
  let decision ← Program.ofExcept (decideInboundFlow employee.isSome cycles now windowDays)
  let employeeId := employee.map Prod.fst
  putProvisionalInboundContact parsed.1 (provisionalContact now parsed.2 decision.1 employeeId decision.2)
  auditReceived now parsed.1 parsed.2 decision.1 employeeId decision.2
  Program.ofExcept (identifyAnswer decision.1 employeeId decision.2)

/-- `_append_inbound_to_response`: a row that is there already is as good. -/
def appendInbound (cycleId employeeId : String) : LoggedAction Unit := do
  Program.tryCatch (call (.putResponse cycleId employeeId)) fun e =>
    match e with
    | .clientError "ConditionalCheckFailedException" => return ()
    | e => throw e
  call (.appendResponse cycleId employeeId)

def finalize (now : Instant) (event : Value) : LoggedAction StringMap := do
  let parsed ← Program.ofExcept (parseFinalizeEvent event)
  if parsed.flow = .activeCycle then do
    let recordingS3Key := inboundKey now parsed.employeeId parsed.contactId ".wav"
    appendInbound parsed.cycleId parsed.employeeId
    call (.updateContact parsed.contactId parsed.flow {
      employeeId := some parsed.employeeId
      recordingS3Key := some recordingS3Key
      transcriptS3Key := some (inboundKey now parsed.employeeId parsed.contactId ".json")
      callResultCode := "RECORDED"
      voiceStatus := some .pending })
    log "Inbound finalize ACTIVE_CYCLE contactId=%s cycleId=%s employeeId=%s recordingS3Key=%s"
      [parsed.contactId, parsed.cycleId, parsed.employeeId, recordingS3Key]
    return [("status", "ok"), ("flow", parsed.flow.name), ("contactId", parsed.contactId), ("cycleId", parsed.cycleId),
      ("employeeId", parsed.employeeId)]
  else do
    call (.updateContact parsed.contactId parsed.flow { callResultCode := "NO_RECORDING" })
    log "Inbound finalize non-ACTIVE contactId=%s flow=%s" [parsed.contactId, parsed.flow.name]
    return [("status", "ok"), ("flow", parsed.flow.name), ("contactId", parsed.contactId)]

/-- `lambda_handler`. -/
def loggedHandler (windowDays : Int) (now : Instant) (event : Value) : LoggedAction StringMap :=
  match event with
  | .dict _ => do
    let flat ← Program.ofExcept (normalizeConnectEvent event)
    match field flat "step" with
    | .str "identify" => identify windowDays now flat
    | .str "finalize" => finalize now flat
    | step => throw (.valueError "step must be 'identify' or 'finalize'; got" (some step))
  | _ => throw (.valueError "event must be a JSON object")

/-! ### The service -/

/-- The tables, how many calls were made, and the lines that were written. -/
structure Session where
  tables : Tables
  position : Nat := 0
  emitted : List Line := []

/-- What a call does that does not fail otherwise than on its condition. -/
def act (tables : Tables) : (c : Call) → Except PyError (Result c) × Tables
  | .queryEmployees callerNumber =>
    (.ok (tables.employees.rows.filter fun entry => (entry.2.phoneNumber.bind Value.asStr?) == some callerNumber), tables)
  | .queryCycles status => (.ok (queryByStatus tables.cycles status), tables)
  | .putContact contactId contact =>
    let put : Write InboundContact := .put contact fun row => row.isNone
    (if put.condition (tables.inboundContacts.lookup contactId) then .ok () else .error conditionalCheckFailed,
      { tables with inboundContacts := tables.inboundContacts.write contactId put })
  | .putResponse cycleId employeeId =>
    (if Response.putInbound.condition (tables.responses.lookup (cycleId, employeeId)) then .ok ()
      else .error conditionalCheckFailed,
      { tables with responses := tables.responses.write (cycleId, employeeId) Response.putInbound })
  | .appendResponse cycleId employeeId =>
    (.ok (), { tables with responses := tables.responses.write (cycleId, employeeId) Response.appendInbound })
  | .updateContact contactId flow completion =>
    let update := InboundContact.complete flow completion
    if update.condition (tables.inboundContacts.lookup contactId) then
      (.ok (), { tables with inboundContacts := tables.inboundContacts.write contactId update })
    else (.error conditionalCheckFailed, tables)

/-- Each call meets the fault of its position, and may have been applied all the same. -/
def Session.respond (faults : Nat → Option (PyError × Bool)) (s : Session) : (act : Act) → Except PyError act.Result × Session
  | .inl c =>
    match faults s.position with
    | none => ((act s.tables c).1, { s with tables := (act s.tables c).2, position := s.position + 1 })
    | some fault =>
      (.error fault.1, { s with
        tables := if fault.2 then (act s.tables c).2 else s.tables
        position := s.position + 1 })
  | .inr line =>
    ((line.emit (faults s.position) s.emitted).1,
      { s with position := s.position + 1, emitted := (line.emit (faults s.position) s.emitted).2 })

def receive (windowDays : Int) (now : Instant) (event : Value) (faults : Nat → Option (PyError × Bool)) (tables : Tables) :
    Except PyError StringMap × Session :=
  (loggedHandler windowDays now event).run (Session.respond faults) { tables }

/-! ### Without faults -/

/-- What the program answers and leaves where no call fails, whatever was written before. -/
def Runs {α : Type} (program : LoggedAction α) (tables : Tables) (answer : Except PyError α × Tables) : Prop :=
  ∀ s : Session, s.tables = tables → (program.run (Session.respond fun _ => none) s).1 = answer.1 ∧
    (program.run (Session.respond fun _ => none) s).2.tables = answer.2

section Runs

variable {α β : Type} {tables tables' : Tables} {answer : Except PyError β × Tables}

theorem Runs.exists_run {program : LoggedAction α} {result : Except PyError α} (h : Runs program tables (result, tables'))
    {s : Session} (hs : s.tables = tables) :
    ∃ s', program.run (Session.respond fun _ => none) s = (result, s') ∧ s'.tables = tables' := by
  obtain ⟨hresult, htables⟩ := h s hs
  exact ⟨_, Prod.ext hresult rfl, htables⟩

theorem runs_ofExcept (result : Except PyError α) : Runs (Program.ofExcept result) tables (result, tables) := by
  intro s hs
  rw [Program.run_ofExcept]
  exact ⟨rfl, hs⟩

theorem runs_throw (e : PyError) : Runs (throw e : LoggedAction α) tables (.error e, tables) := runs_ofExcept (.error e)

theorem runs_pure (a : α) : Runs (pure a) tables (.ok a, tables) := fun _ hs => ⟨rfl, hs⟩

theorem runs_call (c : Call) : Runs (call c) tables (act tables c) := by
  intro s hs
  subst hs
  have hrun : (call c).run (Session.respond fun _ => none) s =
      ((act s.tables c).1, { s with tables := (act s.tables c).2, position := s.position + 1 }) :=
    Program.run_perform (Session.respond fun _ => none) (Sum.inl c : Act) s
  rw [hrun]
  exact ⟨rfl, rfl⟩

theorem runs_emit (line : Line) : Runs (emit line) tables (.ok (), tables) := by
  intro s hs
  have hrun : (emit line).run (Session.respond fun _ => none) s =
      (.ok (), { s with position := s.position + 1, emitted := s.emitted ++ [line] }) := by
    refine (Program.run_perform (Session.respond fun _ => none) (Sum.inr line : Act) s).trans ?_
    cases line <;> rfl
  rw [hrun]
  exact ⟨rfl, hs⟩

theorem Runs.bind {program : LoggedAction α} {f : α → LoggedAction β} {a : α} (h : Runs program tables (.ok a, tables'))
    (hf : Runs (f a) tables' answer) : Runs (program >>= f) tables answer := by
  intro s hs
  obtain ⟨s', hrun, htables⟩ := h.exists_run hs
  rw [Program.run_bind, hrun]
  exact hf s' htables

theorem Runs.bind_error {program : LoggedAction α} {f : α → LoggedAction β} {e : PyError}
    (h : Runs program tables (.error e, tables')) : Runs (program >>= f) tables (.error e, tables') := by
  intro s hs
  obtain ⟨s', hrun, htables⟩ := h.exists_run hs
  rw [Program.run_bind, hrun]
  exact ⟨rfl, htables⟩

theorem Runs.caught {program : LoggedAction β} {handle : PyError → LoggedAction β} {e : PyError}
    (h : Runs program tables (.error e, tables')) (hhandle : Runs (handle e) tables' answer) :
    Runs (program.tryCatch handle) tables answer := by
  intro s hs
  obtain ⟨s', hrun, htables⟩ := h.exists_run hs
  rw [Program.run_tryCatch, hrun]
  exact hhandle s' htables

theorem Runs.not_caught {program : LoggedAction α} {handle : PyError → LoggedAction α} {a : α}
    (h : Runs program tables (.ok a, tables')) : Runs (program.tryCatch handle) tables (.ok a, tables') := by
  intro s hs
  obtain ⟨s', hrun, htables⟩ := h.exists_run hs
  rw [Program.run_tryCatch, hrun]
  exact ⟨rfl, htables⟩

theorem runs_queryCyclesOf (statuses : List CycleStatus) :
    Runs (queryCyclesOf statuses) tables (.ok (statuses.flatMap (queryByStatus tables.cycles)), tables) := by
  induction statuses with
  | nil => exact runs_pure _
  | cons status rest ih => exact (runs_call (.queryCycles status)).bind (ih.bind (runs_pure _))

theorem runs_cyclesFor (employeeMatched : Bool) : Runs (cyclesFor employeeMatched) tables
    (.ok (if employeeMatched then queryRecentCycles tables.cycles else []), tables) := by
  rw [cyclesFor]
  split
  · exact runs_queryCyclesOf _
  · exact runs_pure _

theorem runs_putProvisional (contactId : String) (contact : InboundContact) :
    Runs (putProvisionalInboundContact contactId contact) tables (.ok (),
      { tables with inboundContacts := tables.inboundContacts.write contactId (.put contact fun row => row.isNone) }) := by
  have hput := @runs_call tables (.putContact contactId contact)
  rw [act] at hput
  split at hput
  · exact hput.not_caught
  · exact hput.caught (runs_emit _)

theorem runs_lookupEmployee (callerNumber : String) : Runs (lookupEmployee callerNumber) tables
    (.ok (lookupEmployeeByPhone tables.employees callerNumber), tables) :=
  (runs_call (.queryEmployees callerNumber)).bind (runs_pure _)

theorem runs_identify (windowDays : Int) (now : Instant) (event : Value) :
    Runs (identify windowDays now event) tables (handleIdentify windowDays now event tables) := by
  rw [identify, handleIdentify]
  cases parseIdentifyEvent event with
  | error e => exact (runs_ofExcept _).bind_error
  | ok parsed =>
    refine (runs_ofExcept _).bind ((runs_lookupEmployee parsed.2).bind ?_)
    refine (runs_cyclesFor _).bind ?_
    dsimp only
    cases decideInboundFlow _ _ now windowDays with
    | error e => exact (runs_ofExcept _).bind_error
    | ok decision =>
      exact (runs_ofExcept _).bind ((runs_putProvisional _ _).bind ((runs_emit _).bind (runs_ofExcept _)))

theorem runs_appendInbound (cycleId employeeId : String) :
    Runs (appendInbound cycleId employeeId) tables
      (.ok (), { tables with responses := appendInboundToResponse tables.responses cycleId employeeId }) := by
  have hput := @runs_call tables (.putResponse cycleId employeeId)
  rw [act] at hput
  split at hput
  · exact hput.not_caught.bind (runs_call (.appendResponse cycleId employeeId))
  · exact (hput.caught (runs_pure ())).bind (runs_call (.appendResponse cycleId employeeId))

theorem runs_updateContact (contactId : String) (flow : InboundFlow) (completion : InboundContact.Completion)
    {rest : LoggedAction StringMap} {answer : StringMap} (hrest : ∀ tables, Runs rest tables (.ok answer, tables)) :
    Runs (call (.updateContact contactId flow completion) >>= fun _ => rest) tables
      (finalizeInboundContact contactId flow completion answer tables) := by
  have hupdate := @runs_call tables (.updateContact contactId flow completion)
  rw [act] at hupdate
  rw [finalizeInboundContact]
  split at hupdate
  · rename_i hcondition
    rw [if_pos hcondition]
    exact hupdate.bind (hrest _)
  · rename_i hcondition
    rw [if_neg hcondition]
    exact hupdate.bind_error

theorem runs_finalize (now : Instant) (event : Value) :
    Runs (finalize now event) tables (handleFinalize now event tables) := by
  rw [finalize, handleFinalize]
  cases parseFinalizeEvent event with
  | error e => exact (runs_ofExcept _).bind_error
  | ok parsed =>
    refine (runs_ofExcept _).bind ?_
    dsimp only
    split
    · refine (runs_appendInbound _ _).bind (runs_updateContact _ _ _ fun _ => ?_)
      exact (runs_emit _).bind (runs_pure _)
    · exact runs_updateContact _ _ _ fun _ => (runs_emit _).bind (runs_pure _)

theorem runs_loggedHandler (windowDays : Int) (now : Instant) (event : Value) :
    Runs (loggedHandler windowDays now event) tables (lambdaHandler windowDays now event tables) := by
  cases event with
  | dict items =>
    rw [loggedHandler, lambdaHandler]
    cases normalizeConnectEvent _ with
    | error e => exact (runs_ofExcept _).bind_error
    | ok flat =>
      refine (runs_ofExcept _).bind ?_
      dsimp only
      generalize field flat "step" = step
      split
      · exact runs_identify _ _ _
      · exact runs_finalize _ _
      · simpa only using runs_throw _
  | _ => exact runs_ofExcept (.error _)

end Runs

/-- Where no call fails the lambda is the one that the other results are about. -/
theorem receive_without_faults (windowDays : Int) (now : Instant) (event : Value) (tables : Tables) :
    (receive windowDays now event (fun _ => none) tables).1 = (lambdaHandler windowDays now event tables).1 ∧
      (receive windowDays now event (fun _ => none) tables).2.tables = (lambdaHandler windowDays now event tables).2 :=
  runs_loggedHandler windowDays now event { tables } rfl

end Inbound

end SafetyConfirmation
