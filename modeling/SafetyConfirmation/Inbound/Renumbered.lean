import SafetyConfirmation.Employee.Renumbered
import SafetyConfirmation.Inbound.Logged

/-!
# Inbound calls from other phone numbers

An inbound call and the same call from another number, on tables that go together: the two invocations make calls in
lockstep and write the same lines, whatever fails.
-/

namespace SafetyConfirmation

namespace Inbound

open KeyedStore Checks FlowGraph Audit Employee EmployeeApi.Renumbered

section

variable (crypto : FieldCrypto) (pairs : NumberPairs)

inductive CallerAlike : String → String → Prop where
  | number {s s' : String} (h : pairs.paired s s') : CallerAlike s s'
  | other (s : String) (h : e164Re s = false) : CallerAlike s s

/-- Two events as `_normalize_connect_event` leaves them, with callers that go together. -/
structure FlatAlike (flat flat' : Value) : Prop where
  callerNumber : field flat "callerNumber" = field flat' "callerNumber" ∧
      (∀ s, field flat "callerNumber" = .str s → e164Re s = false) ∨
    ∃ s s', field flat "callerNumber" = .str s ∧ field flat' "callerNumber" = .str s' ∧ pairs.paired s s'
  others : ∀ key, key ≠ "callerNumber" → field flat key = field flat' key

inductive EventAlike : Value → Value → Prop where
  | fields {items items' : List (String × Value)}
      (h : ResultRel (FlatAlike pairs) (normalizeConnectEvent (.dict items)) (normalizeConnectEvent (.dict items'))) :
      EventAlike (.dict items) (.dict items')
  | other (event : Value) (h : ∀ items, event ≠ .dict items) : EventAlike event event

inductive PhoneAlike : Value → Value → Prop where
  | stored {s s' : String} (h : StoredAlike crypto pairs s s') : PhoneAlike (.str s) (.str s')
  | other (v : Value) (h : v.asStr? = none) : PhoneAlike v v

structure EmployeeAlike (employee employee' : Employee) : Prop where
  phoneNumber : Option.Rel (PhoneAlike crypto pairs) employee.phoneNumber employee'.phoneNumber
  name : employee.name = employee'.name
  deleted : employee.deleted = employee'.deleted

/-- Contacts that differ in their caller at most. -/
def ContactAlike (contact contact' : InboundContact) : Prop :=
  { contact with callerNumber := "", callerNumberMasked := "" } = { contact' with callerNumber := "", callerNumberMasked := "" }

structure TablesAlike (tables tables' : Tables) : Prop where
  employees : Store.Alike (EmployeeAlike crypto pairs) tables.employees tables'.employees
  cycles : tables.cycles = tables'.cycles
  responses : tables.responses = tables'.responses
  inboundContacts : Store.Alike ContactAlike tables.inboundContacts tables'.inboundContacts

inductive CallAlike : Call → Call → Prop where
  | queryEmployees {s s' : String} (h : CallerAlike pairs s s') (hplus : s.toList.head? = some '+') :
      CallAlike (.queryEmployees s) (.queryEmployees s')
  | queryCycles (status : CycleStatus) : CallAlike (.queryCycles status) (.queryCycles status)
  | putContact (contactId : String) {contact contact' : InboundContact} (h : ContactAlike contact contact') :
      CallAlike (.putContact contactId contact) (.putContact contactId contact')
  | putResponse (cycleId employeeId : String) : CallAlike (.putResponse cycleId employeeId) (.putResponse cycleId employeeId)
  | appendResponse (cycleId employeeId : String) :
      CallAlike (.appendResponse cycleId employeeId) (.appendResponse cycleId employeeId)
  | updateContact (contactId : String) (flow : InboundFlow) (completion : InboundContact.Completion) :
      CallAlike (.updateContact contactId flow completion) (.updateContact contactId flow completion)

def RowAlike (row row' : String × Employee) : Prop := row.1 = row'.1 ∧ EmployeeAlike crypto pairs row.2 row'.2

def AnswerAlike : (c c' : Call) → Result c → Result c' → Prop
  | .queryEmployees _, .queryEmployees _, rows, rows' => List.Forall₂ (RowAlike crypto pairs) rows rows'
  | _, _, answer, answer' => HEq answer answer'

/-- The lines are the same. -/
def acts : Program.Coupling Act Act.Result :=
  Program.Coupling.sum ⟨CallAlike pairs, AnswerAlike crypto pairs⟩ ⟨Eq, fun _ _ _ _ => True⟩

abbrev Together {α β : Type} (R : α → β → Prop) (program : LoggedAction α) (program' : LoggedAction β) : Prop :=
  Program.Lockstep (acts crypto pairs) R program program'

end

variable {crypto : FieldCrypto} {pairs : NumberPairs}

/-! ### Rows -/

theorem CallerAlike.maskPhone_eq {s s' : String} (h : CallerAlike pairs s s') : maskPhone s = maskPhone s' := by
  cases h with
  | number h => exact pairs.maskPhone_eq h
  | other => rfl

/-- A caller whose number is no E.164 number stands for itself, and no stored number of a pair is it. -/
theorem eq_iff_of_not_e164 (hlawful : crypto.Lawful) {stored stored' s : String} (he164 : e164Re s = false)
    (hplus : s.toList.head? = some '+') (h : StoredAlike crypto pairs stored stored') : stored = s ↔ stored' = s := by
  have hnumber : ∀ {t : String}, e164Re t = true → t ≠ s := by
    rintro t ht rfl
    rw [he164] at ht
    cases ht
  have hdomestic : ∀ {t : String}, domesticJpRe t = true → t ≠ s := by
    rintro t ht rfl
    obtain ⟨rest, hrest, -⟩ := domesticJpRe_starts ht
    rw [hrest] at hplus
    cases hplus
  have hsealed : ∀ {t : String}, crypto.isEncrypted t = true → t ≠ s := by
    rintro t ht rfl
    rw [hlawful.isEncrypted_number _ hplus] at ht
    cases ht
  cases h with
  | empty => exact Iff.rfl
  | plain h _ _ =>
    cases h with
    | number h => exact iff_of_false (hnumber (pairs.e164_left h)) (hnumber (pairs.e164_right h))
    | domestic hs hs' _ => exact iff_of_false (hdomestic hs) (hdomestic hs')
    | same => exact Iff.rfl
  | sealed hs hs' _ _ _ => exact iff_of_false (hsealed hs) (hsealed hs')

theorem CallerAlike.eq_iff (hlawful : crypto.Lawful) {stored stored' s s' : String} (hs : CallerAlike pairs s s')
    (hplus : s.toList.head? = some '+') (h : StoredAlike crypto pairs stored stored') : stored = s ↔ stored' = s' := by
  cases hs with
  | number hs => exact h.eq_iff hlawful hs
  | other he164 => exact eq_iff_of_not_e164 hlawful he164 hplus h

theorem ne_empty_of_e164 {s : String} (h : e164Re s = true) : s ≠ "" := by
  rintro rfl
  cases e164Re_starts h

theorem eq_empty_iff {stored stored' : String} (h : StoredAlike crypto pairs stored stored') :
    stored = "" ↔ stored' = "" := by
  have hdomestic : ∀ {t : String}, domesticJpRe t = true → t ≠ "" := by
    rintro t ht rfl
    obtain ⟨rest, hrest, -⟩ := domesticJpRe_starts ht
    cases hrest
  cases h with
  | empty => exact Iff.rfl
  | plain h _ _ =>
    cases h with
    | number h => exact iff_of_false (ne_empty_of_e164 (pairs.e164_left h)) (ne_empty_of_e164 (pairs.e164_right h))
    | domestic hs hs' _ => exact iff_of_false (hdomestic hs) (hdomestic hs')
    | same => exact Iff.rfl
  | sealed _ _ hne hne' _ => exact iff_of_false hne hne'

namespace EmployeeAlike

variable {employee employee' : Employee}

theorem asStr (h : EmployeeAlike crypto pairs employee employee') :
    Option.Rel (StoredAlike crypto pairs) (employee.phoneNumber.bind Value.asStr?)
      (employee'.phoneNumber.bind Value.asStr?) := by
  have hphone := h.phoneNumber
  generalize employee.phoneNumber = phone at hphone
  generalize employee'.phoneNumber = phone' at hphone
  cases hphone with
  | none => exact .none
  | some hphone =>
    cases hphone with
    | stored h => exact .some h
    | other v hv =>
      rw [Option.bind_some, hv]
      exact .none

theorem isVisible_eq (h : EmployeeAlike crypto pairs employee employee') : isVisible employee = isVisible employee' := by
  have hany : ∀ {x x' : Option String}, Option.Rel (StoredAlike crypto pairs) x x' →
      x.any (· != "") = x'.any (· != "") := by
    intro x x' hx
    cases hx with
    | none => rfl
    | some hx =>
      rw [Option.any_some, Option.any_some, Bool.eq_iff_iff, bne_iff_ne, bne_iff_ne]
      exact not_congr (eq_empty_iff hx)
  unfold isVisible
  rw [h.deleted]
  split
  · rfl
  · exact hany h.asStr

theorem phoneIs_iff (hlawful : crypto.Lawful) (h : EmployeeAlike crypto pairs employee employee') {s s' : String}
    (hs : CallerAlike pairs s s') (hplus : s.toList.head? = some '+') :
    ((employee.phoneNumber.bind Value.asStr?) == some s) = true ↔
      ((employee'.phoneNumber.bind Value.asStr?) == some s') = true := by
  rw [beq_iff_eq, beq_iff_eq]
  exact eq_some_iff h.asStr fun _ _ hstored => hs.eq_iff hlawful hplus hstored

end EmployeeAlike

/-! ### The event -/

/-- The id of the contact, and who calls. -/
def IdentifyAlike (pairs : NumberPairs) (parsed parsed' : String × String) : Prop :=
  parsed.1 = parsed'.1 ∧ CallerAlike pairs parsed.2 parsed'.2 ∧ parsed.2.toList.head? = some '+'

theorem requireString_of_ne_empty {message s : String} (h : s ≠ "") : requireString message (.str s) = .ok s := if_neg h

theorem alike_callerNumber (message : String) {flat flat' : Value} (h : FlatAlike pairs flat flat') :
    ResultRel (CallerAlike pairs) (requireString message (field flat "callerNumber"))
      (requireString message (field flat' "callerNumber")) := by
  obtain ⟨hsame, hother⟩ | ⟨s, s', hs, hs', hpaired⟩ := h.callerNumber
  · rw [← hsame]
    generalize hresult : requireString message (field flat "callerNumber") = result
    cases result with
    | error e => exact .error e
    | ok s => exact .ok (.other s (hother s (requireString_eq_ok hresult).1))
  · rw [hs, hs', requireString_of_ne_empty (ne_empty_of_e164 (pairs.e164_left hpaired)),
      requireString_of_ne_empty (ne_empty_of_e164 (pairs.e164_right hpaired))]
    exact .ok (.number hpaired)

theorem alike_parseIdentifyEvent {flat flat' : Value} (h : FlatAlike pairs flat flat') :
    ResultRel (IdentifyAlike pairs) (parseIdentifyEvent flat) (parseIdentifyEvent flat') := by
  rw [parseIdentifyEvent, parseIdentifyEvent, h.others "contactId" (by decide)]
  refine (ResultRel.refl (fun _ => rfl) _).bind fun contactId contactId' hid => ?_
  refine (alike_callerNumber _ h).bind fun s s' hcaller => ?_
  cases hcaller with
  | number hpaired =>
    have hplus := e164Re_starts (pairs.e164_left hpaired)
    rw [require_of hplus, require_of (e164Re_starts (pairs.e164_right hpaired))]
    exact .ok ⟨hid, .number hpaired, hplus⟩
  | other he164 =>
    rw [require]
    split
    · rename_i hplus
      exact .ok ⟨hid, .other _ he164, hplus⟩
    · exact .error _

theorem FlatAlike.parseFinalizeEvent_eq {flat flat' : Value} (h : FlatAlike pairs flat flat') :
    parseFinalizeEvent flat = parseFinalizeEvent flat' := by
  rw [parseFinalizeEvent, parseFinalizeEvent, h.others "contactId" (by decide), h.others "flow" (by decide),
    h.others "employeeId" (by decide), h.others "cycleId" (by decide)]

/-! ### The service -/

namespace ContactAlike

variable {contact contact' : InboundContact}

theorem flow_eq (h : ContactAlike contact contact') : contact.flow = contact'.flow := by
  have hflow := congrArg InboundContact.flow h
  exact hflow

theorem refl (contact : InboundContact) : ContactAlike contact contact := rfl

/-- What finalize changes of a row does not depend on the caller. -/
theorem complete (h : ContactAlike contact contact') (flow : InboundFlow) (completion : InboundContact.Completion) :
    Option.Rel ContactAlike ((InboundContact.complete flow completion).update (some contact))
      ((InboundContact.complete flow completion).update (some contact')) := by
  refine .some ?_
  exact congrArg (fun rest : InboundContact => { rest with
    callResultCode := some completion.callResultCode
    recordingS3Key := completion.recordingS3Key.or rest.recordingS3Key
    transcriptS3Key := completion.transcriptS3Key.or rest.transcriptS3Key
    voiceStatus := completion.voiceStatus.or rest.voiceStatus
    employeeId := completion.employeeId.or rest.employeeId }) h

end ContactAlike

/-- A write that treats rows which go together alike. -/
structure WriteAlike (w w' : Write InboundContact) : Prop where
  condition : ∀ {row row'}, Option.Rel ContactAlike row row' → w.condition row = w'.condition row'
  update : ∀ {row row'}, Option.Rel ContactAlike row row' → Option.Rel ContactAlike (w.update row) (w'.update row')

theorem WriteAlike.write {w w' : Write InboundContact} (h : WriteAlike w w') {contacts contacts' : Store String InboundContact}
    (hcontacts : Store.Alike ContactAlike contacts contacts') (contactId : String) :
    Store.Alike ContactAlike (contacts.write contactId w) (contacts'.write contactId w') := by
  have hrow := hcontacts.lookup contactId
  refine hcontacts.set contactId ?_
  rw [Write.run, Write.run, h.condition hrow]
  split
  · exact h.update hrow
  · exact hrow

theorem writeAlike_put {contact contact' : InboundContact} (h : ContactAlike contact contact') :
    WriteAlike (.put contact fun row => row.isNone) (.put contact' fun row => row.isNone) where
  condition hrow := by cases hrow <;> rfl
  update _ := .some h

theorem writeAlike_complete (flow : InboundFlow) (completion : InboundContact.Completion) :
    WriteAlike (InboundContact.complete flow completion) (InboundContact.complete flow completion) where
  condition hrow := by
    cases hrow with
    | none => rfl
    | some h => simp [InboundContact.complete, h.flow_eq]
  update hrow := by
    cases hrow with
    | none => exact .none
    | some h => exact h.complete flow completion

theorem TablesAlike.withContacts {tables tables' : Tables} (h : TablesAlike crypto pairs tables tables')
    {contacts contacts' : Store String InboundContact} (hcontacts : Store.Alike ContactAlike contacts contacts') :
    TablesAlike crypto pairs { tables with inboundContacts := contacts } { tables' with inboundContacts := contacts' } :=
  ⟨h.employees, h.cycles, h.responses, hcontacts⟩

theorem alike_act (hlawful : crypto.Lawful) {tables tables' : Tables} (h : TablesAlike crypto pairs tables tables')
    {c c' : Call} (hcall : CallAlike pairs c c') :
    ResultRel (AnswerAlike crypto pairs c c') (act tables c).1 (act tables' c').1 ∧
      TablesAlike crypto pairs (act tables c).2 (act tables' c').2 := by
  cases hcall with
  | queryEmployees hs hplus =>
    refine ⟨.ok (List.rel_filter ?_ h.employees.rows), h⟩
    exact fun entry entry' hentry => hentry.2.phoneIs_iff hlawful hs hplus
  | queryCycles status =>
    rw [act, act, h.cycles]
    exact ⟨.ok HEq.rfl, h⟩
  | putContact contactId hcontact =>
    have hput := writeAlike_put hcontact
    rw [act, act]
    refine ⟨?_, h.withContacts (hput.write h.inboundContacts contactId)⟩
    dsimp only
    rw [hput.condition (h.inboundContacts.lookup contactId)]
    split
    · exact .ok HEq.rfl
    · exact .error _
  | putResponse cycleId employeeId =>
    rw [act, act, h.responses]
    refine ⟨?_, h.employees, h.cycles, rfl, h.inboundContacts⟩
    split
    · exact .ok HEq.rfl
    · exact .error _
  | appendResponse cycleId employeeId =>
    rw [act, act, h.responses]
    exact ⟨.ok HEq.rfl, h.employees, h.cycles, rfl, h.inboundContacts⟩
  | updateContact contactId flow completion =>
    have hcomplete := writeAlike_complete flow completion
    rw [act, act]
    rw [hcomplete.condition (h.inboundContacts.lookup contactId)]
    split
    · exact ⟨.ok HEq.rfl, h.withContacts (hcomplete.write h.inboundContacts contactId)⟩
    · exact ⟨.error _, h⟩

structure SessionAlike (crypto : FieldCrypto) (pairs : NumberPairs) (s s' : Session) : Prop where
  tables : TablesAlike crypto pairs s.tables s'.tables
  position : s.position = s'.position
  emitted : s.emitted = s'.emitted

theorem alike_step (hlawful : crypto.Lawful) (faults : Nat → Option (PyError × Bool)) (s s' : Session) (act act' : Act)
    (h : SessionAlike crypto pairs s s') (hact : (acts crypto pairs).calls act act') :
    ResultRel ((acts crypto pairs).answers act act') (s.respond faults act).1 (s'.respond faults act').1 ∧
      SessionAlike crypto pairs (s.respond faults act).2 (s'.respond faults act').2 := by
  obtain ⟨tables, position, emitted⟩ := s
  obtain ⟨tables', _, _⟩ := s'
  obtain ⟨htables, rfl, rfl⟩ := h
  cases act with
  | inl c =>
    cases act' with
    | inr line' => exact absurd hact id
    | inl c' =>
      obtain ⟨hanswer, hafter⟩ := alike_act hlawful htables hact
      rw [Session.respond, Session.respond]
      dsimp only
      cases faults position with
      | none => exact ⟨hanswer, hafter, rfl, rfl⟩
      | some fault =>
        refine ⟨.error _, ?_, rfl, rfl⟩
        dsimp only
        split
        · exact hafter
        · exact htables
  | inr line =>
    cases act' with
    | inl c' => exact absurd hact id
    | inr line' =>
      obtain rfl : line = line' := hact
      exact ⟨.refl (fun _ => trivial) _, htables, rfl, rfl⟩

/-! ### The handlers -/

abbrev Unrelated {α β : Type} : α → β → Prop := fun _ _ => True

theorem together_call {c c' : Call} (h : CallAlike pairs c c') :
    Together crypto pairs (AnswerAlike crypto pairs c c') (call c) (call c') :=
  @Program.Lockstep.perform _ _ PyError (acts crypto pairs) (.inl c) (.inl c') h

theorem together_emit (line : Line) : Together crypto pairs Unrelated (emit line) (emit line) :=
  @Program.Lockstep.perform _ _ PyError (acts crypto pairs) (.inr line) (.inr line) rfl

theorem together_pure {α β : Type} {R : α → β → Prop} {a : α} {b : β} (h : R a b) :
    Together crypto pairs R (pure a) (pure b) := .done h

theorem rel_find {rows rows' : List (String × Employee)} (h : List.Forall₂ (RowAlike crypto pairs) rows rows') :
    Option.Rel (RowAlike crypto pairs) (rows.find? fun entry => isVisible entry.2)
      (rows'.find? fun entry => isVisible entry.2) := by
  induction h with
  | nil => exact .none
  | cons hrow _ ih =>
    rw [List.find?_cons, List.find?_cons, hrow.2.isVisible_eq]
    split
    · exact .some hrow
    · exact ih

theorem together_lookupEmployee {s s' : String} (hs : CallerAlike pairs s s') (hplus : s.toList.head? = some '+') :
    Together crypto pairs (Option.Rel (RowAlike crypto pairs)) (lookupEmployee s) (lookupEmployee s') :=
  (together_call (.queryEmployees hs hplus)).bind fun _ _ hrows => together_pure (rel_find hrows)

theorem together_queryCyclesOf (statuses : List CycleStatus) :
    Together crypto pairs Eq (queryCyclesOf statuses) (queryCyclesOf statuses) := by
  induction statuses with
  | nil => exact together_pure rfl
  | cons status rest ih =>
    refine Program.Lockstep.bind_eq ?_ fun rows => ih.bind_eq fun others => together_pure rfl
    exact (together_call (.queryCycles status)).mono fun _ _ h => eq_of_heq h

theorem together_cyclesFor (employeeMatched : Bool) :
    Together crypto pairs Eq (cyclesFor employeeMatched) (cyclesFor employeeMatched) := by
  rw [cyclesFor]
  split
  · exact together_queryCyclesOf _
  · exact together_pure rfl

theorem together_putProvisional (contactId : String) {contact contact' : InboundContact} (h : ContactAlike contact contact') :
    Together crypto pairs Unrelated (putProvisionalInboundContact contactId contact)
      (putProvisionalInboundContact contactId contact') := by
  refine Program.Lockstep.tryCatch ((together_call (.putContact contactId h)).mono fun _ _ _ => trivial) fun e => ?_
  rw [h.flow_eq]
  split
  · exact together_emit _
  · exact .raise _

theorem together_identify (windowDays : Int) (now : Instant) {flat flat' : Value} (h : FlatAlike pairs flat flat') :
    Together crypto pairs Unrelated (identify windowDays now flat) (identify windowDays now flat') := by
  refine (Program.Lockstep.ofExcept (alike_parseIdentifyEvent h)).bind fun parsed parsed' hparsed => ?_
  obtain ⟨contactId, caller⟩ := parsed
  obtain ⟨_, caller'⟩ := parsed'
  obtain ⟨rfl, hcaller, hplus⟩ := hparsed
  refine (together_lookupEmployee hcaller hplus).bind fun employee employee' hemployee => ?_
  have hsome : employee.isSome = employee'.isSome := by cases hemployee <;> rfl
  have hid : employee.map Prod.fst = employee'.map Prod.fst := by
    cases hemployee with
    | none => rfl
    | some hrow => exact congrArg some hrow.1
  rw [hsome, hid]
  refine (together_cyclesFor _).bind_eq fun cycles => ?_
  refine Program.Lockstep.ofExcept_bind _ fun decision => ?_
  refine (together_putProvisional contactId ?_).bind fun _ _ _ => ?_
  · rfl
  · have hline : auditReceived now contactId caller decision.1 (employee'.map Prod.fst) decision.2 =
        auditReceived now contactId caller' decision.1 (employee'.map Prod.fst) decision.2 := by
      rw [auditReceived, auditReceived, auditLine, auditLine, Option.map_some, Option.map_some, hcaller.maskPhone_eq]
    dsimp only
    rw [hline]
    exact (together_emit _).bind fun _ _ _ => .ofExcept (.refl (fun _ => trivial) _)

theorem together_unit {c : Call} (h : CallAlike pairs c c) : Together crypto pairs Unrelated (call c) (call c) :=
  (together_call h).mono fun _ _ _ => trivial

theorem together_appendInbound (cycleId employeeId : String) :
    Together crypto pairs Unrelated (appendInbound cycleId employeeId) (appendInbound cycleId employeeId) := by
  refine Program.Lockstep.bind (R := Unrelated) ?_ fun _ _ _ => together_unit (.appendResponse cycleId employeeId)
  refine Program.Lockstep.tryCatch (together_unit (.putResponse cycleId employeeId)) fun e => ?_
  split
  · exact together_pure trivial
  · exact .raise _

theorem together_finalize (now : Instant) {flat flat' : Value} (h : FlatAlike pairs flat flat') :
    Together crypto pairs Unrelated (finalize now flat) (finalize now flat') := by
  rw [finalize, finalize, h.parseFinalizeEvent_eq]
  refine .ofExcept_bind _ fun parsed => ?_
  split
  · refine (together_appendInbound _ _).bind fun _ _ _ => (together_unit (.updateContact _ _ _)).bind fun _ _ _ => ?_
    exact (together_emit _).bind fun _ _ _ => together_pure trivial
  · refine (together_unit (.updateContact _ _ _)).bind fun _ _ _ => ?_
    exact (together_emit _).bind fun _ _ _ => together_pure trivial

theorem together_loggedHandler (windowDays : Int) (now : Instant) {event event' : Value} (h : EventAlike pairs event event') :
    Together crypto pairs Unrelated (loggedHandler windowDays now event) (loggedHandler windowDays now event') := by
  cases h with
  | fields h =>
    refine (Program.Lockstep.ofExcept h).bind fun flat flat' hflat => ?_
    rw [hflat.others "step" (by decide)]
    split
    · exact together_identify windowDays now hflat
    · exact together_finalize now hflat
    · exact .raise _
  | other _ h =>
    unfold loggedHandler
    split
    · exact absurd rfl (h _)
    · exact .raise _

/-- Whatever fails, the lines of an invocation do not tell the caller's number. -/
theorem receive_emitted_eq (hlawful : crypto.Lawful) (windowDays : Int) (now : Instant) {event event' : Value}
    (hevent : EventAlike pairs event event') (faults : Nat → Option (PyError × Bool)) {tables tables' : Tables}
    (htables : TablesAlike crypto pairs tables tables') :
    (receive windowDays now event faults tables).2.emitted = (receive windowDays now event' faults tables').2.emitted := by
  have hstart : SessionAlike crypto pairs { tables } { tables := tables' } := ⟨htables, rfl, rfl⟩
  exact ((together_loggedHandler windowDays now hevent).run (alike_step hlawful faults) hstart).2.emitted

end Inbound

end SafetyConfirmation
