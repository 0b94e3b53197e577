import Mathlib.Algebra.GroupWithZero.Nat
import SafetyConfirmation.Lib.StepMachine
import SafetyConfirmation.Inbound.ContactFlow
import SafetyConfirmation.Inbound.Deliveries

/-!
# Finalizing a contact more than once

A finalize of an `ACTIVE_CYCLE` call appends `INBOUND` before it looks at the Inbound_Contact row, and appending is not
idempotent. When the deliveries of a contact append it once, and when an invocation that raises has left it behind.
-/

namespace SafetyConfirmation

namespace Inbound

open KeyedStore StepMachine FlowGraph

/-! ### The rows of a finalize -/

def SameRows (responses responses' : Store (String × String) Response) : Prop :=
  ∀ key, responses'.lookup key = responses.lookup key

theorem SameRows.refl (responses : Store (String × String) Response) : SameRows responses responses := fun _ => rfl

/-- The contact is one of a running cycle, and a finalize has completed it. -/
def IsCompleted (row : Option InboundContact) : Prop :=
  ∃ contact, row = some contact ∧ contact.flow = .activeCycle ∧ contact.callResultCode.isSome = true

def Completed (inboundContacts : Store String InboundContact) (contactId : String) : Prop :=
  IsCompleted (inboundContacts.lookup contactId)

/-- The finalize of an `ACTIVE_CYCLE` call that an event asks for. -/
def activeFinalize? (event : Value) : Option FinalizeEvent :=
  match event with
  | .dict _ =>
    match normalizeConnectEvent event with
    | .error _ => none
    | .ok flat =>
      match field flat "step" with
      | .str "finalize" => (parseFinalizeEvent flat).toOption.filter fun parsed => parsed.flow = .activeCycle
      | _ => none
  | _ => none

def FinalizeEvent.key (parsed : FinalizeEvent) : String × String := (parsed.cycleId, parsed.employeeId)

/-- The contact was identified for a running cycle, and no finalize has completed it yet. -/
def Pending (inboundContacts : Store String InboundContact) (contactId : String) : Prop :=
  ∃ contact, inboundContacts.lookup contactId = some contact ∧ contact.flow = .activeCycle ∧ contact.callResultCode = none

/-- A finalize that leaves nothing half done: it is stopped before it has written anything, or it is the first one of a
contact that identify stored as `ACTIVE_CYCLE`, and no call of it fails. -/
def Clean (faults : FinalizeFaults) (parsed : FinalizeEvent) (tables : Tables) : Prop :=
  match faults.putItem, faults.appendItem, faults.updateItem with
  | some fault, _, _ => fault.applied = true → (tables.responses.lookup parsed.key).isSome = true
  | none, some fault, _ => fault.applied = false ∧ (tables.responses.lookup parsed.key).isSome = true
  | none, none, some _ => False
  | none, none, none => Pending tables.inboundContacts parsed.contactId

def Pending.decidable (row : Option InboundContact) :
    Decidable (∃ contact, row = some contact ∧ contact.flow = .activeCycle ∧ contact.callResultCode = none) :=
  match row with
  | none => .isFalse fun ⟨contact, hnone, _⟩ => by cases hnone
  | some contact => decidable_of_iff (contact.flow = .activeCycle ∧ contact.callResultCode = none) (by simp)

instance (faults : FinalizeFaults) (parsed : FinalizeEvent) (tables : Tables) : Decidable (Clean faults parsed tables) :=
  match faults with
  | ⟨some _, _, _⟩ => inferInstanceAs (Decidable (_ → _))
  | ⟨none, some _, _⟩ => inferInstanceAs (Decidable (_ ∧ _))
  | ⟨none, none, some _⟩ => .isFalse id
  | ⟨none, none, none⟩ => Pending.decidable _

/-! ### What one finalize does -/

section

variable {responses : Store (String × String) Response} {key : String × String}

theorem lookup_putInbound (responses : Store (String × String) Response) (key key' : String × String) :
    (responses.write key Response.putInbound).lookup key' =
      if key' = key then some ((responses.lookup key).getD
        { callAttempts := some 0, callResultCodes := some [], voiceStatus := some .pending })
      else responses.lookup key' := by
  rw [Store.write, Store.lookup_set]
  split
  · cases responses.lookup key <;> rfl
  · rfl

theorem sameRows_putInbound (h : (responses.lookup key).isSome = true) :
    SameRows responses (responses.write key Response.putInbound) := by
  intro key'
  obtain ⟨row, hrow⟩ := Option.isSome_iff_exists.1 h
  rw [lookup_putInbound]
  split
  · subst key'
    rw [hrow, Option.getD_some]
  · rfl

theorem not_sameRows_putInbound (h : responses.lookup key = none) :
    ¬ SameRows responses (responses.write key Response.putInbound) := by
  intro hsame
  have hkey := hsame key
  rw [lookup_putInbound, if_pos rfl, h] at hkey
  cases hkey

/-- The row of the call gains one `INBOUND`, and no attempt. -/
theorem callResultCodesOf_appendInbound (responses : Store (String × String) Response) (key : String × String) :
    callResultCodesOf (((responses.write key Response.putInbound).write key Response.appendInbound).lookup key) =
      callResultCodesOf (responses.lookup key) ++ ["INBOUND"] := by
  rw [Store.lookup_write_self, Store.lookup_write_self]
  cases responses.lookup key <;> rfl

theorem attemptsOf_appendInbound (responses : Store (String × String) Response) (key : String × String) :
    Response.attemptsOf (((responses.write key Response.putInbound).write key Response.appendInbound).lookup key) =
      Response.attemptsOf (responses.lookup key) := by
  rw [Store.lookup_write_self, Store.lookup_write_self]
  cases responses.lookup key <;> rfl

theorem not_sameRows_appendInbound (responses : Store (String × String) Response) (key : String × String) :
    ¬ SameRows responses ((responses.write key Response.putInbound).write key Response.appendInbound) := by
  intro hsame
  have hcodes := congrArg callResultCodesOf (hsame key)
  rw [callResultCodesOf_appendInbound] at hcodes
  exact absurd hcodes (by simp)

end

def appended (tables : Tables) (parsed : FinalizeEvent) : Store (String × String) Response :=
  appendInboundToResponse tables.responses parsed.cycleId parsed.employeeId

def completed (tables : Tables) (now : Instant) (parsed : FinalizeEvent) : Store String InboundContact :=
  tables.inboundContacts.write parsed.contactId
    (InboundContact.complete .activeCycle (activeCompletion now parsed.contactId parsed.employeeId))

/-- The three ways a finalize of an `ACTIVE_CYCLE` call ends. -/
inductive FinalizeOutcome (faults : FinalizeFaults) (now : Instant) (parsed : FinalizeEvent) (tables : Tables)
    (result : Except PyError StringMap × Tables) : Prop where
  | stopped (hclean : Clean faults parsed tables) (hraised : ∃ e, result.1 = .error e)
      (hrows : SameRows tables.responses result.2.responses)
      (hcontacts : result.2.inboundContacts = tables.inboundContacts)
  | torn (hclean : ¬ Clean faults parsed tables) (hraised : ∃ e, result.1 = .error e)
      (hrows : ¬ SameRows tables.responses result.2.responses)
      (hcontacts : result.2.inboundContacts = tables.inboundContacts ∨
        result.2.inboundContacts = completed tables now parsed)
  | done (hfaults : faults.putItem = none ∧ faults.appendItem = none ∧ faults.updateItem = none)
      (hok : ∃ answer, result.1 = .ok answer) (hrows : result.2.responses = appended tables parsed)
      (hstored : ∃ contact, tables.inboundContacts.lookup parsed.contactId = some contact ∧ contact.flow = .activeCycle)
      (hcontacts : result.2.inboundContacts = completed tables now parsed)

theorem condition_complete {row : Option InboundContact} {flow : InboundFlow} {completion : InboundContact.Completion} :
    (InboundContact.complete flow completion).condition row = true ↔ ∃ contact, row = some contact ∧ contact.flow = flow := by
  cases row with
  | none => simp [InboundContact.complete]
  | some contact => simp [InboundContact.complete]

theorem not_clean_of_faultless {faults : FinalizeFaults} {parsed : FinalizeEvent} {tables : Tables}
    (hput : faults.putItem = none) (happend : faults.appendItem = none)
    (hnot : faults.updateItem = none → ¬ Pending tables.inboundContacts parsed.contactId) : ¬ Clean faults parsed tables := by
  rw [Clean, hput, happend]
  cases hupdate : faults.updateItem with
  | none => exact hnot hupdate
  | some fault => exact id

theorem finalizeActive_outcome (faults : FinalizeFaults) (now : Instant) (parsed : FinalizeEvent) (tables : Tables) :
    FinalizeOutcome faults now parsed tables
      (finalizeActive faults now parsed.contactId parsed.employeeId parsed.cycleId tables) := by
  cases hput : faults.putItem with
  | some fault =>
    have hresult : finalizeActive faults now parsed.contactId parsed.employeeId parsed.cycleId tables =
        (.error fault.error, { tables with responses :=
          if fault.applied then tables.responses.write parsed.key Response.putInbound else tables.responses }) := by
      rw [finalizeActive, appendInboundToResponseWith, hput]
      rfl
    rw [hresult]
    cases happlied : fault.applied with
    | false => exact .stopped (by rw [Clean, hput]; simp [happlied]) ⟨_, rfl⟩ (.refl _) rfl
    | true =>
      cases hrow : tables.responses.lookup parsed.key with
      | none =>
        refine .torn ?_ ⟨_, rfl⟩ (not_sameRows_putInbound hrow) (.inl rfl)
        rw [Clean, hput]
        simp [happlied, hrow]
      | some row =>
        refine .stopped ?_ ⟨_, rfl⟩ (sameRows_putInbound (by rw [hrow]; rfl)) rfl
        rw [Clean, hput]
        simp [hrow]
  | none =>
    cases happend : faults.appendItem with
    | some fault =>
      have hresult : finalizeActive faults now parsed.contactId parsed.employeeId parsed.cycleId tables =
          (.error fault.error, { tables with responses :=
            if fault.applied then (appended tables parsed) else tables.responses.write parsed.key Response.putInbound }) := by
        rw [finalizeActive, appendInboundToResponseWith, hput, happend]
        rfl
      rw [hresult]
      cases happlied : fault.applied with
      | true =>
        refine .torn ?_ ⟨_, rfl⟩ (not_sameRows_appendInbound tables.responses parsed.key) (.inl rfl)
        rw [Clean, hput, happend]
        simp [happlied]
      | false =>
        cases hrow : tables.responses.lookup parsed.key with
        | none =>
          refine .torn ?_ ⟨_, rfl⟩ (not_sameRows_putInbound hrow) (.inl rfl)
          rw [Clean, hput, happend]
          simp [hrow]
        | some row =>
          refine .stopped ?_ ⟨_, rfl⟩ (sameRows_putInbound (by rw [hrow]; rfl)) rfl
          rw [Clean, hput, happend]
          simp [happlied, hrow]
    | none =>
      have hresult : finalizeActive faults now parsed.contactId parsed.employeeId parsed.cycleId tables =
          finalizeInboundContactWith faults.updateItem parsed.contactId .activeCycle
            (activeCompletion now parsed.contactId parsed.employeeId)
            [("status", "ok"), ("flow", InboundFlow.activeCycle.name), ("contactId", parsed.contactId),
              ("cycleId", parsed.cycleId), ("employeeId", parsed.employeeId)]
            { tables with responses := appended tables parsed } := by
        rw [finalizeActive, appendInboundToResponseWith, hput, happend]
        rfl
      have hrows : ¬ SameRows tables.responses (appended tables parsed) :=
        not_sameRows_appendInbound tables.responses parsed.key
      rw [hresult, finalizeInboundContactWith, finalizeInboundContact]
      by_cases hstored : ∃ contact, tables.inboundContacts.lookup parsed.contactId = some contact ∧ contact.flow = .activeCycle
      · rw [if_pos (condition_complete.2 hstored)]
        cases hupdate : faults.updateItem with
        | none => exact .done ⟨hput, happend, hupdate⟩ ⟨_, rfl⟩ rfl hstored rfl
        | some fault =>
          refine .torn (not_clean_of_faultless hput happend fun hnone => ?_) ⟨_, rfl⟩ ?_ ?_
          · rw [hupdate] at hnone
            cases hnone
          · cases happlied : fault.applied <;> simpa [withFault, happlied] using hrows
          · cases happlied : fault.applied
            · exact .inl (by simp [withFault, happlied])
            · exact .inr (by simp [withFault, happlied, completed])
      · rw [if_neg (fun h => hstored (condition_complete.1 h))]
        have hpending : ¬ Pending tables.inboundContacts parsed.contactId :=
          fun ⟨contact, hcontact, hflow, _⟩ => hstored ⟨contact, hcontact, hflow⟩
        cases faults.updateItem with
        | none => exact .torn (not_clean_of_faultless hput happend fun _ => hpending) ⟨_, rfl⟩ hrows (.inl rfl)
        | some fault => exact .torn (not_clean_of_faultless hput happend fun _ => hpending) ⟨_, rfl⟩ hrows (.inl rfl)

/-! ### What a delivery does -/

variable {faults : Faults} {windowDays : Int} {now : Instant} {event : Value} {tables : Tables} {parsed : FinalizeEvent}

theorem completed_write_iff {inboundContacts : Store String InboundContact} {contactId : String}
    {w : Write InboundContact}
    (hw : ∀ row, IsCompleted (w.run row) ↔ IsCompleted row) (other : String) : Completed (inboundContacts.write contactId w) other ↔ Completed inboundContacts other := by
  by_cases hother : other = contactId
  · subst other
    rw [Completed, Completed, Store.lookup_write_self]
    exact hw _
  · rw [Completed, Completed, Store.lookup_write_ne _ _ hother]

theorem completed_putProvisional_iff (inboundContacts : Store String InboundContact) (now : Instant)
    (contactId callerNumber : String) (flow : InboundFlow) (employeeId cycleId : Option String) (other : String) :
    Completed (inboundContacts.write contactId (InboundContact.putProvisional now callerNumber flow employeeId cycleId)) other ↔
      Completed inboundContacts other := by
  refine completed_write_iff (fun row => ?_) other
  cases row with
  | some contact => exact Iff.rfl
  | none =>
    refine iff_of_false ?_ fun ⟨contact, hnone, _⟩ => by cases hnone
    rintro ⟨contact, hcontact, -, hcode⟩
    cases hcontact
    cases hcode

theorem completed_complete_iff (inboundContacts : Store String InboundContact) (contactId : String) {flow : InboundFlow}
    (hflow : flow ≠ .activeCycle) (completion : InboundContact.Completion) (other : String) :
    Completed (inboundContacts.write contactId (InboundContact.complete flow completion)) other ↔
      Completed inboundContacts other := by
  refine completed_write_iff (fun row => ?_) other
  refine Write.run_induction (motive := fun row' => IsCompleted row' ↔ IsCompleted row) Iff.rfl fun hcondition => ?_
  obtain ⟨contact, rfl, rfl⟩ := condition_complete.1 hcondition
  refine iff_of_false ?_ ?_
  · rintro ⟨contact', hcontact', hactive, -⟩
    cases hcontact'
    exact hflow hactive
  · rintro ⟨contact', hcontact', hactive, -⟩
    cases hcontact'
    exact hflow hactive

/-- The step leaves the Response table as it is and completes no contact of a running cycle. -/
def Harmless (tables tables' : Tables) : Prop :=
  tables'.responses = tables.responses ∧
    ∀ contactId, Completed tables'.inboundContacts contactId ↔ Completed tables.inboundContacts contactId

theorem Harmless.refl (tables : Tables) : Harmless tables tables := ⟨rfl, fun _ => Iff.rfl⟩

theorem harmless_withFault {fault : Option Fault} {result : Except PyError StringMap × Tables}
    (h : Harmless tables result.2) : Harmless tables (withFault fault tables result).2 := by
  cases fault with
  | none => exact h
  | some fault =>
    rw [withFault]
    split
    · dsimp only
      split
      · exact h
      · exact .refl tables
    · exact h

theorem harmless_handleIdentify : Harmless tables (handleIdentify windowDays now event tables).2 := by
  rw [handleIdentify]
  split
  · exact .refl tables
  · dsimp only
    split
    · exact .refl tables
    · exact ⟨rfl, completed_putProvisional_iff tables.inboundContacts now _ _ _ _ _⟩

theorem harmless_finalizeInboundContact {contactId : String} {flow : InboundFlow} (hflow : flow ≠ .activeCycle)
    (completion : InboundContact.Completion) (answer : StringMap) :
    Harmless tables (finalizeInboundContact contactId flow completion answer tables).2 := by
  rw [finalizeInboundContact]
  split
  · exact ⟨rfl, completed_complete_iff tables.inboundContacts contactId hflow completion⟩
  · exact .refl tables

theorem deliver_of_active (h : activeFinalize? event = some parsed) : deliver faults windowDays now event tables =
    finalizeActive faults.finalize now parsed.contactId parsed.employeeId parsed.cycleId tables := by
  cases event with
  | dict items =>
    rw [activeFinalize?] at h
    rw [deliver, dispatch]
    cases hflat : normalizeConnectEvent (.dict items) with
    | error e =>
      rw [hflat] at h
      cases h
    | ok flat =>
      rw [hflat] at h
      dsimp only at h ⊢
      split at h
      · rename_i hstep
        obtain ⟨hparsed, hactive⟩ := Option.filter_eq_some_iff.1 h
        cases hevent : parseFinalizeEvent flat with
        | error e =>
          rw [hevent] at hparsed
          cases hparsed
        | ok parsed' =>
          rw [hevent] at hparsed
          cases hparsed
          rw [hstep]
          rw [handleFinalizeWith, hevent]
          exact if_pos (of_decide_eq_true hactive)
      · cases h
  | _ => cases h

/-- Every other delivery is harmless. -/
theorem harmless_of_not_active (h : activeFinalize? event = none) :
    Harmless tables (deliver faults windowDays now event tables).2 := by
  cases event with
  | dict items =>
    rw [activeFinalize?] at h
    rw [deliver, dispatch]
    cases hflat : normalizeConnectEvent (.dict items) with
    | error e => exact .refl tables
    | ok flat =>
      rw [hflat] at h
      dsimp only at h ⊢
      split
      · exact harmless_withFault harmless_handleIdentify
      · rename_i hstep
        rw [hstep] at h
        rw [handleFinalizeWith]
        cases hevent : parseFinalizeEvent flat with
        | error e => exact .refl tables
        | ok parsed =>
          rw [hevent] at h
          have hflow : parsed.flow ≠ .activeCycle := by
            intro hactive
            simp [Except.toOption, hactive] at h
          dsimp only
          rw [if_neg hflow]
          exact harmless_withFault (harmless_finalizeInboundContact hflow _ _)
      · exact .refl tables
  | _ => exact .refl tables

/-! ### All deliveries -/

namespace Redelivery

/-- One delivery, the `ACTIVE_CYCLE` finalize it asked for, and the Response table before and after it. -/
structure Delivery where
  parsed : Option FinalizeEvent
  raised : Bool
  before : Store (String × String) Response
  after : Store (String × String) Response

structure State where
  tables : Tables
  log : List Delivery := []

/-- Between two deliveries the other lambdas change what they like of the other tables. -/
inductive Label where
  | deliver (faults : Faults) (windowDays : Int) (now : Instant) (event : Value)
  | others (employees : Store String Employee) (cycles : Store String Cycle)
      (responses : Store (String × String) Response)

def isError : Except PyError StringMap → Bool
  | .error _ => true
  | .ok _ => false

def record (event : Value) (tables : Tables) (result : Except PyError StringMap × Tables) : Delivery where
  parsed := activeFinalize? event
  raised := isError result.1
  before := tables.responses
  after := result.2.responses

def step (s : State) : Label → Option State
  | .deliver faults windowDays now event =>
    let result := Inbound.deliver faults windowDays now event s.tables
    some { tables := result.2, log := record event s.tables result :: s.log }
  | .others employees cycles responses => some { s with tables := { s.tables with employees, cycles, responses } }

/-- No call of this contact has been delivered. -/
def start (employees : Store String Employee) (cycles : Store String Cycle)
    (responses : Store (String × String) Response) : State where
  tables := { employees, cycles, responses }

def Delivery.succeeds (contactId : String) (d : Delivery) : Bool :=
  !d.raised && d.parsed.any fun parsed => parsed.contactId == contactId

def successes (log : List Delivery) (contactId : String) : List Delivery := log.filter (Delivery.succeeds contactId)

def inboundCount (row : Option Response) : Nat := (callResultCodesOf row).count "INBOUND"

/-- How many `INBOUND` entries the delivery added to the row of its call. -/
def Delivery.gained (d : Delivery) : Nat :=
  d.parsed.elim 0 fun parsed => inboundCount (d.after.lookup parsed.key) - inboundCount (d.before.lookup parsed.key)

/-- What raises changes no Response row, and the finalizes of a contact that succeed add one `INBOUND` and no attempt. -/
structure FinalizedOnce (log : List Delivery) : Prop where
  raised : ∀ d ∈ log, d.raised = true → SameRows d.before d.after
  once : ∀ contactId, successes log contactId ≠ [] → ((successes log contactId).map Delivery.gained).sum = 1
  attempts : ∀ d ∈ log, d.raised = false →
    ∀ key, Response.attemptsOf (d.after.lookup key) = Response.attemptsOf (d.before.lookup key)

/-- Every `ACTIVE_CYCLE` finalize is stopped before it writes, or is the first of its contact and meets no fault. -/
def CleanDelivery (s : State) : Label → Prop
  | .deliver faults _ _ event => ∀ parsed ∈ activeFinalize? event, Clean faults.finalize parsed s.tables
  | .others .. => True

instance (s : State) : (label : Label) → Decidable (CleanDelivery s label)
  | .deliver faults _ _ event =>
    match hevent : activeFinalize? event with
    | some parsed => decidable_of_iff (Clean faults.finalize parsed s.tables) (by simp [CleanDelivery, hevent])
    | none => .isTrue (by simp [CleanDelivery, hevent])
  | .others .. => .isTrue trivial

/-! ### Counting the successes -/

def Torn (log : List Delivery) : Prop := ∃ d ∈ log, d.raised = true ∧ ¬ SameRows d.before d.after

/-- What every delivery of a log does: a success adds one entry, and no delivery that returns counts an attempt. -/
structure Recorded (log : List Delivery) : Prop where
  gained : ∀ d ∈ log, ∀ contactId, d.succeeds contactId = true → d.gained = 1
  attempts : ∀ d ∈ log, d.raised = false →
    ∀ key, Response.attemptsOf (d.after.lookup key) = Response.attemptsOf (d.before.lookup key)

theorem sum_gained {log : List Delivery} (h : Recorded log) (contactId : String) :
    ((successes log contactId).map Delivery.gained).sum = (successes log contactId).length := by
  have hone : (successes log contactId).map Delivery.gained = (successes log contactId).map fun _ => 1 := by
    apply List.map_congr_left
    intro d hd
    obtain ⟨hmem, hsucceeds⟩ := List.mem_filter.1 hd
    exact h.gained d hmem contactId hsucceeds
  rw [hone]
  simp

theorem finalizedOnce_iff {log : List Delivery} (h : Recorded log) :
    FinalizedOnce log ↔ ¬ Torn log ∧ ∀ contactId, (successes log contactId).length ≤ 1 := by
  constructor
  · intro honce
    refine ⟨fun ⟨d, hd, hraised, hrows⟩ => hrows (honce.raised d hd hraised), fun contactId => ?_⟩
    by_cases hnil : successes log contactId = []
    · rw [hnil]
      exact Nat.zero_le 1
    · rw [← sum_gained h, honce.once contactId hnil]
  · rintro ⟨hwhole, hlength⟩
    refine ⟨fun d hd hraised => ?_, fun contactId hnil => ?_, h.attempts⟩
    · by_contra hrows
      exact hwhole ⟨d, hd, hraised, hrows⟩
    · rw [sum_gained h]
      exact Nat.le_antisymm (hlength contactId) (List.length_pos_iff.2 hnil)

theorem successes_cons (d : Delivery) (log : List Delivery) (contactId : String) : successes (d :: log) contactId =
    if d.succeeds contactId = true then d :: successes log contactId else successes log contactId := List.filter_cons

theorem torn_cons {d : Delivery} {log : List Delivery} : Torn (d :: log) ↔
    (d.raised = true ∧ ¬ SameRows d.before d.after) ∨ Torn log := by
  simp [Torn]

/-! ### One delivery -/

/-- The log agrees with the Inbound_Contact table: a contact is completed by a success, or in a delivery that raised. -/
structure Sound (s : State) : Prop where
  recorded : Recorded s.log
  completed_of_success : ∀ contactId, successes s.log contactId ≠ [] → Completed s.tables.inboundContacts contactId
  success_of_completed : ∀ contactId, Completed s.tables.inboundContacts contactId →
    successes s.log contactId ≠ [] ∨ Torn s.log

theorem sound_start (employees : Store String Employee) (cycles : Store String Cycle)
    (responses : Store (String × String) Response) : Sound (start employees cycles responses) where
  recorded := ⟨fun d hd => (List.not_mem_nil hd).elim, fun d hd => (List.not_mem_nil hd).elim⟩
  completed_of_success contactId hsuccess := absurd rfl hsuccess
  success_of_completed contactId hcompleted := by
    obtain ⟨contact, hcontact, -⟩ := hcompleted
    cases hcontact

theorem lookup_appended_ne {key : String × String} (h : key ≠ parsed.key) :
    (appended tables parsed).lookup key = tables.responses.lookup key := by
  have hkey : key ≠ (parsed.cycleId, parsed.employeeId) := h
  rw [appended, appendInboundToResponse, Store.lookup_write_ne _ _ hkey, Store.lookup_write_ne _ _ hkey]

theorem attemptsOf_appended (tables : Tables) (parsed : FinalizeEvent) (key : String × String) :
    Response.attemptsOf ((appended tables parsed).lookup key) = Response.attemptsOf (tables.responses.lookup key) := by
  by_cases hkey : key = parsed.key
  · subst key
    exact attemptsOf_appendInbound tables.responses parsed.key
  · rw [lookup_appended_ne hkey]

theorem inboundCount_appended (tables : Tables) (parsed : FinalizeEvent) :
    inboundCount ((appended tables parsed).lookup parsed.key) = inboundCount (tables.responses.lookup parsed.key) + 1 := by
  have hcodes : callResultCodesOf ((appended tables parsed).lookup parsed.key) =
      callResultCodesOf (tables.responses.lookup parsed.key) ++ ["INBOUND"] :=
    callResultCodesOf_appendInbound tables.responses parsed.key
  rw [inboundCount, hcodes, List.count_append]
  rfl

theorem completed_completed_iff (now : Instant)
    (hstored : ∃ contact, tables.inboundContacts.lookup parsed.contactId = some contact ∧ contact.flow = .activeCycle)
    (contactId : String) : Completed (completed tables now parsed) contactId ↔
      contactId = parsed.contactId ∨ Completed tables.inboundContacts contactId := by
  by_cases hcontact : contactId = parsed.contactId
  · subst contactId
    refine iff_of_true ?_ (.inl rfl)
    obtain ⟨contact, hlookup, hflow⟩ := hstored
    rw [Completed, completed, Store.lookup_write_self, Write.run_of_condition (condition_complete.2 ⟨contact, hlookup, hflow⟩),
      hlookup]
    exact ⟨_, rfl, hflow, rfl⟩
  · rw [Completed, completed, Store.lookup_write_ne _ _ hcontact, ← Completed]
    exact (or_iff_right hcontact).symm

theorem completed_completed_of_completed (now : Instant) (parsed : FinalizeEvent) {contactId : String}
    (h : Completed tables.inboundContacts contactId) : Completed (completed tables now parsed) contactId := by
  by_cases hstored : ∃ contact, tables.inboundContacts.lookup parsed.contactId = some contact ∧ contact.flow = .activeCycle
  · exact (completed_completed_iff now hstored contactId).2 (.inr h)
  · by_cases hcontact : contactId = parsed.contactId
    · obtain ⟨contact, hlookup, hflow, -⟩ := h
      rw [hcontact] at hlookup
      exact absurd ⟨contact, hlookup, hflow⟩ hstored
    · rw [Completed, completed, Store.lookup_write_ne _ _ hcontact]
      exact h

theorem succeeds_of_raised {d : Delivery} (h : d.raised = true) (contactId : String) : d.succeeds contactId = false := by
  rw [Delivery.succeeds, h]
  rfl

theorem succeeds_of_parsed_none {d : Delivery} (h : d.parsed = none) (contactId : String) :
    d.succeeds contactId = false := by
  rw [Delivery.succeeds, h]
  exact Bool.and_false _

theorem succeeds_iff {d : Delivery} (hraised : d.raised = false) (hparsed : d.parsed = some parsed) (contactId : String) :
    d.succeeds contactId = true ↔ contactId = parsed.contactId := by
  rw [Delivery.succeeds, hraised, hparsed, Option.any_some, Bool.not_false, Bool.true_and, beq_iff_eq]
  exact eq_comm

theorem recorded_cons {d : Delivery} {log : List Delivery} (h : Recorded log)
    (hgained : ∀ contactId, d.succeeds contactId = true → d.gained = 1)
    (hattempts : d.raised = false →
      ∀ key, Response.attemptsOf (d.after.lookup key) = Response.attemptsOf (d.before.lookup key)) :
    Recorded (d :: log) := by
  constructor
  · intro d' hd'
    rcases List.mem_cons.1 hd' with rfl | hd'
    · exact hgained
    · exact h.gained d' hd'
  · intro d' hd'
    rcases List.mem_cons.1 hd' with rfl | hd'
    · exact hattempts
    · exact h.attempts d' hd'

/-- A delivery that is no success and completes nothing new, unless it raised and left rows behind. -/
theorem sound_of_no_success {s : State} (hs : Sound s) {d : Delivery} {tables' : Tables}
    (hsucceeds : ∀ contactId, d.succeeds contactId = false)
    (hattempts : d.raised = false →
      ∀ key, Response.attemptsOf (d.after.lookup key) = Response.attemptsOf (d.before.lookup key))
    (hkept : ∀ contactId, Completed s.tables.inboundContacts contactId → Completed tables'.inboundContacts contactId)
    (hnew : ∀ contactId, Completed tables'.inboundContacts contactId →
      Completed s.tables.inboundContacts contactId ∨ Torn (d :: s.log)) :
    Sound { tables := tables', log := d :: s.log } := by
  have hlog : ∀ contactId, successes (d :: s.log) contactId = successes s.log contactId := by
    intro contactId
    rw [successes_cons, hsucceeds contactId]
    rfl
  refine ⟨recorded_cons hs.recorded (fun contactId h => ?_) hattempts, fun contactId hsuccess => ?_, fun contactId hdone => ?_⟩
  · rw [hsucceeds contactId] at h
    cases h
  · rw [hlog] at hsuccess
    exact hkept contactId (hs.completed_of_success contactId hsuccess)
  · rw [hlog]
    rcases hnew contactId hdone with hold | htorn
    · exact (hs.success_of_completed contactId hold).imp_right fun h => torn_cons.2 (.inr h)
    · exact .inr htorn

theorem activeFinalize_outcome {faults : Faults} {windowDays : Int} {now : Instant} {event : Value} (tables : Tables)
    (hevent : activeFinalize? event = some parsed) :
    FinalizeOutcome faults.finalize now parsed tables (Inbound.deliver faults windowDays now event tables) := by
  rw [deliver_of_active hevent]
  exact finalizeActive_outcome faults.finalize now parsed tables

theorem raised_record_error {event : Value} {tables : Tables} {result : Except PyError StringMap × Tables}
    (h : ∃ e, result.1 = .error e) : (record event tables result).raised = true := by
  obtain ⟨e, he⟩ := h
  rw [record, he]
  rfl

theorem raised_record_ok {event : Value} {tables : Tables} {result : Except PyError StringMap × Tables}
    (h : ∃ answer, result.1 = .ok answer) : (record event tables result).raised = false := by
  obtain ⟨answer, hanswer⟩ := h
  rw [record, hanswer]
  rfl

theorem sound_of_success {s : State} (hs : Sound s) {d : Delivery} {tables' : Tables} (hraised : d.raised = false)
    (hparsed : d.parsed = some parsed) (hgained : d.gained = 1)
    (hattempts : ∀ key, Response.attemptsOf (d.after.lookup key) = Response.attemptsOf (d.before.lookup key))
    (hcompleted : ∀ contactId, Completed tables'.inboundContacts contactId ↔
      contactId = parsed.contactId ∨ Completed s.tables.inboundContacts contactId) :
    Sound { tables := tables', log := d :: s.log } := by
  refine ⟨recorded_cons hs.recorded (fun _ _ => hgained) fun _ => hattempts, fun contactId hsuccess => ?_,
    fun contactId hdone => ?_⟩
  · rw [successes_cons] at hsuccess
    split at hsuccess
    · rename_i hsucceeds
      exact (hcompleted contactId).2 (.inl ((succeeds_iff hraised hparsed contactId).1 hsucceeds))
    · exact (hcompleted contactId).2 (.inr (hs.completed_of_success contactId hsuccess))
  · rw [successes_cons]
    rcases (hcompleted contactId).1 hdone with heq | hold
    · rw [if_pos ((succeeds_iff hraised hparsed contactId).2 heq)]
      exact .inl (List.cons_ne_nil _ _)
    · rcases hs.success_of_completed contactId hold with hsuccess | htorn
      · refine .inl ?_
        split
        · exact List.cons_ne_nil _ _
        · exact hsuccess
      · exact .inr (torn_cons.2 (.inr htorn))

variable {s t : State} {label : Label}

theorem sound_step (hs : Sound s) (h : step s label = some t) : Sound t := by
  cases label with
  | others employees cycles responses =>
    cases h
    exact ⟨hs.recorded, hs.completed_of_success, hs.success_of_completed⟩
  | deliver faults windowDays now event =>
    cases h
    cases hevent : activeFinalize? event with
    | none =>
      obtain ⟨hrows, hcontacts⟩ := @harmless_of_not_active faults windowDays now event s.tables hevent
      refine sound_of_no_success hs (succeeds_of_parsed_none hevent) (fun _ key => ?_)
        (fun contactId => (hcontacts contactId).2) fun contactId hdone => .inl ((hcontacts contactId).1 hdone)
      rw [record, hrows]
    | some parsed =>
      have houtcome := @activeFinalize_outcome parsed faults windowDays now event s.tables hevent
      cases houtcome with
      | stopped hclean hraised hrows hcontacts =>
        have hraised := @raised_record_error event s.tables _ hraised
        refine sound_of_no_success hs (succeeds_of_raised hraised) (fun hfalse => ?_) (fun contactId hold => ?_)
          fun contactId hdone => ?_
        · rw [hraised] at hfalse
          cases hfalse
        · rw [hcontacts]
          exact hold
        · rw [hcontacts] at hdone
          exact .inl hdone
      | torn hclean hraised hrows hcontacts =>
        have hraised := @raised_record_error event s.tables _ hraised
        refine sound_of_no_success hs (succeeds_of_raised hraised) (fun hfalse => ?_) (fun contactId hold => ?_)
          fun contactId _ => .inr (torn_cons.2 (.inl ⟨hraised, hrows⟩))
        · rw [hraised] at hfalse
          cases hfalse
        · rcases hcontacts with hcontacts | hcontacts
          · rw [hcontacts]
            exact hold
          · rw [hcontacts]
            exact completed_completed_of_completed now parsed hold
      | done hfaults hok hrows hstored hcontacts =>
        have hraised := @raised_record_ok event s.tables _ hok
        refine sound_of_success hs hraised hevent ?_ (fun key => ?_) fun contactId => ?_
        · rw [Delivery.gained, record, hevent, Option.elim_some, hrows, inboundCount_appended]
          exact Nat.add_sub_cancel_left ..
        · rw [record, hrows]
          exact attemptsOf_appended s.tables parsed key
        · rw [hcontacts]
          exact completed_completed_iff now hstored contactId

/-! ### Clean deliveries -/

theorem finalizedOnce_of_clean (hs : Sound s) (honce : FinalizedOnce s.log) (hclean : CleanDelivery s label)
    (h : step s label = some t) : FinalizedOnce t.log := by
  have ht := sound_step hs h
  obtain ⟨hwhole, hlength⟩ := (finalizedOnce_iff hs.recorded).1 honce
  cases label with
  | others employees cycles responses =>
    cases h
    exact honce
  | deliver faults windowDays now event =>
    cases h
    rw [finalizedOnce_iff ht.recorded, torn_cons, not_or]
    cases hevent : activeFinalize? event with
    | none =>
      obtain ⟨hrows, -⟩ := @harmless_of_not_active faults windowDays now event s.tables hevent
      refine ⟨⟨fun htorn => htorn.2 ?_, hwhole⟩, fun contactId => ?_⟩
      · intro key
        rw [record, hrows]
      · rw [successes_cons, succeeds_of_parsed_none hevent]
        exact hlength contactId
    | some parsed =>
      have houtcome := @activeFinalize_outcome parsed faults windowDays now event s.tables hevent
      cases houtcome with
      | stopped _ hraised hrows _ =>
        refine ⟨⟨fun htorn => htorn.2 hrows, hwhole⟩, fun contactId => ?_⟩
        rw [successes_cons, succeeds_of_raised (raised_record_error hraised)]
        exact hlength contactId
      | torn hnot _ _ _ => exact absurd (hclean parsed hevent) hnot
      | done hfaults hok hrows hstored hcontacts =>
        have hraised := @raised_record_ok event s.tables _ hok
        refine ⟨⟨fun htorn => ?_, hwhole⟩, fun contactId => ?_⟩
        · rw [hraised] at htorn
          cases htorn.1
        · rw [successes_cons]
          split
          · rename_i hsucceeds
            have hpending := hclean parsed hevent
            rw [Clean, hfaults.1, hfaults.2.1, hfaults.2.2] at hpending
            have hnil : successes s.log contactId = [] := by
              by_contra hsuccess
              rw [(succeeds_iff hraised hevent contactId).1 hsucceeds] at hsuccess
              obtain ⟨contact, hcontact, -, hcode⟩ := hs.completed_of_success parsed.contactId hsuccess
              obtain ⟨contact', hcontact', -, hnone⟩ := hpending
              rw [hcontact] at hcontact'
              cases hcontact'
              rw [hnone] at hcode
              cases hcode
            rw [hnil]
            exact Nat.le_refl 1
          · exact hlength contactId

/-- A delivery that is not clean tears the tables, or succeeds for the second time. -/
theorem not_finalizedOnce_of_not_clean (hs : Sound s) (hclean : ¬ CleanDelivery s label) (h : step s label = some t) :
    ¬ FinalizedOnce t.log := by
  have ht := sound_step hs h
  cases label with
  | others employees cycles responses => exact absurd trivial hclean
  | deliver faults windowDays now event =>
    cases h
    rw [finalizedOnce_iff ht.recorded, torn_cons]
    simp only [CleanDelivery, Option.mem_def, not_forall] at hclean
    obtain ⟨parsed, hevent, hnot⟩ := hclean
    have houtcome := @activeFinalize_outcome parsed faults windowDays now event s.tables hevent
    rintro ⟨hwhole, hlength⟩
    cases houtcome with
    | stopped hclean' _ _ _ => exact hnot hclean'
    | torn _ hraised hrows _ =>
      exact hwhole (.inl ⟨raised_record_error hraised, hrows⟩)
    | done hfaults hok hrows hstored hcontacts =>
      obtain ⟨contact, hcontact, hflow⟩ := hstored
      have hraised := @raised_record_ok event s.tables _ hok
      have hcompleted : Completed s.tables.inboundContacts parsed.contactId := by
        refine ⟨contact, hcontact, hflow, ?_⟩
        rw [Clean, hfaults.1, hfaults.2.1, hfaults.2.2] at hnot
        cases hcode : contact.callResultCode with
        | none => exact absurd ⟨contact, hcontact, hflow, hcode⟩ hnot
        | some code => rfl
      rcases hs.success_of_completed parsed.contactId hcompleted with hsuccess | htorn
      · have htwo := hlength parsed.contactId
        rw [successes_cons, if_pos ((succeeds_iff hraised hevent _).2 rfl), List.length_cons] at htwo
        exact hsuccess (List.length_eq_zero_iff.1 (by omega))
      · exact hwhole (.inr htorn)

theorem finalizedOnce_of_cons {d : Delivery} {log : List Delivery} (hrecorded : Recorded (d :: log))
    (h : FinalizedOnce (d :: log)) : FinalizedOnce log := by
  have hlog : Recorded log := ⟨fun d' hd' => hrecorded.gained d' (List.mem_cons_of_mem _ hd'),
    fun d' hd' => hrecorded.attempts d' (List.mem_cons_of_mem _ hd')⟩
  obtain ⟨hwhole, hlength⟩ := (finalizedOnce_iff hrecorded).1 h
  refine (finalizedOnce_iff hlog).2 ⟨fun htorn => hwhole (torn_cons.2 (.inr htorn)), fun contactId => ?_⟩
  refine Nat.le_trans ?_ (hlength contactId)
  rw [successes_cons]
  split
  · exact Nat.le_succ _
  · exact Nat.le_refl _

theorem finalizedOnce_of_step (hs : Sound s) (h : step s label = some t) (honce : FinalizedOnce t.log) :
    FinalizedOnce s.log := by
  have ht := sound_step hs h
  cases label with
  | others employees cycles responses =>
    cases h
    exact honce
  | deliver faults windowDays now event =>
    cases h
    exact finalizedOnce_of_cons ht.recorded honce

/-- However the two steps are delivered, nothing raises with a row left behind and every contact is appended once exactly
when each `ACTIVE_CYCLE` finalize is clean. -/
theorem finalizedOnce_iff_clean {employees : Store String Employee} {cycles : Store String Cycle}
    {responses : Store (String × String) Response} {labels : List Label}
    (hrun : exec step (start employees cycles responses) labels = some t) :
    FinalizedOnce t.log ↔ Guarded step CleanDelivery (start employees cycles responses) labels := by
  have hstart := sound_start employees cycles responses
  constructor
  · intro honce
    refine @guarded_of_not_trapped _ _ _ _ Sound (fun s => ¬ FinalizedOnce s.log) ?_ ?_ ?_ _ _ _ hstart hrun
      (not_not.2 honce)
    · exact fun s label t hs hstep => sound_step hs hstep
    · exact fun s label t hs hclean hstep => not_finalizedOnce_of_not_clean hs hclean hstep
    · exact fun s label t hs hnot hstep honce' => hnot (finalizedOnce_of_step hs hstep honce')
  · intro hguarded
    have hfirst : FinalizedOnce (start employees cycles responses).log :=
      (finalizedOnce_iff hstart.recorded).2 ⟨fun ⟨d, hd, _⟩ => List.not_mem_nil hd, fun _ => Nat.zero_le 1⟩
    have hlast := @invariant_of_guarded _ _ _ _ (fun s => Sound s ∧ FinalizedOnce s.log)
      (fun s label t hs hclean hstep => ⟨sound_step hs.1 hstep, finalizedOnce_of_clean hs.1 hs.2 hclean hstep⟩) _ _ _
      ⟨hstart, hfirst⟩ hguarded hrun
    exact hlast.2

def oneCycle : Tables := tablesWith ((∅ : Store String Cycle).insert "c1" runningCycle)

def startCall : State := start oneCycle.employees oneCycle.cycles ∅

def identifyCall : Label := .deliver {} 30 0 (connectEvent caller identifyParameters [])

def finalizeCall : Label := .deliver {} 30 0
  (connectEvent caller finalizeParameters [("flow", "ACTIVE_CYCLE"), ("employeeId", "e1"), ("cycleId", "c1")])

/-- A retry of identify does no harm. -/
theorem finalizedOnce_oneCall : ∃ t, exec step startCall [identifyCall, identifyCall, finalizeCall] = some t ∧
    FinalizedOnce t.log := by
  obtain ⟨t, hrun⟩ := Option.isSome_iff_exists.1
    (show (exec step startCall [identifyCall, identifyCall, finalizeCall]).isSome = true by decide)
  exact ⟨t, hrun, (finalizedOnce_iff_clean hrun).2 (by decide)⟩

/-- A finalize that comes before identify raises and leaves a row with `INBOUND`; and a finalize that is delivered twice
succeeds twice and appends it twice. -/
theorem finalize_not_once :
    (∃ t, exec step startCall [finalizeCall] = some t ∧ t.log.map Delivery.raised = [true] ∧
      callResultCodesOf (t.tables.responses.lookup ("c1", "e1")) = ["INBOUND"] ∧ ¬ FinalizedOnce t.log) ∧
    ∃ t, exec step startCall [identifyCall, finalizeCall, finalizeCall] = some t ∧
      t.log.map Delivery.raised = [false, false, false] ∧
      callResultCodesOf (t.tables.responses.lookup ("c1", "e1")) = ["INBOUND", "INBOUND"] ∧ ¬ FinalizedOnce t.log := by
  constructor
  · refine ⟨_, rfl, by decide, by decide, fun honce => ?_⟩
    have hsame := honce.raised _ List.mem_cons_self rfl ("c1", "e1")
    revert hsame
    decide
  · refine ⟨_, rfl, by decide, by decide, fun honce => ?_⟩
    have hsum := honce.once "contact-1" (by decide)
    revert hsum
    decide

end Redelivery

end Inbound

end SafetyConfirmation
