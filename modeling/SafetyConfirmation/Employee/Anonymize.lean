import SafetyConfirmation.Lib.Interleaving
import SafetyConfirmation.Employee.Conduct
import SafetyConfirmation.Response.Row

/-!
# Anonymisation next to the other writers

A request to anonymise an employee reads the employee's rows and then deletes and puts them from the copies it took, batch
by batch. The other components go on to write rows under the old id, which make a row that is not there. What they write is
kept where no copy of the row is about to be put back and the row has not been rewritten yet.
-/

namespace SafetyConfirmation

namespace EmployeeApi

open KeyedStore StepMachine Interleaving

/-- A write of a Response row by another component. -/
structure ResponseWrite where
  cycleId : String
  employeeId : String
  write : Write Response

abbrev AnyCall := Call ⊕ ResponseWrite

abbrev AnyResult : AnyCall → Type := Sum.elim Result fun _ => Unit

/-- How a call goes, be it a request's or another component's. -/
def respondAny (w : World) (environment : Environment) : (c : AnyCall) → Except PyError (AnyResult c) × World
  | .inl c => respond w environment c
  | .inr c =>
    let written := { w with responses := w.responses.write (c.cycleId, c.employeeId) c.write }
    match environment.fault with
    | none => (.ok (), written)
    | some fault => (.error fault.error, if fault.applied then written else w)

/-- POST /employees/{id}/anonymize for this employee, with this salt. -/
abbrev Anonymization (employeeId salt : String) := { inv : Invocation //
  Route.ofEvent inv.event = some .anonymizeEmployee ∧ inv.pathId = .ok employeeId ∧ inv.anonymizeSalt = salt }

/-- What is under way for an employee. -/
inductive Work (employeeId salt : String) where
  | anonymize (request : Anonymization employeeId salt)
  | recordResponse (cycleId : String) (c : Classification)
  | recordOtherFallback (cycleId : String)
  | appendInboundToResponse (cycleId : String)
  | finalizeOne (cycleId : String) (finalStatus : VoiceStatus) (now : Instant)

section

variable (library : Library) (employeeId salt : String)

def writeRow (cycleId : String) (write : Write Response) : Program AnyCall AnyResult PyError Unit :=
  Program.perform (Sum.inr { cycleId, employeeId, write } : AnyCall)

/-- The writes of a component, one after another, up to the first one that fails. -/
def writeRows (cycleId : String) (writes : List (Write Response)) :
    Program AnyCall AnyResult PyError (Option HttpResponse) := do
  Program.forEach (writeRow employeeId cycleId) writes
  return none

variable {employeeId salt} in
def Work.program : Work employeeId salt → Program AnyCall AnyResult PyError (Option HttpResponse)
  | .anonymize request => do
    let response ← (request.1.lambdaHandler library).inl
    return some response
  | .recordResponse cycleId c => writeRows employeeId cycleId [Response.recordResponse c]
  | .recordOtherFallback cycleId => writeRows employeeId cycleId [Response.recordOtherFallback]
  | .appendInboundToResponse cycleId => writeRows employeeId cycleId [Response.putInbound, Response.appendInbound]
  | .finalizeOne cycleId finalStatus now => writeRows employeeId cycleId [Response.finalizeOne finalStatus now]

def workService : Service (Work employeeId salt) AnyCall AnyResult PyError (Option HttpResponse) Environment World where
  respond := respondAny
  handler := Work.program library

end

abbrev Works (employeeId salt : String) :=
  Pool (Work employeeId salt) AnyCall AnyResult PyError (Option HttpResponse) Environment World

abbrev WorkLabel (employeeId salt : String) := Label (Work employeeId salt) Environment

abbrev WorkEntry := Entry AnyCall AnyResult PyError Environment

/-! ### What a request has read -/

/-- The cycles that were found and those that were queried, with the copies of the rows. -/
structure Copies where
  cycleIds : Option (List String) := none
  queried : List String := []
  rows : List ((String × String) × Response) := []

namespace Copies

def advance (copies : Copies) : (c : Call) → Except PyError (Result c) → Copies
  | .scanCycleIds, .ok cycleIds => { copies with cycleIds := some cycleIds }
  | .queryResponses cycleId _, .ok rows => { copies with
      queried := cycleId :: copies.queried
      rows := copies.rows ++ rows }
  | _, _ => copies

end Copies

section

variable (library : Library) (employeeId salt : String)

/-- A request rewrites rows that it has read, at most twelve at a time. -/
def rewriting : Program.Spec Call Result PyError Copies where
  allowed copies
    | .getItem _ | .scanCycleIds => True
    | .queryResponses _ id => id = employeeId
    | .transactRewrite rows anonymizedId => anonymizedId = library.anonymizeEmployeeId employeeId salt ∧
        rows ⊆ copies.rows ∧ rows.length ≤ anonymizeRowsPerBatch
    | _ => False
  advance := Copies.advance

/-- The answer of a request that has looked through all cycles says how many rows it found. -/
def Counted (result : Except PyError HttpResponse) (copies : Copies) : Prop :=
  ∀ response, result = .ok response → response.statusCode = 200 →
    (∃ cycleIds, copies.cycleIds = some cycleIds ∧ cycleIds ⊆ copies.queried) ∧
      response.body.get? "responseCountUpdated" = some (.int copies.rows.length)

end

variable {library : Library} {employeeId salt : String}

theorem counted_error (e : PyError) (copies : Copies) : Counted (.error e) copies := fun _ h => nomatch h

theorem counted_of_ne {response : HttpResponse} (h : response.statusCode ≠ 200) (copies : Copies) :
    Counted (.ok response) copies := by
  intro response' hsame hstatus
  cases hsame
  exact absurd hstatus h

theorem wp_responsesOf_rewriting (cycleIds : List String) (copies : Copies) :
    (Invocation.responsesOf employeeId cycleIds).wp (rewriting library employeeId salt) (fun result copies' =>
      ∀ rows, result = .ok rows → copies'.cycleIds = copies.cycleIds ∧ cycleIds ++ copies.queried ⊆ copies'.queried ∧
        copies'.rows = copies.rows ++ rows) copies := by
  induction cycleIds generalizing copies with
  | nil =>
    rintro rows h
    cases h
    exact ⟨rfl, List.Subset.refl _, (List.append_nil _).symm⟩
  | cons cycleId rest ih =>
    rw [Invocation.responsesOf]
    refine Program.wp_perform_bind rfl (fun e _ rows h => by cases h) fun rows _ => Program.wp_bind.2 ?_
    refine Program.wp_mono ?_ (ih _)
    intro result copies' hresult
    cases result with
    | error e =>
      intro rows h
      cases h
    | ok others =>
      intro rows' h
      cases h
      obtain ⟨hcycleIds, hqueried, hrows⟩ := hresult others rfl
      refine ⟨hcycleIds, ?_, ?_⟩
      · intro c hc
        apply hqueried
        show c ∈ rest ++ cycleId :: copies.queried
        simp only [List.cons_append, List.mem_cons, List.mem_append] at hc ⊢
        obtain hc | hc | hc := hc
        · exact .inr (.inl hc)
        · exact .inl hc
        · exact .inr (.inr hc)
      · exact hrows.trans (List.append_assoc ..)

theorem wp_anonymizeEmployee_rewriting (request : Anonymization employeeId salt) :
    (request.1.anonymizeEmployee library).wp (rewriting library employeeId salt) Counted {} := by
  obtain ⟨inv, hroute, hid, rfl⟩ := request
  rw [Invocation.anonymizeEmployee]
  split
  · exact counted_of_ne (by decide) _
  · refine Program.wp_ofExcept_bind (fun e _ => counted_error e _) fun claims _ => ?_
    split
    · exact counted_of_ne (by decide) _
    · refine Program.wp_ofExcept_bind (fun e _ => counted_error e _) fun id hid' => ?_
      rw [hid] at hid'
      cases hid'
      refine Program.wp_perform_bind trivial (fun e _ => counted_error e _) fun existing _ => ?_
      cases existing with
      | none => exact counted_of_ne (show (404 : Nat) ≠ 200 by decide) _
      | some existing =>
        show (if (!existing.isDeleted) = true then _ else _ : Action HttpResponse).wp _ _ _
        split
        · exact counted_of_ne (by decide) _
        · refine Program.wp_perform_bind trivial (fun e _ => counted_error e _) fun cycleIds _ => ?_
          refine Program.wp_bind.2 (Program.wp_mono ?_ (wp_responsesOf_rewriting cycleIds _))
          intro result copies hresult
          cases result with
          | error e => exact counted_error e _
          | ok rows =>
            obtain ⟨hcycleIds, hqueried, hrows⟩ := hresult rows rfl
            have hcopies : copies.rows = rows := hrows.trans (List.nil_append _)
            refine Program.wp_bind.2 ?_
            -- the batches change nothing of what was read
            refine @Program.wp_forEach _ _ _ _ _ _ _ _ _ (fun batches copies' => copies' = copies ∧
              ∀ batch ∈ batches, batch ⊆ rows ∧ batch.length ≤ anonymizeRowsPerBatch) _ ?_ ?_ ?_
            · refine ⟨rfl, fun batch hbatch => ⟨(sublist_of_mem_batches hbatch).subset, ?_⟩⟩
              obtain ⟨i, -, rfl⟩ := List.mem_map.1 hbatch
              exact List.length_take_le _ _
            · rintro batch rest copies' ⟨rfl, hbatches⟩
              obtain ⟨hsubset, hlength⟩ := hbatches batch List.mem_cons_self
              refine Program.wp_perform.2 ⟨⟨rfl, hcopies ▸ hsubset, hlength⟩, fun answer _ => ?_⟩
              cases answer with
              | error e => exact counted_error e _
              | ok _ => exact ⟨rfl, fun batch' hbatch' => hbatches batch' (List.mem_cons_of_mem _ hbatch')⟩
            · rintro copies' ⟨rfl, -⟩ response hresponse -
              cases hresponse
              refine ⟨⟨cycleIds, hcycleIds, fun c hc => hqueried (List.mem_append_left _ hc)⟩, ?_⟩
              rw [hcopies]
              rfl

theorem wp_onError_rewriting (e : PyError) (copies : Copies) :
    (Invocation.onError e).wp (rewriting library employeeId salt) Counted copies := by
  unfold Invocation.onError
  split
  · exact counted_of_ne (show (400 : Nat) ≠ 200 by decide) _
  · split
    · exact counted_of_ne (by decide) _
    · exact counted_error _ _
  · exact counted_error _ _

theorem wp_lambdaHandler_rewriting (request : Anonymization employeeId salt) :
    (request.1.lambdaHandler library).wp (rewriting library employeeId salt) Counted {} := by
  refine Program.wp_ofExcept_bind (fun e _ => counted_error e _) fun _ _ => Program.wp_tryCatch.2 ?_
  rw [request.2.1]
  refine Program.wp_mono ?_ (wp_anonymizeEmployee_rewriting request)
  intro result copies hcounted
  cases result with
  | ok response => exact hcounted
  | error e => exact wp_onError_rewriting e copies

end EmployeeApi

end SafetyConfirmation
