import SafetyConfirmation.Employee.Requests
import SafetyConfirmation.Inbound.Handler

/-!
# Deleted employees

A deletion and the updates of the same employee each read the row before they write it, and none of the writes is
conditional. When the row of an employee whose deletion was answered stays out of the readers' reach.
-/

namespace SafetyConfirmation

namespace EmployeeApi

open KeyedStore StepMachine Interleaving

namespace Deletion

/-- The row as a deletion leaves it. -/
def Erased (employees : Store String EmployeeItem) (employeeId : String) : Prop :=
  ∃ item, employees.lookup employeeId = some item ∧ item.deleted = some true ∧ item.phoneNumber = some "" ∧
    item.phoneNumberBlindIndex = some ""

/-- The row is erased, and neither the targets of a cycle nor the callers of an inbound call include the employee. -/
structure Unreachable (employees : Store String EmployeeItem) (employeeId : String) : Prop where
  erased : Erased employees employeeId
  notCalled : ∀ responses event targets, LoadTargets.lambdaHandler (employeeTable employees) responses event = .ok targets →
    employeeId ∉ targets.map LoadTargets.Target.employeeId
  notFound : ∀ callerNumber entry, Inbound.lookupEmployeeByPhone (employeeTable employees) callerNumber = some entry →
    entry.1 ≠ employeeId

/-- The requests that concern the employee: its updates and its deletions. -/
def concerns (employeeId : String) (inv : Invocation) : Bool :=
  (Route.ofEvent inv.event == some .updateEmployee || Route.ofEvent inv.event == some .deleteEmployee) &&
    match inv.pathId with
    | .ok id => id == employeeId
    | .error _ => false

def deletionAnswered (p : Requests) : Bool :=
  p.threads.any fun thread =>
    Route.ofEvent thread.request.event == some .deleteEmployee && thread.result?.any (hasStatus 200)

def Call.isUpdate : Call → Bool
  | .updateItem _ (.fields ..) => true
  | _ => false

/-- The step does not carry out an update's write when a deletion has been answered. -/
def timely (p : Requests) : RequestLabel → Bool
  | .start _ => true
  | .call i environment =>
    !(deletionAnswered p && environment.carriesOut && ((p.threads[i]?.bind Thread.call?).any Call.isUpdate))

variable {library : Library} {employeeId : String} {p t : Requests} {label : RequestLabel}

theorem isVisible_of_lookup {employees : Store String EmployeeItem} {item : EmployeeItem}
    (hrow : employees.lookup employeeId = some item) (hdeleted : item.deleted = some true) {row : Employee}
    (hmem : (employeeId, row) ∈ (employeeTable employees).rows) : isVisible row = false := by
  obtain ⟨item', hitem, rfl⟩ := lookup_employeeTable.1 (Store.mem_rows.1 hmem)
  rw [hrow] at hitem
  cases hitem
  simp [isVisible, EmployeeItem.toEmployee, hdeleted]

theorem Erased.unreachable {employees : Store String EmployeeItem} (h : Erased employees employeeId) :
    Unreachable employees employeeId := by
  obtain ⟨item, hrow, hdeleted, -⟩ := id h
  refine ⟨h, fun responses event targets htargets hmem => ?_, fun callerNumber entry hfound => ?_⟩
  · obtain ⟨target, htarget, rfl⟩ := List.mem_map.1 hmem
    obtain ⟨row, hlookup, hvisible⟩ := (LoadTargets.lambdaHandler_spec htargets).2.2 target htarget
    rw [isVisible_of_lookup hrow hdeleted (Store.mem_rows.2 hlookup)] at hvisible
    cases hvisible
  · rintro rfl
    rw [Inbound.lookupEmployeeByPhone] at hfound
    have hvisible := List.find?_some hfound
    have hmem := (List.mem_filter.1 (List.mem_of_find?_eq_some hfound)).1
    rw [isVisible_of_lookup hrow hdeleted hmem] at hvisible
    cases hvisible

/-! ### The calls of the two handlers -/

theorem isUpdate_of_isRead {c : Call} (h : c.isRead = true) : Call.isUpdate c = false := by
  cases c <;> first | rfl | cases h

/-- A request that concerns the employee reads, deletes its row or updates it. -/
inductive CallCases (library : Library) (inv : Invocation) (employeeId : String) : Call → Prop where
  | read (c : Call) (hread : c.isRead = true) : CallCases library inv employeeId c
  | delete : CallCases library inv employeeId (.updateItem employeeId (.delete inv.now))
  | update (name phone : String) (hphone : isNumber phone) : CallCases library inv employeeId (.updateItem employeeId
      (.fields (inv.encrypt library 0 name) (inv.encrypt library 1 phone) (inv.blindIndex library phone) inv.now))

theorem pathId_of_concerns {inv : Invocation} (h : concerns employeeId inv = true) : inv.pathId = .ok employeeId := by
  rw [concerns, Bool.and_eq_true] at h
  cases hid : inv.pathId with
  | ok id =>
    rw [hid] at h
    rw [beq_iff_eq.1 h.2]
  | error e =>
    rw [hid] at h
    cases h.2

theorem route_of_concerns {inv : Invocation} (h : concerns employeeId inv = true) :
    Route.ofEvent inv.event = some .updateEmployee ∨ Route.ofEvent inv.event = some .deleteEmployee := by
  rw [concerns, Bool.and_eq_true, Bool.or_eq_true, beq_iff_eq, beq_iff_eq] at h
  exact h.1

theorem callCases_of_permitted {inv : Invocation} {history : History} {c : Call} (hconcerns : concerns employeeId inv = true)
    (hpermitted : Permitted library inv history c) : CallCases library inv employeeId c := by
  have hpath := pathId_of_concerns hconcerns
  have hroute := route_of_concerns hconcerns
  cases hpermitted with
  | read c hread => exact .read c hread
  | update hroute' id name phone hid hphone hchecked =>
    rw [hpath] at hid
    cases hid
    exact .update name phone hphone
  | delete hroute' id hid =>
    rw [hpath] at hid
    cases hid
    exact .delete
  | create hroute' | insert hroute' | rollback hroute' | createUser hroute' | addToGroup hroute' | deleteUser hroute'
  | unlink hroute' | anonymize hroute' =>
    rw [hroute'] at hroute
    rcases hroute with h | h <;> cases h

/-! ### Requests at the same time -/

/-- Every request concerns the employee, and keeps to the conduct. -/
structure Concerned (library : Library) (employeeId : String) (p : Requests) : Prop where
  conducted : Conducted library p
  concerned : ∀ thread ∈ p.threads, concerns employeeId thread.request = true

theorem concerned_step (hp : Concerned library employeeId p)
    (h : step (service library fun _ request => concerns employeeId request) p label = some t) :
    Concerned library employeeId t := by
  refine ⟨conducted_step hp.conducted h, fun thread hthread => ?_⟩
  cases step_cases h with
  | start request hadmits =>
    rcases List.mem_append.1 hthread with hmem | hmem
    · exact hp.concerned thread hmem
    · rw [List.mem_singleton.1 hmem]
      exact hadmits
  | call i environment request c next hi =>
    rcases List.mem_or_eq_of_mem_set hthread with hmem | rfl
    · exact hp.concerned thread hmem
    · have hrequest := hp.concerned _ (List.mem_of_getElem? hi)
      exact hrequest

theorem erased_respond {inv : Invocation} {w : World} {environment : Environment} {c : Call}
    (hcases : CallCases library inv employeeId c) (hquiet : environment.carriesOut = true → Call.isUpdate c = false)
    (h : Erased w.employees employeeId) : Erased (respond w environment c).2.employees employeeId := by
  obtain ⟨item, hrow, herased⟩ := h
  have hlookup := lookup_respond w environment c employeeId
  rw [hrow] at hlookup
  split at hlookup
  · rename_i happlied
    cases hcases with
    | read c hread =>
      rw [row_of_not_names _ (names_of_isRead hread)] at hlookup
      exact ⟨item, hlookup, herased⟩
    | delete =>
      rw [Call.row, if_pos rfl] at hlookup
      exact ⟨_, hlookup, rfl, rfl, rfl⟩
    | update => cases hquiet happlied
  · exact ⟨item, hlookup, herased⟩

/-- The step that answers a deletion has erased the row. -/
theorem erased_of_answered {i : Nat} {environment : Environment} {request : Invocation} {c : Call}
    {next : Except PyError (Result c) → Action HttpResponse} (hp : Concerned library employeeId p)
    (ht : Conducted library (afterCall (service library fun _ request => concerns employeeId request) p i environment request c next))
    (hthread : p.threads[i]? = some { request, program := .call c next })
    (hroute : Route.ofEvent request.event = some .deleteEmployee) {result : Except PyError HttpResponse}
    (hresult : Thread.result? { request, program := next (respond p.world environment c).1 : Thread _ _ _ _ _ } = some result)
    (hstatus : hasStatus 200 result = true) : Erased (respond p.world environment c).2.employees employeeId := by
  have hlast : (afterCall (service library fun _ request => concerns employeeId request) p i environment request c
      next).threads[i]? = some { request, program := next (respond p.world environment c).1 } := by
    rw [afterCall, List.getElem?_set, if_pos rfl, if_pos (List.getElem?_eq_some_iff.1 hthread).1]
    rfl
  cases result with
  | error e => cases hstatus
  | ok response =>
    have houtcome := ht.outcome hlast hresult response rfl (by
      rw [hasStatus, beq_iff_eq] at hstatus
      rw [hstatus]
      decide)
    rw [hroute] at houtcome
    obtain ⟨id, hid, hhead⟩ := houtcome
    rw [pathId_of_concerns (hp.concerned _ (List.mem_of_getElem? hthread))] at hid
    cases hid
    rw [afterCall, seen, List.filter_cons, if_pos (beq_self_eq_true i)] at hhead
    obtain ⟨hcall, hanswer⟩ := Sigma.mk.inj_iff.1 (Option.some.inj hhead)
    dsimp only at hcall hanswer
    subst hcall
    have hok := (respond_eq_ok (eq_of_heq hanswer)).2
    have hrow : (respond p.world environment (.updateItem employeeId (.delete request.now))).2.employees.lookup employeeId =
        some (Update.apply ((p.world.employees.lookup employeeId).getD {}) (.delete request.now)) := by
      rw [lookup_respond, if_pos hok, Call.row, if_pos rfl]
    exact ⟨_, hrow, rfl, rfl, rfl⟩

theorem deletionAnswered_of_step {service' : Service Invocation Call Result PyError HttpResponse Environment World}
    (h : step service' p label = some t) (hanswered : deletionAnswered p = true) : deletionAnswered t = true := by
  obtain ⟨thread, hmem, hthread⟩ := List.any_eq_true.1 hanswered
  refine List.any_eq_true.2 ⟨thread, ?_, hthread⟩
  cases step_cases h with
  | start request hadmits => exact List.mem_append_left _ hmem
  | call i environment request c next hi =>
    obtain ⟨j, hj⟩ := List.mem_iff_getElem?.1 hmem
    refine List.mem_iff_getElem?.2 ⟨j, ?_⟩
    rw [afterCall, List.getElem?_set, if_neg ?_, hj]
    rintro rfl
    rw [hi] at hj
    cases hj
    rw [Bool.and_eq_true] at hthread
    cases hthread.2

/-- After a step no deletion is answered that was not, unless it is the one that made the call. -/
theorem answered_afterCall {service' : Service Invocation Call Result PyError HttpResponse Environment World} {i : Nat}
    {environment : Environment} {request : Invocation} {c : Call} {next : Except PyError (Result c) → Action HttpResponse}
    (h : deletionAnswered (afterCall service' p i environment request c next) = true) : deletionAnswered p = true ∨
      Route.ofEvent request.event = some .deleteEmployee ∧ ∃ result, hasStatus 200 result = true ∧
        Thread.result? { request, program := next (service'.respond p.world environment c).1 : Thread _ _ _ _ _ } =
          some result := by
  obtain ⟨thread, hmem, hthread⟩ := List.any_eq_true.1 h
  rcases List.mem_or_eq_of_mem_set hmem with hold | rfl
  · exact .inl (List.any_eq_true.2 ⟨thread, hold, hthread⟩)
  · rw [Bool.and_eq_true, beq_iff_eq, Option.any_eq_true] at hthread
    obtain ⟨hroute, result, hresult, hstatus⟩ := hthread
    exact .inr ⟨hroute, result, hstatus, hresult⟩

theorem unreachable_step (hp : Concerned library employeeId p)
    (hunreachable : deletionAnswered p = true → Unreachable p.world.employees employeeId) (hguard : timely p label = true)
    (h : step (service library fun _ request => concerns employeeId request) p label = some t)
    (hanswered : deletionAnswered t = true) : Unreachable t.world.employees employeeId := by
  have hconducted := conducted_step hp.conducted h
  cases step_cases h with
  | start request hadmits =>
    refine hunreachable ?_
    obtain ⟨thread, hmem, hthread⟩ := List.any_eq_true.1 hanswered
    rcases List.mem_append.1 hmem with hmem | hmem
    · exact List.any_eq_true.2 ⟨thread, hmem, hthread⟩
    · rw [List.mem_singleton.1 hmem, Bool.and_eq_true, beq_iff_eq, Option.any_eq_true] at hthread
      obtain ⟨hroute, result, hresult, hstatus⟩ := hthread
      cases result with
      | error e => cases hstatus
      | ok response =>
        have houtcome := Thread.post_of_result (wp_lambdaHandler library request) hresult response rfl
          (by rw [beq_iff_eq.1 hstatus]; decide)
        rw [hroute] at houtcome
        obtain ⟨id, -, hhead⟩ := houtcome
        cases hhead
  | call i environment request c next hi =>
    apply Erased.unreachable
    rcases answered_afterCall hanswered with hbefore | ⟨hroute, result, hstatus, hresult⟩
    · have hcases := callCases_of_permitted (hp.concerned _ (List.mem_of_getElem? hi)) (hp.conducted.permitted hi)
      refine erased_respond hcases (fun happlied => ?_) (hunreachable hbefore).erased
      simpa [timely, hi, Thread.call?, hbefore, happlied] using hguard
    · exact erased_of_answered hp hconducted hi hroute hresult hstatus

/-- The update of an employee after the answer of its deletion gives the row a number again. -/
theorem not_unreachable_step (hlawful : library.crypto.Lawful) (hp : Concerned library employeeId p)
    (hguard : ¬ timely p label = true)
    (h : step (service library fun _ request => concerns employeeId request) p label = some t) :
    ¬ (deletionAnswered t = true → Unreachable t.world.employees employeeId) := by
  intro hunreachable
  cases step_cases h with
  | start request hadmits => exact hguard rfl
  | call i environment request c next hi =>
    have hlate : (deletionAnswered p = true ∧ environment.carriesOut = true) ∧ Call.isUpdate c = true := by
      simpa [timely, hi, Thread.call?] using hguard
    obtain ⟨item, hrow, -, hempty, -⟩ := (hunreachable (deletionAnswered_of_step h hlate.1.1)).erased
    have hcases : CallCases library request employeeId c :=
      callCases_of_permitted (hp.concerned _ (List.mem_of_getElem? hi)) (hp.conducted.permitted hi)
    cases hcases with
    | read c hread =>
      rw [isUpdate_of_isRead hread] at hlate
      cases hlate.2
    | delete => cases hlate.2
    | update name phone hphone =>
      have hwritten : (respond p.world environment (.updateItem employeeId (.fields (request.encrypt library 0 name)
          (request.encrypt library 1 phone) (request.blindIndex library phone) request.now))).2.employees.lookup employeeId =
            some item := hrow
      rw [lookup_respond, if_pos hlate.1.2, Call.row, if_pos rfl] at hwritten
      cases hwritten
      refine FieldCrypto.encrypt_ne_empty hlawful request.encryptionEnabled (request.nonce 1) ?_ (Option.some.inj hempty)
      rintro rfl
      cases hphone

/-- In the runs of deletions and updates of one employee, the row is out of reach in every state after the answer of a
deletion exactly when no update writes it then. -/
theorem unreachable_iff_timely (library : Library) (hlawful : library.crypto.Lawful) (employeeId : String) (start : World)
    (labels : List RequestLabel) (t : Requests)
    (hrun : exec (step (service library fun _ request => concerns employeeId request)) { world := start } labels = some t) :
    Guarded (step (service library fun _ request => concerns employeeId request)) (fun p label => timely p label = true)
        { world := start } labels ↔
      ∀ before after m, labels = before ++ after →
        exec (step (service library fun _ request => concerns employeeId request)) { world := start } before = some m →
          deletionAnswered m = true → Unreachable m.world.employees employeeId := by
  refine @guarded_iff_everywhere _ _ _ _ (fun p => Concerned library employeeId p)
    (fun p => deletionAnswered p = true → Unreachable p.world.employees employeeId) ?_ ?_ _ _ _ ?_ ?_ hrun
  · exact fun p label t hp hunreachable hguard h => ⟨concerned_step hp h, unreachable_step hp hunreachable hguard h⟩
  · exact fun p label t hp _ hguard h => not_unreachable_step hlawful hp hguard h
  · exact ⟨follows_start start, fun thread hthread => (List.not_mem_nil hthread).elim⟩
  · exact fun hanswered => nomatch hanswered

def registered : World where
  employees := AList.insert "e1" {
    name := some "Sato"
    phoneNumber := some "+819012345678"
    phoneNumberBlindIndex := some ""
    role := some "employee"
    deleted := some false } ∅

def rename : Invocation where
  event := {
    httpMethod := "PUT"
    resource := "/employees/{id}"
    pathParameters := .dict [("id", .str "e1")]
    body := .json (.dict [("name", .str "Suzuki")]) }

def deletion : Invocation where
  event := { httpMethod := "DELETE", resource := "/employees/{id}", pathParameters := .dict [("id", .str "e1")] }

/-- The update writes before the deletion, or between its write and the end of the run. -/
def updateThenDeletion : List RequestLabel :=
  [.start rename, .call 0 {}, .start deletion, .call 1 {}, .call 0 {}, .call 1 {}]

def deletionThenUpdate : List RequestLabel :=
  [.start rename, .call 0 {}, .start deletion, .call 1 {}, .call 1 {}, .call 0 {}]

theorem unreachable_updateThenDeletion : ∃ t,
    exec (step (service markedLibrary fun _ request => concerns "e1" request)) { world := registered } updateThenDeletion =
      some t ∧ deletionAnswered t = true ∧ Unreachable t.world.employees "e1" := by
  obtain ⟨t, hrun⟩ := Option.isSome_iff_exists.1 (show (exec (step (service markedLibrary fun _ request =>
    concerns "e1" request)) { world := registered } updateThenDeletion).isSome = true by decide)
  have hanswered : (exec (step (service markedLibrary fun _ request => concerns "e1" request)) { world := registered }
      updateThenDeletion).map deletionAnswered = some true := by decide
  rw [hrun] at hanswered
  have hanswered := Option.some.inj hanswered
  exact ⟨t, hrun, hanswered, (unreachable_iff_timely markedLibrary FieldCrypto.lawful_marked "e1" registered updateThenDeletion t
    hrun).1 (by decide) updateThenDeletion [] t (List.append_nil _).symm hrun hanswered⟩

/-- The update that read the row before the deletion gives it the number back. -/
theorem not_unreachable_deletionThenUpdate : ∃ t,
    exec (step (service markedLibrary fun _ request => concerns "e1" request)) { world := registered } deletionThenUpdate =
      some t ∧ deletionAnswered t = true ∧ ¬ Unreachable t.world.employees "e1" := by
  obtain ⟨t, hrun⟩ := Option.isSome_iff_exists.1 (show (exec (step (service markedLibrary fun _ request =>
    concerns "e1" request)) { world := registered } deletionThenUpdate).isSome = true by decide)
  have hended : (exec (step (service markedLibrary fun _ request => concerns "e1" request)) { world := registered }
      deletionThenUpdate).map (fun t =>
        (deletionAnswered t, (t.world.employees.lookup "e1").map fun item => item.phoneNumber)) =
      some (true, some (some "+819012345678")) := by decide
  rw [hrun, Option.map_some, Option.some.injEq, Prod.mk.injEq] at hended
  refine ⟨t, hrun, hended.1, fun hunreachable => ?_⟩
  obtain ⟨item, hrow, -, hempty, -⟩ := hunreachable.erased
  rw [hrow, Option.map_some, hempty] at hended
  exact absurd hended.2 (by decide)

end Deletion

end EmployeeApi

end SafetyConfirmation
