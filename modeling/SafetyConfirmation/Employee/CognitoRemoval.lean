import SafetyConfirmation.Employee.Requests

/-!
# Cognito users of retired administrators

The removal of an employee's Cognito user takes the `cognitoSub` of the row, once the row is deleted. The deletion takes
the `cognitoSub` out of the row.
-/

namespace SafetyConfirmation

namespace EmployeeApi

open KeyedStore StepMachine Interleaving

namespace CognitoRemoval

/-- DELETE /employees/{id}/cognito-user of this employee. -/
def IsRemoval (employeeId : String) (inv : Invocation) : Prop :=
  Route.ofEvent inv.event = some .deleteCognitoUser ∧ inv.pathId = .ok employeeId

/-- The request of a thread has removed the user `sub` of the employee: AdminDeleteUser was called for it, the answer was
neither 404 nor 409, and after a 200 the row has no `cognitoSub`. -/
structure Removed (t : Requests) (i : Nat) (employeeId sub : String) : Prop where
  called : ∃ entry ∈ t.log, entry.thread = i ∧ entry.call = .adminDeleteUser sub
  answered : ∃ thread response, t.threads[i]? = some thread ∧ thread.result? = some (.ok response) ∧
    response.statusCode ≠ 404 ∧ response.statusCode ≠ 409 ∧
      (response.statusCode = 200 → ∀ item, t.world.employees.lookup employeeId = some item → item.cognitoSub = none)

/-- A deleted row has no `cognitoSub`. -/
def Unlinked (employees : Store String EmployeeItem) (employeeId : String) : Prop :=
  ∀ item, employees.lookup employeeId = some item → item.isDeleted = true → item.cognitoSub = none

variable {library : Library} {employeeId : String} {p t : Requests} {label : RequestLabel}

theorem isDeleted_put {inv : Invocation} {history : History} {c : Call} (hpermitted : Permitted library inv history c)
    {item : EmployeeItem} (hput : (employeeId, item) ∈ c.puts) : item.isDeleted = false := by
  cases hpermitted with
  | create hroute name phone role sub hphone hcleared =>
    cases List.mem_singleton.1 hput
    rfl
  | insert hroute rows hnodup hrows =>
    obtain ⟨row, -, hrow⟩ := List.mem_map.1 hput
    cases hrow
    rfl
  | read c hread =>
    rw [puts_of_isRead hread] at hput
    exact (List.not_mem_nil hput).elim
  | _ => exact (List.not_mem_nil hput).elim

theorem unlinked_respond {inv : Invocation} {history : History} {w : World} {environment : Environment} {c : Call}
    (hpermitted : Permitted library inv history c) (h : Unlinked w.employees employeeId) :
    Unlinked (respond w environment c).2.employees employeeId := by
  intro item hrow hdeleted
  rcases lookup_respond_eq_some hrow with ⟨-, hput | ⟨update, -, rfl⟩⟩ | hold
  · rw [isDeleted_put hpermitted hput] at hdeleted
    cases hdeleted
  · cases update with
    | fields =>
      cases hlookup : w.employees.lookup employeeId with
      | none => rfl
      | some row =>
        rw [hlookup] at hdeleted
        exact h row hlookup hdeleted
    | _ => rfl
  · exact h item hold hdeleted

/-- What the invocations read of the row, and which of them call AdminDeleteUser. -/
structure NeverCalled (library : Library) (employeeId : String) (p : Requests) : Prop where
  conducted : Conducted library p
  unlinked : Unlinked p.world.employees employeeId
  reads : ∀ entry ∈ p.log, ∀ item : EmployeeItem,
    (⟨entry.call, entry.answer⟩ : Sigma fun c : Call => Except PyError (Result c)) = ⟨.getItem employeeId, .ok (some item)⟩ →
      item.isDeleted = true → item.cognitoSub = none
  calls : ∀ entry ∈ p.log, ∀ thread, p.threads[entry.thread]? = some thread → IsRemoval employeeId thread.request →
    ∀ sub, entry.call ≠ .adminDeleteUser sub

/-- No invocation has read a deleted row with a `cognitoSub`. -/
theorem NeverCalled.not_answered (h : NeverCalled library employeeId p) {i : Nat} {item : EmployeeItem} {sub : String}
    (hread : Answered (seen i p.log) (.getItem employeeId) (some item)) (hdeleted : item.isDeleted = true)
    (hsub : item.cognitoSub = some sub) : False := by
  obtain ⟨entry, hentry, -, heq⟩ := mem_seen.1 hread
  rw [h.reads entry hentry item heq hdeleted] at hsub
  cases hsub

theorem neverCalled_step (hp : NeverCalled library employeeId p) (h : step (service library) p label = some t) :
    NeverCalled library employeeId t := by
  have hconducted := conducted_step hp.conducted h
  cases step_cases h with
  | start request hadmits =>
    refine ⟨hconducted, hp.unlinked, hp.reads, fun entry hentry thread hthread => hp.calls entry hentry thread ?_⟩
    rw [← hthread]
    exact (List.getElem?_append_left (hp.conducted.logged entry hentry)).symm
  | call i environment request c next hi =>
    have hpermitted : Permitted library request (seen i p.log) c := hp.conducted.permitted hi
    refine ⟨hconducted, unlinked_respond hpermitted hp.unlinked, fun entry hentry item heq hdeleted => ?_,
      fun entry hentry thread hthread hremoval sub hcall => ?_⟩
    · rcases List.mem_cons.1 hentry with rfl | hentry
      · obtain ⟨hcall, hanswer⟩ := Sigma.mk.inj_iff.1 heq
        dsimp only at hcall hanswer
        subst hcall
        have hlookup : p.world.employees.lookup employeeId = some item :=
          Except.ok.inj (respond_eq_ok (eq_of_heq hanswer)).1
        exact hp.unlinked item hlookup hdeleted
      · exact hp.reads entry hentry item heq hdeleted
    · have hrequest : ∃ before, p.threads[entry.thread]? = some before ∧ before.request = thread.request := by
        rw [afterCall, List.getElem?_set] at hthread
        split at hthread
        · rename_i hsame
          split at hthread
          · cases hthread
            exact ⟨{ request, program := .call c next }, hsame ▸ hi, rfl⟩
          · cases hthread
        · exact ⟨thread, hthread, rfl⟩
      obtain ⟨before, hbefore, hsame⟩ := hrequest
      rw [← hsame] at hremoval
      rcases List.mem_cons.1 hentry with rfl | hentry
      · rw [hi] at hbefore
        cases hbefore
        dsimp only at hcall hremoval
        subst hcall
        cases hpermitted with
        | deleteUser hroute id sub item hid hread hdeleted hsub =>
          rw [hremoval.2] at hid
          cases hid
          exact hp.not_answered hread hdeleted hsub
        | read c hread => cases hread
      · exact hp.calls entry hentry before hbefore hremoval sub hcall

/-- An employee who is new in a history has no Cognito user that a request of the history removes. -/
theorem not_removed (library : Library) (employeeId : String) (start : World)
    (hnew : start.employees.lookup employeeId = none) (labels : List RequestLabel) (t : Requests)
    (hrun : exec (step (service library)) { world := start } labels = some t) (i : Nat)
    (thread : Thread Invocation Call Result PyError HttpResponse) (hthread : t.threads[i]? = some thread)
    (hremoval : IsRemoval employeeId thread.request) :
    thread.result?.any (hasStatus 200) = false ∧ ∀ sub, ¬ Removed t i employeeId sub := by
  have ht : NeverCalled library employeeId t := by
    refine @invariant _ _ _ (fun p => NeverCalled library employeeId p) (fun _ _ _ hp h => neverCalled_step hp h) _ _ _ ?_ hrun
    refine ⟨follows_start start, fun item hrow => ?_, fun entry hentry => (List.not_mem_nil hentry).elim,
      fun entry hentry => (List.not_mem_nil hentry).elim⟩
    rw [show ({ world := start } : Requests).world.employees.lookup employeeId = none from hnew] at hrow
    cases hrow
  constructor
  · rw [Option.any_eq_false]
    intro result hresult
    by_contra hstatus
    rw [Bool.not_eq_false] at hstatus
    cases result with
    | error e => cases hstatus
    | ok response =>
      have houtcome := ht.conducted.outcome hthread hresult response rfl (by rw [beq_iff_eq.1 hstatus]; decide)
      rw [hremoval.1] at houtcome
      obtain ⟨id, sub, item, hid, hread, hdeleted, hsub⟩ := houtcome
      rw [hremoval.2] at hid
      cases hid
      exact ht.not_answered hread hdeleted hsub
  · intro sub hremoved
    obtain ⟨entry, hentry, hthread', hcall⟩ := hremoved.called
    exact ht.calls entry hentry thread (hthread'.symm ▸ hthread) hremoval sub hcall

def administrator : Value :=
  .dict [("authorizer", .dict [("claims", .dict [("sub", .str "s0"), ("cognito:groups", .str "Administrator")])])]

def onEmployee (httpMethod resource : String) (body : RawBody := .missing) : Invocation where
  event := {
    httpMethod
    resource
    pathParameters := .dict [("id", .str "e1")]
    body
    requestContext := some administrator }

/-- An administrator is created, with the `sub` "s1", then renamed and deleted, and then the Cognito user is removed. -/
def retirement : List RequestLabel :=
  [.start { onEmployee "POST" "/employees" (.json (.dict [("name", .str "Sato"), ("phoneNumber", .str "+819012345678"),
      ("isAdmin", .bool true), ("adminEmail", .str "sato@example.com")])) with uuid := fun _ => "e1" },
    .call 0 {}, .call 0 { sub := "s1" }, .call 0 {}, .call 0 {},
    .start (onEmployee "PUT" "/employees/{id}" (.json (.dict [("name", .str "Suzuki")]))), .call 1 {}, .call 1 {},
    .start (onEmployee "DELETE" "/employees/{id}"), .call 2 {}, .call 2 {},
    .start (onEmployee "DELETE" "/employees/{id}/cognito-user"), .call 3 {}]

theorem not_removed_retirement : ∃ t thread, exec (step (service markedLibrary)) { world := {} } retirement = some t ∧
    t.threads[3]? = some thread ∧ thread.result?.any (hasStatus 200) = false ∧ ∀ sub, ¬ Removed t 3 "e1" sub := by
  obtain ⟨t, hrun⟩ := Option.isSome_iff_exists.1
    (show (exec (step (service markedLibrary)) { world := {} } retirement).isSome = true by decide)
  have hlast : (exec (step (service markedLibrary)) { world := {} } retirement).bind (fun t => t.threads[3]?.map fun thread =>
      (Route.ofEvent thread.request.event, thread.request.pathId.toOption)) =
        some (some .deleteCognitoUser, some "e1") := by decide
  rw [hrun, Option.bind_some, Option.map_eq_some_iff] at hlast
  obtain ⟨thread, hthread, hrequest⟩ := hlast
  rw [Prod.mk.injEq] at hrequest
  have hpath : thread.request.pathId = .ok "e1" := by
    cases hid : thread.request.pathId with
    | ok id =>
      rw [hid] at hrequest
      rw [Option.some.inj hrequest.2]
    | error e =>
      rw [hid] at hrequest
      cases hrequest.2
  exact ⟨t, thread, hrun, hthread, not_removed markedLibrary "e1" {} rfl retirement t hrun 3 thread hthread
    ⟨hrequest.1, hpath⟩⟩

/-- After the three requests for the employee the removal is answered 404, and the user is still there. -/
theorem remains_retirement : ∃ t, exec (step (service markedLibrary)) { world := {} } retirement = some t ∧
    t.threads.map (fun thread => thread.result?.map fun result =>
        [201, 200, 404].map fun statusCode => hasStatus statusCode result) =
      [some [true, false, false], some [false, true, false], some [false, true, false], some [false, false, true]] ∧
    t.world.users.map CognitoUser.sub = ["s1"] ∧ ¬ Removed t 3 "e1" "s1" := by
  obtain ⟨t, hrun⟩ := Option.isSome_iff_exists.1
    (show (exec (step (service markedLibrary)) { world := {} } retirement).isSome = true by decide)
  have hended : (exec (step (service markedLibrary)) { world := {} } retirement).map (fun t =>
      (t.threads.map (fun thread => thread.result?.map fun result =>
        [201, 200, 404].map fun statusCode => hasStatus statusCode result), t.world.users.map CognitoUser.sub)) =
      some ([some [true, false, false], some [false, true, false], some [false, true, false], some [false, false, true]],
        ["s1"]) := by decide
  rw [hrun, Option.map_some, Option.some.injEq, Prod.mk.injEq] at hended
  refine ⟨t, hrun, hended.1, hended.2, fun hremoved => ?_⟩
  obtain ⟨thread, response, hthread, hresult, hnotFound, -⟩ := hremoved.answered
  have hthird := congrArg (fun statuses => statuses[3]?) hended.1
  simp only [List.getElem?_map, hthread, Option.map_some, hresult] at hthird
  simp [hasStatus, hnotFound] at hthird

end CognitoRemoval

end EmployeeApi

end SafetyConfirmation
