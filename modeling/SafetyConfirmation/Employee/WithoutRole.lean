import SafetyConfirmation.Employee.Requests

/-!
# EmployeeApi without the administrator role

Two routes ask for the role. On the others a request without it is served unless it is turned down before its first call,
as anyone's would be, and then it leaves a row behind or its answer tells what is in the table.
-/

namespace SafetyConfirmation

namespace EmployeeApi

open KeyedStore EmployeeCsv Program

namespace Invocation

section

variable (library : Library) (inv : Invocation)

/-- The invocation run alone, where each of its calls goes as the environment has it. -/
def runAlone (environment : Call → Environment) : World → Except PyError HttpResponse × World :=
  (inv.lambdaHandler library).run fun w c => respond w (environment c) c

/-- The file of an upload that can be read. -/
def uploadedFile : Option File :=
  match parseBody inv.event.body with
  | .error _ => none
  | .ok body =>
    match (body.get? "csvBase64").bind Value.asStr? with
    | none | some "" => none
    | some raw => (library.decodeCsv raw).toOption

/-- The upload has rows and no errors. -/
def isImportable : Bool :=
  (uploadedFile library inv).any fun file => (parseEmployeeCsv file).errors.isEmpty && !(parseEmployeeCsv file).rows.isEmpty

/-- The two routes that ask for the role, and on the others what is turned down before the first call. -/
def isRefused : Bool :=
  match Route.ofEvent inv.event with
  | none | some .anonymizeEmployee | some .deleteCognitoUser => true
  | some .createEmployee => !(parseBody inv.event.body >>= parseNewEmployee).isOk
  | some .listEmployees => !(inv.event.queryStringParameters.getOrEmpty "includeDeleted").isOk
  | some .getEmployeeById | some .deleteEmployee => !inv.pathId.isOk
  | some .updateEmployee => !(parseBody inv.event.body).isOk || !inv.pathId.isOk
  | some .importCsv => !inv.isImportable library

end

variable {library : Library} {inv : Invocation}

theorem ended_onError (e : PyError) : (onError e).Ended := by
  cases e with
  | valueError | typeError | noTargetsError | other => first | exact ended_return _ | exact ended_throw _
  | clientError code =>
    rw [onError]
    split
    · exact ended_return _
    · exact ended_throw _

theorem not_isAuthorized (hrole : Auth.isAdministrator inv.event.requestContext = false) {claims : Value}
    (hclaims : Auth.claimsOf inv.event.requestContext = .ok claims) :
    (!Auth.isAuthorized claims (.str Auth.administratorGroup)) = true := by
  rw [Auth.isAdministrator, hclaims] at hrole
  simpa using hrole

theorem ended_anonymizeEmployee (hrole : Auth.isAdministrator inv.event.requestContext = false) :
    (inv.anonymizeEmployee library).Ended := by
  rw [anonymizeEmployee]
  split
  · exact ended_return _
  · apply ended_ofExcept_bind
    intro claims hclaims
    rw [if_pos (not_isAuthorized hrole hclaims)]
    exact ended_return _

theorem ended_deleteCognitoUser (hrole : Auth.isAdministrator inv.event.requestContext = false) :
    inv.deleteCognitoUser.Ended := by
  rw [deleteCognitoUser]
  apply ended_ofExcept_bind
  intro claims hclaims
  rw [if_pos (not_isAuthorized hrole hclaims)]
  exact ended_return _

/-- An upload ends at once, or goes on with the rows of its file. -/
theorem importCsv_cases {body : Value} (hbody : parseBody inv.event.body = .ok body) :
    ((inv.uploadedFile library).all (fun file => !(parseEmployeeCsv file).errors.isEmpty) = true ∧
      (inv.importCsv library body).Ended) ∨
    ∃ file, inv.uploadedFile library = some file ∧ (parseEmployeeCsv file).errors = [] ∧
      inv.importCsv library body = inv.importRows library (parseEmployeeCsv file).rows := by
  unfold importCsv
  rw [uploadedFile, hbody]
  dsimp only
  cases (body.get? "csvBase64").bind Value.asStr? with
  | none => exact .inl ⟨rfl, ended_throw _⟩
  | some raw =>
    by_cases hempty : raw = ""
    · subst hempty
      exact .inl ⟨rfl, ended_throw _⟩
    · simp only
      cases library.decodeCsv raw with
      | error message => exact .inl ⟨rfl, ended_return _⟩
      | ok file =>
        by_cases herrors : (parseEmployeeCsv file).errors = []
        · exact .inr ⟨file, rfl, herrors, if_neg (not_not.2 herrors)⟩
        · left
          dsimp only
          rw [if_pos herrors]
          exact ⟨by simpa [Except.toOption] using herrors, ended_return _⟩

theorem ended_importCsv {body : Value} (hbody : parseBody inv.event.body = .ok body)
    (hrefused : inv.isImportable library = false) : (inv.importCsv library body).Ended := by
  rcases importCsv_cases hbody with ⟨-, hended⟩ | ⟨file, hfile, herrors, himport⟩
  · exact hended
  · rw [isImportable, hfile] at hrefused
    have hrows : (parseEmployeeCsv file).rows = [] := by simpa [herrors] using hrefused
    rw [himport, hrows]
    exact ⟨.ok (importAnswer 201 0 0 []), rfl⟩

/-- Without the role a request that is refused ends before its first call. -/
theorem ended_handle (hrole : Auth.isAdministrator inv.event.requestContext = false)
    (hrefused : inv.isRefused library = true) : (inv.handle library (Route.ofEvent inv.event)).Ended := by
  unfold isRefused at hrefused
  cases hroute : Route.ofEvent inv.event with
  | none => exact ended_return _
  | some route =>
    rw [hroute] at hrefused
    cases route with
    | anonymizeEmployee => exact ended_anonymizeEmployee hrole
    | deleteCognitoUser => exact ended_deleteCognitoUser hrole
    | createEmployee =>
      apply ended_ofExcept_bind
      intro body hbody
      apply ended_ofExcept_bind
      intro new hnew
      dsimp only at hrefused
      rw [hbody, show (Except.ok body >>= parseNewEmployee) = parseNewEmployee body from rfl, hnew] at hrefused
      cases hrefused
    | listEmployees =>
      apply ended_ofExcept_bind
      intro includeDeleted hinclude
      dsimp only at hrefused
      rw [hinclude] at hrefused
      cases hrefused
    | getEmployeeById | deleteEmployee =>
      apply ended_ofExcept_bind
      intro id hid
      dsimp only at hrefused
      rw [hid] at hrefused
      cases hrefused
    | updateEmployee =>
      apply ended_ofExcept_bind
      intro body hbody
      apply ended_ofExcept_bind
      intro id hid
      dsimp only at hrefused
      rw [hbody, hid] at hrefused
      cases hrefused
    | importCsv =>
      apply ended_ofExcept_bind
      intro body hbody
      exact ended_importCsv hbody (by simpa using hrefused)

theorem ended_lambdaHandler (hrole : Auth.isAdministrator inv.event.requestContext = false)
    (hrefused : (!(Auth.principal inv.event.requestContext).isOk || inv.isRefused library) = true) :
    (inv.lambdaHandler library).Ended := by
  apply ended_ofExcept_bind
  intro subject hsubject
  rw [hsubject] at hrefused
  exact (ended_handle hrole (by simpa [Except.isOk, Except.toBool] using hrefused)).tryCatch ended_onError

/-! ### What the others do in a table of one row -/

/-- A call that does not fail. -/
def calmly (w : World) (c : Call) : Except PyError (Result c) × World := respond w {} c

section

variable {subject : Value} {w w' : World} {response : HttpResponse}

theorem runAlone_of_ok (hsubject : Auth.principal inv.event.requestContext = .ok subject)
    (hrun : (inv.handle library (Route.ofEvent inv.event)).run calmly w = (.ok response, w')) :
    inv.runAlone library (fun _ => {}) w = (.ok response, w') := by
  rw [runAlone, lambdaHandler, hsubject]
  refine (run_tryCatch calmly (inv.handle library (Route.ofEvent inv.event)) onError w).trans ?_
  rw [hrun]

theorem runAlone_of_valueError (hsubject : Auth.principal inv.event.requestContext = .ok subject) {message : String}
    {got : Option Value}
    (hrun : (inv.handle library (Route.ofEvent inv.event)).run calmly w = (.error (.valueError message got), w')) :
    inv.runAlone library (fun _ => {}) w = (.ok (.error 400 message), w') := by
  rw [runAlone, lambdaHandler, hsubject]
  refine (run_tryCatch calmly (inv.handle library (Route.ofEvent inv.event)) onError w).trans ?_
  rw [hrun]
  rfl

end

/-- In an empty table no number is registered. -/
theorem run_phoneAlreadyRegistered (phone : String) :
    (inv.phoneAlreadyRegistered library phone).run calmly {} = (.ok false, {}) := by
  rw [phoneAlreadyRegistered]
  split <;> rfl

theorem run_createCognitoAdmin (email name : String) :
    ∃ w', (inv.createCognitoAdmin email name).run calmly {} = (.ok "", w') := by
  let user : CognitoUser := { username := email, sub := "", name }
  refine ⟨(act { users := [user] } {} (.adminAddUserToGroup email inv.adminGroupName)).2, ?_⟩
  show (call (.adminAddUserToGroup email inv.adminGroupName) >>= fun _ => return "" : Action String).run calmly
    { users := [user] } = _
  rw [run_bind, call, run_perform]
  simp [calmly, respond, act, user]
  rfl

theorem run_cognitoSubOf (new : NewEmployee) :
    ∃ sub w', (inv.cognitoSubOf new).run calmly {} = (.ok (some sub), w') := by
  rw [cognitoSubOf]
  split
  · obtain ⟨w', hrun⟩ := @run_createCognitoAdmin inv new.adminEmail new.name
    refine ⟨"", w', ?_⟩
    rw [run_tryCatch, run_bind, hrun]
    rfl
  · exact ⟨"", {}, rfl⟩

theorem run_createEmployee {body : Value} {new : NewEmployee} (hnew : parseNewEmployee body = .ok new) :
    ∃ response w', (inv.createEmployee library body).run calmly {} = (.ok response, w') ∧
      (w'.employees.lookup (inv.uuid 0)).isSome = true := by
  obtain ⟨sub, w', hsub⟩ := @run_cognitoSubOf inv new
  rw [createEmployee, hnew]
  show ∃ response w', ((inv.phoneAlreadyRegistered library new.phone >>= _ : Action _).run calmly {}) = _ ∧ _
  rw [run_bind, run_phoneAlreadyRegistered]
  dsimp only
  rw [if_neg Bool.false_ne_true, run_bind, hsub]
  refine ⟨_, _, rfl, ?_⟩
  simp [calmly, respond, act]

theorem run_insertBatches (attempted : Nat) (rest : List (List (EmployeeRow × Nat))) (inserted : List String) (w : World) :
    ∃ response, (inv.insertBatches library attempted rest inserted).run calmly w =
      (.ok response, { w with employees := putAll w.employees (rest.flatten.map (inv.importItem library)) }) := by
  induction rest generalizing inserted w with
  | nil => exact ⟨_, rfl⟩
  | cons batch rest ih =>
    obtain ⟨response, hrun⟩ := ih (inserted ++ batch.map fun row => row.1.phoneNumber)
      { w with employees := putAll w.employees (batch.map (inv.importItem library)) }
    refine ⟨response, hrun.trans ?_⟩
    dsimp only
    rw [List.flatten_cons, List.map_append, putAll, putAll, putAll, List.foldl_append]

theorem run_importRows {rows : List EmployeeRow} (hrows : rows ≠ []) :
    ∃ response w', (inv.importRows library rows).run calmly {} = (.ok response, w') ∧
      (w'.employees.lookup (inv.uuid 0)).isSome = true := by
  have hput : inv.uuid 0 ∈ ((rows.zipIdx).map (inv.importItem library)).map Prod.fst := by
    cases rows with
    | nil => exact absurd rfl hrows
    | cons row rows => simp [importItem]
  obtain ⟨response, hrun⟩ := @run_insertBatches library inv rows.length
    (batches transactMaxItems rows.zipIdx) [] {}
  rw [flatten_batches (by decide)] at hrun
  refine ⟨response, { employees := putAll ∅ (rows.zipIdx.map (inv.importItem library)) }, ?_, ?_⟩
  · rw [importRows, run_bind, run_filterList_eq_nil _ run_phoneAlreadyRegistered]
    exact hrun
  · obtain ⟨item, -, hitem⟩ := foldl_put_of_mem ((∅ : Store String EmployeeItem).lookup (inv.uuid 0)) hput
    dsimp only
    rw [lookup_putAll, hitem]
    rfl

/-- A table of one row, with nothing in it. -/
def oneRow (employeeId : String) : World := { employees := (∅ : Store String EmployeeItem).set employeeId (some {}) }

theorem lookup_oneRow (employeeId : String) : (oneRow employeeId).employees.lookup employeeId = some {} :=
  Store.lookup_set_self ..

theorem run_getEmployeeById {id : String} (hid : inv.pathId = .ok id) :
    (inv.getEmployeeById library).run calmly {} = (.ok (notFound id), {}) ∧
    ∃ response, (inv.getEmployeeById library).run calmly (oneRow id) = (.ok response, oneRow id) ∧
      response.statusCode = 200 := by
  rw [getEmployeeById, hid]
  refine ⟨rfl, ?_⟩
  show ∃ response, ((call (.getItem id) >>= _ : Action _).run calmly (oneRow id)) = _ ∧ _
  rw [run_bind, call, run_perform, calmly, respond, act, lookup_oneRow]
  exact ⟨_, rfl, rfl⟩

theorem run_deleteEmployee {id : String} (hid : inv.pathId = .ok id) :
    (inv.deleteEmployee library).run calmly {} = (.ok (notFound id), {}) ∧
    ∃ response w', (inv.deleteEmployee library).run calmly (oneRow id) = (.ok response, w') ∧
      response.statusCode = 200 := by
  rw [deleteEmployee, hid]
  refine ⟨rfl, ?_⟩
  show ∃ response w', ((call (.getItem id) >>= _ : Action _).run calmly (oneRow id)) = _ ∧ _
  rw [run_bind, call, run_perform, calmly, respond, act, lookup_oneRow]
  exact ⟨_, _, rfl, rfl⟩

theorem parseUpdate_error {body : Value} {name phone : String} {e : PyError} (h : parseUpdate body name phone = .error e) :
    ∃ message got, e = .valueError message got := by
  rw [parseUpdate] at h
  by_cases hname : Employee.isValidName ((body.get? "name").getD (.str name)) = true
  · rw [Checks.require_of hname, Checks.ok_bind] at h
    by_cases hphone : isValidPhone ((body.get? "phoneNumber").getD (.str phone)) = true
    · rw [Checks.require_of hphone] at h
      cases h
    · rw [Checks.require, if_neg hphone] at h
      cases h
      exact ⟨_, _, rfl⟩
  · rw [Checks.require, if_neg hname] at h
    cases h
    exact ⟨_, _, rfl⟩

theorem run_phoneAlreadyRegistered_oneRow (id phone : String) : ∃ registered,
    (inv.phoneAlreadyRegistered library phone).run calmly (oneRow id) = (.ok registered, oneRow id) := by
  rw [phoneAlreadyRegistered]
  split <;> exact ⟨_, rfl⟩

/-- An update of a row that is there is answered otherwise than one of a row that is not. -/
theorem run_updateEmployee {id : String} (hid : inv.pathId = .ok id) (body : Value) :
    (inv.updateEmployee library body).run calmly {} = (.ok (notFound id), {}) ∧
    ((∃ response w', (inv.updateEmployee library body).run calmly (oneRow id) = (.ok response, w') ∧
      response.statusCode ≠ 404) ∨
    ∃ message got, (inv.updateEmployee library body).run calmly (oneRow id) =
      (.error (.valueError message got), oneRow id)) := by
  rw [updateEmployee, hid]
  refine ⟨rfl, ?_⟩
  show (∃ response w', ((call (.getItem id) >>= _ : Action _).run calmly (oneRow id)) = _ ∧ _) ∨
    ∃ message got, ((call (.getItem id) >>= _ : Action _).run calmly (oneRow id)) = _
  rw [run_bind, call, run_perform, calmly, respond, act, lookup_oneRow]
  change (∃ response w', ((Program.ofExcept (parseUpdate body "" "") >>= _ : Action _).run calmly (oneRow id)) = _ ∧ _) ∨
    ∃ message got, ((Program.ofExcept (parseUpdate body "" "") >>= _ : Action _).run calmly (oneRow id)) = _
  cases hnew : parseUpdate body "" "" with
  | error e =>
    obtain ⟨message, got, rfl⟩ := parseUpdate_error hnew
    exact .inr ⟨message, got, rfl⟩
  | ok new =>
    left
    show ∃ response w', ((if new.2 = "" then _ else _ : Action _).run calmly (oneRow id)) = _ ∧ _
    split
    · exact ⟨_, _, rfl, by simp⟩
    · obtain ⟨registered, hregistered⟩ := @run_phoneAlreadyRegistered_oneRow library inv id new.2
      rw [run_bind, hregistered]
      cases registered with
      | true => exact ⟨_, _, rfl, by decide⟩
      | false => exact ⟨_, _, rfl, by simp⟩

/-- The total of an answered list. -/
def total? (result : Except PyError HttpResponse) : Option Int :=
  result.toOption.bind fun response => (response.body.get? "total").bind Value.asInt?

theorem run_listEmployees {includeDeleted : Value}
    (hinclude : inv.event.queryStringParameters.getOrEmpty "includeDeleted" = .ok includeDeleted) :
    ∃ nobody response, (inv.listEmployees library).run calmly {} = (.ok nobody, {}) ∧
      (inv.listEmployees library).run calmly (oneRow "e1") = (.ok response, oneRow "e1") ∧
      total? (.ok nobody) = some 0 ∧ total? (.ok response) = some 1 := by
  rw [listEmployees, hinclude]
  exact ⟨_, _, rfl, rfl, rfl, rfl⟩

def statusCode? (result : Except PyError HttpResponse) : Option Nat := result.toOption.map HttpResponse.statusCode

section

variable {subject : Value} {w w' v v' : World} {response response' : HttpResponse}

theorem not_inert_of_row (hsubject : Auth.principal inv.event.requestContext = .ok subject)
    (hrun : (inv.handle library (Route.ofEvent inv.event)).run calmly {} = (.ok response, w')) {employeeId : String}
    (hrow : (w'.employees.lookup employeeId).isSome = true) : ¬ Inert (inv.runAlone library fun _ => {}) := by
  apply @not_inert_of_changed _ _ _ _ (fun w => (w.employees.lookup employeeId).isSome) {}
  rw [runAlone_of_ok hsubject hrun, hrow]
  simp

theorem not_inert_of_statusCode (hsubject : Auth.principal inv.event.requestContext = .ok subject)
    (hrun : (inv.handle library (Route.ofEvent inv.event)).run calmly w = (.ok response, w'))
    (hrun' : (inv.handle library (Route.ofEvent inv.event)).run calmly v = (.ok response', v'))
    (hstatus : response'.statusCode ≠ response.statusCode) : ¬ Inert (inv.runAlone library fun _ => {}) := by
  apply @not_inert_of_answers _ _ _ _ statusCode? v w
  rw [runAlone_of_ok hsubject hrun, runAlone_of_ok hsubject hrun']
  simpa [statusCode?, Except.toOption] using hstatus

end

/-- A request that is not refused leaves a row behind, or its answer tells whether there is one. -/
theorem not_inert {subject : Value} (hsubject : Auth.principal inv.event.requestContext = .ok subject)
    (hserved : inv.isRefused library = false) : ¬ Inert (inv.runAlone library fun _ => {}) := by
  unfold isRefused at hserved
  cases hroute : Route.ofEvent inv.event with
  | none =>
    rw [hroute] at hserved
    cases hserved
  | some route =>
    rw [hroute] at hserved
    cases route with
    | anonymizeEmployee => cases hserved
    | deleteCognitoUser => cases hserved
    | createEmployee =>
      obtain ⟨new, hparse⟩ := Checks.exists_of_isOk (by simpa using hserved)
      obtain ⟨body, hbody, hnew⟩ := Checks.bind_eq_ok.1 hparse
      obtain ⟨response, w', hrun, hrow⟩ := @run_createEmployee library inv body new hnew
      refine @not_inert_of_row library inv _ w' response hsubject ?_ _ hrow
      rw [hroute, handle, parsedBody, hbody]
      exact hrun
    | listEmployees =>
      obtain ⟨includeDeleted, hinclude⟩ := Checks.exists_of_isOk (by simpa using hserved)
      obtain ⟨nobody, response, hempty, hrun, hnone, hone⟩ := @run_listEmployees library inv includeDeleted hinclude
      rw [← show inv.handle library (Route.ofEvent inv.event) = inv.listEmployees library by rw [hroute, handle]]
        at hempty hrun
      apply @not_inert_of_answers _ _ _ _ total? {} (oneRow "e1")
      rw [runAlone_of_ok hsubject hempty, runAlone_of_ok hsubject hrun, hnone, hone]
      decide
    | getEmployeeById =>
      obtain ⟨id, hid⟩ := Checks.exists_of_isOk (by simpa using hserved)
      obtain ⟨hempty, response, hrun, hstatus⟩ := @run_getEmployeeById library inv id hid
      rw [← show inv.handle library (Route.ofEvent inv.event) = inv.getEmployeeById library by rw [hroute, handle]]
        at hempty hrun
      exact not_inert_of_statusCode hsubject hempty hrun (by simp [hstatus, notFound, HttpResponse.error])
    | deleteEmployee =>
      obtain ⟨id, hid⟩ := Checks.exists_of_isOk (by simpa using hserved)
      obtain ⟨hempty, response, w', hrun, hstatus⟩ := @run_deleteEmployee library inv id hid
      rw [← show inv.handle library (Route.ofEvent inv.event) = inv.deleteEmployee library by rw [hroute, handle]]
        at hempty hrun
      exact not_inert_of_statusCode hsubject hempty hrun (by simp [hstatus, notFound, HttpResponse.error])
    | updateEmployee =>
      dsimp only at hserved
      rw [Bool.or_eq_false_iff] at hserved
      obtain ⟨body, hbody⟩ := Checks.exists_of_isOk (by simpa using hserved.1)
      obtain ⟨id, hid⟩ := Checks.exists_of_isOk (by simpa using hserved.2)
      obtain ⟨hempty, hrun⟩ := @run_updateEmployee library inv id hid body
      rw [← show inv.handle library (Route.ofEvent inv.event) = inv.updateEmployee library body by
        rw [hroute, handle, parsedBody, hbody]; rfl] at hempty hrun
      rcases hrun with ⟨response, w', hrun, hstatus⟩ | ⟨message, got, hrun⟩
      · exact not_inert_of_statusCode hsubject hempty hrun hstatus
      · apply @not_inert_of_answers _ _ _ _ statusCode? {} (oneRow id)
        rw [runAlone_of_ok hsubject hempty, runAlone_of_valueError hsubject hrun]
        simp [statusCode?, Except.toOption, notFound, HttpResponse.error]
    | importCsv =>
      dsimp only at hserved
      rw [Bool.not_eq_false'] at hserved
      cases hbody : parseBody inv.event.body with
      | error e =>
        rw [isImportable, uploadedFile, hbody] at hserved
        cases hserved
      | ok body =>
        rcases importCsv_cases hbody with ⟨hfile, -⟩ | ⟨file, hfile, herrors, himport⟩
        · cases hupload : inv.uploadedFile library with
          | none =>
            rw [isImportable, hupload] at hserved
            cases hserved
          | some file =>
            rw [hupload, Option.all_some] at hfile
            rw [isImportable, hupload, Option.any_some, Bool.and_eq_true] at hserved
            rw [hserved.1] at hfile
            cases hfile
        · rw [isImportable, hfile, Option.any_some, Bool.and_eq_true] at hserved
          obtain ⟨response, w', hrun, hrow⟩ := @run_importRows library inv (parseEmployeeCsv file).rows
            (by simpa using hserved.2)
          refine @not_inert_of_row library inv _ w' response hsubject ?_ _ hrow
          rw [hroute, handle, parsedBody, hbody]
          show (inv.importCsv library body).run calmly {} = _
          rw [himport]
          exact hrun

theorem inert_iff (hrole : Auth.isAdministrator inv.event.requestContext = false) :
    (∀ environment, Inert (inv.runAlone library environment)) ↔
      (!(Auth.principal inv.event.requestContext).isOk || inv.isRefused library) = true := by
  constructor
  · intro hinert
    cases hsubject : Auth.principal inv.event.requestContext with
    | error e => rfl
    | ok subject =>
      by_contra hserved
      exact not_inert hsubject (by simpa [Except.isOk, Except.toBool] using hserved) (hinert fun _ => {})
  · intro hrefused environment
    exact (ended_lambdaHandler hrole hrefused).inert _

end Invocation

end EmployeeApi

end SafetyConfirmation
