import SafetyConfirmation.Audit.Log
import SafetyConfirmation.Employee.Api

/-!
# What EmployeeApi writes

The handlers with the audit records and the log lines that they write, and the number that each call of a rollback is made
for. Without the writing they are the handlers of `Employee.Api`.
-/

namespace SafetyConfirmation

namespace EmployeeApi

open Checks Employee EmployeeCsv Audit

/-- A call that a rollback makes for a phone number, or a line. -/
inductive Note where
  | rollback (phone : String) (c : Call)
  | emit (line : Line)

abbrev Note.Result : Note → Type
  | .rollback _ c => EmployeeApi.Result c
  | .emit _ => Unit

abbrev Act := Call ⊕ Note

abbrev Act.Result : Act → Type := Sum.elim EmployeeApi.Result Note.Result

abbrev LoggedAction := Program Act Act.Result PyError

/-- The calls that a note stands for. -/
def Note.calls : (note : Note) → Action note.Result
  | .rollback _ c => call c
  | .emit _ => return ()

/-- The program without what it writes. -/
def unlogged {α : Type} (program : LoggedAction α) : Action α := program.resolve Note.calls

def silent {α : Type} (program : Action α) : LoggedAction α := program.inl

def emit (line : Line) : LoggedAction Unit := Program.perform (Sum.inr (Note.emit line) : Act)

/-- `LOGGER.error` and its siblings. -/
def log (message : String) (arguments : List String) (error : Option PyError := none) : LoggedAction Unit :=
  emit (.log message arguments error)

/-- `LOGGER.error` in `except ClientError as exc`. -/
def logClientError (message : String) (arguments : List String) (e : PyError) : LoggedAction Unit :=
  match e with
  | .clientError code => log message arguments (some (.clientError code))
  | _ => return ()

/-- A call of the rollback for a phone number. -/
def callFor (phone : String) (c : Call) : LoggedAction (Result c) :=
  Program.perform (Sum.inr (Note.rollback phone c) : Act)

namespace Logged

variable (library : Library) (inv : Invocation) (principal : Value)

def audit (event target : String) (phone : Option String := none) (extra : List (String × Value) := []) :
    LoggedAction Unit :=
  emit (auditLine inv.now event principal target phone extra)

/-! ### POST /employees -/

def onCognitoError (e : PyError) : LoggedAction (Option String) :=
  match e with
  | .clientError "UsernameExistsException" => return none
  | e => do
    logClientError "Cognito admin_create_user failed: %s" [] e
    throw e

def cognitoSubOf (new : Invocation.NewEmployee) : LoggedAction (Option String) :=
  if new.isAdmin then
    Program.tryCatch (do
      let sub ← silent (inv.createCognitoAdmin new.adminEmail new.name)
      return some sub) onCognitoError
  else return some ""

def auditCognitoUser (new : Invocation.NewEmployee) (sub : String) : LoggedAction Unit :=
  if new.isAdmin = true ∧ sub ≠ "" then
    audit inv principal "COGNITO_USER_CREATE" (inv.uuid 0) none [("cognitoSub", .str sub)]
  else pure ()

def storeEmployee (new : Invocation.NewEmployee) (sub : String) : LoggedAction HttpResponse := do
  let response ← silent (inv.storeEmployee library new sub)
  audit inv principal "EMPLOYEE_ADD" (inv.uuid 0) (some new.phone)
  auditCognitoUser inv principal new sub
  return response

def createEmployee (body : Value) : LoggedAction HttpResponse := do
  let new ← Program.ofExcept (Invocation.parseNewEmployee body)
  let registered ← silent (inv.phoneAlreadyRegistered library new.phone)
  if registered then return phoneTaken
  else
    match ← cognitoSubOf inv new with
    | none => return .error 409 "Admin email already registered in Cognito"
    | some sub => storeEmployee library inv principal new sub

/-! ### PUT /employees/{id} and DELETE /employees/{id} -/

def updateEmployee (body : Value) : LoggedAction HttpResponse := do
  let id ← Program.ofExcept inv.pathId
  match ← silent (call (.getItem id)) with
  | none => return notFound id
  | some existing =>
    if existing.isDeleted then return notFound id
    else
      let name ← Program.ofExcept (Invocation.decrypted library existing.name)
      let phone ← Program.ofExcept (Invocation.decrypted library existing.phoneNumber)
      let new ← Program.ofExcept (Invocation.parseUpdate body name phone)
      let registered ← if new.2 = phone then pure false else silent (inv.phoneAlreadyRegistered library new.2)
      if registered then return phoneTaken
      else
        silent (updateItem id
          (.fields (inv.encrypt library 0 new.1) (inv.encrypt library 1 new.2) (inv.blindIndex library new.2) inv.now))
        audit inv principal "EMPLOYEE_UPDATE" id (some new.2)
        return {
          statusCode := 200
          body := .dict [("employeeId", .str id), ("name", .str new.1), ("phoneNumber", .str new.2)] }

def deleteEmployee : LoggedAction HttpResponse := do
  let id ← Program.ofExcept inv.pathId
  match ← silent (call (.getItem id)) with
  | none => return notFound id
  | some existing =>
    if existing.isDeleted then return notFound id
    else
      silent (updateItem id (.delete inv.now))
      let phone ← Program.ofExcept (Invocation.decrypted library existing.phoneNumber)
      audit inv principal "EMPLOYEE_DELETE" id (some phone)
      return { statusCode := 200, body := .dict [("employeeId", .str id), ("deleted", .bool true)] }

/-! ### POST /employees/import -/

def findForRollback (phone : String) : LoggedAction (List (String × EmployeeItem)) :=
  if inv.encryptionEnabled then callFor phone (.scanBlindIndex (library.crypto.computeBlindIndex phone) false)
  else callFor phone (.queryPhone phone)

def rollbackFailed : String := "Rollback delete failed for %s: %s"

/-- The phone number is logged as it is. -/
def onRollbackError (phone : String) (e : PyError) : LoggedAction Unit :=
  match e with
  | .clientError code => log rollbackFailed [phone] (some (.clientError code))
  | e => throw e

def rollbackPhone (phone : String) : LoggedAction Unit :=
  Program.tryCatch (do
    let items ← findForRollback library inv phone
    Program.forEach (fun entry => callFor phone (.deleteItem entry.1)) items) (onRollbackError phone)

/-- `_rollback_inserted`. -/
def rollbackInserted (phones : List String) : LoggedAction Unit := Program.forEach (rollbackPhone library inv) phones

def insertBatches (attempted : Nat) : List (List (EmployeeRow × Nat)) → List String → LoggedAction HttpResponse
  | [], inserted => do
    audit inv principal "EMPLOYEE_CSV_IMPORT" ("<batch:" ++ toString inserted.length ++ "rows>")
    return Invocation.importAnswer 201 inserted.length attempted []
  | batch :: rest, inserted =>
    .call (.inl (.transactPut (batch.map (inv.importItem library)))) fun
      | .ok _ => insertBatches attempted rest (inserted ++ batch.map fun row => row.1.phoneNumber)
      | .error (.clientError code) => do
        log "CSV import transact failed after %d rows: %s" [toString inserted.length] (some (.clientError code))
        rollbackInserted library inv inserted
        return Invocation.importAnswer 500 0 attempted
          [.dict [("reason", .str ("DynamoDB transact failed; rolled back: " ++ code))]]
      | .error e => throw e

def importRows (rows : List EmployeeRow) : LoggedAction HttpResponse := do
  let duplicates ← silent
    (Program.filterList (inv.phoneAlreadyRegistered library) (rows.map EmployeeRow.phoneNumber))
  if duplicates ≠ [] then
    return Invocation.importAnswer 409 0 rows.length
      ((Invocation.sortedDuplicates duplicates).map fun phone =>
        .dict [("reason", .str ("Phone already registered: " ++ phone))])
  else insertBatches library inv principal rows.length (batches transactMaxItems rows.zipIdx) []

def importCsv (body : Value) : LoggedAction HttpResponse :=
  match (body.get? "csvBase64").bind Value.asStr? with
  | none | some "" => throw (.valueError "csvBase64 is required (base64-encoded CSV content)")
  | some raw =>
    match library.decodeCsv raw with
    | .error message => return .error 400 ("csvBase64 is not valid base64: " ++ message)
    | .ok file =>
      let parsed := parseEmployeeCsv file
      if parsed.errors ≠ [] then
        return Invocation.importAnswer 400 0 (parsed.rows.length + parsed.errors.length)
          (parsed.errors.map fun e => .dict [("line", .int e.line), ("reason", .str e.reason)])
      else importRows library inv principal parsed.rows

/-! ### POST /employees/{id}/anonymize and DELETE /employees/{id}/cognito-user -/

def anonymizedIdPrefix : String := "ANON_"

def anonymizeEmployee : LoggedAction HttpResponse :=
  if inv.anonymizeSalt = "" then do
    log "EMPLOYEE_ANONYMIZE_SALT is unset or empty; refusing to anonymize" []
    return .error 503 "Anonymization is unavailable: salt is not configured."
  else do
    let claims ← Program.ofExcept (Auth.claimsOf inv.event.requestContext)
    if !Auth.isAuthorized claims (.str Auth.administratorGroup) then return Invocation.adminRequired
    else
      let id ← Program.ofExcept inv.pathId
      match ← silent (call (.getItem id)) with
      | none => return notFound id
      | some existing =>
        if !existing.isDeleted then
          return .error 409 ("Employee must be logically deleted before anonymize " ++
            "(privacy.md §6.3 step 2 must precede step 3)")
        else
          let anonymizedId := library.anonymizeEmployeeId id inv.anonymizeSalt
          let cycleIds ← silent (call .scanCycleIds)
          let rows ← silent (Invocation.responsesOf id cycleIds)
          silent (Program.forEach (fun chunk => call (.transactRewrite chunk anonymizedId))
            (batches anonymizeRowsPerBatch rows))
          audit inv principal "EMPLOYEE_ANONYMIZE" id none
            [("responseCountUpdated", .int rows.length), ("anonymizedIdPrefix", .str anonymizedIdPrefix)]
          return {
            statusCode := 200
            body := .dict [("employeeId", .str id), ("anonymizedId", .str anonymizedId),
              ("responseCountUpdated", .int rows.length)] }

def onDeleteUserError (id sub : String) (e : PyError) : LoggedAction Unit :=
  match e with
  | .clientError "UserNotFoundException" => log "Cognito user already absent for employee %s (sub=%s)" [id, sub]
  | e => do
    logClientError "Cognito admin_delete_user failed for %s: %s" [id] e
    throw e

def deleteUser (id sub : String) : LoggedAction Unit :=
  Program.tryCatch (silent (call (.adminDeleteUser sub))) (onDeleteUserError id sub)

def deleteCognitoUser : LoggedAction HttpResponse := do
  let claims ← Program.ofExcept (Auth.claimsOf inv.event.requestContext)
  if !Auth.isAuthorized claims (.str Auth.administratorGroup) then return Invocation.adminRequired
  else
    let id ← Program.ofExcept inv.pathId
    match ← silent (call (.getItem id)) with
    | none => return notFound id
    | some existing =>
      if !existing.isDeleted then
        return .error 409 "Employee must be logically deleted before Cognito user deletion (privacy.md §6.1)"
      else
        match existing.cognitoSub with
        | none | some "" => return .error 404 ("No Cognito user linked to employee: " ++ id)
        | some sub =>
          deleteUser id sub
          silent (updateItem id (.removeCognitoSub inv.now))
          audit inv principal "COGNITO_USER_DELETE" id none [("cognitoSubDeleted", .str sub)]
          return { statusCode := 200, body := .dict [("employeeId", .str id), ("cognitoUserDeleted", .bool true)] }

/-! ### The entry point -/

def parsedBody : LoggedAction Value := Program.ofExcept (parseBody inv.event.body)

def handle : Option Route → LoggedAction HttpResponse
  | some .createEmployee => parsedBody inv >>= createEmployee library inv principal
  | some .listEmployees => silent (inv.listEmployees library)
  | some .getEmployeeById => silent (inv.getEmployeeById library)
  | some .updateEmployee => parsedBody inv >>= updateEmployee library inv principal
  | some .deleteEmployee => deleteEmployee library inv principal
  | some .importCsv => parsedBody inv >>= importCsv library inv principal
  | some .anonymizeEmployee => anonymizeEmployee library inv principal
  | some .deleteCognitoUser => deleteCognitoUser inv principal
  | none => return .error 405 ("Method " ++ inv.event.httpMethod ++ " not allowed on " ++ inv.event.resource)

def onError (e : PyError) : LoggedAction HttpResponse :=
  match e with
  | .valueError .. => return .error 400 e.message
  | .clientError code =>
    if Invocation.isConflict code then return .error 409 "Conflict (concurrent modification or constraint violation)"
    else do
      logClientError "ClientError on %s %s: %s" [inv.event.httpMethod, inv.event.resource] e
      throw e
  | e => throw e

def lambdaHandler : LoggedAction HttpResponse := do
  let principal ← Program.ofExcept (Auth.principal inv.event.requestContext)
  (handle library inv principal (Route.ofEvent inv.event)).tryCatch (onError inv)

/-! ### Without the writing -/

section Unlogged

variable {α β : Type}

@[simp] theorem unlogged_bind (program : LoggedAction α) (f : α → LoggedAction β) :
    unlogged (program >>= f) = unlogged program >>= fun a => unlogged (f a) :=
  Program.resolve_bind Note.calls program f

@[simp] theorem unlogged_tryCatch (program : LoggedAction α) (handle : PyError → LoggedAction α) :
    unlogged (program.tryCatch handle) = (unlogged program).tryCatch fun e => unlogged (handle e) :=
  Program.resolve_tryCatch Note.calls program handle

@[simp] theorem unlogged_silent (program : Action α) : unlogged (silent program) = program :=
  Program.resolve_inl Note.calls program

@[simp] theorem unlogged_ofExcept (result : Except PyError α) :
    unlogged (Program.ofExcept result) = Program.ofExcept result :=
  Program.resolve_ofExcept Note.calls result

@[simp] theorem unlogged_pure (a : α) : unlogged (pure a) = pure a := rfl

@[simp] theorem unlogged_map (f : α → β) (program : LoggedAction α) :
    unlogged (f <$> program) = f <$> unlogged program := by
  rw [map_eq_pure_bind, map_eq_pure_bind, unlogged_bind]
  rfl

@[simp] theorem unlogged_throw (e : PyError) : unlogged (throw e : LoggedAction α) = throw e := rfl

@[simp] theorem unlogged_emit (line : Line) : unlogged (emit line) = pure () := rfl

@[simp] theorem unlogged_audit (event target : String) (phone : Option String) (extra : List (String × Value)) :
    unlogged (audit inv principal event target phone extra) = pure () := rfl

@[simp] theorem unlogged_log (message : String) (arguments : List String) (error : Option PyError) :
    unlogged (log message arguments error) = pure () := rfl

@[simp] theorem unlogged_logClientError (message : String) (arguments : List String) (e : PyError) :
    unlogged (logClientError message arguments e) = pure () := by
  cases e <;> rfl

@[simp] theorem unlogged_callFor (phone : String) (c : Call) : unlogged (callFor phone c) = call c :=
  Program.resolve_perform_inr Note.calls (.rollback phone c)

@[simp] theorem unlogged_forEach {γ : Type} (body : γ → LoggedAction Unit) (xs : List γ) :
    unlogged (Program.forEach body xs) = Program.forEach (fun x => unlogged (body x)) xs :=
  Program.resolve_forEach Note.calls body xs

theorem unlogged_onCognitoError (e : PyError) : unlogged (onCognitoError e) = Invocation.onCognitoError e := by
  unfold onCognitoError Invocation.onCognitoError
  split <;> simp

theorem unlogged_cognitoSubOf (new : Invocation.NewEmployee) : unlogged (cognitoSubOf inv new) = inv.cognitoSubOf new := by
  rw [cognitoSubOf, Invocation.cognitoSubOf]
  split
  · rw [unlogged_tryCatch, funext unlogged_onCognitoError]
    simp
  · simp

theorem unlogged_auditCognitoUser (new : Invocation.NewEmployee) (sub : String) :
    unlogged (auditCognitoUser inv principal new sub) = pure () := by
  rw [auditCognitoUser]
  split <;> simp

theorem unlogged_storeEmployee (new : Invocation.NewEmployee) (sub : String) :
    unlogged (storeEmployee library inv principal new sub) = inv.storeEmployee library new sub := by
  simp [storeEmployee, unlogged_auditCognitoUser]

theorem unlogged_createEmployee (body : Value) :
    unlogged (createEmployee library inv principal body) = inv.createEmployee library body := by
  rw [createEmployee, Invocation.createEmployee, unlogged_bind, unlogged_ofExcept]
  refine bind_congr fun new => ?_
  rw [unlogged_bind, unlogged_silent]
  refine bind_congr fun registered => ?_
  split
  · rfl
  · rw [unlogged_bind, unlogged_cognitoSubOf]
    refine bind_congr fun sub => ?_
    cases sub with
    | none => rfl
    | some sub => exact unlogged_storeEmployee library inv principal new sub

/-- What the handlers do with the row that the path names. -/
theorem unlogged_onExisting {handle : String → EmployeeItem → LoggedAction HttpResponse}
    {handle' : String → EmployeeItem → Action HttpResponse}
    (h : ∀ id existing, unlogged (handle id existing) = handle' id existing) :
    unlogged
        (do
          let id ← Program.ofExcept inv.pathId
          match ← silent (call (.getItem id)) with
          | none => return notFound id
          | some existing => handle id existing) =
      (do
        let id ← Program.ofExcept inv.pathId
        match ← call (.getItem id) with
        | none => return notFound id
        | some existing => handle' id existing) := by
  rw [unlogged_bind, unlogged_ofExcept]
  refine bind_congr fun id => ?_
  rw [unlogged_bind, unlogged_silent]
  refine bind_congr fun existing => ?_
  cases existing with
  | none => rfl
  | some existing => exact h id existing

theorem unlogged_updateEmployee (body : Value) :
    unlogged (updateEmployee library inv principal body) = inv.updateEmployee library body := by
  refine unlogged_onExisting inv fun id existing => ?_
  split
  · rfl
  · simp only [unlogged_bind, unlogged_ofExcept]
    refine bind_congr fun name => bind_congr fun phone => bind_congr fun new => ?_
    split
    · simp
    · rw [unlogged_bind, unlogged_silent]
      refine bind_congr fun registered => ?_
      split
      · rfl
      · simp

theorem unlogged_deleteEmployee : unlogged (deleteEmployee library inv principal) = inv.deleteEmployee library := by
  refine unlogged_onExisting inv fun id existing => ?_
  split
  · rfl
  · simp

theorem unlogged_rollbackPhone (phone : String) :
    unlogged (rollbackPhone library inv phone) = inv.rollbackPhone library phone := by
  have hhandle : ∀ e, unlogged (onRollbackError phone e) = Invocation.onRollbackError e := by
    intro e
    cases e <;> rfl
  have hfind : unlogged (findForRollback library inv phone) = inv.findForRollback library phone := by
    rw [findForRollback, Invocation.findForRollback]
    split <;> exact unlogged_callFor _ _
  have hdelete : ∀ items : List (String × EmployeeItem),
      unlogged (Program.forEach (fun entry => callFor phone (.deleteItem entry.1)) items) =
        Program.forEach (fun entry => call (.deleteItem entry.1)) items := by
    intro items
    rw [unlogged_forEach]
    exact congrArg (Program.forEach · items) (funext fun entry => unlogged_callFor phone _)
  rw [rollbackPhone, Invocation.rollbackPhone, unlogged_tryCatch, unlogged_bind, hfind, funext hdelete, funext hhandle]

theorem unlogged_insertBatches (attempted : Nat) (rows : List (List (EmployeeRow × Nat))) (inserted : List String) :
    unlogged (insertBatches library inv principal attempted rows inserted) =
      inv.insertBatches library attempted rows inserted := by
  induction rows generalizing inserted with
  | nil => rfl
  | cons batch rest ih =>
    rw [insertBatches, Invocation.insertBatches]
    refine congrArg (Program.call _) (funext fun answer => ?_)
    cases answer with
    | ok _ => exact ih _
    | error e =>
      cases e with
      | clientError code =>
        have hrollback : unlogged (rollbackInserted library inv inserted) = inv.rollbackInserted library inserted := by
          simp [rollbackInserted, Invocation.rollbackInserted, unlogged_rollbackPhone]
        show unlogged (log _ _ _ >>= fun _ => rollbackInserted library inv inserted >>= _) = _
        simp [hrollback]
      | _ => rfl

theorem unlogged_importRows (rows : List EmployeeRow) :
    unlogged (importRows library inv principal rows) = inv.importRows library rows := by
  rw [importRows, Invocation.importRows, unlogged_bind, unlogged_silent]
  refine bind_congr fun duplicates => ?_
  split
  · rfl
  · exact unlogged_insertBatches library inv principal _ _ _

theorem unlogged_importCsv (body : Value) :
    unlogged (importCsv library inv principal body) = inv.importCsv library body := by
  rw [importCsv, Invocation.importCsv]
  generalize (body.get? "csvBase64").bind Value.asStr? = csv
  split
  · rfl
  · rfl
  · rename_i raw _
    simp only
    cases library.decodeCsv raw with
    | error message => rfl
    | ok file =>
      dsimp only
      split
      · rfl
      · exact unlogged_importRows library inv principal _

theorem unlogged_anonymizeEmployee :
    unlogged (anonymizeEmployee library inv principal) = inv.anonymizeEmployee library := by
  rw [anonymizeEmployee, Invocation.anonymizeEmployee]
  split
  · rfl
  · rw [unlogged_bind, unlogged_ofExcept]
    refine bind_congr fun claims => ?_
    split
    · rfl
    · refine unlogged_onExisting inv fun id existing => ?_
      split
      · rfl
      · simp

theorem unlogged_deleteUser (id sub : String) : unlogged (deleteUser id sub) = Invocation.deleteUser sub := by
  have hhandle : ∀ e, unlogged (onDeleteUserError id sub e) = match e with
      | .clientError "UserNotFoundException" => return ()
      | e => throw e := by
    intro e
    unfold onDeleteUserError
    split <;> simp
  rw [deleteUser, Invocation.deleteUser, unlogged_tryCatch, unlogged_silent]
  exact congrArg _ (funext hhandle)

theorem unlogged_deleteCognitoUser : unlogged (deleteCognitoUser inv principal) = inv.deleteCognitoUser := by
  rw [deleteCognitoUser, Invocation.deleteCognitoUser, unlogged_bind, unlogged_ofExcept]
  refine bind_congr fun claims => ?_
  split
  · rfl
  · refine unlogged_onExisting inv fun id existing => ?_
    split
    · rfl
    · generalize existing.cognitoSub = linked
      split
      · rfl
      · rfl
      · simp [unlogged_deleteUser]

theorem unlogged_onError (e : PyError) : unlogged (onError inv e) = Invocation.onError e := by
  cases e with
  | clientError code =>
    rw [onError, Invocation.onError]
    split
    · rfl
    · simp
  | _ => rfl

/-- Without the writing the lambda is the one that the other results are about. -/
theorem unlogged_lambdaHandler : unlogged (lambdaHandler library inv) = inv.lambdaHandler library := by
  rw [lambdaHandler, Invocation.lambdaHandler, unlogged_bind, unlogged_ofExcept]
  refine bind_congr fun principal => ?_
  rw [unlogged_tryCatch]
  congr 1
  · generalize Route.ofEvent inv.event = route
    unfold handle Invocation.handle
    split <;> simp [parsedBody, Invocation.parsedBody, unlogged_createEmployee, unlogged_updateEmployee,
      unlogged_deleteEmployee, unlogged_importCsv, unlogged_anonymizeEmployee, unlogged_deleteCognitoUser]
  · exact funext (unlogged_onError inv)

end Unlogged

end Logged

end EmployeeApi

end SafetyConfirmation
