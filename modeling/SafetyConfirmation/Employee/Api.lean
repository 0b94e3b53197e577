import SafetyConfirmation.Auth.Authorization
import SafetyConfirmation.Data.Crypto
import SafetyConfirmation.Data.Http
import SafetyConfirmation.Employee.Csv
import SafetyConfirmation.Employee.Service
import SafetyConfirmation.Lib.Checks

/-!
# The EmployeeApi lambda

The handlers of the eight routes as programs over the calls they make, in the order in which the source makes them. The
pages of a listing are one call, and what the handlers log is left out.
-/

namespace SafetyConfirmation

namespace EmployeeApi

open Checks Employee EmployeeCsv

/-- What the source computes with libraries: base64, UTF-8 and `csv.reader` for an upload, and SHA-256. -/
structure Library where
  crypto : FieldCrypto
  decodeCsv : String → Except String EmployeeCsv.File
  anonymizeEmployeeId : String → String → String

structure Event where
  httpMethod : String
  resource : String
  pathParameters : Value := .none
  queryStringParameters : Value := .none
  body : RawBody := .missing
  requestContext : Option Value := none

inductive Route where
  | createEmployee
  | listEmployees
  | getEmployeeById
  | updateEmployee
  | deleteEmployee
  | importCsv
  | anonymizeEmployee
  | deleteCognitoUser
  deriving DecidableEq

def Route.ofEvent (event : Event) : Option Route :=
  match event.httpMethod, event.resource with
  | "POST", "/employees" => some .createEmployee
  | "GET", "/employees" => some .listEmployees
  | "GET", "/employees/{id}" => some .getEmployeeById
  | "PUT", "/employees/{id}" => some .updateEmployee
  | "DELETE", "/employees/{id}" => some .deleteEmployee
  | "POST", "/employees/import" => some .importCsv
  | "POST", "/employees/{id}/anonymize" => some .anonymizeEmployee
  | "DELETE", "/employees/{id}/cognito-user" => some .deleteCognitoUser
  | _, _ => none

/-- An invocation: the event, the environment of the lambda, the clock, and what is drawn at random. -/
structure Invocation where
  event : Event
  encryptionEnabled : Bool := false
  adminGroupName : String := "Administrator"
  anonymizeSalt : String := ""
  now : Instant := 0
  uuid : Nat → String := fun _ => ""
  nonce : Nat → String := fun _ => ""

abbrev Action := Program Call Result PyError

def transactMaxItems : Nat := 25

def anonymizeRowsPerBatch : Nat := transactMaxItems / 2

/-- `range(0, len(xs), n)` with the slices `xs[i : i + n]`. -/
def batches {α : Type} (n : Nat) (xs : List α) : List (List α) :=
  (List.range ((xs.length + n - 1) / n)).map fun i => (xs.drop (n * i)).take n

def call (c : Call) : Action (Result c) := Program.perform c

def updateItem (employeeId : String) (update : Update) : Action Unit := call (.updateItem employeeId update)

def notFound (employeeId : String) : HttpResponse := .error 404 ("Employee not found: " ++ employeeId)

def phoneTaken : HttpResponse := .error 409 "Phone number already registered"

def isValidPhone (phone : Value) : Bool := isValidE164 phone || isValidDomesticJp phone

namespace Invocation

variable (library : Library) (inv : Invocation)

def encrypt (n : Nat) (value : String) : String := library.crypto.encrypt inv.encryptionEnabled (inv.nonce n) value

def blindIndex (phone : String) : String :=
  if inv.encryptionEnabled then library.crypto.computeBlindIndex phone else ""

def pathId : Except PyError String := do
  let id ← inv.event.pathParameters.getOrEmpty "id"
  match id with
  | .str s => if s = "" then .error (.valueError "id path parameter is required") else return s
  | _ => .error (.valueError "id path parameter is required")

/-- `_phone_already_registered`. -/
def phoneAlreadyRegistered (phone : String) : Action Bool :=
  if inv.encryptionEnabled then do
    let items ← call (.scanBlindIndex (library.crypto.computeBlindIndex phone) true)
    return !items.isEmpty
  else do
    let items ← call (.queryPhone phone)
    return items.any fun entry => !entry.2.isDeleted

/-- The item of a new employee, encrypted with the nonces from `n` on. -/
def newItem (n : Nat) (name phone role cognitoSub : String) : EmployeeItem where
  name := some (inv.encrypt library n name)
  phoneNumber := some (inv.encrypt library (n + 1) phone)
  phoneNumberBlindIndex := some (inv.blindIndex library phone)
  role := some role
  deleted := some false
  cognitoSub := if cognitoSub = "" then none else some cognitoSub
  createdAt := some inv.now
  updatedAt := some inv.now

/-! ### POST /employees -/

structure NewEmployee where
  name : String
  phone : String
  isAdmin : Bool
  adminEmail : String

def parseNewEmployee (body : Value) : Except PyError NewEmployee := do
  let name := (body.get? "name").getD .none
  let phone := (body.get? "phoneNumber").getD .none
  let isAdmin := ((body.get? "isAdmin").getD (.bool false)).truthy
  let adminEmail := (body.get? "adminEmail").getD .none
  require (isValidName name = true) (.valueError "name is required: non-empty string up to 100 chars")
  require (isValidPhone phone = true)
    (.valueError "phoneNumber must be domestic JP format (0 + 9-10 digits) or E.164")
  require (isAdmin = true → isValidEmail adminEmail = true) (.valueError
    "adminEmail is required and must be a valid email address (RFC 5322 simplified) when isAdmin=true")
  return {
    name := name.asStr?.getD ""
    phone := domesticToE164 (phone.asStr?.getD "")
    isAdmin
    adminEmail := adminEmail.asStr?.getD "" }

/-- `_create_cognito_admin`. -/
def createCognitoAdmin (email name : String) : Action String := do
  let sub ← call (.adminCreateUser email name)
  call (.adminAddUserToGroup email inv.adminGroupName)
  return sub

def onCognitoError (e : PyError) : Action (Option String) :=
  match e with
  | .clientError "UsernameExistsException" => return none
  | e => throw e

/-- The Cognito part of `_create_employee`: `none` where the address has a user. -/
def cognitoSubOf (new : NewEmployee) : Action (Option String) :=
  if new.isAdmin then
    Program.tryCatch (do
      let sub ← inv.createCognitoAdmin new.adminEmail new.name
      return some sub) onCognitoError
  else return some ""

/-- The part of `_create_employee` after Cognito. -/
def storeEmployee (new : NewEmployee) (sub : String) : Action HttpResponse := do
  call (.putItem (inv.uuid 0)
    (inv.newItem library 0 new.name new.phone (if new.isAdmin then "admin" else "employee") sub))
  return {
    statusCode := 201
    body := .dict [("employeeId", .str (inv.uuid 0)), ("name", .str new.name), ("phoneNumber", .str new.phone),
      ("isAdmin", .bool new.isAdmin)] }

def createEmployee (body : Value) : Action HttpResponse := do
  let new ← Program.ofExcept (parseNewEmployee body)
  let registered ← inv.phoneAlreadyRegistered library new.phone
  if registered then return phoneTaken
  else
    match ← inv.cognitoSubOf new with
    | none => return .error 409 "Admin email already registered in Cognito"
    | some sub => inv.storeEmployee library new sub

/-! ### GET /employees and GET /employees/{id} -/

def stringOrNone (s : Option String) : Value := (s.map Value.str).getD .none

def instantOrNone (t : Option Instant) : Value := (t.map Value.int).getD .none

def decrypted (s : Option String) : Except PyError String := library.crypto.decrypt (s.getD "")

def listEntry (entry : String × EmployeeItem) : Except PyError Value := do
  let name ← decrypted library entry.2.name
  let phoneNumber ← decrypted library entry.2.phoneNumber
  return .dict [("employeeId", .str entry.1), ("name", .str name), ("phoneNumber", .str phoneNumber),
    ("isAdmin", .bool (entry.2.role == some "admin")), ("deleted", .bool entry.2.isDeleted)]

/-- `str(v).lower() == "true"`. -/
def isTrueText : Value → Bool
  | .str s => s.toList.map Char.toLower == "true".toList
  | .bool b => b
  | _ => false

def listEmployees : Action HttpResponse := do
  let includeDeleted ← Program.ofExcept (inv.event.queryStringParameters.getOrEmpty "includeDeleted")
  let items ← call .scan
  let entries ← Program.ofExcept
    ((items.filter fun entry => !entry.2.isDeleted || isTrueText includeDeleted).mapM (listEntry library))
  return { statusCode := 200, body := .dict [("employees", .list entries), ("total", .int entries.length)] }

def getEmployeeById : Action HttpResponse := do
  let id ← Program.ofExcept inv.pathId
  match ← call (.getItem id) with
  | none => return notFound id
  | some item =>
    if item.isDeleted then return notFound id
    else
      let name ← Program.ofExcept (decrypted library item.name)
      let phoneNumber ← Program.ofExcept (decrypted library item.phoneNumber)
      return {
        statusCode := 200
        body := .dict [("employeeId", .str id), ("name", .str name), ("phoneNumber", .str phoneNumber),
          ("isAdmin", .bool (item.role == some "admin")), ("createdAt", instantOrNone item.createdAt),
          ("updatedAt", instantOrNone item.updatedAt)] }

/-! ### PUT /employees/{id} -/

/-- The name and the number that an update asks for: what the body leaves out is as it was. -/
def parseUpdate (body : Value) (name phone : String) : Except PyError (String × String) := do
  let newName := (body.get? "name").getD (.str name)
  let newPhone := (body.get? "phoneNumber").getD (.str phone)
  require (isValidName newName = true) (.valueError "name is invalid")
  require (isValidPhone newPhone = true) (.valueError "phoneNumber is invalid")
  return (newName.asStr?.getD "", domesticToE164 (newPhone.asStr?.getD ""))

def updateEmployee (body : Value) : Action HttpResponse := do
  let id ← Program.ofExcept inv.pathId
  match ← call (.getItem id) with
  | none => return notFound id
  | some existing =>
    if existing.isDeleted then return notFound id
    else
      let name ← Program.ofExcept (decrypted library existing.name)
      let phone ← Program.ofExcept (decrypted library existing.phoneNumber)
      let new ← Program.ofExcept (parseUpdate body name phone)
      let registered ← if new.2 = phone then pure false else inv.phoneAlreadyRegistered library new.2
      if registered then return phoneTaken
      else
        updateItem id
          (.fields (inv.encrypt library 0 new.1) (inv.encrypt library 1 new.2) (inv.blindIndex library new.2) inv.now)
        return {
          statusCode := 200
          body := .dict [("employeeId", .str id), ("name", .str new.1), ("phoneNumber", .str new.2)] }

/-! ### DELETE /employees/{id} -/

def deleteEmployee : Action HttpResponse := do
  let id ← Program.ofExcept inv.pathId
  match ← call (.getItem id) with
  | none => return notFound id
  | some existing =>
    if existing.isDeleted then return notFound id
    else
      updateItem id (.delete inv.now)
      -- the audit record takes the number that was read
      let _ ← Program.ofExcept (decrypted library existing.phoneNumber)
      return { statusCode := 200, body := .dict [("employeeId", .str id), ("deleted", .bool true)] }

/-! ### POST /employees/import -/

def importAnswer (statusCode imported attempted : Nat) (errors : List Value) : HttpResponse where
  statusCode := statusCode
  body := .dict [("imported", .int imported), ("attempted", .int attempted), ("errors", .list errors)]

/-- A row of an import with its place in the file, which its id and its nonces are drawn for. -/
def importItem (row : EmployeeRow × Nat) : String × EmployeeItem :=
  (inv.uuid row.2, inv.newItem library (2 * row.2) row.1.name row.1.phoneNumber "employee" "")

/-- The rows that a phone number is found in, deleted ones too. -/
def findForRollback (phone : String) : Action (List (String × EmployeeItem)) :=
  if inv.encryptionEnabled then call (.scanBlindIndex (library.crypto.computeBlindIndex phone) false)
  else call (.queryPhone phone)

def onRollbackError (e : PyError) : Action Unit :=
  match e with
  | .clientError _ => return ()
  | e => throw e

def rollbackPhone (phone : String) : Action Unit :=
  Program.tryCatch (do
    let items ← inv.findForRollback library phone
    Program.forEach (fun entry => call (.deleteItem entry.1)) items) onRollbackError

/-- `_rollback_inserted`. -/
def rollbackInserted (phones : List String) : Action Unit := Program.forEach (inv.rollbackPhone library) phones

/-- The loop over the batches, after the phones that were inserted. A `ClientError` is its code here, which stands for the
Message that the source puts into the reason. -/
def insertBatches (attempted : Nat) : List (List (EmployeeRow × Nat)) → List String → Action HttpResponse
  | [], inserted => return importAnswer 201 inserted.length attempted []
  | batch :: rest, inserted =>
    .call (.transactPut (batch.map (inv.importItem library))) fun
      | .ok _ => insertBatches attempted rest (inserted ++ batch.map fun row => row.1.phoneNumber)
      | .error (.clientError code) => do
        inv.rollbackInserted library inserted
        return importAnswer 500 0 attempted [.dict [("reason", .str ("DynamoDB transact failed; rolled back: " ++ code))]]
      | .error e => throw e

/-- `sorted(set(duplicates))`. -/
def sortedDuplicates (duplicates : List String) : List String :=
  (duplicates.dedup).mergeSort fun left right => decide (left ≤ right)

def importRows (rows : List EmployeeRow) : Action HttpResponse := do
  let duplicates ← Program.filterList (inv.phoneAlreadyRegistered library) (rows.map EmployeeRow.phoneNumber)
  if duplicates ≠ [] then
    return importAnswer 409 0 rows.length
      ((sortedDuplicates duplicates).map fun phone => .dict [("reason", .str ("Phone already registered: " ++ phone))])
  else inv.insertBatches library rows.length (batches transactMaxItems rows.zipIdx) []

def importCsv (body : Value) : Action HttpResponse :=
  match (body.get? "csvBase64").bind Value.asStr? with
  | none | some "" => throw (.valueError "csvBase64 is required (base64-encoded CSV content)")
  | some raw =>
    match library.decodeCsv raw with
    | .error message => return .error 400 ("csvBase64 is not valid base64: " ++ message)
    | .ok file =>
      let parsed := parseEmployeeCsv file
      if parsed.errors ≠ [] then
        return importAnswer 400 0 (parsed.rows.length + parsed.errors.length)
          (parsed.errors.map fun e => .dict [("line", .int e.line), ("reason", .str e.reason)])
      else inv.importRows library parsed.rows

/-! ### POST /employees/{id}/anonymize and DELETE /employees/{id}/cognito-user -/

def responsesOf (employeeId : String) : List String → Action (List ((String × String) × Response))
  | [] => return []
  | cycleId :: rest => do
    let rows ← call (.queryResponses cycleId employeeId)
    let others ← responsesOf employeeId rest
    return rows ++ others

def adminRequired : HttpResponse := .error 403 "Administrator group required"

def anonymizeEmployee : Action HttpResponse :=
  if inv.anonymizeSalt = "" then return .error 503 "Anonymization is unavailable: salt is not configured."
  else do
    let claims ← Program.ofExcept (Auth.claimsOf inv.event.requestContext)
    if !Auth.isAuthorized claims (.str Auth.administratorGroup) then return adminRequired
    else
      let id ← Program.ofExcept inv.pathId
      match ← call (.getItem id) with
      | none => return notFound id
      | some existing =>
        if !existing.isDeleted then
          return .error 409 ("Employee must be logically deleted before anonymize " ++
            "(privacy.md §6.3 step 2 must precede step 3)")
        else
          let anonymizedId := library.anonymizeEmployeeId id inv.anonymizeSalt
          let cycleIds ← call .scanCycleIds
          let rows ← responsesOf id cycleIds
          Program.forEach (fun chunk => call (.transactRewrite chunk anonymizedId)) (batches anonymizeRowsPerBatch rows)
          return {
            statusCode := 200
            body := .dict [("employeeId", .str id), ("anonymizedId", .str anonymizedId),
              ("responseCountUpdated", .int rows.length)] }

/-- AdminDeleteUser, where a user that is gone is no error. -/
def deleteUser (sub : String) : Action Unit :=
  Program.tryCatch (call (.adminDeleteUser sub)) fun e =>
    match e with
    | .clientError "UserNotFoundException" => return ()
    | e => throw e

def deleteCognitoUser : Action HttpResponse := do
  let claims ← Program.ofExcept (Auth.claimsOf inv.event.requestContext)
  if !Auth.isAuthorized claims (.str Auth.administratorGroup) then return adminRequired
  else
    let id ← Program.ofExcept inv.pathId
    match ← call (.getItem id) with
    | none => return notFound id
    | some existing =>
      if !existing.isDeleted then
        return .error 409 "Employee must be logically deleted before Cognito user deletion (privacy.md §6.1)"
      else
        match existing.cognitoSub with
        | none | some "" => return .error 404 ("No Cognito user linked to employee: " ++ id)
        | some sub =>
          deleteUser sub
          updateItem id (.removeCognitoSub inv.now)
          return { statusCode := 200, body := .dict [("employeeId", .str id), ("cognitoUserDeleted", .bool true)] }

/-! ### The entry point -/

def parsedBody : Action Value := Program.ofExcept (parseBody inv.event.body)

def handle : Option Route → Action HttpResponse
  | some .createEmployee => inv.parsedBody >>= inv.createEmployee library
  | some .listEmployees => inv.listEmployees library
  | some .getEmployeeById => inv.getEmployeeById library
  | some .updateEmployee => inv.parsedBody >>= inv.updateEmployee library
  | some .deleteEmployee => inv.deleteEmployee library
  | some .importCsv => inv.parsedBody >>= inv.importCsv library
  | some .anonymizeEmployee => inv.anonymizeEmployee library
  | some .deleteCognitoUser => inv.deleteCognitoUser
  | none => return .error 405 ("Method " ++ inv.event.httpMethod ++ " not allowed on " ++ inv.event.resource)

def isConflict (code : String) : Bool := ["ConditionalCheckFailedException", "TransactionCanceledException"].contains code

def onError (e : PyError) : Action HttpResponse :=
  match e with
  | .valueError .. => return .error 400 e.message
  | .clientError code =>
    if isConflict code then return .error 409 "Conflict (concurrent modification or constraint violation)" else throw e
  | e => throw e

def lambdaHandler : Action HttpResponse := do
  let _ ← Program.ofExcept (Auth.principal inv.event.requestContext)
  (inv.handle library (Route.ofEvent inv.event)).tryCatch onError

end Invocation

end EmployeeApi

end SafetyConfirmation
