import SafetyConfirmation.Lib.Program
import SafetyConfirmation.Employee.LoadTargets

/-!
# What EmployeeApi calls

The rows of the Employee table as EmployeeApi writes them, the calls it makes to DynamoDB and Cognito, and what they do.
-/

namespace SafetyConfirmation

namespace EmployeeApi

open KeyedStore

/-- A row of the Employee table with the attributes EmployeeApi writes. An update makes the row that it does not find. -/
structure EmployeeItem where
  name : Option String := none
  phoneNumber : Option String := none
  phoneNumberBlindIndex : Option String := none
  role : Option String := none
  deleted : Option Bool := none
  cognitoSub : Option String := none
  createdAt : Option Instant := none
  updatedAt : Option Instant := none
  deriving DecidableEq

namespace EmployeeItem

/-- `item.get("deleted", False)`. -/
def isDeleted (item : EmployeeItem) : Bool := item.deleted.getD false

/-- The attributes the other lambdas read. -/
def toEmployee (item : EmployeeItem) : Employee where
  name := item.name.getD ""
  phoneNumber := item.phoneNumber.map Value.str
  deleted := item.deleted.map Value.bool

end EmployeeItem

/-- The Employee table as the other lambdas read it. -/
def employeeTable (employees : Store String EmployeeItem) : Store String Employee := employees.mapRows EmployeeItem.toEmployee

theorem lookup_employeeTable {employees : Store String EmployeeItem} {employeeId : String} {row : Employee} :
    (employeeTable employees).lookup employeeId = some row ↔
      ∃ item, employees.lookup employeeId = some item ∧ item.toEmployee = row := Store.lookup_mapRows

/-- The update expressions of the three handlers that have one. -/
inductive Update where
  | fields (name phoneNumber phoneNumberBlindIndex : String) (updatedAt : Instant)
  | delete (updatedAt : Instant)
  | removeCognitoSub (updatedAt : Instant)
  deriving DecidableEq

def Update.apply (item : EmployeeItem) : Update → EmployeeItem
  | fields name phoneNumber phoneNumberBlindIndex updatedAt => { item with
      name := some name
      phoneNumber := some phoneNumber
      phoneNumberBlindIndex := some phoneNumberBlindIndex
      updatedAt := some updatedAt }
  | delete updatedAt => { item with
      deleted := some true
      phoneNumber := some ""
      phoneNumberBlindIndex := some ""
      updatedAt := some updatedAt
      cognitoSub := none }
  | removeCognitoSub updatedAt => { item with cognitoSub := none, updatedAt := some updatedAt }

structure CognitoUser where
  username : String
  sub : String
  name : String
  groups : List String := []
  deriving DecidableEq

structure World where
  employees : Store String EmployeeItem := ∅
  users : List CognitoUser := []
  cycles : Store String Cycle := ∅
  responses : Store (String × String) Response := ∅

inductive Call where
  | getItem (employeeId : String)
  | queryPhone (phoneNumber : String)
  | scanBlindIndex (blindIndex : String) (activeOnly : Bool)
  | scan
  | putItem (employeeId : String) (item : EmployeeItem)
  | updateItem (employeeId : String) (update : Update)
  | transactPut (items : List (String × EmployeeItem))
  | deleteItem (employeeId : String)
  | adminCreateUser (email name : String)
  | adminAddUserToGroup (email groupName : String)
  | adminDeleteUser (username : String)
  | scanCycleIds
  | queryResponses (cycleId employeeId : String)
  | transactRewrite (rows : List ((String × String) × Response)) (anonymizedId : String)

abbrev Result : Call → Type
  | .getItem _ => Option EmployeeItem
  | .queryPhone _ | .scanBlindIndex _ _ | .scan => List (String × EmployeeItem)
  | .adminCreateUser _ _ => String
  | .scanCycleIds => List String
  | .queryResponses _ _ => List ((String × String) × Response)
  | _ => Unit

/-- A call that fails, and may have been applied all the same. -/
structure Fault where
  error : PyError
  applied : Bool

/-- How a call goes: whether it fails, which rows the one page of a query or a scan reaches, and the `sub` of a new user. -/
structure Environment where
  fault : Option Fault := none
  page : String → Bool := fun _ => true
  sub : String := ""

def phoneIs (phoneNumber : String) (item : EmployeeItem) : Bool := item.phoneNumber == some phoneNumber

def blindIndexIs (blindIndex : String) (activeOnly : Bool) (item : EmployeeItem) : Bool :=
  item.phoneNumberBlindIndex == some blindIndex && (!activeOnly || item.deleted == some false)

def putAll (employees : Store String EmployeeItem) (items : List (String × EmployeeItem)) : Store String EmployeeItem :=
  items.foldl (fun employees entry => employees.set entry.1 (some entry.2)) employees

/-- The Delete and the Put of one row. -/
def rewrite (anonymizedId : String) (responses : Store (String × String) Response) (row : (String × String) × Response) :
    Store (String × String) Response :=
  (responses.set row.1 none).set (row.1.1, anonymizedId) (some row.2)

/-- What a call does that does not fail. -/
def act (w : World) (environment : Environment) : (c : Call) → Except PyError (Result c) × World
  | .getItem employeeId => (.ok (w.employees.lookup employeeId), w)
  | .queryPhone phoneNumber =>
    (.ok (w.employees.rows.filter fun entry => phoneIs phoneNumber entry.2 && environment.page entry.1), w)
  | .scanBlindIndex blindIndex activeOnly =>
    (.ok (w.employees.rows.filter fun entry => blindIndexIs blindIndex activeOnly entry.2 && environment.page entry.1), w)
  | .scan => (.ok w.employees.rows, w)
  | .putItem employeeId item => (.ok (), { w with employees := w.employees.set employeeId (some item) })
  | .updateItem employeeId update =>
    let item := (w.employees.lookup employeeId).getD {}
    (.ok (), { w with employees := w.employees.set employeeId (some (update.apply item)) })
  | .transactPut items => (.ok (), { w with employees := putAll w.employees items })
  | .deleteItem employeeId => (.ok (), { w with employees := w.employees.set employeeId none })
  | .adminCreateUser email name =>
    if w.users.any fun user => user.username == email then (.error (.clientError "UsernameExistsException"), w)
    else (.ok environment.sub, { w with users := w.users ++ [{ username := email, sub := environment.sub, name }] })
  | .adminAddUserToGroup email groupName =>
    if w.users.any fun user => user.username == email then
      (.ok (), { w with users := w.users.map fun user =>
        if user.username == email then { user with groups := user.groups ++ [groupName] } else user })
    else (.error (.clientError "UserNotFoundException"), w)
  | .adminDeleteUser username =>
    if w.users.any fun user => user.sub == username then
      (.ok (), { w with users := w.users.filter fun user => user.sub != username })
    else (.error (.clientError "UserNotFoundException"), w)
  | .scanCycleIds => (.ok w.cycles.keys, w)
  | .queryResponses cycleId employeeId =>
    (.ok (((w.responses.lookup (cycleId, employeeId)).map fun row => ((cycleId, employeeId), row)).toList), w)
  | .transactRewrite rows anonymizedId => (.ok (), { w with responses := rows.foldl (rewrite anonymizedId) w.responses })

/-- A call as its environment has it go. The table takes the empty text as an index key, as the handlers do; one that refuses
it answers as `respondIndexed`. -/
def respond (w : World) (environment : Environment) (c : Call) : Except PyError (Result c) × World :=
  match environment.fault with
  | none => act w environment c
  | some fault => (.error fault.error, if fault.applied then (act w environment c).2 else w)

/-- Whether the call is carried out: it does not fail, or fails although it was applied. -/
def Environment.carriesOut (environment : Environment) : Bool := environment.fault.all Fault.applied

/-! ### What a call does to one row -/

/-- The row of an employee after a call that is carried out. -/
def Call.row (employeeId : String) (row : Option EmployeeItem) : Call → Option EmployeeItem
  | .putItem id item => if employeeId = id then some item else row
  | .updateItem id update => if employeeId = id then some (update.apply (row.getD {})) else row
  | .transactPut items => items.foldl (fun row entry => if employeeId = entry.1 then some entry.2 else row) row
  | .deleteItem id => if employeeId = id then none else row
  | _ => row

theorem lookup_putAll (employees : Store String EmployeeItem) (items : List (String × EmployeeItem)) (employeeId : String) :
    (putAll employees items).lookup employeeId =
      items.foldl (fun row entry => if employeeId = entry.1 then some entry.2 else row) (employees.lookup employeeId) := by
  induction items generalizing employees with
  | nil => rfl
  | cons entry items ih =>
    rw [putAll, List.foldl_cons, List.foldl_cons, ← Store.lookup_set]
    exact ih _

theorem lookup_act (w : World) (environment : Environment) (c : Call) (employeeId : String) :
    (act w environment c).2.employees.lookup employeeId = c.row employeeId (w.employees.lookup employeeId) := by
  cases c with
  | putItem id item => exact Store.lookup_set ..
  | deleteItem id => exact Store.lookup_set ..
  | transactPut items => exact lookup_putAll w.employees items employeeId
  | updateItem id update =>
    rw [act, Store.lookup_set, Call.row]
    split
    · subst employeeId
      rfl
    · rfl
  | adminCreateUser email name | adminAddUserToGroup email groupName | adminDeleteUser username =>
    rw [act]
    split <;> rfl
  | getItem _ | queryPhone _ | scanBlindIndex _ _ | scan | scanCycleIds | queryResponses _ _ | transactRewrite _ _ => rfl

/-- A call changes each row by itself, whatever the other rows are. -/
theorem lookup_respond (w : World) (environment : Environment) (c : Call) (employeeId : String) :
    (respond w environment c).2.employees.lookup employeeId =
      if environment.carriesOut then c.row employeeId (w.employees.lookup employeeId)
      else w.employees.lookup employeeId := by
  rw [respond, Environment.carriesOut]
  cases environment.fault with
  | none => exact lookup_act w environment c employeeId
  | some fault =>
    show (if fault.applied then (act w environment c).2 else w).employees.lookup employeeId = if fault.applied then _ else _
    split
    · exact lookup_act w environment c employeeId
    · rfl

end EmployeeApi

end SafetyConfirmation
