import SafetyConfirmation.Auth.Authorization
import SafetyConfirmation.Data.Calendar
import SafetyConfirmation.Data.Http
import SafetyConfirmation.Lib.Program
import SafetyConfirmation.StateMachine.StartInput

/-!
# The CycleApi lambda

The four routes, each run from its first call to its last with nothing in between and no call of DynamoDB failing. In an
answer that is a row as it was read the numbers are texts, and `targetCount`, which nothing writes, reads as 0.
-/

namespace SafetyConfirmation

namespace CycleApi

open KeyedStore

structure Event where
  httpMethod : String
  resource : String
  pathParameters : Value := .none
  headers : List (String × String) := []
  body : RawBody := .missing
  requestContext : Option Value := none

inductive Route where
  | createCycle
  | listCycles
  | getCycleDetail
  | getCycleStatus
  deriving DecidableEq

def Route.ofEvent (event : Event) : Option Route :=
  match event.httpMethod, event.resource with
  | "POST", "/cycles" => some .createCycle
  | "GET", "/cycles" => some .listCycles
  | "GET", "/cycles/{id}" => some .getCycleDetail
  | "GET", "/cycles/{id}/status" => some .getCycleStatus
  | _, _ => none

/-- An invocation: the event, the environment of the lambda, the id and the time that it takes, and the message of the
`ClientError` that StartExecution raises. -/
structure Invocation where
  event : Event
  settings : Settings := {}
  cycleId : String := ""
  startedAt : Instant := 0
  startError : Option String := none

/-- The tables, and the executions with their names and inputs. -/
structure World where
  tables : Dictionary.Tables := {}
  cycles : Store String Cycle := ∅
  executions : List (String × Value) := []

namespace Event

variable (event : Event)

/-- `_idempotency_key_from`. -/
def idempotencyKey : String :=
  ((event.headers.lookup "Idempotency-Key").filter (· != "")).getD ((event.headers.lookup "idempotency-key").getD "")

def pathId : Except PyError String := do
  let id ← event.pathParameters.getOrEmpty "id"
  match id with
  | .str s => if s = "" then .error (.valueError "id path parameter is required") else return s
  | _ => .error (.valueError "id path parameter is required")

end Event

/-! ### Answers -/

/-- `json.dumps` with `default=str` on a number of DynamoDB. -/
def numberText : Value → Value
  | .int n => .str (toString n)
  | v => v

/-- An attribute of a row that is there. -/
def attributeOf (cycles : Store String Cycle) (cycleId : String) (attr : Cycle → Value) : Value :=
  ((cycles.lookup cycleId).map attr).getD .none

def startAnswer (cycles : Store String Cycle) (cause : String) : Answer → HttpResponse
  | .created cycleId => {
      statusCode := 201
      body := .dict [("cycleId", .str cycleId), ("status", .str CycleStatus.running.name),
        ("mode", attributeOf cycles cycleId fun row => .str row.mode.name),
        ("startedAt", attributeOf cycles cycleId fun row => .str row.startedAt.isoText),
        ("dictionaryVersion", attributeOf cycles cycleId fun row => .int row.dictionaryVersion)] }
  | .replay cycleId => {
      statusCode := 200
      body := .dict [("cycleId", .str cycleId), ("status", attributeOf cycles cycleId fun row => .str row.status.name),
        ("startedAt", attributeOf cycles cycleId fun row => .str row.startedAt.isoText),
        ("dictionaryVersion", attributeOf cycles cycleId fun row => .int row.dictionaryVersion),
        ("idempotentReplay", .bool true)] }
  | .conflict => .error 409 "Another cycle is already RUNNING"
  | .dictionaryEmpty =>
    .error 400 "Active dictionary is empty. Add at least one keyword before starting a cycle."
  | .startFailed cycleId => {
      statusCode := 500
      body := .dict [("error", .str "SFN StartExecution failed"), ("cycleId", .str cycleId), ("cause", .str cause)] }

def summaryOf (entry : String × Cycle) : Value :=
  .dict [("cycleId", .str entry.1), ("status", .str entry.2.status.name), ("mode", .str entry.2.mode.name),
    ("startedAt", .str entry.2.startedAt.isoText),
    ("completedAt", (entry.2.completedAt.map fun now => .str now.isoText).getD .none),
    ("dictionaryVersion", .int entry.2.dictionaryVersion)]

/-- The item of a row, with the attributes that were written. -/
def itemOf (cycleId : String) (row : Cycle) : Value :=
  .dict ([("cycleId", .str cycleId), ("status", .str row.status.name), ("mode", .str row.mode.name),
    ("retryCount", numberText row.retryCount), ("retryIntervalMinutes", numberText row.retryIntervalMinutes),
    ("dictionaryVersion", numberText (.int row.dictionaryVersion)), ("startedAt", .str row.startedAt.isoText)] ++
    Value.entry "idempotencyKey" (row.idempotencyKey.map Value.str) ++
    Value.entry "referencedCycleId" (row.referencedCycleId.map Value.str) ++
    Value.entry "completedAt" (row.completedAt.map fun now => .str now.isoText) ++
    Value.entry "slaWarning30min" (if row.slaWarning30min then some (.bool true) else none))

def statusOf (cycleId : String) (row : Cycle) : Value :=
  .dict [("cycleId", .str cycleId), ("status", .str row.status.name),
    ("summary", .dict [("targetTotal", .int 0), ("dispatched", .int 0), ("responded", .int 0), ("unreachable", .int 0),
      ("byStatus", .dict [("SAFE", .int 0), ("INJURED", .int 0), ("UNAVAILABLE", .int 0), ("OTHER", .int 0),
        ("UNREACHABLE", .int 0), ("PENDING", .int 0)])]),
    ("items", .list []), ("degraded", .list [])]

def cycleNotFound (cycleId : String) : HttpResponse := .error 404 ("Cycle not found: " ++ cycleId)

/-! ### The routes -/

/-- `_list_cycles`. -/
def listCycles (cycles : Store String Cycle) : HttpResponse :=
  let items := cycles.rows.insertionSort fun left right => right.2.startedAt ≤ left.2.startedAt
  { statusCode := 200, body := .dict [("cycles", .list (items.map summaryOf)), ("total", .int items.length)] }

/-- `_get_cycle_detail` and `_get_cycle_status`, which differ in what they make of the row. -/
def getCycle (event : Event) (render : String → Cycle → Value) (cycles : Store String Cycle) :
    Except PyError HttpResponse := do
  let cycleId ← event.pathId
  match cycles.lookup cycleId with
  | none => return cycleNotFound cycleId
  | some row => return { statusCode := 200, body := render cycleId row }

namespace Invocation

variable (inv : Invocation)

def parsedRequest : Except PyError Request := do
  let body ← parseBody inv.event.body
  parseRequest inv.settings body inv.event.idempotencyKey

/-- `_create_cycle` with its answer: the execution is there unless StartExecution failed. -/
def postCycle (w : World) : Except PyError (HttpResponse × World) := do
  let body ← parseBody inv.event.body
  let created ← createCycle inv.settings w.tables w.cycles inv.cycleId inv.startedAt inv.startError.isSome body
    inv.event.idempotencyKey
  let started := match inv.startError, created.sfnInput with
    | none, some input => [("cycle-" ++ inv.cycleId, input)]
    | _, _ => []
  return (startAnswer created.cycles (inv.startError.getD "") created.answer,
    { w with cycles := created.cycles, executions := w.executions ++ started })

def handle (w : World) : Option Route → Except PyError (HttpResponse × World)
  | some .createCycle => inv.postCycle w
  | some .listCycles => return (listCycles w.cycles, w)
  | some .getCycleDetail => (getCycle inv.event itemOf w.cycles).map fun response => (response, w)
  | some .getCycleStatus => (getCycle inv.event statusOf w.cycles).map fun response => (response, w)
  | none => return (.error 405 ("Method " ++ inv.event.httpMethod ++ " not allowed on " ++ inv.event.resource), w)

def lambdaHandler (w : World) : Except PyError HttpResponse × World :=
  match Auth.principal inv.event.requestContext with
  | .error e => (.error e, w)
  | .ok _ =>
    match inv.handle w (Route.ofEvent inv.event) with
    | .ok (response, w') => (.ok response, w')
    | .error (.valueError message _) => (.ok (.error 400 message), w)
    | .error e => (.error e, w)

end Invocation

end CycleApi

end SafetyConfirmation
