import SafetyConfirmation.Cycle.Routes
import SafetyConfirmation.Dictionary.Agreement
import SafetyConfirmation.Employee.WithoutRole

/-!
# What it takes to be an administrator

Of all the routes of EmployeeApi, CycleApi and DictionaryApi only two ask for the administrator role. The others serve any
token: what stops a request without the role is that it is turned down before its first call, as anyone's would be.
-/

namespace SafetyConfirmation

/-! ### CycleApi -/

namespace CycleApi

open KeyedStore Program

namespace Invocation

/-- What is turned down before the first call. No route asks for the role. -/
def isRefused (inv : Invocation) : Bool :=
  match Route.ofEvent inv.event with
  | none => true
  | some .createCycle => !inv.parsedRequest.isOk
  | some .listCycles => false
  | some .getCycleDetail | some .getCycleStatus => !inv.event.pathId.isOk

variable {inv : Invocation}

/-- One keyword in the dictionary, and no cycle. -/
def readyToStart : World := { tables := { dictionary := (∅ : Store Dictionary.Key Dictionary.Row).set ("SAFE", "a") (some {}) } }

def someCycle : Cycle where
  status := .completed
  mode := .all
  retryCount := .int 0
  retryIntervalMinutes := .int 1
  dictionaryVersion := 0
  startedAt := 0

/-- One cycle that has ended. -/
def oneCycle (cycleId : String) : World := { cycles := (∅ : Store String Cycle).set cycleId (some someCycle) }

theorem lambdaHandler_of_ok {subject : Value} (hsubject : Auth.principal inv.event.requestContext = .ok subject) {w w' : World}
    {response : HttpResponse} (hrun : inv.handle w (Route.ofEvent inv.event) = .ok (response, w')) :
    inv.lambdaHandler w = (.ok response, w') := by
  rw [lambdaHandler, hsubject]
  dsimp only
  rw [hrun]

theorem postCycle_readyToStart {request : Request} (hrequest : inv.parsedRequest = .ok request) :
    ∃ response w', inv.postCycle readyToStart = .ok (response, w') ∧ (w'.cycles.lookup inv.cycleId).isSome = true := by
  obtain ⟨body, hbody, hrequest⟩ := Checks.bind_eq_ok.1 hrequest
  rw [postCycle, hbody, Checks.ok_bind, createCycle, hrequest, Checks.ok_bind]
  have hrefuse : refuse request (isActiveDictionaryEmpty readyToStart.tables.dictionary) readyToStart.cycles = none := rfl
  rw [hrefuse]
  dsimp only
  cases inv.startError with
  | none =>
    refine ⟨_, _, rfl, ?_⟩
    simp [Write.run]
  | some message =>
    refine ⟨_, _, rfl, ?_⟩
    simp [Cycle.setStartFailed, Write.run]

theorem getCycle_oneCycle {cycleId : String} (hid : inv.event.pathId = .ok cycleId) (render : String → Cycle → Value) :
    getCycle inv.event render ∅ = .ok (cycleNotFound cycleId) ∧
    getCycle inv.event render (oneCycle cycleId).cycles = .ok { statusCode := 200, body := render cycleId someCycle } := by
  rw [getCycle, hid, Checks.ok_bind, getCycle, hid, Checks.ok_bind, oneCycle, Store.lookup_set_self]
  exact ⟨rfl, rfl⟩

theorem not_inert_of_getCycle {subject : Value} (hsubject : Auth.principal inv.event.requestContext = .ok subject)
    {cycleId : String} (hid : inv.event.pathId = .ok cycleId) {render : String → Cycle → Value}
    (hhandle : ∀ w, inv.handle w (Route.ofEvent inv.event) =
      (getCycle inv.event render w.cycles).map fun response => (response, w)) : ¬ Inert inv.lambdaHandler := by
  obtain ⟨hnone, hone⟩ := @getCycle_oneCycle inv cycleId hid render
  have hempty : inv.handle {} (Route.ofEvent inv.event) = .ok (cycleNotFound cycleId, {}) := by
    rw [hhandle, hnone]
    rfl
  have hrun : inv.handle (oneCycle cycleId) (Route.ofEvent inv.event) =
      .ok ({ statusCode := 200, body := render cycleId someCycle }, oneCycle cycleId) := by
    rw [hhandle, hone]
    rfl
  apply @not_inert_of_answers _ _ _ _ EmployeeApi.Invocation.statusCode? {} (oneCycle cycleId)
  rw [lambdaHandler_of_ok hsubject hempty, lambdaHandler_of_ok hsubject hrun]
  simp [EmployeeApi.Invocation.statusCode?, Except.toOption, cycleNotFound, HttpResponse.error]

/-- A request that is not refused puts a cycle, or its answer tells whether there is one. -/
theorem not_inert {subject : Value} (hsubject : Auth.principal inv.event.requestContext = .ok subject)
    (hserved : inv.isRefused = false) : ¬ Inert inv.lambdaHandler := by
  unfold isRefused at hserved
  cases hroute : Route.ofEvent inv.event with
  | none =>
    rw [hroute] at hserved
    cases hserved
  | some route =>
    rw [hroute] at hserved
    cases route with
    | createCycle =>
      obtain ⟨request, hrequest⟩ := Checks.exists_of_isOk (by simpa using hserved)
      obtain ⟨response, w', hrun, hrow⟩ := postCycle_readyToStart hrequest
      apply @not_inert_of_changed _ _ _ _ (fun w => (w.cycles.lookup inv.cycleId).isSome) readyToStart
      have hhandle : inv.handle readyToStart (Route.ofEvent inv.event) = .ok (response, w') := by
        rw [hroute]
        exact hrun
      rw [lambdaHandler_of_ok hsubject hhandle, hrow]
      simp [readyToStart]
    | listCycles =>
      have hhandle : ∀ w, inv.handle w (Route.ofEvent inv.event) = .ok (listCycles w.cycles, w) := by
        intro w
        rw [hroute]
        rfl
      apply @not_inert_of_answers _ _ _ _ EmployeeApi.Invocation.total? {} (oneCycle "c1")
      rw [lambdaHandler_of_ok hsubject (hhandle {}), lambdaHandler_of_ok hsubject (hhandle (oneCycle "c1"))]
      decide
    | getCycleDetail =>
      obtain ⟨cycleId, hid⟩ := Checks.exists_of_isOk (by simpa using hserved)
      refine @not_inert_of_getCycle inv _ hsubject cycleId hid itemOf fun w => ?_
      rw [hroute, handle]
    | getCycleStatus =>
      obtain ⟨cycleId, hid⟩ := Checks.exists_of_isOk (by simpa using hserved)
      refine @not_inert_of_getCycle inv _ hsubject cycleId hid statusOf fun w => ?_
      rw [hroute, handle]

theorem handle_of_isRefused (hrefused : inv.isRefused = true) :
    ∃ result : Except PyError HttpResponse, ∀ w, inv.handle w (Route.ofEvent inv.event) =
      result.map fun response => (response, w) := by
  unfold isRefused at hrefused
  cases hroute : Route.ofEvent inv.event with
  | none => exact ⟨.ok _, fun w => rfl⟩
  | some route =>
    rw [hroute] at hrefused
    cases route with
    | listCycles => cases hrefused
    | createCycle =>
      cases hbody : parseBody inv.event.body with
      | error e =>
        refine ⟨.error e, fun w => ?_⟩
        rw [handle, postCycle, hbody]
        rfl
      | ok body =>
        cases hrequest : parseRequest inv.settings body inv.event.idempotencyKey with
        | ok request =>
          dsimp only at hrefused
          rw [parsedRequest, hbody, Checks.ok_bind, hrequest] at hrefused
          cases hrefused
        | error e =>
          refine ⟨.error e, fun w => ?_⟩
          rw [handle, postCycle, hbody, Checks.ok_bind, createCycle, hrequest]
          rfl
    | getCycleDetail | getCycleStatus =>
      cases hid : inv.event.pathId with
      | ok cycleId =>
        dsimp only at hrefused
        rw [hid] at hrefused
        cases hrefused
      | error e =>
        refine ⟨.error e, fun w => ?_⟩
        rw [handle, getCycle, hid]
        rfl

/-- What the handler makes of what its route has raised. -/
def answerOf : Except PyError HttpResponse → Except PyError HttpResponse
  | .ok response => .ok response
  | .error (.valueError message _) => .ok (.error 400 message)
  | .error e => .error e

theorem inert_iff : Inert inv.lambdaHandler ↔
    (!(Auth.principal inv.event.requestContext).isOk || inv.isRefused) = true := by
  refine inert_iff_of_check (fun e hsubject => ?_) (fun _ hsubject hserved => not_inert hsubject hserved) ?_
  · apply inert_of_forall_eq (.error e)
    intro w
    rw [lambdaHandler, hsubject]
  · intro subject hsubject hrefused
    obtain ⟨result, hhandle⟩ := handle_of_isRefused hrefused
    apply inert_of_forall_eq (answerOf result)
    intro w
    rw [lambdaHandler, hsubject]
    dsimp only
    rw [hhandle]
    cases result with
    | ok response => rfl
    | error e => cases e <;> rfl

end Invocation

end CycleApi

/-! ### DictionaryApi -/

namespace Dictionary

open KeyedStore Program

/-- What is turned down before the first call, or by the condition on the version whatever the version is: a `true`
equals none. -/
def Event.isRefused (event : Event) : Bool :=
  match parseRequest event.toRequest with
  | some (.error _) => true
  | some (.ok (w, expected)) => w.op != .update && expected == .bool true
  | none =>
    match event.httpMethod, event.resource with
    | "GET", "/keyword-dictionary" | "GET", "/keyword-dictionary/version" => false
    | _, _ => true

theorem applyWrite_true {w : KeywordWrite} (hop : w.op ≠ .update) (tables : Tables) :
    applyWrite w (.bool true) tables = (conflict, tables) := by
  have hfails : (incrementVersion (.bool true)).condition (tables.dictionary.lookup metaKey) = false := by
    have hnever : (ExpectedVersion.bool true).equalsNumber = fun _ => false := rfl
    simp [incrementVersion, ExpectedVersion.toInt, hnever]
  rw [applyWrite, if_neg fun h => hop h.1, hfails]
  rfl

/-- Some dictionary is at the version that is expected. -/
theorem exists_condition {expected : ExpectedVersion} (hexpected : expected ≠ .bool true) :
    ∃ tables : Tables, (incrementVersion expected).condition (tables.dictionary.lookup metaKey) = true := by
  cases expected with
  | int n =>
    refine ⟨{ dictionary := (∅ : Store Key Row).set metaKey (some { currentVersion := some n }) }, ?_⟩
    simp [incrementVersion, ExpectedVersion.equalsNumber]
  | bool b =>
    cases b with
    | true => exact absurd rfl hexpected
    | false => exact ⟨{}, rfl⟩

/-- A write that wins a version leaves the next one behind, even where it fails afterwards. -/
theorem currentVersion_applyWrite {w : KeywordWrite} {expected : ExpectedVersion} {tables : Tables} (hop : w.op ≠ .update)
    (hwins : (incrementVersion expected).condition (tables.dictionary.lookup metaKey) = true) :
    currentVersion (applyWrite w expected tables).2.dictionary = currentVersion tables.dictionary + 1 := by
  have hmeta : currentVersion (tables.dictionary.write metaKey (incrementVersion expected)) =
      currentVersion tables.dictionary + 1 := by
    rw [currentVersion, Store.lookup_write_self]
    exact versionOf_incrementVersion hwins
  rcases applyWrite_cases w expected tables with ⟨-, hpatch⟩ | ⟨-, -, hrun⟩ | ⟨-, -, hrun⟩
  · exact absurd (hpatch hwins).1 hop
  · rw [hrun]
    exact hmeta
  · rw [hrun]
    show currentVersion ((tables.dictionary.write metaKey (incrementVersion expected)).write w.key _) = _
    rw [currentVersion, Store.lookup_write_ne _ _ w.key_ne_metaKey.symm]
    exact hmeta

theorem lambdaHandler_eq_applyWrite {request : Request} {w : KeywordWrite} {expected : ExpectedVersion}
    (hparse : parseRequest request = some (.ok (w, expected))) (tables : Tables) :
    lambdaHandler request tables = applyWrite w expected tables := by
  rw [lambdaHandler, hparse]

theorem statusCode_applyWrite {w : KeywordWrite} (expected : ExpectedVersion) {tables : Tables}
    (hrow : (tables.dictionary.lookup w.key).isSome = true) : (applyWrite w expected tables).1.statusCode ≠ 400 := by
  rw [applyWrite, if_neg (by simp [Option.isSome_iff_ne_none.1 hrow])]
  have hsuccess : (success w (expected.toInt + 1)).statusCode ≠ 400 := by
    have hlt := statusCode_success_lt w (expected.toInt + 1)
    omega
  have hconflict : conflict.statusCode ≠ 400 := by decide
  split
  · dsimp only
    split
    · exact hsuccess
    · exact hconflict
  · exact hconflict

variable {event : Event}

theorem lambdaHandler_of_ok {subject : Value} (hsubject : Auth.principal event.requestContext = .ok subject)
    (tables : Tables) : event.lambdaHandler tables =
      (.ok (lambdaHandler event.toRequest tables).1, (lambdaHandler event.toRequest tables).2) := by
  rw [Event.lambdaHandler, hsubject]

/-- A request that is not refused wins a version, or its answer tells what is in the dictionary. -/
theorem not_inert {subject : Value} (hsubject : Auth.principal event.requestContext = .ok subject)
    (hserved : event.isRefused = false) : ¬ Inert event.lambdaHandler := by
  unfold Event.isRefused at hserved
  split at hserved
  · cases hserved
  · rename_i w expected hparse
    by_cases hop : w.op = .update
    · let tables : Tables := { dictionary := (∅ : Store Key Row).set w.key (some {}) }
      have hrow : (tables.dictionary.lookup w.key).isSome = true := by simp [tables]
      have hstatus := statusCode_applyWrite expected hrow
      have hnone : applyWrite w expected {} = (keywordNotFound w.key, {}) := by
        rw [applyWrite, if_pos ⟨hop, rfl⟩]
      apply @not_inert_of_answers _ _ _ _ EmployeeApi.Invocation.statusCode? {} tables
      rw [lambdaHandler_of_ok hsubject, lambdaHandler_of_ok hsubject, lambdaHandler_eq_applyWrite hparse,
        lambdaHandler_eq_applyWrite hparse, hnone]
      simpa [EmployeeApi.Invocation.statusCode?, Except.toOption, keywordNotFound, HttpResponse.error] using hstatus.symm
    · obtain ⟨tables, hwins⟩ := @exists_condition expected (by simpa [hop] using hserved)
      have hversion := currentVersion_applyWrite hop hwins
      apply @not_inert_of_changed _ _ _ _ (fun tables => currentVersion tables.dictionary) tables
      rw [lambdaHandler_of_ok hsubject, lambdaHandler_eq_applyWrite hparse]
      dsimp only
      omega
  · rename_i hparse
    have hread : ∀ tables, event.lambdaHandler tables = (.ok (readOnly event.toRequest tables.dictionary), tables) := by
      intro tables
      rw [lambdaHandler_of_ok hsubject, lambdaHandler, hparse]
    split at hserved
    · rename_i hmethod hresource
      apply @not_inert_of_answers _ _ _ _
        (fun result => result.toOption.map fun response => (response.body.get? "SAFE").map Value.truthy) {}
        { dictionary := (∅ : Store Key Row).set ("SAFE", "a") (some {}) }
      rw [hread, hread, readOnly, readOnly, hmethod, hresource]
      decide
    · rename_i hmethod hresource
      apply @not_inert_of_answers _ _ _ _ (fun result => result.toOption.map HttpResponse.version?) {}
        { dictionary := (∅ : Store Key Row).set metaKey (some { currentVersion := some 1 }) }
      rw [hread, hread, readOnly, readOnly, hmethod, hresource]
      decide
    · cases hserved

theorem lambdaHandler_of_isRefused (hrefused : event.isRefused = true) :
    ∃ response, ∀ tables, lambdaHandler event.toRequest tables = (response, tables) := by
  unfold Event.isRefused at hrefused
  split at hrefused
  · rename_i e hparse
    refine ⟨.error 400 e.message, fun tables => ?_⟩
    rw [lambdaHandler, hparse]
  · rename_i w expected hparse
    rw [Bool.and_eq_true, bne_iff_ne, beq_iff_eq] at hrefused
    obtain ⟨hop, rfl⟩ := hrefused
    refine ⟨conflict, fun tables => ?_⟩
    rw [lambdaHandler_eq_applyWrite hparse, applyWrite_true hop]
  · rename_i hparse
    split at hrefused
    · cases hrefused
    · cases hrefused
    · rename_i hlist hversion
      refine ⟨.error 405 ("Method " ++ event.httpMethod ++ " not allowed on " ++ event.resource), fun tables => ?_⟩
      rw [lambdaHandler, hparse]
      dsimp only
      unfold readOnly
      split
      · exact (hlist ‹_› ‹_›).elim
      · exact (hversion ‹_› ‹_›).elim
      · rfl

theorem inert_iff : Inert event.lambdaHandler ↔
    (!(Auth.principal event.requestContext).isOk || event.isRefused) = true := by
  refine inert_iff_of_check (fun e hsubject => ?_) (fun _ hsubject hserved => not_inert hsubject hserved) ?_
  · apply inert_of_forall_eq (.error e)
    intro tables
    rw [Event.lambdaHandler, hsubject]
  · intro subject hsubject hrefused
    obtain ⟨response, hrun⟩ := lambdaHandler_of_isRefused hrefused
    apply inert_of_forall_eq (.ok response)
    intro tables
    rw [lambdaHandler_of_ok hsubject, hrun]

end Dictionary

/-! ### The three together -/

/-- An event of one of the three lambdas. -/
inductive ApiEvent where
  | employee (inv : EmployeeApi.Invocation)
  | cycle (inv : CycleApi.Invocation)
  | dictionary (event : Dictionary.Event)

namespace ApiEvent

def requestContext : ApiEvent → Option Value
  | employee inv => inv.event.requestContext
  | cycle inv => inv.event.requestContext
  | dictionary event => event.requestContext

/-- In every state it leaves the tables, Cognito and the executions as they are, and the answer is one and the same. -/
def HasNoEffect (library : EmployeeApi.Library) : ApiEvent → Prop
  | employee inv => ∀ environment, Program.Inert (inv.runAlone library environment)
  | cycle inv => Program.Inert inv.lambdaHandler
  | dictionary event => Program.Inert event.lambdaHandler

/-- The claims have no subject to read, or the request is turned down without a look at the tables. -/
def isRefused (library : EmployeeApi.Library) (event : ApiEvent) : Bool :=
  !(Auth.principal event.requestContext).isOk || match event with
    | employee inv => inv.isRefused library
    | cycle inv => inv.isRefused
    | dictionary event => event.isRefused

/-- Without the role a request has no effect exactly when it is refused for another reason, or on the two routes that ask
for the role. -/
theorem hasNoEffect_iff_isRefused (library : EmployeeApi.Library) (event : ApiEvent)
    (hrole : Auth.isAdministrator event.requestContext = false) :
    event.HasNoEffect library ↔ event.isRefused library = true := by
  cases event with
  | employee inv => exact EmployeeApi.Invocation.inert_iff hrole
  | cycle inv => exact CycleApi.Invocation.inert_iff
  | dictionary event => exact Dictionary.inert_iff

/-- A token of the pool without a group. -/
def withoutRole : Value := .dict [("authorizer", .dict [("claims", .dict [("sub", .str "u1")])])]

def listing : EmployeeApi.Invocation where
  event := { httpMethod := "GET", resource := "/employees", requestContext := some withoutRole }

def start : CycleApi.Invocation where
  event := {
    httpMethod := "POST"
    resource := "/cycles"
    body := .json (.dict [("mode", .str "ALL")])
    requestContext := some withoutRole }
  cycleId := "c1"

theorem not_hasNoEffect_start : ¬ (cycle start).HasNoEffect EmployeeApi.markedLibrary := by
  rw [hasNoEffect_iff_isRefused EmployeeApi.markedLibrary (cycle start) (by decide)]
  decide

/-- A table of one employee. -/
def registered : EmployeeApi.World where
  employees := (∅ : KeyedStore.Store String EmployeeApi.EmployeeItem).set "e1" (some {
    name := some "Sato"
    phoneNumber := some "+819012345678"
    deleted := some false })

/-- Any token lists the names and the numbers, and starts a cycle. -/
theorem withoutRole_lists_and_starts : Auth.isAdministrator (some withoutRole) = false ∧
    (listing.runAlone EmployeeApi.markedLibrary (fun _ => {}) registered).1 = .ok {
      statusCode := 200
      body := .dict [("employees", .list [.dict [("employeeId", .str "e1"), ("name", .str "Sato"),
        ("phoneNumber", .str "+819012345678"), ("isAdmin", .bool false), ("deleted", .bool false)]]), ("total", .int 1)] } ∧
    ¬ (employee listing).HasNoEffect EmployeeApi.markedLibrary ∧
    (start.lambdaHandler CycleApi.Invocation.readyToStart).2.executions.map Prod.fst = ["cycle-c1"] ∧
    ¬ (cycle start).HasNoEffect EmployeeApi.markedLibrary := by
  have hexecutions : (start.lambdaHandler CycleApi.Invocation.readyToStart).2.executions.map Prod.fst = ["cycle-c1"] := by
    decide
  refine ⟨by decide, rfl, fun heffect => ?_, hexecutions, fun heffect => ?_⟩
  · have hsame := congrArg EmployeeApi.Invocation.total? ((heffect fun _ => {}).same_answer {} registered)
    exact absurd hsame (by decide)
  · have hsame : (start.lambdaHandler CycleApi.Invocation.readyToStart).2 = CycleApi.Invocation.readyToStart :=
      Program.Inert.unchanged heffect _
    rw [hsame] at hexecutions
    exact absurd hexecutions (by decide)

end ApiEvent

end SafetyConfirmation
