import SafetyConfirmation.Employee.Requests
import SafetyConfirmation.Inbound.Handler

/-!
# Encryption on and off

Requests one after another, each with encryption on or off, and what the readers of the Employee table make of the rows
that they leave. LoadTargets and InboundHandler take a row as it is stored.
-/

namespace SafetyConfirmation

namespace EmployeeApi

open KeyedStore Employee EmployeeCsv Checks

namespace EncryptionModes

/-- What a request was accepted with, for one employee. -/
structure Registration where
  encryptionEnabled : Bool
  name : String
  phoneNumber : String
  deriving DecidableEq

abbrev Registry := Store String Registration

/-- The employee of an answer to a creation or an update. -/
def answeredEmployee (body : Value) : Option (String × String × String) := do
  let employeeId ← (body.get? "employeeId").bind Value.asStr?
  let name ← (body.get? "name").bind Value.asStr?
  let phoneNumber ← (body.get? "phoneNumber").bind Value.asStr?
  return (employeeId, name, phoneNumber)

section

variable (library : Library) (inv : Invocation)

def registerRow (registry : Registry) (row : EmployeeRow × Nat) : Registry :=
  registry.set (inv.uuid row.2) (some ⟨inv.encryptionEnabled, row.1.name, row.1.phoneNumber⟩)

/-- The employees there are after a request, by its answer. -/
def record (registry : Registry) : Except PyError HttpResponse → Registry
  | .error _ => registry
  | .ok response =>
    if 300 ≤ response.statusCode then registry
    else
      match Route.ofEvent inv.event with
      | some .createEmployee | some .updateEmployee =>
        match answeredEmployee response.body with
        | some (employeeId, name, phoneNumber) =>
          registry.set employeeId (some ⟨inv.encryptionEnabled, name, phoneNumber⟩)
        | none => registry
      | some .deleteEmployee =>
        match inv.pathId with
        | .ok employeeId => registry.set employeeId none
        | .error _ => registry
      | some .importCsv => (inv.csvRows library).zipIdx.foldl (registerRow inv) registry
      | _ => registry

end

/-- A request, which rows the page of each of its lookups reaches, and the `sub` that a new user gets. -/
structure Turn where
  request : Invocation
  page : Call → String → Bool := fun _ _ => true
  sub : String := ""

/-- The tables, and the employees that were accepted and not deleted. -/
structure Life where
  world : World
  registry : Registry := ∅

def Turn.respond (turn : Turn) (w : World) (c : Call) : Except PyError (Result c) × World :=
  EmployeeApi.respond w { page := turn.page c, sub := turn.sub } c

def serve (library : Library) (life : Life) (turn : Turn) : Life :=
  let answer := (turn.request.lambdaHandler library).run turn.respond life.world
  { world := answer.2, registry := record library turn.request life.registry answer.1 }

/-- The readers see the employee as it was accepted: every list of targets has it with its name and number, a cycle for
all employees does call it, and a call from the number is from it. -/
structure Transparent (employees : Store String EmployeeItem) (employeeId : String) (registration : Registration) : Prop where
  called : ∀ responses cycleId, cycleId ≠ "" → ∃ targets, LoadTargets.lambdaHandler (employeeTable employees) responses
    { cycleId := some (.str cycleId), mode := some (.str "ALL") } = .ok targets ∧
      ⟨employeeId, registration.name, registration.phoneNumber⟩ ∈ targets
  target : ∀ responses event targets, LoadTargets.lambdaHandler (employeeTable employees) responses event = .ok targets →
    ∀ target ∈ targets, target.employeeId = employeeId → target = ⟨employeeId, registration.name, registration.phoneNumber⟩
  found : ∃ row, Inbound.lookupEmployeeByPhone (employeeTable employees) registration.phoneNumber = some (employeeId, row)

/-! ### The rows of the employees that were accepted -/

/-- The row of an employee that was accepted is encrypted in the mode of then, and what is not an employee is deleted. -/
def Fits (crypto : FieldCrypto) : Option Registration → Option EmployeeItem → Prop
  | some registration, some item => item.isDeleted = false ∧ isNumber registration.phoneNumber ∧
      (∃ nonce, item.name = some (crypto.encrypt registration.encryptionEnabled nonce registration.name)) ∧
      ∃ nonce, item.phoneNumber = some (crypto.encrypt registration.encryptionEnabled nonce registration.phoneNumber)
  | some _, none => False
  | none, some item => item.isDeleted = true
  | none, none => True

def Registered (crypto : FieldCrypto) (registry : Registry) (employees : Store String EmployeeItem) : Prop :=
  ∀ employeeId, Fits crypto (registry.lookup employeeId) (employees.lookup employeeId)

variable {library : Library} {inv : Invocation} {crypto : FieldCrypto} {registry : Registry}
variable {employees : Store String EmployeeItem}

theorem Registered.set (h : Registered crypto registry employees) (employeeId : String) {registration : Option Registration}
    {item : Option EmployeeItem} (hfits : Fits crypto registration item) :
    Registered crypto (registry.set employeeId registration) (employees.set employeeId item) := by
  intro other
  rw [Store.lookup_set, Store.lookup_set]
  split
  · exact hfits
  · exact h other

theorem fits_newItem (inv : Invocation) (n : Nat) {name phone role sub : String} (hphone : isNumber phone) :
    Fits library.crypto (some ⟨inv.encryptionEnabled, name, phone⟩) (some (inv.newItem library n name phone role sub)) :=
  ⟨rfl, hphone, ⟨_, rfl⟩, ⟨_, rfl⟩⟩

/-- Calls that do not fail, with what they answer and leave of the Employee table. -/
def calm : Program.Spec Call Result PyError (Store String EmployeeItem) where
  allowed _ _ := True
  possible employees c answer := match c, answer with
    | .getItem employeeId, answer => answer = .ok (employees.lookup employeeId)
    | .putItem _ _, answer | .updateItem _ _, answer | .transactPut _, answer | .deleteItem _, answer => answer = .ok ()
    | _, _ => True
  advance employees c _ := match c with
    | .putItem employeeId item => employees.set employeeId (some item)
    | .updateItem employeeId update =>
      employees.set employeeId (some (update.apply ((employees.lookup employeeId).getD {})))
    | .transactPut items => putAll employees items
    | .deleteItem employeeId => employees.set employeeId none
    | _ => employees

theorem possible_respond (turn : Turn) (w : World) (c : Call) : calm.possible w.employees c (turn.respond w c).1 := by
  cases c with
  | getItem | putItem | updateItem | transactPut | deleteItem => exact rfl
  | _ => exact trivial

theorem advance_respond (turn : Turn) (w : World) (c : Call) :
    (turn.respond w c).2.employees = calm.advance w.employees c (turn.respond w c).1 := by
  cases c with
  | adminCreateUser | adminAddUserToGroup | adminDeleteUser =>
    show (act w _ _).2.employees = w.employees
    rw [act]
    split <;> rfl
  | _ => rfl

/-- After the request the rows are those of the employees there are then. -/
def Served (library : Library) (inv : Invocation) (registry : Registry) (result : Except PyError HttpResponse)
    (employees : Store String EmployeeItem) : Prop :=
  Registered library.crypto (record library inv registry result) employees

theorem served_error {e : PyError} (h : Registered library.crypto registry employees) :
    Served library inv registry (.error e) employees := h

theorem served_of_not_success {response : HttpResponse} (hstatus : 300 ≤ response.statusCode)
    (h : Registered library.crypto registry employees) : Served library inv registry (.ok response) employees := by
  rw [Served, record, if_pos hstatus]
  exact h

theorem served_of_answered {response : HttpResponse} {employeeId name phoneNumber : String} {item : EmployeeItem}
    (hroute : Route.ofEvent inv.event = some .createEmployee ∨ Route.ofEvent inv.event = some .updateEmployee)
    (hstatus : ¬ 300 ≤ response.statusCode)
    (hbody : answeredEmployee response.body = some (employeeId, name, phoneNumber))
    (hfits : Fits library.crypto (some ⟨inv.encryptionEnabled, name, phoneNumber⟩) (some item))
    (h : Registered library.crypto registry employees) :
    Served library inv registry (.ok response) (employees.set employeeId (some item)) := by
  rw [Served, record, if_neg hstatus]
  rcases hroute with hroute | hroute
  all_goals
    rw [hroute]
    dsimp only
    rw [hbody]
    exact h.set employeeId hfits

/-! ### The handlers -/

section

variable {β : Type} {post : Except PyError β → Store String EmployeeItem → Prop}

theorem wp_lookup {c : Call} {f : Result c → Action β} (hadvance : ∀ answer, calm.advance employees c answer = employees)
    (herror : ∀ e, post (.error e) employees) (hok : ∀ r, (f r).wp calm post employees) :
    (call c >>= f).wp calm post employees := by
  refine Program.wp_perform_bind trivial (fun e _ => ?_) fun r _ => ?_
  · rw [hadvance]
    exact herror e
  · rw [hadvance]
    exact hok r

theorem ignoresReads_calm : IgnoresReads calm employees := by
  intro c hread
  cases c with
  | getItem | queryPhone | scanBlindIndex | scan | scanCycleIds | queryResponses => exact ⟨trivial, fun _ => rfl⟩
  | _ => cases hread

theorem wp_getItem {employeeId : String} {f : Option EmployeeItem → Action β}
    (hok : (f (employees.lookup employeeId)).wp calm post employees) :
    (call (.getItem employeeId) >>= f).wp calm post employees := by
  refine Program.wp_perform_bind trivial (fun e he => nomatch he) fun r hr => ?_
  cases hr
  exact hok

theorem wp_updateItem {employeeId : String} {update : Update} {item : EmployeeItem} {f : Unit → Action β}
    (hrow : employees.lookup employeeId = some item)
    (hok : (f ()).wp calm post (employees.set employeeId (some (update.apply item)))) :
    (updateItem employeeId update >>= f).wp calm post employees := by
  refine Program.wp_perform_bind trivial (fun e he => nomatch he) fun r _ => ?_
  rw [show calm.advance employees (.updateItem employeeId update) (.ok r) =
    employees.set employeeId (some (update.apply ((employees.lookup employeeId).getD {}))) from rfl, hrow]
  exact hok

theorem wp_createCognitoAdmin (email name : String) {post : Except PyError String → Store String EmployeeItem → Prop}
    (hpost : ∀ result, post result employees) : (inv.createCognitoAdmin email name).wp calm post employees := by
  refine wp_lookup (fun _ => rfl) (fun e => hpost _) fun sub => ?_
  exact wp_lookup (fun _ => rfl) (fun e => hpost _) fun _ => hpost _

theorem wp_cognitoSubOf {new : Invocation.NewEmployee} {f : Option String → Action β} (herror : ∀ e, post (.error e) employees)
    (hok : ∀ sub, (f sub).wp calm post employees) : (inv.cognitoSubOf new >>= f).wp calm post employees := by
  refine Program.wp_bind.2 ?_
  rw [Invocation.cognitoSubOf]
  split
  · refine Program.wp_tryCatch.2 (Program.wp_bind.2 (wp_createCognitoAdmin _ _ fun result => ?_))
    cases result with
    | ok sub => exact hok (some sub)
    | error e =>
      show (Invocation.onCognitoError e).wp _ _ _
      unfold Invocation.onCognitoError
      split
      · exact hok none
      · exact herror _
  · exact hok (some "")

theorem wp_createEmployee (hroute : Route.ofEvent inv.event = some .createEmployee) (body : Value)
    (h : Registered library.crypto registry employees) :
    (inv.createEmployee library body).wp calm (Served library inv registry) employees := by
  refine Program.wp_ofExcept_bind (fun e _ => served_error h) fun new hnew => ?_
  refine ignoresReads_calm.wp_phoneAlreadyRegistered new.phone (fun e => served_error h) fun registered => ?_
  cases registered with
  | true => exact served_of_not_success (Nat.le_of_ble_eq_true rfl) h
  | false =>
    refine wp_cognitoSubOf (fun e => served_error h) fun sub => ?_
    cases sub with
    | none => exact served_of_not_success (Nat.le_of_ble_eq_true rfl) h
    | some sub =>
      refine Program.wp_perform_bind trivial (fun e he => nomatch he) fun _ _ => ?_
      exact served_of_answered (.inl hroute) (show ¬ 300 ≤ 201 by decide) rfl
        (fits_newItem inv 0 (isNumber_parseNewEmployee hnew)) h

/-- What the handlers do with the row that the path names, where it is active. -/
theorem wp_onActive {handle : String → EmployeeItem → Action HttpResponse} (h : Registered library.crypto registry employees)
    (hhandle : ∀ id existing, inv.pathId = .ok id → employees.lookup id = some existing → ¬ existing.isDeleted = true →
      (handle id existing).wp calm (Served library inv registry) employees) :
    (do
      let id ← Program.ofExcept inv.pathId
      match ← call (.getItem id) with
      | none => return notFound id
      | some existing => if existing.isDeleted then return notFound id else handle id existing : Action HttpResponse).wp
        calm (Served library inv registry) employees := by
  refine Program.wp_ofExcept_bind (fun e _ => served_error h) fun id hid => wp_getItem ?_
  cases hrow : employees.lookup id with
  | none => exact served_of_not_success (Nat.le_of_ble_eq_true rfl) h
  | some existing =>
    dsimp only
    split
    · exact served_of_not_success (Nat.le_of_ble_eq_true rfl) h
    · exact hhandle id existing hid hrow ‹_›

theorem wp_updateEmployee (hroute : Route.ofEvent inv.event = some .updateEmployee) (body : Value)
    (h : Registered library.crypto registry employees) :
    (inv.updateEmployee library body).wp calm (Served library inv registry) employees := by
  refine wp_onActive h fun id existing _ hrow hactive => ?_
  refine Program.wp_ofExcept_bind (fun e _ => served_error h) fun name _ => ?_
  refine Program.wp_ofExcept_bind (fun e _ => served_error h) fun phone _ => ?_
  refine Program.wp_ofExcept_bind (fun e _ => served_error h) fun new hnew => ?_
  have hwrite : (updateItem id (.fields (inv.encrypt library 0 new.1) (inv.encrypt library 1 new.2)
      (inv.blindIndex library new.2) inv.now) >>= fun _ => (pure {
        statusCode := 200
        body := .dict [("employeeId", .str id), ("name", .str new.1), ("phoneNumber", .str new.2)] } :
          Action HttpResponse)).wp calm (Served library inv registry) employees := by
    refine wp_updateItem hrow ?_
    refine served_of_answered (.inr hroute) (show ¬ 300 ≤ 200 by decide) rfl ?_ h
    exact ⟨Bool.not_eq_true _ ▸ hactive, isNumber_parseUpdate hnew, ⟨_, rfl⟩, ⟨_, rfl⟩⟩
  split
  · exact hwrite
  · refine ignoresReads_calm.wp_phoneAlreadyRegistered new.2 (fun e => served_error h) fun registered => ?_
    cases registered with
    | true => exact served_of_not_success (Nat.le_of_ble_eq_true rfl) h
    | false => exact hwrite

theorem wp_deleteEmployee (hlawful : library.crypto.Lawful) (hroute : Route.ofEvent inv.event = some .deleteEmployee)
    (h : Registered library.crypto registry employees) :
    (inv.deleteEmployee library).wp calm (Served library inv registry) employees := by
  refine wp_onActive h fun id existing hid hrow hactive => ?_
  -- the row is that of an employee, whose number the handler can read
  have hnumber : ∃ phone, Invocation.decrypted library existing.phoneNumber = .ok phone := by
    have hfits := h id
    rw [hrow] at hfits
    cases hregistration : registry.lookup id with
    | none =>
      rw [hregistration] at hfits
      exact absurd hfits hactive
    | some registration =>
      rw [hregistration] at hfits
      obtain ⟨-, hphone, -, nonce, hstored⟩ := hfits
      refine ⟨registration.phoneNumber, ?_⟩
      have hplain := FieldCrypto.plaintext_encrypt hlawful registration.encryptionEnabled nonce hphone
      rw [Invocation.decrypted, hstored, Option.getD_some]
      rw [FieldCrypto.plaintext] at hplain
      cases hdecrypt : library.crypto.decrypt _ with
      | ok phone =>
        rw [hdecrypt] at hplain
        cases hplain
        rfl
      | error e =>
        rw [hdecrypt] at hplain
        cases hplain
  obtain ⟨phone, hphone⟩ := hnumber
  refine wp_updateItem hrow ?_
  rw [hphone]
  show Registered library.crypto (record library inv registry (.ok _)) _
  rw [record, if_neg (show ¬ 300 ≤ 200 by decide), hroute]
  dsimp only
  rw [hid]
  exact h.set id (show Fits library.crypto none (some _) from rfl)

theorem registered_putAll {rows : List (EmployeeRow × Nat)} (hrows : ∀ row ∈ rows, isNumber row.1.phoneNumber)
    (h : Registered library.crypto registry employees) :
    Registered library.crypto (rows.foldl (registerRow inv) registry) (putAll employees (rows.map (inv.importItem library))) := by
  induction rows generalizing registry employees with
  | nil => exact h
  | cons row rows ih =>
    rw [putAll, List.map_cons, List.foldl_cons, List.foldl_cons]
    obtain ⟨hrow, hrows⟩ := List.forall_mem_cons.1 hrows
    exact ih hrows (h.set (inv.uuid row.2) (fits_newItem inv _ hrow))

theorem wp_insertBatches (hroute : Route.ofEvent inv.event = some .importCsv) (attempted : Nat)
    (inserted : List (EmployeeRow × Nat)) (rest : List (List (EmployeeRow × Nat)))
    (hall : inserted ++ rest.flatten = (inv.csvRows library).zipIdx)
    (hnumbers : ∀ batch ∈ rest, ∀ row ∈ batch, isNumber row.1.phoneNumber)
    (h : Registered library.crypto (inserted.foldl (registerRow inv) registry) employees) (phones : List String) :
    (inv.insertBatches library attempted rest phones).wp calm (Served library inv registry) employees := by
  induction rest generalizing inserted employees phones with
  | nil =>
    rw [List.flatten_nil, List.append_nil] at hall
    show Registered library.crypto (record library inv registry (.ok _)) employees
    rw [record, hroute, ← hall]
    exact h
  | cons batch rest ih =>
    obtain ⟨hbatch, hrest⟩ := List.forall_mem_cons.1 hnumbers
    refine ⟨trivial, fun answer hanswer => ?_⟩
    cases hanswer
    refine ih (inserted ++ batch) ?_ hrest ?_ _
    · rw [List.append_assoc, ← List.flatten_cons, hall]
    · rw [List.foldl_append]
      exact registered_putAll hbatch h

theorem wp_importCsv (hroute : Route.ofEvent inv.event = some .importCsv) {body : Value}
    (hbody : parseBody inv.event.body = .ok body) (h : Registered library.crypto registry employees) :
    (inv.importCsv library body).wp calm (Served library inv registry) employees := by
  rw [Invocation.importCsv]
  split
  · exact served_error h
  · exact served_error h
  · rename_i raw _ hraw
    split
    · exact served_of_not_success (Nat.le_of_ble_eq_true rfl) h
    · rename_i file hfile
      dsimp only
      split
      · exact served_of_not_success (Nat.le_of_ble_eq_true rfl) h
      · have hrows := csvRows_eq hbody hraw hfile
        refine ignoresReads_calm.wp_filterRegistered (fun e => served_error h) _ fun duplicates => ?_
        split
        · exact served_of_not_success (Nat.le_of_ble_eq_true rfl) h
        · refine wp_insertBatches hroute _ [] _ ?_ (fun batch hbatch row hrow => ?_) h _
          · rw [List.nil_append, flatten_batches (by decide), hrows]
          · have hmem := (sublist_of_mem_batches hbatch).subset hrow
            refine (goodRows_parseEmployeeCsv file).2 row.1 ?_
            rw [← List.zipIdx_map_fst 0 (parseEmployeeCsv file).rows]
            exact List.mem_map_of_mem hmem

theorem record_of_route (hroute : ∀ route ∈ Route.ofEvent inv.event, route = .listEmployees ∨ route = .getEmployeeById ∨
      route = .anonymizeEmployee ∨ route = .deleteCognitoUser) (result : Except PyError HttpResponse) :
    record library inv registry result = registry := by
  cases result with
  | error e => rfl
  | ok response =>
    rw [record]
    split
    · rfl
    · cases hof : Route.ofEvent inv.event with
      | none => rfl
      | some route => rcases hroute route hof with rfl | rfl | rfl | rfl <;> rfl

theorem wp_deleteCognitoUser (hroute : Route.ofEvent inv.event = some .deleteCognitoUser)
    (h : Registered library.crypto registry employees) :
    inv.deleteCognitoUser.wp calm (Served library inv registry) employees := by
  have hsame : ∀ result, record library inv registry result = registry := record_of_route (by simp [hroute])
  have hserved : ∀ {result after}, Registered library.crypto registry after → Served library inv registry result after := by
    intro result after hafter
    rw [Served, hsame]
    exact hafter
  refine Program.wp_ofExcept_bind (fun e _ => hserved h) fun claims _ => ?_
  split
  · exact hserved h
  · refine Program.wp_ofExcept_bind (fun e _ => hserved h) fun id hid => wp_getItem ?_
    cases hrow : employees.lookup id with
    | none => exact hserved h
    | some existing =>
      show (if (!existing.isDeleted) = true then _ else _ : Action HttpResponse).wp _ _ _
      split
      · exact hserved h
      · split
        · exact hserved h
        · exact hserved h
        · have hlast : (updateItem id (.removeCognitoSub inv.now) >>= fun _ => (pure (HttpResponse.mk 200 (.dict
              [("employeeId", .str id), ("cognitoUserDeleted", .bool true)])) : Action HttpResponse)).wp calm
                (Served library inv registry) employees := by
            refine wp_updateItem hrow (hserved fun other => ?_)
            rw [Store.lookup_set]
            split
            · subst other
              have hfits := h id
              rw [hrow] at hfits
              cases hregistration : registry.lookup id <;> rw [hregistration] at hfits <;> exact hfits
            · exact h other
          refine Program.wp_bind.2 (Program.wp_tryCatch.2 (Program.wp_perform.2 ⟨trivial, fun answer _ => ?_⟩))
          cases answer with
          | ok _ => exact hlast
          | error e =>
            dsimp only
            split
            · exact hlast
            · exact hserved h

/-- The other requests do not write the Employee table. -/
theorem wp_other (hroute : ∀ route ∈ Route.ofEvent inv.event, route = .listEmployees ∨ route = .getEmployeeById ∨
      route = .anonymizeEmployee)
    (h : Registered library.crypto registry employees) :
    (inv.lambdaHandler library).wp calm (Served library inv registry) employees := by
  have hsame : ∀ result, record library inv registry result = registry :=
    record_of_route fun route hof => by rcases hroute route hof with rfl | rfl | rfl <;> simp
  refine @Program.wp_mono _ _ _ _ _ _ (fun _ after => Registered library.crypto registry after) _ _
    (fun result after hafter => by rw [Served, hsame]; exact hafter) _ ?_
  refine Program.wp_of_allowed (fun _ _ _ => trivial) (fun history c after answer hpermitted hafter _ => ?_)
    (fun _ _ _ _ => trivial) (EmployeeApi.wp_lambdaHandler library inv) h
  cases hpermitted with
  | read c hread => cases c <;> first | exact hafter | cases hread
  | anonymize => exact hafter
  | create hof | update hof | delete hof | insert hof | rollback hof | createUser hof | addToGroup hof | deleteUser hof
  | unlink hof => exact absurd (hroute _ hof) (by decide)

theorem wp_lambdaHandler (hlawful : library.crypto.Lawful) (h : Registered library.crypto registry employees) :
    (inv.lambdaHandler library).wp calm (Served library inv registry) employees := by
  have hhandle : ∀ {program : Action HttpResponse}, program.wp calm (Served library inv registry) employees →
      inv.handle library (Route.ofEvent inv.event) = program →
        (inv.lambdaHandler library).wp calm (Served library inv registry) employees := by
    intro program hprogram hsame
    refine Program.wp_ofExcept_bind (fun e _ => served_error h) fun _ _ => Program.wp_tryCatch.2 ?_
    refine @Program.wp_mono _ _ _ _ _ _ (Served library inv registry) _ _ ?_ _ (hsame ▸ hprogram)
    intro result after hserved
    cases result with
    | ok response => exact hserved
    | error e =>
      show (Invocation.onError e).wp _ _ _
      unfold Invocation.onError
      split
      · exact served_of_not_success (Nat.le_of_ble_eq_true rfl) hserved
      · split
        · exact served_of_not_success (Nat.le_of_ble_eq_true rfl) hserved
        · exact hserved
      · exact hserved
  have hbody : ∀ {handler : Value → Action HttpResponse},
      (∀ body, parseBody inv.event.body = .ok body → (handler body).wp calm (Served library inv registry) employees) →
        (inv.parsedBody >>= handler).wp calm (Served library inv registry) employees :=
    fun hhandler => Program.wp_ofExcept_bind (fun e _ => served_error h) hhandler
  cases hroute : Route.ofEvent inv.event with
  | none => exact wp_other (by simp [hroute]) h
  | some route =>
    rw [hroute] at hhandle
    cases route with
    | createEmployee => exact hhandle (hbody fun body _ => wp_createEmployee hroute body h) rfl
    | updateEmployee => exact hhandle (hbody fun body _ => wp_updateEmployee hroute body h) rfl
    | deleteEmployee => exact hhandle (wp_deleteEmployee hlawful hroute h) rfl
    | importCsv => exact hhandle (hbody fun body hbody => wp_importCsv hroute hbody h) rfl
    | deleteCognitoUser => exact hhandle (wp_deleteCognitoUser hroute h) rfl
    | listEmployees | getEmployeeById | anonymizeEmployee => exact wp_other (by simp [hroute]) h

end

/-! ### The readers -/

/-- After any requests the rows are those of the employees that were accepted and not deleted. -/
theorem registered_life (hlawful : library.crypto.Lawful) {start : World} (hempty : start.employees = ∅)
    (turns : List Turn) : Registered library.crypto (turns.foldl (serve library) { world := start }).registry
      (turns.foldl (serve library) { world := start }).world.employees := by
  induction turns using List.reverseRecOn with
  | nil =>
    intro employeeId
    rw [List.foldl_nil, hempty]
    trivial
  | append_singleton turns turn ih =>
    rw [List.foldl_append]
    exact Program.run_of_wp World.employees (possible_respond turn) (advance_respond turn)
      (wp_lambdaHandler hlawful ih)

theorem encrypt_of_disabled (nonce value : String) : crypto.encrypt false nonce value = value := by
  simp [FieldCrypto.encrypt]

/-- What the readers get of the row of an employee. -/
theorem Registered.row (h : Registered crypto registry employees) {employeeId : String} {registration : Registration}
    (hregistration : registry.lookup employeeId = some registration) : ∃ item, employees.lookup employeeId = some item ∧
      item.isDeleted = false ∧ isNumber registration.phoneNumber ∧
      (∃ nonce, item.name = some (crypto.encrypt registration.encryptionEnabled nonce registration.name)) ∧
      ∃ nonce, item.phoneNumber = some (crypto.encrypt registration.encryptionEnabled nonce registration.phoneNumber) := by
  have hfits := h employeeId
  rw [hregistration] at hfits
  cases hrow : employees.lookup employeeId with
  | none =>
    rw [hrow] at hfits
    exact hfits.elim
  | some item =>
    rw [hrow] at hfits
    exact ⟨item, rfl, hfits⟩

theorem Registered.registration (h : Registered crypto registry employees) {employeeId : String} {item : EmployeeItem}
    (hrow : employees.lookup employeeId = some item) (hactive : item.isDeleted = false) :
    ∃ registration, registry.lookup employeeId = some registration := by
  have hfits := h employeeId
  cases hregistration : registry.lookup employeeId with
  | none =>
    rw [hregistration, hrow] at hfits
    rw [show item.isDeleted = true from hfits] at hactive
    cases hactive
  | some registration => exact ⟨registration, rfl⟩

theorem isVisible_toEmployee {item : EmployeeItem} (hactive : item.isDeleted = false) {phoneNumber : String}
    (hphone : item.phoneNumber = some phoneNumber) (hne : phoneNumber ≠ "") : isVisible item.toEmployee = true := by
  rw [EmployeeItem.isDeleted] at hactive
  cases hdeleted : item.deleted with
  | none => simp [isVisible, EmployeeItem.toEmployee, hdeleted, hphone, Value.asStr?, hne]
  | some deleted =>
    rw [hdeleted, Option.getD_some] at hactive
    simp [isVisible, EmployeeItem.toEmployee, hdeleted, hactive, hphone, Value.asStr?, hne]

theorem not_isDeleted_of_isVisible {item : EmployeeItem} (h : isVisible item.toEmployee = true) : item.isDeleted = false := by
  rw [EmployeeItem.isDeleted]
  cases hdeleted : item.deleted with
  | none => rfl
  | some deleted =>
    cases deleted with
    | false => rfl
    | true =>
      rw [isVisible, EmployeeItem.toEmployee, hdeleted] at h
      cases h

/-- An encrypted row is called at its ciphertext. -/
theorem plaintext_of_transparent (hlawful : crypto.Lawful) (h : Registered crypto registry employees) {employeeId : String}
    {registration : Registration} (hregistration : registry.lookup employeeId = some registration)
    (htransparent : Transparent employees employeeId registration) : registration.encryptionEnabled = false := by
  obtain ⟨item, hrow, -, hnumber, -, nonce, hphone⟩ := h.row hregistration
  obtain ⟨targets, htargets, hmem⟩ := htransparent.called (fun _ => ∅) "c" (by decide)
  obtain ⟨row, hlookup, htarget⟩ := LoadTargets.eq_projectTarget_of_mem htargets hmem
  obtain ⟨item', hitem, rfl⟩ := lookup_employeeTable.1 hlookup
  rw [hrow] at hitem
  cases hitem
  have hsame : registration.phoneNumber = crypto.encrypt registration.encryptionEnabled nonce registration.phoneNumber := by
    have hproject := congrArg LoadTargets.Target.phoneNumber htarget
    simpa [LoadTargets.projectTarget, EmployeeItem.toEmployee, hphone, Value.asStr?] using hproject
  have hne : registration.phoneNumber ≠ "" := by
    intro hempty
    rw [hempty] at hnumber
    cases hnumber
  cases hmode : registration.encryptionEnabled with
  | false => rfl
  | true =>
    have hlength := hlawful.length_lt_encryptField nonce registration.phoneNumber hne
    rw [hmode] at hsame
    rw [show crypto.encryptField nonce registration.phoneNumber = registration.phoneNumber by
      simpa [FieldCrypto.encrypt, hne] using hsame.symm] at hlength
    exact absurd hlength (Nat.lt_irrefl _)

/-- Where all rows are stored in plaintext, a number leads to its employee. -/
theorem transparent_of_plaintext (h : Registered crypto registry employees)
    (hplaintext : ∀ employeeId registration, registry.lookup employeeId = some registration →
      registration.encryptionEnabled = false)
    (hdistinct : ∀ employeeId other registration registration', registry.lookup employeeId = some registration →
      registry.lookup other = some registration' → registration.phoneNumber = registration'.phoneNumber → employeeId = other)
    {employeeId : String} {registration : Registration} (hregistration : registry.lookup employeeId = some registration) :
    Transparent employees employeeId registration := by
  have hstored : ∀ {id : String} {registered : Registration}, registry.lookup id = some registered → ∃ item,
      employees.lookup id = some item ∧ item.isDeleted = false ∧ registered.phoneNumber ≠ "" ∧
        item.name = some registered.name ∧ item.phoneNumber = some registered.phoneNumber := by
    intro id registered hregistered
    obtain ⟨item, hrow, hactive, hnumber, ⟨_, hname⟩, _, hphone⟩ := h.row hregistered
    rw [hplaintext id registered hregistered, encrypt_of_disabled] at hname hphone
    refine ⟨item, hrow, hactive, fun hempty => ?_, hname, hphone⟩
    rw [hempty] at hnumber
    cases hnumber
  obtain ⟨item, hrow, hactive, hne, hname, hphone⟩ := hstored hregistration
  have htarget : LoadTargets.projectTarget (employeeId, item.toEmployee) =
      ⟨employeeId, registration.name, registration.phoneNumber⟩ := by
    simp [LoadTargets.projectTarget, EmployeeItem.toEmployee, hname, hphone, Value.asStr?]
  have hlookup : (employeeTable employees).lookup employeeId = some item.toEmployee := lookup_employeeTable.2 ⟨item, hrow, rfl⟩
  have hvisible := isVisible_toEmployee hactive hphone hne
  refine ⟨fun responses cycleId hcycleId => ?_, fun responses event targets htargets target hmem hid => ?_, ?_⟩
  · rw [← htarget]
    exact LoadTargets.lambdaHandler_all _ responses hcycleId hlookup hvisible
  · obtain ⟨row, hrow', hprojected⟩ := LoadTargets.eq_projectTarget_of_mem htargets hmem
    rw [hid, hlookup] at hrow'
    cases hrow'
    rw [hprojected, hid, htarget]
  · have hmem : (employeeId, item.toEmployee) ∈ (employeeTable employees).rows.filter fun entry =>
        (entry.2.phoneNumber.bind Value.asStr?) == some registration.phoneNumber :=
      List.mem_filter.2 ⟨Store.mem_rows.2 hlookup, by simp [EmployeeItem.toEmployee, hphone, Value.asStr?]⟩
    obtain ⟨⟨id, row⟩, hfound⟩ := Option.isSome_iff_exists.1
      (List.find?_isSome.2 ⟨_, hmem, hvisible⟩ : (List.find? (fun entry : String × Employee => isVisible entry.2) _).isSome)
    refine ⟨row, ?_⟩
    rw [Inbound.lookupEmployeeByPhone, hfound]
    obtain ⟨hrows, hnumber⟩ := List.mem_filter.1 (List.mem_of_find?_eq_some hfound)
    obtain ⟨item', hitem', rfl⟩ := lookup_employeeTable.1 (Store.mem_rows.1 hrows)
    have hseen := List.find?_some hfound
    obtain ⟨registration', hregistration'⟩ := h.registration hitem' (not_isDeleted_of_isVisible hseen)
    obtain ⟨item'', hitem'', -, -, -, hphone'⟩ := hstored hregistration'
    rw [hitem'] at hitem''
    cases hitem''
    have hsame : registration'.phoneNumber = registration.phoneNumber := by
      simpa [EmployeeItem.toEmployee, hphone', Value.asStr?] using hnumber
    rw [hdistinct id employeeId registration' registration hregistration' hregistration hsame]

/-- After any requests, the readers see all employees as they were accepted exactly when all were last accepted with
encryption off, no two of them with one number. -/
theorem transparent_iff_plaintext (library : Library) (hlawful : library.crypto.Lawful) (start : World)
    (hempty : start.employees = ∅) (turns : List Turn) (life : Life)
    (hlife : turns.foldl (serve library) { world := start } = life) :
    (∀ employeeId registration, life.registry.lookup employeeId = some registration →
        Transparent life.world.employees employeeId registration) ↔
      (∀ employeeId registration, life.registry.lookup employeeId = some registration →
        registration.encryptionEnabled = false) ∧
      ∀ employeeId other registration registration', life.registry.lookup employeeId = some registration →
        life.registry.lookup other = some registration' → registration.phoneNumber = registration'.phoneNumber →
          employeeId = other := by
  have h := registered_life hlawful hempty turns
  rw [hlife] at h
  constructor
  · intro htransparent
    refine ⟨fun employeeId registration hregistration =>
      plaintext_of_transparent hlawful h hregistration (htransparent employeeId registration hregistration), ?_⟩
    intro employeeId other registration registration' hregistration hregistration' hsame
    obtain ⟨row, hfound⟩ := (htransparent employeeId registration hregistration).found
    obtain ⟨row', hfound'⟩ := (htransparent other registration' hregistration').found
    rw [← hsame, hfound] at hfound'
    cases hfound'
    rfl
  · intro hcondition employeeId registration hregistration
    exact transparent_of_plaintext h hcondition.1 hcondition.2 hregistration

/-- One employee, created in one of the two modes. -/
def createdIn (encryptionEnabled : Bool) : List Turn :=
  [{ request := { creation "e1" "Sato" "+819012345678" with encryptionEnabled := encryptionEnabled } }]

theorem transparent_created : ∃ life, (createdIn false).foldl (serve markedLibrary) { world := {} } = life ∧
    life.registry.lookup "e1" = some ⟨false, "Sato", "+819012345678"⟩ ∧
    Transparent life.world.employees "e1" ⟨false, "Sato", "+819012345678"⟩ := by
  obtain ⟨life, hlife⟩ : ∃ life, (createdIn false).foldl (serve markedLibrary) { world := {} } = life := ⟨_, rfl⟩
  have hlookup : life.registry.lookup "e1" = some ⟨false, "Sato", "+819012345678"⟩ := by
    rw [← hlife]
    decide
  have honly : ∀ employeeId registration, life.registry.lookup employeeId = some registration →
      employeeId = "e1" ∧ registration.encryptionEnabled = false := by
    have hrows : life.registry.rows = [("e1", ⟨false, "Sato", "+819012345678"⟩)] := by
      rw [← hlife]
      decide
    intro employeeId registration hregistration
    rw [← Store.mem_rows, hrows, List.mem_singleton] at hregistration
    cases hregistration
    exact ⟨rfl, rfl⟩
  refine ⟨life, hlife, hlookup, (transparent_iff_plaintext markedLibrary FieldCrypto.lawful_marked {} rfl (createdIn false) life
    hlife).2 ⟨fun employeeId registration hregistration => (honly _ _ hregistration).2, ?_⟩ "e1" _ hlookup⟩
  intro employeeId other _ _ hregistration hregistration' _
  exact (honly _ _ hregistration).1.trans (honly _ _ hregistration').1.symm

/-- An employee who was created with encryption on is called at a ciphertext. -/
theorem not_transparent_created : ∃ life, (createdIn true).foldl (serve markedLibrary) { world := {} } = life ∧
    life.registry.lookup "e1" = some ⟨true, "Sato", "+819012345678"⟩ ∧
    ¬ Transparent life.world.employees "e1" ⟨true, "Sato", "+819012345678"⟩ := by
  obtain ⟨life, hlife⟩ : ∃ life, (createdIn true).foldl (serve markedLibrary) { world := {} } = life := ⟨_, rfl⟩
  have hlookup : life.registry.lookup "e1" = some ⟨true, "Sato", "+819012345678"⟩ := by
    rw [← hlife]
    decide
  refine ⟨life, hlife, hlookup, fun htransparent => ?_⟩
  have h := @registered_life markedLibrary FieldCrypto.lawful_marked {} rfl (createdIn true)
  rw [hlife] at h
  cases plaintext_of_transparent FieldCrypto.lawful_marked h hlookup htransparent

end EncryptionModes

end EmployeeApi

end SafetyConfirmation
