import SafetyConfirmation.Employee.Deletion
import SafetyConfirmation.Employee.DuplicateCheck

/-!
# Deletions and the key of the index

A deletion empties the number of the row, which is the key of `PhoneNumberIndex`. DynamoDB refuses to set the key of an
index to the empty string, so no deletion goes through; where it did, the employee would be gone for every reader.
-/

namespace SafetyConfirmation

namespace EmployeeApi

open KeyedStore

/-- The call sets `phoneNumber`, the hash key of `PhoneNumberIndex`, to the empty string. -/
def Call.emptiesKey : Call → Bool
  | .updateItem _ (.fields _ phoneNumber _ _) => phoneNumber == ""
  | .updateItem _ (.delete _) => true
  | .putItem _ item => item.phoneNumber == some ""
  | .transactPut items => items.any fun entry => entry.2.phoneNumber == some ""
  | _ => false

/-- DynamoDB with its rule for the keys of an index. -/
def respondIndexed (w : World) (c : Call) : Except PyError (Result c) × World :=
  if c.emptiesKey then (.error (.clientError "ValidationException"), w) else respond w {} c

section

variable (library : Library) (respond : World → (c : Call) → Except PyError (Result c) × World)

/-- The deletion is answered with 200, and after it no reader has the employee. -/
structure Erases (inv : Invocation) (employeeId : String) (w : World) : Prop where
  answered : ∃ response, ((inv.lambdaHandler library).run respond w).1 = .ok response ∧ response.statusCode = 200
  invisible : ∀ item, ((inv.lambdaHandler library).run respond w).2.employees.lookup employeeId = some item →
    isVisible item.toEmployee = false
  notFound : ∀ get : Invocation, Route.ofEvent get.event = some .getEmployeeById → get.pathId = .ok employeeId →
    ∀ principal, Auth.principal get.event.requestContext = .ok principal →
      ∃ response, ((get.lambdaHandler library).run respond ((inv.lambdaHandler library).run respond w).2).1 = .ok response ∧
        response.statusCode = 404
  unindexed : ∀ phone, isNumber phone → ∀ item,
    ((inv.lambdaHandler library).run respond w).2.employees.lookup employeeId = some item →
      phoneIs phone item = false ∧ blindIndexIs (library.crypto.computeBlindIndex phone) false item = false

end

section

variable {library : Library} {respond : World → (c : Call) → Except PyError (Result c) × World} {inv : Invocation}
  {employeeId : String} {w : World} {item : EmployeeItem}

/-- A deletion after its row is read: the update, the number for the audit record, and the answer. -/
theorem run_deleteEmployee (hid : inv.pathId = .ok employeeId)
    (hread : respond w (.getItem employeeId) = (.ok (some item), w)) (hactive : item.isDeleted = false) :
    (inv.deleteEmployee library).run respond w = Program.run respond (do
      updateItem employeeId (.delete inv.now)
      let _ ← Program.ofExcept (Invocation.decrypted library item.phoneNumber)
      return { statusCode := 200, body := .dict [("employeeId", .str employeeId), ("deleted", .bool true)] }) w := by
  rw [Invocation.deleteEmployee, hid]
  show (call (.getItem employeeId) >>= _ : Action HttpResponse).run respond w = _
  rw [Program.run_bind, call, Program.run_perform, hread]
  dsimp only
  rw [hactive]
  rfl

theorem run_getEmployeeById (hid : inv.pathId = .ok employeeId)
    (hread : respond w (.getItem employeeId) = (.ok (some item), w)) (hdeleted : item.isDeleted = true) :
    (inv.getEmployeeById library).run respond w = (.ok (notFound employeeId), w) := by
  rw [Invocation.getEmployeeById, hid]
  show (call (.getItem employeeId) >>= _ : Action HttpResponse).run respond w = _
  rw [Program.run_bind, call, Program.run_perform, hread]
  dsimp only
  rw [hdeleted]
  rfl

theorem run_lambdaHandler {principal : Value} (hprincipal : Auth.principal inv.event.requestContext = .ok principal) :
    (inv.lambdaHandler library).run respond w = match (inv.handle library (Route.ofEvent inv.event)).run respond w with
      | (.ok response, world) => (.ok response, world)
      | (.error e, world) => (Invocation.onError e).run respond world := by
  rw [Invocation.lambdaHandler, hprincipal]
  show (Program.tryCatch (inv.handle library (Route.ofEvent inv.event)) Invocation.onError).run respond w = _
  rw [Program.run_tryCatch]
  obtain ⟨result, world⟩ := (inv.handle library (Route.ofEvent inv.event)).run respond w
  cases result with
  | ok response => rfl
  | error e => rfl

theorem run_lambdaHandler_error {e : PyError} (hprincipal : Auth.principal inv.event.requestContext = .error e) :
    (inv.lambdaHandler library).run respond w = (.error e, w) := by
  rw [Invocation.lambdaHandler, hprincipal]
  rfl

/-- With no rule for the keys of the index, a deletion does what it is for. -/
theorem erases_respond (hlawful : library.crypto.Lawful) (hindexes : IndexesNumbers library.crypto)
    (hroute : Route.ofEvent inv.event = some .deleteEmployee) (hid : inv.pathId = .ok employeeId)
    (hrow : w.employees.lookup employeeId = some item) (hactive : item.isDeleted = false)
    (hstored : Stored library.crypto item) {principal : Value}
    (hprincipal : Auth.principal inv.event.requestContext = .ok principal) :
    Erases library (fun w c => EmployeeApi.respond w {} c) inv employeeId w := by
  have hread : EmployeeApi.respond w {} (.getItem employeeId) = (.ok (some item), w) := by
    rw [← hrow]
    rfl
  have hnumber : ∃ number, Invocation.decrypted library item.phoneNumber = .ok number := by
    obtain ⟨name, phoneNumber, phoneNumberBlindIndex, role, deleted, cognitoSub, createdAt, updatedAt⟩ := item
    cases hstored with
    | number encryptionEnabled nonce hq =>
      exact ⟨_, FieldCrypto.plaintext_eq_some.1 (FieldCrypto.plaintext_encrypt hlawful encryptionEnabled nonce hq)⟩
    | erased => exact ⟨"", rfl⟩
    | absent => exact ⟨"", rfl⟩
  obtain ⟨number, hnumber⟩ := hnumber
  have hrun : (inv.lambdaHandler library).run (fun w c => EmployeeApi.respond w {} c) w =
      (.ok { statusCode := 200, body := .dict [("employeeId", .str employeeId), ("deleted", .bool true)] },
        (EmployeeApi.respond w {} (.updateItem employeeId (.delete inv.now))).2) := by
    rw [run_lambdaHandler hprincipal, hroute]
    show (match (inv.deleteEmployee library).run (fun w c => EmployeeApi.respond w {} c) w with
      | (.ok response, world) => (Except.ok response, world)
      | (.error e, world) => (Invocation.onError e).run (fun w c => EmployeeApi.respond w {} c) world) = _
    rw [@run_deleteEmployee library (fun w c => EmployeeApi.respond w {} c) inv employeeId w item hid hread hactive, hnumber]
    rfl
  have hafter : (EmployeeApi.respond w {} (.updateItem employeeId (.delete inv.now))).2.employees.lookup employeeId =
      some ((Update.delete inv.now).apply item) := by
    rw [lookup_respond]
    show Call.row employeeId (w.employees.lookup employeeId) (.updateItem employeeId (.delete inv.now)) = _
    rw [Call.row, if_pos rfl, hrow]
    rfl
  have herased : ∀ item', ((inv.lambdaHandler library).run (fun w c => EmployeeApi.respond w {} c) w).2.employees.lookup
      employeeId = some item' → item' = (Update.delete inv.now).apply item := by
    intro item' hitem
    rw [hrun, hafter] at hitem
    exact (Option.some.inj hitem).symm
  refine ⟨⟨_, by rw [hrun], rfl⟩, fun item' hitem => ?_, ?_, fun phone hphone item' hitem => ?_⟩
  · rw [herased item' hitem]
    rfl
  · intro get hget hgetId principal hgetPrincipal
    have hread' : EmployeeApi.respond (EmployeeApi.respond w {} (.updateItem employeeId (.delete inv.now))).2 {}
        (.getItem employeeId) = (.ok (some ((Update.delete inv.now).apply item)),
          (EmployeeApi.respond w {} (.updateItem employeeId (.delete inv.now))).2) := by
      rw [← hafter]
      rfl
    rw [hrun, run_lambdaHandler hgetPrincipal, hget]
    have hget := @run_getEmployeeById library (fun w c => EmployeeApi.respond w {} c) get employeeId _ _ hgetId hread' rfl
    refine ⟨notFound employeeId, ?_, rfl⟩
    show (match (get.getEmployeeById library).run (fun w c => EmployeeApi.respond w {} c) _ with
      | (.ok response, world) => (Except.ok response, world)
      | (.error e, world) => (Invocation.onError e).run (fun w c => EmployeeApi.respond w {} c) world).1 = _
    rw [hget]
  · rw [herased item' hitem]
    have hne := ne_empty_of_isNumber hphone
    have hindex := hindexes.ne_empty hphone
    exact ⟨by simpa [phoneIs, Update.apply] using hne.symm, by simp [blindIndexIs, Update.apply, hindex.symm]⟩

theorem run_respondIndexed (hroute : Route.ofEvent inv.event = some .deleteEmployee) (hid : inv.pathId = .ok employeeId)
    (hrow : w.employees.lookup employeeId = some item) (hactive : item.isDeleted = false) {principal : Value}
    (hprincipal : Auth.principal inv.event.requestContext = .ok principal) :
    (inv.lambdaHandler library).run respondIndexed w = (.error (.clientError "ValidationException"), w) := by
  have hread : respondIndexed w (.getItem employeeId) = (.ok (some item), w) := by
    rw [← hrow]
    rfl
  rw [run_lambdaHandler hprincipal, hroute]
  show (match (inv.deleteEmployee library).run respondIndexed w with
    | (.ok response, world) => (Except.ok response, world)
    | (.error e, world) => (Invocation.onError e).run respondIndexed world) = _
  rw [run_deleteEmployee hid hread hactive]
  rfl

end

/-- No deletion of an active employee goes through, and the row stays as it is. -/
theorem not_erases (library : Library) (inv : Invocation) (employeeId : String) (w : World) (item : EmployeeItem)
    (hroute : Route.ofEvent inv.event = some .deleteEmployee) (hid : inv.pathId = .ok employeeId)
    (hrow : w.employees.lookup employeeId = some item) (hactive : item.isDeleted = false) :
    ((inv.lambdaHandler library).run respondIndexed w).2 = w ∧ ¬ Erases library respondIndexed inv employeeId w := by
  cases hprincipal : Auth.principal inv.event.requestContext with
  | ok principal =>
    have hrun := @run_respondIndexed library inv employeeId w item hroute hid hrow hactive principal hprincipal
    refine ⟨by rw [hrun], fun h => ?_⟩
    obtain ⟨response, hanswer, -⟩ := h.answered
    rw [hrun] at hanswer
    cases hanswer
  | error e =>
    have hrun : (inv.lambdaHandler library).run respondIndexed w = (.error e, w) := run_lambdaHandler_error hprincipal
    refine ⟨by rw [hrun], fun h => ?_⟩
    obtain ⟨response, hanswer, -⟩ := h.answered
    rw [hrun] at hanswer
    cases hanswer

theorem not_erases_registered :
    ((Deletion.deletion.lambdaHandler markedLibrary).run respondIndexed Deletion.registered).2 = Deletion.registered ∧
      ¬ Erases markedLibrary respondIndexed Deletion.deletion "e1" Deletion.registered :=
  not_erases markedLibrary Deletion.deletion "e1" Deletion.registered _ rfl rfl rfl rfl

/-- The employee of one creation cannot be deleted. -/
def created : World := (((creation "e1" "Sato" "+819012345678").lambdaHandler markedLibrary).run respondIndexed {}).2

theorem not_erases_created : (created.employees.lookup "e1").map EmployeeItem.isDeleted = some false ∧
    ¬ Erases markedLibrary respondIndexed Deletion.deletion "e1" created := by
  refine ⟨by decide, fun h => ?_⟩
  obtain ⟨response, hanswer, -⟩ := h.answered
  have hrefused : ((Deletion.deletion.lambdaHandler markedLibrary).run respondIndexed created).1 =
      .error (.clientError "ValidationException") := rfl
  rw [hrefused] at hanswer
  cases hanswer

end EmployeeApi

end SafetyConfirmation
