import SafetyConfirmation.Employee.Api

/-!
# How EmployeeApi behaves towards its tables

Which calls an invocation makes at which point, whatever the earlier ones answered: what it writes it has checked or read
before. The other modules use what is said here, and not the handlers.
-/

namespace SafetyConfirmation

namespace EmployeeApi

open Employee EmployeeCsv Checks

/-! ### What an invocation has seen -/

/-- The calls an invocation has made with their answers, the last one first. -/
abbrev History := List (Sigma fun c : Call => Except PyError (Result c))

def Answered (history : History) (c : Call) (r : Result c) : Prop :=
  (⟨c, .ok r⟩ : Sigma fun c : Call => Except PyError (Result c)) ∈ history

/-- The number of a row, in plaintext. -/
def EmployeeItem.plainNumber (crypto : FieldCrypto) (item : EmployeeItem) : Option String :=
  crypto.plaintext (item.phoneNumber.getD "")

/-- The answer says that no row which is not deleted has the number. -/
def clears (crypto : FieldCrypto) (phone : String) : (c : Call) → Except PyError (Result c) → Bool
  | .queryPhone number, .ok items => number == phone && items.all fun entry => entry.2.isDeleted
  | .scanBlindIndex blindIndex true, .ok items => blindIndex == crypto.computeBlindIndex phone && items.isEmpty
  | _, _ => false

/-- The answer says that this row has the number, and is not deleted. -/
def owns (crypto : FieldCrypto) (employeeId phone : String) : (c : Call) → Except PyError (Result c) → Bool
  | .getItem id, .ok (some item) => id == employeeId && !item.isDeleted && item.plainNumber crypto == some phone
  | _, _ => false

def Cleared (crypto : FieldCrypto) (phone : String) (history : History) : Prop :=
  ∃ entry ∈ history, clears crypto phone entry.1 entry.2 = true

def Owned (crypto : FieldCrypto) (employeeId phone : String) (history : History) : Prop :=
  ∃ entry ∈ history, owns crypto employeeId phone entry.1 entry.2 = true

theorem Cleared.mono {crypto : FieldCrypto} {phone : String} {history history' : History} (h : Cleared crypto phone history)
    (hsubset : history ⊆ history') : Cleared crypto phone history' := by
  obtain ⟨entry, hmem, hclears⟩ := h
  exact ⟨entry, hsubset hmem, hclears⟩

def isNumber (phone : String) : Prop := phone.toList.head? = some '+'

/-- Calls that change nothing. -/
def Call.isRead : Call → Bool
  | .getItem _ | .queryPhone _ | .scanBlindIndex _ _ | .scan | .scanCycleIds | .queryResponses _ _ => true
  | _ => false

variable (library : Library) (inv : Invocation)

/-- The calls an invocation makes, given what it has seen. -/
inductive Permitted (history : History) : Call → Prop where
  | read (c : Call) (hread : c.isRead = true) : Permitted history c
  | create (hroute : Route.ofEvent inv.event = some .createEmployee) (name phone role sub : String) (hphone : isNumber phone)
      (hcleared : Cleared library.crypto phone history) :
      Permitted history (.putItem (inv.uuid 0) (inv.newItem library 0 name phone role sub))
  | update (hroute : Route.ofEvent inv.event = some .updateEmployee) (employeeId name phone : String)
      (hid : inv.pathId = .ok employeeId) (hphone : isNumber phone)
      (hchecked : Cleared library.crypto phone history ∨ Owned library.crypto employeeId phone history) :
      Permitted history (.updateItem employeeId
        (.fields (inv.encrypt library 0 name) (inv.encrypt library 1 phone) (inv.blindIndex library phone) inv.now))
  | delete (hroute : Route.ofEvent inv.event = some .deleteEmployee) (employeeId : String)
      (hid : inv.pathId = .ok employeeId) : Permitted history (.updateItem employeeId (.delete inv.now))
  | insert (hroute : Route.ofEvent inv.event = some .importCsv) (rows : List (EmployeeRow × Nat))
      (hnodup : (rows.map fun row => row.1.phoneNumber).Nodup)
      (hrows : ∀ row ∈ rows, isNumber row.1.phoneNumber ∧ Cleared library.crypto row.1.phoneNumber history) :
      Permitted history (.transactPut (rows.map (inv.importItem library)))
  | rollback (hroute : Route.ofEvent inv.event = some .importCsv) (employeeId : String) :
      Permitted history (.deleteItem employeeId)
  | createUser (hroute : Route.ofEvent inv.event = some .createEmployee) (email name : String) :
      Permitted history (.adminCreateUser email name)
  | addToGroup (hroute : Route.ofEvent inv.event = some .createEmployee) (email groupName : String) :
      Permitted history (.adminAddUserToGroup email groupName)
  | deleteUser (hroute : Route.ofEvent inv.event = some .deleteCognitoUser) (employeeId sub : String) (item : EmployeeItem)
      (hid : inv.pathId = .ok employeeId) (hread : Answered history (.getItem employeeId) (some item))
      (hdeleted : item.isDeleted = true) (hsub : item.cognitoSub = some sub) : Permitted history (.adminDeleteUser sub)
  | unlink (hroute : Route.ofEvent inv.event = some .deleteCognitoUser) (employeeId : String)
      (hid : inv.pathId = .ok employeeId) : Permitted history (.updateItem employeeId (.removeCognitoSub inv.now))
  | anonymize (hroute : Route.ofEvent inv.event = some .anonymizeEmployee) (rows : List ((String × String) × Response))
      (anonymizedId : String) : Permitted history (.transactRewrite rows anonymizedId)

def conduct : Program.Spec Call Result PyError History where
  allowed := Permitted library inv
  advance history c answer := ⟨c, answer⟩ :: history

/-- What an invocation has done that answers with success. -/
def Completed (history : History) : Option Route → Prop
  | some .createEmployee => ∃ name phone role sub,
      Answered history (.putItem (inv.uuid 0) (inv.newItem library 0 name phone role sub)) ()
  | some .deleteEmployee => ∃ employeeId, inv.pathId = .ok employeeId ∧
      history.head? = some ⟨.updateItem employeeId (.delete inv.now), .ok ()⟩
  | some .deleteCognitoUser => ∃ employeeId sub item, inv.pathId = .ok employeeId ∧
      Answered history (.getItem employeeId) (some item) ∧ item.isDeleted = true ∧ item.cognitoSub = some sub
  | _ => True

def Outcome (result : Except PyError HttpResponse) (history : History) : Prop :=
  ∀ response, result = .ok response → response.statusCode < 300 → Completed library inv history (Route.ofEvent inv.event)

variable {library inv} {history : History}

theorem outcome_error (e : PyError) : Outcome library inv (.error e) history := fun _ h => nomatch h

theorem outcome_of_not_success {response : HttpResponse} (h : 300 ≤ response.statusCode) :
    Outcome library inv (.ok response) history := by
  intro response' hsame hsuccess
  cases hsame
  omega

theorem outcome_of_completed {result : Except PyError HttpResponse}
    (h : Completed library inv history (Route.ofEvent inv.event)) : Outcome library inv result history := fun _ _ _ => h

/-! ### The parts of the handlers -/

section

variable {β : Type} {post : Except PyError β → History → Prop}

theorem wp_read {c : Call} {f : Result c → Action β} (hread : c.isRead = true)
    (herror : ∀ e history, post (.error e) history)
    (hok : ∀ r, (f r).wp (conduct library inv) post (⟨c, .ok r⟩ :: history)) :
    (call c >>= f).wp (conduct library inv) post history :=
  Program.wp_perform_bind (.read c hread) (fun e _ => herror e _) fun r _ => hok r

/-- The duplicate check answers, and where it finds nothing the number is cleared. -/
theorem wp_phoneAlreadyRegistered {phone : String} {f : Bool → Action β} (herror : ∀ e history, post (.error e) history)
    (hok : ∀ registered history', history ⊆ history' → (registered = false → Cleared library.crypto phone history') →
      (f registered).wp (conduct library inv) post history') :
    (inv.phoneAlreadyRegistered library phone >>= f).wp (conduct library inv) post history := by
  rw [Invocation.phoneAlreadyRegistered]
  split
  · refine Program.wp_bind.2 (wp_read rfl (fun e _ => herror e _) fun items => ?_)
    refine hok _ _ (List.subset_cons_self _ _) fun hnone => ⟨_, List.mem_cons_self, ?_⟩
    rw [Bool.not_eq_false'] at hnone
    simp [clears, hnone]
  · refine Program.wp_bind.2 (wp_read rfl (fun e _ => herror e _) fun items => ?_)
    refine hok _ _ (List.subset_cons_self _ _) fun hnone => ⟨_, List.mem_cons_self, ?_⟩
    rw [List.any_eq_false] at hnone
    simp only [clears, BEq.rfl, Bool.true_and, List.all_eq_true]
    intro entry hentry
    have hdeleted := hnone entry hentry
    rw [Bool.not_eq_true, Bool.not_eq_false'] at hdeleted
    exact hdeleted

theorem wp_rollbackPhone (hroute : Route.ofEvent inv.event = some .importCsv) (phone : String)
    {post : Except PyError Unit → History → Prop} (hpost : ∀ result history, post result history) :
    (inv.rollbackPhone library phone).wp (conduct library inv) post history := by
  have hdelete : ∀ (entries : List (String × EmployeeItem)) history,
      (Program.forEach (fun entry => call (.deleteItem entry.1)) entries).wp (conduct library inv)
        (fun _ _ => True) history := by
    intro entries history
    refine @Program.wp_forEach _ _ _ _ _ _ _ _ entries (fun _ _ => True) _ trivial (fun entry rest history _ => ?_)
      (fun _ _ => trivial)
    exact Program.wp_perform.2 ⟨.rollback hroute entry.1, fun answer _ => by cases answer <;> trivial⟩
  refine Program.wp_tryCatch.2 (@Program.wp_mono _ _ _ _ _ _ (fun _ _ => True) _ _ ?_ _ ?_)
  · intro result history' _
    cases result with
    | ok _ => exact hpost _ _
    | error e => cases e <;> exact hpost _ _
  · rw [Invocation.findForRollback]
    split
    · exact wp_read rfl (fun _ _ => trivial) fun items => hdelete items _
    · exact wp_read rfl (fun _ _ => trivial) fun items => hdelete items _

theorem wp_rollbackInserted (hroute : Route.ofEvent inv.event = some .importCsv) (phones : List String)
    {post : Except PyError Unit → History → Prop} (hpost : ∀ result history, post result history) :
    (inv.rollbackInserted library phones).wp (conduct library inv) post history := by
  refine @Program.wp_forEach _ _ _ _ _ _ _ _ phones (fun _ _ => True) _ trivial (fun phone rest history _ => ?_)
    (fun _ _ => hpost _ _)
  refine wp_rollbackPhone hroute phone fun result history => ?_
  cases result with
  | ok _ => trivial
  | error e => exact hpost _ _

end

/-! ### The handlers -/

theorem isNumber_of_isValidPhone {phone : Value} (h : isValidPhone phone = true) :
    isNumber (domesticToE164 (phone.asStr?.getD "")) := by
  cases phone with
  | str s =>
    apply domesticToE164_starts
    rw [isValidPhone, isValidE164_str, isValidDomesticJp_str, Bool.or_eq_true] at h
    exact h
  | _ => cases h

theorem isNumber_parseNewEmployee {body : Value} {new : Invocation.NewEmployee}
    (h : Invocation.parseNewEmployee body = .ok new) : isNumber new.phone := by
  obtain ⟨_, -, h⟩ := bind_eq_ok.1 h
  obtain ⟨_, hphone, h⟩ := bind_eq_ok.1 h
  obtain ⟨_, -, h⟩ := bind_eq_ok.1 h
  cases h
  exact isNumber_of_isValidPhone (require_eq_ok.1 hphone)

theorem isNumber_parseUpdate {body : Value} {name phone : String} {new : String × String}
    (h : Invocation.parseUpdate body name phone = .ok new) : isNumber new.2 := by
  obtain ⟨_, -, h⟩ := bind_eq_ok.1 h
  obtain ⟨_, hphone, h⟩ := bind_eq_ok.1 h
  cases h
  exact isNumber_of_isValidPhone (require_eq_ok.1 hphone)

theorem wp_createCognitoAdmin (hroute : Route.ofEvent inv.event = some .createEmployee) (email name : String)
    {post : Except PyError String → History → Prop}
    (hpost : ∀ result history', history ⊆ history' → post result history') :
    (inv.createCognitoAdmin email name).wp (conduct library inv) post history := by
  refine Program.wp_perform_bind (.createUser hroute _ _) (fun e _ => hpost _ _ (List.subset_cons_self _ _)) fun sub _ => ?_
  refine Program.wp_perform_bind (.addToGroup hroute _ _) (fun e _ => hpost _ _ ?_) fun _ _ => hpost _ _ ?_
  · exact List.subset_cons_of_subset _ (List.subset_cons_self _ _)
  · exact List.subset_cons_of_subset _ (List.subset_cons_self _ _)

theorem wp_cognitoSubOf (hroute : Route.ofEvent inv.event = some .createEmployee) {new : Invocation.NewEmployee}
    {post : Except PyError HttpResponse → History → Prop} {f : Option String → Action HttpResponse}
    (herror : ∀ e history, post (.error e) history)
    (hok : ∀ sub history', history ⊆ history' → (f sub).wp (conduct library inv) post history') :
    (inv.cognitoSubOf new >>= f).wp (conduct library inv) post history := by
  refine Program.wp_bind.2 ?_
  rw [Invocation.cognitoSubOf]
  split
  · refine Program.wp_tryCatch.2 (Program.wp_bind.2 (wp_createCognitoAdmin hroute _ _ ?_))
    intro result history' hsubset
    cases result with
    | ok sub => exact hok (some sub) history' hsubset
    | error e =>
      show (Invocation.onCognitoError e).wp _ _ _
      unfold Invocation.onCognitoError
      split
      · exact hok none history' hsubset
      · exact herror _ _
  · exact hok (some "") history (List.Subset.refl _)

theorem wp_createEmployee (hroute : Route.ofEvent inv.event = some .createEmployee) (body : Value) :
    (inv.createEmployee library body).wp (conduct library inv) (Outcome library inv) history := by
  refine Program.wp_ofExcept_bind (fun e _ => outcome_error e) fun new hnew => ?_
  refine wp_phoneAlreadyRegistered (fun e _ => outcome_error e) fun registered history hsubset hcleared => ?_
  cases registered with
  | true => exact outcome_of_not_success (Nat.le_of_ble_eq_true rfl)
  | false =>
    refine wp_cognitoSubOf hroute (fun e _ => outcome_error e) fun sub history' hsubset' => ?_
    cases sub with
    | none => exact outcome_of_not_success (Nat.le_of_ble_eq_true rfl)
    | some sub =>
      refine Program.wp_perform_bind
        (.create hroute _ _ _ _ (isNumber_parseNewEmployee hnew) ((hcleared rfl).mono hsubset')) (fun e _ => outcome_error e) ?_
      intro _ _
      refine outcome_of_completed ?_
      rw [hroute]
      exact ⟨_, _, _, _, List.mem_cons_self⟩

/-- What the handlers do with the row that the path names, where it is active. -/
theorem wp_onActive {handle : String → EmployeeItem → Action HttpResponse}
    (hhandle : ∀ id existing, inv.pathId = .ok id → ¬ existing.isDeleted = true →
      (handle id existing).wp (conduct library inv) (Outcome library inv) (⟨.getItem id, .ok (some existing)⟩ :: history)) :
    (do
      let id ← Program.ofExcept inv.pathId
      match ← call (.getItem id) with
      | none => return notFound id
      | some existing => if existing.isDeleted then return notFound id else handle id existing : Action HttpResponse).wp
        (conduct library inv) (Outcome library inv) history := by
  refine Program.wp_ofExcept_bind (fun e _ => outcome_error e) fun id hid => ?_
  refine wp_read rfl (fun e _ => outcome_error e) fun existing => ?_
  cases existing with
  | none => exact outcome_of_not_success (Nat.le_of_ble_eq_true rfl)
  | some existing =>
    dsimp only
    split
    · exact outcome_of_not_success (Nat.le_of_ble_eq_true rfl)
    · exact hhandle id existing hid ‹_›

theorem wp_updateEmployee (hroute : Route.ofEvent inv.event = some .updateEmployee) (body : Value) :
    (inv.updateEmployee library body).wp (conduct library inv) (Outcome library inv) history := by
  refine wp_onActive fun id existing hid hdeleted => ?_
  refine Program.wp_ofExcept_bind (fun e _ => outcome_error e) fun name _ => ?_
  refine Program.wp_ofExcept_bind (fun e _ => outcome_error e) fun phone hphone => ?_
  refine Program.wp_ofExcept_bind (fun e _ => outcome_error e) fun new hnew => ?_
  have hnumber := isNumber_parseUpdate hnew
  have hwrite : ∀ history', (Cleared library.crypto new.2 history' ∨ Owned library.crypto id new.2 history') →
      (updateItem id (.fields (inv.encrypt library 0 new.1) (inv.encrypt library 1 new.2)
        (inv.blindIndex library new.2) inv.now) >>= fun _ => (pure {
          statusCode := 200
          body := .dict [("employeeId", .str id), ("name", .str new.1), ("phoneNumber", .str new.2)] } :
            Action HttpResponse)).wp (conduct library inv) (Outcome library inv) history' := by
    intro history' hchecked
    refine Program.wp_perform_bind (.update hroute id new.1 new.2 hid hnumber hchecked) (fun e _ => outcome_error e) ?_
    intro _ _
    refine outcome_of_completed ?_
    rw [hroute]
    trivial
  split
  · rename_i hsame
    refine hwrite _ (.inr ⟨_, List.mem_cons_self, ?_⟩)
    have hplain : existing.plainNumber library.crypto = some new.2 := by
      rw [EmployeeItem.plainNumber, FieldCrypto.plaintext, hsame]
      exact congrArg Except.toOption hphone
    simp [owns, hdeleted, hplain]
  · refine wp_phoneAlreadyRegistered (fun e _ => outcome_error e) fun registered history hsubset hcleared => ?_
    cases registered with
    | true => exact outcome_of_not_success (Nat.le_of_ble_eq_true rfl)
    | false => exact hwrite _ (.inl (hcleared rfl))

theorem wp_deleteEmployee (hroute : Route.ofEvent inv.event = some .deleteEmployee) :
    (inv.deleteEmployee library).wp (conduct library inv) (Outcome library inv) history := by
  refine wp_onActive fun id existing hid _ => ?_
  refine Program.wp_perform_bind (.delete hroute id hid) (fun e _ => outcome_error e) fun _ _ => ?_
  refine Program.wp_ofExcept_bind (fun e _ => outcome_error e) fun _ _ => outcome_of_completed ?_
  rw [hroute]
  exact ⟨id, hid, rfl⟩

theorem wp_filterRegistered {β : Type} {post : Except PyError β → History → Prop} (herror : ∀ e history, post (.error e) history)
    (phones : List String) {f : List String → Action β}
    (hok : ∀ duplicates history', history ⊆ history' →
      (duplicates = [] → ∀ phone ∈ phones, Cleared library.crypto phone history') →
        (f duplicates).wp (conduct library inv) post history') :
    (Program.filterList (inv.phoneAlreadyRegistered library) phones >>= f).wp (conduct library inv) post history := by
  induction phones generalizing history f with
  | nil => exact hok [] history (List.Subset.refl _) fun _ _ hphone => (List.not_mem_nil hphone).elim
  | cons phone phones ih =>
    rw [Program.filterList, bind_assoc]
    refine wp_phoneAlreadyRegistered herror fun registered history' hsubset hcleared => ?_
    rw [bind_assoc]
    refine ih fun duplicates history'' hsubset' hothers => ?_
    refine hok _ history'' (List.Subset.trans hsubset hsubset') fun hnone => ?_
    cases registered with
    | true => cases hnone
    | false => exact List.forall_mem_cons.2 ⟨(hcleared rfl).mono hsubset', hothers hnone⟩

/-- The numbers of a batch are different from each other, and cleared. -/
def GoodBatch (library : Library) (history : History) (batch : List (EmployeeRow × Nat)) : Prop :=
  (batch.map fun row => row.1.phoneNumber).Nodup ∧
    ∀ row ∈ batch, isNumber row.1.phoneNumber ∧ Cleared library.crypto row.1.phoneNumber history

theorem GoodBatch.mono {batch : List (EmployeeRow × Nat)} {history' : History} (h : GoodBatch library history batch)
    (hsubset : history ⊆ history') : GoodBatch library history' batch :=
  ⟨h.1, fun row hrow => ⟨(h.2 row hrow).1, (h.2 row hrow).2.mono hsubset⟩⟩

theorem wp_insertBatches (hroute : Route.ofEvent inv.event = some .importCsv) (attempted : Nat)
    (rest : List (List (EmployeeRow × Nat))) (inserted : List String) (hrest : ∀ batch ∈ rest, GoodBatch library history batch) :
    (inv.insertBatches library attempted rest inserted).wp (conduct library inv) (Outcome library inv) history := by
  induction rest generalizing history inserted with
  | nil =>
    refine outcome_of_completed ?_
    rw [hroute]
    trivial
  | cons batch rest ih =>
    obtain ⟨hbatch, hrest⟩ := List.forall_mem_cons.1 hrest
    refine ⟨.insert hroute batch hbatch.1 hbatch.2, fun answer _ => ?_⟩
    cases answer with
    | ok _ => exact ih _ fun batch' hmem => (hrest batch' hmem).mono (List.subset_cons_self _ _)
    | error e =>
      cases e with
      | clientError code =>
        refine Program.wp_bind.2 (wp_rollbackInserted hroute inserted fun result history' => ?_)
        cases result with
        | ok _ => exact outcome_of_not_success (Nat.le_of_ble_eq_true rfl)
        | error e => exact outcome_error e
      | _ => exact outcome_error _

theorem sublist_of_mem_batches {α : Type} {n : Nat} {xs batch : List α} (h : batch ∈ batches n xs) : batch.Sublist xs := by
  obtain ⟨i, -, rfl⟩ := List.mem_map.1 h
  exact (List.take_sublist _ _).trans (List.drop_sublist _ _)

theorem flatten_batches {α : Type} {n : Nat} (hn : 0 < n) (xs : List α) : (batches n xs).flatten = xs := by
  have htake : ∀ m, ((List.range m).map fun i => (xs.drop (n * i)).take n).flatten = xs.take (n * m) := by
    intro m
    induction m with
    | zero => simp
    | succ m ih =>
      rw [List.range_succ, List.map_append, List.flatten_append, ih, Nat.mul_succ, List.take_add]
      simp
  have hlength : xs.length ≤ n * ((xs.length + n - 1) / n) := by
    have hmod := Nat.div_add_mod (xs.length + n - 1) n
    have hlt := Nat.mod_lt (xs.length + n - 1) hn
    omega
  rw [batches, htake, List.take_of_length_le hlength]

theorem wp_importRows (hroute : Route.ofEvent inv.event = some .importCsv) {rows : List EmployeeRow} (hrows : GoodRows rows) :
    (inv.importRows library rows).wp (conduct library inv) (Outcome library inv) history := by
  refine wp_filterRegistered (fun e _ => outcome_error e) _ fun duplicates history' _ hcleared => ?_
  split
  · exact outcome_of_not_success (Nat.le_of_ble_eq_true rfl)
  · rename_i hnone
    have hcleared := hcleared (not_not.1 hnone)
    refine wp_insertBatches hroute _ _ _ fun batch hbatch => ?_
    have hsublist := sublist_of_mem_batches hbatch
    constructor
    · refine List.Nodup.sublist (hsublist.map _) ?_
      rw [show rows.zipIdx.map (fun row => row.1.phoneNumber) = (rows.zipIdx.map Prod.fst).map EmployeeRow.phoneNumber by
        rw [List.map_map]; rfl, List.zipIdx_map_fst]
      exact hrows.1
    · intro row hrow
      have hmem : row.1 ∈ rows := by
        rw [← List.zipIdx_map_fst 0 rows]
        exact List.mem_map_of_mem (hsublist.subset hrow)
      exact ⟨hrows.2 row.1 hmem, hcleared _ (List.mem_map_of_mem hmem)⟩

theorem wp_importCsv (hroute : Route.ofEvent inv.event = some .importCsv) (body : Value) :
    (inv.importCsv library body).wp (conduct library inv) (Outcome library inv) history := by
  rw [Invocation.importCsv]
  split
  · exact outcome_error _
  · exact outcome_error _
  · split
    · exact outcome_of_not_success (Nat.le_of_ble_eq_true rfl)
    · dsimp only
      split
      · exact outcome_of_not_success (Nat.le_of_ble_eq_true rfl)
      · exact wp_importRows hroute (goodRows_parseEmployeeCsv _)

theorem wp_deleteCognitoUser (hroute : Route.ofEvent inv.event = some .deleteCognitoUser) :
    inv.deleteCognitoUser.wp (conduct library inv) (Outcome library inv) history := by
  refine Program.wp_ofExcept_bind (fun e _ => outcome_error e) fun claims _ => ?_
  split
  · exact outcome_of_not_success (Nat.le_of_ble_eq_true rfl)
  · refine Program.wp_ofExcept_bind (fun e _ => outcome_error e) fun id hid => ?_
    refine wp_read rfl (fun e _ => outcome_error e) fun existing => ?_
    cases existing with
    | none => exact outcome_of_not_success (Nat.le_of_ble_eq_true rfl)
    | some existing =>
      show (if (!existing.isDeleted) = true then _ else _ : Action HttpResponse).wp _ _ _
      split
      · exact outcome_of_not_success (Nat.le_of_ble_eq_true rfl)
      · rename_i hdeleted
        rw [Bool.not_eq_true, Bool.not_eq_false'] at hdeleted
        split
        · exact outcome_of_not_success (Nat.le_of_ble_eq_true rfl)
        · exact outcome_of_not_success (Nat.le_of_ble_eq_true rfl)
        · rename_i sub _ hsub
          have hread : Answered (⟨.getItem id, .ok (some existing)⟩ :: history) (.getItem id) (some existing) :=
            List.mem_cons_self
          have hlast : ∀ history', Answered history' (.getItem id) (some existing) →
              (updateItem id (.removeCognitoSub inv.now) >>= fun _ => (pure (HttpResponse.mk 200 (.dict
                [("employeeId", .str id), ("cognitoUserDeleted", .bool true)])) : Action HttpResponse)).wp
                  (conduct library inv) (Outcome library inv) history' := by
            intro history' hread'
            refine Program.wp_perform_bind (.unlink hroute id hid) (fun e _ => outcome_error e) fun _ _ => ?_
            refine outcome_of_completed ?_
            rw [hroute]
            exact ⟨id, sub, existing, hid, List.mem_cons_of_mem _ hread', hdeleted, hsub⟩
          refine Program.wp_bind.2 (Program.wp_tryCatch.2 (Program.wp_perform.2
            ⟨.deleteUser hroute id sub existing hid hread hdeleted hsub, fun answer _ => ?_⟩))
          cases answer with
          | ok _ => exact hlast _ (List.mem_cons_of_mem _ hread)
          | error e =>
            dsimp only
            split
            · exact hlast _ (List.mem_cons_of_mem _ hread)
            · exact outcome_error _

theorem wp_listEmployees (hroute : Route.ofEvent inv.event = some .listEmployees) :
    (inv.listEmployees library).wp (conduct library inv) (Outcome library inv) history := by
  refine Program.wp_ofExcept_bind (fun e _ => outcome_error e) fun includeDeleted _ => ?_
  refine wp_read rfl (fun e _ => outcome_error e) fun items => ?_
  refine Program.wp_ofExcept_bind (fun e _ => outcome_error e) fun entries _ => outcome_of_completed ?_
  rw [hroute]
  trivial

theorem wp_getEmployeeById (hroute : Route.ofEvent inv.event = some .getEmployeeById) :
    (inv.getEmployeeById library).wp (conduct library inv) (Outcome library inv) history := by
  refine Program.wp_ofExcept_bind (fun e _ => outcome_error e) fun id _ => ?_
  refine wp_read rfl (fun e _ => outcome_error e) fun item => ?_
  cases item with
  | none => exact outcome_of_not_success (Nat.le_of_ble_eq_true rfl)
  | some item =>
    show (if item.isDeleted = true then _ else _ : Action HttpResponse).wp _ _ _
    split
    · exact outcome_of_not_success (Nat.le_of_ble_eq_true rfl)
    · refine Program.wp_ofExcept_bind (fun e _ => outcome_error e) fun name _ => ?_
      refine Program.wp_ofExcept_bind (fun e _ => outcome_error e) fun phoneNumber _ => outcome_of_completed ?_
      rw [hroute]
      trivial

theorem wp_responsesOf {β : Type} {post : Except PyError β → History → Prop} (herror : ∀ e history, post (.error e) history)
    (employeeId : String) (cycleIds : List String) {f : List ((String × String) × Response) → Action β}
    (hok : ∀ rows history, (f rows).wp (conduct library inv) post history) :
    (Invocation.responsesOf employeeId cycleIds >>= f).wp (conduct library inv) post history := by
  induction cycleIds generalizing history f with
  | nil => exact hok [] history
  | cons cycleId rest ih =>
    rw [Invocation.responsesOf, bind_assoc]
    refine wp_read rfl herror fun rows => ?_
    rw [bind_assoc]
    exact ih fun others history => hok _ history

theorem wp_anonymizeEmployee (hroute : Route.ofEvent inv.event = some .anonymizeEmployee) :
    (inv.anonymizeEmployee library).wp (conduct library inv) (Outcome library inv) history := by
  have hdone : ∀ {result history'}, Outcome library inv result history' := by
    intro result history'
    refine outcome_of_completed ?_
    rw [hroute]
    trivial
  rw [Invocation.anonymizeEmployee]
  split
  · exact hdone
  · refine Program.wp_ofExcept_bind (fun e _ => hdone) fun claims _ => ?_
    split
    · exact hdone
    · refine Program.wp_ofExcept_bind (fun e _ => hdone) fun id _ => ?_
      refine wp_read rfl (fun e _ => hdone) fun existing => ?_
      cases existing with
      | none => exact hdone
      | some existing =>
        show (if (!existing.isDeleted) = true then _ else _ : Action HttpResponse).wp _ _ _
        split
        · exact hdone
        · refine wp_read rfl (fun e _ => hdone) fun cycleIds => ?_
          refine wp_responsesOf (fun e _ => hdone) id cycleIds fun rows history' => Program.wp_bind.2 ?_
          refine @Program.wp_forEach _ _ _ _ _ _ _ _ _ (fun _ _ => True) _ trivial (fun chunk rest history'' _ => ?_)
            (fun _ _ => hdone)
          refine Program.wp_perform.2 ⟨.anonymize hroute _ _, fun answer _ => ?_⟩
          cases answer with
          | ok _ => trivial
          | error e => exact hdone

theorem wp_onError (e : PyError) : (Invocation.onError e).wp (conduct library inv) (Outcome library inv) history := by
  unfold Invocation.onError
  split
  · exact outcome_of_not_success (Nat.le_of_ble_eq_true rfl)
  · split
    · exact outcome_of_not_success (Nat.le_of_ble_eq_true rfl)
    · exact outcome_error _
  · exact outcome_error _

/-- Every invocation keeps to the conduct, from its first call to its answer. -/
theorem wp_lambdaHandler (library : Library) (inv : Invocation) :
    (inv.lambdaHandler library).wp (conduct library inv) (Outcome library inv) [] := by
  refine Program.wp_ofExcept_bind (fun e _ => outcome_error e) fun _ _ => Program.wp_tryCatch.2 ?_
  refine @Program.wp_mono _ _ _ _ _ _ (Outcome library inv) _ _ ?_ _ ?_
  · intro result history houtcome
    cases result with
    | ok response => exact houtcome
    | error e => exact wp_onError e
  · have hbody : ∀ {handler : Value → Action HttpResponse},
        (∀ body, (handler body).wp (conduct library inv) (Outcome library inv) []) →
        (inv.parsedBody >>= handler).wp (conduct library inv) (Outcome library inv) [] :=
      fun hhandler => Program.wp_ofExcept_bind (fun e _ => outcome_error e) fun body _ => hhandler body
    cases hroute : Route.ofEvent inv.event with
    | none => exact outcome_of_not_success (Nat.le_of_ble_eq_true rfl)
    | some route =>
      cases route with
      | createEmployee => exact hbody (wp_createEmployee hroute)
      | listEmployees => exact wp_listEmployees hroute
      | getEmployeeById => exact wp_getEmployeeById hroute
      | updateEmployee => exact hbody (wp_updateEmployee hroute)
      | deleteEmployee => exact wp_deleteEmployee hroute
      | importCsv => exact hbody (wp_importCsv hroute)
      | anonymizeEmployee => exact wp_anonymizeEmployee hroute
      | deleteCognitoUser => exact wp_deleteCognitoUser hroute

end EmployeeApi

end SafetyConfirmation
