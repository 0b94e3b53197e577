import SafetyConfirmation.Employee.E164
import SafetyConfirmation.Employee.ImportReport
import SafetyConfirmation.Employee.ImportRollback

/-!
# The numbers that requests store

Creations, updates and imports check a number, turn it into E.164 and store it. Whatever other requests there are, what
they store is in the grammar as long as no request brings a number in the digits of another script.
-/

namespace SafetyConfirmation

namespace EmployeeApi

open KeyedStore StepMachine Interleaving Employee EmployeeCsv Checks

/-- The numbers that a request brings, in its body or its file, are none that the checks should not have accepted. -/
structure PlainNumbers (library : Library) (inv : Invocation) : Prop where
  field : Route.ofEvent inv.event = some .createEmployee ∨ Route.ofEvent inv.event = some .updateEmployee →
    ∀ body phone, parseBody inv.event.body = .ok body → body.get? "phoneNumber" = some (.str phone) → ¬ IsForeign phone
  cells : Route.ofEvent inv.event = some .importCsv →
    ∀ body raw file text, parseBody inv.event.body = .ok body → (body.get? "csvBase64").bind Value.asStr? = some raw →
      library.decodeCsv raw = .ok file → file.text = some text →
        ∀ nameCell phoneCell, [nameCell, phoneCell] ∈ text.records → ¬ IsForeign (stripped phoneCell)

/-- The numbers that a call writes, as they are stored. -/
def Call.numbers : Call → List String
  | .putItem _ item => [item.phoneNumber.getD ""]
  | .transactPut items => items.map fun entry => entry.2.phoneNumber.getD ""
  | .updateItem _ (.fields _ phoneNumber _ _) => [phoneNumber]
  | _ => []

def StoresE164 (crypto : FieldCrypto) (stored : String) : Prop := ∃ phone, crypto.plaintext stored = some phone ∧ IsE164 phone

/-- A row without a number, or with one in the grammar. -/
def RowInGrammar (crypto : FieldCrypto) (item : EmployeeItem) : Prop :=
  item.phoneNumber.getD "" = "" ∨ StoresE164 crypto (item.phoneNumber.getD "")

/-- All the numbers that were written and that are in the table are in the grammar. -/
structure NumbersInGrammar (crypto : FieldCrypto) (p : Requests) : Prop where
  written : ∀ entry ∈ p.log, ∀ stored ∈ entry.call.numbers, StoresE164 crypto stored
  rows : ∀ employeeId item, p.world.employees.lookup employeeId = some item → RowInGrammar crypto item

/-- What a request writes, where what it reads is in the grammar. -/
def grammar (library : Library) (inv : Invocation) : Program.Spec Call Result PyError Unit where
  allowed _ c := PlainNumbers library inv → ∀ stored ∈ c.numbers, StoresE164 library.crypto stored
  possible _ c answer := match c, answer with
    | .getItem _, .ok (some item) => RowInGrammar library.crypto item
    | _, _ => True
  advance _ _ _ := ()

variable {library : Library} {inv : Invocation}

/-! ### The numbers of a request -/

theorem storesE164_encrypt (hlawful : library.crypto.Lawful) (n : Nat) {phone : String} (h : IsE164 phone) :
    StoresE164 library.crypto (inv.encrypt library n phone) := by
  refine ⟨phone, FieldCrypto.plaintext_encrypt hlawful _ _ ?_, h⟩
  obtain ⟨digits, heq, -⟩ := h
  rw [heq]
  rfl

theorem isE164_of_isValidPhone {phone : Value} (hplain : ∀ s, phone = .str s → ¬ IsForeign s)
    (h : isValidPhone phone = true) : IsE164 (domesticToE164 (phone.asStr?.getD "")) := by
  cases phone with
  | str s => exact isE164_domesticToE164 ((checksGrammar_iff s).2 (hplain s rfl)) h
  | _ => cases h

theorem isE164_parseNewEmployee {body : Value} {new : Invocation.NewEmployee}
    (hplain : ∀ phone, body.get? "phoneNumber" = some (.str phone) → ¬ IsForeign phone)
    (h : Invocation.parseNewEmployee body = .ok new) : IsE164 new.phone := by
  obtain ⟨_, -, h⟩ := bind_eq_ok.1 h
  obtain ⟨_, hphone, h⟩ := bind_eq_ok.1 h
  obtain ⟨_, -, h⟩ := bind_eq_ok.1 h
  cases h
  refine isE164_of_isValidPhone (fun s hs => hplain s ?_) (require_eq_ok.1 hphone)
  cases hfield : body.get? "phoneNumber" with
  | none =>
    rw [hfield] at hs
    cases hs
  | some value =>
    rw [hfield] at hs
    exact congrArg some hs

theorem isE164_parseUpdate {body : Value} {name phone : String} {new : String × String}
    (hplain : ∀ phone, body.get? "phoneNumber" = some (.str phone) → ¬ IsForeign phone) (hrow : ¬ IsForeign phone)
    (h : Invocation.parseUpdate body name phone = .ok new) : IsE164 new.2 := by
  obtain ⟨_, -, h⟩ := bind_eq_ok.1 h
  obtain ⟨_, hphone, h⟩ := bind_eq_ok.1 h
  cases h
  refine isE164_of_isValidPhone (fun s hs => ?_) (require_eq_ok.1 hphone)
  cases hfield : body.get? "phoneNumber" with
  | none =>
    rw [hfield] at hs
    cases hs
    exact hrow
  | some value =>
    rw [hfield] at hs
    exact hplain s (hfield.trans (congrArg some hs))

theorem not_isForeign_of_isE164 {phone : String} (h : IsE164 phone) : ¬ IsForeign phone := by
  obtain ⟨digits, heq, -, hdigits⟩ := h
  rintro (⟨digits', tail, heq', -, -, -, hforeign⟩ | ⟨digits', tail, heq', -⟩)
  · rw [heq, List.cons.injEq] at heq'
    rw [heq'.2] at hdigits
    obtain ⟨c, hc, hother⟩ | rfl := hforeign
    · rw [hdigits c (List.mem_append_left _ hc)] at hother
      cases hother
    · exact absurd (hdigits '\n' (by simp)) (by decide)
  · rw [heq, List.cons.injEq] at heq'
    exact absurd heq'.1 (by decide)

theorem not_isForeign_empty : ¬ IsForeign "" := by
  rintro (⟨digits, tail, heq, -⟩ | ⟨digits, tail, heq, -⟩) <;> cases heq

/-- The number of a row in the grammar is one that an update may keep. -/
theorem RowInGrammar.not_isForeign {item : EmployeeItem} (h : RowInGrammar library.crypto item) {phone : String}
    (hphone : Invocation.decrypted library item.phoneNumber = .ok phone) : ¬ IsForeign phone := by
  obtain hempty | ⟨number, hplain, hnumber⟩ := h
  · rw [Invocation.decrypted, hempty] at hphone
    cases hphone
    exact not_isForeign_empty
  · have hsame := FieldCrypto.plaintext_eq_some.2 hphone
    rw [hplain] at hsame
    cases hsame
    exact not_isForeign_of_isE164 hnumber

theorem isE164_of_rowOf {cells : List String} {row : EmployeeRow} (h : rowOf? cells = some row)
    (hplain : ∀ nameCell phoneCell, cells = [nameCell, phoneCell] → ¬ IsForeign (stripped phoneCell)) :
    IsE164 row.phoneNumber := by
  unfold rowOf? at h
  split at h
  · rename_i nameCell phoneCell
    split at h
    · rename_i hvalid
      have hphone : isValidPhone (.str (stripped phoneCell)) = true := by
        rw [isValidPhone, (Bool.and_eq_true_iff.1 hvalid).2, Bool.or_true]
      have hgrammar : ChecksGrammar (stripped phoneCell) := (checksGrammar_iff _).2 (hplain nameCell phoneCell rfl)
      have hnumber := congrArg EmployeeRow.phoneNumber (Option.some.inj h)
      dsimp only at hnumber
      rw [← hnumber]
      exact isE164_domesticToE164 hgrammar hphone
    · cases h
  · cases h

/-- The rows of a file without such numbers. -/
theorem isE164_of_mem_rows {file : File} {row : EmployeeRow} (hrow : row ∈ (parseEmployeeCsv file).rows)
    (hplain : ∀ text, file.text = some text → ∀ nameCell phoneCell, [nameCell, phoneCell] ∈ text.records →
      ¬ IsForeign (stripped phoneCell)) : IsE164 row.phoneNumber := by
  obtain ⟨text, cells, htext, hcells, hrowOf⟩ := exists_record_of_mem hrow
  exact isE164_of_rowOf hrowOf fun nameCell phoneCell heq => hplain text htext nameCell phoneCell (heq ▸ hcells)

/-! ### The handlers -/

theorem allowed_of_read {c : Call} (hread : c.isRead = true) (t : Unit) : (grammar library inv).allowed t c := by
  intro _ stored hstored
  cases c <;> first | exact (List.not_mem_nil hstored).elim | cases hread

theorem abides_read {c : Call} (hread : c.isRead = true) : (call c).Abides (grammar library inv) :=
  Program.abides_perform (allowed_of_read hread)

theorem abides_phoneAlreadyRegistered (phone : String) :
    (inv.phoneAlreadyRegistered library phone).Abides (grammar library inv) := by
  rw [Invocation.phoneAlreadyRegistered]
  split
  · exact (abides_read rfl).bind fun items => Program.abides_return _
  · exact (abides_read rfl).bind fun items => Program.abides_return _

theorem abides_rollbackInserted (phones : List String) :
    (inv.rollbackInserted library phones).Abides (grammar library inv) := by
  refine Program.abides_forEach fun phone _ => Program.Abides.tryCatch (Program.Abides.bind ?_ fun items => ?_) fun e => ?_
  · rw [Invocation.findForRollback]
    split <;> exact abides_read rfl
  · exact Program.abides_forEach fun entry _ =>
      Program.abides_perform fun _ _ stored hstored => (List.not_mem_nil hstored).elim
  · unfold Invocation.onRollbackError
    split
    · exact Program.abides_return ()
    · exact Program.abides_throw _

theorem abides_cognitoSubOf (new : Invocation.NewEmployee) : (inv.cognitoSubOf new).Abides (grammar library inv) := by
  have hother : ∀ (c : Call), c.numbers = [] → ∀ t, (grammar library inv).allowed t c := by
    intro c hnone t _ stored hstored
    rw [hnone] at hstored
    exact (List.not_mem_nil hstored).elim
  rw [Invocation.cognitoSubOf]
  split
  · refine Program.Abides.tryCatch (Program.Abides.bind ?_ fun sub => Program.abides_return _) fun e => ?_
    · exact (Program.abides_perform (hother _ rfl)).bind fun sub =>
        (Program.abides_perform (hother _ rfl)).bind fun _ => Program.abides_return sub
    · unfold Invocation.onCognitoError
      split
      · exact Program.abides_return none
      · exact Program.abides_throw _
  · exact Program.abides_return _

theorem abides_createEmployee (hlawful : library.crypto.Lawful) (hroute : Route.ofEvent inv.event = some .createEmployee)
    {body : Value} (hbody : parseBody inv.event.body = .ok body) :
    (inv.createEmployee library body).Abides (grammar library inv) := by
  refine Program.abides_ofExcept_bind fun new hnew => ?_
  refine (abides_phoneAlreadyRegistered new.phone).bind fun registered => ?_
  split
  · exact Program.abides_return _
  · refine (abides_cognitoSubOf new).bind fun sub => ?_
    split
    · exact Program.abides_return _
    · refine Program.abides_perform_bind (fun _ hplain stored hstored => ?_) fun _ _ _ => Program.abides_return _
      rw [List.mem_singleton.1 hstored]
      exact storesE164_encrypt hlawful 1 (isE164_parseNewEmployee (hplain.field (.inl hroute) body · hbody) hnew)

theorem abides_updateEmployee (hlawful : library.crypto.Lawful) (hroute : Route.ofEvent inv.event = some .updateEmployee)
    {body : Value} (hbody : parseBody inv.event.body = .ok body) :
    (inv.updateEmployee library body).Abides (grammar library inv) := by
  refine Program.abides_ofExcept_bind fun id _ => ?_
  refine Program.abides_perform_bind (allowed_of_read rfl) fun _ existing hrow => ?_
  cases existing with
  | none => exact Program.abides_return _
  | some existing =>
    show (if existing.isDeleted = true then _ else _ : Action HttpResponse).Abides _
    split
    · exact Program.abides_return _
    · refine Program.abides_ofExcept_bind fun name _ => Program.abides_ofExcept_bind fun phone hphone => ?_
      refine Program.abides_ofExcept_bind fun new hnew => ?_
      have hwrite : (updateItem id (.fields (inv.encrypt library 0 new.1) (inv.encrypt library 1 new.2)
          (inv.blindIndex library new.2) inv.now) >>= fun _ => (pure {
            statusCode := 200
            body := .dict [("employeeId", .str id), ("name", .str new.1), ("phoneNumber", .str new.2)] } :
              Action HttpResponse)).Abides (grammar library inv) := by
        refine Program.abides_perform_bind (fun _ hplain stored hstored => ?_) fun _ _ _ => Program.abides_return _
        rw [List.mem_singleton.1 hstored]
        exact storesE164_encrypt hlawful 1
          (isE164_parseUpdate (hplain.field (.inr hroute) body · hbody) (hrow.not_isForeign hphone) hnew)
      split
      · exact hwrite
      · refine (abides_phoneAlreadyRegistered new.2).bind fun registered => ?_
        cases registered with
        | true => exact Program.abides_return _
        | false => exact hwrite

theorem abides_insertBatches (hlawful : library.crypto.Lawful) (attempted : Nat) (rest : List (List (EmployeeRow × Nat)))
    (hrows : PlainNumbers library inv → ∀ batch ∈ rest, ∀ row ∈ batch, IsE164 row.1.phoneNumber) (inserted : List String) :
    (inv.insertBatches library attempted rest inserted).Abides (grammar library inv) := by
  induction rest generalizing inserted with
  | nil => exact Program.abides_return _
  | cons batch rest ih =>
    refine fun _ => ⟨fun hplain stored hstored => ?_, fun answer _ => ?_⟩
    · obtain ⟨entry, hentry, rfl⟩ := List.mem_map.1 hstored
      obtain ⟨row, hrow, rfl⟩ := List.mem_map.1 hentry
      exact storesE164_encrypt hlawful _ (hrows hplain batch List.mem_cons_self row hrow)
    · have hrest := ih fun hplain batch' hmem => hrows hplain batch' (List.mem_cons_of_mem _ hmem)
      cases answer with
      | ok _ => exact hrest _ _
      | error e =>
        cases e with
        | clientError code => exact (abides_rollbackInserted inserted).bind (fun _ => Program.abides_return _) _
        | _ => trivial

theorem abides_importCsv (hlawful : library.crypto.Lawful) (hroute : Route.ofEvent inv.event = some .importCsv)
    {body : Value} (hbody : parseBody inv.event.body = .ok body) :
    (inv.importCsv library body).Abides (grammar library inv) := by
  rw [Invocation.importCsv]
  split
  · exact Program.abides_throw _
  · exact Program.abides_throw _
  · rename_i raw _ hraw
    split
    · exact Program.abides_return _
    · rename_i file hfile
      dsimp only
      split
      · exact Program.abides_return _
      · refine (Program.abides_filterList abides_phoneAlreadyRegistered _).bind fun duplicates => ?_
        split
        · exact Program.abides_return _
        · refine abides_insertBatches hlawful _ _ (fun hplain batch hbatch row hrow => ?_) _
          have hmem : row.1 ∈ (parseEmployeeCsv file).rows := by
            rw [← List.zipIdx_map_fst 0 (parseEmployeeCsv file).rows]
            exact List.mem_map_of_mem ((sublist_of_mem_batches hbatch).subset hrow)
          exact isE164_of_mem_rows hmem fun text => hplain.cells hroute body raw file text hbody hraw hfile

/-- Requests of the other routes write no number. -/
theorem abides_other (hroute : ∀ route ∈ Route.ofEvent inv.event, route ≠ .createEmployee ∧ route ≠ .updateEmployee ∧
    route ≠ .importCsv) : (inv.lambdaHandler library).Abides (grammar library inv) := by
  refine Program.abides_of_wp (fun _ _ _ => trivial) (fun history c _ hpermitted => ?_) (wp_lambdaHandler library inv)
  cases hpermitted with
  | read c hread => exact allowed_of_read hread ()
  | create hof => exact absurd rfl (hroute _ hof).1
  | update hof => exact absurd rfl (hroute _ hof).2.1
  | insert hof => exact absurd rfl (hroute _ hof).2.2
  | _ => exact fun _ stored hstored => (List.not_mem_nil hstored).elim

theorem abides_lambdaHandler (hlawful : library.crypto.Lawful) (inv : Invocation) :
    (inv.lambdaHandler library).Abides (grammar library inv) := by
  have hhandle : ∀ {program : Action HttpResponse}, program.Abides (grammar library inv) →
      inv.handle library (Route.ofEvent inv.event) = program →
        (inv.lambdaHandler library).Abides (grammar library inv) := by
    intro program hprogram hsame
    refine Program.abides_ofExcept_bind fun _ _ => Program.Abides.tryCatch (hsame ▸ hprogram) fun e => ?_
    unfold Invocation.onError
    split
    · exact Program.abides_return _
    · split
      · exact Program.abides_return _
      · exact Program.abides_throw _
    · exact Program.abides_throw _
  cases hroute : Route.ofEvent inv.event with
  | none => exact abides_other (by simp [hroute])
  | some route =>
    rw [hroute] at hhandle
    cases route with
    | createEmployee => exact hhandle (Program.abides_ofExcept_bind fun body => abides_createEmployee hlawful hroute) rfl
    | updateEmployee => exact hhandle (Program.abides_ofExcept_bind fun body => abides_updateEmployee hlawful hroute) rfl
    | importCsv => exact hhandle (Program.abides_ofExcept_bind fun body => abides_importCsv hlawful hroute) rfl
    | _ => exact abides_other (by simp [hroute])

/-! ### The runs -/

/-- The threads are of requests that bring no other numbers, and follow what such requests write. -/
structure Plain (library : Library) (p : Requests) : Prop where
  requests : ∀ thread ∈ p.threads, PlainNumbers library thread.request
  follows : Follows (grammar library) (fun _ => ()) (fun _ _ _ => True) p
  numbers : NumbersInGrammar library.crypto p

theorem possible_respond {w : World} (hrows : ∀ employeeId item, w.employees.lookup employeeId = some item →
    RowInGrammar library.crypto item) (environment : Environment) (c : Call) :
    (grammar library inv).possible () c (respond w environment c).1 := by
  cases c with
  | getItem employeeId =>
    rw [respond]
    cases environment.fault with
    | some fault => trivial
    | none =>
      show (grammar library inv).possible () (.getItem employeeId) (.ok (w.employees.lookup employeeId))
      cases hrow : w.employees.lookup employeeId with
      | none => trivial
      | some item => exact hrows employeeId item hrow
  | _ => trivial

/-- A call that writes numbers in the grammar leaves rows with such numbers. -/
theorem rowInGrammar_respond {crypto : FieldCrypto} {w : World} {environment : Environment} {c : Call}
    (hallowed : ∀ stored ∈ c.numbers, StoresE164 crypto stored)
    (hrows : ∀ employeeId item, w.employees.lookup employeeId = some item → RowInGrammar crypto item) {employeeId : String}
    {item : EmployeeItem} (hrow : (respond w environment c).2.employees.lookup employeeId = some item) :
    RowInGrammar crypto item := by
  obtain ⟨-, hput | ⟨update, rfl, rfl⟩⟩ | hold := lookup_respond_eq_some hrow
  · refine .inr (hallowed _ ?_)
    cases c with
    | putItem id item' =>
      cases List.mem_singleton.1 hput
      exact List.mem_singleton_self _
    | transactPut items => exact List.mem_map_of_mem hput
    | _ => exact (List.not_mem_nil hput).elim
  · cases update with
    | fields => exact .inr (hallowed _ (List.mem_singleton_self _))
    | delete => exact .inl rfl
    | removeCognitoSub =>
      cases hlookup : w.employees.lookup employeeId with
      | none => exact .inl rfl
      | some old => exact hrows employeeId old hlookup
  · exact hrows employeeId item hold

theorem plain_step (hlawful : library.crypto.Lawful) {p t : Requests} {label : RequestLabel} (hp : Plain library p)
    (hlabel : ∀ request, label = .start request → PlainNumbers library request)
    (h : step (service library) p label = some t) : Plain library t := by
  have hfollows : Follows (grammar library) (fun _ => ()) (fun _ _ _ => True) t :=
    follows_step hp.follows (fun request => abides_lambdaHandler hlawful request ())
      (fun i environment request c next _ _ => possible_respond hp.numbers.rows environment c) h
  cases step_cases h with
  | start request hadmits =>
    refine ⟨fun thread hmem => ?_, hfollows, hp.numbers.written, hp.numbers.rows⟩
    rcases List.mem_append.1 hmem with hold | hnew
    · exact hp.requests thread hold
    · rw [List.mem_singleton.1 hnew]
      exact hlabel request rfl
  | call i environment request c next hthread =>
    have hrequest := hp.requests _ (List.mem_of_getElem? hthread)
    have hallowed := hp.follows.allowed hthread hrequest
    refine ⟨fun thread hmem => ?_, hfollows, fun entry hentry => ?_, fun employeeId item hrow => ?_⟩
    · rcases List.mem_or_eq_of_mem_set hmem with hold | rfl
      · exact hp.requests thread hold
      · exact hrequest
    · rcases List.mem_cons.1 hentry with rfl | hold
      · exact hallowed
      · exact hp.numbers.written entry hold
    · exact rowInGrammar_respond hallowed hp.numbers.rows hrow

theorem plain_run (hlawful : library.crypto.Lawful) {start : World} (hempty : start.employees = ∅)
    {labels : List RequestLabel} {t : Requests} (hplain : ∀ request, .start request ∈ labels → PlainNumbers library request)
    (hrun : exec (step (service library)) { world := start } labels = some t) : Plain library t := by
  have hguard : ∀ (labels : List RequestLabel) p, (∀ request, .start request ∈ labels → PlainNumbers library request) →
      Guarded (step (service library)) (fun _ label => ∀ request, label = .start request → PlainNumbers library request)
        p labels := by
    intro labels
    induction labels with
    | nil => exact fun _ _ => trivial
    | cons label labels ih =>
      intro p hall
      refine ⟨fun request hlabel => hall request (hlabel ▸ List.mem_cons_self), fun t _ => ih t fun request hmem => ?_⟩
      exact hall request (List.mem_cons_of_mem _ hmem)
  refine invariant_of_guarded (fun p label t hp hlabel h => plain_step hlawful hp hlabel h) ?_ (hguard labels _ hplain) hrun
  refine ⟨fun _ h => (List.not_mem_nil h).elim, follows_start start, ⟨fun _ h => (List.not_mem_nil h).elim, ?_⟩⟩
  intro employeeId item hrow
  rw [show ({ world := start } : Requests).world.employees = ∅ from hempty] at hrow
  cases hrow

/-- The checks keep to the grammars, and the stored numbers to the numbers that were meant, exactly on the texts that are
not in foreign digits or before a line break; and where requests bring no such text, all that is stored is in E.164. -/
theorem numbersInGrammar_iff (library : Library) (hlawful : library.crypto.Lawful) :
    (∀ s t, ChecksNumbers s t ↔ ¬ IsForeign s ∧ ¬ IsForeign t) ∧
    ∀ start : World, start.employees = ∅ → ∀ (labels : List RequestLabel) (p : Requests),
      exec (step (service library)) { world := start } labels = some p →
        (∀ request, .start request ∈ labels → PlainNumbers library request) → NumbersInGrammar library.crypto p :=
  ⟨checksNumbers_iff, fun _ hempty _ _ hrun hplain => (plain_run hlawful hempty hplain hrun).numbers⟩

/-- A creation, and an import of one row. -/
def createdAndImported : List RequestLabel :=
  [.start (creation "e1" "Suzuki" "+819087654321"), .call 0 {}, .start Import.upload, .call 1 {}, .call 0 {}, .call 1 {}]

theorem not_isForeign_of_decide {s : String}
    (he164 : EmployeePage.isValidE164 (.str s) = isValidE164 (.str s))
    (hdomestic : EmployeePage.isValidDomesticPhone (.str s) = isValidDomesticJp (.str s)) : ¬ IsForeign s :=
  not_or.2 ⟨(EmployeePage.isValidE164_eq_iff s).1 he164, (EmployeePage.isValidDomesticPhone_eq_iff s).1 hdomestic⟩

theorem plainNumbers_createdAndImported {request : Invocation} (h : .start request ∈ createdAndImported) :
    PlainNumbers Import.csvLibrary request := by
  have hrequest : request = creation "e1" "Suzuki" "+819087654321" ∨ request = Import.upload := by
    simpa [createdAndImported] using h
  obtain rfl | rfl := hrequest
  · refine ⟨fun _ body phone hbody hphone => ?_, fun hroute => absurd hroute (by decide)⟩
    cases hbody
    cases hphone
    exact not_isForeign_of_decide (by decide) (by decide)
  · refine ⟨fun hroute => absurd hroute (by decide), fun _ body raw file text hbody hraw hfile htext => ?_⟩
    cases hbody
    cases hraw
    cases hfile
    cases htext
    intro nameCell phoneCell hmem
    have hcell : phoneCell = "phoneNumber" ∨ phoneCell = "09012345678" := by
      rcases List.mem_cons.1 hmem with heq | hmem
      · cases heq
        exact .inl rfl
      · cases List.mem_singleton.1 hmem
        exact .inr rfl
    obtain rfl | rfl := hcell
    · exact not_isForeign_of_decide (by decide) (by decide)
    · exact not_isForeign_of_decide (by decide) (by decide)

theorem numbersInGrammar_createdAndImported : ChecksNumbers "+819012345678" "09012345678" ∧
    ∃ p, exec (step (service Import.csvLibrary)) { world := {} } createdAndImported = some p ∧
      NumbersInGrammar Import.csvLibrary.crypto p := by
  have h := numbersInGrammar_iff Import.csvLibrary FieldCrypto.lawful_marked
  refine ⟨(h.1 _ _).2 ⟨not_isForeign_of_decide (by decide) (by decide), not_isForeign_of_decide (by decide) (by decide)⟩, ?_⟩
  obtain ⟨p, hrun⟩ := Option.isSome_iff_exists.1
    (show (exec (step (service Import.csvLibrary)) { world := {} } createdAndImported).isSome = true by decide)
  exact ⟨p, hrun, h.2 {} rfl _ p hrun fun _ => plainNumbers_createdAndImported⟩

/-- A number in full-width digits is accepted, and stored beside the one that it denotes. -/
theorem not_checksNumbers_fullWidth :
    isValidE164 (.str "+８１９０１２３４５６７８") = true ∧ ¬ IsE164 "+８１９０１２３４５６７８" ∧
    denotes "+８１９０１２３４５６７８" = denotes "+819012345678" ∧
    domesticToE164 "+８１９０１２３４５６７８" ≠ domesticToE164 "+819012345678" ∧
    ¬ ChecksNumbers "+８１９０１２３４５６７８" "+819012345678" ∧
    ∃ p, exec (step (service markedLibrary)) { world := {} }
        [.start (creation "e1" "Sato" "+８１９０１２３４５６７８"), .call 0 {}, .call 0 {}] = some p ∧
      ¬ NumbersInGrammar markedLibrary.crypto p := by
  have hnot : ¬ IsE164 "+８１９０１２３４５６７８" := by
    intro h
    have haccepted := (EmployeePage.isSome_pageNumber_iff (by decide)).2 h
    exact absurd haccepted (by decide)
  refine ⟨by decide, hnot, by decide, by decide, fun h => hnot (h.left.e164.1 (by decide)), ?_⟩
  obtain ⟨p, hrun⟩ := Option.isSome_iff_exists.1 (show (exec (step (service markedLibrary)) { world := {} }
    [.start (creation "e1" "Sato" "+８１９０１２３４５６７８"), .call 0 {}, .call 0 {}]).isSome = true by decide)
  refine ⟨p, hrun, fun h => ?_⟩
  have hstored : (exec (step (service markedLibrary)) { world := {} }
      [.start (creation "e1" "Sato" "+８１９０１２３４５６７８"), .call 0 {}, .call 0 {}]).map (fun p =>
        (p.world.employees.lookup "e1").any fun item => item.phoneNumber == some "+８１９０１２３４５６７８") = some true := by
    decide
  rw [hrun, Option.map_some, Option.some.injEq, Option.any_eq_true] at hstored
  obtain ⟨item, hitem, htest⟩ := hstored
  obtain hempty | ⟨phone, hplain, hphone⟩ := h.rows "e1" item hitem
  · rw [beq_iff_eq.1 htest] at hempty
    exact absurd hempty (by decide)
  · rw [beq_iff_eq.1 htest] at hplain
    cases hplain
    exact hnot hphone

end EmployeeApi

end SafetyConfirmation
