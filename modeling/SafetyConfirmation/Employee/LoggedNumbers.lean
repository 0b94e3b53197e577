import SafetyConfirmation.Employee.RenumberedRequests

/-!
# What EmployeeApi writes of a phone number

A request and the same request with other phone numbers, on tables that go together: the two invocations make calls and
write lines in lockstep. The lines are the same but for those of a rollback that fails.
-/

namespace SafetyConfirmation

namespace EmployeeApi

open KeyedStore Checks Employee EmployeeCsv Audit

namespace Renumbered

/-- The numbers that a line names in full. -/
def namedNumbers : Line → List String
  | .log message arguments _ => if message = Logged.rollbackFailed then arguments else []
  | .audit _ => []

section

variable (crypto : FieldCrypto) (pairs : NumberPairs)

/-- The same line, which names no number, or the lines of a rollback that failed. -/
inductive LineAlike : Line → Line → Prop where
  | same (line : Line) (h : namedNumbers line = []) : LineAlike line line
  | rollbackFailed {p p' : String} (h : pairs.paired p p') (error : Option PyError) :
      LineAlike (.log Logged.rollbackFailed [p] error) (.log Logged.rollbackFailed [p'] error)

def notes : Program.Coupling Note Note.Result where
  calls
    | .rollback p c, .rollback p' c' => pairs.paired p p' ∧ CallAlike crypto pairs c c'
    | .emit line, .emit line' => LineAlike pairs line line'
    | _, _ => False
  answers
    | .rollback _ c, .rollback _ c', answer, answer' => AnswerAlike crypto pairs c c' answer answer'
    | .emit _, .emit _, _, _ => True
    | _, _, _, _ => False

/-- In lockstep, and with results that go together. -/
abbrev Together {α β : Type} (R : α → β → Prop) (program : LoggedAction α) (program' : LoggedAction β) : Prop :=
  Program.Lockstep ((calls crypto pairs).sum (notes crypto pairs)) R program program'

end

variable {crypto : FieldCrypto} {pairs : NumberPairs} {library : Library} {inv : Invocation} {principal : Value}

abbrev Unrelated {α β : Type} : α → β → Prop := fun _ _ => True

theorem together_pure {α β : Type} {R : α → β → Prop} {a : α} {b : β} (h : R a b) :
    Together crypto pairs R (pure a) (pure b) := .done h

theorem together_emit {line line' : Line} (h : LineAlike pairs line line') :
    Together crypto pairs Unrelated (emit line) (emit line') := by
  have hperform := @Program.Lockstep.perform _ _ PyError ((calls crypto pairs).sum (notes crypto pairs))
    (.inr (.emit line)) (.inr (.emit line')) h
  exact hperform.mono fun _ _ _ => trivial

theorem together_log {message : String} (h : message ≠ Logged.rollbackFailed) (arguments : List String)
    (error : Option PyError) :
    Together crypto pairs Unrelated (log message arguments error) (log message arguments error) :=
  together_emit (.same _ (if_neg h))

theorem together_logClientError {message : String} (h : message ≠ Logged.rollbackFailed) (arguments : List String)
    (e : PyError) :
    Together crypto pairs Unrelated (logClientError message arguments e) (logClientError message arguments e) := by
  cases e with
  | clientError code => exact together_log h _ _
  | _ => exact .done trivial

theorem together_audit (event target : String) (extra : List (String × Value)) :
    Together crypto pairs Unrelated (Logged.audit inv principal event target none extra)
      (Logged.audit inv principal event target none extra) :=
  together_emit (.same _ rfl)

/-- A record takes the same of two numbers that stand for each other. -/
theorem together_auditPhone (event target : String) {phone phone' : String} (h : maskPhone phone = maskPhone phone')
    (extra : List (String × Value)) :
    Together crypto pairs Unrelated (Logged.audit inv principal event target (some phone) extra)
      (Logged.audit inv principal event target (some phone') extra) := by
  rw [Logged.audit, Logged.audit, auditLine, auditLine, Option.map_some, Option.map_some, h]
  exact together_emit (.same _ rfl)

theorem together_call {c c' : Call} (h : CallAlike crypto pairs c c') :
    Program.Lockstep (calls crypto pairs) (AnswerAlike crypto pairs c c') (call c) (call c') :=
  .perform h

theorem together_callFor {p p' : String} {c c' : Call} (hp : pairs.paired p p') (h : CallAlike crypto pairs c c') :
    Together crypto pairs (AnswerAlike crypto pairs c c') (callFor p c) (callFor p' c') :=
  @Program.Lockstep.perform _ _ PyError ((calls crypto pairs).sum (notes crypto pairs))
    (.inr (.rollback p c)) (.inr (.rollback p' c')) ⟨hp, h⟩

theorem together_silent {α β : Type} {R : α → β → Prop} {program : Action α} {program' : Action β}
    (h : Program.Lockstep (calls crypto pairs) R program program') :
    Together crypto pairs R (silent program) (silent program') := h.inl

/-! ### The parts of the handlers -/

theorem lockstep_numberFree {c : Call} (hfree : isNumberFree c = true) :
    Program.Lockstep (calls crypto pairs) Eq (call c) (call c) := by
  refine (together_call (.same c hfree)).mono fun answer answer' h => ?_
  cases c <;> first | exact eq_of_heq h | cases hfree

theorem lockstep_phoneAlreadyRegistered {p p' : String} (hp : pairs.paired p p') :
    Program.Lockstep (calls library.crypto pairs) Eq (inv.phoneAlreadyRegistered library p)
      (inv.phoneAlreadyRegistered library p') := by
  rw [Invocation.phoneAlreadyRegistered, Invocation.phoneAlreadyRegistered]
  split
  · refine (together_call (.scanBlindIndex hp true)).bind fun items items' hitems => .done ?_
    cases hitems <;> rfl
  · refine (together_call (.queryPhone hp)).bind fun items items' hitems => .done ?_
    have hrows : List.Forall₂ (RowAlike library.crypto pairs) items items' := hitems
    induction hrows with
    | nil => rfl
    | cons hrow hrest ih =>
      rw [List.any_cons, List.any_cons, ih hrest, hrow.2.isDeleted]

theorem itemAlike_newItem (hlawful : library.crypto.Lawful) (hindexing : Indexing library.crypto) (n : Nat) (name : String)
    {phone phone' : String} (hphone : pairs.paired phone phone') (role cognitoSub : String) :
    ItemAlike library.crypto pairs (inv.newItem library n name phone role cognitoSub)
      (inv.newItem library n name phone' role cognitoSub) where
  phoneNumber := .some (storedAlike_encrypt hlawful _ _ hphone)
  phoneNumberBlindIndex := .some (indexAlike_blindIndex hindexing hphone)
  others := rfl

/-! ### POST /employees -/

theorem together_cognitoSubOf {new new' : Invocation.NewEmployee} (hnew : NewAlike pairs new new') :
    Together crypto pairs Eq (Logged.cognitoSubOf inv new) (Logged.cognitoSubOf inv new') := by
  rw [Logged.cognitoSubOf, Logged.cognitoSubOf, ← hnew.isAdmin, ← hnew.name, ← hnew.adminEmail]
  split
  · refine Program.Lockstep.tryCatch ?_ fun e => ?_
    · refine (together_silent ?_).bind_eq fun sub => together_pure rfl
      refine (lockstep_numberFree rfl).bind_eq fun sub => ?_
      exact (lockstep_numberFree rfl).bind_eq fun _ => .done rfl
    · unfold Logged.onCognitoError
      split
      · exact together_pure rfl
      · exact (together_logClientError (by decide) _ _).bind fun _ _ _ => .raise _
  · exact together_pure rfl

theorem together_storeEmployee (hlawful : library.crypto.Lawful) (hindexing : Indexing library.crypto)
    {new new' : Invocation.NewEmployee} (hnew : NewAlike pairs new new') (sub : String) :
    Together library.crypto pairs Unrelated (Logged.storeEmployee library inv principal new sub)
      (Logged.storeEmployee library inv principal new' sub) := by
  have hput : Program.Lockstep (calls library.crypto pairs) Unrelated (inv.storeEmployee library new sub)
      (inv.storeEmployee library new' sub) := by
    rw [Invocation.storeEmployee, Invocation.storeEmployee, ← hnew.isAdmin, ← hnew.name]
    refine (together_call (.putItem _ (itemAlike_newItem hlawful hindexing _ _ hnew.phone _ _))).bind fun _ _ _ => ?_
    exact .done trivial
  refine (together_silent hput).bind fun _ _ _ => ?_
  refine (together_auditPhone _ _ (pairs.maskPhone_eq hnew.phone) _).bind fun _ _ _ => ?_
  have haudit : Together library.crypto pairs Unrelated (Logged.auditCognitoUser inv principal new sub)
      (Logged.auditCognitoUser inv principal new' sub) := by
    rw [Logged.auditCognitoUser, Logged.auditCognitoUser, ← hnew.isAdmin]
    split
    · exact together_audit _ _ _
    · exact together_pure trivial
  exact haudit.bind fun _ _ _ => together_pure trivial

theorem together_createEmployee (hlawful : library.crypto.Lawful) (hindexing : Indexing library.crypto) {body body' : Value}
    (hbody : FieldsAlike library pairs body body') :
    Together library.crypto pairs Unrelated (Logged.createEmployee library inv principal body)
      (Logged.createEmployee library inv principal body') := by
  refine (Program.Lockstep.ofExcept (alike_parseNewEmployee hbody)).bind fun new new' hnew => ?_
  refine (together_silent (lockstep_phoneAlreadyRegistered hnew.phone)).bind_eq fun registered => ?_
  split
  · exact together_pure trivial
  · refine (together_cognitoSubOf hnew).bind_eq fun sub => ?_
    cases sub with
    | none => exact together_pure trivial
    | some sub => exact together_storeEmployee hlawful hindexing hnew sub

/-! ### GET, PUT and DELETE -/

theorem alike_decrypted {s s' : Option String} (h : Option.Rel (StoredAlike library.crypto pairs) s s') :
    ResultRel pairs.Alike (Invocation.decrypted library s) (Invocation.decrypted library s') :=
  (rel_getD h .empty).decrypt

theorem alike_listEntry {row row' : String × EmployeeItem} (h : RowAlike library.crypto pairs row row') :
    ResultRel Unrelated (Invocation.listEntry library row) (Invocation.listEntry library row') := by
  rw [Invocation.listEntry, Invocation.listEntry, h.2.name]
  refine (ResultRel.refl (fun _ => rfl) _).bind fun name _ hname => ?_
  exact (alike_decrypted h.2.phoneNumber).bind fun _ _ _ => .ok trivial

theorem lockstep_listEmployees : Program.Lockstep (calls library.crypto pairs) Unrelated (inv.listEmployees library)
    (inv.listEmployees library) := by
  refine .ofExcept_bind _ fun includeDeleted => ?_
  refine (together_call .scan).bind fun items items' hitems => ?_
  have hkept : List.Forall₂ (RowAlike library.crypto pairs)
      (items.filter fun entry => !entry.2.isDeleted || Invocation.isTrueText includeDeleted)
      (items'.filter fun entry => !entry.2.isDeleted || Invocation.isTrueText includeDeleted) := by
    refine List.rel_filter ?_ hitems
    intro row row' hrow
    dsimp only
    rw [hrow.2.isDeleted]
  exact (Program.Lockstep.ofExcept (ResultRel.mapM hkept fun _ _ => alike_listEntry)).bind fun _ _ _ => .done trivial

theorem lockstep_getEmployeeById : Program.Lockstep (calls library.crypto pairs) Unrelated (inv.getEmployeeById library)
    (inv.getEmployeeById library) := by
  refine .ofExcept_bind _ fun id => ?_
  refine (together_call (.getItem id)).bind fun item item' hitem => ?_
  cases hitem with
  | none => exact .done trivial
  | @some item item' hitem =>
    dsimp only
    rw [← hitem.isDeleted, ← hitem.name]
    split
    · exact .done trivial
    · refine .ofExcept_bind _ fun name => ?_
      exact (Program.Lockstep.ofExcept (alike_decrypted hitem.phoneNumber)).bind fun _ _ _ => .done trivial

/-- What the handlers do with the row that the path names. -/
theorem together_onExisting {handle handle' : String → EmployeeItem → LoggedAction HttpResponse}
    (h : ∀ id existing existing', ItemAlike crypto pairs existing existing' →
      Together crypto pairs Unrelated (handle id existing) (handle' id existing')) :
    Together crypto pairs Unrelated
      (do
        let id ← Program.ofExcept inv.pathId
        match ← silent (call (.getItem id)) with
        | none => return notFound id
        | some existing => handle id existing)
      (do
        let id ← Program.ofExcept inv.pathId
        match ← silent (call (.getItem id)) with
        | none => return notFound id
        | some existing => handle' id existing) := by
  refine .ofExcept_bind _ fun id => ?_
  refine (together_silent (together_call (.getItem id))).bind fun existing existing' hexisting => ?_
  cases hexisting with
  | none => exact together_pure trivial
  | some hexisting => exact h id _ _ hexisting

theorem together_updateEmployee (hlawful : library.crypto.Lawful) (hindexing : Indexing library.crypto) {body body' : Value}
    (hbody : FieldsAlike library pairs body body') :
    Together library.crypto pairs Unrelated (Logged.updateEmployee library inv principal body)
      (Logged.updateEmployee library inv principal body') := by
  refine together_onExisting fun id existing existing' hexisting => ?_
  rw [← hexisting.isDeleted, ← hexisting.name]
  split
  · exact together_pure trivial
  · refine .ofExcept_bind _ fun name => ?_
    refine (Program.Lockstep.ofExcept (alike_decrypted hexisting.phoneNumber)).bind fun phone phone' hphone => ?_
    refine (Program.Lockstep.ofExcept (alike_parseUpdate hbody name hphone)).bind fun new new' hnew => ?_
    have hput : ∀ response response' : HttpResponse, Together library.crypto pairs Unrelated
        (do
          silent (updateItem id (.fields (inv.encrypt library 0 new.1) (inv.encrypt library 1 new.2)
            (inv.blindIndex library new.2) inv.now))
          Logged.audit inv principal "EMPLOYEE_UPDATE" id (some new.2)
          return response)
        (do
          silent (updateItem id (.fields (inv.encrypt library 0 new'.1) (inv.encrypt library 1 new'.2)
            (inv.blindIndex library new'.2) inv.now))
          Logged.audit inv principal "EMPLOYEE_UPDATE" id (some new'.2)
          return response') := by
      intro response response'
      rw [← hnew.1]
      refine (together_silent (together_call (.updateFields id _ inv.now (storedAlike_encrypt hlawful _ _ hnew.2)
        (indexAlike_blindIndex hindexing hnew.2)))).bind fun _ _ _ => ?_
      exact (together_auditPhone _ _ (pairs.maskPhone_eq hnew.2) _).bind fun _ _ _ => together_pure trivial
    by_cases hsame : new.2 = phone
    · rw [if_pos hsame, if_pos ((hphone.eq_iff hnew.2).1 hsame.symm).symm]
      exact hput _ _
    · rw [if_neg hsame, if_neg fun h => hsame ((hphone.eq_iff hnew.2).2 h.symm).symm]
      refine (together_silent (lockstep_phoneAlreadyRegistered hnew.2)).bind_eq fun registered => ?_
      dsimp only
      split
      · exact together_pure trivial
      · exact hput _ _

theorem together_deleteEmployee : Together library.crypto pairs Unrelated (Logged.deleteEmployee library inv principal)
    (Logged.deleteEmployee library inv principal) := by
  refine together_onExisting fun id existing existing' hexisting => ?_
  rw [← hexisting.isDeleted]
  split
  · exact together_pure trivial
  · refine (together_silent (lockstep_numberFree rfl)).bind fun _ _ _ => ?_
    refine (Program.Lockstep.ofExcept (alike_decrypted hexisting.phoneNumber)).bind fun phone phone' hphone => ?_
    exact (together_auditPhone _ _ hphone.maskPhone_eq _).bind fun _ _ _ => together_pure trivial

/-! ### POST /employees/import -/

theorem together_findForRollback {p p' : String} (hp : pairs.paired p p') :
    Together library.crypto pairs (List.Forall₂ (RowAlike library.crypto pairs)) (Logged.findForRollback library inv p)
      (Logged.findForRollback library inv p') := by
  rw [Logged.findForRollback, Logged.findForRollback]
  split
  · exact together_callFor hp (.scanBlindIndex hp false)
  · exact together_callFor hp (.queryPhone hp)

theorem together_rollbackPhone {p p' : String} (hp : pairs.paired p p') :
    Together library.crypto pairs Unrelated (Logged.rollbackPhone library inv p) (Logged.rollbackPhone library inv p') := by
  refine Program.Lockstep.tryCatch ?_ fun e => ?_
  · refine (together_findForRollback hp).bind fun items items' hitems => ?_
    refine Program.Lockstep.forEach hitems fun row row' hrow => ?_
    rw [← hrow.1]
    exact (together_callFor hp (.same (.deleteItem row.1) rfl)).mono fun _ _ _ => trivial
  · cases e with
    | clientError code => exact together_emit (.rollbackFailed hp _)
    | _ => exact .raise _

/-- The rows of a batch with their places in the file. -/
def PlacedAlike (pairs : NumberPairs) (placed placed' : EmployeeRow × Nat) : Prop :=
  ImportRowAlike pairs placed.1 placed'.1 ∧ placed.2 = placed'.2

theorem rowAlike_importItem (hlawful : library.crypto.Lawful) (hindexing : Indexing library.crypto)
    {placed placed' : EmployeeRow × Nat} (h : PlacedAlike pairs placed placed') :
    RowAlike library.crypto pairs (inv.importItem library placed) (inv.importItem library placed') := by
  rw [Invocation.importItem, Invocation.importItem, ← h.2, ← h.1.1]
  exact ⟨rfl, itemAlike_newItem hlawful hindexing _ _ h.1.2 _ _⟩

theorem together_insertBatches (hlawful : library.crypto.Lawful) (hindexing : Indexing library.crypto) (attempted : Nat)
    {rows rows' : List (List (EmployeeRow × Nat))} (hrows : List.Forall₂ (List.Forall₂ (PlacedAlike pairs)) rows rows')
    {inserted inserted' : List String} (hinserted : List.Forall₂ pairs.paired inserted inserted') :
    Together library.crypto pairs Unrelated (Logged.insertBatches library inv principal attempted rows inserted)
      (Logged.insertBatches library inv principal attempted rows' inserted') := by
  induction hrows generalizing inserted inserted' with
  | nil =>
    rw [Logged.insertBatches, Logged.insertBatches, hinserted.length_eq]
    exact (together_audit _ _ _).bind fun _ _ _ => together_pure trivial
  | @cons batch batch' rest rest' hbatch _ ih =>
    have hitems : List.Forall₂ (RowAlike library.crypto pairs) (batch.map (inv.importItem library))
        (batch'.map (inv.importItem library)) := by
      rw [List.forall₂_map_left_iff, List.forall₂_map_right_iff]
      exact hbatch.imp fun _ _ => rowAlike_importItem hlawful hindexing
    have hnumbers : List.Forall₂ pairs.paired (batch.map fun row => row.1.phoneNumber)
        (batch'.map fun row => row.1.phoneNumber) := by
      rw [List.forall₂_map_left_iff, List.forall₂_map_right_iff]
      exact hbatch.imp fun _ _ h => h.1.2
    have hput : CallAlike library.crypto pairs _ _ := .transactPut hitems
    rw [Logged.insertBatches, Logged.insertBatches]
    refine Program.Lockstep.call hput fun answer answer' hanswer => ?_
    cases hanswer with
    | ok _ => exact ih (List.rel_append hinserted hnumbers)
    | error e =>
      cases e with
      | clientError code =>
        dsimp only
        rw [hinserted.length_eq]
        refine (together_log (by decide) _ _).bind fun _ _ _ => ?_
        refine Program.Lockstep.bind (R := Unrelated) ?_ fun _ _ _ => together_pure trivial
        exact Program.Lockstep.forEach hinserted fun _ _ => together_rollbackPhone
      | _ => exact .raise _

theorem placedAlike_batches (n : Nat) {rows rows' : List EmployeeRow}
    (h : List.Forall₂ (ImportRowAlike pairs) rows rows') :
    List.Forall₂ (List.Forall₂ (PlacedAlike pairs)) (batches n rows.zipIdx) (batches n rows'.zipIdx) := by
  have hplaced : ∀ {rows rows' : List EmployeeRow}, List.Forall₂ (ImportRowAlike pairs) rows rows' → ∀ start,
      List.Forall₂ (PlacedAlike pairs) (rows.zipIdx start) (rows'.zipIdx start) := by
    intro rows rows' h
    induction h with
    | nil => exact fun _ => .nil
    | cons hrow _ ih => exact fun start => .cons ⟨hrow, rfl⟩ (ih (start + 1))
  have hzip := hplaced h 0
  rw [batches, batches, ← hzip.length_eq, List.forall₂_map_left_iff, List.forall₂_map_right_iff, List.forall₂_same]
  exact fun i _ => List.forall₂_take n (List.forall₂_drop (n * i) hzip)

theorem together_importRows (hlawful : library.crypto.Lawful) (hindexing : Indexing library.crypto)
    {rows rows' : List EmployeeRow} (hrows : List.Forall₂ (ImportRowAlike pairs) rows rows') :
    Together library.crypto pairs Unrelated (Logged.importRows library inv principal rows)
      (Logged.importRows library inv principal rows') := by
  have hnumbers : List.Forall₂ pairs.paired (rows.map EmployeeRow.phoneNumber) (rows'.map EmployeeRow.phoneNumber) := by
    rw [List.forall₂_map_left_iff, List.forall₂_map_right_iff]
    exact hrows.imp fun _ _ h => h.2
  refine (together_silent (Program.Lockstep.filterList hnumbers fun _ _ hp =>
    lockstep_phoneAlreadyRegistered hp)).bind fun duplicates duplicates' hduplicates => ?_
  rw [hrows.length_eq]
  cases hduplicates with
  | nil => exact together_insertBatches hlawful hindexing _ (placedAlike_batches _ hrows) .nil
  | cons _ _ => exact together_pure trivial

theorem together_importCsv (hlawful : library.crypto.Lawful) (hindexing : Indexing library.crypto) {body body' : Value}
    (hbody : FieldsAlike library pairs body body') :
    Together library.crypto pairs Unrelated (Logged.importCsv library inv principal body)
      (Logged.importCsv library inv principal body') := by
  have hcsv := hbody.csvBase64
  rw [Logged.importCsv, Logged.importCsv]
  generalize body.get? "csvBase64" = csv at hcsv
  generalize body'.get? "csvBase64" = csv' at hcsv
  cases hcsv with
  | none => exact .raise _
  | some hcsv =>
    cases hcsv with
    | other v hv =>
      obtain hv | rfl := hv
      · rw [Option.bind_some, hv]
        exact .raise _
      · exact .raise _
    | @file raw raw' hraw hraw' hfile =>
      have hbind : ∀ raw, (some (Value.str raw)).bind Value.asStr? = some raw := fun _ => rfl
      rw [hbind, hbind]
      simp only
      generalize library.decodeCsv raw = file at hfile ⊢
      generalize library.decodeCsv raw' = file' at hfile ⊢
      cases hfile with
      | error message => exact together_pure trivial
      | ok hfile =>
        have hparsed := alike_parseEmployeeCsv hfile
        dsimp only
        split
        · rename_i herrors
          rw [if_pos (mt hparsed.errors.2 herrors)]
          exact together_pure trivial
        · rename_i herrors
          rw [if_neg (not_not.2 (hparsed.errors.1 (not_not.1 herrors)))]
          exact together_importRows hlawful hindexing hparsed.rows

/-! ### POST /employees/{id}/anonymize and DELETE /employees/{id}/cognito-user -/

theorem lockstep_responsesOf (employeeId : String) (cycleIds : List String) :
    Program.Lockstep (calls crypto pairs) Eq (Invocation.responsesOf employeeId cycleIds)
      (Invocation.responsesOf employeeId cycleIds) := by
  induction cycleIds with
  | nil => exact .done rfl
  | cons cycleId rest ih => exact (lockstep_numberFree rfl).bind_eq fun rows => ih.bind_eq fun others => .done rfl

theorem together_anonymizeEmployee : Together library.crypto pairs Unrelated (Logged.anonymizeEmployee library inv principal)
    (Logged.anonymizeEmployee library inv principal) := by
  rw [Logged.anonymizeEmployee]
  split
  · exact (together_log (by decide) _ _).bind fun _ _ _ => together_pure trivial
  · refine .ofExcept_bind _ fun claims => ?_
    split
    · exact together_pure trivial
    · refine together_onExisting fun id existing existing' hexisting => ?_
      rw [← hexisting.isDeleted]
      split
      · exact together_pure trivial
      · refine (together_silent (lockstep_numberFree rfl)).bind_eq fun cycleIds => ?_
        refine (together_silent (lockstep_responsesOf id cycleIds)).bind_eq fun rows => ?_
        have hrewrite : Program.Lockstep (calls library.crypto pairs) Unrelated
            (Program.forEach (fun chunk => call (.transactRewrite chunk (library.anonymizeEmployeeId id inv.anonymizeSalt)))
              (batches anonymizeRowsPerBatch rows))
            (Program.forEach (fun chunk => call (.transactRewrite chunk (library.anonymizeEmployeeId id inv.anonymizeSalt)))
              (batches anonymizeRowsPerBatch rows)) := by
          refine Program.Lockstep.forEach (List.forall₂_same.2 fun _ _ => rfl) fun chunk _ hchunk => ?_
          subst hchunk
          exact (@lockstep_numberFree _ _ (.transactRewrite chunk _) rfl).mono fun _ _ _ => trivial
        refine (together_silent hrewrite).bind fun _ _ _ => ?_
        exact (together_audit _ _ _).bind fun _ _ _ => together_pure trivial

theorem together_deleteUser (id sub : String) :
    Together crypto pairs Unrelated (Logged.deleteUser id sub) (Logged.deleteUser id sub) := by
  refine Program.Lockstep.tryCatch ?_ fun e => ?_
  · exact (together_silent (@lockstep_numberFree _ _ (.adminDeleteUser sub) rfl)).mono fun _ _ _ => trivial
  · unfold Logged.onDeleteUserError
    split
    · exact together_log (by decide) _ _
    · exact (together_logClientError (by decide) _ _).bind fun _ _ _ => .raise _

theorem together_deleteCognitoUser : Together crypto pairs Unrelated (Logged.deleteCognitoUser inv principal)
    (Logged.deleteCognitoUser inv principal) := by
  rw [Logged.deleteCognitoUser]
  refine .ofExcept_bind _ fun claims => ?_
  split
  · exact together_pure trivial
  · refine together_onExisting fun id existing existing' hexisting => ?_
    rw [← hexisting.isDeleted, ← hexisting.cognitoSub]
    split
    · exact together_pure trivial
    · split
      · exact together_pure trivial
      · exact together_pure trivial
      · refine (together_deleteUser id _).bind fun _ _ _ => ?_
        refine (together_silent (lockstep_numberFree rfl)).bind fun _ _ _ => ?_
        exact (together_audit _ _ _).bind fun _ _ _ => together_pure trivial

/-! ### The entry point -/

end Renumbered

/-- The same invocation with another body. -/
def Invocation.withBody (inv : Invocation) (body : RawBody) : Invocation := { inv with event := { inv.event with body } }

namespace Renumbered

theorem insertBatches_withBody (body : RawBody) (attempted : Nat) (rows : List (List (EmployeeRow × Nat)))
    (inserted : List String) : Logged.insertBatches library (inv.withBody body) principal attempted rows inserted =
      Logged.insertBatches library inv principal attempted rows inserted := by
  induction rows generalizing inserted with
  | nil => rfl
  | cons batch rest ih =>
    rw [Logged.insertBatches, Logged.insertBatches]
    refine congrArg (Program.call _) (funext fun answer => ?_)
    cases answer with
    | ok _ => exact ih _
    | error e => cases e <;> rfl

theorem importCsv_withBody (body : RawBody) (fields : Value) :
    Logged.importCsv library (inv.withBody body) principal fields = Logged.importCsv library inv principal fields := by
  have hrows : ∀ rows, Logged.importRows library (inv.withBody body) principal rows =
      Logged.importRows library inv principal rows := by
    intro rows
    rw [Logged.importRows, Logged.importRows]
    refine bind_congr fun duplicates => ?_
    rw [insertBatches_withBody]
  rw [Logged.importCsv, Logged.importCsv]
  simp only [hrows]

/-- The body of a request is all that differs. -/
theorem together_handle (hlawful : library.crypto.Lawful) (hindexing : Indexing library.crypto) {body : RawBody}
    (hbody : BodyAlike library pairs inv.event.body body) (route : Option Route) :
    Together library.crypto pairs Unrelated (Logged.handle library inv principal route)
      (Logged.handle library (inv.withBody body) principal route) := by
  have hparsed : Program.Lockstep ((calls library.crypto pairs).sum (notes library.crypto pairs)) (FieldsAlike library pairs)
      (Logged.parsedBody inv) (Logged.parsedBody (inv.withBody body)) := .ofExcept (alike_parseBody hbody)
  cases route with
  | none => exact together_pure trivial
  | some route =>
    cases route with
    | createEmployee => exact hparsed.bind fun _ _ => together_createEmployee hlawful hindexing
    | listEmployees => exact together_silent lockstep_listEmployees
    | getEmployeeById => exact together_silent lockstep_getEmployeeById
    | updateEmployee => exact hparsed.bind fun _ _ => together_updateEmployee hlawful hindexing
    | deleteEmployee => exact together_deleteEmployee
    | importCsv =>
      refine hparsed.bind fun fields fields' hfields => ?_
      rw [importCsv_withBody]
      exact together_importCsv hlawful hindexing hfields
    | anonymizeEmployee => exact together_anonymizeEmployee
    | deleteCognitoUser => exact together_deleteCognitoUser

theorem together_onError (e : PyError) :
    Together crypto pairs Unrelated (Logged.onError inv e) (Logged.onError inv e) := by
  cases e with
  | clientError code =>
    rw [Logged.onError]
    split
    · exact together_pure trivial
    · exact (together_logClientError (by decide) _ _).bind fun _ _ _ => .raise _
  | valueError => exact together_pure trivial
  | _ => exact .raise _

theorem together_lambdaHandler (hlawful : library.crypto.Lawful) (hindexing : Indexing library.crypto) {body : RawBody}
    (hbody : BodyAlike library pairs inv.event.body body) :
    Together library.crypto pairs Unrelated (Logged.lambdaHandler library inv)
      (Logged.lambdaHandler library (inv.withBody body)) := by
  refine .ofExcept_bind _ fun principal => ?_
  exact Program.Lockstep.tryCatch (together_handle hlawful hindexing hbody _) together_onError

end Renumbered

end EmployeeApi

end SafetyConfirmation
