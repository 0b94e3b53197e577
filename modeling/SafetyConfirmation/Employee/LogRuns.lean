import SafetyConfirmation.Employee.LoggedNumbers

/-!
# Two runs of EmployeeApi and what they write

An invocation run on the tables, with the lines that it writes and the numbers whose rollback was answered with a
`ClientError`. The lines of two runs with other phone numbers are the same as long as no such number differs.
-/

namespace SafetyConfirmation

namespace EmployeeApi

open KeyedStore Checks Employee EmployeeCsv Audit

/-- The tables, how many calls were made, the lines that were written, and the numbers that a rollback failed for. -/
structure Session where
  world : World
  position : Nat := 0
  emitted : List Line := []
  failures : List String := []

namespace Session

def failuresAfter {α : Type} (failures : List String) (phone : String) : Except PyError α → List String
  | .error (.clientError _) => failures ++ [phone]
  | _ => failures

/-- Each call goes as the environment of its position says. -/
def respond (environments : Nat → Environment) (s : Session) : (act : Act) → Except PyError act.Result × Session
  | .inl c =>
    let answer := EmployeeApi.respond s.world (environments s.position) c
    (answer.1, { s with world := answer.2, position := s.position + 1 })
  | .inr (.rollback phone c) =>
    let answer := EmployeeApi.respond s.world (environments s.position) c
    (answer.1, { s with
      world := answer.2
      position := s.position + 1
      failures := failuresAfter s.failures phone answer.1 })
  | .inr (.emit line) =>
    let answer := line.emit ((environments s.position).fault.map fun fault => (fault.error, fault.applied)) s.emitted
    (answer.1, { s with position := s.position + 1, emitted := answer.2 })

end Session

/-- An invocation on its own. -/
def serveLogged (library : Library) (inv : Invocation) (environments : Nat → Environment) (w : World) : Session :=
  ((Logged.lambdaHandler library inv).run (Session.respond environments) { world := w }).2

namespace Renumbered

variable {crypto : FieldCrypto} {pairs : NumberPairs} {library : Library} {inv : Invocation} {principal : Value}

/-! ### Both runs -/

structure SessionAlike (crypto : FieldCrypto) (pairs : NumberPairs) (s s' : Session) : Prop where
  world : WorldAlike crypto pairs s.world s'.world
  position : s.position = s'.position
  emitted : List.Forall₂ (LineAlike pairs) s.emitted s'.emitted

theorem alike_emit {line line' : Line} (h : LineAlike pairs line line') (fault : Option (PyError × Bool))
    {emitted emitted' : List Line} (hemitted : List.Forall₂ (LineAlike pairs) emitted emitted') :
    ResultRel Unrelated (line.emit fault emitted).1 (line'.emit fault emitted').1 ∧
      List.Forall₂ (LineAlike pairs) (line.emit fault emitted).2 (line'.emit fault emitted').2 := by
  cases h with
  | rollbackFailed hp error => exact ⟨.ok trivial, List.rel_append hemitted (.cons (.rollbackFailed hp error) .nil)⟩
  | same _ hquiet =>
    have hone : List.Forall₂ (LineAlike pairs) (emitted ++ [line]) (emitted' ++ [line]) :=
      List.rel_append hemitted (.cons (.same line hquiet) .nil)
    cases line with
    | log message arguments error => exact ⟨.ok trivial, hone⟩
    | audit record =>
      cases fault with
      | none => exact ⟨.ok trivial, hone⟩
      | some fault =>
        refine ⟨.error _, ?_⟩
        show List.Forall₂ _ (if fault.2 then _ else _) (if fault.2 then _ else _)
        split
        · exact hone
        · exact hemitted

theorem alike_step (hlawful : crypto.Lawful) (hindexing : Indexing crypto) (environments : Nat → Environment)
    (s s' : Session) (act act' : Act) (h : SessionAlike crypto pairs s s')
    (hact : ((calls crypto pairs).sum (notes crypto pairs)).calls act act') :
    ResultRel (((calls crypto pairs).sum (notes crypto pairs)).answers act act') (s.respond environments act).1
        (s'.respond environments act').1 ∧
      SessionAlike crypto pairs (s.respond environments act).2 (s'.respond environments act').2 := by
  obtain ⟨world, position, emitted, failures⟩ := s
  obtain ⟨world', _, emitted', failures'⟩ := s'
  obtain ⟨hworld, rfl, hemitted⟩ := h
  cases act with
  | inl c =>
    cases act' with
    | inr note' => exact absurd hact id
    | inl c' =>
      obtain ⟨hanswer, hafter⟩ := alike_respond hlawful hindexing hworld (environments position) hact
      exact ⟨hanswer, hafter, rfl, hemitted⟩
  | inr note =>
    cases act' with
    | inl c' => exact absurd hact id
    | inr note' =>
      cases note with
      | rollback p c =>
        cases note' with
        | emit line' => exact absurd hact id
        | rollback p' c' =>
          obtain ⟨hanswer, hafter⟩ := alike_respond hlawful hindexing hworld (environments position) hact.2
          exact ⟨hanswer, hafter, rfl, hemitted⟩
      | emit line =>
        cases note' with
        | rollback p' c' => exact absurd hact id
        | emit line' =>
          obtain ⟨hanswer, hafter⟩ := alike_emit hact _ hemitted
          exact ⟨hanswer, hworld, rfl, hafter⟩

/-- Line by line the two runs write the same but for a rollback that failed. -/
theorem alike_serveLogged (hlawful : library.crypto.Lawful) (hindexing : Indexing library.crypto) {body : RawBody}
    (hbody : BodyAlike library pairs inv.event.body body) {w w' : World} (hw : WorldAlike library.crypto pairs w w')
    (environments : Nat → Environment) :
    List.Forall₂ (LineAlike pairs) (serveLogged library inv environments w).emitted
      (serveLogged library (inv.withBody body) environments w').emitted := by
  have hstart : SessionAlike library.crypto pairs { world := w } { world := w' } := ⟨hw, rfl, .nil⟩
  exact ((together_lambdaHandler hlawful hindexing hbody).run (alike_step hlawful hindexing environments) hstart).2.emitted

/-! ### What one run writes of its rollback -/

/-- The numbers that a rollback failed for so far, and those that were logged. -/
def bookkeeping : Program.Spec Act Act.Result PyError (List String × List String) where
  allowed _ _ := True
  advance
    | t, .inr (.rollback phone _), answer => (Session.failuresAfter t.1 phone answer, t.2)
    | t, .inr (.emit line), _ => (t.1, t.2 ++ namedNumbers line)
    | t, .inl _, _ => t

/-- Neither a call of a rollback nor a line that names a number. -/
def isQuiet : Act → Prop
  | .inl _ => True
  | .inr (.rollback _ _) => False
  | .inr (.emit line) => namedNumbers line = []

def quietness : Program.Spec Act Act.Result PyError Unit where
  allowed _ act := isQuiet act
  advance _ _ _ := ()

def Quiet {α : Type} (program : LoggedAction α) : Prop := program.wp quietness (fun _ _ => True) ()

section Quiet

variable {α β : Type}

theorem Quiet.bind {program : LoggedAction α} {f : α → LoggedAction β} (h : Quiet program) (hf : ∀ a, Quiet (f a)) :
    Quiet (program >>= f) := by
  refine Program.wp_bind.2 (Program.wp_mono (fun result t _ => ?_) h)
  cases result with
  | ok a => exact hf a
  | error e => exact trivial

theorem Quiet.tryCatch {program : LoggedAction α} {handle : PyError → LoggedAction α} (h : Quiet program)
    (hhandle : ∀ e, Quiet (handle e)) : Quiet (program.tryCatch handle) := by
  refine Program.wp_tryCatch.2 (Program.wp_mono (fun result t _ => ?_) h)
  cases result with
  | ok a => exact trivial
  | error e => exact hhandle e

theorem quiet_pure (a : α) : Quiet (pure a) := trivial

theorem quiet_throw (e : PyError) : Quiet (throw e : LoggedAction α) := trivial

theorem quiet_ofExcept (result : Except PyError α) : Quiet (Program.ofExcept result : LoggedAction α) := by
  cases result <;> exact trivial

theorem quiet_silent (program : Action α) : Quiet (silent program) := by
  induction program with
  | done a => exact trivial
  | raise e => exact trivial
  | call c next ih => exact ⟨trivial, fun answer _ => ih answer⟩

theorem quiet_emit {line : Line} (h : namedNumbers line = []) : Quiet (emit line) :=
  Program.wp_perform.2 ⟨h, fun _ _ => trivial⟩

theorem quiet_audit (event target : String) (phone : Option String) (extra : List (String × Value)) :
    Quiet (Logged.audit inv principal event target phone extra) := quiet_emit rfl

theorem quiet_log {message : String} (h : message ≠ Logged.rollbackFailed) (arguments : List String)
    (error : Option PyError) : Quiet (log message arguments error) := quiet_emit (if_neg h)

theorem quiet_logClientError {message : String} (h : message ≠ Logged.rollbackFailed) (arguments : List String)
    (e : PyError) : Quiet (logClientError message arguments e) := by
  cases e with
  | clientError code => exact quiet_log h _ _
  | _ => exact trivial

/-- Nothing is to be kept of a program that makes no call of a rollback and names no number. -/
theorem Quiet.wp {program : LoggedAction α} (h : Quiet program) (t : List String × List String) :
    program.wp bookkeeping (fun _ t' => t' = t) t := by
  refine @Program.wp_of_allowed _ _ _ _ _ _ _ _ _ bookkeeping (fun t' => t' = t) (fun _ _ _ => trivial) ?_
    (fun _ _ _ _ => trivial) _ h _ rfl
  intro _ act t' answer hquiet ht _
  subst ht
  cases act with
  | inl c => rfl
  | inr note =>
    cases note with
    | rollback phone c => exact absurd hquiet id
    | emit line =>
      show (t'.1, t'.2 ++ namedNumbers line) = t'
      rw [show namedNumbers line = [] from hquiet, List.append_nil]

end Quiet

theorem quiet_createEmployee (body : Value) : Quiet (Logged.createEmployee library inv principal body) := by
  have hcognito : ∀ e, Quiet (Logged.onCognitoError e) := by
    intro e
    unfold Logged.onCognitoError
    split
    · exact quiet_pure _
    · exact (quiet_logClientError (by decide) _ _).bind fun _ => quiet_throw _
  have haudit : ∀ new sub, Quiet (Logged.auditCognitoUser inv principal new sub) := by
    intro new sub
    rw [Logged.auditCognitoUser]
    split
    · exact quiet_audit _ _ _ _
    · exact quiet_pure _
  refine (quiet_ofExcept _).bind fun new => (quiet_silent _).bind fun registered => ?_
  split
  · exact quiet_pure _
  · refine Quiet.bind ?_ fun sub => ?_
    · rw [Logged.cognitoSubOf]
      split
      · exact Quiet.tryCatch ((quiet_silent _).bind fun _ => quiet_pure _) hcognito
      · exact quiet_pure _
    · cases sub with
      | none => exact quiet_pure _
      | some sub =>
        exact (quiet_silent _).bind fun _ => (quiet_audit _ _ _ _).bind fun _ => (haudit new sub).bind fun _ => quiet_pure _

/-- What the handlers do with the row that the path names. -/
theorem quiet_onExisting {handle : String → EmployeeItem → LoggedAction HttpResponse}
    (h : ∀ id existing, Quiet (handle id existing)) :
    Quiet (do
      let id ← Program.ofExcept inv.pathId
      match ← silent (call (.getItem id)) with
      | none => return notFound id
      | some existing => handle id existing) := by
  refine (quiet_ofExcept _).bind fun id => (quiet_silent _).bind fun existing => ?_
  cases existing with
  | none => exact quiet_pure _
  | some existing => exact h id existing

theorem quiet_updateEmployee (body : Value) : Quiet (Logged.updateEmployee library inv principal body) := by
  have hput : ∀ id new response, Quiet (do
      silent (updateItem id
        (.fields (inv.encrypt library 0 (Prod.fst new)) (inv.encrypt library 1 (Prod.snd new))
          (inv.blindIndex library new.2) inv.now))
      Logged.audit inv principal "EMPLOYEE_UPDATE" id (some new.2)
      return response : LoggedAction HttpResponse) := fun _ _ _ =>
    (quiet_silent _).bind fun _ => (quiet_audit _ _ _ _).bind fun _ => quiet_pure _
  refine quiet_onExisting fun id existing => ?_
  split
  · exact quiet_pure _
  · refine (quiet_ofExcept _).bind fun name => (quiet_ofExcept _).bind fun phone => (quiet_ofExcept _).bind fun new => ?_
    split
    · exact hput _ _ _
    · refine (quiet_silent _).bind fun registered => ?_
      dsimp only
      split
      · exact quiet_pure _
      · exact hput _ _ _

theorem quiet_deleteEmployee : Quiet (Logged.deleteEmployee library inv principal) := by
  refine quiet_onExisting fun id existing => ?_
  split
  · exact quiet_pure _
  · exact (quiet_silent _).bind fun _ => (quiet_ofExcept _).bind fun _ => (quiet_audit _ _ _ _).bind fun _ => quiet_pure _

theorem quiet_anonymizeEmployee : Quiet (Logged.anonymizeEmployee library inv principal) := by
  rw [Logged.anonymizeEmployee]
  split
  · exact (quiet_log (by decide) _ _).bind fun _ => quiet_pure _
  · refine (quiet_ofExcept _).bind fun claims => ?_
    split
    · exact quiet_pure _
    · refine quiet_onExisting fun id existing => ?_
      split
      · exact quiet_pure _
      · exact (quiet_silent _).bind fun _ => (quiet_silent _).bind fun _ => (quiet_silent _).bind fun _ =>
          (quiet_audit _ _ _ _).bind fun _ => quiet_pure _

theorem quiet_deleteCognitoUser : Quiet (Logged.deleteCognitoUser inv principal) := by
  have hdelete : ∀ id sub, Quiet (Logged.deleteUser id sub) := by
    intro id sub
    refine Quiet.tryCatch (quiet_silent _) fun e => ?_
    unfold Logged.onDeleteUserError
    split
    · exact quiet_log (by decide) _ _
    · exact (quiet_logClientError (by decide) _ _).bind fun _ => quiet_throw _
  rw [Logged.deleteCognitoUser]
  refine (quiet_ofExcept _).bind fun claims => ?_
  split
  · exact quiet_pure _
  · refine quiet_onExisting fun id existing => ?_
    split
    · exact quiet_pure _
    · split
      · exact quiet_pure _
      · exact quiet_pure _
      · exact (hdelete _ _).bind fun _ => (quiet_silent _).bind fun _ => (quiet_audit _ _ _ _).bind fun _ => quiet_pure _

theorem quiet_onError (e : PyError) : Quiet (Logged.onError inv e) := by
  cases e with
  | clientError code =>
    rw [Logged.onError]
    split
    · exact quiet_pure _
    · exact (quiet_logClientError (by decide) _ _).bind fun _ => quiet_throw _
  | valueError => exact quiet_pure _
  | _ => exact quiet_throw _

/-! ### The import -/

/-- Every number that a rollback failed for so far was logged. -/
def AllNamed (t : List String × List String) : Prop := t.1 = t.2

theorem Quiet.allNamed {α : Type} {program : LoggedAction α} (h : Quiet program) {t : List String × List String}
    (ht : AllNamed t) : program.wp bookkeeping (fun _ t' => AllNamed t') t := by
  refine Program.wp_mono (fun _ t' ht' => ?_) (h.wp t)
  rw [ht']
  exact ht

/-- The rest of a rollback for one number, up to its handler. -/
theorem wp_callFor {phone : String} {c : Call} {t : List String × List String} :
    (callFor phone c).wp bookkeeping (fun result t' => t' = (Session.failuresAfter t.1 phone result, t.2)) t :=
  Program.wp_perform.2 ⟨trivial, fun _ _ => rfl⟩

theorem wp_rollbackPhone (phone : String) {t : List String × List String} (ht : AllNamed t) :
    (Logged.rollbackPhone library inv phone).wp bookkeeping (fun _ t' => AllNamed t') t := by
  have hfind : (Logged.findForRollback library inv phone).wp bookkeeping
      (fun result t' => t' = (Session.failuresAfter t.1 phone result, t.2)) t := by
    rw [Logged.findForRollback]
    split <;> exact wp_callFor
  have hdelete : ∀ items : List (String × EmployeeItem),
      (Program.forEach (fun entry => callFor phone (.deleteItem entry.1)) items).wp bookkeeping
        (fun result t' => t' = (Session.failuresAfter t.1 phone result, t.2)) t := by
    intro items
    refine @Program.wp_forEach _ _ _ _ _ _ _ _ items (fun _ t' => t' = t) _ rfl (fun entry rest t' ht' => ?_)
      fun t' ht' => ht'
    subst ht'
    refine Program.wp_mono (fun result t'' h => ?_) wp_callFor
    cases result with
    | ok _ => exact h
    | error e => exact h
  have hboth : (do
      let items ← Logged.findForRollback library inv phone
      Program.forEach (fun entry => callFor phone (.deleteItem entry.1)) items : LoggedAction Unit).wp bookkeeping
        (fun result t' => t' = (Session.failuresAfter t.1 phone result, t.2)) t := by
    refine Program.wp_bind.2 (Program.wp_mono (fun result t' h => ?_) hfind)
    cases result with
    | ok items =>
      subst h
      exact hdelete items
    | error e => cases e <;> exact h
  refine Program.wp_tryCatch.2 (Program.wp_mono (fun result t' h => ?_) hboth)
  subst h
  cases result with
  | ok _ => exact ht
  | error e =>
    cases e with
    | clientError code =>
      refine Program.wp_perform.2 ⟨trivial, fun answer _ => ?_⟩
      show t.1 ++ [phone] = t.2 ++ [phone]
      rw [show t.1 = t.2 from ht]
    | _ => exact ht

theorem allNamed_bind {α β : Type} {program : LoggedAction α} {f : α → LoggedAction β} {t : List String × List String}
    (h : program.wp bookkeeping (fun _ t' => AllNamed t') t)
    (hf : ∀ a t', AllNamed t' → (f a).wp bookkeeping (fun _ t' => AllNamed t') t') :
    (program >>= f).wp bookkeeping (fun _ t' => AllNamed t') t := by
  refine Program.wp_bind.2 (Program.wp_mono (fun result t' ht' => ?_) h)
  cases result with
  | ok a => exact hf a t' ht'
  | error e => exact ht'

theorem wp_rollbackInserted (phones : List String) {t : List String × List String} (ht : AllNamed t) :
    (Logged.rollbackInserted library inv phones).wp bookkeeping (fun _ t' => AllNamed t') t := by
  refine @Program.wp_forEach _ _ _ _ _ _ _ _ phones (fun _ t' => AllNamed t') _ ht (fun phone rest t' ht' => ?_)
    fun t' ht' => ht'
  refine Program.wp_mono (fun result t'' h => ?_) (wp_rollbackPhone phone ht')
  cases result <;> exact h

theorem wp_insertBatches (attempted : Nat) (rows : List (List (EmployeeRow × Nat))) (inserted : List String)
    {t : List String × List String} (ht : AllNamed t) :
    (Logged.insertBatches library inv principal attempted rows inserted).wp bookkeeping (fun _ t' => AllNamed t') t := by
  induction rows generalizing inserted with
  | nil => exact Quiet.allNamed ((quiet_audit _ _ _ _).bind fun _ => quiet_pure _) ht
  | cons batch rest ih =>
    refine ⟨trivial, fun answer _ => ?_⟩
    cases answer with
    | ok _ => exact ih _
    | error e =>
      cases e with
      | clientError code =>
        refine allNamed_bind ((quiet_log (by decide) _ _).allNamed ht) fun _ t' ht' => ?_
        exact allNamed_bind (wp_rollbackInserted inserted ht') fun _ t'' ht'' => ht''
      | _ => exact ht

theorem wp_importCsv (fields : Value) {t : List String × List String} (ht : AllNamed t) :
    (Logged.importCsv library inv principal fields).wp bookkeeping (fun _ t' => AllNamed t') t := by
  have hrows : ∀ rows, (Logged.importRows library inv principal rows).wp bookkeeping (fun _ t' => AllNamed t') t := by
    intro rows
    refine allNamed_bind ((quiet_silent _).allNamed ht) fun duplicates t' ht' => ?_
    split
    · exact ht'
    · exact wp_insertBatches _ _ _ ht'
  rw [Logged.importCsv]
  split
  · exact ht
  · exact ht
  · split
    · exact ht
    · dsimp only
      split
      · exact ht
      · exact hrows _

theorem wp_handle (route : Option Route) {t : List String × List String} (ht : AllNamed t) :
    (Logged.handle library inv principal route).wp bookkeeping (fun _ t' => AllNamed t') t := by
  cases route with
  | none => exact ht
  | some route =>
    cases route with
    | createEmployee => exact ((quiet_ofExcept _).bind fun _ => quiet_createEmployee _).allNamed ht
    | listEmployees => exact (quiet_silent _).allNamed ht
    | getEmployeeById => exact (quiet_silent _).allNamed ht
    | updateEmployee => exact ((quiet_ofExcept _).bind fun _ => quiet_updateEmployee _).allNamed ht
    | deleteEmployee => exact quiet_deleteEmployee.allNamed ht
    | importCsv => exact allNamed_bind ((quiet_ofExcept _).allNamed ht) fun fields t' ht' => wp_importCsv fields ht'
    | anonymizeEmployee => exact quiet_anonymizeEmployee.allNamed ht
    | deleteCognitoUser => exact quiet_deleteCognitoUser.allNamed ht

theorem wp_lambdaHandler {t : List String × List String} (ht : AllNamed t) :
    (Logged.lambdaHandler library inv).wp bookkeeping (fun _ t' => AllNamed t') t := by
  refine allNamed_bind ((quiet_ofExcept _).allNamed ht) fun principal t' ht' => ?_
  refine Program.wp_tryCatch.2 (Program.wp_mono (fun result t'' h => ?_) (wp_handle _ ht'))
  cases result with
  | ok _ => exact h
  | error e => exact (quiet_onError e).allNamed h

theorem flatMap_emit (line : Line) (fault : Option (PyError × Bool)) (emitted : List Line) :
    (line.emit fault emitted).2.flatMap namedNumbers = emitted.flatMap namedNumbers ++ namedNumbers line := by
  cases line with
  | log message arguments error => simp [Line.emit]
  | audit record =>
    cases fault with
    | none => simp [Line.emit]
    | some fault =>
      show (if fault.2 then emitted ++ [.audit record] else emitted).flatMap namedNumbers = _ ++ []
      split <;> simp [namedNumbers]

/-- In every run the numbers that are logged in full are those that a rollback failed for. -/
theorem failures_eq_namedNumbers (environments : Nat → Environment) (w : World) :
    (serveLogged library inv environments w).failures =
      (serveLogged library inv environments w).emitted.flatMap namedNumbers := by
  have hadvance : ∀ (s : Session) (act : Act), ((s.respond environments act).2.failures,
      (s.respond environments act).2.emitted.flatMap namedNumbers) =
        bookkeeping.advance (s.failures, s.emitted.flatMap namedNumbers) act (s.respond environments act).1 := by
    intro s act
    match act with
    | .inl c => rfl
    | .inr (.rollback phone c) => rfl
    | .inr (.emit line) =>
      show (s.failures, (line.emit _ s.emitted).2.flatMap namedNumbers) = (s.failures, _ ++ namedNumbers line)
      rw [flatMap_emit]
  exact @Program.run_of_wp _ _ _ _ _ bookkeeping (fun _ t => AllNamed t) _ (Session.respond environments)
    (fun s : Session => (s.failures, s.emitted.flatMap namedNumbers)) (fun _ _ => trivial) hadvance
    (Logged.lambdaHandler library inv) { world := w } (wp_lambdaHandler rfl)

/-- Lines of two runs are the same exactly where the numbers that they name are. -/
theorem emitted_eq_iff {emitted emitted' : List Line} (h : List.Forall₂ (LineAlike pairs) emitted emitted') :
    emitted = emitted' ↔ ∀ phone ∈ emitted.flatMap namedNumbers, pairs.paired phone phone := by
  induction h with
  | nil => simp
  | @cons line line' rest rest' hline _ ih =>
    rw [List.cons.injEq, List.flatMap_cons, List.forall_mem_append, ih]
    refine and_congr_left fun _ => ?_
    cases hline with
    | same _ hquiet => simp [hquiet]
    | @rollbackFailed p p' hp error =>
      have hsame : p = p' ↔ pairs.paired p p := by
        constructor
        · rintro rfl
          exact hp
        · exact fun hself => (pairs.eq_iff hself hp).1 rfl
      simp [namedNumbers, hsame]

/-- Two runs with other phone numbers write the same exactly where no rollback fails for a number that differs. -/
theorem serveLogged_emitted_eq_iff (hlawful : library.crypto.Lawful) (hindexing : Indexing library.crypto) {body : RawBody}
    (hbody : BodyAlike library pairs inv.event.body body) {w w' : World} (hw : WorldAlike library.crypto pairs w w')
    (environments : Nat → Environment) :
    (serveLogged library inv environments w).emitted = (serveLogged library (inv.withBody body) environments w').emitted ↔
      ∀ phone ∈ (serveLogged library inv environments w).failures, pairs.paired phone phone := by
  rw [failures_eq_namedNumbers]
  exact emitted_eq_iff (alike_serveLogged hlawful hindexing hbody hw environments)

end Renumbered

end EmployeeApi

end SafetyConfirmation
