import SafetyConfirmation.Employee.Requests

/-!
# Imports that fail

An import writes its rows in batches, and takes them back by their phone numbers when one of the batches fails. What it
leaves in the table, among other requests, in the runs in which the numbers lead back to its own rows.
-/

namespace SafetyConfirmation

namespace EmployeeApi

open KeyedStore StepMachine Interleaving EmployeeCsv Checks

/-! ### What an import writes -/

section

variable (library : Library) (inv : Invocation)

def Call.isTransactPut : Call → Bool
  | .transactPut _ => true
  | _ => false

def Call.isLookup : Call → Bool
  | .queryPhone _ | .scanBlindIndex _ _ => true
  | _ => false

def Invocation.importItems : List (String × EmployeeItem) :=
  (inv.csvRows library).zipIdx.map (inv.importItem library)

def Invocation.importIds : List String := (inv.importItems library).map Prod.fst

/-- The call looks for this number. -/
def looksFor (phone : String) : Call → Bool
  | .queryPhone number => number == phone
  | .scanBlindIndex blindIndex _ => blindIndex == library.crypto.computeBlindIndex phone
  | _ => false

/-- The ids of the import's rows with a number that the call looks for. -/
def Invocation.ownIds (c : Call) : List String :=
  ((inv.csvRows library).zipIdx.filter fun row => looksFor library row.1.phoneNumber c).map fun row => inv.uuid row.2

def Invocation.rollbackLookup (phone : String) : Call :=
  if inv.encryptionEnabled then .scanBlindIndex (library.crypto.computeBlindIndex phone) false else .queryPhone phone

end

namespace Import

section

variable (library : Library) (inv : Invocation)

/-- Whether an import has put a batch, and the ids of its rows that may be in the table. -/
structure Progress where
  started : Bool := false
  present : List String := []

def isClientError : PyError → Bool
  | .clientError _ => true
  | _ => false

/-- The ids that a lookup by number answered. -/
def foundIds : (c : Call) → Except PyError (Result c) → Option (List String)
  | .queryPhone _, .ok found => some (found.map Prod.fst)
  | .scanBlindIndex _ _, .ok found => some (found.map Prod.fst)
  | _, _ => none

/-- A row is no longer present after it was deleted, or not found. -/
def Progress.advance (progress : Progress) (c : Call) (answer : Except PyError (Result c)) : Progress :=
  match c, answer with
  | .transactPut items, .ok _ => { started := true, present := progress.present ++ items.map Prod.fst }
  | .transactPut _, .error _ => { progress with started := true }
  | .deleteItem employeeId, _ => { progress with present := progress.present.filter fun id => id != employeeId }
  | c, answer =>
    match foundIds c answer with
    | some found => if progress.started then
        { progress with present := progress.present.filter fun id => !(inv.ownIds library c).contains id || found.contains id }
      else progress
    | none => progress

/-- What an import calls, and the answers that let it take back what it put: the lookups of the rollback find its own rows
only, a failed delete was carried out, and only a `ClientError` comes after a batch. -/
def importSpec : Program.Spec Call Result PyError Progress where
  allowed _ c := match c with
    | .transactPut items => items ⊆ inv.importItems library
    | .deleteItem employeeId => employeeId ∈ inv.importIds library
    | c => c.isRead = true
  possible progress c answer := match c, answer with
    | .transactPut _, .error e => isClientError e = true ∨ progress.started = false
    | .deleteItem _, .error e => isClientError e = true
    | c, answer => progress.started = true → c.isLookup = true →
        (inv.ownIds library c).length ≤ 1 ∧ ∃ found, foundIds c answer = some found ∧ found ⊆ inv.ownIds library c
  advance := Progress.advance library inv

/-- An import that answers 201 has put all rows, and any other one has none left. -/
def ImportPost (result : Except PyError HttpResponse) (progress : Progress) : Prop :=
  progress.present = if hasStatus 201 result then inv.importIds library else []

end

variable {library : Library} {inv : Invocation}

theorem mem_importIds {employeeId : String} : employeeId ∈ inv.importIds library ↔
    ∃ row ∈ (inv.csvRows library).zipIdx, inv.uuid row.2 = employeeId := by
  simp [Invocation.importIds, Invocation.importItems, Invocation.importItem]

theorem mem_ownIds {c : Call} {employeeId : String} : employeeId ∈ inv.ownIds library c ↔
    ∃ row ∈ (inv.csvRows library).zipIdx, looksFor library row.1.phoneNumber c = true ∧ inv.uuid row.2 = employeeId := by
  simp [Invocation.ownIds, and_assoc]

theorem ownIds_subset (c : Call) : inv.ownIds library c ⊆ inv.importIds library := by
  intro employeeId hmem
  obtain ⟨row, hrow, -, rfl⟩ := mem_ownIds.1 hmem
  exact mem_importIds.2 ⟨row, hrow, rfl⟩

theorem mem_ownIds_rollbackLookup {row : EmployeeRow × Nat} (hrow : row ∈ (inv.csvRows library).zipIdx) :
    inv.uuid row.2 ∈ inv.ownIds library (inv.rollbackLookup library row.1.phoneNumber) := by
  refine mem_ownIds.2 ⟨row, hrow, ?_, rfl⟩
  rw [Invocation.rollbackLookup]
  split <;> exact beq_self_eq_true _

/-! ### The rollback -/

/-- One delete takes the row it names out of what is present, when it goes as it is expected to. -/
theorem wp_deleteItem {progress : Progress} {employeeId : String} (hmem : employeeId ∈ inv.importIds library)
    {post : Except PyError Unit → Progress → Prop}
    (hpost : ∀ result : Except PyError Unit, (∀ e, result = .error e → isClientError e = true) → post result
      { progress with present := progress.present.filter fun id => id != employeeId }) :
    (call (.deleteItem employeeId)).wp (importSpec library inv) post progress := by
  refine Program.wp_perform.2 ⟨hmem, fun answer hanswer => ?_⟩
  refine hpost answer fun e he => ?_
  subst he
  exact hanswer

theorem wp_onRollbackError {progress : Progress} {e : PyError} (he : isClientError e = true)
    {post : Except PyError Unit → Progress → Prop} (hpost : post (.ok ()) progress) :
    (Invocation.onRollbackError e).wp (importSpec library inv) post progress := by
  cases e with
  | clientError code => exact hpost
  | _ => cases he

theorem eq_of_mem_of_length_le_one {α : Type} {xs : List α} {x y : α} (hlength : xs.length ≤ 1) (hx : x ∈ xs) (hy : y ∈ xs) :
    x = y := by
  cases xs with
  | nil => exact (List.not_mem_nil hx).elim
  | cons head tail =>
    obtain rfl : tail = [] := List.eq_nil_of_length_eq_zero (Nat.le_zero.1 (Nat.le_of_succ_le_succ hlength))
    rw [List.mem_singleton.1 hx, List.mem_singleton.1 hy]

/-- What is left when a rollback of the rows `own` ends: none of them. -/
def RolledBack (own : List String) (before after : Progress) : Prop :=
  after.started = true ∧ after.present ⊆ before.present ∧ ∀ employeeId ∈ after.present, employeeId ∉ own

theorem wp_deleteFound {own : List String} (hown : own ⊆ inv.importIds library) (hlength : own.length ≤ 1)
    {before : Progress} {post : Except PyError Unit → Progress → Prop}
    (hpost : ∀ after, RolledBack own before after → post (.ok ()) after) (entries : List (String × EmployeeItem))
    (hentries : entries.map Prod.fst ⊆ own) {progress : Progress} (hstarted : progress.started = true)
    (hpresent : progress.present ⊆ before.present)
    (hleft : ∀ employeeId ∈ progress.present, employeeId ∈ own → employeeId ∈ entries.map Prod.fst) :
    (Program.tryCatch (Program.forEach (fun entry => call (.deleteItem entry.1)) entries) Invocation.onRollbackError).wp
      (importSpec library inv) post progress := by
  refine Program.wp_tryCatch.2 ?_
  induction entries generalizing progress with
  | nil =>
    exact hpost progress ⟨hstarted, hpresent, fun employeeId hmem hmine => List.not_mem_nil (hleft employeeId hmem hmine)⟩
  | cons entry entries ih =>
    rw [List.map_cons, List.cons_subset] at hentries
    have hgone : RolledBack own before
        { progress with present := progress.present.filter fun id => id != entry.1 } := by
      refine ⟨hstarted, fun employeeId hmem => hpresent (List.mem_filter.1 hmem).1, fun employeeId hmem hmine => ?_⟩
      have hne := (List.mem_filter.1 hmem).2
      rw [bne_iff_ne] at hne
      exact hne (eq_of_mem_of_length_le_one hlength hmine hentries.1)
    refine Program.wp_bind.2 (wp_deleteItem (hown hentries.1) fun result hresult => ?_)
    cases result with
    | ok _ => exact ih hentries.2 hgone.1 hgone.2.1 fun employeeId hmem hmine => (hgone.2.2 employeeId hmem hmine).elim
    | error e => exact wp_onRollbackError (hresult e rfl) (hpost _ hgone)

/-- Of the rows `own`, a lookup found all that are present: the deletes leave none of them. -/
theorem wp_deleteLookedUp {own : List String} (hown : own ⊆ inv.importIds library) (hlength : own.length ≤ 1)
    {progress : Progress} (hstarted : progress.started = true) {post : Except PyError Unit → Progress → Prop}
    (hpost : ∀ after, RolledBack own progress after → post (.ok ()) after) (found : List (String × EmployeeItem))
    (hfound : found.map Prod.fst ⊆ own) :
    (Program.tryCatch (Program.forEach (fun entry => call (.deleteItem entry.1)) found) Invocation.onRollbackError).wp
      (importSpec library inv) post
      { progress with present := progress.present.filter fun id => !own.contains id || (found.map Prod.fst).contains id } := by
  refine wp_deleteFound hown hlength hpost found hfound hstarted (List.filter_subset_self _) ?_
  intro employeeId hmem hmine
  simpa [hmine] using (List.mem_filter.1 hmem).2

theorem wp_rollbackPhone {progress : Progress} (phone : String) (hstarted : progress.started = true)
    {post : Except PyError Unit → Progress → Prop}
    (hpost : ∀ after, RolledBack (inv.ownIds library (inv.rollbackLookup library phone)) progress after →
      post (.ok ()) after) :
    (inv.rollbackPhone library phone).wp (importSpec library inv) post progress := by
  refine Program.wp_tryCatch.2 ?_
  rw [Invocation.findForRollback]
  rw [Invocation.rollbackLookup] at hpost
  cases henabled : inv.encryptionEnabled with
  | true =>
    rw [henabled, if_pos rfl] at hpost
    rw [if_pos rfl]
    refine Program.wp_bind.2 (Program.wp_perform.2 ⟨rfl, fun answer hanswer => ?_⟩)
    obtain ⟨hlength, ids, hids, hmem⟩ := hanswer hstarted rfl
    cases answer with
    | error e => cases hids
    | ok found =>
      cases hids
      show Program.wp _ _ _ (if progress.started then _ else _)
      rw [if_pos hstarted]
      exact Program.wp_tryCatch.1 (wp_deleteLookedUp (ownIds_subset _) hlength hstarted hpost found hmem)
  | false =>
    rw [henabled, if_neg Bool.false_ne_true] at hpost
    rw [if_neg Bool.false_ne_true]
    refine Program.wp_bind.2 (Program.wp_perform.2 ⟨rfl, fun answer hanswer => ?_⟩)
    obtain ⟨hlength, ids, hids, hmem⟩ := hanswer hstarted rfl
    cases answer with
    | error e => cases hids
    | ok found =>
      cases hids
      show Program.wp _ _ _ (if progress.started then _ else _)
      rw [if_pos hstarted]
      exact Program.wp_tryCatch.1 (wp_deleteLookedUp (ownIds_subset _) hlength hstarted hpost found hmem)

/-- A rollback of numbers that lead to all that is present leaves nothing. -/
theorem wp_rollbackInserted {progress : Progress} (phones : List String) (hstarted : progress.started = true)
    (hpresent : ∀ employeeId ∈ progress.present, ∃ phone ∈ phones,
      employeeId ∈ inv.ownIds library (inv.rollbackLookup library phone))
    {post : Except PyError Unit → Progress → Prop} (hpost : ∀ after : Progress, after.present = [] → post (.ok ()) after) :
    (inv.rollbackInserted library phones).wp (importSpec library inv) post progress := by
  refine @Program.wp_forEach _ _ _ _ _ _ _ _ phones
    (fun rest after => after.started = true ∧ ∀ employeeId ∈ after.present, ∃ phone ∈ rest,
      employeeId ∈ inv.ownIds library (inv.rollbackLookup library phone)) _ ⟨hstarted, hpresent⟩ ?_ ?_
  · intro phone rest before ⟨hstarted, hpresent⟩
    refine wp_rollbackPhone phone hstarted fun after hafter => ⟨hafter.1, fun employeeId hmem => ?_⟩
    obtain ⟨other, hother, hmine⟩ := hpresent employeeId (hafter.2.1 hmem)
    rcases List.mem_cons.1 hother with rfl | hother
    · exact (hafter.2.2 employeeId hmem hmine).elim
    · exact ⟨other, hother, hmine⟩
  · intro after hafter
    obtain ⟨-, hafter⟩ := hafter
    refine hpost after (List.eq_nil_iff_forall_not_mem.2 fun employeeId hmem => ?_)
    obtain ⟨phone, hphone, -⟩ := hafter employeeId hmem
    exact List.not_mem_nil hphone

/-! ### The import -/

theorem importPost_of_nothing {result : Except PyError HttpResponse} (hresult : hasStatus 201 result = false)
    {progress : Progress} (hpresent : progress.present = []) : ImportPost library inv result progress := by
  rw [ImportPost, hresult, hpresent]
  rfl

theorem importIds_eq : inv.importIds library = (inv.csvRows library).zipIdx.map fun row => inv.uuid row.2 := List.map_map

/-- Up to the first batch an import looks up only. -/
theorem ignoresReads_start : IgnoresReads (importSpec library inv) {} := by
  intro c hread
  cases c with
  | getItem | queryPhone | scanBlindIndex | scan | scanCycleIds | queryResponses =>
    refine ⟨rfl, fun answer => ?_⟩
    cases answer <;> rfl
  | _ => cases hread

/-- The loop over the batches, after those of `inserted`. -/
theorem wp_insertBatches (attempted : Nat) (inserted : List (EmployeeRow × Nat)) (rest : List (List (EmployeeRow × Nat)))
    (hrows : inserted ++ rest.flatten = (inv.csvRows library).zipIdx) {progress : Progress}
    (hpresent : progress.present = inserted.map fun row => inv.uuid row.2)
    (hstarted : progress.started = false → inserted = []) :
    (inv.insertBatches library attempted rest (inserted.map fun row => row.1.phoneNumber)).wp (importSpec library inv)
      (ImportPost library inv) progress := by
  induction rest generalizing inserted progress with
  | nil =>
    rw [List.flatten_nil, List.append_nil] at hrows
    show progress.present = inv.importIds library
    rw [hpresent, importIds_eq, hrows]
  | cons batch rest ih =>
    have hsubset : ∀ row ∈ batch, row ∈ (inv.csvRows library).zipIdx := by
      intro row hrow
      rw [← hrows, List.flatten_cons]
      exact List.mem_append_right _ (List.mem_append_left _ hrow)
    refine ⟨?_, fun answer hanswer => ?_⟩
    · intro item hitem
      obtain ⟨row, hrow, rfl⟩ := List.mem_map.1 hitem
      exact List.mem_map_of_mem (hsubset row hrow)
    · cases answer with
      | ok _ =>
        have hnext := @ih (inserted ++ batch) (by rw [List.append_assoc, ← List.flatten_cons, hrows])
          { started := true, present := progress.present ++ (batch.map (inv.importItem library)).map Prod.fst }
          (by rw [hpresent, List.map_append, List.map_map]; rfl) (fun h => nomatch h)
        rw [List.map_append] at hnext
        exact hnext
      | error e =>
        cases e with
        | clientError code =>
          refine Program.wp_bind.2 (wp_rollbackInserted _ rfl (fun employeeId hmem => ?_) fun after hafter => ?_)
          · rw [show ((importSpec library inv).advance progress _ _).present = progress.present from rfl, hpresent] at hmem
            obtain ⟨row, hrow, rfl⟩ := List.mem_map.1 hmem
            refine ⟨row.1.phoneNumber, List.mem_map_of_mem hrow, mem_ownIds_rollbackLookup ?_⟩
            rw [← hrows]
            exact List.mem_append_left _ hrow
          · exact importPost_of_nothing rfl hafter
        | _ =>
          rcases hanswer with hclient | hnothing
          · cases hclient
          · refine importPost_of_nothing rfl ?_
            show progress.present = []
            rw [hpresent, hstarted hnothing]
            rfl

theorem wp_importRows {rows : List EmployeeRow} (hrows : inv.csvRows library = rows) :
    (inv.importRows library rows).wp (importSpec library inv) (ImportPost library inv) {} := by
  refine ignoresReads_start.wp_filterRegistered (fun e => importPost_of_nothing rfl rfl) _ fun duplicates => ?_
  split
  · exact importPost_of_nothing rfl rfl
  · refine wp_insertBatches rows.length [] _ ?_ rfl fun _ => rfl
    rw [List.nil_append, flatten_batches (by decide), hrows]

theorem wp_importCsv {body : Value} (hbody : parseBody inv.event.body = .ok body) :
    (inv.importCsv library body).wp (importSpec library inv) (ImportPost library inv) {} := by
  rw [Invocation.importCsv]
  split
  · exact importPost_of_nothing rfl rfl
  · exact importPost_of_nothing rfl rfl
  · rename_i raw _ hraw
    split
    · exact importPost_of_nothing rfl rfl
    · rename_i file hfile
      dsimp only
      split
      · exact importPost_of_nothing rfl rfl
      · exact wp_importRows (csvRows_eq hbody hraw hfile)

theorem wp_lambdaHandler (hroute : Route.ofEvent inv.event = some .importCsv) :
    (inv.lambdaHandler library).wp (importSpec library inv) (ImportPost library inv) {} := by
  refine Program.wp_ofExcept_bind (fun e _ => importPost_of_nothing rfl rfl) fun _ _ => Program.wp_tryCatch.2 ?_
  refine @Program.wp_mono _ _ _ _ _ _ (ImportPost library inv) _ _ ?_ _ ?_
  · intro result progress hresult
    cases result with
    | ok response => exact hresult
    | error e =>
      show (Invocation.onError e).wp _ _ _
      unfold Invocation.onError
      split
      · exact importPost_of_nothing rfl hresult
      · split
        · exact importPost_of_nothing rfl hresult
        · exact hresult
      · exact hresult
  · rw [hroute]
    exact Program.wp_ofExcept_bind (fun e _ => importPost_of_nothing rfl rfl) fun body hbody => wp_importCsv hbody

/-! ### Among other requests -/

section

variable (library : Library) (inv : Invocation) (i : Nat)

/-- The table as the other requests alone leave it. -/
def without (start : World) (log : List LoggedCall) : World :=
  replay (service library) start (log.filter fun entry => entry.thread != i)

/-- Another request has written the row. -/
def touched (employeeId : String) (log : List LoggedCall) : Bool :=
  log.any fun entry => entry.thread != i && entry.environment.carriesOut && entry.call.names employeeId

def hasPut (log : List LoggedCall) : Bool := log.any fun entry => entry.thread == i && entry.call.isTransactPut

/-- A call of the import goes as its rollback needs it: a batch that fails was not committed, with a `ClientError` where
there were others before it, a lookup of the rollback finds the import's own row for the number and no other one, and its
delete is carried out. -/
def recovers (w : World) (log : List LoggedCall) (environment : Environment) : Call → Bool
  | .transactPut _ => environment.fault.all fun fault => !fault.applied && (isClientError fault.error || !hasPut i log)
  | .deleteItem _ => environment.fault.all fun fault => fault.applied && isClientError fault.error
  | c => !(hasPut i log && c.isLookup) || (environment.fault.isNone && decide ((inv.ownIds library c).length ≤ 1) &&
      w.employees.rows.all fun entry =>
        (finds entry.2 c && environment.page entry.1) == (inv.ownIds library c).contains entry.1)

/-- A call of the import goes as its rollback needs it, and one of another request makes no row of the import anew. -/
def recoverable (p : Requests) : RequestLabel → Bool
  | .start _ => true
  | .call j environment =>
    match p.threads[j]?.bind Thread.call? with
    | none => true
    | some c =>
      if j = i then recovers library inv i p.world p.log environment c
      else !environment.carriesOut || (inv.importIds library).all fun employeeId =>
        (p.world.employees.lookup employeeId).isSome || (c.row employeeId none).isNone

/-- After a 201 the table holds the rows of the import in addition, where no other request wrote them since, and after any
other end it is as the other requests alone leave it. -/
def AllOrNothing (start w : World) (log : List LoggedCall) (result : Except PyError HttpResponse) : Prop :=
  (∀ employeeId, employeeId ∉ inv.importIds library →
    w.employees.lookup employeeId = (without library i start log).employees.lookup employeeId) ∧
  if hasStatus 201 result then
    ∀ entry ∈ inv.importItems library, touched i entry.1 log = false → w.employees.lookup entry.1 = some entry.2
  else ∀ employeeId ∈ inv.importIds library, w.employees.lookup employeeId = none

/-- The rows of the import in the table are those that its calls leave there. -/
structure Matches (employees : Store String EmployeeItem) (present : List String) (log : List LoggedCall) : Prop where
  absent : ∀ employeeId ∈ inv.importIds library, employeeId ∉ present → employees.lookup employeeId = none
  stored : ∀ entry ∈ inv.importItems library, entry.1 ∈ present → touched i entry.1 log = false →
    employees.lookup entry.1 = some entry.2

end

variable {i : Nat} {start w : World} {log : List LoggedCall} {environment : Environment} {c : Call}

theorem started_reached (log : List LoggedCall) : (reached (importSpec library inv) {} i log).started = hasPut i log := by
  induction log with
  | nil => rfl
  | cons entry log ih =>
    by_cases hthread : entry.thread = i
    · subst hthread
      have hadvance : ∀ progress : Progress, ((importSpec library inv).advance progress entry.call entry.answer).started =
          (entry.call.isTransactPut || progress.started) := by
        intro progress
        obtain ⟨j, environment, c, answer⟩ := entry
        cases c with
        | transactPut items => cases answer <;> rfl
        | queryPhone | scanBlindIndex =>
          cases answer with
          | error e => rfl
          | ok found =>
            show (if progress.started then _ else _ : Progress).started = progress.started
            split <;> rfl
        | _ => rfl
      rw [reached_cons_self, hadvance, ih, hasPut, hasPut, List.any_cons]
      simp
    · rw [reached_cons_ne _ _ hthread, ih, hasPut, hasPut, List.any_cons]
      simp [hthread]

/-- What a lookup finds when it is answered. -/
theorem foundIds_respond (hlookup : c.isLookup = true) (hfault : environment.fault = none) :
    foundIds c (respond w environment c).1 =
      some ((w.employees.rows.filter fun entry => finds entry.2 c && environment.page entry.1).map Prod.fst) := by
  rw [respond, hfault]
  cases c with
  | queryPhone | scanBlindIndex => rfl
  | _ => cases hlookup

theorem lookup_of_recovers (hlookup : c.isLookup = true) (hput : hasPut i log = true)
    (hrecovers : recovers library inv i w log environment c = true) : environment.fault = none ∧
      (inv.ownIds library c).length ≤ 1 ∧ ∀ entry ∈ w.employees.rows,
        ((finds entry.2 c && environment.page entry.1) = true ↔ entry.1 ∈ inv.ownIds library c) := by
  have hall : environment.fault.isNone = true ∧ (inv.ownIds library c).length ≤ 1 ∧ ∀ entry ∈ w.employees.rows,
      (finds entry.2 c && environment.page entry.1) = (inv.ownIds library c).contains entry.1 := by
    cases c with
    | queryPhone | scanBlindIndex =>
      unfold recovers at hrecovers
      dsimp only at hrecovers
      rw [hput, hlookup, Bool.true_and, Bool.not_true, Bool.false_or, Bool.and_eq_true, Bool.and_eq_true,
        List.all_eq_true] at hrecovers
      exact ⟨hrecovers.1.1, of_decide_eq_true hrecovers.1.2, fun entry hentry => beq_iff_eq.1 (hrecovers.2 entry hentry)⟩
    | _ => cases hlookup
  refine ⟨Option.isNone_iff_eq_none.1 hall.1, hall.2.1, fun entry hentry => ?_⟩
  rw [hall.2.2 entry hentry, List.contains_iff_mem]

theorem transactPut_of_recovers {items : List (String × EmployeeItem)} {fault : Fault} (hfault : environment.fault = some fault)
    (hrecovers : recovers library inv i w log environment (.transactPut items) = true) :
    fault.applied = false ∧ (isClientError fault.error = true ∨ hasPut i log = false) := by
  simpa [recovers, hfault] using hrecovers

theorem deleteItem_of_recovers {employeeId : String} {fault : Fault} (hfault : environment.fault = some fault)
    (hrecovers : recovers library inv i w log environment (.deleteItem employeeId) = true) :
    fault.applied = true ∧ isClientError fault.error = true := by
  simpa [recovers, hfault] using hrecovers

theorem possible_of_recovers {progress : Progress} (hstarted : progress.started = hasPut i log)
    (hrecovers : recovers library inv i w log environment c = true) :
    (importSpec library inv).possible progress c (respond w environment c).1 := by
  have hlookups : c.isLookup = true → progress.started = true → c.isLookup = true →
      (inv.ownIds library c).length ≤ 1 ∧ ∃ found, foundIds c (respond w environment c).1 = some found ∧
        found ⊆ inv.ownIds library c := by
    intro hlookup hput _
    obtain ⟨hfault, hlength, hfinds⟩ := lookup_of_recovers hlookup (hstarted ▸ hput) hrecovers
    refine ⟨hlength, _, foundIds_respond hlookup hfault, fun employeeId hmem => ?_⟩
    obtain ⟨entry, hentry, rfl⟩ := List.mem_map.1 hmem
    rw [List.mem_filter] at hentry
    exact (hfinds entry hentry.1).1 hentry.2
  cases c with
  | transactPut items =>
    rw [respond]
    cases hfault : environment.fault with
    | none => exact fun _ hlookup => absurd hlookup Bool.false_ne_true
    | some fault =>
      exact (transactPut_of_recovers hfault hrecovers).2.imp_right fun hnone => hstarted.trans hnone
  | deleteItem employeeId =>
    rw [respond]
    cases hfault : environment.fault with
    | none => exact fun _ hlookup => absurd hlookup Bool.false_ne_true
    | some fault => exact (deleteItem_of_recovers hfault hrecovers).2
  | queryPhone phoneNumber => exact hlookups rfl
  | scanBlindIndex blindIndex activeOnly => exact hlookups rfl
  | _ => exact fun _ hlookup => absurd hlookup Bool.false_ne_true

theorem Matches.of_lookup_eq {employees employees' : Store String EmployeeItem} {present : List String}
    (h : Matches library inv i employees present log) (heq : ∀ employeeId, employees'.lookup employeeId = employees.lookup employeeId) :
    Matches library inv i employees' present log :=
  ⟨fun employeeId hmem hgone => (heq employeeId).trans (h.absent employeeId hmem hgone),
    fun entry hentry hmem huntouched => (heq entry.1).trans (h.stored entry hentry hmem huntouched)⟩

theorem Matches.transactPut {progress : Progress} {items : List (String × EmployeeItem)} (hnodup : (inv.importIds library).Nodup)
    (hitems : items ⊆ inv.importItems library)
    (hrecovers : recovers library inv i w log environment (.transactPut items) = true)
    (h : Matches library inv i w.employees progress.present log) :
    Matches library inv i (respond w environment (.transactPut items)).2.employees
      ((importSpec library inv).advance progress (.transactPut items)
        (respond w environment (.transactPut items)).1).present log := by
  cases hfault : environment.fault with
  | some fault =>
    have hanswer : (respond w environment (.transactPut items)).1 = .error fault.error := by rw [respond, hfault]
    rw [hanswer]
    refine h.of_lookup_eq fun employeeId => ?_
    rw [lookup_respond, Environment.carriesOut, hfault, Option.all_some, (transactPut_of_recovers hfault hrecovers).1]
    rfl
  | none =>
    have hanswer : (respond w environment (.transactPut items)).1 = .ok () := by
      rw [respond, hfault]
      rfl
    have hlookup : ∀ employeeId, (respond w environment (.transactPut items)).2.employees.lookup employeeId =
        (Call.transactPut items).row employeeId (w.employees.lookup employeeId) := by
      intro employeeId
      rw [lookup_respond, Environment.carriesOut, hfault]
      rfl
    rw [hanswer]
    constructor
    · intro employeeId hmem hgone
      obtain ⟨hbefore, hput⟩ := not_or.1 (mt List.mem_append.2 hgone)
      rw [hlookup, Call.row, foldl_put_of_not_mem _ hput]
      exact h.absent employeeId hmem hbefore
    · intro entry hentry hmem huntouched
      rw [hlookup, Call.row]
      by_cases hput : entry.1 ∈ items.map Prod.fst
      · obtain ⟨item, hitem, hfold⟩ := foldl_put_of_mem (w.employees.lookup entry.1) hput
        rw [hfold, ← List.inj_on_of_nodup_map hnodup (hitems hitem) hentry rfl]
      · rw [foldl_put_of_not_mem _ hput]
        exact h.stored entry hentry ((List.mem_append.1 hmem).resolve_right hput) huntouched

theorem Matches.deleteItem {progress : Progress} {employeeId : String}
    (hrecovers : recovers library inv i w log environment (.deleteItem employeeId) = true)
    (h : Matches library inv i w.employees progress.present log) :
    Matches library inv i (respond w environment (.deleteItem employeeId)).2.employees
      ((importSpec library inv).advance progress (.deleteItem employeeId)
        (respond w environment (.deleteItem employeeId)).1).present log := by
  have hcarriesOut : environment.carriesOut = true := by
    rw [Environment.carriesOut]
    cases hfault : environment.fault with
    | none => rfl
    | some fault => exact (deleteItem_of_recovers hfault hrecovers).1
  have hlookup : ∀ id, (respond w environment (.deleteItem employeeId)).2.employees.lookup id =
      if id = employeeId then none else w.employees.lookup id := by
    intro id
    rw [lookup_respond, if_pos hcarriesOut, Call.row]
  constructor
  · intro id hmem hgone
    rw [hlookup]
    split
    · rfl
    · rename_i hne
      exact h.absent id hmem fun hpresent => hgone (List.mem_filter.2 ⟨hpresent, bne_iff_ne.2 hne⟩)
  · intro entry hentry hmem huntouched
    obtain ⟨hpresent, hne⟩ := List.mem_filter.1 hmem
    rw [hlookup, if_neg (bne_iff_ne.1 hne)]
    exact h.stored entry hentry hpresent huntouched

theorem Matches.read {progress : Progress} (hread : c.isRead = true) (hstarted : progress.started = hasPut i log)
    (hrecovers : recovers library inv i w log environment c = true)
    (h : Matches library inv i w.employees progress.present log) :
    Matches library inv i (respond w environment c).2.employees
      ((importSpec library inv).advance progress c (respond w environment c).1).present log := by
  have hlookup : ∀ employeeId, (respond w environment c).2.employees.lookup employeeId = w.employees.lookup employeeId := by
    intro employeeId
    rw [lookup_respond, row_of_not_names _ (names_of_isRead hread), ite_self]
  have hadvance : (importSpec library inv).advance progress c (respond w environment c).1 =
      match foundIds c (respond w environment c).1 with
      | some found => if progress.started then
          { progress with present := progress.present.filter fun id => !(inv.ownIds library c).contains id || found.contains id }
        else progress
      | none => progress := by
    cases c <;> first | rfl | cases hread
  cases hput : progress.started with
  | false =>
    have hsame : (importSpec library inv).advance progress c (respond w environment c).1 = progress := by
      rw [hadvance]
      split
      · exact if_neg (by rw [hput]; exact Bool.false_ne_true)
      · rfl
    rw [hsame]
    exact h.of_lookup_eq hlookup
  | true =>
    cases hisLookup : c.isLookup with
    | false =>
      rw [hadvance, show foundIds c (respond w environment c).1 = none by cases c <;> first | rfl | cases hisLookup]
      exact h.of_lookup_eq hlookup
    | true =>
      obtain ⟨hfault, -, hfinds⟩ := lookup_of_recovers hisLookup (hstarted ▸ hput) hrecovers
      rw [hadvance, foundIds_respond hisLookup hfault]
      dsimp only
      rw [if_pos hput]
      constructor
      · intro employeeId hmem hgone
        rw [hlookup]
        cases hrow : w.employees.lookup employeeId with
        | none => rfl
        | some item =>
          have hpresent : employeeId ∈ progress.present := by
            by_contra hnot
            rw [h.absent employeeId hmem hnot] at hrow
            cases hrow
          refine absurd (List.mem_filter.2 ⟨hpresent, ?_⟩) hgone
          by_cases hown : employeeId ∈ inv.ownIds library c
          · have hfound := (hfinds (employeeId, item) (Store.mem_rows.2 hrow)).2 hown
            rw [Bool.or_eq_true, List.contains_iff_mem]
            exact .inr (List.mem_map_of_mem (List.mem_filter.2 ⟨Store.mem_rows.2 hrow, hfound⟩))
          · simp [hown]
      · intro entry hentry hmem huntouched
        rw [hlookup]
        exact h.stored entry hentry (List.mem_filter.1 hmem).1 huntouched

theorem Matches.other {present : List String} {answer : Except PyError (Result c)} {j : Nat} (hij : j ≠ i)
    (hfresh : environment.carriesOut = true → ∀ employeeId ∈ inv.importIds library,
      w.employees.lookup employeeId = none → c.row employeeId none = none)
    (h : Matches library inv i w.employees present log) :
    Matches library inv i (respond w environment c).2.employees present (⟨j, environment, c, answer⟩ :: log) := by
  constructor
  · intro employeeId hmem hgone
    have hnone := h.absent employeeId hmem hgone
    rw [lookup_respond]
    split
    · rename_i happlied
      rw [hnone]
      exact hfresh happlied employeeId hmem hnone
    · exact hnone
  · intro entry hentry hmem huntouched
    rw [touched, List.any_cons, Bool.or_eq_false_iff] at huntouched
    rw [lookup_respond]
    split
    · rename_i happlied
      have hnames : c.names entry.1 = false := by simpa [hij, happlied] using huntouched.1
      rw [row_of_not_names _ hnames]
      exact h.stored entry hentry hmem huntouched.2
    · exact h.stored entry hentry hmem huntouched.2

theorem without_cons_self {entry : LoggedCall} (hthread : entry.thread = i) :
    without library i start (entry :: log) = without library i start log := by
  simp [without, hthread]

theorem without_cons_ne {entry : LoggedCall} (hthread : entry.thread ≠ i) : without library i start (entry :: log) =
    (respond (without library i start log) entry.environment entry.call).2 := by
  rw [without, List.filter_cons, if_pos (bne_iff_ne.2 hthread)]
  rfl

/-- The import is as far as its calls have brought it, and what it does not own is as the others leave it. -/
structure Accounted (library : Library) (inv : Invocation) (i : Nat) (start : World) (p : Requests) : Prop where
  follows : FollowsAt (importSpec library inv) {} (ImportPost library inv) i p
  outside : ∀ employeeId, employeeId ∉ inv.importIds library →
    p.world.employees.lookup employeeId = (without library i start p.log).employees.lookup employeeId
  rows : Matches library inv i p.world.employees (reached (importSpec library inv) {} i p.log).present p.log

/-- A call of the import names rows of its own only. -/
theorem names_of_allowed {progress : Progress} (hallowed : (importSpec library inv).allowed progress c) {employeeId : String}
    (hother : employeeId ∉ inv.importIds library) : c.names employeeId = false := by
  cases c with
  | transactPut items =>
    rw [Call.names, List.any_eq_false]
    intro entry hentry hsame
    rw [← beq_iff_eq.1 hsame] at hother
    exact hother (List.mem_map_of_mem (hallowed hentry))
  | deleteItem id =>
    rw [Call.names, beq_eq_false_iff_ne]
    rintro rfl
    exact hother hallowed
  | putItem | updateItem => cases hallowed
  | _ => rfl

theorem accounted_step (hnodup : (inv.importIds library).Nodup) {p t : Requests} {label : RequestLabel}
    (hp : Accounted library inv i start p) (hguard : recoverable library inv i p label = true)
    (h : step (service library) p label = some t) : Accounted library inv i start t := by
  have hfollows : FollowsAt (importSpec library inv) {} (ImportPost library inv) i t := by
    refine followsAt_step hp.follows (fun environment request c next hlabel hthread => ?_) h
    subst hlabel
    rw [recoverable, hthread] at hguard
    exact possible_of_recovers (started_reached _) (by simpa [Thread.call?] using hguard)
  cases step_cases h with
  | start request hadmits => exact ⟨hfollows, hp.outside, hp.rows⟩
  | call j environment request c next hthread =>
    rw [recoverable, hthread] at hguard
    by_cases hij : j = i
    · subst j
      have hrecovers : recovers library inv i p.world p.log environment c = true := by simpa [Thread.call?] using hguard
      have hallowed := hp.follows.allowed hthread
      refine ⟨hfollows, fun employeeId hother => ?_, ?_⟩
      · have hwithout : without library i start (afterCall (service library) p i environment request c next).log =
            without library i start p.log := without_cons_self rfl
        rw [hwithout, ← hp.outside employeeId hother]
        show (respond p.world environment c).2.employees.lookup employeeId = _
        rw [lookup_respond, row_of_not_names _ (names_of_allowed hallowed hother), ite_self]
      · rw [show reached (importSpec library inv) {} i (afterCall (service library) p i environment request c next).log = _ from
          reached_cons_self (importSpec library inv) {} _ p.log]
        have hrows : Matches library inv i (respond p.world environment c).2.employees
            ((importSpec library inv).advance (reached (importSpec library inv) {} i p.log) c
              (respond p.world environment c).1).present p.log := by
          cases c with
          | transactPut items => exact hp.rows.transactPut hnodup hallowed hrecovers
          | deleteItem employeeId => exact hp.rows.deleteItem hrecovers
          | _ => exact hp.rows.read hallowed (started_reached _) hrecovers
        refine ⟨hrows.absent, fun entry hentry hmem huntouched => hrows.stored entry hentry hmem ?_⟩
        exact (Bool.or_eq_false_iff.1 (show (_ || touched i entry.1 p.log) = false from huntouched)).2
    · have hfresh : environment.carriesOut = true → ∀ employeeId ∈ inv.importIds library,
          p.world.employees.lookup employeeId = none → c.row employeeId none = none := by
        intro happlied employeeId hmem hnone
        have hall : ∀ employeeId ∈ inv.importIds library,
            (p.world.employees.lookup employeeId).isSome = true ∨ c.row employeeId none = none := by
          simpa [Thread.call?, hij, happlied] using hguard
        rcases hall employeeId hmem with hsome | hrow
        · rw [hnone] at hsome
          cases hsome
        · exact hrow
      refine ⟨hfollows, fun employeeId hother => ?_, ?_⟩
      · have hwithout : without library i start (afterCall (service library) p j environment request c next).log =
            (respond (without library i start p.log) environment c).2 := without_cons_ne hij
        rw [hwithout, lookup_respond]
        show (respond p.world environment c).2.employees.lookup employeeId = _
        rw [lookup_respond, hp.outside employeeId hother]
      · rw [show reached (importSpec library inv) {} i (afterCall (service library) p j environment request c next).log = _ from
          reached_cons_ne (importSpec library inv) {} (by exact hij) p.log]
        exact hp.rows.other hij hfresh

/-- An import that goes as its rollback needs it is all or nothing, whatever state it starts in and whatever other
requests there are. -/
theorem allOrNothing_of_recoverable (library : Library) (inv : Invocation) (i : Nat)
    (hroute : Route.ofEvent inv.event = some .importCsv) (p : Requests) (hlog : p.log = [])
    (hthread : p.threads[i]? = some { request := inv, program := inv.lambdaHandler library })
    (hnodup : (inv.importIds library).Nodup)
    (hunused : ∀ employeeId ∈ inv.importIds library, p.world.employees.lookup employeeId = none)
    (labels : List RequestLabel)
    (hguard : Guarded (step (service library)) (fun p label => recoverable library inv i p label = true) p labels)
    (t : Requests) (hrun : exec (step (service library)) p labels = some t)
    (thread : Thread Invocation Call Result PyError HttpResponse) (hlast : t.threads[i]? = some thread)
    (result : Except PyError HttpResponse) (hresult : thread.result? = some result) :
    AllOrNothing library inv i p.world t.world t.log result := by
  have hstart : Accounted library inv i p.world p := by
    refine ⟨⟨_, hthread, ?_⟩, fun employeeId _ => ?_, fun employeeId hmem _ => hunused employeeId hmem,
      fun entry _ hmem _ => ?_⟩
    · rw [hlog]
      exact wp_lambdaHandler hroute
    · rw [hlog]
      rfl
    · rw [hlog] at hmem
      exact (List.not_mem_nil hmem).elim
  have ht : Accounted library inv i p.world t :=
    invariant_of_guarded (fun _ _ _ hp hguard h => accounted_step hnodup hp hguard h) hstart hguard hrun
  have hpost := ht.follows.result hlast hresult
  rw [ImportPost] at hpost
  refine ⟨ht.outside, ?_⟩
  cases hcreated : hasStatus 201 result with
  | true =>
    rw [hcreated, if_pos rfl] at hpost
    rw [if_pos rfl]
    intro entry hentry huntouched
    refine ht.rows.stored entry hentry ?_ huntouched
    rw [hpost]
    exact List.mem_map_of_mem hentry
  | false =>
    rw [hcreated, if_neg Bool.false_ne_true] at hpost
    rw [if_neg Bool.false_ne_true]
    intro employeeId hmem
    refine ht.rows.absent employeeId hmem ?_
    rw [hpost]
    exact List.not_mem_nil

/-- A file of one row. -/
def csvLibrary : Library where
  crypto := .marked
  decodeCsv raw :=
    if raw = "bmFtZSxwaG9uZU51bWJlcgpTYXRvLDA5MDEyMzQ1Njc4Cg==" then
      .ok { size := 34, text := some { records := [["name", "phoneNumber"], ["Sato", "09012345678"]] } }
    else .error "Incorrect padding"
  anonymizeEmployeeId employeeId _ := employeeId

def upload : Invocation where
  event := {
    httpMethod := "POST"
    resource := "/employees/import"
    body := .json (.dict [("csvBase64", .str "bmFtZSxwaG9uZU51bWJlcgpTYXRvLDA5MDEyMzQ1Njc4Cg==")]) }
  uuid _ := "r0"

def uploading : Requests where
  world := {}
  threads := [{ request := upload, program := upload.lambdaHandler csvLibrary }]

/-- The import among the steps of a creation, with the batch that goes as this environment says. -/
def uploadWith (environment : Environment) : List RequestLabel :=
  [.start (creation "e1" "Suzuki" "+819087654321"), .call 1 {}, .call 0 {}, .call 1 {}, .call 0 environment]

/-- A batch that was committed although its call timed out stays in the table. -/
theorem not_allOrNothing_upload : ∃ t thread result,
    exec (step (service csvLibrary)) uploading (uploadWith { fault := some ⟨.other "ReadTimeoutError", true⟩ }) = some t ∧
    t.threads[0]? = some thread ∧ thread.result? = some result ∧
    ¬ AllOrNothing csvLibrary upload 0 uploading.world t.world t.log result := by
  obtain ⟨t, hrun⟩ := Option.isSome_iff_exists.1 (show (exec (step (service csvLibrary)) uploading
    (uploadWith { fault := some ⟨.other "ReadTimeoutError", true⟩ })).isSome = true by decide)
  have hended : (exec (step (service csvLibrary)) uploading (uploadWith { fault := some ⟨.other "ReadTimeoutError", true⟩ })).map
      (fun t => ((t.threads[0]?.bind Thread.result?).map (hasStatus 201), (t.world.employees.lookup "r0").isSome)) =
        some (some false, true) := by decide
  rw [hrun, Option.map_some, Option.some.injEq, Prod.mk.injEq, Option.map_eq_some_iff] at hended
  obtain ⟨⟨result, hend, hfailed⟩, hleft⟩ := hended
  obtain ⟨thread, hthread, hresult⟩ := Option.bind_eq_some_iff.1 hend
  refine ⟨t, thread, result, hrun, hthread, hresult, fun hall => ?_⟩
  have hnone := hall.2
  rw [hfailed, if_neg Bool.false_ne_true] at hnone
  rw [hnone "r0" (by decide)] at hleft
  cases hleft

/-- A file of 26 rows, which are two batches. -/
def twoBatches : List (List String) :=
  ["name", "phoneNumber"] :: (List.range 26).map fun n =>
    ["A", String.ofList ("090000000".toList ++ [Char.ofNat (48 + n / 10), Char.ofNat (48 + n % 10)])]

/-- The same file as it is uploaded. -/
def twoBatchesBase64 : String :=
  "bmFtZSxwaG9uZU51bWJlcgpBLDA5MDAwMDAwMDAwCkEsMDkwMDAwMDAwMDEKQSwwOTAwMDAwMDAwMgpBLDA5MDAwMDAwMDAzCkEs" ++
  "MDkwMDAwMDAwMDQKQSwwOTAwMDAwMDAwNQpBLDA5MDAwMDAwMDA2CkEsMDkwMDAwMDAwMDcKQSwwOTAwMDAwMDAwOApBLDA5MDAw" ++
  "MDAwMDA5CkEsMDkwMDAwMDAwMTAKQSwwOTAwMDAwMDAxMQpBLDA5MDAwMDAwMDEyCkEsMDkwMDAwMDAwMTMKQSwwOTAwMDAwMDAx" ++
  "NApBLDA5MDAwMDAwMDE1CkEsMDkwMDAwMDAwMTYKQSwwOTAwMDAwMDAxNwpBLDA5MDAwMDAwMDE4CkEsMDkwMDAwMDAwMTkKQSww" ++
  "OTAwMDAwMDAyMApBLDA5MDAwMDAwMDIxCkEsMDkwMDAwMDAwMjIKQSwwOTAwMDAwMDAyMwpBLDA5MDAwMDAwMDI0CkEsMDkwMDAw" ++
  "MDAwMjUK"

def twoBatchLibrary : Library where
  crypto := .marked
  decodeCsv _ := .ok { size := 381, text := some { records := twoBatches } }
  anonymizeEmployeeId employeeId _ := employeeId

def uploadOfTwo : Invocation where
  event := {
    httpMethod := "POST"
    resource := "/employees/import"
    body := .json (.dict [("csvBase64", .str twoBatchesBase64)]) }
  uuid n := String.ofList (List.replicate (n + 1) 'r')

def uploadingTwo : Requests where
  world := {}
  threads := [{ request := uploadOfTwo, program := uploadOfTwo.lambdaHandler twoBatchLibrary }]

/-- The lookups and the first batch, among the steps of a creation, and then the second batch, which is canceled. -/
def secondBatchCanceled : List RequestLabel :=
  [.start (creation "e1" "Suzuki" "+819087654321"), .call 1 {}] ++ List.replicate 27 (.call 0 {}) ++
    [.call 1 {}, .call 0 { fault := some ⟨.clientError "TransactionCanceledException", false⟩ }]

/-- The rollback looks up each number of the first batch and deletes the row it finds. -/
def canceledUpload : List RequestLabel := secondBatchCanceled ++ List.replicate 50 (.call 0 {})

theorem canceledUpload_runs :
    (uploadOfTwo.importIds twoBatchLibrary).Nodup ∧
    Guarded (step (service twoBatchLibrary)) (fun p label => recoverable twoBatchLibrary uploadOfTwo 0 p label = true)
      uploadingTwo canceledUpload ∧
    (exec (step (service twoBatchLibrary)) uploadingTwo secondBatchCanceled).map
      (fun t => t.world.employees.keys.length) = some 26 ∧
    (exec (step (service twoBatchLibrary)) uploadingTwo canceledUpload).map
      (fun t => (t.world.employees.keys, (t.threads[0]?.bind Thread.result?).map (hasStatus 500))) =
        some (["e1"], some true) := by
  decide +kernel

/-- The first batch is in the table with the created row, the second one fails, and the rollback leaves the created row. -/
theorem allOrNothing_upload :
    (exec (step (service twoBatchLibrary)) uploadingTwo secondBatchCanceled).map
      (fun t => t.world.employees.keys.length) = some 26 ∧
    ∃ t thread result, exec (step (service twoBatchLibrary)) uploadingTwo canceledUpload = some t ∧
      t.threads[0]? = some thread ∧ thread.result? = some result ∧ hasStatus 500 result = true ∧
      t.world.employees.keys = ["e1"] ∧
      AllOrNothing twoBatchLibrary uploadOfTwo 0 uploadingTwo.world t.world t.log result := by
  obtain ⟨hnodup, hguarded, hfirst, hended⟩ := canceledUpload_runs
  obtain ⟨t, hrun, hlast⟩ := Option.map_eq_some_iff.1 hended
  rw [Prod.mk.injEq, Option.map_eq_some_iff] at hlast
  obtain ⟨hkeys, result, hend, hfailed⟩ := hlast
  obtain ⟨thread, hthread, hresult⟩ := Option.bind_eq_some_iff.1 hend
  refine ⟨hfirst, t, thread, result, hrun, hthread, hresult, hfailed, hkeys, ?_⟩
  refine allOrNothing_of_recoverable twoBatchLibrary uploadOfTwo 0 rfl uploadingTwo rfl rfl hnodup ?_ canceledUpload
    hguarded t hrun thread hthread result hresult
  intro employeeId _
  rfl

end Import

end EmployeeApi

end SafetyConfirmation
