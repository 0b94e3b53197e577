import SafetyConfirmation.Lib.Interleaving
import SafetyConfirmation.Employee.Conduct

/-!
# EmployeeApi requests at the same time

Any number of invocations, one call of one of them at a step, and what a call leaves of each row.
-/

namespace SafetyConfirmation

namespace EmployeeApi

open KeyedStore StepMachine Interleaving

abbrev Requests := Pool Invocation Call Result PyError HttpResponse Environment World

abbrev LoggedCall := Entry Call Result PyError Environment

abbrev RequestLabel := Label Invocation Environment

def service (library : Library) (admits : List Invocation → Invocation → Bool := fun _ _ => true) :
    Service Invocation Call Result PyError HttpResponse Environment World where
  respond := respond
  handler := Invocation.lambdaHandler library
  admits := admits

/-- What the invocation of a thread has seen. -/
def seen (i : Nat) (log : List LoggedCall) : History :=
  (log.filter fun entry => entry.thread == i).map fun entry => ⟨entry.call, entry.answer⟩

/-- The invocation ends with an answer of this status. -/
def hasStatus (statusCode : Nat) : Except PyError HttpResponse → Bool
  | .ok response => response.statusCode == statusCode
  | .error _ => false

/-- The rows of the file that is uploaded, none where it cannot be read. -/
def Invocation.csvRows (library : Library) (inv : Invocation) : List EmployeeCsv.EmployeeRow :=
  match parseBody inv.event.body with
  | .error _ => []
  | .ok body =>
    match (body.get? "csvBase64").bind Value.asStr? with
    | none => []
    | some raw =>
      match library.decodeCsv raw with
      | .error _ => []
      | .ok file => (EmployeeCsv.parseEmployeeCsv file).rows

variable {library : Library} {admits : List Invocation → Invocation → Bool} {labels : List RequestLabel} {p t : Requests}

theorem reached_eq_seen (inv : Invocation) (i : Nat) (log : List LoggedCall) :
    reached (conduct library inv) [] i log = seen i log := by
  induction log with
  | nil => rfl
  | cons entry log ih =>
    by_cases hthread : entry.thread = i
    · subst hthread
      rw [reached_cons_self, ih]
      simp [seen, conduct]
    · rw [reached_cons_ne _ _ hthread, ih]
      simp [seen, hthread]

theorem mem_seen {i : Nat} {log : List LoggedCall} {seenCall : Sigma fun c : Call => Except PyError (Result c)} :
    seenCall ∈ seen i log ↔ ∃ entry ∈ log, entry.thread = i ∧ (⟨entry.call, entry.answer⟩ : Sigma _) = seenCall := by
  simp [seen, and_assoc]

/-- Every thread keeps to the conduct. -/
def Conducted (library : Library) (p : Requests) : Prop :=
  Follows (conduct library) (fun _ => []) (Outcome library) p

theorem conducted_step {label : RequestLabel} (hp : Conducted library p) (h : step (service library admits) p label = some t) :
    Conducted library t :=
  follows_step hp (wp_lambdaHandler library) (fun _ _ _ _ _ _ _ => trivial) h

theorem Conducted.permitted {i : Nat} {inv : Invocation} {c : Call} {next : Except PyError (Result c) → Action HttpResponse}
    (h : Conducted library p) (hthread : p.threads[i]? = some { request := inv, program := .call c next }) :
    Permitted library inv (seen i p.log) c := by
  have hallowed := h.allowed hthread
  rw [reached_eq_seen] at hallowed
  exact hallowed

theorem Conducted.outcome {i : Nat} {thread : Thread Invocation Call Result PyError HttpResponse}
    {result : Except PyError HttpResponse} (h : Conducted library p) (hthread : p.threads[i]? = some thread)
    (hresult : thread.result? = some result) : Outcome library thread.request result (seen i p.log) := by
  have hpost := h.result hthread hresult
  rw [reached_eq_seen] at hpost
  exact hpost

/-! ### The parts of an import -/

theorem csvRows_eq {inv : Invocation} {body : Value} {raw : String} {file : EmployeeCsv.File}
    (hbody : parseBody inv.event.body = .ok body) (hraw : (body.get? "csvBase64").bind Value.asStr? = some raw)
    (hfile : library.decodeCsv raw = .ok file) : inv.csvRows library = (EmployeeCsv.parseEmployeeCsv file).rows := by
  rw [Invocation.csvRows, hbody]
  dsimp only
  rw [hraw]
  dsimp only
  rw [hfile]

/-- To this specification, here, the calls that change nothing are allowed and tell nothing. -/
def IgnoresReads {τ : Type} (spec : Program.Spec Call Result PyError τ) (known : τ) : Prop :=
  ∀ c : Call, c.isRead = true → spec.allowed known c ∧ ∀ answer, spec.advance known c answer = known

namespace IgnoresReads

variable {τ β : Type} {spec : Program.Spec Call Result PyError τ} {known : τ} {post : Except PyError β → τ → Prop}

theorem wp_read (h : IgnoresReads spec known) {c : Call} (hread : c.isRead = true) {f : Result c → Action β}
    (herror : ∀ e, post (.error e) known) (hok : ∀ r, (f r).wp spec post known) : (call c >>= f).wp spec post known := by
  refine Program.wp_perform_bind (h c hread).1 (fun e _ => ?_) fun r _ => ?_
  · rw [(h c hread).2]
    exact herror e
  · rw [(h c hread).2]
    exact hok r

theorem wp_phoneAlreadyRegistered (h : IgnoresReads spec known) {inv : Invocation} (phone : String) {f : Bool → Action β}
    (herror : ∀ e, post (.error e) known) (hok : ∀ registered, (f registered).wp spec post known) :
    (inv.phoneAlreadyRegistered library phone >>= f).wp spec post known := by
  rw [Invocation.phoneAlreadyRegistered]
  split
  · exact Program.wp_bind.2 (h.wp_read rfl herror fun items => hok _)
  · exact Program.wp_bind.2 (h.wp_read rfl herror fun items => hok _)

theorem wp_filterRegistered (h : IgnoresReads spec known) {inv : Invocation} (herror : ∀ e, post (.error e) known)
    (phones : List String) {f : List String → Action β} (hok : ∀ duplicates, (f duplicates).wp spec post known) :
    (Program.filterList (inv.phoneAlreadyRegistered library) phones >>= f).wp spec post known := by
  induction phones generalizing f with
  | nil => exact hok []
  | cons phone phones ih =>
    rw [Program.filterList, bind_assoc]
    refine h.wp_phoneAlreadyRegistered phone herror fun registered => ?_
    rw [bind_assoc]
    exact ih fun duplicates => hok _

end IgnoresReads

/-! ### What a call leaves of the rows -/

/-- The rows a call puts, whatever was there. -/
def Call.puts : Call → List (String × EmployeeItem)
  | .putItem employeeId item => [(employeeId, item)]
  | .transactPut items => items
  | _ => []

theorem puts_of_isRead {c : Call} (h : c.isRead = true) : c.puts = [] := by
  cases c <;> first | rfl | cases h

/-- The call is a lookup by number, and the row is one that it looks for. -/
def finds (item : EmployeeItem) : Call → Bool
  | .queryPhone phoneNumber => phoneIs phoneNumber item
  | .scanBlindIndex blindIndex activeOnly => blindIndexIs blindIndex activeOnly item
  | _ => false

/-- The call writes the row of this employee. -/
def Call.names (employeeId : String) : Call → Bool
  | .putItem id _ | .updateItem id _ | .deleteItem id => id == employeeId
  | .transactPut items => items.any fun entry => entry.1 == employeeId
  | _ => false

theorem names_of_isRead {c : Call} {employeeId : String} (h : c.isRead = true) : c.names employeeId = false := by
  cases c <;> first | rfl | cases h

theorem foldl_put_of_not_mem {items : List (String × EmployeeItem)} {employeeId : String} (row : Option EmployeeItem)
    (h : employeeId ∉ items.map Prod.fst) :
    items.foldl (fun row entry => if employeeId = entry.1 then some entry.2 else row) row = row := by
  induction items generalizing row with
  | nil => rfl
  | cons entry items ih =>
    rw [List.map_cons, List.mem_cons, not_or] at h
    rw [List.foldl_cons, if_neg h.1]
    exact ih row h.2

theorem foldl_put_of_mem {items : List (String × EmployeeItem)} {employeeId : String} (row : Option EmployeeItem)
    (h : employeeId ∈ items.map Prod.fst) : ∃ item, (employeeId, item) ∈ items ∧
      items.foldl (fun row entry => if employeeId = entry.1 then some entry.2 else row) row = some item := by
  induction items generalizing row with
  | nil => exact (List.not_mem_nil h).elim
  | cons entry items ih =>
    by_cases hlater : employeeId ∈ items.map Prod.fst
    · obtain ⟨item, hmem, hfold⟩ := ih _ hlater
      exact ⟨item, List.mem_cons_of_mem _ hmem, hfold⟩
    · obtain rfl : employeeId = entry.1 := (List.mem_cons.1 h).resolve_right hlater
      refine ⟨entry.2, List.mem_cons_self, ?_⟩
      rw [List.foldl_cons, if_pos rfl]
      exact foldl_put_of_not_mem _ hlater

theorem row_of_not_names {c : Call} {employeeId : String} (row : Option EmployeeItem) (h : c.names employeeId = false) :
    c.row employeeId row = row := by
  cases c with
  | putItem id item | updateItem id update | deleteItem id =>
    rw [Call.names, beq_eq_false_iff_ne] at h
    rw [Call.row, if_neg h.symm]
  | transactPut items =>
    refine foldl_put_of_not_mem row fun hmem => ?_
    obtain ⟨entry, hentry, heq⟩ := List.mem_map.1 hmem
    rw [Call.names, List.any_eq_false] at h
    exact h entry hentry (beq_iff_eq.2 heq)
  | _ => rfl

theorem foldl_put {items : List (String × EmployeeItem)} {employeeId : String} {row : Option EmployeeItem}
    {item : EmployeeItem}
    (h : items.foldl (fun row entry => if employeeId = entry.1 then some entry.2 else row) row = some item) :
    (employeeId, item) ∈ items ∨ row = some item := by
  induction items generalizing row with
  | nil => exact .inr h
  | cons entry items ih =>
    rcases ih h with hmem | hrow
    · exact .inl (List.mem_cons_of_mem _ hmem)
    · dsimp only at hrow
      split at hrow
      · subst employeeId
        cases hrow
        exact .inl List.mem_cons_self
      · exact .inr hrow

/-- Where a row comes from after a call: it was put, it was updated, or it is as it was. -/
theorem row_eq_some {c : Call} {employeeId : String} {row : Option EmployeeItem} {item : EmployeeItem}
    (h : c.row employeeId row = some item) :
    (employeeId, item) ∈ c.puts ∨ (∃ update, c = .updateItem employeeId update ∧ item = update.apply (row.getD {})) ∨
      row = some item := by
  cases c with
  | putItem id item' =>
    rw [Call.row] at h
    split at h
    · subst employeeId
      cases h
      exact .inl List.mem_cons_self
    · exact .inr (.inr h)
  | updateItem id update =>
    rw [Call.row] at h
    split at h
    · subst employeeId
      cases h
      exact .inr (.inl ⟨update, rfl, rfl⟩)
    · exact .inr (.inr h)
  | transactPut items => exact (foldl_put h).imp_right .inr
  | deleteItem id =>
    rw [Call.row] at h
    split at h
    · cases h
    · exact .inr (.inr h)
  | _ => exact .inr (.inr h)

theorem lookup_respond_eq_some {w : World} {environment : Environment} {c : Call} {employeeId : String}
    {item : EmployeeItem} (h : (respond w environment c).2.employees.lookup employeeId = some item) :
    (environment.carriesOut = true ∧ ((employeeId, item) ∈ c.puts ∨
      ∃ update, c = .updateItem employeeId update ∧ item = update.apply ((w.employees.lookup employeeId).getD {}))) ∨
    w.employees.lookup employeeId = some item := by
  rw [lookup_respond] at h
  split at h
  · rename_i happlied
    rcases row_eq_some h with hput | hupdate | hrow
    · exact .inl ⟨happlied, .inl hput⟩
    · exact .inl ⟨happlied, .inr hupdate⟩
    · exact .inr hrow
  · exact .inr h

/-- The answer of a call that returns is that of one that does not fail. -/
theorem respond_eq_ok {w : World} {environment : Environment} {c : Call} {r : Result c}
    (h : (respond w environment c).1 = .ok r) : (act w environment c).1 = .ok r ∧ environment.carriesOut = true := by
  rw [respond] at h
  rw [Environment.carriesOut]
  cases hfault : environment.fault with
  | none =>
    rw [hfault] at h
    exact ⟨h, rfl⟩
  | some fault =>
    rw [hfault] at h
    cases h

/-! ### Requests to try -/

def markedLibrary : Library where
  crypto := .marked
  decodeCsv _ := .error "Incorrect padding"
  anonymizeEmployeeId employeeId _ := employeeId

def creation (employeeId name phone : String) : Invocation where
  event := {
    httpMethod := "POST"
    resource := "/employees"
    body := .json (.dict [("name", .str name), ("phoneNumber", .str phone)]) }
  uuid _ := employeeId

end EmployeeApi

end SafetyConfirmation
