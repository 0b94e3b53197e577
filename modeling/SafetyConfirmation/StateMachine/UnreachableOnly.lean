import SafetyConfirmation.StateMachine.StartInput

/-!
# A cycle for the employees a former one did not reach

The page asks for `UNREACHABLE_ONLY` without naming a cycle, CycleApi passes that on, and LoadTargets rejects it: the
choice of the last completed cycle and the refusal when it left no one unreached are in none of the three.
-/

namespace SafetyConfirmation

namespace StateMachine

open KeyedStore Checks CycleApi

/-- A `POST /cycles` for `UNREACHABLE_ONLY` that names no cycle, with the tables that it and its execution find. -/
structure RedialRequest where
  settings : Settings := {}
  tables : Dictionary.Tables := {}
  cycles : Store String Cycle := ∅
  employees : Store String Employee := ∅
  responses : String → Store String Response := fun _ => ∅
  cycleId : String
  startedAt : Instant := 0
  clientError : Bool := false
  body : Value
  idempotencyKey : String := ""
  mode : body.get? "mode" = some (.str "UNREACHABLE_ONLY")
  unnamed : ∀ referenced, referenced ≠ "" → body.get? "referencedCycleId" ≠ some (.str referenced)

namespace RedialRequest

variable (r : RedialRequest)

def created : Except PyError Created :=
  createCycle r.settings r.tables r.cycles r.cycleId r.startedAt r.clientError r.body r.idempotencyKey

/-! ### What the requirements ask for -/

/-- A visible employee whom a cycle did not reach. -/
def IsUnreached (cycleId employeeId : String) (employee : Employee) : Prop :=
  r.employees.lookup employeeId = some employee ∧ isVisible employee = true ∧
    ∃ response, (r.responses cycleId).lookup employeeId = some response ∧
      response.voiceStatus.any LoadTargets.isUnreachedStatus = true

def HasUnreached : Prop :=
  ∃ cycleId row employeeId employee, r.cycles.lookup cycleId = some row ∧ row.status = .completed ∧
    r.IsUnreached cycleId employeeId employee

/-- The completed cycle with the latest `completedAt`. -/
def IsLatestCompleted (cycleId : String) : Prop :=
  ∃ row completedAt, r.cycles.lookup cycleId = some row ∧ row.status = .completed ∧ row.completedAt = some completedAt ∧
    ∀ other row', r.cycles.lookup other = some row' → row'.status = .completed → ∀ t ∈ row'.completedAt, t ≤ completedAt

/-- The request starts an execution whose LoadTargets finds the employees that the last completed cycle did not reach. -/
def StartsRedial : Prop :=
  ∃ created input event targets latest, r.created = .ok created ∧ created.answer = .created r.cycleId ∧
    created.sfnInput = some input ∧ (normalizeInput input).bind loadTargetsPayload = some event ∧
    LoadTargets.lambdaHandler r.employees r.responses event = .ok targets ∧ r.IsLatestCompleted latest ∧
    ∀ target, target ∈ targets ↔
      ∃ employeeId employee, r.IsUnreached latest employeeId employee ∧
        target = LoadTargets.projectTarget (employeeId, employee)

/-- The request is answered with a client error, and the table is as it was. -/
def IsRefused : Prop :=
  match r.created with
  | .ok created => (created.answer = .conflict ∨ created.answer = .dictionaryEmpty) ∧ created.cycles = r.cycles
  | .error (.valueError ..) => True
  | .error _ => False

/-- Requirements 4.4 and 4.5. -/
def Redials : Prop := (r.HasUnreached → r.StartsRedial) ∧ (¬ r.HasUnreached → r.IsRefused)

/-! ### What the request does -/

def retryCount : Value := (r.body.get? "retryCount").getD (.int r.settings.defaultRetryCount)

def retryIntervalMinutes : Value :=
  (r.body.get? "retryIntervalMinutes").getD (.int r.settings.defaultRetryIntervalMinutes)

/-- The request is turned down for something else: its retry fields, an empty dictionary, or a running cycle that was not
started with the same key. -/
def IsTurnedDown : Prop :=
  inRange 0 5 r.retryCount = false ∨ inRange 1 60 r.retryIntervalMinutes = false ∨
    isActiveDictionaryEmpty r.tables.dictionary = true ∨
    ∃ existing ∈ (queryRunningCycles r.cycles).head?,
      ¬ (r.idempotencyKey ≠ "" ∧ existing.2.idempotencyKey.getD "" = r.idempotencyKey)

/-- The request that the checks of the body make of it. -/
def request : Request where
  mode := .unreachableOnly
  retryCount := r.retryCount
  retryIntervalMinutes := r.retryIntervalMinutes
  idempotencyKey := r.idempotencyKey

theorem referencedCycleId_eq_none : ((r.body.get? "referencedCycleId").bind Value.asStr?).filter (· != "") = none := by
  rw [Option.filter_eq_none_iff]
  intro referenced hreferenced hne
  obtain ⟨v, hv, hstr⟩ := Option.bind_eq_some_iff.1 hreferenced
  rw [eq_str_of_asStr? hstr] at hv
  exact r.unnamed referenced (by simpa using hne) hv

theorem parseMode_mode : parseMode ((r.body.get? "mode").getD .none) = .ok .unreachableOnly := by
  rw [r.mode]
  rfl

theorem parseRequest_eq_ok_of (hcount : inRange 0 5 r.retryCount = true)
    (hinterval : inRange 1 60 r.retryIntervalMinutes = true) :
    parseRequest r.settings r.body r.idempotencyKey = .ok r.request := by
  rw [parseRequest, parseMode_mode, ok_bind]
  show (require (inRange 0 5 r.retryCount = true) _ >>= fun _ =>
    require (inRange 1 60 r.retryIntervalMinutes = true) _ >>= fun _ => _) = _
  rw [require_of hcount, ok_bind, require_of hinterval, ok_bind, referencedCycleId_eq_none]
  rfl

theorem parseRequest_eq_error_of (h : inRange 0 5 r.retryCount = false ∨ inRange 1 60 r.retryIntervalMinutes = false) :
    ∃ message got, parseRequest r.settings r.body r.idempotencyKey = .error (.valueError message got) := by
  rw [parseRequest, parseMode_mode, ok_bind]
  show ∃ message got, (require (inRange 0 5 r.retryCount = true) _ >>= fun _ =>
    require (inRange 1 60 r.retryIntervalMinutes = true) _ >>= fun _ => _) = Except.error (PyError.valueError message got)
  rw [require, require]
  cases hcount : inRange 0 5 r.retryCount with
  | false => exact ⟨_, _, rfl⟩
  | true =>
    cases hinterval : inRange 1 60 r.retryIntervalMinutes with
    | false => exact ⟨_, _, rfl⟩
    | true => exact absurd h (by simp [hcount, hinterval])

/-- No execution that the request starts gets past LoadTargets. -/
theorem not_startsRedial : ¬ r.StartsRedial := by
  rintro ⟨created, input, event, targets, latest, hcreated, hanswer, hinput, hevent, htargets, -, -⟩
  obtain ⟨request, dictVersion, hrequest, hsfn⟩ := createCycle_eq_created hcreated hanswer
  obtain ⟨hmode, -, -, -, -, hreferenced⟩ := parseRequest_eq_ok hrequest
  rw [r.mode] at hmode
  rw [r.referencedCycleId_eq_none] at hreferenced
  rw [hsfn] at hinput
  cases hinput
  cases hevent
  obtain ⟨parsed, hparsed, -⟩ := bind_eq_ok.1 htargets
  obtain ⟨-, mode, hparsedMode, hneeds⟩ := parseEvent_isOk_iff.1 ⟨parsed, hparsed⟩
  have hname : request.mode = .unreachableOnly := (mode_eq_unreachableOnly_iff hmode).2 rfl
  have hsame : mode = .unreachableOnly := by
    rw [← hname]
    exact (Option.some.inj ((Mode.ofName?_name request.mode).symm.trans hparsedMode)).symm
  apply hneeds hsame
  simp [hreferenced, Value.asStr?]

theorem refuse_false_eq (request : Request) (table : Store String Cycle) : refuse request false table =
    (queryRunningCycles table).head?.map fun existing =>
      if request.idempotencyKey ≠ "" ∧ existing.2.idempotencyKey.getD "" = request.idempotencyKey then
        .replay existing.1
      else .conflict := by
  cases hquery : queryRunningCycles table with
  | nil => simp [refuse, hquery, canStartCycle]
  | cons existing rest =>
    have hrunning := (@mem_queryRunningCycles table existing (by simp [hquery])).2
    simp only [refuse, hquery, canStartCycle, List.all_cons, hrunning, Bool.false_eq_true, if_false, bne_self_eq_false,
      Bool.false_and, List.head?_cons, Option.map_some]
    split <;> rfl

/-- The request is refused exactly when it is turned down for something else than its targets. -/
theorem isRefused_iff : r.IsRefused ↔ r.IsTurnedDown := by
  by_cases hfields : inRange 0 5 r.retryCount = false ∨ inRange 1 60 r.retryIntervalMinutes = false
  · obtain ⟨message, got, herror⟩ := r.parseRequest_eq_error_of hfields
    refine iff_of_true ?_ ?_
    · rw [IsRefused, created, createCycle, herror]
      trivial
    · exact hfields.elim .inl fun h => .inr (.inl h)
  · rw [not_or, Bool.not_eq_false, Bool.not_eq_false] at hfields
    have hrequest := r.parseRequest_eq_ok_of hfields.1 hfields.2
    have hcond : r.IsTurnedDown ↔ isActiveDictionaryEmpty r.tables.dictionary = true ∨
        ∃ existing ∈ (queryRunningCycles r.cycles).head?,
          ¬ (r.idempotencyKey ≠ "" ∧ existing.2.idempotencyKey.getD "" = r.idempotencyKey) := by
      rw [IsTurnedDown, hfields.1, hfields.2]
      simp
    rw [hcond, IsRefused, created, createCycle, hrequest, ok_bind]
    cases hempty : isActiveDictionaryEmpty r.tables.dictionary with
    | true => exact iff_of_true ⟨.inr rfl, rfl⟩ (.inl rfl)
    | false =>
      rw [refuse_false_eq]
      cases hquery : (queryRunningCycles r.cycles).head? with
      | none =>
        refine iff_of_false ?_ (by simp)
        cases r.clientError <;> simp
      | some existing =>
        simp only [Option.map_some, Option.mem_def, Option.some.injEq, exists_eq_left', Bool.false_eq_true, false_or]
        show (_ ∧ _) ↔ _
        split
        · rename_i hsame
          exact iff_of_false (by simp) (not_not.2 hsame)
        · rename_i hother
          exact iff_of_true ⟨.inl rfl, rfl⟩ hother

/-- Requirements 4.4 and 4.5 are met by accident only: no completed cycle left anyone unreached, and the request is
turned down for something else. -/
theorem redials_iff : r.Redials ↔ ¬ r.HasUnreached ∧ r.IsTurnedDown := by
  rw [Redials, isRefused_iff]
  constructor
  · rintro ⟨hstarts, hrefused⟩
    have hnone : ¬ r.HasUnreached := fun h => r.not_startsRedial (hstarts h)
    exact ⟨hnone, hrefused hnone⟩
  · rintro ⟨hnone, hturned⟩
    exact ⟨fun h => absurd h hnone, fun _ => hturned⟩

end RedialRequest

/-- One completed cycle, which did not reach the one employee. -/
def redialRequest : RedialRequest where
  tables := someKeyword
  cycles := AList.insert "c1" {
    status := .completed, mode := .all, retryCount := .int 3, retryIntervalMinutes := .int 5, dictionaryVersion := 0,
    startedAt := 0, completedAt := some 1 } ∅
  employees := AList.insert "e1" { name := "Sato", phoneNumber := some (.str "+819012345678") } ∅
  responses cycleId := if cycleId = "c1" then AList.insert "e1" { voiceStatus := some .unreachable } ∅ else ∅
  cycleId := "c2"
  body := .dict [("mode", .str "UNREACHABLE_ONLY")]
  mode := rfl
  unnamed referenced _ h := by cases h

/-- A cycle that did not reach an employee, and a request whose execution LoadTargets ends; without any former cycle a row
is put all the same. -/
theorem not_redials_redialRequest :
    (redialRequest.HasUnreached ∧ ¬ redialRequest.Redials ∧
      ∃ created input event, redialRequest.created = .ok created ∧ created.answer = .created "c2" ∧
        created.sfnInput = some input ∧ (normalizeInput input).bind loadTargetsPayload = some event ∧
        LoadTargets.lambdaHandler redialRequest.employees redialRequest.responses event = .error (.valueError
          "referencedCycleId is required and must be a non-empty string when mode=UNREACHABLE_ONLY")) ∧
    ∃ created, ({ redialRequest with cycles := ∅ } : RedialRequest).created = .ok created ∧
      created.answer = .created "c2" ∧ (created.cycles.lookup "c2").isSome = true := by
  have hunreached : redialRequest.HasUnreached :=
    ⟨"c1", _, "e1", _, rfl, rfl, rfl, rfl, _, rfl, rfl⟩
  refine ⟨⟨hunreached, ?_, _, _, _, rfl, rfl, rfl, rfl, rfl⟩, _, rfl, rfl, rfl⟩
  rintro ⟨hstarts, -⟩
  exact redialRequest.not_startsRedial (hstarts hunreached)

end StateMachine

end SafetyConfirmation
