import SafetyConfirmation.Cycle.Exclusivity
import SafetyConfirmation.Retry.Evaluator
import SafetyConfirmation.StateMachine.Lifecycle

/-!
# The input of an execution

What CycleApi passes to StartExecution and the checks it meets afterwards: NormalizeInput, LoadTargets and, minutes
later, the retry decision. CycleApi takes a `bool` for the two retry fields and does not ask for `referencedCycleId`,
both of which a later check rejects.
-/

namespace SafetyConfirmation

namespace CycleApi

open KeyedStore StepMachine Checks

/-! ### POST /cycles run alone -/

def isActiveDictionaryEmpty (dictionary : Store Dictionary.Key Dictionary.Row) : Bool :=
  [Category.safe, .injured, .unavailable].all fun category =>
    !(Dictionary.scanAllActive dictionary).any fun key => key.1 == category.name

/-- `sfn_input` of `_create_cycle`. -/
def sfnInput (request : Request) (cycleId : String) (dictVersion : Int) : Value :=
  .dict [("cycleId", .str cycleId), ("mode", .str request.mode.name), ("retryCount", request.retryCount),
    ("retryIntervalMinutes", request.retryIntervalMinutes), ("dictionaryVersion", .int dictVersion),
    ("referencedCycleId", (request.referencedCycleId.map Value.str).getD .none)]

structure Created where
  answer : Answer
  sfnInput : Option Value := none
  cycles : Store String Cycle

/-- `_create_cycle` on a body, with the id and the time it takes and the answer of StartExecution. -/
def createCycle (settings : Settings) (tables : Dictionary.Tables) (cycles : Store String Cycle) (cycleId : String)
    (startedAt : Instant) (clientError : Bool) (body : Value) (idempotencyKey : String) : Except PyError Created := do
  let request ← parseRequest settings body idempotencyKey
  match refuse request (isActiveDictionaryEmpty tables.dictionary) cycles with
  | some answer => return { answer, cycles }
  | none =>
    let dictVersion := Dictionary.currentVersion tables.dictionary
    let put := cycles.write cycleId (.put (newCycle request dictVersion startedAt))
    if clientError then
      return {
        answer := .startFailed cycleId
        sfnInput := some (sfnInput request cycleId dictVersion)
        cycles := put.write cycleId Cycle.setStartFailed }
    else
      return { answer := .created cycleId, sfnInput := some (sfnInput request cycleId dictVersion), cycles := put }

def alone (s : Stage × Store String Cycle) (c : Call) : Option (Stage × Store String Cycle) := s.1.call s.2 c

theorem alone_next {start start' : Dictionary.Start} {tables : Dictionary.Tables} {cycles cycles' : Store String Cycle}
    {cycleId : String} {startedAt : Instant} (hid : cycleId ≠ "")
    (h : start.call tables cycles cycleId startedAt = some (start', cycles')) :
    alone (.reading start, cycles) (.next tables cycleId startedAt) = some (Stage.ofStart start', cycles') := by
  rw [alone, Stage.call, if_neg hid, h, Option.map_some]

theorem exec_probes {tables : Dictionary.Tables} {cycles : Store String Cycle} {cycleId : String} {startedAt : Instant}
    (hid : cycleId ≠ "") (request : Request) :
    exec alone (.init request, cycles) (List.replicate 3 (.next tables cycleId startedAt)) =
      some (if isActiveDictionaryEmpty tables.dictionary then .answered .dictionaryEmpty
        else .reading (.queryRunning request), cycles) := by
  let hasKeyword (category : Category) :=
    (Dictionary.scanAllActive tables.dictionary).any fun key => key.1 == category.name
  have hempty : isActiveDictionaryEmpty tables.dictionary =
      !(((false || hasKeyword .safe) || hasKeyword .injured) || hasKeyword .unavailable) := by
    simp [isActiveDictionaryEmpty, hasKeyword, Bool.and_assoc]
  simp only [List.replicate, exec, alone, Stage.init, Stage.call, hid, Dictionary.Start.call, Stage.ofStart, if_false,
    Option.map_some, Option.bind_some, hempty]
  cases ((false || hasKeyword .safe) || hasKeyword .injured) || hasKeyword .unavailable with
  | true => rfl
  | false => rfl

/-- From the query that finds no running cycle to the put. -/
theorem exec_put {tables : Dictionary.Tables} {cycles : Store String Cycle} {cycleId : String} {startedAt : Instant}
    {request : Request} (hid : cycleId ≠ "") (hfresh : cycles.lookup cycleId = none)
    (hrefuse : refuse request false cycles = none) :
    exec alone (.reading (.queryRunning request), cycles) (List.replicate 3 (.next tables cycleId startedAt)) =
      some (.starting cycleId, cycles.write cycleId
        (.put (newCycle request (Dictionary.currentVersion tables.dictionary) startedAt))) := by
  have hquery : (Dictionary.Start.queryRunning request).call tables cycles cycleId startedAt =
      some (.readVersion request, cycles) := by
    rw [Dictionary.Start.call, hrefuse]
  have hread : (Dictionary.Start.readVersion request).call tables cycles cycleId startedAt =
      some (.put request (Dictionary.currentVersion tables.dictionary), cycles) := rfl
  have hput : (Dictionary.Start.put request (Dictionary.currentVersion tables.dictionary)).call tables cycles cycleId
      startedAt = some (.accepted cycleId, cycles.write cycleId
        (.put (newCycle request (Dictionary.currentVersion tables.dictionary) startedAt))) := by
    rw [Dictionary.Start.call, hfresh, Option.isNone_none, if_pos rfl]
  refine (exec_cons_of_eq (alone_next hid hquery) _).trans ?_
  refine (exec_cons_of_eq (alone_next hid hread) _).trans ?_
  exact (exec_singleton _ _).trans (alone_next hid hput)

/-- A request whose calls follow one another does what `_create_cycle` does. -/
theorem exec_alone {settings : Settings} {tables : Dictionary.Tables} {cycles : Store String Cycle} {cycleId : String}
    {startedAt : Instant} {clientError : Bool} {body : Value} {idempotencyKey : String} {request : Request}
    {created : Created} (hid : cycleId ≠ "") (hfresh : cycles.lookup cycleId = none)
    (hrequest : parseRequest settings body idempotencyKey = .ok request)
    (hcreated : createCycle settings tables cycles cycleId startedAt clientError body idempotencyKey = .ok created) :
    ∃ calls, exec alone (.init request, cycles) calls = some (.answered created.answer, created.cycles) := by
  have hprobes := @exec_probes tables cycles cycleId startedAt hid request
  rw [createCycle, hrequest, ok_bind] at hcreated
  cases hempty : isActiveDictionaryEmpty tables.dictionary with
  | true =>
    rw [hempty] at hprobes hcreated
    cases hcreated
    exact ⟨_, hprobes⟩
  | false =>
    rw [hempty] at hprobes hcreated
    cases hrefuse : refuse request false cycles with
    | some answer =>
      rw [hrefuse] at hcreated
      cases hcreated
      have hquery : (Dictionary.Start.queryRunning request).call tables cycles cycleId startedAt =
          some (.refused answer, cycles) := by
        rw [Dictionary.Start.call, hrefuse]
      refine ⟨List.replicate 3 (.next tables cycleId startedAt) ++ [.next tables cycleId startedAt], ?_⟩
      rw [exec_append_of_eq hprobes, exec_singleton]
      exact alone_next hid hquery
    | none =>
      rw [hrefuse] at hcreated
      have hput := @exec_put tables cycles cycleId startedAt request hid hfresh hrefuse
      cases clientError with
      | false =>
        cases hcreated
        refine ⟨List.replicate 3 (.next tables cycleId startedAt) ++
          (List.replicate 3 (.next tables cycleId startedAt) ++ [.startExecution false]), ?_⟩
        rw [exec_append_of_eq hprobes]
        exact exec_append_of_eq hput _
      | true =>
        cases hcreated
        refine ⟨List.replicate 3 (.next tables cycleId startedAt) ++
          (List.replicate 3 (.next tables cycleId startedAt) ++ [.startExecution true, .markFailed]), ?_⟩
        rw [exec_append_of_eq hprobes]
        exact exec_append_of_eq hput _

/-! ### What the checks of the body let through -/

theorem eq_name_of_ofName? {name : String} {mode : Mode} (h : Mode.ofName? name = some mode) : name = mode.name := by
  unfold Mode.ofName? at h
  split at h
  · cases h
    rfl
  · cases h
    rfl
  · cases h

theorem eq_str_of_asStr? {v : Value} {s : String} (h : v.asStr? = some s) : v = .str s := by
  cases v <;> simp_all [Value.asStr?]

theorem parseMode_eq_ok {v : Value} {mode : Mode} (h : parseMode v = .ok mode) : v = .str mode.name := by
  obtain ⟨_, -, h⟩ := bind_eq_ok.1 h
  cases hmode : Mode.ofValue? v with
  | none =>
    rw [hmode] at h
    cases h
  | some found =>
    rw [hmode] at h
    cases h
    obtain ⟨name, hname, hfound⟩ := Option.bind_eq_some_iff.1 hmode
    rw [eq_str_of_asStr? hname, eq_name_of_ofName? hfound]

theorem parseRequest_eq_ok {settings : Settings} {body : Value} {idempotencyKey : String} {request : Request}
    (h : parseRequest settings body idempotencyKey = .ok request) :
    (body.get? "mode").getD .none = .str request.mode.name ∧
      (body.get? "retryCount").getD (.int settings.defaultRetryCount) = request.retryCount ∧
      inRange 0 5 request.retryCount = true ∧
      (body.get? "retryIntervalMinutes").getD (.int settings.defaultRetryIntervalMinutes) =
        request.retryIntervalMinutes ∧
      inRange 1 60 request.retryIntervalMinutes = true ∧
      request.referencedCycleId = ((body.get? "referencedCycleId").bind Value.asStr?).filter (· != "") := by
  obtain ⟨mode, hmode, h⟩ := bind_eq_ok.1 h
  obtain ⟨_, hcount, h⟩ := bind_eq_ok.1 h
  obtain ⟨_, hinterval, h⟩ := bind_eq_ok.1 h
  cases h
  exact ⟨parseMode_eq_ok hmode, rfl, require_eq_ok.1 hcount, rfl, require_eq_ok.1 hinterval, rfl⟩

end CycleApi

namespace StateMachine

open KeyedStore Checks CycleApi Retry

/-! ### The later checks -/

/-- `States.JsonMerge(left, right, false)`: the fields of the second object win. -/
def jsonMerge (left right : List (String × Value)) : List (String × Value) :=
  right ++ left.filter fun field => (right.lookup field.1).isNone

def normalizeInput : Value → Option Value
  | .dict items => some (.dict (jsonMerge [("referencedCycleId", .none)] items))
  | _ => none

/-- The payload of LoadTargets, whose paths all have to resolve. -/
def loadTargetsPayload (input : Value) : Option LoadTargets.Event := do
  let cycleId ← input.get? "cycleId"
  let mode ← input.get? "mode"
  let referencedCycleId ← input.get? "referencedCycleId"
  return { cycleId := some cycleId, mode := some mode, referencedCycleId := some referencedCycleId }

/-- The checks the input of an execution meets on its way, from the Pass state that completes it to the retry decision
after any attempt. -/
structure PassesLaterChecks (input : Value) : Prop where
  referencedCycleId : ∃ merged v, normalizeInput input = some merged ∧ merged.get? "referencedCycleId" = some v
  loadTargets : ∃ merged event parsed, normalizeInput input = some merged ∧ loadTargetsPayload merged = some event ∧
    LoadTargets.parseEvent event = .ok parsed
  shouldRetry : ∃ merged retryCount, normalizeInput input = some merged ∧
    merged.get? "retryCount" = some retryCount ∧
    ∀ (status : VoiceStatus) (callResultCode : Option String) (attempts : Nat),
      ∃ retry, Retry.shouldRetry status.name callResultCode (.int attempts) retryCount = .ok retry
  computeNextDispatchAt : ∃ merged intervalMinutes, normalizeInput input = some merged ∧
    merged.get? "retryIntervalMinutes" = some intervalMinutes ∧
    ∀ prevEndAt, ∃ next, Retry.computeNextDispatchAt prevEndAt intervalMinutes = .ok next

theorem normalizeInput_sfnInput (request : Request) (cycleId : String) (dictVersion : Int) :
    normalizeInput (sfnInput request cycleId dictVersion) = some (sfnInput request cycleId dictVersion) := rfl

theorem loadTargetsPayload_sfnInput (request : Request) (cycleId : String) (dictVersion : Int) (startedAt : Instant) :
    loadTargetsPayload (sfnInput request cycleId dictVersion) =
      some (loadTargetsEvent cycleId (newCycle request dictVersion startedAt)) := rfl

theorem parseEvent_isOk_iff {event : LoadTargets.Event} :
    (∃ parsed, LoadTargets.parseEvent event = .ok parsed) ↔
      (event.cycleId.bind Value.asStr?).getD "" ≠ "" ∧ ∃ mode, event.mode.bind Mode.ofValue? = some mode ∧
        (mode = .unreachableOnly → (event.referencedCycleId.bind Value.asStr?).getD "" ≠ "") := by
  constructor
  · rintro ⟨parsed, h⟩
    obtain ⟨_, hcycle, h⟩ := bind_eq_ok.1 h
    refine ⟨require_eq_ok.1 hcycle, ?_⟩
    obtain ⟨_, -, h⟩ := bind_eq_ok.1 h
    split at h
    · cases h
    · rename_i hmode
      exact ⟨.all, hmode, fun hall => by cases hall⟩
    · rename_i hmode
      obtain ⟨_, hreferenced, -⟩ := bind_eq_ok.1 h
      exact ⟨.unreachableOnly, hmode, fun _ => require_eq_ok.1 hreferenced⟩
  · rintro ⟨hcycle, mode, hmode, hreferenced⟩
    rw [LoadTargets.parseEvent, require_of hcycle, ok_bind, LoadTargets.requireHashable_of_ofValue? hmode, ok_bind, hmode]
    cases mode with
    | all => exact ⟨_, rfl⟩
    | unreachableOnly =>
      dsimp only
      rw [require_of (hreferenced rfl)]
      exact ⟨_, rfl⟩

theorem parseEvent_loadTargetsEvent_iff {cycleId : String} {cycle : Cycle} (hid : cycleId ≠ "") :
    (∃ parsed, LoadTargets.parseEvent (loadTargetsEvent cycleId cycle) = .ok parsed) ↔
      (cycle.mode = .unreachableOnly → ∃ referenced, referenced ≠ "" ∧ cycle.referencedCycleId = some referenced) := by
  have hmode : (loadTargetsEvent cycleId cycle).mode.bind Mode.ofValue? = some cycle.mode :=
    Mode.ofName?_name cycle.mode
  have hreferenced : ((loadTargetsEvent cycleId cycle).referencedCycleId.bind Value.asStr?).getD "" ≠ "" ↔
      ∃ referenced, referenced ≠ "" ∧ cycle.referencedCycleId = some referenced := by
    cases hcycle : cycle.referencedCycleId <;> simp [loadTargetsEvent, hcycle, Value.asStr?]
  rw [parseEvent_isOk_iff, hmode]
  simp only [Option.some.injEq, exists_eq_left', hreferenced]
  exact and_iff_right hid

theorem inRange_eq_true_iff {low high : Int} {v : Value} :
    inRange low high v = true ↔ ∃ n, v.asInt? = some n ∧ low ≤ n ∧ n ≤ high := by
  simp [inRange, Option.any_eq_true]

/-- A retry count CycleApi took is one `should_retry` takes exactly when it is no `bool`. -/
theorem shouldRetry_isOk_iff {retryCount : Value} (hrange : inRange 0 5 retryCount = true) :
    (∀ (status : VoiceStatus) (callResultCode : Option String) (attempts : Nat),
        ∃ retry, Retry.shouldRetry status.name callResultCode (.int attempts) retryCount = .ok retry) ↔
      ∃ n, retryCount = .int n := by
  constructor
  · intro h
    obtain ⟨_, hretry⟩ := h .pending none 0
    obtain ⟨_, n, -, hcount, -⟩ := shouldRetry_eq_ok.1 hretry
    exact ⟨n, hcount⟩
  · rintro ⟨n, rfl⟩ status callResultCode attempts
    obtain ⟨_, hn, hlow, -⟩ := inRange_eq_true_iff.1 hrange
    cases hn
    exact ⟨_, shouldRetry_eq_ok.2 ⟨attempts, n, rfl, rfl, Int.natCast_nonneg attempts, hlow, rfl⟩⟩

theorem computeNextDispatchAt_isOk_iff {intervalMinutes : Value} (hrange : inRange 1 60 intervalMinutes = true) :
    (∀ prevEndAt, ∃ next, Retry.computeNextDispatchAt prevEndAt intervalMinutes = .ok next) ↔
      ∃ n, intervalMinutes = .int n := by
  constructor
  · intro h
    obtain ⟨_, hnext⟩ := h 0
    obtain ⟨n, hinterval, -⟩ := bind_eq_ok.1 hnext
    exact ⟨n, requireInt_eq_ok.1 hinterval⟩
  · rintro ⟨n, rfl⟩ prevEndAt
    obtain ⟨_, hn, hlow, hhigh⟩ := inRange_eq_true_iff.1 hrange
    cases hn
    have hlimits : minIntervalMinutes ≤ n ∧ n ≤ maxIntervalMinutes := ⟨hlow, hhigh⟩
    refine ⟨prevEndAt + n * microsecondsPerMinute, ?_⟩
    rw [Retry.computeNextDispatchAt, requireInt_int, ok_bind, require_of hlimits, ok_bind]
    rfl

theorem passesLaterChecks_sfnInput_iff {request : Request} {cycleId : String} {dictVersion : Int} (hid : cycleId ≠ "")
    (hcount : inRange 0 5 request.retryCount = true) (hinterval : inRange 1 60 request.retryIntervalMinutes = true) :
    PassesLaterChecks (sfnInput request cycleId dictVersion) ↔
      (∃ n, request.retryCount = .int n) ∧ (∃ n, request.retryIntervalMinutes = .int n) ∧
        (request.mode = .unreachableOnly →
          ∃ referenced, referenced ≠ "" ∧ request.referencedCycleId = some referenced) := by
  have hloads := @parseEvent_loadTargetsEvent_iff cycleId (newCycle request dictVersion 0) hid
  rw [← shouldRetry_isOk_iff hcount, ← computeNextDispatchAt_isOk_iff hinterval]
  constructor
  · intro h
    refine ⟨?_, ?_, ?_⟩
    · obtain ⟨_, _, hmerged, hfield, hretry⟩ := h.shouldRetry
      cases hmerged
      cases hfield
      exact hretry
    · obtain ⟨_, _, hmerged, hfield, hnext⟩ := h.computeNextDispatchAt
      cases hmerged
      cases hfield
      exact hnext
    · obtain ⟨_, _, parsed, hmerged, hpayload, hparsed⟩ := h.loadTargets
      cases hmerged
      cases hpayload
      exact hloads.1 ⟨parsed, hparsed⟩
  · rintro ⟨hretry, hnext, hreferenced⟩
    obtain ⟨parsed, hparsed⟩ := hloads.2 hreferenced
    exact {
      referencedCycleId := ⟨_, _, normalizeInput_sfnInput .., rfl⟩
      loadTargets := ⟨_, _, parsed, normalizeInput_sfnInput .., loadTargetsPayload_sfnInput _ _ _ 0, hparsed⟩
      shouldRetry := ⟨_, _, normalizeInput_sfnInput .., rfl, hretry⟩
      computeNextDispatchAt := ⟨_, _, normalizeInput_sfnInput .., rfl, hnext⟩ }

/-- The bodies whose execution no later check rejects: neither retry field is a `bool`, and the redial of a former cycle
names one. -/
structure StartsCleanly (body : Value) : Prop where
  retryCount : ∀ b, body.get? "retryCount" ≠ some (.bool b)
  retryIntervalMinutes : ∀ b, body.get? "retryIntervalMinutes" ≠ some (.bool b)
  referencedCycleId : body.get? "mode" = some (.str "UNREACHABLE_ONLY") →
    ∃ referenced, referenced ≠ "" ∧ body.get? "referencedCycleId" = some (.str referenced)

theorem getD_int_iff {v : Option Value} {default low high : Int} (hrange : inRange low high (v.getD (.int default)) = true) :
    (∃ n, v.getD (.int default) = .int n) ↔ ∀ b, v ≠ some (.bool b) := by
  cases v with
  | none => simp
  | some v =>
    obtain ⟨n, hn, -⟩ := inRange_eq_true_iff.1 hrange
    cases v <;> simp_all [Value.asInt?]

theorem referencedCycleId_iff {v : Option Value} :
    (∃ referenced, referenced ≠ "" ∧ (v.bind Value.asStr?).filter (· != "") = some referenced) ↔
      ∃ referenced, referenced ≠ "" ∧ v = some (.str referenced) := by
  constructor
  · rintro ⟨referenced, hne, h⟩
    obtain ⟨value, hv, hstr⟩ := Option.bind_eq_some_iff.1 (Option.filter_eq_some_iff.1 h).1
    exact ⟨referenced, hne, by rw [hv, eq_str_of_asStr? hstr]⟩
  · rintro ⟨referenced, hne, rfl⟩
    exact ⟨referenced, hne, by simp [Value.asStr?, hne]⟩

theorem mode_eq_unreachableOnly_iff {v : Option Value} {mode : Mode} (h : v.getD .none = .str mode.name) :
    mode = .unreachableOnly ↔ v = some (.str "UNREACHABLE_ONLY") := by
  cases v with
  | none => cases h
  | some v =>
    cases h
    cases mode <;> simp [Mode.name]

theorem refuse_ne_created {request : Request} {isActiveDictionaryEmpty : Bool} {table : Store String Cycle}
    {cycleId : String} : refuse request isActiveDictionaryEmpty table ≠ some (.created cycleId) := by
  rw [refuse]
  split
  · exact fun h => by cases h
  · dsimp only
    split
    · exact fun h => by cases h
    · split
      · exact fun h => by cases h
      · split <;> exact fun h => by cases h

/-- What a body answered 201 was parsed as, and the input its execution was started with. -/
theorem createCycle_eq_created {settings : Settings} {tables : Dictionary.Tables} {cycles : Store String Cycle}
    {cycleId : String} {startedAt : Instant} {clientError : Bool} {body : Value} {idempotencyKey : String}
    {created : Created}
    (hcreated : createCycle settings tables cycles cycleId startedAt clientError body idempotencyKey = .ok created)
    (hanswer : created.answer = .created cycleId) :
    ∃ request dictVersion, parseRequest settings body idempotencyKey = .ok request ∧
      created.sfnInput = some (sfnInput request cycleId dictVersion) := by
  obtain ⟨request, hrequest, hcreated⟩ := bind_eq_ok.1 hcreated
  refine ⟨request, Dictionary.currentVersion tables.dictionary, hrequest, ?_⟩
  split at hcreated
  · rename_i answer hrefuse
    cases hcreated
    exact absurd (hrefuse.trans (congrArg some hanswer)) refuse_ne_created
  · cases clientError with
    | true =>
      cases hcreated
      cases hanswer
    | false =>
      cases hcreated
      rfl

/-- For a body answered 201, the execution's input passes every later check exactly when the body gives no `bool` for a
retry field and names the cycle an `UNREACHABLE_ONLY` one refers to. -/
theorem passesLaterChecks_iff_startsCleanly {settings : Settings} {tables : Dictionary.Tables}
    {cycles : Store String Cycle} {cycleId : String} {startedAt : Instant} {clientError : Bool} {body : Value}
    {idempotencyKey : String} {created : Created} (hid : cycleId ≠ "")
    (hcreated : createCycle settings tables cycles cycleId startedAt clientError body idempotencyKey = .ok created)
    (hanswer : created.answer = .created cycleId) :
    (∃ input, created.sfnInput = some input ∧ PassesLaterChecks input) ↔ StartsCleanly body := by
  obtain ⟨request, dictVersion, hrequest, hinput⟩ := createCycle_eq_created hcreated hanswer
  obtain ⟨hmode, hcount, hcountRange, hinterval, hintervalRange, hreferenced⟩ := parseRequest_eq_ok hrequest
  have hcountIff := getD_int_iff (hcount ▸ hcountRange)
  have hintervalIff := getD_int_iff (hinterval ▸ hintervalRange)
  rw [hcount] at hcountIff
  rw [hinterval] at hintervalIff
  rw [hinput]
  simp only [Option.some.injEq, exists_eq_left', passesLaterChecks_sfnInput_iff hid hcountRange hintervalRange,
    hcountIff, hintervalIff, hreferenced, referencedCycleId_iff, mode_eq_unreachableOnly_iff hmode]
  exact ⟨fun ⟨h, h', h''⟩ => ⟨h, h', h''⟩, fun h => ⟨h.retryCount, h.retryIntervalMinutes, h.referencedCycleId⟩⟩

/-! ### Bodies that are started and rejected later -/

/-- `retryCount` is `true`. -/
def boolBody : Value := .dict [("mode", .str "ALL"), ("retryCount", .bool true)]

def created (body : Value) : Except PyError Created := createCycle {} someKeyword ∅ "c0" 0 false body ""

/-- 201 for a body whose first retry decision raises, and for one LoadTargets rejects. -/
theorem created_input_rejected_later :
    (∃ c, created boolBody = .ok c ∧ c.answer = .created "c0" ∧
        ¬ ∃ input, c.sfnInput = some input ∧ PassesLaterChecks input) ∧
      ∃ c, created (.dict [("mode", .str "UNREACHABLE_ONLY")]) = .ok c ∧ c.answer = .created "c0" ∧
        ¬ ∃ input, c.sfnInput = some input ∧ PassesLaterChecks input := by
  refine ⟨⟨_, rfl, rfl, ?_⟩, _, rfl, rfl, ?_⟩
  · rintro ⟨input, hinput, h⟩
    cases hinput
    obtain ⟨_, _, hmerged, hfield, hretry⟩ := h.shouldRetry
    cases hmerged
    cases hfield
    obtain ⟨_, hfirst⟩ := hretry .pending none 1
    cases hfirst
  · rintro ⟨input, hinput, h⟩
    cases hinput
    obtain ⟨_, _, parsed, hmerged, hpayload, hparsed⟩ := h.loadTargets
    cases hmerged
    cases hpayload
    cases hparsed

def redialBody : Value := .dict [("mode", .str "UNREACHABLE_ONLY"), ("referencedCycleId", .str "c9")]

theorem startsCleanly_redialBody : StartsCleanly redialBody where
  retryCount b h := by cases h
  retryIntervalMinutes b h := by cases h
  referencedCycleId _ := ⟨"c9", by decide, rfl⟩

theorem passesLaterChecks_redialBody :
    ∃ c, created redialBody = .ok c ∧ ∃ input, c.sfnInput = some input ∧ PassesLaterChecks input :=
  ⟨_, rfl, (@passesLaterChecks_iff_startsCleanly {} someKeyword ∅ "c0" 0 false redialBody "" _ (by decide) rfl rfl).2
    startsCleanly_redialBody⟩

end StateMachine

end SafetyConfirmation
