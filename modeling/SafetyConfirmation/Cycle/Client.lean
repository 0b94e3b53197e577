import SafetyConfirmation.Cycle.Routes

/-!
# The cycle pages

How the pages read the answers of `GET /cycles` and `GET /cycles/{id}`. In the detail of a cycle the numbers of the row
arrive as texts, which the page takes for no numbers; the list carries the dictionary version as a number.
-/

namespace SafetyConfirmation

namespace CycleClient

open KeyedStore Checks CycleApi

structure CycleApiError where
  status : Nat
  message : String

structure CycleSummary where
  cycleId : String
  status : String
  mode : Option String
  startedAt : String
  completedAt : Option String
  dictionaryVersion : ℚ

structure CycleDetail extends CycleSummary where
  retryCount : Option ℚ
  retryIntervalMinutes : Option ℚ
  targetCount : Option ℚ
  referencedCycleId : Option String
  extra : List (String × Value)

structure ListCyclesResult where
  cycles : List CycleSummary
  total : ℚ

variable (r : Value)

def string? (key : String) : Option String := (r.get? key).bind Value.asStr?

def number? (key : String) : Option ℚ := (r.get? key).bind Value.asNumber?

/-- The fields that a summary and a detail share. -/
def readCore (message : String) : Except CycleApiError CycleSummary :=
  match string? r "cycleId", string? r "status", string? r "startedAt" with
  | some cycleId, some status, some startedAt => return {
      cycleId
      status
      mode := string? r "mode"
      startedAt
      completedAt := string? r "completedAt"
      dictionaryVersion := (number? r "dictionaryVersion").getD 0 }
  | _, _, _ => .error ⟨0, message⟩

def readCycleSummary (idx : Nat) : Except CycleApiError CycleSummary :=
  if r.isObject then readCore r ("Unexpected cycle summary fields at index " ++ toString idx)
  else .error ⟨0, "Unexpected cycle summary shape at index " ++ toString idx⟩

def readListCyclesResult (body : Value) : Except CycleApiError ListCyclesResult :=
  if body.isObject then
    match body.get? "cycles" with
    | some (.list raw) => do
      let cycles ← raw.zipIdx.mapM fun item => readCycleSummary item.1 item.2
      return { cycles, total := (number? body "total").getD cycles.length }
    | _ => .error ⟨0, "Unexpected response shape (cycles not array)"⟩
  else .error ⟨0, "Unexpected response shape (list root not object)"⟩

def coreKeys : List String :=
  ["cycleId", "status", "mode", "startedAt", "completedAt", "dictionaryVersion", "retryCount", "retryIntervalMinutes",
    "targetCount", "referencedCycleId"]

/-- `Object.entries(r)` without the fields that have a place of their own. -/
def extraOf : Value → List (String × Value)
  | .dict items => items.filter fun entry => !coreKeys.contains entry.1
  | _ => []

def readCycleDetail (body : Value) : Except CycleApiError CycleDetail :=
  if body.isObject then do
    let core ← readCore body "Unexpected cycle detail fields (cycleId/status/startedAt)"
    return {
      core with
      retryCount := number? body "retryCount"
      retryIntervalMinutes := number? body "retryIntervalMinutes"
      targetCount := number? body "targetCount"
      referencedCycleId := string? body "referencedCycleId"
      extra := extraOf body }
  else .error ⟨0, "Unexpected cycle detail shape (root not object)"⟩

/-! ### What the page sees of a row -/

theorem asNumber?_numberText {v : Value} {n : Int} (h : v.asInt? = some n) : (numberText v).asNumber? = none := by
  cases v <;> first | rfl | cases h

/-- What the page makes of the item of a row. -/
theorem readCycleDetail_itemOf (cycleId : String) (row : Cycle) : readCycleDetail (itemOf cycleId row) = .ok {
    cycleId
    status := row.status.name
    mode := some row.mode.name
    startedAt := row.startedAt.isoText
    completedAt := row.completedAt.map Instant.isoText
    dictionaryVersion := 0
    retryCount := (numberText row.retryCount).asNumber?
    retryIntervalMinutes := (numberText row.retryIntervalMinutes).asNumber?
    targetCount := none
    referencedCycleId := row.referencedCycleId
    extra := extraOf (itemOf cycleId row) } := by
  obtain ⟨status, mode, retryCount, retryIntervalMinutes, dictionaryVersion, startedAt, idempotencyKey, referencedCycleId,
    completedAt, slaWarning30min⟩ := row
  -- the four attributes that may be missing
  cases idempotencyKey <;> cases referencedCycleId <;> cases completedAt <;> cases slaWarning30min <;> rfl

/-- What the page makes of an entry of the list. -/
def summaryRead (entry : String × Cycle) : CycleSummary where
  cycleId := entry.1
  status := entry.2.status.name
  mode := some entry.2.mode.name
  startedAt := entry.2.startedAt.isoText
  completedAt := entry.2.completedAt.map Instant.isoText
  dictionaryVersion := entry.2.dictionaryVersion

theorem readCycleSummary_summaryOf (entry : String × Cycle) (idx : Nat) :
    readCycleSummary (summaryOf entry) idx = .ok (summaryRead entry) := by
  obtain ⟨cycleId, row⟩ := entry
  obtain ⟨status, mode, retryCount, retryIntervalMinutes, dictionaryVersion, startedAt, idempotencyKey, referencedCycleId,
    completedAt, slaWarning30min⟩ := row
  cases completedAt <;> rfl

/-- The list that the page reads has the rows of the table. -/
theorem readListCyclesResult_listCycles (cycles : Store String Cycle) :
    ∃ result, readListCyclesResult (listCycles cycles).body = .ok result ∧
      ∀ summary, summary ∈ result.cycles ↔
        ∃ cycleId row, cycles.lookup cycleId = some row ∧ summary = summaryRead (cycleId, row) := by
  let items := cycles.rows.insertionSort fun left right => right.2.startedAt ≤ left.2.startedAt
  have hread : ((items.map summaryOf).zipIdx.mapM fun item => readCycleSummary item.1 item.2) =
      .ok (items.map summaryRead) := by
    have hsummary : (fun item : (String × Cycle) × Nat => readCycleSummary (summaryOf item.1) item.2) =
      fun item => pure (summaryRead item.1) := funext fun item => readCycleSummary_summaryOf item.1 item.2
    rw [List.zipIdx_map, List.mapM_map]
    show (items.zipIdx.mapM fun item => readCycleSummary (summaryOf item.1) item.2) = _
    rw [hsummary, List.mapM_pure, ← Function.comp_def summaryRead Prod.fst, ← List.map_map, List.zipIdx_map_fst]
    rfl
  have hbody : readListCyclesResult (listCycles cycles).body =
      ((items.map summaryOf).zipIdx.mapM fun item => readCycleSummary item.1 item.2) >>= fun cycles =>
        Except.ok (ListCyclesResult.mk cycles (items.length : Int)) := rfl
  refine ⟨_, hbody.trans (by rw [hread, ok_bind]), ?_⟩
  intro summary
  show summary ∈ items.map summaryRead ↔ _
  rw [List.mem_map]
  constructor
  · rintro ⟨⟨cycleId, row⟩, hmem, rfl⟩
    exact ⟨cycleId, row, Store.mem_rows.1 ((List.perm_insertionSort _ _).mem_iff.1 hmem), rfl⟩
  · rintro ⟨cycleId, row, hrow, rfl⟩
    exact ⟨(cycleId, row), (List.perm_insertionSort _ _).mem_iff.2 (Store.mem_rows.2 hrow), rfl⟩

/-! ### The round trip of a row -/

/-- A row that a `POST /cycles` puts, as it leaves it. -/
def IsPut (cycleId : String) (row : Cycle) : Prop :=
  ∃ settings tables cycles startedAt clientError body idempotencyKey created,
    createCycle settings tables cycles cycleId startedAt clientError body idempotencyKey = .ok created ∧
      created.sfnInput.isSome = true ∧ created.cycles.lookup cycleId = some row

/-- The page of a cycle shows the values of its row. -/
def ShowsRow (event : Event) (cycles : Store String Cycle) (cycleId : String) (row : Cycle) : Prop :=
  ∃ response detail, getCycle event itemOf cycles = .ok response ∧ response.statusCode = 200 ∧
    readCycleDetail response.body = .ok detail ∧ detail.cycleId = cycleId ∧ detail.status = row.status.name ∧
      detail.mode = some row.mode.name ∧ detail.startedAt = row.startedAt.isoText ∧
      detail.dictionaryVersion = row.dictionaryVersion ∧
      detail.retryCount = row.retryCount.asInt?.map Int.cast ∧
      detail.retryIntervalMinutes = row.retryIntervalMinutes.asInt?.map Int.cast

/-- The page of a cycle shows the dictionary version that the list shows for it. -/
def ShowsListedVersion (event : Event) (cycles : Store String Cycle) (cycleId : String) : Prop :=
  ∃ response detail result summary, getCycle event itemOf cycles = .ok response ∧
    readCycleDetail response.body = .ok detail ∧ readListCyclesResult (listCycles cycles).body = .ok result ∧
      summary ∈ result.cycles ∧ summary.cycleId = cycleId ∧ detail.dictionaryVersion = summary.dictionaryVersion

theorem getCycle_eq_ok {event : Event} {cycles : Store String Cycle} {cycleId : String} {row : Cycle}
    (hid : event.pathId = .ok cycleId) (hrow : cycles.lookup cycleId = some row) :
    getCycle event itemOf cycles = .ok { statusCode := 200, body := itemOf cycleId row } := by
  rw [getCycle, hid, ok_bind, hrow]
  rfl

/-- The list and the detail show the same version of the dictionary only where it is 0. -/
theorem showsListedVersion_iff {event : Event} {cycles : Store String Cycle} {cycleId : String} {row : Cycle}
    (hid : event.pathId = .ok cycleId) (hrow : cycles.lookup cycleId = some row) :
    ShowsListedVersion event cycles cycleId ↔ row.dictionaryVersion = 0 := by
  obtain ⟨result, hresult, hmem⟩ := readListCyclesResult_listCycles cycles
  constructor
  · rintro ⟨response, detail, result', summary, hget, hdetail, hresult', hsummary, hsame, hversion⟩
    rw [getCycle_eq_ok hid hrow] at hget
    cases hget
    rw [readCycleDetail_itemOf] at hdetail
    cases hdetail
    rw [hresult] at hresult'
    cases hresult'
    obtain ⟨cycleId', row', hrow', rfl⟩ := (hmem summary).1 hsummary
    have hsameId : cycleId' = cycleId := hsame
    subst hsameId
    rw [hrow] at hrow'
    cases hrow'
    have hcast : (0 : ℚ) = row.dictionaryVersion := hversion
    exact_mod_cast hcast.symm
  · intro hzero
    refine ⟨_, _, result, summaryRead (cycleId, row), getCycle_eq_ok hid hrow, readCycleDetail_itemOf cycleId row, hresult,
      (hmem _).2 ⟨cycleId, row, hrow, rfl⟩, rfl, ?_⟩
    simp [summaryRead, hzero]

theorem IsPut.asInt? {cycleId : String} {row : Cycle} (h : IsPut cycleId row) :
    (∃ n, row.retryCount.asInt? = some n) ∧ ∃ n, row.retryIntervalMinutes.asInt? = some n := by
  obtain ⟨settings, tables, cycles, startedAt, clientError, body, idempotencyKey, created, hcreated, hput, hrow⟩ := h
  obtain ⟨request, hrequest, hcreated⟩ := bind_eq_ok.1 hcreated
  obtain ⟨-, -, hcount, -, hinterval, -⟩ := parseRequest_eq_ok hrequest
  obtain ⟨count, hcount, -⟩ := StateMachine.inRange_eq_true_iff.1 hcount
  obtain ⟨interval, hinterval, -⟩ := StateMachine.inRange_eq_true_iff.1 hinterval
  split at hcreated
  · cases hcreated
    cases hput
  · cases clientError with
    | true =>
      cases hcreated
      rw [Store.lookup_write_self, Store.lookup_write_self] at hrow
      cases hrow
      exact ⟨⟨count, hcount⟩, interval, hinterval⟩
    | false =>
      cases hcreated
      rw [Store.lookup_write_self] at hrow
      cases hrow
      exact ⟨⟨count, hcount⟩, interval, hinterval⟩

/-- No row that CycleApi puts comes back from `GET /cycles/{id}` as it is. -/
theorem not_showsRow {event : Event} {cycles : Store String Cycle} {cycleId : String} {row : Cycle}
    (hid : event.pathId = .ok cycleId) (hrow : cycles.lookup cycleId = some row) (hput : IsPut cycleId row) :
    ¬ ShowsRow event cycles cycleId row := by
  rintro ⟨response, detail, hget, -, hdetail, -, -, -, -, -, hretry, -⟩
  obtain ⟨⟨count, hcount⟩, -⟩ := hput.asInt?
  rw [getCycle_eq_ok hid hrow] at hget
  cases hget
  rw [readCycleDetail_itemOf] at hdetail
  cases hdetail
  rw [hcount, asNumber?_numberText hcount] at hretry
  cases hretry

/-- For every row that CycleApi puts the page of the cycle shows other values, and the version of the list only where it
is 0. -/
theorem not_roundTrips {event : Event} {cycles : Store String Cycle} {cycleId : String} {row : Cycle}
    (hid : event.pathId = .ok cycleId) (hrow : cycles.lookup cycleId = some row) (hput : IsPut cycleId row) :
    ¬ (ShowsRow event cycles cycleId row ∧ ShowsListedVersion event cycles cycleId) ∧
      (ShowsListedVersion event cycles cycleId ↔ row.dictionaryVersion = 0) :=
  ⟨fun h => not_showsRow hid hrow hput h.1, showsListedVersion_iff hid hrow⟩

def detailEvent : Event where
  httpMethod := "GET"
  resource := "/cycles/{id}"
  pathParameters := .dict [("id", .str "c0")]

/-- A dictionary at version 7. -/
def versionSeven : Dictionary.Tables where
  dictionary := someKeyword.dictionary.set Dictionary.metaKey (some { currentVersion := some 7 })

def putRow : Cycle where
  status := .running
  mode := .all
  retryCount := .int 3
  retryIntervalMinutes := .int 5
  dictionaryVersion := 7
  startedAt := 0

theorem isPut_putRow : IsPut "c0" putRow :=
  ⟨{}, versionSeven, ∅, 0, false, .dict [("mode", .str "ALL")], "", _, rfl, rfl, rfl⟩

theorem not_roundTrips_putRow :
    ¬ (ShowsRow detailEvent (AList.insert "c0" putRow ∅) "c0" putRow ∧
        ShowsListedVersion detailEvent (AList.insert "c0" putRow ∅) "c0") ∧
      (ShowsListedVersion detailEvent (AList.insert "c0" putRow ∅) "c0" ↔ putRow.dictionaryVersion = 0) :=
  not_roundTrips rfl rfl isPut_putRow

/-- Version 7, three retries and five minutes in the row; version 0, no retries and no minutes on the page. -/
theorem detail_loses_numbers : IsPut "c0" putRow ∧
    ∃ response detail, getCycle detailEvent itemOf (AList.insert "c0" putRow ∅) = .ok response ∧
      readCycleDetail response.body = .ok detail ∧ detail.dictionaryVersion = 0 ∧ detail.retryCount = none ∧
      detail.retryIntervalMinutes = none ∧
      ¬ ShowsRow detailEvent (AList.insert "c0" putRow ∅) "c0" putRow ∧
      ¬ ShowsListedVersion detailEvent (AList.insert "c0" putRow ∅) "c0" := by
  refine ⟨isPut_putRow, _, _, rfl, rfl, rfl, rfl, rfl, not_showsRow rfl rfl isPut_putRow, ?_⟩
  rw [@showsListedVersion_iff detailEvent _ "c0" putRow rfl rfl]
  decide

end CycleClient

end SafetyConfirmation
