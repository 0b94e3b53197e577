import Mathlib.Data.List.Sort
import SafetyConfirmation.Lib.Pattern
import SafetyConfirmation.Lib.StepMachine
import SafetyConfirmation.Data.Crypto
import SafetyConfirmation.Data.Http
import SafetyConfirmation.Employee.LoadTargets
import SafetyConfirmation.Inbound.Contact
import SafetyConfirmation.Recording.TranscriptMeta

/-!
# The ResponseApi lambda

What the routes make of a Response row and of the TranscriptMeta rows beside it. The writers and this reader name the
attributes independently of each other: a row is read as the item its writers left, by attribute name.
-/

namespace SafetyConfirmation

open KeyedStore Checks StepMachine

/-! ### Items -/

namespace Response

/-- The item a read returns. -/
def item (key : String × String) (row : Response) : Value :=
  .dict ([("cycleId", .str key.1), ("employeeId", .str key.2)] ++
    Value.entry "voiceStatus" (row.voiceStatus.map fun status => .str status.name) ++
    Value.entry "callAttempts" (row.callAttempts.map fun n => .decimal n) ++
    Value.entry "dictionaryVersion" (row.dictionaryVersion.map fun n => .decimal n) ++
    Value.entry "contactId" (row.contactId.map .str) ++
    Value.entry "dispatchedAt" (row.dispatchedAt.map fun now => .str now.isoText) ++
    Value.entry "callResultCode" (row.callResultCode.map .str) ++
    Value.entry "callResultCodes" (row.callResultCodes.map fun codes => .list (codes.map .str)) ++
    Value.entry "endedAt" (row.endedAt.map fun now => .str now.isoText) ++
    Value.entry "matchedKeywords" (row.matchedKeywords.map fun words => .list (words.map .str)) ++
    Value.entry "transcriptExcerpt" (row.transcriptExcerpt.map .str) ++
    Value.entry "finalizedAt" (row.finalizedAt.map fun now => .str now.isoText) ++
    Value.entry "sfnError" (row.sfnError.map .str))

end Response

/-- `int(str(v))`. -/
def Value.intOfStr : Value → Except PyError Int
  | .int n => .ok n
  | .decimal q => if q.den = 1 then .ok q.num else .error (.valueError "invalid literal for int() with base 10:")
  | .str s =>
    match s.toInt? with
    | some n => .ok n
    | Option.none => .error (.valueError "invalid literal for int() with base 10:" (some (.str s)))
  | v => .error (.valueError "invalid literal for int() with base 10:" (some v))

namespace ResponseApi

/-! ### Input -/

/-- `inboundContactTable` is whether the name of that table is configured. -/
structure Settings where
  encryptionEnabled : Bool
  crypto : FieldCrypto
  inboundContactTable : Bool

structure Request where
  httpMethod : String
  resource : String
  pathParameters : Value := .none
  nextToken : RawBody := .missing

structure Tables where
  employees : Store String Employee := ∅
  responses : Store (String × String) Response := ∅
  transcriptMetas : Store (String × String) TranscriptMeta := ∅
  inboundContacts : Store String InboundContact := ∅

/-- What the environment answers: which reads fail, and how many items a page holds at most (its size is limited, too). -/
structure Environment where
  failsEmployee : String → Bool := fun _ => false
  failsTranscriptMeta : String → Bool := fun _ => false
  failsQuery : Option String := none
  evaluated : Nat := 50

def pageSize : Nat := 50

/-! ### What a row is reported with -/

variable (settings : Settings) (environment : Environment) (tables : Tables)

/-- `_resolve_employee_name`: a lookup that fails has no name, and a name that cannot be decrypted stays as it is. -/
def resolveEmployeeName (employeeId : String) : Option String :=
  if employeeId = "" || environment.failsEmployee employeeId then none
  else
    (tables.employees.lookup employeeId).map fun employee =>
      if settings.encryptionEnabled && settings.crypto.isEncrypted employee.name then
        (settings.crypto.decryptField employee.name).toOption.getD employee.name
      else employee.name

/-- The query of `_latest_transcript_excerpt`: the last row in the order of the sort key. -/
def latestTranscriptMeta (cycleId employeeId : String) : Option ((String × String) × TranscriptMeta) :=
  ((tables.transcriptMetas.rows.filter fun entry =>
      entry.1.1 == cycleId && decide ((employeeId ++ "#").toList <+: entry.1.2.toList)).insertionSort
    fun left right => right.1.2 ≤ left.1.2).head?

def latestTranscriptExcerpt (cycleId employeeId : String) : Option String :=
  if environment.failsTranscriptMeta employeeId then none
  else
    (latestTranscriptMeta tables cycleId employeeId).bind fun entry =>
      ((TranscriptMeta.item entry.1 entry.2).get? "excerpt").bind Value.asStr?

def strOrNone : Option String → Value
  | some s => .str s
  | none => .none

def attributeOrNone (item : Value) (key : String) : Value := (item.get? key).getD .none

/-- The fields of a reported row, the same in both routes. -/
def reportRow (item employeeId : Value) (employeeName excerpt : Option String) : Except PyError Value := do
  let retryCount ← ((item.get? "retryCount").getD (.int 0)).intOfStr
  return .dict [
    ("cycleId", attributeOrNone item "cycleId"),
    ("employeeId", employeeId),
    ("employeeName", strOrNone employeeName),
    ("voiceStatus", attributeOrNone item "voiceStatus"),
    ("callResultCode", attributeOrNone item "callResultCode"),
    ("retryCount", .int retryCount),
    ("lastCalledAt", attributeOrNone item "lastCalledAt"),
    ("finalizedAt", attributeOrNone item "finalizedAt"),
    ("transcriptExcerpt", strOrNone excerpt)]

/-! ### The routes -/

/-- The order in which a query of the table returns the rows of a cycle, after the start key. -/
def queryResponses (cycleId : String) (startKey : Option String) : List ((String × String) × Response) :=
  (tables.responses.rows.filter fun entry => entry.1.1 == cycleId && startKey.all (· < entry.1.2)).insertionSort
    fun left right => left.1.2 ≤ right.1.2

/-- `ExclusiveStartKey` names the whole key of a row of the cycle. -/
def parseStartKey (cycleId : String) : RawBody → Except PyError (Option String)
  | .missing => .ok none
  | .invalid message => .error (.valueError ("Invalid nextToken: " ++ message))
  | .json v =>
    match v.get? "cycleId", v.get? "employeeId" with
    | some (.str c), some (.str employeeId) =>
      if c = cycleId then .ok (some employeeId) else .error (.clientError "ValidationException")
    | _, _ => .error (.clientError "ValidationException")

/-- The page and the token of the next one: the read stops where it is full, even if nothing follows. -/
def takePage {α : Type} (rows : List α) (evaluated : Nat) : List α × Option α :=
  let page := rows.take (min pageSize evaluated)
  (page, if page.length = min pageSize evaluated then page.getLast? else none)

def requirePathString (v : Value) (message : String) : Except PyError String :=
  match v with
  | .str s => if s = "" then .error (.valueError message) else .ok s
  | _ => .error (.valueError message)

/-- The token of the next page is a JSON text, here the value it stands for. -/
def listResponses (request : Request) : Except PyError HttpResponse := do
  let cycleId ← requirePathString (← request.pathParameters.getOrEmpty "id") "id path parameter is required"
  let startKey ← parseStartKey cycleId request.nextToken
  match environment.failsQuery with
  | some code => .error (.clientError code)
  | none =>
    let (page, lastKey) := takePage (queryResponses tables cycleId startKey) environment.evaluated
    let items ← page.mapM fun entry =>
      let employeeId := entry.1.2
      reportRow (entry.2.item entry.1) (.str employeeId) (resolveEmployeeName settings environment tables employeeId)
        (if employeeId = "" then none else latestTranscriptExcerpt environment tables cycleId employeeId)
    return {
      statusCode := 200
      body := .dict [("items", .list items), ("pageSize", .int pageSize),
        ("nextToken", match lastKey with
          | some entry => .dict [("cycleId", .str entry.1.1), ("employeeId", .str entry.1.2)]
          | none => .none)] }

def getSingleResponse (request : Request) : Except PyError HttpResponse := do
  let cycleId ← requirePathString (← request.pathParameters.getOrEmpty "id") "id path parameter is required"
  let employeeId ← requirePathString (← request.pathParameters.getOrEmpty "employeeId")
    "employeeId path parameter is required"
  match environment.failsQuery, tables.responses.lookup (cycleId, employeeId) with
  | some code, _ => .error (.clientError code)
  | none, none => return .error 404 ("Response not found: " ++ cycleId ++ "/" ++ employeeId)
  | none, some row =>
    let item := row.item (cycleId, employeeId)
    let body ← reportRow item (attributeOrNone item "employeeId")
      (resolveEmployeeName settings environment tables employeeId)
      (latestTranscriptExcerpt environment tables cycleId employeeId)
    return { statusCode := 200, body }

def parseContactStartKey : RawBody → Except PyError (Option String)
  | .missing => .ok none
  | .invalid message => .error (.valueError ("Invalid nextToken: " ++ message))
  | .json v =>
    match v.get? "contactId" with
    | some (.str contactId) => .ok (some contactId)
    | _ => .error (.clientError "ValidationException")

/-- The scan of `_list_inbound_contacts` starts after the row of the token, in the order the table is stored in. -/
def scanInboundContacts (startKey : Option String) : List (String × InboundContact) :=
  match startKey with
  | none => tables.inboundContacts.rows
  | some contactId => (tables.inboundContacts.rows.dropWhile fun entry => entry.1 != contactId).drop 1

/-- No lambda writes a `transcriptExcerpt` into the row. -/
def listInboundContacts (request : Request) : Except PyError HttpResponse :=
  if !settings.inboundContactTable then .ok (.error 500 "INBOUND_CONTACT_TABLE_NAME not configured")
  else do
    let startKey ← parseContactStartKey request.nextToken
    match environment.failsQuery with
    | some code => .error (.clientError code)
    | none =>
      let (page, lastKey) := takePage (scanInboundContacts tables startKey) environment.evaluated
      let items := (page.insertionSort fun left right => right.2.receivedAt ≤ left.2.receivedAt).map fun (contactId, contact) =>
        Value.dict [
          ("contactId", .str contactId),
          ("receivedAt", .str contact.receivedAt.isoText),
          ("callerNumberMasked", .str contact.callerNumberMasked),
          ("cycleId", strOrNone contact.cycleId),
          ("employeeName", strOrNone (contact.employeeId.bind (resolveEmployeeName settings environment tables))),
          ("flow", .str contact.flow.name),
          ("voiceStatus", strOrNone (contact.voiceStatus.map VoiceStatus.name)),
          ("transcriptExcerpt", .none)]
      return {
        statusCode := 200
        body := .dict [("items", .list items), ("pageSize", .int pageSize),
          ("nextToken", match lastKey with
            | some entry => .dict [("contactId", .str entry.1)]
            | none => .none)] }

def route (request : Request) : Except PyError HttpResponse :=
  match request.httpMethod, request.resource with
  | "GET", "/cycles/{id}/responses" => listResponses settings environment tables request
  | "GET", "/cycles/{id}/responses/{employeeId}" => getSingleResponse settings environment tables request
  | "GET", "/inbound" => listInboundContacts settings environment tables request
  | method, resource => return .error 405 ("Method " ++ method ++ " not allowed on " ++ resource)

/-- A `ValueError` is answered 400, and any other exception passes through. -/
def lambdaHandler (request : Request) : Except PyError HttpResponse :=
  match route settings environment tables request with
  | .error (.valueError message _) => .ok (.error 400 message)
  | answer => answer

/-! ### What is reachable -/

/-- A write of one of the two tables: the state machine's or a lambda's write of a Response row, and the two writers of
the TranscriptMeta row of a recording. -/
inductive Label where
  | initAttempt (key : String × String) (dictionaryVersion : Int)
  | finalizeOne (key : String × String) (finalStatus : VoiceStatus) (now : Instant)
  | finalizeOneError (key : String × String) (now : Instant)
  | writeRow (key : String × String) (w : RowWrite)
  | recordJob (cycleId employeeId seq jobName transcriptS3Key : String)
  | recordExcerpt (cycleId employeeId seq excerpt : String) (confidence : ℚ)

def metaKey (cycleId employeeId seq : String) : String × String := (cycleId, employeeId ++ "#" ++ seq)

def step (tables : Tables) : Label → Option Tables
  | .initAttempt key dictionaryVersion => some { tables with
      responses := tables.responses.write key (Response.initAttempt dictionaryVersion) }
  | .finalizeOne key finalStatus now => some { tables with
      responses := tables.responses.write key (Response.finalizeOne finalStatus now) }
  | .finalizeOneError key now => some { tables with
      responses := tables.responses.write key (Response.finalizeOneError now) }
  | .writeRow key w => some { tables with responses := tables.responses.write key w.write }
  | .recordJob cycleId employeeId seq jobName transcriptS3Key => some { tables with
      transcriptMetas := tables.transcriptMetas.write (metaKey cycleId employeeId seq)
        (TranscriptMeta.recordJob jobName transcriptS3Key) }
  | .recordExcerpt cycleId employeeId seq excerpt confidence => some { tables with
      transcriptMetas := tables.transcriptMetas.write (metaKey cycleId employeeId seq)
        (TranscriptMeta.recordExcerpt excerpt confidence) }

/-! ### What the claim of a report is -/

/-- The value of `\d`. -/
def decimalValue (c : Char) : Nat :=
  (Pattern.decimalZeros.find? fun start => decide (start ≤ c.toNat ∧ c.toNat < start + 10)).elim 0 (c.toNat - ·)

def seqNumber (seq : String) : Nat := seq.toList.foldl (fun n c => 10 * n + decimalValue c) 0

/-- The number of a call in a recording key. -/
def IsSeq (seq : String) : Prop := seq ≠ "" ∧ ∀ c ∈ seq.toList, Pattern.isDecimal c = true

/-- KeywordMatcher recorded an excerpt for the call. -/
def RecordedExcerpt (metas : Store (String × String) TranscriptMeta) (cycleId employeeId seq excerpt : String) : Prop :=
  IsSeq seq ∧ (metas.lookup (metaKey cycleId employeeId seq)).bind TranscriptMeta.transcriptExcerpt = some excerpt

/-- The excerpt of the call with the greatest number, `none` where no call has one. -/
def IsLatestExcerpt (metas : Store (String × String) TranscriptMeta) (cycleId employeeId : String) : Option String → Prop
  | some excerpt => ∃ seq, RecordedExcerpt metas cycleId employeeId seq excerpt ∧
      ∀ seq' excerpt', RecordedExcerpt metas cycleId employeeId seq' excerpt' → seqNumber seq' ≤ seqNumber seq
  | none => ∀ seq excerpt, ¬ RecordedExcerpt metas cycleId employeeId seq excerpt

/-- The item shows what the pipeline wrote for the employee. -/
structure Reports (tables : Tables) (key : String × String) (row : Response) (item : Value) : Prop where
  retryCount : item.get? "retryCount" = some (.int (Response.attemptsOf (some row)))
  lastCalledAt : item.get? "lastCalledAt" = some (strOrNone (row.dispatchedAt.map Instant.isoText))
  transcriptExcerpt : ∃ excerpt, item.get? "transcriptExcerpt" = some (strOrNone excerpt) ∧
    IsLatestExcerpt tables.transcriptMetas key.1 key.2 excerpt

/-- The item is what one of the two routes returns for a row. -/
inductive Returned (settings : Settings) (environment : Environment) (tables : Tables) : String × String → Value → Prop where
  | listed {request : Request} {items : List Value} {cycleId employeeId : String} {response : HttpResponse} {item : Value}
      (hresource : request.resource = "/cycles/{id}/responses")
      (hcycle : request.pathParameters.get? "id" = some (.str cycleId))
      (hanswer : lambdaHandler settings environment tables request = .ok response)
      (hitems : response.body.get? "items" = some (.list items)) (hitem : item ∈ items)
      (hemployee : item.get? "employeeId" = some (.str employeeId)) :
      Returned settings environment tables (cycleId, employeeId) item
  | single {request : Request} {cycleId employeeId : String} {response : HttpResponse}
      (hresource : request.resource = "/cycles/{id}/responses/{employeeId}")
      (hcycle : request.pathParameters.get? "id" = some (.str cycleId))
      (hemployee : request.pathParameters.get? "employeeId" = some (.str employeeId))
      (hanswer : lambdaHandler settings environment tables request = .ok response) (hstatus : response.statusCode = 200) :
      Returned settings environment tables (cycleId, employeeId) response.body

/-! ### What the reader finds -/

variable {settings : Settings} {environment : Environment} {tables t : Tables} {key : String × String} {item : Value}

theorem lookup_entry (name key : String) (v : Option Value) :
    (Value.entry name v).lookup key = if key = name then v else none := by
  cases v with
  | none =>
    rw [ite_self]
    rfl
  | some v =>
    rw [Value.entry, Option.map_some, Option.toList_some, List.lookup_cons]
    split <;> simp_all

/-- No writer of a Response row writes the attributes of these two names. -/
theorem item_get?_retryCount (key : String × String) (row : Response) : (row.item key).get? "retryCount" = none := by
  simp [Response.item, Value.get?, List.lookup_append, lookup_entry, List.lookup_cons]

theorem item_get?_lastCalledAt (key : String × String) (row : Response) : (row.item key).get? "lastCalledAt" = none := by
  simp [Response.item, Value.get?, List.lookup_append, lookup_entry, List.lookup_cons]

theorem item_get?_excerpt (key : String × String) (row : TranscriptMeta) :
    (TranscriptMeta.item key row).get? "excerpt" = none := by
  simp [TranscriptMeta.item, Value.get?, List.lookup_append, lookup_entry, List.lookup_cons]

theorem latestTranscriptExcerpt_eq_none (cycleId employeeId : String) :
    latestTranscriptExcerpt environment tables cycleId employeeId = none := by
  rw [latestTranscriptExcerpt]
  split
  · rfl
  · simp [item_get?_excerpt]

theorem reportRow_eq_ok {row : Response} {employeeId : Value} {employeeName excerpt : Option String}
    (h : reportRow (row.item key) employeeId employeeName excerpt = .ok item) :
    item.get? "retryCount" = some (.int 0) ∧ item.get? "lastCalledAt" = some .none ∧
      item.get? "transcriptExcerpt" = some (strOrNone excerpt) ∧ item.get? "employeeId" = some employeeId := by
  rw [reportRow, item_get?_retryCount] at h
  cases h
  have hlast : attributeOrNone (row.item key) "lastCalledAt" = .none := by
    rw [attributeOrNone, item_get?_lastCalledAt]
    rfl
  exact ⟨rfl, congrArg some hlast, rfl, rfl⟩

theorem lookup_of_mem_queryResponses {cycleId : String} {startKey : Option String} {entry : (String × String) × Response}
    (h : entry ∈ queryResponses tables cycleId startKey) :
    entry.1.1 = cycleId ∧ tables.responses.lookup entry.1 = some entry.2 := by
  rw [queryResponses, List.mem_insertionSort, List.mem_filter, Bool.and_eq_true, beq_iff_eq] at h
  exact ⟨h.2.1, Store.mem_rows.1 h.1⟩

theorem requirePathString_eq_ok {v : Value} {message s : String} (h : requirePathString v message = .ok s) :
    v = .str s := by
  cases v with
  | str s' =>
    rw [requirePathString] at h
    split at h
    · cases h
    · cases h
      rfl
  | _ => cases h

theorem getOrEmpty_of_get? {v w : Value} {name : String} (h : v.get? name = some w) : v.getOrEmpty name = .ok w := by
  cases v with
  | dict items =>
    rw [Value.getOrEmpty, show items.lookup name = some w from h]
    rfl
  | _ => cases h

/-- Whatever the writers left, a row is reported as one that was never called. -/
structure ReportsNothing (item : Value) : Prop where
  retryCount : item.get? "retryCount" = some (.int 0)
  lastCalledAt : item.get? "lastCalledAt" = some .none
  transcriptExcerpt : item.get? "transcriptExcerpt" = some .none

theorem reportsNothing_listResponses {request : Request} {cycleId employeeId : String} {response : HttpResponse}
    {items : List Value} (hcycle : request.pathParameters.get? "id" = some (.str cycleId))
    (hanswer : listResponses settings environment tables request = .ok response)
    (hitems : response.body.get? "items" = some (.list items)) (hitem : item ∈ items)
    (hemployee : item.get? "employeeId" = some (.str employeeId)) :
    ReportsNothing item ∧ ∃ row, tables.responses.lookup (cycleId, employeeId) = some row := by
  rw [listResponses, getOrEmpty_of_get? hcycle, ok_bind] at hanswer
  obtain ⟨cycleId', hpath, hanswer⟩ := bind_eq_ok.1 hanswer
  cases requirePathString_eq_ok hpath
  obtain ⟨startKey, -, hanswer⟩ := bind_eq_ok.1 hanswer
  split at hanswer
  · cases hanswer
  · obtain ⟨reported, hreported, hanswer⟩ := bind_eq_ok.1 hanswer
    cases hanswer
    cases hitems
    obtain ⟨entry, hentry, hrow⟩ := exists_of_mem_mapM hreported hitem
    obtain ⟨hretry, hlast, hexcerpt, hid⟩ := reportRow_eq_ok hrow
    obtain ⟨hkey, hlookup⟩ := lookup_of_mem_queryResponses (List.mem_of_mem_take hentry)
    rw [hid] at hemployee
    cases hemployee
    rw [latestTranscriptExcerpt_eq_none, ite_self] at hexcerpt
    exact ⟨⟨hretry, hlast, hexcerpt⟩, entry.2, by rw [← hkey]; exact hlookup⟩

theorem reportsNothing_getSingleResponse {request : Request} {cycleId employeeId : String} {response : HttpResponse}
    (hcycle : request.pathParameters.get? "id" = some (.str cycleId))
    (hemployee : request.pathParameters.get? "employeeId" = some (.str employeeId))
    (hanswer : getSingleResponse settings environment tables request = .ok response) (hstatus : response.statusCode = 200) :
    ReportsNothing response.body ∧ ∃ row, tables.responses.lookup (cycleId, employeeId) = some row := by
  rw [getSingleResponse, getOrEmpty_of_get? hcycle, getOrEmpty_of_get? hemployee, ok_bind] at hanswer
  obtain ⟨cycleId', hpath, hanswer⟩ := bind_eq_ok.1 hanswer
  cases requirePathString_eq_ok hpath
  rw [ok_bind] at hanswer
  obtain ⟨employeeId', hpath, hanswer⟩ := bind_eq_ok.1 hanswer
  cases requirePathString_eq_ok hpath
  split at hanswer
  · cases hanswer
  · cases hanswer
    cases hstatus
  · rename_i row _ hrow
    obtain ⟨body, hbody, hanswer⟩ := bind_eq_ok.1 hanswer
    cases hanswer
    obtain ⟨hretry, hlast, hexcerpt, -⟩ := reportRow_eq_ok hbody
    rw [latestTranscriptExcerpt_eq_none] at hexcerpt
    exact ⟨⟨hretry, hlast, hexcerpt⟩, row, hrow⟩

/-- An answer that is not an error comes from the route. -/
theorem answer_cases {request : Request} {response : HttpResponse}
    (h : lambdaHandler settings environment tables request = .ok response) :
    (request.httpMethod = "GET" ∧ route settings environment tables request = .ok response) ∨
      ∃ statusCode message, statusCode ≠ 200 ∧ response = .error statusCode message := by
  rw [lambdaHandler] at h
  split at h
  · cases h
    exact .inr ⟨400, _, by decide, rfl⟩
  · by_cases hget : request.httpMethod = "GET"
    · exact .inl ⟨hget, h⟩
    · rw [route] at h
      split at h
      · exact absurd ‹_› hget
      · exact absurd ‹_› hget
      · exact absurd ‹_› hget
      · cases h
        exact .inr ⟨405, _, by decide, rfl⟩

theorem reportsNothing_of_returned (h : Returned settings environment tables key item) :
    ReportsNothing item ∧ ∃ row, tables.responses.lookup key = some row := by
  cases h with
  | listed hresource hcycle hanswer hitems hitem hemployee =>
    rcases answer_cases hanswer with ⟨hget, hroute⟩ | ⟨statusCode, message, -, rfl⟩
    · rw [route, hresource, hget] at hroute
      exact reportsNothing_listResponses hcycle hroute hitems hitem hemployee
    · cases hitems
  | single hresource hcycle hemployee hanswer hstatus =>
    rcases answer_cases hanswer with ⟨hget, hroute⟩ | ⟨statusCode, message, hne, rfl⟩
    · rw [route, hresource, hget] at hroute
      exact reportsNothing_getSingleResponse hcycle hemployee hroute hstatus
    · exact absurd hstatus hne

/-! ### What the pipeline wrote -/

/-- A row without an attempt has no time of dispatch: the dispatcher writes both. -/
def CountsDispatches (row : Option Response) : Prop := Response.attemptsOf row = 0 → row.bind Response.dispatchedAt = none

theorem countsDispatches_modify {row : Option Response} {change : Response → Response}
    (h : CountsDispatches row) (hattempts : ∀ r, (change r).callAttempts = r.callAttempts)
    (hdispatched : ∀ r, (change r).dispatchedAt = r.dispatchedAt) :
    CountsDispatches (some (change (row.getD {}))) := by
  intro hzero
  rw [Response.attemptsOf, Option.bind_some, hattempts] at hzero
  rw [Option.bind_some, hdispatched]
  cases row with
  | none => rfl
  | some row => exact h hzero

theorem countsDispatches_run (w : RowWrite) {row : Option Response} (h : CountsDispatches row) :
    CountsDispatches (w.run row) := by
  refine Write.run_induction h fun _ => ?_
  cases w with
  | recordSuccess contactId now | recordError now =>
    intro hzero
    cases hzero
  | putInbound => exact fun _ => rfl
  | _ => exact countsDispatches_modify h (fun _ => rfl) fun _ => rfl

def AllCountDispatches (tables : Tables) : Prop :=
  ∀ key row, tables.responses.lookup key = some row → CountsDispatches (some row)

theorem allCountDispatches_write (h : AllCountDispatches tables) {w : Write Response} (key : String × String)
    (hw : ∀ row, CountsDispatches row → CountsDispatches (w.run row)) :
    AllCountDispatches { tables with responses := tables.responses.write key w } := by
  refine Store.forall_lookup_write h fun row hrow => ?_
  rw [← hrow]
  apply hw
  cases hold : tables.responses.lookup key with
  | none => exact fun _ => rfl
  | some old => exact h key old hold

theorem allCountDispatches_step {label : Label} (h : AllCountDispatches tables) (hstep : step tables label = some t) :
    AllCountDispatches t := by
  cases label with
  | initAttempt key dictionaryVersion =>
    cases hstep
    exact allCountDispatches_write h key fun row hrow => Write.run_induction hrow fun _ _ => rfl
  | finalizeOne key finalStatus now =>
    cases hstep
    exact allCountDispatches_write h key fun row hrow => countsDispatches_modify hrow (fun _ => rfl) fun _ => rfl
  | finalizeOneError key now =>
    cases hstep
    exact allCountDispatches_write h key fun row hrow => countsDispatches_modify hrow (fun _ => rfl) fun _ => rfl
  | writeRow key w =>
    cases hstep
    exact allCountDispatches_write h key fun row hrow => countsDispatches_run w hrow
  | recordJob | recordExcerpt =>
    cases hstep
    exact h

/-- The tables before the first cycle. -/
def start (employees : Store String Employee) (inboundContacts : Store String InboundContact) : Tables :=
  { employees, inboundContacts }

/-- Whatever the pipeline wrote, a reported row shows it exactly when no attempt is recorded for it and no excerpt. -/
theorem reports_iff {employees : Store String Employee} {inboundContacts : Store String InboundContact}
    {labels : List Label} (hrun : exec step (start employees inboundContacts) labels = some tables)
    (hreturned : Returned settings environment tables key item) :
    ∃ row, tables.responses.lookup key = some row ∧ (Reports tables key row item ↔
      Response.attemptsOf (some row) = 0 ∧
        ∀ seq excerpt, ¬ RecordedExcerpt tables.transcriptMetas key.1 key.2 seq excerpt) := by
  obtain ⟨hnothing, row, hrow⟩ := reportsNothing_of_returned hreturned
  have hcounts : AllCountDispatches tables := by
    refine invariant (fun _ _ _ => allCountDispatches_step) ?_ hrun
    intro key row hrow
    cases hrow
  refine ⟨row, hrow, ?_, ?_⟩
  · intro hreports
    have hretry := hreports.retryCount
    obtain ⟨excerpt, hexcerpt, hlatest⟩ := hreports.transcriptExcerpt
    rw [hnothing.retryCount, Option.some.injEq, Value.int.injEq] at hretry
    rw [hnothing.transcriptExcerpt, Option.some.injEq] at hexcerpt
    refine ⟨(Int.natCast_eq_zero.1 hretry.symm), ?_⟩
    cases excerpt with
    | none => exact hlatest
    | some excerpt => cases hexcerpt
  · rintro ⟨hzero, hnone⟩
    have hdispatched : row.dispatchedAt = none := hcounts key row hrow hzero
    refine ⟨?_, ?_, none, hnothing.transcriptExcerpt, hnone⟩
    · rw [hnothing.retryCount, hzero]
      rfl
    · rw [hnothing.lastCalledAt, hdispatched]
      rfl

def singleRequest (cycleId employeeId : String) : Request where
  httpMethod := "GET"
  resource := "/cycles/{id}/responses/{employeeId}"
  pathParameters := .dict [("id", .str cycleId), ("employeeId", .str employeeId)]

/-- A row that is there can be read. -/
theorem exists_returned {cycleId employeeId : String} {row : Response} (hcycle : cycleId ≠ "") (hemployee : employeeId ≠ "")
    (hquery : environment.failsQuery = none) (hrow : tables.responses.lookup (cycleId, employeeId) = some row) :
    ∃ item, Returned settings environment tables (cycleId, employeeId) item := by
  have hreport : ∀ employeeName excerpt, ∃ body, reportRow (row.item (cycleId, employeeId))
      (attributeOrNone (row.item (cycleId, employeeId)) "employeeId") employeeName excerpt = .ok body := by
    intro employeeName excerpt
    rw [reportRow, item_get?_retryCount]
    exact ⟨_, rfl⟩
  obtain ⟨body, hbody⟩ := hreport (resolveEmployeeName settings environment tables employeeId)
    (latestTranscriptExcerpt environment tables cycleId employeeId)
  have hid : (singleRequest cycleId employeeId).pathParameters.get? "id" = some (.str cycleId) := rfl
  have hemployeeId : (singleRequest cycleId employeeId).pathParameters.get? "employeeId" = some (.str employeeId) := rfl
  have hsingle : getSingleResponse settings environment tables (singleRequest cycleId employeeId) =
      .ok { statusCode := 200, body } := by
    rw [getSingleResponse, getOrEmpty_of_get? hid, getOrEmpty_of_get? hemployeeId, ok_bind, requirePathString,
      if_neg hcycle, ok_bind, ok_bind, requirePathString, if_neg hemployee, ok_bind, hquery, hrow]
    dsimp only
    rw [hbody]
    rfl
  have hanswer : lambdaHandler settings environment tables (singleRequest cycleId employeeId) =
      .ok { statusCode := 200, body } := by
    have hroute : route settings environment tables (singleRequest cycleId employeeId) = .ok { statusCode := 200, body } :=
      hsingle
    rw [lambdaHandler, hroute]
  exact ⟨_, .single rfl hid hemployeeId hanswer rfl⟩

def plainSettings : Settings where
  encryptionEnabled := false
  crypto := .marked
  inboundContactTable := true

def neverCalled : List Label := [.initAttempt ("c1", "e1") 1]

/-- A row that was not called yet is reported as it is. -/
theorem reports_neverCalled : ∃ tables item row, exec step (start ∅ ∅) neverCalled = some tables ∧
    Returned plainSettings {} tables ("c1", "e1") item ∧ Reports tables ("c1", "e1") row item := by
  obtain ⟨tables, hrun⟩ : ∃ tables, exec step (start ∅ ∅) neverCalled = some tables := ⟨_, rfl⟩
  have hlookup : tables.responses.lookup ("c1", "e1") =
      some { voiceStatus := some .pending, callAttempts := some 0, dictionaryVersion := some 1 } := by
    cases hrun
    rfl
  have hmetas : tables.transcriptMetas = ∅ := by
    cases hrun
    rfl
  obtain ⟨item, hitem⟩ := @exists_returned plainSettings {} tables "c1" "e1" _ (by decide) (by decide) rfl hlookup
  obtain ⟨row, hrow, hiff⟩ := reports_iff hrun hitem
  refine ⟨tables, item, row, hrun, hitem, hiff.2 ⟨?_, ?_⟩⟩
  · rw [hlookup] at hrow
    cases hrow
    rfl
  · rintro seq excerpt ⟨-, hexcerpt⟩
    rw [hmetas] at hexcerpt
    cases hexcerpt

/-- One call, placed a day after the epoch, and its transcript. -/
def calledOnce : List Label :=
  [.initAttempt ("c1", "e1") 1, .writeRow ("c1", "e1") (.recordSuccess "k1" Instant.microsecondsPerDay),
    .recordJob "c1" "e1" "1" "job" "transcripts/c1/e1/1.json", .recordExcerpt "c1" "e1" "1" "無事です" 1]

/-- The row of that call is reported without the attempt, its time and the excerpt. -/
theorem called_row_not_reported : ∃ tables item row, exec step (start ∅ ∅) calledOnce = some tables ∧
    Returned plainSettings {} tables ("c1", "e1") item ∧ tables.responses.lookup ("c1", "e1") = some row ∧
    row.callAttempts = some 1 ∧ item.get? "retryCount" = some (.int 0) ∧ item.get? "lastCalledAt" = some .none ∧
    item.get? "transcriptExcerpt" = some .none ∧ ¬ Reports tables ("c1", "e1") row item := by
  have hrow : ∀ tables, exec step (start ∅ ∅) calledOnce = some tables → tables.responses.lookup ("c1", "e1") = some
      { voiceStatus := some .pending, callAttempts := some 1, dictionaryVersion := some 1, contactId := some "k1"
        dispatchedAt := some Instant.microsecondsPerDay } := by
    rintro _ ⟨⟩
    rfl
  obtain ⟨tables, hrun⟩ : ∃ tables, exec step (start ∅ ∅) calledOnce = some tables := ⟨_, rfl⟩
  obtain ⟨item, hitem⟩ := @exists_returned plainSettings {} tables "c1" "e1" _ (by decide) (by decide) rfl
    (hrow tables hrun)
  obtain ⟨hnothing, -⟩ := reportsNothing_of_returned hitem
  refine ⟨tables, item, _, hrun, hitem, hrow tables hrun, rfl, hnothing.retryCount, hnothing.lastCalledAt,
    hnothing.transcriptExcerpt, fun hreports => ?_⟩
  have hretry := hreports.retryCount
  rw [hnothing.retryCount] at hretry
  cases hretry

end ResponseApi

end SafetyConfirmation
