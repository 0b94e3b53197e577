import SafetyConfirmation.Data.Http
import SafetyConfirmation.Inbound.Handler
import SafetyConfirmation.Recording.Keys

/-!
# The RecordingApi lambda

The four routes that issue a presigned URL, and the keys they issue it for, beside the keys the recordings and
transcripts are stored under.
-/

namespace SafetyConfirmation

namespace Inbound

open KeyedStore FlowGraph

/-! ### The keys that finalize stores -/

/-- What invocations of the lambda make of an empty Inbound_Contact table. The other tables may change between them. -/
inductive Reached : Store String InboundContact → Prop where
  | empty : Reached ∅
  | invoke {tables : Tables} (windowDays : Int) (now : Instant) (event : Value) (h : Reached tables.inboundContacts) :
      Reached (lambdaHandler windowDays now event tables).2.inboundContacts

def IsKeyOf (contactId extension key : String) : Prop :=
  ∃ now employeeId, key = inboundKey now employeeId contactId extension

structure StoredKeys (contactId : String) (recordingS3Key transcriptS3Key : Option String) : Prop where
  recording : ∀ key, recordingS3Key = some key → IsKeyOf contactId ".wav" key
  transcript : ∀ key, transcriptS3Key = some key → IsKeyOf contactId ".json" key

theorem storedKeys_none (contactId : String) : StoredKeys contactId none none where
  recording key h := by cases h
  transcript key h := by cases h

/-- What an invocation can make of the Inbound_Contact table. -/
inductive ContactWrite (inboundContacts : Store String InboundContact) : Store String InboundContact → Prop where
  | unchanged : ContactWrite inboundContacts inboundContacts
  | identified (now : Instant) (contactId callerNumber : String) (flow : InboundFlow) (employeeId cycleId : Option String) :
      ContactWrite inboundContacts (inboundContacts.write contactId
        (InboundContact.putProvisional now callerNumber flow employeeId cycleId))
  | finalized {contactId : String} {completion : InboundContact.Completion} (flow : InboundFlow)
      (h : StoredKeys contactId completion.recordingS3Key completion.transcriptS3Key) :
      ContactWrite inboundContacts (inboundContacts.write contactId (InboundContact.complete flow completion))

theorem contactWrite_handleIdentify (windowDays : Int) (now : Instant) (event : Value) (tables : Tables) :
    ContactWrite tables.inboundContacts (handleIdentify windowDays now event tables).2.inboundContacts := by
  rw [handleIdentify]
  split
  · exact .unchanged
  · dsimp only
    split
    · exact .unchanged
    · exact .identified ..

theorem contactWrite_finalizeInboundContact {contactId : String} {completion : InboundContact.Completion}
    (h : StoredKeys contactId completion.recordingS3Key completion.transcriptS3Key) (flow : InboundFlow)
    (answer : StringMap) (tables : Tables) : ContactWrite tables.inboundContacts
      (finalizeInboundContact contactId flow completion answer tables).2.inboundContacts := by
  rw [finalizeInboundContact]
  split
  · exact .finalized flow h
  · exact .unchanged

theorem contactWrite_handleFinalize (now : Instant) (event : Value) (tables : Tables) :
    ContactWrite tables.inboundContacts (handleFinalize now event tables).2.inboundContacts := by
  rw [handleFinalize]
  split
  · exact .unchanged
  · rename_i contactId flow employeeId cycleId _
    split
    · have hkeys : StoredKeys contactId (some (inboundKey now employeeId contactId ".wav"))
          (some (inboundKey now employeeId contactId ".json")) := by
        constructor <;>
        · rintro _ ⟨⟩
          exact ⟨now, employeeId, rfl⟩
      exact contactWrite_finalizeInboundContact hkeys flow _
        { tables with responses := appendInboundToResponse tables.responses cycleId employeeId }
    · exact contactWrite_finalizeInboundContact (storedKeys_none contactId) ..

theorem contactWrite_lambdaHandler (windowDays : Int) (now : Instant) (event : Value) (tables : Tables) :
    ContactWrite tables.inboundContacts (lambdaHandler windowDays now event tables).2.inboundContacts := by
  cases event with
  | dict items =>
    rw [lambdaHandler]
    split
    · exact .unchanged
    · split
      · exact contactWrite_handleIdentify ..
      · exact contactWrite_handleFinalize ..
      · exact .unchanged
  | _ => exact .unchanged

theorem forall_eq_some_or {P : String → Prop} {left right : Option String} (hleft : ∀ key, left = some key → P key)
    (hright : ∀ key, right = some key → P key) : ∀ key, left.or right = some key → P key := by
  intro key hkey
  rcases Option.or_eq_some_iff.1 hkey with hkey | ⟨-, hkey⟩
  · exact hleft key hkey
  · exact hright key hkey

theorem StoredKeys.or {contactId : String} {recordingS3Key transcriptS3Key recordingS3Key' transcriptS3Key' : Option String}
    (h : StoredKeys contactId recordingS3Key transcriptS3Key)
    (h' : StoredKeys contactId recordingS3Key' transcriptS3Key') :
    StoredKeys contactId (recordingS3Key.or recordingS3Key') (transcriptS3Key.or transcriptS3Key') where
  recording := forall_eq_some_or h.recording h'.recording
  transcript := forall_eq_some_or h.transcript h'.transcript

def AllStored (inboundContacts : Store String InboundContact) : Prop :=
  ∀ contactId contact, inboundContacts.lookup contactId = some contact →
    StoredKeys contactId contact.recordingS3Key contact.transcriptS3Key

theorem allStored_of_contactWrite {before after : Store String InboundContact} (hwrite : ContactWrite before after)
    (hbefore : AllStored before) : AllStored after := by
  cases hwrite with
  | unchanged => exact hbefore
  | identified now contactId callerNumber flow employeeId cycleId =>
    refine Store.forall_lookup_write hbefore fun contact => ?_
    refine Write.run_induction (motive := fun row => row = some contact → _) (hbefore contactId contact) fun _ => ?_
    rintro ⟨⟩
    exact storedKeys_none contactId
  | @finalized contactId completion flow hkeys =>
    refine Store.forall_lookup_write hbefore fun contact => ?_
    refine Write.run_induction (motive := fun row => row = some contact → _) (hbefore contactId contact) fun _ => ?_
    intro hcomplete
    obtain ⟨old, hold, rfl⟩ := Option.map_eq_some_iff.1 hcomplete
    exact hkeys.or (hbefore contactId old hold)

theorem allStored_of_reached {inboundContacts : Store String InboundContact} (h : Reached inboundContacts) :
    AllStored inboundContacts := by
  induction h with
  | empty =>
    intro contactId contact hcontact
    cases hcontact
  | @invoke tables windowDays now event _ ih =>
    exact allStored_of_contactWrite (contactWrite_lambdaHandler windowDays now event tables) ih

end Inbound

namespace RecordingApi

open KeyedStore Checks Recording

/-- The buckets of the environment, and `generate_presigned_url` for a bucket, a key and a number of seconds. -/
structure Settings where
  recordingsBucket : String
  transcriptsBucket : String
  generatePresignedUrl : String → String → Nat → String

structure Request where
  httpMethod : String
  resource : String
  pathParameters : Value := .none

def presignedUrlTtlSeconds : Nat := 15 * 60

def canIssueUrl (reference now : Instant) (maxDays : Int := 90) : Bool :=
  decide (now - reference ≤ maxDays * Instant.microsecondsPerDay)

def cycleKey (cycleId employeeId seq ext : String) : String :=
  "cycles/" ++ cycleId ++ "/" ++ employeeId ++ "#" ++ seq ++ "." ++ ext

def inboundKey (contactId ext : String) : String := "inbound/" ++ contactId ++ "." ++ ext

/-! ### The routes -/

def nonEmptyStr? (v : Value) : Option String := v.asStr?.filter (· ≠ "")

def issued (settings : Settings) (bucket key : String) : HttpResponse where
  statusCode := 200
  body := .dict [("url", .str (settings.generatePresignedUrl bucket key presignedUrlTtlSeconds)),
    ("expiresInSeconds", .int presignedUrlTtlSeconds), ("bucket", .str bucket), ("key", .str key)]

def gone (idName id referenceName : String) (reference : Instant) : HttpResponse where
  statusCode := 410
  body := .dict [("error", .str "Recording / transcript has been deleted by 90-day lifecycle policy"),
    (idName, .str id), (referenceName, .str reference.isoText)]

/-- `item` is the reference time of the row that was read. Both tables' writers put one into every row. -/
def artifact (item : Option (Option Instant)) (now : Instant) (notFound noTimestamp : String)
    (expired : Instant → HttpResponse) (found : HttpResponse) : HttpResponse :=
  match item with
  | none => .error 404 notFound
  | some none => .error 500 noTimestamp
  | some (some reference) => if canIssueUrl reference now.truncateToSeconds then found else expired reference

def cycleArtifact (settings : Settings) (now : Instant) (cycles : Store String Cycle) (pathParameters : Value)
    (bucket ext : String) : Except PyError HttpResponse := do
  let cycleId ← pathParameters.getOrEmpty "id"
  let employeeId ← pathParameters.getOrEmpty "employeeId"
  let seq ← pathParameters.getOrEmpty "seq"
  match nonEmptyStr? cycleId, nonEmptyStr? employeeId, nonEmptyStr? seq with
  | some cycleId, some employeeId, some seq =>
    return artifact ((cycles.lookup cycleId).map fun cycle => some cycle.startedAt) now
      ("Cycle not found: " ++ cycleId) "Cycle has no startedAt timestamp" (gone "cycleId" cycleId "startedAt")
      (issued settings bucket (cycleKey cycleId employeeId seq ext))
  | _, _, _ => .error (.valueError "id, employeeId, seq path parameters are required")

def inboundArtifact (settings : Settings) (now : Instant) (inboundContacts : Store String InboundContact)
    (pathParameters : Value) (bucket ext : String) : Except PyError HttpResponse := do
  let contactId ← pathParameters.getOrEmpty "contactId"
  match nonEmptyStr? contactId with
  | some contactId =>
    return artifact ((inboundContacts.lookup contactId).map fun contact => some contact.receivedAt) now
      ("Inbound contact not found: " ++ contactId) "InboundContact has no receivedAt timestamp"
      (gone "contactId" contactId "receivedAt") (issued settings bucket (inboundKey contactId ext))
  | none => .error (.valueError "contactId path parameter is required")

def route (settings : Settings) (now : Instant) (request : Request) (tables : Inbound.Tables) :
    Except PyError HttpResponse :=
  match request.httpMethod, request.resource with
  | "GET", "/cycles/{id}/recordings/{employeeId}/{seq}" =>
    cycleArtifact settings now tables.cycles request.pathParameters settings.recordingsBucket "wav"
  | "GET", "/cycles/{id}/transcripts/{employeeId}/{seq}" =>
    cycleArtifact settings now tables.cycles request.pathParameters settings.transcriptsBucket "json"
  | "GET", "/inbound/{contactId}/recording" =>
    inboundArtifact settings now tables.inboundContacts request.pathParameters settings.recordingsBucket "wav"
  | "GET", "/inbound/{contactId}/transcript" =>
    inboundArtifact settings now tables.inboundContacts request.pathParameters settings.transcriptsBucket "json"
  | method, resource => return .error 405 ("Method " ++ method ++ " not allowed on " ++ resource)

/-- A `ValueError` is answered 400, and any other exception passes through. -/
def lambdaHandler (settings : Settings) (now : Instant) (request : Request) (tables : Inbound.Tables) :
    Except PyError HttpResponse :=
  match route settings now request tables with
  | .error (.valueError message _) => .ok (.error 400 message)
  | answer => answer

/-! ### What a URL is issued for -/

inductive Artifact where
  | recording
  | transcript
  deriving DecidableEq

namespace Artifact

def ext : Artifact → String
  | recording => "wav"
  | transcript => "json"

def bucket (settings : Settings) : Artifact → String
  | recording => settings.recordingsBucket
  | transcript => settings.transcriptsBucket

def cycleResource : Artifact → String
  | recording => "/cycles/{id}/recordings/{employeeId}/{seq}"
  | transcript => "/cycles/{id}/transcripts/{employeeId}/{seq}"

def inboundResource : Artifact → String
  | recording => "/inbound/{contactId}/recording"
  | transcript => "/inbound/{contactId}/transcript"

def cycleRequest (artifact : Artifact) (cycleId employeeId seq : String) : Request where
  httpMethod := "GET"
  resource := artifact.cycleResource
  pathParameters := .dict [("id", .str cycleId), ("employeeId", .str employeeId), ("seq", .str seq)]

def inboundRequest (artifact : Artifact) (contactId : String) : Request where
  httpMethod := "GET"
  resource := artifact.inboundResource
  pathParameters := .dict [("contactId", .str contactId)]

/-- The key an artifact of a call is stored under: by RecordingRelocator, and by TranscribeStarter for that recording. -/
def storedCycleKey (cycleId employeeId : String) (seq : Nat) : Artifact → Option String
  | recording => (deriveTargetOutboundKey cycleId employeeId seq).toOption
  | transcript => ((deriveTargetOutboundKey cycleId employeeId seq).toOption.bind parseRecordingKey).map
      RecordingKeyInfo.transcriptS3Key

def storedInboundKey (contact : InboundContact) : Artifact → Option String
  | recording => contact.recordingS3Key
  | transcript => contact.transcriptS3Key

end Artifact

/-- The key of the URL in an answer, `none` when there is no URL. -/
def issuedKey? (answer : Except PyError HttpResponse) : Option String :=
  answer.toOption.bind fun response => (response.body.get? "key").bind Value.asStr?

variable {settings : Settings} {now : Instant} {tables : Inbound.Tables}

theorem nonEmptyStr_str {s : String} : nonEmptyStr? (.str s) = if s = "" then none else some s := by
  rw [nonEmptyStr?, Value.asStr?, Option.filter_some]
  by_cases hs : s = "" <;> simp [hs]

/-- A URL is issued for a row that is there and no older than 90 days. -/
theorem issuedKey_artifact {item : Option Instant} {notFound noTimestamp bucket key key' : String}
    {expired : Instant → HttpResponse} (hexpired : ∀ reference, issuedKey? (.ok (expired reference)) = none) :
    issuedKey? (.ok (artifact (item.map some) now notFound noTimestamp expired (issued settings bucket key))) =
      some key' ↔
      (∃ reference, item = some reference ∧ canIssueUrl reference now.truncateToSeconds = true) ∧ key' = key := by
  cases item with
  | none =>
    refine iff_of_false (fun h => by cases h) ?_
    rintro ⟨⟨reference, hnone, -⟩, -⟩
    cases hnone
  | some reference =>
    rw [Option.map_some, artifact]
    cases hissue : canIssueUrl reference now.truncateToSeconds with
    | true =>
      have hkey : issuedKey? (.ok (issued settings bucket key)) = some key := rfl
      rw [if_pos rfl, hkey, Option.some.injEq]
      constructor
      · rintro rfl
        exact ⟨⟨reference, rfl, hissue⟩, rfl⟩
      · rintro ⟨-, rfl⟩
        rfl
    | false =>
      rw [if_neg Bool.false_ne_true, hexpired]
      refine iff_of_false (fun h => by cases h) ?_
      rintro ⟨⟨_, heq, hissue'⟩, -⟩
      cases heq
      rw [hissue] at hissue'
      cases hissue'

theorem lambdaHandler_cycleRequest (a : Artifact) (cycleId employeeId seq : String) :
    lambdaHandler settings now (a.cycleRequest cycleId employeeId seq) tables =
      if cycleId = "" ∨ employeeId = "" ∨ seq = "" then
        .ok (.error 400 "id, employeeId, seq path parameters are required")
      else .ok (artifact ((tables.cycles.lookup cycleId).map fun cycle => some cycle.startedAt) now
        ("Cycle not found: " ++ cycleId) "Cycle has no startedAt timestamp" (gone "cycleId" cycleId "startedAt")
        (issued settings (a.bucket settings) (cycleKey cycleId employeeId seq a.ext))) := by
  have hroute : route settings now (a.cycleRequest cycleId employeeId seq) tables =
      cycleArtifact settings now tables.cycles (a.cycleRequest cycleId employeeId seq).pathParameters
        (a.bucket settings) a.ext := by
    cases a <;> rfl
  have hid : (a.cycleRequest cycleId employeeId seq).pathParameters.getOrEmpty "id" = .ok (.str cycleId) := rfl
  have hemployeeId : (a.cycleRequest cycleId employeeId seq).pathParameters.getOrEmpty "employeeId" =
      .ok (.str employeeId) := rfl
  have hseq : (a.cycleRequest cycleId employeeId seq).pathParameters.getOrEmpty "seq" = .ok (.str seq) := rfl
  rw [lambdaHandler, hroute, cycleArtifact, hid, ok_bind, hemployeeId, ok_bind, hseq, ok_bind, nonEmptyStr_str,
    nonEmptyStr_str, nonEmptyStr_str]
  by_cases hcycleId : cycleId = ""
  · simp [hcycleId]
  by_cases hemployee : employeeId = ""
  · simp [hcycleId, hemployee]
  by_cases hseqText : seq = ""
  · simp [hcycleId, hemployee, hseqText]
  simp [hcycleId, hemployee, hseqText]

theorem lambdaHandler_inboundRequest (a : Artifact) (contactId : String) :
    lambdaHandler settings now (a.inboundRequest contactId) tables =
      if contactId = "" then .ok (.error 400 "contactId path parameter is required")
      else .ok (artifact ((tables.inboundContacts.lookup contactId).map fun contact => some contact.receivedAt) now
        ("Inbound contact not found: " ++ contactId) "InboundContact has no receivedAt timestamp"
        (gone "contactId" contactId "receivedAt") (issued settings (a.bucket settings) (inboundKey contactId a.ext))) := by
  have hroute : route settings now (a.inboundRequest contactId) tables =
      inboundArtifact settings now tables.inboundContacts (a.inboundRequest contactId).pathParameters
        (a.bucket settings) a.ext := by
    cases a <;> rfl
  have hid : (a.inboundRequest contactId).pathParameters.getOrEmpty "contactId" = .ok (.str contactId) := rfl
  rw [lambdaHandler, hroute, inboundArtifact, hid, ok_bind, nonEmptyStr_str]
  by_cases hcontactId : contactId = ""
  · simp [hcontactId]
  · simp [hcontactId]

theorem issuedKey_cycleRequest {a : Artifact} {cycleId employeeId seq key : String} :
    issuedKey? (lambdaHandler settings now (a.cycleRequest cycleId employeeId seq) tables) = some key ↔
      (cycleId ≠ "" ∧ employeeId ≠ "" ∧ seq ≠ "") ∧
      (∃ cycle, tables.cycles.lookup cycleId = some cycle ∧
        canIssueUrl cycle.startedAt now.truncateToSeconds = true) ∧
      key = cycleKey cycleId employeeId seq a.ext := by
  rw [lambdaHandler_cycleRequest]
  split
  · rename_i hmissing
    refine iff_of_false (fun h => by cases h) ?_
    rintro ⟨⟨hcycleId, hemployeeId, hseq⟩, -⟩
    rcases hmissing with h | h | h
    · exact hcycleId h
    · exact hemployeeId h
    · exact hseq h
  · rename_i hpresent
    rw [not_or, not_or] at hpresent
    have hitem : ((tables.cycles.lookup cycleId).map fun cycle => some cycle.startedAt) =
        ((tables.cycles.lookup cycleId).map Cycle.startedAt).map some := by
      rw [Option.map_map]
      rfl
    rw [hitem, issuedKey_artifact fun _ => rfl]
    simp only [hpresent, ne_eq, not_false_eq_true, and_self, true_and, Option.map_eq_some_iff, exists_exists_and_eq_and]

theorem issuedKey_inboundRequest {a : Artifact} {contactId key : String} :
    issuedKey? (lambdaHandler settings now (a.inboundRequest contactId) tables) = some key ↔
      contactId ≠ "" ∧
      (∃ contact, tables.inboundContacts.lookup contactId = some contact ∧
        canIssueUrl contact.receivedAt now.truncateToSeconds = true) ∧
      key = inboundKey contactId a.ext := by
  rw [lambdaHandler_inboundRequest]
  split
  · exact iff_of_false (fun h => by cases h) fun h => h.1 ‹_›
  · have hitem : ((tables.inboundContacts.lookup contactId).map fun contact => some contact.receivedAt) =
        ((tables.inboundContacts.lookup contactId).map InboundContact.receivedAt).map some := by
      rw [Option.map_map]
      rfl
    rename_i hpresent
    rw [hitem, issuedKey_artifact fun _ => rfl]
    simp only [hpresent, ne_eq, not_false_eq_true, true_and, Option.map_eq_some_iff, exists_exists_and_eq_and]

/-! ### The key signed and the key stored -/

theorem ne_of_head_ne {s t : String} (h : s.toList.head? ≠ t.toList.head?) : s ≠ t := by
  rintro rfl
  exact h rfl

theorem head_cycleKey (cycleId employeeId seq ext : String) : (cycleKey cycleId employeeId seq ext).toList.head? = some 'c' := by
  have hkey : cycleKey cycleId employeeId seq ext =
      "cycles/" ++ cycleId ++ "/" ++ employeeId ++ "#" ++ seq ++ "." ++ ext := rfl
  have hroot : "cycles/".toList = 'c' :: "ycles/".toList := rfl
  simp only [hkey, String.toList_append, hroot, List.cons_append, List.head?_cons]

theorem head_outboundKey (cycleId employeeId seq : String) : (outboundKey cycleId employeeId seq).toList.head? = some 'r' := by
  rw [toList_outboundKey]
  rfl

theorem head_transcriptKey (cycleId employeeId seq : String) :
    ("transcripts/" ++ cycleId ++ "/" ++ employeeId ++ "/" ++ seq ++ ".json").toList.head? = some 't' := by
  have hroot : "transcripts/".toList = 't' :: "ranscripts/".toList := rfl
  simp only [String.toList_append, hroot, List.cons_append, List.head?_cons]

/-- The key in a URL lacks the month and the employee that are part of the stored one. -/
theorem inboundKey_ne {contactId ext extension key : String} (h : Inbound.IsKeyOf contactId extension key)
    (hextension : extension.length = ext.length + 1) : inboundKey contactId ext ≠ key := by
  obtain ⟨received, employeeId, rfl⟩ := h
  intro heq
  have hsigned : inboundKey contactId ext = "inbound/" ++ contactId ++ "." ++ ext := rfl
  have hstored : Inbound.inboundKey received employeeId contactId extension =
      "inbound/" ++ received.formatYyyymm ++ "/" ++ employeeId ++ "/" ++ contactId ++ extension := rfl
  have hlength := congrArg String.length heq
  rw [hsigned, hstored] at hlength
  simp only [String.length_append] at hlength
  have hslash : "/".length = 1 := rfl
  have hdot : ".".length = 1 := rfl
  omega

theorem storedCycleKey_ne (a : Artifact) (cycleId employeeId ext : String) (seq : Nat) :
    a.storedCycleKey cycleId employeeId seq ≠ some (cycleKey cycleId employeeId (toString seq) ext) := by
  cases hderive : deriveTargetOutboundKey cycleId employeeId seq with
  | error e =>
    cases a <;>
    · rw [Artifact.storedCycleKey, hderive]
      exact fun h => by cases h
  | ok target =>
    obtain ⟨hcycleId, hemployeeId, rfl⟩ := deriveTargetOutboundKey_eq_ok.1 hderive
    intro h
    cases a with
    | recording =>
      rw [Artifact.storedCycleKey, hderive, Except.toOption, Option.some.injEq] at h
      refine ne_of_head_ne ?_ h
      rw [head_outboundKey, head_cycleKey]
      decide
    | transcript =>
      rw [Artifact.storedCycleKey, hderive, Except.toOption, Option.bind_some,
        parseRecordingKey_outboundKey hcycleId hemployeeId, Option.map_some, Option.some.injEq] at h
      refine ne_of_head_ne ?_ h
      rw [head_transcriptKey, head_cycleKey]
      decide

theorem storedInboundKey_ne (a : Artifact) {contactId : String} {contact : InboundContact}
    (h : Inbound.StoredKeys contactId contact.recordingS3Key contact.transcriptS3Key) :
    a.storedInboundKey contact ≠ some (inboundKey contactId a.ext) := by
  intro hstored
  cases a with
  | recording => exact inboundKey_ne (h.recording _ hstored) rfl rfl
  | transcript => exact inboundKey_ne (h.transcript _ hstored) rfl rfl

/-- Every URL is issued for the key that the artifact is stored under. -/
def SignsStoredKeys (settings : Settings) (now : Instant) (tables : Inbound.Tables) : Prop :=
  ∀ (a : Artifact) (key : String),
    (∀ cycleId employeeId (seq : Nat),
      issuedKey? (lambdaHandler settings now (a.cycleRequest cycleId employeeId (toString seq)) tables) = some key →
        a.storedCycleKey cycleId employeeId seq = some key) ∧
    ∀ contactId contact, tables.inboundContacts.lookup contactId = some contact →
      issuedKey? (lambdaHandler settings now (a.inboundRequest contactId) tables) = some key →
        a.storedInboundKey contact = some key

/-- No URL is issued for the key that the artifact is stored under. -/
theorem issuedKey_ne_storedKey (a : Artifact) {key : String} (hreached : Inbound.Reached tables.inboundContacts) :
    (∀ cycleId employeeId (seq : Nat),
      issuedKey? (lambdaHandler settings now (a.cycleRequest cycleId employeeId (toString seq)) tables) = some key →
        a.storedCycleKey cycleId employeeId seq ≠ some key) ∧
    ∀ contactId contact, tables.inboundContacts.lookup contactId = some contact →
      issuedKey? (lambdaHandler settings now (a.inboundRequest contactId) tables) = some key →
        a.storedInboundKey contact ≠ some key := by
  constructor
  · intro cycleId employeeId seq hissued
    obtain ⟨-, -, rfl⟩ := issuedKey_cycleRequest.1 hissued
    exact storedCycleKey_ne a cycleId employeeId a.ext seq
  · intro contactId contact hcontact hissued
    obtain ⟨-, -, rfl⟩ := issuedKey_inboundRequest.1 hissued
    exact storedInboundKey_ne a (Inbound.allStored_of_reached hreached contactId contact hcontact)

/-! ### A recorded call and a recorded inbound contact -/

def stack : Settings where
  recordingsBucket := "recordings-bucket"
  transcriptsBucket := "transcripts-bucket"
  generatePresignedUrl := fun bucket key seconds =>
    "https://" ++ bucket ++ ".s3.amazonaws.com/" ++ key ++ "?X-Amz-Expires=" ++ toString seconds

def runningTables : Inbound.Tables where
  employees := (∅ : Store String Employee).set "e1" (some { name := "Sato", phoneNumber := some (.str "+819012345678") })
  cycles := (∅ : Store String Cycle).set "c1" (some
    { status := .running, mode := .all, retryCount := .int 3, retryIntervalMinutes := .int 5, dictionaryVersion := 1,
      startedAt := 0 })

def identified : Inbound.Tables :=
  (Inbound.lambdaHandler 30 0 (.dict [("step", .str "identify"), ("contactId", .str "k1"),
    ("callerNumber", .str "+819012345678")]) runningTables).2

def finalized : Inbound.Tables :=
  (Inbound.lambdaHandler 30 0 (.dict [("step", .str "finalize"), ("contactId", .str "k1"),
    ("flow", .str "ACTIVE_CYCLE"), ("employeeId", .str "e1"), ("cycleId", .str "c1")]) identified).2

theorem reached_finalized : Inbound.Reached finalized.inboundContacts :=
  @Inbound.Reached.invoke identified 30 0 _ (@Inbound.Reached.invoke runningTables 30 0 _ .empty)

theorem issuedKey_ne_storedKey_finalized : ∃ contact, finalized.inboundContacts.lookup "k1" = some contact ∧
    Artifact.recording.storedInboundKey contact ≠ some "inbound/k1.wav" ∧
    Artifact.recording.storedCycleKey "c1" "e1" 1 ≠ some "cycles/c1/e1#1.wav" := by
  have hrow : (finalized.inboundContacts.lookup "k1").isSome = true := by decide
  have hinbound : issuedKey? (lambdaHandler stack 0 (Artifact.recording.inboundRequest "k1") finalized) =
      some "inbound/k1.wav" := by decide
  have hcycle : issuedKey? (lambdaHandler stack 0 (Artifact.recording.cycleRequest "c1" "e1" (toString 1)) finalized) =
      some "cycles/c1/e1#1.wav" := by decide
  obtain ⟨contact, hcontact⟩ := Option.isSome_iff_exists.1 hrow
  refine ⟨contact, hcontact, ?_, ?_⟩
  · exact (issuedKey_ne_storedKey .recording reached_finalized).2 "k1" contact hcontact hinbound
  · exact (issuedKey_ne_storedKey .recording reached_finalized).1 "c1" "e1" 1 hcycle

theorem signed_key_not_stored :
    issuedKey? (lambdaHandler stack 0 (Artifact.recording.cycleRequest "c1" "e1" "1") finalized) =
        some "cycles/c1/e1#1.wav" ∧
      Artifact.recording.storedCycleKey "c1" "e1" 1 = some "recordings/c1/e1/1.wav" ∧
      issuedKey? (lambdaHandler stack 0 (Artifact.recording.inboundRequest "k1") finalized) = some "inbound/k1.wav" ∧
      (finalized.inboundContacts.lookup "k1").bind Artifact.recording.storedInboundKey =
        some "inbound/197001/e1/k1.wav" ∧
      ¬ SignsStoredKeys stack 0 finalized := by
  have hissued : issuedKey? (lambdaHandler stack 0 (Artifact.recording.cycleRequest "c1" "e1" "1") finalized) =
      some "cycles/c1/e1#1.wav" := by decide
  have hstored : Artifact.recording.storedCycleKey "c1" "e1" 1 = some "recordings/c1/e1/1.wav" := by decide
  refine ⟨hissued, hstored, by decide, by decide, fun hsigns => ?_⟩
  have hsame := (hsigns .recording "cycles/c1/e1#1.wav").1 "c1" "e1" 1 hissued
  rw [hstored, Option.some.injEq] at hsame
  revert hsame
  decide

end RecordingApi

end SafetyConfirmation
