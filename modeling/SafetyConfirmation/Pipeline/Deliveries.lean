import SafetyConfirmation.Pipeline.Provenance

/-!
# What the deliveries come to

The rows of a recording and of its transcript, and what a run has done that returns, in every run of the system.
-/

namespace SafetyConfirmation

namespace Pipeline

open Checks KeyedStore Interleaving StepMachine Recording
open Dictionary (History getDictionarySnapshot)
open Transcript (extractTranscriptPayload)

variable {deployment : Deployment} {p t : State}

/-- A recording with this key was uploaded, and the key is of this call. -/
def Recorded (world : World) (key : String) (info : RecordingKeyInfo) : Prop :=
  (∃ fileSizeBytes, (key, fileSizeBytes) ∈ world.recordings) ∧ parseRecordingKey key = some info

/-- A run of a lambda for this request has returned. -/
def Returned (p : State) (i : Nat) (request : Request) (v : Value) : Prop :=
  ∃ thread, p.threads[i]? = some thread ∧ thread.request = request ∧ thread.result? = some (.ok v)

section Run

variable {labels : List Label} (hrun : exec (step deployment) { world := {} } labels = some p)
include hrun

theorem tells_of_mem_made {i : Nat} {m : Made PipelineCall PipelineCall.Reply PyError} (h : m ∈ Arrivals.made i p.log) :
    Tells p.world m.call m.answer := by
  obtain ⟨entry, hentry, -, rfl⟩ := Arrivals.mem_made.1 h
  exact Arrivals.told_run kept_later tells_respond (fun _ _ _ _ hlater htells => tells_later hlater htells) hrun entry hentry

theorem arrived_of_request {i : Nat} {request : Request} (h : p.requests[i]? = some request) : Arrived p.world request :=
  arrived_run hrun request (List.mem_of_getElem? h)

theorem Returned.ends {i : Nat} {request : Request} {v : Value} (h : Returned p i request v) :
    p.requests[i]? = some request ∧ Ends deployment request (.ok v) (knowledge deployment request p i) ∧
      facts deployment request (Arrivals.made i p.log) (knowledge deployment request p i) := by
  obtain ⟨thread, hthread, rfl, hresult⟩ := h
  have hrequest := Arrivals.request_of_thread hthread
  have hp : Follows (spec deployment) (fun _ => start deployment) (Ends deployment) p :=
    Arrivals.follows_run handler_wp (fun _ _ _ _ => trivial) hrun
  exact ⟨hrequest, hp.result hthread hresult, known_run hrun i thread.request hrequest⟩

end Run

/-- A run whose thread has a value has returned it. -/
theorem returned_of_run {labels : List Label} (hrun : exec (step deployment) { world := {} } labels = some p) {i : Nat}
    {request : Request} {v : Value} (hrequest : (labels.filterMap Arrivals.Label.request?)[i]? = some request)
    (h : (p.threads[i]?.bind fun thread => thread.result?.bind Except.toOption) = some v) : Returned p i request v := by
  obtain ⟨thread, hthread, h⟩ := Option.bind_eq_some_iff.1 h
  obtain ⟨result, hresult, hv⟩ := Option.bind_eq_some_iff.1 h
  have hsame : p.requests[i]? = some thread.request := Arrivals.request_of_thread hthread
  rw [Arrivals.requests_run hrun] at hsame
  refine ⟨thread, hthread, Option.some.inj (hsame.symm.trans hrequest), ?_⟩
  cases result with
  | error e => cases hv
  | ok v' =>
    cases hv
    exact hresult

/-! ### A call that is recorded, transcribed and classified -/

def production : Deployment where
  settings := { mockMode := false, digestByte := fun _ => 0 }
  lower := id
  recordingsBucketName := "recordings"
  transcriptsBucketName := "transcripts"

def firstCycle : Cycle where
  status := .running
  mode := .all
  retryCount := .int 0
  retryIntervalMinutes := .int 5
  dictionaryVersion := 1
  startedAt := 0

def spoken (text : String) : Value :=
  .dict [("results", .dict [("transcripts", .list [.dict [("transcript", .str text)]])])]

/-- A call that goes well. -/
def granted : Environment := {}

/-- A call that is throttled, and without effect. -/
def throttled : Environment := { error := some (.clientError "ThrottlingException"), applied := false }

/-- The job is started on the second try, while the recording is being written down. -/
def firstCall : List Label :=
  [.move (.createCycle "c1" firstCycle), .move (.upload "recordings/c1/e1/1.wav" 100),
    .arrive (.writeMetadata "recordings/c1/e1/1.wav" 100), .arrive (.transcribe "recordings/c1/e1/1.wav" 100),
    .call 1 throttled, .call 0 { now := 20 }, .call 0 granted, .call 1 granted, .call 1 granted, .call 1 granted,
    .move (.complete "safety-confirm-c1-e1-1" (some (spoken "ok"))), .arrive (.classify "transcripts/c1/e1/1.json" 10),
    .call 2 granted, .call 2 granted, .call 2 granted, .call 2 granted, .call 2 granted]

/-- S3 tells of the recording once more. -/
def toldAgain : List Label := [.arrive (.writeMetadata "recordings/c1/e1/1.wav" 100), .call 3 { now := 30 }, .call 3 granted]

section Run

variable {labels : List Label} (hrun : exec (step deployment) { world := {} } labels = some p)
include hrun

/-! ### The rows of the recordings -/

/-- In every run a RecordingMeta row tells of an uploaded recording of its own call: of its key, its size and the moment at
which a run has asked for the time. And it stays what it is. -/
theorem recordingMeta_told {labels' : List Label} (hlater : exec (step deployment) p labels' = some t) {key : String × String}
    {row : RecordingMeta} (hrow : p.world.recordingMeta.lookup key = some row) :
    (∃ i objectKey fileSizeBytes info recordedAt, (objectKey, fileSizeBytes) ∈ p.world.recordings ∧
      parseRecordingKey objectKey = some info ∧ key = (info.metaPk, info.metaSk) ∧
      row = RecordingMetadataWriter.buildRecordingMetaItem info (.str deployment.recordingsBucketName) objectKey fileSizeBytes
        recordedAt ∧
      p.requests[i]? = some (.writeMetadata objectKey fileSizeBytes) ∧
      ⟨.utcNow, .ok recordedAt⟩ ∈ Arrivals.made i p.log) ∧
      t.world.recordingMeta.lookup key = some row := by
  constructor
  · have hcalled := (origins_run hrun).recordingMeta key row hrow
    obtain ⟨i, request, earlier, hrequest, hsuffix, hacts⟩ := acts_of_called hrun hcalled
    have harrived := arrived_of_request hrun hrequest
    cases hacts with
    | @putRecordingMeta objectKey fileSizeBytes info recordedAt hparse hnow =>
      exact ⟨i, objectKey, fileSizeBytes, info, recordedAt, harrived, hparse, rfl, rfl, hrequest, hsuffix.subset hnow⟩
  · exact (kept_later.run hlater).recordingMeta hrow

omit hrun in
theorem recordingMeta_told_firstCall : ∃ p t row, exec (step production) { world := {} } firstCall = some p ∧
    exec (step production) p toldAgain = some t ∧ p.world.recordingMeta.lookup ("c1", "e1#1") = some row ∧
    t.world.recordingMeta.lookup ("c1", "e1#1") = some row := by
  obtain ⟨t, ht⟩ := Option.isSome_iff_exists.1 (show ((exec (step production) { world := {} } firstCall).bind fun p =>
    (p.world.recordingMeta.lookup ("c1", "e1#1")).bind fun _ => exec (step production) p toldAgain).isSome = true by
      decide +kernel)
  obtain ⟨p, hrun, ht⟩ := Option.bind_eq_some_iff.1 ht
  obtain ⟨row, hrow, hlater⟩ := Option.bind_eq_some_iff.1 ht
  exact ⟨p, t, row, hrun, hlater, hrow, (recordingMeta_told hrun hlater hrow).2⟩

/-- A run of RecordingMetadataWriter that has returned has left the row of its recording, in this state and in every later
one, whoever has put it. -/
theorem writeMetadata_done {labels' : List Label} (hlater : exec (step deployment) p labels' = some t) {i : Nat}
    {key : String} {fileSizeBytes : Nat} {v : Value} (hreturned : Returned p i (.writeMetadata key fileSizeBytes) v) :
    ∃ info row, parseRecordingKey key = some info ∧ v = RecordingMetadataWriter.answer info ∧
      p.world.recordingMeta.lookup (info.metaPk, info.metaSk) = some row ∧
      t.world.recordingMeta.lookup (info.metaPk, info.metaSk) = some row := by
  obtain ⟨-, ⟨hwritten, delivery, hdelivery, rfl⟩, hfacts⟩ := hreturned.ends hrun
  change RecordingMetadataWriter.Known _ _ (knowledge deployment _ p i).1 at hfacts
  rw [hwritten] at hfacts
  obtain ⟨delivery', recordedAt, answer, hdelivery', hput, hsettled⟩ := hfacts
  rw [hdelivery] at hdelivery'
  cases hdelivery'
  obtain ⟨row, hrow⟩ := Option.isSome_iff_exists.1 (tells_of_mem_made hrun hput hsettled)
  exact ⟨delivery.info, row, (RecordingMetadataWriter.deliveryOf_objectCreated hdelivery).1, rfl, hrow,
    (kept_later.run hlater).recordingMeta hrow⟩

omit hrun in
theorem writeMetadata_done_firstCall : ∃ p t v info row, exec (step production) { world := {} } firstCall = some p ∧
    exec (step production) p toldAgain = some t ∧ Returned p 0 (.writeMetadata "recordings/c1/e1/1.wav" 100) v ∧
    parseRecordingKey "recordings/c1/e1/1.wav" = some info ∧
    t.world.recordingMeta.lookup (info.metaPk, info.metaSk) = some row := by
  obtain ⟨t, ht⟩ := Option.isSome_iff_exists.1 (show ((exec (step production) { world := {} } firstCall).bind fun p =>
    (p.threads[0]?.bind fun thread => thread.result?.bind Except.toOption).bind fun _ =>
      exec (step production) p toldAgain).isSome = true by decide +kernel)
  obtain ⟨p, hrun, ht⟩ := Option.bind_eq_some_iff.1 ht
  obtain ⟨v, hv, hlater⟩ := Option.bind_eq_some_iff.1 ht
  have hreturned : Returned p 0 (.writeMetadata "recordings/c1/e1/1.wav" 100) v := returned_of_run hrun rfl hv
  obtain ⟨info, row, hparse, -, -, hrow⟩ := writeMetadata_done hrun hlater hreturned
  exact ⟨p, t, v, info, row, hrun, hlater, hreturned, hparse, hrow⟩

/-! ### The transcripts -/

/-- A transcript is that of a recording, and with the mock the text of the mock for its employee. -/
theorem source_of_transcript {key : String} {body : Option Value} (h : (key, body) ∈ p.world.transcripts) :
    ∃ objectKey info, Recorded p.world objectKey info ∧ info.transcriptS3Key = key ∧
      (deployment.settings.mockMode = true → ∃ callResultCode text jobName,
        TranscribeStarter.deriveMockResponse deployment.settings.digestByte info.employeeId = .ok (callResultCode, some text) ∧
        body = some (TranscribeStarter.buildMockTranscriptJson jobName text)) := by
  have ho := origins_run hrun
  rcases ho.transcript _ h with ⟨jobName, job, hjob, hkey⟩ | ⟨payload, hpayload, hcalled⟩
  · obtain ⟨i, request, earlier, hrequest, -, hacts⟩ := acts_of_called hrun (ho.job _ _ hjob)
    have harrived := arrived_of_request hrun hrequest
    cases hacts with
    | @startTranscriptionJob objectKey fileSizeBytes info _ hparse hname hreal =>
      refine ⟨objectKey, info, ⟨⟨fileSizeBytes, harrived⟩, hparse⟩, hkey, fun hmock => ?_⟩
      rw [hreal] at hmock
      cases hmock
  · obtain ⟨i, request, earlier, hrequest, -, hacts⟩ := acts_of_called hrun hcalled
    have harrived := arrived_of_request hrun hrequest
    dsimp only at hpayload hacts
    cases hacts with
    | @putTranscript objectKey fileSizeBytes info callResultCode text jobName hparse hmock htext =>
      exact ⟨objectKey, info, ⟨⟨fileSizeBytes, harrived⟩, hparse⟩, rfl, fun _ =>
        ⟨callResultCode, text, jobName, htext, hpayload⟩⟩

/-- The transcript of a recording is told of as that of the same call. -/
theorem source_of_classify {i : Nat} {key : String} {fileSizeBytes : Nat} {info : RecordingKeyInfo}
    (hrequest : p.requests[i]? = some (.classify key fileSizeBytes)) (hparse : parseTranscriptKey key = some info) :
    ∃ objectKey info', Recorded p.world objectKey info' ∧ info'.transcriptS3Key = key ∧ info'.SameCall info := by
  obtain ⟨body, hbody⟩ := arrived_of_request hrun hrequest
  obtain ⟨objectKey, info', hrecorded, rfl, -⟩ := source_of_transcript hrun hbody
  obtain ⟨info'', hparse', hsame⟩ := parseTranscriptKey_transcriptS3Key hrecorded.2
  rw [hparse] at hparse'
  cases hparse'
  exact ⟨objectKey, info', hrecorded, rfl, hsame⟩

/-- What was read of a transcript was stored there. -/
theorem stored_of_hasRead {i : Nat} {calls : Calls} {key : String} {info : RecordingKeyInfo} {text : String} {confidence : ℚ}
    (hsuffix : calls <:+ Arrivals.made i p.log)
    (h : KeywordMatcher.HasRead (transcriptDelivery deployment key info) calls text confidence) :
    ∃ body, (key, some body) ∈ p.world.transcripts ∧ extractTranscriptPayload body = .ok (text, confidence) := by
  obtain ⟨body, hmem, hpayload⟩ := h
  have hstored : (key, body) ∈ p.world.transcripts := tells_of_mem_made hrun (hsuffix.subset hmem)
  obtain ⟨parsed, hparsed, hextract⟩ := bind_eq_ok.1 hpayload
  obtain ⟨body', hbody, hparsed⟩ := bind_eq_ok.1 hparsed
  obtain ⟨_, -, hsame⟩ := bind_eq_ok.1 hparsed
  cases hsame
  cases demand_eq_ok.1 hbody
  exact ⟨_, hstored, hextract⟩

end Run

/-- A classification of the transcript of a recording of this call, by the dictionary of its cycle as it was at some time. -/
def ClassifiedFor (deployment : Deployment) (world : World) (key : String × String) (c : Classification) : Prop :=
  ∃ objectKey info body text confidence version history, Recorded world objectKey info ∧ info.kind = .outbound ∧
    key = (info.metaPk, info.employeeId) ∧ (info.transcriptS3Key, some body) ∈ world.transcripts ∧
    extractTranscriptPayload body = .ok (text, confidence) ∧ world.dictionaryVersion info.metaPk = some version ∧
    world.HasBeen history ∧
    c = SafetyConfirmation.KeywordMatcher.classification deployment.lower text (getDictionarySnapshot history version) version

section Run

variable {labels : List Label} (hrun : exec (step deployment) { world := {} } labels = some p)
include hrun

theorem classifiedFor_of_called {key : String × String} {c : Classification} (h : Called p (.updateResponse key c)) :
    ClassifiedFor deployment p.world key c := by
  obtain ⟨i, request, earlier, hrequest, hsuffix, hacts⟩ := acts_of_called hrun h
  cases hacts with
  | @updateResponse tkey fileSizeBytes info _ confidence hparse hkind hclassified =>
    obtain ⟨objectKey, info', hrecorded, hkey, hsame⟩ := source_of_classify hrun hrequest hparse
    obtain ⟨text, version, dictionary, hread, ⟨item, hitem, hversion⟩, hquery, rfl⟩ := hclassified
    obtain ⟨body, hstored, hpayload⟩ := stored_of_hasRead hrun hsuffix hread
    have hcycle : p.world.dictionaryVersion info.metaPk = some version :=
      tells_of_mem_made hrun (hsuffix.subset hitem) version hversion
    obtain ⟨history, hhistory, rfl⟩ := tells_of_mem_made hrun (hsuffix.subset hquery)
    refine ⟨objectKey, info', body, text, confidence, version, history, hrecorded, ?_, ?_, ?_, hpayload, ?_, hhistory, rfl⟩
    · rw [← hsame.kind, hkind]
    · rw [hsame.metaPk, hsame.employeeId]
    · rw [hkey]
      exact hstored
    · rw [← hsame.metaPk]
      exact hcycle

/-- In every run what a Response row holds of a classification is one classification: of a transcript that was stored for a
recording of the very cycle and employee of the row, by the dictionary of that cycle. The keywords may have been taken back
since, and there are none where there is no excerpt. -/
theorem classification_told {key : String × String} {row : Response} (hrow : p.world.responses.lookup key = some row) :
    (row.transcriptExcerpt = none ∧ (row.matchedKeywords = none ∨ row.matchedKeywords = some [])) ∨
      ∃ c, ClassifiedFor deployment p.world key c ∧ row.transcriptExcerpt = some c.excerpt ∧
        row.dictionaryVersion = some c.dictionaryVersion ∧
        (row.matchedKeywords = some c.matchedKeywords ∨ row.matchedKeywords = some []) := by
  apply ((origins_run hrun).response key row hrow).classification.imp_right
  rintro ⟨c, hcalled, hholds⟩
  exact ⟨c, classifiedFor_of_called hrun hcalled, hholds⟩

end Run

theorem classification_told_firstCall : ∃ p row, exec (step production) { world := {} } firstCall = some p ∧
    p.world.responses.lookup ("c1", "e1") = some row ∧
    ∃ c, ClassifiedFor production p.world ("c1", "e1") c ∧ row.transcriptExcerpt = some c.excerpt := by
  obtain ⟨row, hrow⟩ := Option.isSome_iff_exists.1 (show (((exec (step production) { world := {} } firstCall).bind fun p =>
    p.world.responses.lookup ("c1", "e1")).filter fun row => row.transcriptExcerpt.isSome).isSome = true by decide +kernel)
  obtain ⟨hrow, hexcerpt⟩ := Option.filter_eq_some_iff.1 hrow
  obtain ⟨p, hrun, hrow⟩ := Option.bind_eq_some_iff.1 hrow
  refine ⟨p, row, hrun, hrow, ?_⟩
  rcases classification_told hrun hrow with ⟨hnone, -⟩ | ⟨c, hclassified, hheld, -⟩
  · rw [hnone] at hexcerpt
    cases hexcerpt
  · exact ⟨c, hclassified, hheld⟩

end Pipeline

end SafetyConfirmation
