import SafetyConfirmation.Pipeline.Kept

/-!
# Where the rows come from

Every row that the three lambdas write goes back to the calls of one of their runs, and from there to a recording of the call
that the row is about.
-/

namespace SafetyConfirmation

namespace Pipeline

open Checks KeyedStore Interleaving StepMachine Recording
open Dictionary (History getDictionarySnapshot)

variable {deployment : Deployment} {p t : State}

/-! ### Why a call was made -/

/-- What is true of the calls of a run, in the terms of its lambda. -/
def facts (deployment : Deployment) (request : Request) (calls : Calls) (t : Knowledge) : Prop :=
  match request with
  | .writeMetadata .. => RecordingMetadataWriter.Known (request.event deployment) calls t.1
  | .transcribe .. => TranscribeStarter.Known deployment.settings (request.event deployment) calls t.2.1
  | .classify .. => KeywordMatcher.Known deployment.lower (request.event deployment) calls t.2.2

theorem facts_start (request : Request) : facts deployment request [] (start deployment) := by
  cases request with
  | writeMetadata key fileSizeBytes => trivial
  | transcribe key fileSizeBytes =>
    show TranscribeStarter.Known deployment.settings _ [] (TranscribeStarter.start₀ deployment.settings)
    rw [TranscribeStarter.start₀]
    split
    · exact ⟨‹_›, rfl⟩
    · exact ⟨Bool.eq_false_iff.2 ‹_›, by decide, rfl, by simp [TranscribeStarter.starts]⟩
  | classify key fileSizeBytes => exact fun _ _ => trivial

theorem facts_call (request : Request) (calls : Calls) (t : Knowledge) (c : PipelineCall) (answer : Except PyError c.Reply)
    (h : facts deployment request calls t) (hallowed : (spec deployment request).allowed t c) :
    facts deployment request (⟨c, answer⟩ :: calls) ((spec deployment request).advance t c answer) := by
  cases request with
  | writeMetadata key fileSizeBytes => exact RecordingMetadataWriter.known_call h hallowed answer
  | transcribe key fileSizeBytes => exact TranscribeStarter.known_call h hallowed answer
  | classify key fileSizeBytes => exact KeywordMatcher.known_call h hallowed answer

theorem known_run {labels : List Label} (hrun : exec (step deployment) { world := {} } labels = some p) :
    Arrivals.Traced (spec deployment) (fun _ => start deployment) (facts deployment) p :=
  Arrivals.traced_run handler_wp (fun _ _ _ _ => trivial) facts_start facts_call hrun

/-- The transcript of a call, as KeywordMatcher is told of it. -/
def transcriptDelivery (deployment : Deployment) (key : String) (info : RecordingKeyInfo) : KeywordMatcher.Delivery where
  bucket := .str deployment.transcriptsBucketName
  key
  info

/-- A call of a run, and what it was made for. -/
inductive Acts (deployment : Deployment) (earlier : Calls) : Request → PipelineCall → Prop
  | utcNow {key : String} {fileSizeBytes : Nat} : Acts deployment earlier (.writeMetadata key fileSizeBytes) .utcNow
  | sleep {request : Request} {tryIdx : Nat} : Acts deployment earlier request (.sleep tryIdx)
  | putRecordingMeta {key : String} {fileSizeBytes : Nat} {info : RecordingKeyInfo} {recordedAt : Instant}
      (hparse : parseRecordingKey key = some info) (hnow : ⟨.utcNow, .ok recordedAt⟩ ∈ earlier) :
      Acts deployment earlier (.writeMetadata key fileSizeBytes) (.putRecordingMeta (info.metaPk, info.metaSk)
        (RecordingMetadataWriter.buildRecordingMetaItem info (.str deployment.recordingsBucketName) key fileSizeBytes recordedAt))
  | startTranscriptionJob {key : String} {fileSizeBytes : Nat} {info : RecordingKeyInfo} {jobName : String}
      (hparse : parseRecordingKey key = some info) (hname : deriveTranscribeJobName info.metaPk info.metaSk = .ok jobName)
      (hreal : deployment.settings.mockMode = false) :
      Acts deployment earlier (.transcribe key fileSizeBytes) (.startTranscriptionJob jobName
        (TranscribeStarter.transcriptionJob (.str deployment.recordingsBucketName) key info))
  | putTranscript {key : String} {fileSizeBytes : Nat} {info : RecordingKeyInfo} {callResultCode text jobName : String}
      (hparse : parseRecordingKey key = some info) (hmock : deployment.settings.mockMode = true)
      (htext : TranscribeStarter.deriveMockResponse deployment.settings.digestByte info.employeeId =
        .ok (callResultCode, some text)) :
      Acts deployment earlier (.transcribe key fileSizeBytes)
        (.putTranscript info.transcriptS3Key (TranscribeStarter.buildMockTranscriptJson jobName text))
  | putTranscriptMeta {key : String} {fileSizeBytes : Nat} {info : RecordingKeyInfo} {jobName : String}
      (hparse : parseRecordingKey key = some info) (hname : deriveTranscribeJobName info.metaPk info.metaSk = .ok jobName)
      (htook : deployment.settings.mockMode = true ∨ ∃ s ∈ TranscribeStarter.starts earlier, s.Took) :
      Acts deployment earlier (.transcribe key fileSizeBytes)
        (.putTranscriptMeta (info.metaPk, info.metaSk) jobName info.transcriptS3Key)
  | updateTranscribeFailed {key : String} {fileSizeBytes : Nat} {info : RecordingKeyInfo}
      (hparse : parseRecordingKey key = some info) (hkind : info.kind = .outbound)
      (hthrottled : TranscribeStarter.AllThrottled (TranscribeStarter.starts earlier)) :
      Acts deployment earlier (.transcribe key fileSizeBytes) (.updateTranscribeFailed (info.metaPk, info.employeeId))
  | getTranscript {key : String} {fileSizeBytes : Nat} {bucket : Value} :
      Acts deployment earlier (.classify key fileSizeBytes) (.getTranscript bucket key)
  | getCycle {key : String} {fileSizeBytes : Nat} {cycleId : String} :
      Acts deployment earlier (.classify key fileSizeBytes) (.getCycle cycleId)
  | queryHistory {key : String} {fileSizeBytes : Nat} {version : Int} :
      Acts deployment earlier (.classify key fileSizeBytes) (.queryHistory version)
  | updateResponse {key : String} {fileSizeBytes : Nat} {info : RecordingKeyInfo} {c : Classification} {confidence : ℚ}
      (hparse : parseTranscriptKey key = some info) (hkind : info.kind = .outbound)
      (hclassified : KeywordMatcher.HasClassified deployment.lower (transcriptDelivery deployment key info) earlier c confidence) :
      Acts deployment earlier (.classify key fileSizeBytes) (.updateResponse (info.metaPk, info.employeeId) c)
  | updateTranscriptMeta {key : String} {fileSizeBytes : Nat} {info : RecordingKeyInfo} {c : Classification} {confidence : ℚ}
      (hparse : parseTranscriptKey key = some info) (hkind : info.kind = .outbound)
      (hclassified : KeywordMatcher.HasClassified deployment.lower (transcriptDelivery deployment key info) earlier c confidence) :
      Acts deployment earlier (.classify key fileSizeBytes)
        (.updateTranscriptMeta (info.metaPk, info.metaSk) c.excerpt confidence)
  | updateOtherFallback {key : String} {fileSizeBytes : Nat} {info : RecordingKeyInfo}
      (hparse : parseTranscriptKey key = some info) :
      Acts deployment earlier (.classify key fileSizeBytes) (.updateOtherFallback (info.metaPk, info.employeeId))

theorem acts_of_allowed {request : Request} {earlier : Calls} {t : Knowledge} {c : PipelineCall}
    (hfacts : facts deployment request earlier t) (hallowed : (spec deployment request).allowed t c) :
    Acts deployment earlier request c := by
  obtain ⟨metadata, starter, matcher⟩ := t
  cases request with
  | writeMetadata key fileSizeBytes =>
    obtain ⟨delivery, hdelivery, hcall⟩ := hallowed
    obtain ⟨hparse, hdelivery⟩ := RecordingMetadataWriter.deliveryOf_objectCreated hdelivery
    rw [hdelivery] at hcall
    cases metadata with
    | asking =>
      cases hcall
      exact .utcNow
    | putting recordedAt tryIdx =>
      cases hcall
      exact .putRecordingMeta hparse hfacts
    | pausing recordedAt tryIdx =>
      cases hcall
      exact .sleep
    | exhausted | written | failed => cases hcall
  | transcribe key fileSizeBytes =>
    obtain ⟨delivery, hdelivery, hcall⟩ := hallowed
    obtain ⟨hparse, hdelivery⟩ := TranscribeStarter.deliveryOf_objectCreated hdelivery
    rw [hdelivery] at hcall
    cases starter with
    | uploading =>
      obtain ⟨callResultCode, text, jobName, htext, -, rfl⟩ := hcall
      exact .putTranscript hparse hfacts.1 htext
    | starting tryIdx =>
      obtain ⟨jobName, hname, rfl⟩ := hcall
      exact .startTranscriptionJob hparse hname hfacts.1
    | pausing tryIdx =>
      cases hcall
      exact .sleep
    | started =>
      obtain ⟨jobName, hname, rfl⟩ := hcall
      exact .putTranscriptMeta hparse hname hfacts.2
    | exhausted =>
      obtain ⟨hkind, rfl⟩ := hcall
      exact .updateTranscribeFailed hparse hkind hfacts
    | recorded | reported | failed => exact hcall.elim
  | classify key fileSizeBytes =>
    obtain ⟨delivery, hdelivery, hcall⟩ := hallowed
    have hknown := hfacts delivery hdelivery
    obtain ⟨hparse, hkind, hsame⟩ := KeywordMatcher.deliveryOf_objectCreated hdelivery
    rw [hsame] at hcall hknown
    cases matcher with
    | reading tryIdx =>
      cases hcall
      exact .getTranscript
    | resolving tryIdx text confidence =>
      cases hcall
      exact .getCycle
    | querying tryIdx text confidence dictionaryVersion =>
      cases hcall
      exact .queryHistory
    | responding tryIdx c confidence =>
      cases hcall
      exact .updateResponse hparse hkind hknown
    | augmenting tryIdx c confidence =>
      cases hcall
      exact .updateTranscriptMeta hparse hkind hknown.1
    | pausing tryIdx =>
      cases hcall
      exact .sleep
    | exhausted =>
      cases hcall
      exact .updateOtherFallback hparse
    | matched _ _ | fallenBack | failed => cases hcall

/-- A call of this run was made. -/
def Called (p : State) (c : PipelineCall) : Prop := ∃ entry ∈ p.log, entry.call = c

/-- A call among those of a run was made by it. -/
theorem acts_of_made {labels : List Label} (hrun : exec (step deployment) { world := {} } labels = some p) {i : Nat}
    {m : Made PipelineCall PipelineCall.Reply PyError} (h : m ∈ Arrivals.made i p.log) :
    ∃ request earlier, p.requests[i]? = some request ∧ earlier <:+ Arrivals.made i p.log ∧
      Acts deployment earlier request m.call := by
  obtain ⟨entry, hentry, rfl, rfl⟩ := Arrivals.mem_made.1 h
  obtain ⟨request, earlier, t, hmade⟩ := Arrivals.madeBy_run handler_wp (fun _ _ _ _ => trivial) facts_start facts_call hrun
    hentry
  exact ⟨request, earlier, hmade.asked, (List.suffix_cons _ _).trans hmade.suffix, acts_of_allowed hmade.known hmade.allowed⟩

theorem acts_of_called {labels : List Label} (hrun : exec (step deployment) { world := {} } labels = some p)
    {c : PipelineCall} (h : Called p c) : ∃ i request earlier, p.requests[i]? = some request ∧
      earlier <:+ Arrivals.made i p.log ∧ Acts deployment earlier request c := by
  obtain ⟨entry, hentry, rfl⟩ := h
  exact ⟨entry.thread, acts_of_made hrun (Arrivals.mem_made.2 ⟨entry, hentry, rfl, rfl⟩)⟩

/-! ### The rows and the calls -/

section Origins

variable (called : PipelineCall → Prop)

/-- The classification that a row holds was written for it, and so was its failed transcription. The fallback takes the
keywords back, and nothing else does. -/
structure ResponseWritten (key : String × String) (row : Response) : Prop where
  classification : (row.transcriptExcerpt = none ∧ (row.matchedKeywords = none ∨ row.matchedKeywords = some [])) ∨
    ∃ c, called (.updateResponse key c) ∧ row.transcriptExcerpt = some c.excerpt ∧
      row.dictionaryVersion = some c.dictionaryVersion ∧
      (row.matchedKeywords = some c.matchedKeywords ∨ row.matchedKeywords = some [])
  failed : row.callResultCode = some "TRANSCRIBE_FAILED" → called (.updateTranscribeFailed key)

/-- The job of a row was put, and its excerpt updated. -/
structure MetaWritten (key : String × String) (row : TranscriptMeta) : Prop where
  job : (row.transcribeJobId = none ∧ row.transcriptS3Key = none) ∨ ∃ jobName transcriptS3Key,
    row.transcribeJobId = some jobName ∧ row.transcriptS3Key = some transcriptS3Key ∧
      called (.putTranscriptMeta key jobName transcriptS3Key)
  excerpt : (row.transcriptExcerpt = none ∧ row.confidence = none) ∨ ∃ excerpt confidence,
    row.transcriptExcerpt = some excerpt ∧ row.confidence = some confidence ∧
      called (.updateTranscriptMeta key excerpt confidence)

/-- What is in the world was brought there by calls. -/
structure Origins (world : World) : Prop where
  job : ∀ jobName job, world.jobs.lookup jobName = some job → called (.startTranscriptionJob jobName job)
  transcript : ∀ entry ∈ world.transcripts,
    (∃ jobName job, world.jobs.lookup jobName = some job ∧ job.outputKey = entry.1) ∨
      ∃ payload, entry.2 = some payload ∧ called (.putTranscript entry.1 payload)
  recordingMeta : ∀ key row, world.recordingMeta.lookup key = some row → called (.putRecordingMeta key row)
  transcriptMeta : ∀ key row, world.transcriptMeta.lookup key = some row → MetaWritten called key row
  response : ∀ key row, world.responses.lookup key = some row → ResponseWritten called key row

variable {called} {called' : PipelineCall → Prop} {world world' : World}

theorem origins_start : Origins called {} where
  job jobName job h := by simp at h
  transcript entry h := by simp at h
  recordingMeta key row h := by simp at h
  transcriptMeta key row h := by simp at h
  response key row h := by simp at h

theorem Origins.mono (h : Origins called world) (hcalled : ∀ c, called c → called' c) : Origins called' world where
  job jobName job hjob := hcalled _ (h.job jobName job hjob)
  transcript entry hentry := (h.transcript entry hentry).imp_right fun ⟨payload, hpayload, hc⟩ => ⟨payload, hpayload, hcalled _ hc⟩
  recordingMeta key row hrow := hcalled _ (h.recordingMeta key row hrow)
  transcriptMeta key row hrow := by
    obtain ⟨hjob, hexcerpt⟩ := h.transcriptMeta key row hrow
    constructor
    · exact hjob.imp_right fun ⟨jobName, transcriptS3Key, hid, hkey, hc⟩ => ⟨jobName, transcriptS3Key, hid, hkey, hcalled _ hc⟩
    · exact hexcerpt.imp_right fun ⟨excerpt, confidence, he, hconfidence, hc⟩ => ⟨excerpt, confidence, he, hconfidence, hcalled _ hc⟩
  response key row hrow := by
    obtain ⟨hclassification, hfailed⟩ := h.response key row hrow
    constructor
    · exact hclassification.imp_right fun ⟨c, hc, hrow⟩ => ⟨c, hcalled _ hc, hrow⟩
    · exact fun hcode => hcalled _ (hfailed hcode)

theorem responseWritten_getD {key : String × String} {row : Option Response}
    (hrow : ∀ r, row = some r → ResponseWritten called key r) : ResponseWritten called key (row.getD {}) := by
  cases row with
  | none => exact ⟨.inl ⟨rfl, .inl rfl⟩, by simp⟩
  | some r => exact hrow r rfl

theorem metaWritten_getD {key : String × String} {row : Option TranscriptMeta}
    (hrow : ∀ r, row = some r → MetaWritten called key r) : MetaWritten called key (row.getD {}) := by
  cases row with
  | none => exact ⟨.inl ⟨rfl, rfl⟩, .inl ⟨rfl, rfl⟩⟩
  | some r => exact hrow r rfl

/-- The other writers leave the classification, and write other results. -/
theorem responseWritten_otherWrite {key : String × String} {row : Option Response}
    (hrow : ∀ r, row = some r → ResponseWritten called key r) (w : OtherWrite) :
    ∀ r, w.write.run row = some r → ResponseWritten called key r := by
  have hold := responseWritten_getD hrow
  cases w with
  | initAttempt _ | putInbound =>
    apply Write.run_induction (motive := fun row' => ∀ r, row' = some r → ResponseWritten called key r) hrow
    rintro - r ⟨⟩
    exact ⟨.inl ⟨rfl, .inl rfl⟩, by simp⟩
  | recordError now | recordCallEnd now =>
    apply Write.run_induction (motive := fun row' => ∀ r, row' = some r → ResponseWritten called key r) hrow
    rintro - r ⟨⟩
    exact ⟨hold.classification, by simp⟩
  | finalizeOne _ _ | finalizeOneError _ | recordSuccess _ _ | appendInbound | forceResponseUnreachable =>
    apply Write.run_induction (motive := fun row' => ∀ r, row' = some r → ResponseWritten called key r) hrow
    rintro - r ⟨⟩
    exact ⟨hold.classification, hold.failed⟩

/-- A call that has an effect brings what it names. -/
theorem origins_effect (h : Origins called world) {c : PipelineCall} (heffect : Effect world c world') (hc : called c) :
    Origins called world' := by
  cases heffect with
  | recordingMeta key item hnone =>
    refine { h with recordingMeta := Store.forall_lookup_write h.recordingMeta ?_ }
    intro row hrow
    rw [hnone] at hrow
    cases hrow
    exact hc
  | job jobName job hnone =>
    refine { h with
      job := Store.forall_lookup_set (fun other job' _ => h.job other job') hc
      transcript := fun entry hentry => (h.transcript entry hentry).imp_left ?_ }
    rintro ⟨name, job', hjob, hkey⟩
    exact ⟨name, job', lookup_set_of_none hnone hjob, hkey⟩
  | transcript key payload =>
    refine { h with transcript := ?_ }
    rw [List.forall_mem_cons]
    exact ⟨.inr ⟨payload, rfl, hc⟩, h.transcript⟩
  | jobMeta key jobName transcriptS3Key hnone =>
    refine { h with transcriptMeta := Store.forall_lookup_write h.transcriptMeta ?_ }
    intro row hrow
    rw [hnone] at hrow
    cases hrow
    exact ⟨.inr ⟨jobName, transcriptS3Key, rfl, rfl, hc⟩, .inl ⟨rfl, rfl⟩⟩
  | excerptMeta key excerpt confidence =>
    refine { h with transcriptMeta := Store.forall_lookup_write h.transcriptMeta ?_ }
    rintro row ⟨⟩
    have hold := metaWritten_getD (h.transcriptMeta key)
    exact ⟨hold.job, .inr ⟨excerpt, confidence, rfl, rfl, hc⟩⟩
  | transcribeFailed key =>
    refine { h with response := Store.forall_lookup_write h.response ?_ }
    have hold := responseWritten_getD (h.response key)
    apply Write.run_induction (motive := fun row' => ∀ r, row' = some r → ResponseWritten called key r) (h.response key)
    rintro - r ⟨⟩
    exact ⟨hold.classification, fun _ => hc⟩
  | response key c =>
    refine { h with response := Store.forall_lookup_write h.response ?_ }
    rintro row ⟨⟩
    have hold := responseWritten_getD (h.response key)
    exact ⟨.inr ⟨c, hc, rfl, rfl, .inl rfl⟩, hold.failed⟩
  | fallback key =>
    refine { h with response := Store.forall_lookup_write h.response ?_ }
    rintro row ⟨⟩
    have hold := responseWritten_getD (h.response key)
    refine ⟨?_, hold.failed⟩
    rcases hold.classification with ⟨hexcerpt, -⟩ | ⟨c, hcalled, hexcerpt, hversion, -⟩
    · exact .inl ⟨hexcerpt, .inr rfl⟩
    · exact .inr ⟨c, hcalled, hexcerpt, hversion, .inr rfl⟩

theorem origins_move (h : Origins called world) {m : Move} (hmove : world.move m = some world') : Origins called world' := by
  cases m with
  | complete jobName body =>
    obtain ⟨job, hjob, rfl⟩ := Option.map_eq_some_iff.1 hmove
    refine { h with transcript := ?_ }
    rw [List.forall_mem_cons]
    exact ⟨.inl ⟨jobName, job, hjob, rfl⟩, h.transcript⟩
  | createCycle cycleId cycle =>
    rw [World.move] at hmove
    split at hmove
    · cases hmove
      exact { h with }
    · cases hmove
  | write key w =>
    cases hmove
    exact { h with response := Store.forall_lookup_write h.response (responseWritten_otherWrite (h.response key) w) }
  | upload key fileSizeBytes | writeCycle cycleId w | publish history =>
    cases hmove
    exact { h with }

end Origins

/-! ### In every run -/

theorem origins_run {labels : List Label} (hrun : exec (step deployment) { world := {} } labels = some p) :
    Origins (Called p) p.world := by
  apply Arrivals.invariant_run handler_wp (fun _ _ _ _ => trivial) _ origins_start hrun
  intro p t _ _ h hstep
  cases hstep with
  | arrive request world harrive =>
    rw [eq_of_arrive harrive]
    exact h
  | call i environment request c next hthread =>
    have hcalled : ∀ c', Called p c' → Called (afterCall (system deployment).service p i environment request c next) c' :=
      fun c' ⟨entry, hentry, hcall⟩ => ⟨entry, List.mem_cons_of_mem _ hentry, hcall⟩
    show Origins _ (p.world.respond environment c).2
    rcases World.respond_cases p.world environment c with hsame | heffect
    · rw [hsame]
      exact h.mono hcalled
    · exact origins_effect (h.mono hcalled) heffect ⟨_, List.mem_cons_self, rfl⟩
  | move m world hmove => exact origins_move h hmove

/-- What a request tells of is there. -/
def Arrived (world : World) : Request → Prop
  | .writeMetadata key fileSizeBytes | .transcribe key fileSizeBytes => (key, fileSizeBytes) ∈ world.recordings
  | .classify key _ => ∃ body, (key, body) ∈ world.transcripts

theorem Later.arrived {world world' : World} (h : Later world world') {request : Request} (harrived : Arrived world request) :
    Arrived world' request := by
  cases request with
  | writeMetadata _ _ | transcribe _ _ => exact h.recordings harrived
  | classify key _ =>
    obtain ⟨body, hbody⟩ := harrived
    exact ⟨body, h.transcripts hbody⟩

theorem arrived_of_arrive {world world' : World} {request : Request} (h : arrive world request = some world') :
    Arrived world request := by
  cases request with
  | writeMetadata _ _ | transcribe _ _ =>
    rw [arrive] at h
    split at h
    · assumption
    · cases h
  | classify key _ =>
    rw [arrive] at h
    split at h
    · rename_i hsome
      obtain ⟨body, hbody⟩ := Option.isSome_iff_exists.1 hsome
      exact ⟨body, mem_of_lookup hbody⟩
    · cases h

theorem arrived_run {labels : List Label} (hrun : exec (step deployment) { world := {} } labels = some p) :
    ∀ request ∈ p.requests, Arrived p.world request := by
  apply Arrivals.invariant_run handler_wp (fun _ _ _ _ => trivial) _ _ hrun
  · intro p t _ _ h hstep
    cases hstep with
    | arrive request world harrive =>
      rw [Arrivals.requests_arrive, List.forall_mem_append, eq_of_arrive harrive]
      exact ⟨h, by simpa using arrived_of_arrive harrive⟩
    | call i environment request c next hthread =>
      rw [@Arrivals.requests_afterCall _ _ _ _ _ _ _ _ (system deployment) _ _ _ _ _ _ hthread]
      have hlater : Later p.world (p.world.respond environment c).2 := (@kept_later deployment).respond p.world environment c
      exact fun request hmem => hlater.arrived (h request hmem)
    | move m world hmove => exact fun request hmem => (later_move hmove).arrived (h request hmem)
  · simp [Pool.requests]

end Pipeline

end SafetyConfirmation
