import SafetyConfirmation.Pipeline.Deliveries

/-!
# What becomes of a transcription

The TranscriptMeta rows and the failed transcriptions, in every run of the system, and what a run of TranscribeStarter has
done that returns. With the mock no job is ever started, and what is classified are the texts of the mock.
-/

namespace SafetyConfirmation

namespace Pipeline

open Checks KeyedStore Interleaving StepMachine Recording
open Dictionary (History getDictionarySnapshot)
open Transcript (extractTranscriptPayload)
open SafetyConfirmation.Pipeline.TranscribeStarter (starts AllThrottled)

variable {deployment : Deployment} {p t : State}

/-- There is a job of this name, of a recording that it is the name for. -/
def JobFor (deployment : Deployment) (world : World) (jobName : String) : Prop :=
  ∃ objectKey info, Recorded world objectKey info ∧ deriveTranscribeJobName info.metaPk info.metaSk = .ok jobName ∧
    world.jobs.lookup jobName =
      some (TranscribeStarter.transcriptionJob (.str deployment.recordingsBucketName) objectKey info)

theorem Later.recorded {world world' : World} (h : Later world world') {key : String} {info : RecordingKeyInfo}
    (hrecorded : Recorded world key info) : Recorded world' key info := by
  obtain ⟨⟨fileSizeBytes, hmem⟩, hparse⟩ := hrecorded
  exact ⟨⟨fileSizeBytes, h.recordings hmem⟩, hparse⟩

theorem Later.jobFor {world world' : World} (h : Later world world') {jobName : String}
    (hjob : JobFor deployment world jobName) : JobFor deployment world' jobName := by
  obtain ⟨objectKey, info, hrecorded, hname, hlookup⟩ := hjob
  exact ⟨objectKey, info, h.recorded hrecorded, hname, h.jobs hlookup⟩

/-- A run that has been throttled as often as it may makes no other start. -/
theorem allThrottled_of_suffix {calls later : Calls} (hsuffix : calls <:+ later) (h : AllThrottled (starts calls))
    (hmost : TranscribeStarter.AtMost (starts later)) : AllThrottled (starts later) := by
  have hstarts : starts calls <:+ starts later := hsuffix.filterMap _
  have hsame : starts calls = starts later := by
    apply hstarts.eq_of_length
    apply Nat.le_antisymm hstarts.length_le
    rw [h.1]
    exact hmost.1
  rw [← hsame]
  exact h

section Run

variable {labels : List Label} (hrun : exec (step deployment) { world := {} } labels = some p)
include hrun

theorem recorded_of_transcribe {i : Nat} {key : String} {fileSizeBytes : Nat} {info : RecordingKeyInfo}
    (hrequest : p.requests[i]? = some (.transcribe key fileSizeBytes)) (hparse : parseRecordingKey key = some info) :
    Recorded p.world key info := ⟨⟨fileSizeBytes, arrived_of_request hrun hrequest⟩, hparse⟩

/-- A job is that of a recording that gives it its name, and there is none with the mock. -/
theorem jobFor_of_lookup {jobName : String} {job : TranscriptionJob} (h : p.world.jobs.lookup jobName = some job) :
    deployment.settings.mockMode = false ∧ JobFor deployment p.world jobName := by
  obtain ⟨i, request, earlier, hrequest, -, hacts⟩ := acts_of_called hrun ((origins_run hrun).job jobName job h)
  cases hacts with
  | @startTranscriptionJob objectKey fileSizeBytes info _ hparse hname hreal =>
    exact ⟨hreal, objectKey, info, recorded_of_transcribe hrun hrequest hparse, hname, h⟩

/-- The starts of a run are those of the job of its recording. -/
theorem jobName_of_start {i : Nat} {key : String} {fileSizeBytes : Nat} {info : RecordingKeyInfo}
    (hrequest : p.requests[i]? = some (.transcribe key fileSizeBytes)) (hparse : parseRecordingKey key = some info)
    {s : TranscribeStarter.Start} (hstart : s ∈ starts (Arrivals.made i p.log)) :
    deployment.settings.mockMode = false ∧ deriveTranscribeJobName info.metaPk info.metaSk = .ok s.jobName ∧
      s.job = TranscribeStarter.transcriptionJob (.str deployment.recordingsBucketName) key info := by
  obtain ⟨request, earlier, hsame, -, hacts⟩ := acts_of_made hrun (TranscribeStarter.mem_starts.1 hstart)
  rw [hrequest] at hsame
  cases hsame
  dsimp only at hacts
  generalize hjob : s.job = job at hacts
  cases hacts with
  | startTranscriptionJob hparse' hname hreal =>
    rw [hparse] at hparse'
    cases hparse'
    exact ⟨hreal, hname, rfl⟩

theorem jobFor_of_took {i : Nat} {key : String} {fileSizeBytes : Nat} {info : RecordingKeyInfo} {jobName : String}
    (hrequest : p.requests[i]? = some (.transcribe key fileSizeBytes)) (hparse : parseRecordingKey key = some info)
    (hname : deriveTranscribeJobName info.metaPk info.metaSk = .ok jobName) {s : TranscribeStarter.Start}
    (hstart : s ∈ starts (Arrivals.made i p.log)) (htook : s.Took) : JobFor deployment p.world jobName := by
  have hsome : (p.world.jobs.lookup s.jobName).isSome = true :=
    tells_of_mem_made hrun (TranscribeStarter.mem_starts.1 hstart) htook
  obtain ⟨job, hjob⟩ := Option.isSome_iff_exists.1 hsome
  have hown := (jobName_of_start hrun hrequest hparse hstart).2.1
  rw [hname] at hown
  cases hown
  exact (jobFor_of_lookup hrun hjob).2

end Run

/-! ### The rows of the transcripts -/

/-- The job that a row names is that of a recording of its call, and so is the key it has for the transcript. -/
def JobTold (deployment : Deployment) (world : World) (key : String × String) (row : TranscriptMeta) : Prop :=
  ∃ objectKey info jobName, Recorded world objectKey info ∧ key = (info.metaPk, info.metaSk) ∧
    deriveTranscribeJobName info.metaPk info.metaSk = .ok jobName ∧ row.transcribeJobId = some jobName ∧
    row.transcriptS3Key = some info.transcriptS3Key ∧
    (deployment.settings.mockMode = true ∨ JobFor deployment world jobName)

/-- The excerpt and the confidence of a row are those of a transcript that was stored for a recording of its call. -/
def ExcerptTold (world : World) (key : String × String) (row : TranscriptMeta) : Prop :=
  ∃ objectKey info body text confidence, Recorded world objectKey info ∧ info.kind = .outbound ∧
    key = (info.metaPk, info.metaSk) ∧ (info.transcriptS3Key, some body) ∈ world.transcripts ∧
    extractTranscriptPayload body = .ok (text, confidence) ∧
    row.transcriptExcerpt = some (SafetyConfirmation.KeywordMatcher.truncateExcerpt text) ∧ row.confidence = some confidence

section Run

variable {labels : List Label} (hrun : exec (step deployment) { world := {} } labels = some p)
include hrun

/-- In every run each half of a TranscriptMeta row is missing, or tells of a recording of the call that the row is of: the job
that is there for it, and the transcript that was stored for it. -/
theorem transcriptMeta_told {key : String × String} {row : TranscriptMeta}
    (hrow : p.world.transcriptMeta.lookup key = some row) :
    ((row.transcribeJobId = none ∧ row.transcriptS3Key = none) ∨ JobTold deployment p.world key row) ∧
      ((row.transcriptExcerpt = none ∧ row.confidence = none) ∨ ExcerptTold p.world key row) := by
  obtain ⟨hjob, hexcerpt⟩ := (origins_run hrun).transcriptMeta key row hrow
  constructor
  · apply hjob.imp_right
    rintro ⟨jobName, transcriptS3Key, hid, hkey, hcalled⟩
    obtain ⟨i, request, earlier, hrequest, hsuffix, hacts⟩ := acts_of_called hrun hcalled
    cases hacts with
    | @putTranscriptMeta objectKey fileSizeBytes info _ hparse hname htook =>
      refine ⟨objectKey, info, jobName, recorded_of_transcribe hrun hrequest hparse, rfl, hname, hid, hkey, ?_⟩
      apply htook.imp_right
      rintro ⟨s, hstart, hs⟩
      have hmem : s ∈ starts (Arrivals.made i p.log) :=
        TranscribeStarter.mem_starts.2 (hsuffix.subset (TranscribeStarter.mem_starts.1 hstart))
      exact jobFor_of_took hrun hrequest hparse hname hmem hs
  · apply hexcerpt.imp_right
    rintro ⟨excerpt, confidence, hheld, hconfidence, hcalled⟩
    obtain ⟨i, request, earlier, hrequest, hsuffix, hacts⟩ := acts_of_called hrun hcalled
    generalize hc : excerpt = written at hacts
    cases hacts with
    | @updateTranscriptMeta tkey fileSizeBytes info c _ hparse hkind hclassified =>
      obtain ⟨objectKey, info', hrecorded, hkey, hsame⟩ := source_of_classify hrun hrequest hparse
      obtain ⟨text, version, dictionary, hread, -, -, rfl⟩ := hclassified
      obtain ⟨body, hstored, hpayload⟩ := stored_of_hasRead hrun hsuffix hread
      rw [hc] at hheld
      refine ⟨objectKey, info', body, text, confidence, hrecorded, ?_, ?_, ?_, hpayload, hheld, hconfidence⟩
      · rw [← hsame.kind, hkind]
      · rw [hsame.metaPk, hsame.metaSk]
      · rw [hkey]
        exact hstored

omit hrun in
theorem transcriptMeta_told_firstCall : ∃ p row, exec (step production) { world := {} } firstCall = some p ∧
    p.world.transcriptMeta.lookup ("c1", "e1#1") = some row ∧ JobTold production p.world ("c1", "e1#1") row ∧
    ExcerptTold p.world ("c1", "e1#1") row := by
  obtain ⟨row, hrow⟩ := Option.isSome_iff_exists.1 (show (((exec (step production) { world := {} } firstCall).bind fun p =>
    p.world.transcriptMeta.lookup ("c1", "e1#1")).filter fun row =>
      row.transcribeJobId.isSome && row.transcriptExcerpt.isSome).isSome = true by decide +kernel)
  obtain ⟨hrow, hboth⟩ := Option.filter_eq_some_iff.1 hrow
  obtain ⟨p, hrun, hrow⟩ := Option.bind_eq_some_iff.1 hrow
  rw [Bool.and_eq_true] at hboth
  obtain ⟨hjob, hexcerpt⟩ := transcriptMeta_told hrun hrow
  refine ⟨p, row, hrun, hrow, hjob.resolve_left fun hnone => ?_, hexcerpt.resolve_left fun hnone => ?_⟩
  · simp [hnone.1] at hboth
  · simp [hnone.1] at hboth

/-! ### The transcriptions that fail -/

/-- In every run a row that tells of a failed transcription is that of an outbound call whose recording some run could not
start the job of: it has tried three times, each time for the job of this recording, and each time was throttled. -/
theorem transcribeFailed_told {key : String × String} {row : Response} (hrow : p.world.responses.lookup key = some row)
    (hcode : row.callResultCode = some "TRANSCRIBE_FAILED") :
    ∃ i objectKey fileSizeBytes info, p.requests[i]? = some (.transcribe objectKey fileSizeBytes) ∧
      Recorded p.world objectKey info ∧ info.kind = .outbound ∧ key = (info.metaPk, info.employeeId) ∧
      AllThrottled (starts (Arrivals.made i p.log)) ∧
      ∀ s ∈ starts (Arrivals.made i p.log), deriveTranscribeJobName info.metaPk info.metaSk = .ok s.jobName ∧
        s.job = TranscribeStarter.transcriptionJob (.str deployment.recordingsBucketName) objectKey info := by
  have hcalled := ((origins_run hrun).response key row hrow).failed hcode
  obtain ⟨i, request, earlier, hrequest, hsuffix, hacts⟩ := acts_of_called hrun hcalled
  cases hacts with
  | @updateTranscribeFailed objectKey fileSizeBytes info hparse hkind hthrottled =>
    have hfacts : TranscribeStarter.Known _ _ _ _ := known_run hrun i _ hrequest
    refine ⟨i, objectKey, fileSizeBytes, info, hrequest, recorded_of_transcribe hrun hrequest hparse, hkind, rfl,
      allThrottled_of_suffix hsuffix hthrottled hfacts.atMost, fun s hs => ?_⟩
    exact (jobName_of_start hrun hrequest hparse hs).2

/-- A call whose job is throttled three times. -/
def throttledCall : List Label :=
  [.move (.upload "recordings/c1/e1/1.wav" 100), .move (.write ("c1", "e1") (.recordCallEnd 10)),
    .arrive (.transcribe "recordings/c1/e1/1.wav" 100), .call 0 throttled, .call 0 granted,
    .call 0 { error := some (.clientError "LimitExceededException"), applied := false }, .call 0 granted, .call 0 throttled,
    .call 0 granted]

omit hrun in
theorem transcribeFailed_told_throttledCall : ∃ p row, exec (step production) { world := {} } throttledCall = some p ∧
    p.world.responses.lookup ("c1", "e1") = some row ∧ row.callResultCode = some "TRANSCRIBE_FAILED" ∧
    ∃ i, AllThrottled (starts (Arrivals.made i p.log)) := by
  obtain ⟨row, hrow⟩ := Option.isSome_iff_exists.1 (show (((exec (step production) { world := {} } throttledCall).bind
    fun p => p.world.responses.lookup ("c1", "e1")).filter fun row =>
      row.callResultCode = some "TRANSCRIBE_FAILED").isSome = true by decide +kernel)
  obtain ⟨hrow, hcode⟩ := Option.filter_eq_some_iff.1 hrow
  obtain ⟨p, hrun, hrow⟩ := Option.bind_eq_some_iff.1 hrow
  have hfailed := of_decide_eq_true hcode
  obtain ⟨i, -, -, -, -, -, -, -, hthrottled, -⟩ := transcribeFailed_told hrun hrow hfailed
  exact ⟨p, row, hrun, hrow, hfailed, i, hthrottled⟩

/-! ### The runs that return -/

/-- How a run of TranscribeStarter has ended for a recording. -/
inductive Transcribed (deployment : Deployment) (p t : State) (i : Nat) (key : String) (info : RecordingKeyInfo) : Value → Prop
  | ok {jobName : String} (hname : deriveTranscribeJobName info.metaPk info.metaSk = .ok jobName)
      (hrow : (t.world.transcriptMeta.lookup (info.metaPk, info.metaSk)).isSome = true)
      (hjob : deployment.settings.mockMode = true ∨ JobFor deployment t.world jobName) :
      Transcribed deployment p t i key info (TranscribeStarter.okAnswer info jobName)
  | failed (hreal : deployment.settings.mockMode = false) (hthrottled : AllThrottled (starts (Arrivals.made i p.log)))
      (hreported : info.kind = .outbound → ∃ answer, PipelineCall.settled answer = .ok () ∧
        ⟨.updateTranscribeFailed (info.metaPk, info.employeeId), answer⟩ ∈ Arrivals.made i p.log) :
      Transcribed deployment p t i key info (TranscribeStarter.failedAnswer info.kind)
  | skipped {callResultCode : String} (hmock : deployment.settings.mockMode = true)
      (hnone : TranscribeStarter.deriveMockResponse deployment.settings.digestByte info.employeeId =
        .ok (callResultCode, none)) (hstarts : starts (Arrivals.made i p.log) = []) :
      Transcribed deployment p t i key info (TranscribeStarter.skippedAnswer callResultCode)

theorem real_of_allThrottled {i : Nat} {key : String} {fileSizeBytes : Nat} {info : RecordingKeyInfo}
    (hrequest : p.requests[i]? = some (.transcribe key fileSizeBytes)) (hparse : parseRecordingKey key = some info)
    (h : AllThrottled (starts (Arrivals.made i p.log))) : deployment.settings.mockMode = false := by
  have hpos : 0 < (starts (Arrivals.made i p.log)).length := by
    rw [h.1]
    decide
  obtain ⟨s, hs⟩ := List.exists_mem_of_length_pos hpos
  exact (jobName_of_start hrun hrequest hparse hs).1

/-- A run of TranscribeStarter that has returned has left the row of its transcript and a job of its name, there from then
on; or it has tried as often as it may, was throttled each time, and has said so in the row of an outbound call; or the mock
has no text for the employee. -/
theorem transcribe_done {labels' : List Label} (hlater : exec (step deployment) p labels' = some t) {i : Nat} {key : String}
    {fileSizeBytes : Nat} {v : Value} (hreturned : Returned p i (.transcribe key fileSizeBytes) v) :
    ∃ info, Recorded p.world key info ∧ Transcribed deployment p t i key info v := by
  obtain ⟨hrequest, ⟨delivery, hdelivery, hends⟩, hfacts⟩ := hreturned.ends hrun
  have hafter : Later p.world t.world := kept_later.run hlater
  obtain ⟨hparse, -⟩ := TranscribeStarter.deliveryOf_objectCreated hdelivery
  refine ⟨delivery.info, recorded_of_transcribe hrun hrequest hparse, ?_⟩
  change TranscribeStarter.Known _ _ _ (knowledge deployment _ p i).2.1 at hfacts
  generalize (knowledge deployment _ p i).2.1 = stage at hends hfacts
  cases hends with
  | ok hname =>
    obtain ⟨-, htook, delivery', jobName', answer, hdelivery', hput, hsettled⟩ := hfacts
    rw [hdelivery] at hdelivery'
    cases hdelivery'
    refine .ok hname (hafter.transcriptMeta (tells_of_mem_made hrun hput hsettled)) ?_
    apply htook.imp_right
    rintro ⟨s, hstart, hs⟩
    exact hafter.jobFor (jobFor_of_took hrun hrequest hparse hname hstart hs)
  | reported hkind =>
    obtain ⟨hthrottled, delivery', answer, hdelivery', hupdate, hsettled⟩ := hfacts
    rw [hdelivery] at hdelivery'
    cases hdelivery'
    exact .failed (real_of_allThrottled hrun hrequest hparse hthrottled) hthrottled fun _ => ⟨answer, hsettled, hupdate⟩
  | exhausted hkind =>
    exact .failed (real_of_allThrottled hrun hrequest hparse hfacts) hfacts fun h => absurd h hkind
  | skipped hmock => exact .skipped hfacts.1 hmock hfacts.2

end Run

theorem transcribe_done_firstCall : ∃ p t v info, exec (step production) { world := {} } firstCall = some p ∧
    exec (step production) p toldAgain = some t ∧ Returned p 1 (.transcribe "recordings/c1/e1/1.wav" 100) v ∧
    Transcribed production p t 1 "recordings/c1/e1/1.wav" info v := by
  obtain ⟨t, ht⟩ := Option.isSome_iff_exists.1 (show ((exec (step production) { world := {} } firstCall).bind fun p =>
    (p.threads[1]?.bind fun thread => thread.result?.bind Except.toOption).bind fun _ =>
      exec (step production) p toldAgain).isSome = true by decide +kernel)
  obtain ⟨p, hrun, ht⟩ := Option.bind_eq_some_iff.1 ht
  obtain ⟨v, hv, hlater⟩ := Option.bind_eq_some_iff.1 ht
  have hreturned : Returned p 1 (.transcribe "recordings/c1/e1/1.wav" 100) v := returned_of_run hrun rfl hv
  obtain ⟨info, -, hdone⟩ := transcribe_done hrun hlater hreturned
  exact ⟨p, t, v, info, hrun, hlater, hreturned, hdone⟩

/-! ### The mock -/

section Mock

variable {labels : List Label} (hrun : exec (step deployment) { world := {} } labels = some p)
  (hmock : deployment.settings.mockMode = true)
include hrun hmock

theorem mock_of_classifiedFor {key : String × String} {c : Classification} (h : ClassifiedFor deployment p.world key c) :
    ∃ callResultCode text version history,
      TranscribeStarter.deriveMockResponse deployment.settings.digestByte key.2 = .ok (callResultCode, some text) ∧
      p.world.HasBeen history ∧
      c = SafetyConfirmation.KeywordMatcher.classification deployment.lower text (getDictionarySnapshot history version)
        version := by
  obtain ⟨objectKey, info, body, text, confidence, version, history, hrecorded, -, rfl, hstored, hpayload, -, hhistory, rfl⟩ := h
  obtain ⟨objectKey', info', hrecorded', hkey, htext⟩ := source_of_transcript hrun hstored
  obtain ⟨callResultCode, text', jobName, hderive, hbody⟩ := htext hmock
  have hsame : info'.employeeId = info.employeeId := by
    obtain ⟨told, htold, hsame⟩ := parseTranscriptKey_transcriptS3Key hrecorded.2
    obtain ⟨told', htold', hsame'⟩ := parseTranscriptKey_transcriptS3Key hrecorded'.2
    rw [hkey, htold] at htold'
    cases htold'
    exact hsame'.employeeId.symm.trans hsame.employeeId
  cases hbody
  rw [TranscribeStarter.extractTranscriptPayload_mock] at hpayload
  cases hpayload
  exact ⟨callResultCode, text, version, history, hsame ▸ hderive, hhistory, rfl⟩

/-- With the mock there is never a job, and a classification that a row holds is that of the text the mock has for the
employee of the row. -/
theorem mock_told : (∀ jobName, p.world.jobs.lookup jobName = none) ∧
    ∀ key row, p.world.responses.lookup key = some row → row.transcriptExcerpt ≠ none →
      ∃ callResultCode text version history,
        TranscribeStarter.deriveMockResponse deployment.settings.digestByte key.2 = .ok (callResultCode, some text) ∧
        p.world.HasBeen history ∧
        row.transcriptExcerpt = some (SafetyConfirmation.KeywordMatcher.truncateExcerpt text) ∧
        row.dictionaryVersion = some version ∧
        (row.matchedKeywords = some (Keyword.classifyVoiceStatus deployment.lower text
          (getDictionarySnapshot history version)).2 ∨ row.matchedKeywords = some []) := by
  constructor
  · intro jobName
    rw [Option.eq_none_iff_forall_ne_some]
    intro job hjob
    have hreal := (jobFor_of_lookup hrun hjob).1
    rw [hmock] at hreal
    cases hreal
  · intro key row hrow hexcerpt
    rcases ((origins_run hrun).response key row hrow).classification with ⟨hnone, -⟩ | ⟨c, hcalled, hheld⟩
    · exact absurd hnone hexcerpt
    · obtain ⟨callResultCode, text, version, history, hderive, hhistory, rfl⟩ :=
        mock_of_classifiedFor hrun hmock (classifiedFor_of_called hrun hcalled)
      exact ⟨callResultCode, text, version, history, hderive, hhistory, hheld⟩

end Mock

def rehearsal : Deployment := { production with settings := { production.settings with mockMode := true } }

/-- The call of an employee for whom the mock has a text, up to its classification. -/
def rehearsedCall : List Label :=
  [.move (.createCycle "c1" firstCycle), .move (.upload "recordings/c1/e1/1.wav" 100),
    .arrive (.transcribe "recordings/c1/e1/1.wav" 100), .call 0 granted,
    .arrive (.classify "transcripts/c1/e1/1.json" 10), .call 1 granted, .call 1 granted, .call 1 granted, .call 1 granted]

theorem mock_told_rehearsedCall : ∃ p row, exec (step rehearsal) { world := {} } rehearsedCall = some p ∧
    p.world.responses.lookup ("c1", "e1") = some row ∧ (∀ jobName, p.world.jobs.lookup jobName = none) ∧
    ∃ callResultCode text,
      TranscribeStarter.deriveMockResponse rehearsal.settings.digestByte "e1" = .ok (callResultCode, some text) ∧
      row.transcriptExcerpt = some (SafetyConfirmation.KeywordMatcher.truncateExcerpt text) := by
  obtain ⟨row, hrow⟩ := Option.isSome_iff_exists.1 (show (((exec (step rehearsal) { world := {} } rehearsedCall).bind
    fun p => p.world.responses.lookup ("c1", "e1")).filter fun row => row.transcriptExcerpt.isSome).isSome = true by
      decide +kernel)
  obtain ⟨hrow, hexcerpt⟩ := Option.filter_eq_some_iff.1 hrow
  obtain ⟨p, hrun, hrow⟩ := Option.bind_eq_some_iff.1 hrow
  obtain ⟨hjobs, hrows⟩ := mock_told hrun rfl
  obtain ⟨callResultCode, text, -, -, hderive, -, hheld, -⟩ := hrows _ row hrow (Option.isSome_iff_ne_none.1 hexcerpt)
  exact ⟨p, row, hrun, hrow, hjobs, callResultCode, text, hderive, hheld⟩

end Pipeline

end SafetyConfirmation
