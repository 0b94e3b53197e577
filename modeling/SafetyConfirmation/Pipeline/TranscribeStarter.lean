import SafetyConfirmation.Pipeline.MetadataWriter

/-!
# TranscribeStarter, call by call

One run for the S3 event of a recording: start the job of its transcript, or store the transcript of the mock, and put the
TranscriptMeta row. When every start is throttled the call of an outbound recording is marked instead. Run alone, the
program answers and writes as the model of its answers does.
-/

namespace SafetyConfirmation

namespace Pipeline

namespace TranscribeStarter

open Checks Recording
open SafetyConfirmation.TranscribeStarter (Settings parseEvent maxTranscribeAttempts retryableErrorCodes deriveMockResponse)

/-! ### The start -/

def isRetryable : PyError → Bool
  | .clientError code => retryableErrorCodes.contains code
  | _ => false

/-- There is a job of that name already. -/
def isConflict : PyError → Bool
  | .clientError code => code == "ConflictException"
  | _ => false

/-- One try of the loop. -/
def start (jobName : String) (job : TranscriptionJob) : PipelineLambda String :=
  Program.tryCatch (do
    PipelineCall.perform (.startTranscriptionJob jobName job)
    return jobName) fun e => if isConflict e then return jobName else throw e

/-- `_start_transcribe_job_with_retry`, with `none` for `_TranscribeExhaustedError`. -/
def startTranscribeJobWithRetry (jobName : String) (job : TranscriptionJob) : PipelineLambda (Option String) :=
  Program.retrying isRetryable (start jobName job) (fun tryIdx => PipelineCall.perform (.sleep tryIdx)) 0
    maxTranscribeAttempts

/-! ### The writes -/

def recordTranscriptMeta (info : RecordingKeyInfo) (jobName : String) : PipelineLambda Unit :=
  PipelineCall.conditional (PipelineCall.perform (.putTranscriptMeta (info.metaPk, info.metaSk) jobName info.transcriptS3Key))

def recordTranscribeFailedOnResponse (info : RecordingKeyInfo) : PipelineLambda Unit :=
  PipelineCall.conditional (PipelineCall.perform (.updateTranscribeFailed (info.metaPk, info.employeeId)))

def okAnswer (info : RecordingKeyInfo) (jobName : String) : Value :=
  .dict [("status", .str "ok"), ("transcribeJobId", .str jobName), ("transcriptS3Key", .str info.transcriptS3Key)]

def failedAnswer (kind : RecordingKind) : Value :=
  .dict [("status", .str "error"), ("kind", .str (RecordingMetadataWriter.RecordingKind.name kind)),
    ("reason", .str "TRANSCRIBE_FAILED")]

def skippedAnswer (callResultCode : String) : Value :=
  .dict [("status", .str "skipped"), ("reason", .str "MOCK_NO_TRANSCRIPT"), ("callResultCode", .str callResultCode)]

/-! ### The mock -/

def buildMockTranscriptJson (jobName transcriptText : String) : Value :=
  .dict [("jobName", .str jobName), ("status", .str "COMPLETED"), ("results", .dict [
    ("transcripts", .list [.dict [("transcript", .str transcriptText)]]),
    ("items", .list [.dict [("start_time", .str "0.0"), ("end_time", .str "1.0"),
      ("alternatives", .list [.dict [("confidence", .str "1.0"), ("content", .str transcriptText)]]),
      ("type", .str "pronunciation")]])])]

/-- The one token of the mock counts in full. -/
theorem unitText?_mockConfidence : Transcript.unitText? "1.0" = some 1 := by decide +kernel

/-- The transcript of the mock is read as its text, with full confidence. -/
theorem extractTranscriptPayload_mock (jobName text : String) :
    Transcript.extractTranscriptPayload (buildMockTranscriptJson jobName text) = .ok (text, 1) := by
  obtain ⟨mockItem, hdocument, hitem⟩ : ∃ mockItem,
      Transcript.documentOf (buildMockTranscriptJson jobName text) = some (text, [mockItem]) ∧
        Transcript.pronunciationConfidence mockItem = .ok (some 1) :=
    ⟨_, rfl, congrArg Except.ok unitText?_mockConfidence⟩
  have hiter : Transcript.iterPronunciationConfidences [mockItem] = .ok [1] := by
    rw [Transcript.iterPronunciationConfidences, List.mapM_cons, hitem, List.mapM_nil]
    rfl
  have hpayload := Transcript.extractTranscriptPayload_eq (buildMockTranscriptJson jobName text)
  rw [hdocument, Option.bind_some, hiter] at hpayload
  cases hextract : Transcript.extractTranscriptPayload (buildMockTranscriptJson jobName text) with
  | error e =>
    rw [hextract] at hpayload
    cases hpayload
  | ok payload =>
    rw [hextract] at hpayload
    have hpair : payload = (text, Transcript.mean [1]) := Option.some.inj hpayload
    rw [hpair]
    simp [Transcript.mean]

variable (settings : Settings)

def handleMockEvent (info : RecordingKeyInfo) : PipelineLambda Value := do
  let (callResultCode, transcript) ← Program.ofExcept (deriveMockResponse settings.digestByte info.employeeId)
  match transcript with
  | none => return skippedAnswer callResultCode
  | some text => do
    let jobName ← Program.ofExcept (deriveTranscribeJobName info.metaPk info.metaSk)
    PipelineCall.perform (.putTranscript info.transcriptS3Key (buildMockTranscriptJson jobName text))
    recordTranscriptMeta info jobName
    return okAnswer info jobName

def transcriptionJob (bucket : Value) (objectKey : String) (info : RecordingKeyInfo) : TranscriptionJob where
  bucket
  mediaKey := objectKey
  outputKey := info.transcriptS3Key

def handleRecording (bucket : Value) (objectKey : String) (info : RecordingKeyInfo) : PipelineLambda Value := do
  let jobName ← Program.ofExcept (deriveTranscribeJobName info.metaPk info.metaSk)
  match ← startTranscribeJobWithRetry jobName (transcriptionJob bucket objectKey info) with
  | none => do
    if info.kind = .outbound then recordTranscribeFailedOnResponse info
    return failedAnswer info.kind
  | some jobName => do
    recordTranscriptMeta info jobName
    return okAnswer info jobName

def lambdaHandler (event : Value) : PipelineLambda Value := do
  let (bucket, objectKey) ← Program.ofExcept (parseEvent event)
  let info ← Program.ofExcept (recordingInfo objectKey)
  if settings.mockMode then handleMockEvent settings info
  else handleRecording bucket (keyText objectKey) info

/-! ### How far a run has come -/

/-- What a run works on once its event has been read. -/
structure Delivery where
  bucket : Value
  objectKey : String
  info : RecordingKeyInfo

def deliveryOf (event : Value) : Except PyError Delivery := do
  let (bucket, objectKey) ← parseEvent event
  let info ← recordingInfo objectKey
  return { bucket, objectKey := keyText objectKey, info }

/-- `uploading` is where a run of the mock begins, and `starting 0` where another one does. -/
inductive Stage where
  | uploading
  | starting (tryIdx : Nat)
  | pausing (tryIdx : Nat)
  | started
  | recorded
  | exhausted
  | reported
  | failed
  deriving DecidableEq

namespace Stage

/-- The call that is made next may depend on the name of the job, and on the text of the mock. -/
def MayCall (delivery : Delivery) : Stage → PipelineCall → Prop
  | uploading, c => ∃ callResultCode text jobName,
      deriveMockResponse settings.digestByte delivery.info.employeeId = .ok (callResultCode, some text) ∧
      deriveTranscribeJobName delivery.info.metaPk delivery.info.metaSk = .ok jobName ∧
      c = .putTranscript delivery.info.transcriptS3Key (buildMockTranscriptJson jobName text)
  | starting _, c => ∃ jobName, deriveTranscribeJobName delivery.info.metaPk delivery.info.metaSk = .ok jobName ∧
      c = .startTranscriptionJob jobName (transcriptionJob delivery.bucket delivery.objectKey delivery.info)
  | pausing tryIdx, c => c = .sleep tryIdx
  | started, c => ∃ jobName, deriveTranscribeJobName delivery.info.metaPk delivery.info.metaSk = .ok jobName ∧
      c = .putTranscriptMeta (delivery.info.metaPk, delivery.info.metaSk) jobName delivery.info.transcriptS3Key
  | exhausted, c => delivery.info.kind = .outbound ∧
      c = .updateTranscribeFailed (delivery.info.metaPk, delivery.info.employeeId)
  | recorded, _ | reported, _ | failed, _ => False

def afterThrottle (tryIdx : Nat) : Stage := if tryIdx + 1 < maxTranscribeAttempts then pausing tryIdx else exhausted

def afterStart (tryIdx : Nat) : Except PyError Unit → Stage
  | .ok _ => started
  | .error e => if isConflict e then started else if isRetryable e then afterThrottle tryIdx else failed

def afterWrite (next : Stage) (result : Except PyError Unit) : Stage :=
  match PipelineCall.settled result with
  | .ok _ => next
  | .error _ => failed

def advance : Stage → (c : PipelineCall) → Except PyError c.Reply → Stage
  | uploading, .putTranscript .., .ok _ => started
  | starting tryIdx, .startTranscriptionJob .., result => afterStart tryIdx result
  | pausing tryIdx, .sleep _, .ok _ => starting (tryIdx + 1)
  | started, .putTranscriptMeta .., result => afterWrite recorded result
  | exhausted, .updateTranscribeFailed .., result => afterWrite reported result
  | _, _, _ => failed

end Stage

/-- Where a run begins. -/
def start₀ : Stage := if settings.mockMode then .uploading else .starting 0

def protocol (event : Value) : Program.Spec PipelineCall PipelineCall.Reply PyError Stage where
  allowed stage c := ∃ delivery, deliveryOf event = .ok delivery ∧ stage.MayCall settings delivery c
  advance := Stage.advance

/-- How a run ends that returns. -/
inductive Ends (info : RecordingKeyInfo) : Value → Stage → Prop where
  | ok {jobName : String} (hname : deriveTranscribeJobName info.metaPk info.metaSk = .ok jobName) :
      Ends info (okAnswer info jobName) .recorded
  | reported (hkind : info.kind = .outbound) : Ends info (failedAnswer info.kind) .reported
  | exhausted (hkind : info.kind ≠ .outbound) : Ends info (failedAnswer info.kind) .exhausted
  | skipped {callResultCode : String}
      (hmock : deriveMockResponse settings.digestByte info.employeeId = .ok (callResultCode, none)) :
      Ends info (skippedAnswer callResultCode) .uploading

def EndsAt (event : Value) : Except PyError Value → Stage → Prop
  | .ok v, stage => ∃ delivery, deliveryOf event = .ok delivery ∧ Ends settings delivery.info v stage
  | .error _, _ => True

variable {settings} {event : Value} {delivery : Delivery} {jobName : String}

theorem recordTranscriptMeta_wp (hdelivery : deliveryOf event = .ok delivery)
    (hname : deriveTranscribeJobName delivery.info.metaPk delivery.info.metaSk = .ok jobName) :
    (do
      recordTranscriptMeta delivery.info jobName
      return okAnswer delivery.info jobName).wp (protocol settings event) (EndsAt settings event) .started := by
  apply Program.wp_bind.2
  apply PipelineCall.conditional_wp
  apply Program.wp_perform.2
  refine ⟨⟨delivery, hdelivery, jobName, hname, rfl⟩, fun result _ => ?_⟩
  have hstage : (protocol settings event).advance .started (.putTranscriptMeta (delivery.info.metaPk, delivery.info.metaSk)
      jobName delivery.info.transcriptS3Key) result = .afterWrite .recorded result := rfl
  rw [hstage, Stage.afterWrite]
  cases PipelineCall.settled result with
  | ok _ => exact ⟨delivery, hdelivery, .ok hname⟩
  | error e => trivial

theorem handleMockEvent_wp (hdelivery : deliveryOf event = .ok delivery) :
    (handleMockEvent settings delivery.info).wp (protocol settings event) (EndsAt settings event) .uploading := by
  apply Program.wp_ofExcept_bind
  · intro e _
    trivial
  · rintro ⟨callResultCode, transcript⟩ hmock
    cases transcript with
    | none => exact ⟨delivery, hdelivery, .skipped hmock⟩
    | some text =>
      apply Program.wp_ofExcept_bind
      · intro e _
        trivial
      · intro jobName hname
        apply Program.wp_perform_bind
        · exact ⟨delivery, hdelivery, callResultCode, text, jobName, hmock, hname, rfl⟩
        · intro e _
          trivial
        · intro r _
          exact recordTranscriptMeta_wp hdelivery hname

theorem startTranscribeJobWithRetry_wp (hdelivery : deliveryOf event = .ok delivery)
    (hname : deriveTranscribeJobName delivery.info.metaPk delivery.info.metaSk = .ok jobName) :
    (startTranscribeJobWithRetry jobName (transcriptionJob delivery.bucket delivery.objectKey delivery.info)).wp
      (protocol settings event) (fun result stage =>
        match result with
        | .ok (some name) => name = jobName ∧ stage = .started
        | .ok none => stage = .exhausted
        | .error _ => True) (.starting 0) := by
  apply @Program.wp_retrying_upTo _ _ _ _ _ _ _ _ (protocol settings event) _ maxTranscribeAttempts Stage.starting
    Stage.pausing .exhausted
  · intro tryIdx _
    apply Program.wp_tryCatch.2
    apply Program.wp_perform_bind
    · exact ⟨delivery, hdelivery, jobName, hname, rfl⟩
    · intro e _
      have hstage : (protocol settings event).advance (.starting tryIdx) (.startTranscriptionJob jobName
          (transcriptionJob delivery.bucket delivery.objectKey delivery.info)) (.error e) =
          if isConflict e then .started else if isRetryable e then .afterThrottle tryIdx else .failed := rfl
      rw [hstage]
      dsimp only
      split
      · exact ⟨rfl, rfl⟩
      · show if isRetryable e then _ else _
        split
        · rfl
        · trivial
    · intro r _
      exact ⟨rfl, rfl⟩
  · intro tryIdx _
    apply Program.wp_perform.2
    refine ⟨⟨delivery, hdelivery, rfl⟩, fun result _ => ?_⟩
    cases result with
    | ok _ => rfl
    | error e => trivial
  · rfl
  · decide

theorem handleRecording_wp (hdelivery : deliveryOf event = .ok delivery) :
    (handleRecording delivery.bucket delivery.objectKey delivery.info).wp (protocol settings event)
      (EndsAt settings event) (.starting 0) := by
  apply Program.wp_ofExcept_bind
  · intro e _
    trivial
  · intro jobName hname
    apply Program.wp_bind.2
    apply Program.wp_mono ?_ (startTranscribeJobWithRetry_wp hdelivery hname)
    intro result stage hresult
    match result with
    | .error e => trivial
    | .ok (some name) =>
      obtain ⟨rfl, rfl⟩ := hresult
      exact recordTranscriptMeta_wp hdelivery hname
    | .ok none =>
      have hstage : stage = .exhausted := hresult
      subst hstage
      dsimp only
      by_cases hkind : delivery.info.kind = .outbound
      · rw [if_pos hkind]
        apply Program.wp_bind.2
        apply PipelineCall.conditional_wp
        apply Program.wp_perform.2
        refine ⟨⟨delivery, hdelivery, hkind, rfl⟩, fun result _ => ?_⟩
        have hstage : (protocol settings event).advance .exhausted
            (.updateTranscribeFailed (delivery.info.metaPk, delivery.info.employeeId)) result =
            .afterWrite .reported result := rfl
        rw [hstage, Stage.afterWrite]
        cases PipelineCall.settled result with
        | ok _ => exact ⟨delivery, hdelivery, .reported hkind⟩
        | error e => trivial
      · rw [if_neg hkind]
        exact ⟨delivery, hdelivery, .exhausted hkind⟩

/-- Whatever is answered, a run makes the calls of its own recording only, and returns as its last stage says. -/
theorem lambdaHandler_wp (settings : Settings) (event : Value) :
    (lambdaHandler settings event).wp (protocol settings event) (EndsAt settings event) (start₀ settings) := by
  apply Program.wp_ofExcept_bind
  · intro e _
    trivial
  · rintro ⟨bucket, objectKey⟩ hparse
    apply Program.wp_ofExcept_bind
    · intro e _
      trivial
    · intro info hinfo
      have hdelivery : deliveryOf event = .ok { bucket, objectKey := keyText objectKey, info } := by
        rw [deliveryOf, hparse, ok_bind]
        dsimp only
        rw [hinfo, ok_bind]
        rfl
      have hofMock := @handleMockEvent_wp settings _ _ hdelivery
      have hofRecording := @handleRecording_wp settings _ _ hdelivery
      rw [start₀]
      by_cases hmock : settings.mockMode = true
      · rw [if_pos hmock, if_pos hmock]
        exact hofMock
      · rw [if_neg hmock, if_neg hmock]
        exact hofRecording

end TranscribeStarter

end Pipeline

end SafetyConfirmation
