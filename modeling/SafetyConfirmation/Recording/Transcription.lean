import SafetyConfirmation.Lib.StepMachine
import SafetyConfirmation.Recording.Relocator
import SafetyConfirmation.Recording.TranscriptMeta

/-!
# Transcribing a recording

TranscribeStarter, KeywordMatcher and the TranscriptMeta row they share. The transcript is there as soon as the job is
started or the mock has stored it, so KeywordMatcher may come to the row before TranscribeStarter's put does.
-/

namespace SafetyConfirmation

namespace TranscribeStarter

open KeyedStore StepMachine Recording
open KeywordMatcher (Answer)

/-- `mockMode` is what `_MOCK_MODE_ENABLED` comes to, and `digestByte` the first byte of the SHA-256 digest. -/
structure Settings where
  mockMode : Bool
  digestByte : String → Nat

def parseEvent : Value → Except PyError (Value × Value) := RecordingRelocator.parseEvent

def maxTranscribeAttempts : Nat := 3

def retryableErrorCodes : List String := ["ThrottlingException", "LimitExceededException"]

def transcribeExhaustedError : PyError := .other "_TranscribeExhaustedError"

/-- The loop of `_start_transcribe_job_with_retry`, with `left` tries to go from `tryIdx` on. -/
def startFrom (jobName : String) (startTranscriptionJob : Nat → Answer) (tryIdx : Nat) : Nat → Except PyError String
  | 0 => .error transcribeExhaustedError
  | left + 1 =>
    match startTranscriptionJob tryIdx with
    | .ok => .ok jobName
    | .error (.clientError code) _ =>
      if code = "ConflictException" then .ok jobName
      else if retryableErrorCodes.contains code then startFrom jobName startTranscriptionJob (tryIdx + 1) left
      else .error (.clientError code)
    | .error e _ => .error e

def startTranscribeJobWithRetry (jobName : String) (startTranscriptionJob : Nat → Answer) : Except PyError String :=
  startFrom jobName startTranscriptionJob 0 maxTranscribeAttempts

/-! ### The mock -/

/-- `_DIGIT_TO_MOCK`. -/
def digitToMock : Nat → String × Option String
  | 0 => ("RECORDED", some "無事です")
  | 1 => ("RECORDED", some "大丈夫です")
  | 2 => ("RECORDED", some "無事です")
  | 3 => ("RECORDED", some "怪我をしました")
  | 4 => ("RECORDED", some "痛いです")
  | 5 => ("RECORDED", some "動けません")
  | 6 => ("RECORDED", some "出社不可です")
  | 7 => ("NO_ANSWER", none)
  | 8 => ("BUSY", none)
  | _ => ("RECORDED", some "あいうえお")

def deriveMockResponse (digestByte : String → Nat) (employeeId : String) : Except PyError (String × Option String) :=
  match employeeId.toList.getLast? with
  | none => .error (.valueError "employee_id must be non-empty")
  | some last => .ok (digitToMock (if last.isDigit then last.toNat - '0'.toNat else digestByte employeeId % 10))

example : deriveMockResponse (fun _ => 0) "EMP-0007" = .ok ("NO_ANSWER", none) := by rfl

/-! ### Up to the put -/

/-- Where a run stands when `_record_transcript_meta` is next, or what it returns without it. -/
inductive Prepared where
  | record (jobName transcriptS3Key : String)
  | skipped (callResultCode : String)
  | transcribeFailed (kind : RecordingKind)

/-- The transcript the mock writes: its text, of one token with confidence `1.0`. -/
abbrev Transcript := String × ℚ

/-- A run up to its PutItem: what it answers and the transcript it stored itself, which the mock does. -/
def prepare (settings : Settings) (info : RecordingKeyInfo) (startTranscriptionJob : Nat → Answer)
    (putMockTranscript : Answer) : Except PyError Prepared × Option Transcript :=
  if settings.mockMode then
    match deriveMockResponse settings.digestByte info.employeeId with
    | .error e => (.error e, none)
    | .ok (callResultCode, none) => (.ok (.skipped callResultCode), none)
    | .ok (_, some text) =>
      match deriveTranscribeJobName info.metaPk info.metaSk, putMockTranscript with
      | .error e, _ => (.error e, none)
      | .ok jobName, .ok => (.ok (.record jobName info.transcriptS3Key), some (text, 1))
      | .ok _, .error e applied => (.error e, if applied then some (text, 1) else none)
  else
    match deriveTranscribeJobName info.metaPk info.metaSk with
    | .error e => (.error e, none)
    | .ok jobName =>
      match startTranscribeJobWithRetry jobName startTranscriptionJob with
      | .ok _ => (.ok (.record jobName info.transcriptS3Key), none)
      | .error e =>
        if e.errorName = transcribeExhaustedError.errorName then (.ok (.transcribeFailed info.kind), none) else (.error e, none)

/-- `lambda_handler` up to its PutItem. -/
def lambdaHandler (settings : Settings) (event : Value) (startTranscriptionJob : Nat → Answer)
    (putMockTranscript : Answer) : Except PyError Prepared × Option Transcript :=
  match parseEvent event with
  | .error e => (.error e, none)
  | .ok (_, .str objectKey) =>
    match parseRecordingKey objectKey with
    | none =>
      (.error (.valueError "recording key did not match expected schema: key=" (some (.str objectKey))), none)
    | some info => prepare settings info startTranscriptionJob putMockTranscript
  | .ok (_, objectKey) =>
    (.error (.valueError "recording key did not match expected schema: key=" (some objectKey)), none)

/-- A run that goes on to the put writes the name of the job and the key of the transcript. -/
theorem prepare_eq_record {settings : Settings} {info : RecordingKeyInfo} {startTranscriptionJob : Nat → Answer}
    {putMockTranscript : Answer} {jobName transcriptS3Key : String}
    (h : (prepare settings info startTranscriptionJob putMockTranscript).1 = .ok (.record jobName transcriptS3Key)) :
    deriveTranscribeJobName info.metaPk info.metaSk = .ok jobName ∧ transcriptS3Key = info.transcriptS3Key := by
  rw [prepare] at h
  split at h
  · split at h
    · cases h
    · cases h
    · split at h
      · cases h
      · rename_i hname
        cases h
        exact ⟨hname, rfl⟩
      · cases h
  · split at h
    · cases h
    · rename_i hname
      split at h
      · cases h
        exact ⟨hname, rfl⟩
      · split at h <;> cases h

/-! ### The put -/

/-- `_record_transcript_meta`, with how its PutItem ends: an answer without an error stands for a condition that failed,
too, which is swallowed. -/
def recordTranscriptMeta (jobName transcriptS3Key : String) (row : Option TranscriptMeta) :
    Answer → Option TranscriptMeta × Except PyError Unit
  | .ok => ((TranscriptMeta.recordJob jobName transcriptS3Key).run row, .ok ())
  | .error e applied => (
      if applied then (TranscriptMeta.recordJob jobName transcriptS3Key).run row else row,
      match e with
      | .clientError "ConditionalCheckFailedException" => .ok ()
      | e => .error e)

/-- A call of `StartTranscriptionJob` in the loop started the job. -/
def startsJob (startTranscriptionJob : Nat → Answer) (tryIdx : Nat) : Nat → Bool
  | 0 => false
  | left + 1 =>
    match startTranscriptionJob tryIdx with
    | .ok => true
    | .error (.clientError code) applied =>
      applied || retryableErrorCodes.contains code && startsJob startTranscriptionJob (tryIdx + 1) left
    | .error _ applied => applied

/-! ### A recording and its deliveries -/

/-- An outbound recording, and what Amazon Transcribe makes of it. -/
structure Source where
  bucket : String
  key : String
  info : RecordingKeyInfo
  transcribed : Transcript
  bucket_ne_empty : bucket ≠ ""
  parses : parseRecordingKey key = some info
  outbound : info.kind = .outbound

/-- `recording` holds the runs of TranscribeStarter that are about to put, with what they put. -/
structure State where
  row : Option TranscriptMeta := none
  transcript : Option Transcript := none
  jobStarted : Bool := false
  recording : List (String × String) := []
  starterSucceeded : Bool := false
  matcherSucceeded : Bool := false
  deriving DecidableEq

inductive Label where
  | start (startTranscriptionJob : Nat → Answer) (putMockTranscript : Answer)
  | transcribe
  | put (index : Nat) (answer : Answer)
  | tryMatch (t : KeywordMatcher.Try)

/-- A try reads the transcript that is there, or fails. -/
def ReadsTranscript (t : KeywordMatcher.Try) (transcript : Option Transcript) : Prop :=
  match t.readTranscript with
  | .ok read => transcript = some read
  | .error _ => True

instance (t : KeywordMatcher.Try) (transcript : Option Transcript) : Decidable (ReadsTranscript t transcript) :=
  match hread : t.readTranscript with
  | .ok read => decidable_of_iff (transcript = some read) (by simp [ReadsTranscript, hread])
  | .error _ => .isTrue (by simp [ReadsTranscript, hread])

def isOk {α : Type} : Except PyError α → Bool
  | .ok _ => true
  | .error _ => false

variable (lower : String → String) (settings : Settings) (source : Source)

def step (s : State) : Label → Option State
  | .start startTranscriptionJob putMockTranscript =>
    let prepared := lambdaHandler settings (RecordingRelocator.objectCreated source.bucket source.key)
      startTranscriptionJob putMockTranscript
    some { s with
      transcript := prepared.2.or s.transcript
      jobStarted := s.jobStarted || (!settings.mockMode && startsJob startTranscriptionJob 0 maxTranscribeAttempts)
      recording := match prepared.1 with
        | .ok (.record jobName transcriptS3Key) => (jobName, transcriptS3Key) :: s.recording
        | _ => s.recording }
  | .transcribe => if s.jobStarted then some { s with transcript := some source.transcribed } else none
  | .put index answer =>
    s.recording[index]?.map fun (jobName, transcriptS3Key) =>
      let (row, result) := recordTranscriptMeta jobName transcriptS3Key s.row answer
      { s with row, recording := s.recording.eraseIdx index, starterSucceeded := s.starterSucceeded || isOk result }
  | .tryMatch t =>
    if ReadsTranscript t s.transcript then
      some { s with
        row := match KeywordMatcher.transcriptMetaWrite? lower t with
          | some (excerpt, confidence) => (TranscriptMeta.recordExcerpt excerpt confidence).run s.row
          | none => s.row
        matcherSucceeded := s.matcherSucceeded || isOk (KeywordMatcher.runMatchingPipeline lower t).2 }
    else none

/-- The transcript of the recording: the mock's own, or what Transcribe writes. -/
def resultingTranscript : Option Transcript :=
  if settings.mockMode then
    match deriveMockResponse settings.digestByte source.info.employeeId with
    | .ok (_, some text) => some (text, 1)
    | _ => none
  else some source.transcribed

/-- The row holds the job, the key and what KeywordMatcher read, whoever came first. -/
def Complete (row : Option TranscriptMeta) : Prop :=
  ∃ jobName text confidence, deriveTranscribeJobName source.info.metaPk source.info.metaSk = .ok jobName ∧
    resultingTranscript settings source = some (text, confidence) ∧
    row = some {
      transcribeJobId := some jobName
      transcriptS3Key := some source.info.transcriptS3Key
      transcriptExcerpt := some (KeywordMatcher.truncateExcerpt text)
      confidence := some confidence
      languageCode := some "ja-JP" }

/-- An update of KeywordMatcher finds the row that TranscribeStarter put. -/
def FindsRow (s : State) : Label → Prop
  | .tryMatch t => KeywordMatcher.transcriptMetaWrite? lower t ≠ none → s.row ≠ none
  | _ => True

instance (s : State) : (label : Label) → Decidable (FindsRow lower s label)
  | .tryMatch _ => inferInstanceAs (Decidable (_ → _))
  | .start .. | .transcribe | .put .. => .isTrue trivial

/-! ### What is written -/

variable {lower : String → String} {settings : Settings} {source : Source} {s t : State} {label : Label}

theorem lambdaHandler_objectCreated (startTranscriptionJob : Nat → Answer) (putMockTranscript : Answer) :
    lambdaHandler settings (RecordingRelocator.objectCreated source.bucket source.key) startTranscriptionJob
      putMockTranscript = prepare settings source.info startTranscriptionJob putMockTranscript := by
  have hkey : source.key ≠ "" := by
    intro hempty
    have hparses := source.parses
    rw [hempty] at hparses
    cases hparses
  rw [lambdaHandler, parseEvent, RecordingRelocator.parseEvent_objectCreated source.bucket_ne_empty hkey]
  simp only [source.parses]

/-- What a run of the mock stores is the transcript of the recording. -/
theorem resultingTranscript_of_prepare {startTranscriptionJob : Nat → Answer} {putMockTranscript : Answer}
    {stored : Transcript} (h : (prepare settings source.info startTranscriptionJob putMockTranscript).2 = some stored) :
    resultingTranscript settings source = some stored := by
  rw [prepare] at h
  rw [resultingTranscript]
  split at h
  · rw [if_pos ‹_›]
    split at h
    · cases h
    · cases h
    · rename_i hmock
      rw [hmock]
      split at h
      · cases h
      · exact h
      · split at h
        · exact h
        · cases h
  · split at h
    · cases h
    · split at h
      · cases h
      · split at h <;> cases h

def HoldsJob (source : Source) (row : TranscriptMeta) : Prop :=
  ∃ jobName, deriveTranscribeJobName source.info.metaPk source.info.metaSk = .ok jobName ∧
    row.transcribeJobId = some jobName ∧ row.transcriptS3Key = some source.info.transcriptS3Key

def HoldsExcerpt (settings : Settings) (source : Source) (row : TranscriptMeta) : Prop :=
  ∃ text confidence, resultingTranscript settings source = some (text, confidence) ∧
    row.transcriptExcerpt = some (KeywordMatcher.truncateExcerpt text) ∧ row.confidence = some confidence ∧
    row.languageCode = some "ja-JP"

/-- KeywordMatcher came first: the job is missing, and no put will add it. -/
def LacksJob (row : Option TranscriptMeta) : Prop := ∃ r, row = some r ∧ r.transcribeJobId = none

theorem complete_iff {row : TranscriptMeta} (hexcerpt : HoldsExcerpt settings source row)
    (hjob : HoldsJob source row ∨ row.transcribeJobId = none) :
    Complete settings source (some row) ↔ ¬ LacksJob (some row) := by
  constructor
  · rintro ⟨jobName, text, confidence, -, -, hrow⟩ ⟨r, hr, hnone⟩
    cases hrow
    cases hr
    cases hnone
  · intro hfree
    obtain ⟨jobName, hname, hid, hkey⟩ := hjob.resolve_right fun hnone => hfree ⟨row, rfl, hnone⟩
    obtain ⟨text, confidence, hresult, htext, hconfidence, hlanguage⟩ := hexcerpt
    refine ⟨jobName, text, confidence, hname, hresult, ?_⟩
    obtain ⟨id, key, excerpt, conf, language⟩ := row
    cases hid
    cases hkey
    cases htext
    cases hconfidence
    cases hlanguage
    rfl

/-- The states every delivery leads to. -/
structure Sound (settings : Settings) (source : Source) (s : State) : Prop where
  transcript : ∀ read, s.transcript = some read → resultingTranscript settings source = some read
  jobStarted : s.jobStarted = true → settings.mockMode = false
  recording : ∀ entry ∈ s.recording,
    deriveTranscribeJobName source.info.metaPk source.info.metaSk = .ok entry.1 ∧ entry.2 = source.info.transcriptS3Key
  row : ∀ row, s.row = some row → HoldsJob source row ∨ row.transcribeJobId = none
  matched : s.matcherSucceeded = true → ∃ row, s.row = some row ∧ HoldsExcerpt settings source row

/-- What one delivery does to the row: nothing, TranscribeStarter's put, or KeywordMatcher's update. -/
inductive RowStep (settings : Settings) (source : Source) (row : Option TranscriptMeta) : Option TranscriptMeta → Prop where
  | kept : RowStep settings source row row
  | put {jobName : String} (hname : deriveTranscribeJobName source.info.metaPk source.info.metaSk = .ok jobName) :
      RowStep settings source row ((TranscriptMeta.recordJob jobName source.info.transcriptS3Key).run row)
  | updated {text : String} {confidence : ℚ} (hresult : resultingTranscript settings source = some (text, confidence)) :
      RowStep settings source row
        ((TranscriptMeta.recordExcerpt (KeywordMatcher.truncateExcerpt text) confidence).run row)

theorem rowStep_recordTranscriptMeta {jobName : String}
    (hname : deriveTranscribeJobName source.info.metaPk source.info.metaSk = .ok jobName) (row : Option TranscriptMeta)
    (answer : Answer) :
    RowStep settings source row (recordTranscriptMeta jobName source.info.transcriptS3Key row answer).1 := by
  cases answer with
  | ok => exact .put hname
  | error e applied =>
    cases applied with
    | true => exact .put hname
    | false => exact .kept

theorem RowStep.row {before after : Option TranscriptMeta} (h : RowStep settings source before after)
    (hrow : ∀ row, before = some row → HoldsJob source row ∨ row.transcribeJobId = none) :
    ∀ row, after = some row → HoldsJob source row ∨ row.transcribeJobId = none := by
  cases h with
  | kept => exact hrow
  | @put jobName hname =>
    cases before with
    | none =>
      rintro _ ⟨⟩
      exact .inl ⟨jobName, hname, rfl, rfl⟩
    | some row => exact hrow
  | updated hresult =>
    cases before with
    | none =>
      rintro _ ⟨⟩
      exact .inr rfl
    | some row =>
      rintro _ ⟨⟩
      exact hrow row rfl

theorem RowStep.lacksJob {before after : Option TranscriptMeta} (h : RowStep settings source before after)
    (hlacks : LacksJob before) : LacksJob after := by
  obtain ⟨row, rfl, hnone⟩ := hlacks
  cases h with
  | kept => exact ⟨row, rfl, hnone⟩
  | put hname => exact ⟨row, rfl, hnone⟩
  | updated hresult => exact ⟨_, rfl, hnone⟩

theorem RowStep.not_lacksJob {row : TranscriptMeta} {after : Option TranscriptMeta}
    (h : RowStep settings source (some row) after) (hjob : row.transcribeJobId ≠ none) : ¬ LacksJob after := by
  rintro ⟨row', hrow', hnone⟩
  cases h with
  | kept | put _ | updated _ =>
    cases hrow'
    exact hjob hnone

theorem RowStep.holdsExcerpt {before after : Option TranscriptMeta} (h : RowStep settings source before after)
    (hbefore : ∃ row, before = some row ∧ HoldsExcerpt settings source row) :
    ∃ row, after = some row ∧ HoldsExcerpt settings source row := by
  obtain ⟨row, rfl, hexcerpt⟩ := hbefore
  cases h with
  | kept => exact ⟨row, rfl, hexcerpt⟩
  | put hname => exact ⟨row, rfl, hexcerpt⟩
  | @updated text confidence hresult => exact ⟨_, rfl, text, confidence, hresult, rfl, rfl, rfl⟩

/-! ### One delivery -/

theorem rowStep_of_step (hs : Sound settings source s) (h : step lower settings source s label = some t) :
    RowStep settings source s.row t.row := by
  cases label with
  | start startTranscriptionJob putMockTranscript =>
    cases h
    exact .kept
  | transcribe =>
    rw [step] at h
    split at h
    · cases h
      exact .kept
    · cases h
  | put index answer =>
    obtain ⟨⟨jobName, transcriptS3Key⟩, hentry, rfl⟩ := Option.map_eq_some_iff.1 h
    obtain ⟨hname, rfl⟩ := hs.recording _ (List.mem_of_getElem? hentry)
    exact rowStep_recordTranscriptMeta hname s.row answer
  | tryMatch attempt =>
    rw [step] at h
    split at h
    · rename_i hreads
      cases h
      dsimp only
      split
      · rename_i excerpt confidence hwrite
        obtain ⟨text, confidence', hread, heq⟩ := KeywordMatcher.transcriptMetaWrite?_eq_some hwrite
        cases heq
        rw [ReadsTranscript, hread] at hreads
        exact .updated (hs.transcript _ hreads)
      · exact .kept
    · cases h

theorem transcript_of_step (hs : Sound settings source s) (h : step lower settings source s label = some t) :
    ∀ read, t.transcript = some read → resultingTranscript settings source = some read := by
  cases label with
  | start startTranscriptionJob putMockTranscript =>
    rw [step, lambdaHandler_objectCreated] at h
    cases h
    intro read hread
    rcases Option.or_eq_some_iff.1 hread with hstored | ⟨-, hread⟩
    · exact resultingTranscript_of_prepare hstored
    · exact hs.transcript read hread
  | transcribe =>
    rw [step] at h
    split at h
    · rename_i hstarted
      cases h
      intro read hread
      rw [resultingTranscript, hs.jobStarted hstarted]
      exact hread
    · cases h
  | put index answer =>
    obtain ⟨_, -, rfl⟩ := Option.map_eq_some_iff.1 h
    exact hs.transcript
  | tryMatch attempt =>
    rw [step] at h
    split at h
    · cases h
      exact hs.transcript
    · cases h

theorem jobStarted_of_step (hs : Sound settings source s) (h : step lower settings source s label = some t)
    (hstarted : t.jobStarted = true) : settings.mockMode = false := by
  cases label with
  | start startTranscriptionJob putMockTranscript =>
    cases h
    rcases Bool.or_eq_true_iff.1 hstarted with hbefore | hnow
    · exact hs.jobStarted hbefore
    · rw [Bool.and_eq_true, Bool.not_eq_true'] at hnow
      exact hnow.1
  | transcribe =>
    rw [step] at h
    split at h
    · cases h
      exact hs.jobStarted hstarted
    · cases h
  | put index answer =>
    obtain ⟨_, -, rfl⟩ := Option.map_eq_some_iff.1 h
    exact hs.jobStarted hstarted
  | tryMatch attempt =>
    rw [step] at h
    split at h
    · cases h
      exact hs.jobStarted hstarted
    · cases h

theorem recording_of_step (hs : Sound settings source s) (h : step lower settings source s label = some t) :
    ∀ entry ∈ t.recording, deriveTranscribeJobName source.info.metaPk source.info.metaSk = .ok entry.1 ∧
      entry.2 = source.info.transcriptS3Key := by
  cases label with
  | start startTranscriptionJob putMockTranscript =>
    rw [step, lambdaHandler_objectCreated] at h
    cases h
    intro entry hentry
    dsimp only at hentry
    split at hentry
    · rename_i jobName transcriptS3Key hprepared
      rcases List.mem_cons.1 hentry with rfl | hentry
      · exact prepare_eq_record hprepared
      · exact hs.recording entry hentry
    · exact hs.recording entry hentry
  | transcribe =>
    rw [step] at h
    split at h
    · cases h
      exact hs.recording
    · cases h
  | put index answer =>
    obtain ⟨_, -, rfl⟩ := Option.map_eq_some_iff.1 h
    exact fun entry hentry => hs.recording entry (List.mem_of_mem_eraseIdx hentry)
  | tryMatch attempt =>
    rw [step] at h
    split at h
    · cases h
      exact hs.recording
    · cases h

/-- A try that succeeded left the excerpt. -/
theorem matched_of_step (hs : Sound settings source s) (h : step lower settings source s label = some t)
    (hmatched : t.matcherSucceeded = true) : ∃ row, t.row = some row ∧ HoldsExcerpt settings source row := by
  by_cases hbefore : s.matcherSucceeded = true
  · exact (rowStep_of_step hs h).holdsExcerpt (hs.matched hbefore)
  · rw [Bool.not_eq_true] at hbefore
    cases label with
    | start startTranscriptionJob putMockTranscript =>
      cases h
      rw [hbefore] at hmatched
      cases hmatched
    | transcribe =>
      rw [step] at h
      split at h
      · cases h
        rw [hbefore] at hmatched
        cases hmatched
      · cases h
    | put index answer =>
      obtain ⟨_, -, rfl⟩ := Option.map_eq_some_iff.1 h
      rw [hbefore] at hmatched
      cases hmatched
    | tryMatch attempt =>
      rw [step] at h
      split at h
      · rename_i hreads
        cases h
        rw [hbefore, Bool.false_or] at hmatched
        cases hpipeline : KeywordMatcher.runMatchingPipeline lower attempt with
        | mk writes result =>
          cases result with
          | error e =>
            rw [hpipeline] at hmatched
            cases hmatched
          | ok c =>
            obtain ⟨written, hwrite⟩ := Option.isSome_iff_exists.1 (KeywordMatcher.transcriptMetaWrite?_isSome hpipeline)
            obtain ⟨text, confidence, hread, rfl⟩ := KeywordMatcher.transcriptMetaWrite?_eq_some hwrite
            rw [ReadsTranscript, hread] at hreads
            dsimp only
            rw [hwrite]
            exact ⟨_, rfl, text, confidence, hs.transcript _ hreads, rfl, rfl, rfl⟩
      · cases h

theorem sound_step (hs : Sound settings source s) (h : step lower settings source s label = some t) :
    Sound settings source t where
  transcript := transcript_of_step hs h
  jobStarted := jobStarted_of_step hs h
  recording := recording_of_step hs h
  row := (rowStep_of_step hs h).row hs.row
  matched := matched_of_step hs h

/-- Before the first delivery of the recording there is nothing. -/
theorem sound_start : Sound settings source {} where
  transcript read hread := by cases hread
  jobStarted hstarted := by cases hstarted
  recording entry hentry := by cases hentry
  row row hrow := by cases hrow
  matched hmatched := by cases hmatched

/-- Only an update of KeywordMatcher that finds no row leaves one without the job. -/
theorem lacksJob_of_not_findsRow (h : step lower settings source s label = some t) (hfinds : ¬ FindsRow lower s label) :
    LacksJob t.row := by
  cases label with
  | tryMatch attempt =>
    rw [FindsRow, Classical.not_imp, Classical.not_not] at hfinds
    obtain ⟨hwrites, hnone⟩ := hfinds
    rw [step] at h
    split at h
    · cases h
      dsimp only
      split
      · rw [hnone]
        exact ⟨_, rfl, rfl⟩
      · rename_i hwrite
        exact absurd hwrite hwrites
    · cases h
  | _ => exact absurd trivial hfinds

theorem not_lacksJob_of_findsRow (hs : Sound settings source s) (h : step lower settings source s label = some t)
    (hfinds : FindsRow lower s label) (hfree : ¬ LacksJob s.row) : ¬ LacksJob t.row := by
  have hrowStep := rowStep_of_step hs h
  cases hrow : s.row with
  | some row =>
    rw [hrow] at hrowStep
    exact hrowStep.not_lacksJob fun hnone => hfree ⟨row, hrow, hnone⟩
  | none =>
    rintro ⟨row, hrow', hnone⟩
    cases label with
    | tryMatch attempt =>
      have hwrites : KeywordMatcher.transcriptMetaWrite? lower attempt = none := by
        by_contra hwrites
        exact hfinds hwrites hrow
      rw [step, hwrites, hrow] at h
      split at h
      · cases h
        cases hrow'
      · cases h
    | start startTranscriptionJob putMockTranscript =>
      cases h
      rw [hrow] at hrow'
      cases hrow'
    | transcribe =>
      rw [step, hrow] at h
      split at h
      · cases h
        cases hrow'
      · cases h
    | put index answer =>
      obtain ⟨⟨jobName, transcriptS3Key⟩, -, rfl⟩ := Option.map_eq_some_iff.1 h
      rw [hrow] at hrow'
      cases answer with
      | ok =>
        cases hrow'
        cases hnone
      | error e applied =>
        cases applied with
        | true =>
          cases hrow'
          cases hnone
        | false => cases hrow'

/-! ### All deliveries -/

/-- However the two lambdas are delivered, once KeywordMatcher has succeeded the row holds all five attributes exactly
when every update of KeywordMatcher found the row there. -/
theorem complete_iff_findsRow {labels : List Label} (hrun : exec (step lower settings source) {} labels = some t)
    (hmatched : t.matcherSucceeded = true) :
    Complete settings source t.row ↔ Guarded (step lower settings source) (FindsRow lower) {} labels := by
  have ht : Sound settings source t := invariant (fun _ _ _ => sound_step) sound_start hrun
  obtain ⟨row, hrow, hexcerpt⟩ := ht.matched hmatched
  rw [hrow, complete_iff hexcerpt (ht.row row hrow), ← hrow]
  constructor
  · intro hfree
    refine @guarded_of_not_trapped _ _ _ _ (Sound settings source) (fun s => LacksJob s.row) ?_ ?_ ?_ _ _ _
      sound_start hrun hfree
    · exact fun s label t hs hstep => sound_step hs hstep
    · exact fun s label t hs hfinds hstep => lacksJob_of_not_findsRow hstep hfinds
    · exact fun s label t hs hlacks hstep => (rowStep_of_step hs hstep).lacksJob hlacks
  · intro hguarded
    have hlast := @invariant_of_guarded _ _ _ _ (fun s => Sound settings source s ∧ ¬ LacksJob s.row)
      (fun _ _ _ hs hfinds hstep => ⟨sound_step hs.1 hstep, not_lacksJob_of_findsRow hs.1 hstep hfinds hs.2⟩) _ _ _
      ⟨sound_start, fun ⟨row, hnone, _⟩ => by cases hnone⟩ hguarded hrun
    exact hlast.2

/-- The first recording of an employee, and what it says. -/
def firstRecording : Source where
  bucket := "recordings"
  key := "recordings/c1/e1/1.wav"
  info := {
    kind := .outbound
    cycleIdOrInboundPrefix := "c1"
    employeeId := "e1"
    seqOrContact := "1"
    transcriptS3Key := "transcripts/c1/e1/1.json"
    metaPk := "c1"
    metaSk := "e1#1" }
  transcribed := ("無事です", 1)
  bucket_ne_empty := by decide
  parses := by decide
  outbound := rfl

def production : Settings where
  mockMode := false
  digestByte _ := 0

def goodTry : KeywordMatcher.Try where
  readTranscript := .ok ("無事です", 1)
  resolveDictionaryVersion := .ok 1
  getDictionarySnapshot := .ok default
  recordResponse := .ok
  recordTranscriptMeta := .ok

def putFirst : List Label := [.start (fun _ => .ok) .ok, .put 0 .ok, .transcribe, .tryMatch goodTry]

/-- The put is throttled, and the redelivery of the recording comes after the transcript. -/
def throttledPut : List Label :=
  [.start (fun _ => .ok) .ok, .put 0 (.error (.clientError "ThrottlingException") false), .transcribe, .tryMatch goodTry,
    .start (fun _ => .error (.clientError "ConflictException") false) .ok, .put 0 .ok]

theorem complete_putFirst : ∃ t, exec (step id production firstRecording) {} putFirst = some t ∧
    Complete production firstRecording t.row := by
  obtain ⟨t, hrun⟩ := Option.isSome_iff_exists.1
    (show (exec (step id production firstRecording) {} putFirst).isSome = true by decide)
  have hmatched : (exec (step id production firstRecording) {} putFirst).map State.matcherSucceeded = some true := by decide
  rw [hrun, Option.map_some, Option.some.injEq] at hmatched
  exact ⟨t, hrun, (complete_iff_findsRow hrun hmatched).2 (by decide)⟩

/-- Both lambdas succeed, and the row has neither the job nor the key of the transcript. -/
theorem redelivered_put_skipped : ∃ t, exec (step id production firstRecording) {} throttledPut = some t ∧
    t.starterSucceeded = true ∧ t.matcherSucceeded = true ∧
    t.row.map TranscriptMeta.transcribeJobId = some none ∧ ¬ Complete production firstRecording t.row := by
  obtain ⟨t, hrun⟩ := Option.isSome_iff_exists.1
    (show (exec (step id production firstRecording) {} throttledPut).isSome = true by decide)
  have hfinal : (exec (step id production firstRecording) {} throttledPut).map (fun t =>
      (t.starterSucceeded, t.matcherSucceeded, t.row.map TranscriptMeta.transcribeJobId)) =
      some (true, true, some none) := by decide
  rw [hrun, Option.map_some, Option.some.injEq, Prod.mk.injEq, Prod.mk.injEq] at hfinal
  obtain ⟨hstarter, hmatcher, hjob⟩ := hfinal
  refine ⟨t, hrun, hstarter, hmatcher, hjob, ?_⟩
  rintro ⟨jobName, text, confidence, -, -, hrow⟩
  rw [hrow] at hjob
  cases hjob

end TranscribeStarter

end SafetyConfirmation
