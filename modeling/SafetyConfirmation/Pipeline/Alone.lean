import SafetyConfirmation.Pipeline.KeywordMatcher
import SafetyConfirmation.Pipeline.TranscribeStarter
import SafetyConfirmation.Recording.Transcription

/-!
# The lambdas run alone

KeywordMatcher and TranscribeStarter were modelled by what their calls come to, and again call by call. A program that is run
alone, its calls answered from a script, writes and returns what the model of the outcomes says.
-/

namespace SafetyConfirmation

namespace Pipeline

open Checks Recording
open SafetyConfirmation.KeywordMatcher (Answer)

/-- What a call raises that the script has no answer for. -/
def unscripted : PyError := .other "NotImplementedError"

def resultOf : Answer → Except PyError Unit
  | .ok => .ok ()
  | .error e _ => .error e

namespace KeywordMatcher

open SafetyConfirmation.KeywordMatcher (Try maxKeywordMatcherAttempts isRetryable classification)

/-- The answers of one try. -/
structure Script where
  getTranscript : Except PyError (Option Value)
  getCycle : Except PyError (Option Value)
  queryHistory : Except PyError KeywordLists
  updateResponse : Answer
  updateTranscriptMeta : Answer

/-- What the reads and writes of the try come to. -/
def Script.toTry (script : Script) (delivery : Delivery) : Try where
  readTranscript := script.getTranscript >>= payloadOf delivery.bucket delivery.key
  resolveDictionaryVersion := script.getCycle >>= dictionaryVersionOf delivery.info.metaPk
  getDictionarySnapshot := script.queryHistory
  recordResponse := script.updateResponse
  recordTranscriptMeta := script.updateTranscriptMeta

def rowKey (delivery : Delivery) : String × String := (delivery.info.metaPk, delivery.info.employeeId)

/-- Which try it is, and what was written of the Response table. -/
structure Tape where
  tryIdx : Nat := 0
  writes : List ((String × String) × RowWrite) := []

def Tape.add (tape : Tape) (writes : List ((String × String) × RowWrite)) : Tape :=
  { tape with writes := tape.writes ++ writes }

def Tape.write (tape : Tape) (key : String × String) (w : RowWrite) : Answer → Except PyError Unit × Tape
  | .ok => (.ok (), tape.add [(key, w)])
  | .error e applied => (.error e, if applied then tape.add [(key, w)] else tape)

variable (script : Nat → Script) (fallback : Answer)

def respond (tape : Tape) : (c : PipelineCall) → Except PyError c.Reply × Tape
  | .getTranscript .. => ((script tape.tryIdx).getTranscript, tape)
  | .getCycle _ => ((script tape.tryIdx).getCycle, tape)
  | .queryHistory _ => ((script tape.tryIdx).queryHistory, tape)
  | .updateResponse key c => tape.write key (.recordResponse c) (script tape.tryIdx).updateResponse
  | .updateTranscriptMeta .. => (resultOf (script tape.tryIdx).updateTranscriptMeta, tape)
  | .updateOtherFallback key => tape.write key .recordOtherFallback fallback
  | .sleep _ => (.ok (), { tape with tryIdx := tape.tryIdx + 1 })
  | .utcNow | .putRecordingMeta .. | .startTranscriptionJob .. | .putTranscript .. | .putTranscriptMeta ..
  | .updateTranscribeFailed _ => (.error unscripted, tape)

variable (lower : String → String) {delivery : Delivery}

def outcomes (delivery : Delivery) (i : Nat) : Try := (script i).toTry delivery

def stored (delivery : Delivery) (writes : List RowWrite) : List ((String × String) × RowWrite) :=
  writes.map fun w => (rowKey delivery, w)

/-- What a try returns, of the classification it has come to. -/
def Agrees (info : RecordingKeyInfo) : Except PyError Value → Except PyError Classification → Prop
  | .ok v, .ok c => ∃ confidence, v = okAnswer info c confidence
  | .error e, .error e' => e = e'
  | _, _ => False

/-- A try has written and returns what its model says. -/
structure TriedAs (delivery : Delivery) (tape : Tape) (run : Except PyError Value × Tape)
    (model : List RowWrite × Except PyError Classification) : Prop where
  written : run.2 = tape.add (stored delivery model.1)
  result : Agrees delivery.info run.1 model.2

/-- How the loop ends, of the end of its model. -/
def LoopAgrees (info : RecordingKeyInfo) :
    Except PyError (Option Value) → Except SafetyConfirmation.KeywordMatcher.Failure Classification → Prop
  | .ok (some v), .ok c => ∃ confidence, v = okAnswer info c confidence
  | .ok none, .error .exhausted => True
  | .error e, .error (.raised e') => e = e'
  | _, _ => False

/-- The loop has written and returns what its model says. -/
structure LoopedAs (delivery : Delivery) (tape : Tape) (run : Except PyError (Option Value) × Tape)
    (model : List RowWrite × Except SafetyConfirmation.KeywordMatcher.Failure Classification) : Prop where
  written : run.2.writes = tape.writes ++ stored delivery model.1
  result : LoopAgrees delivery.info run.1 model.2

variable {script fallback lower}

/-- A try and its model both classify, or both raise the same. -/
theorem agrees_cases {info : RecordingKeyInfo} {result : Except PyError Value} {outcome : Except PyError Classification}
    (h : Agrees info result outcome) :
    (∃ c confidence, result = .ok (okAnswer info c confidence) ∧ outcome = .ok c) ∨
      ∃ e, result = .error e ∧ outcome = .error e := by
  cases result with
  | ok v =>
    cases outcome with
    | ok c =>
      obtain ⟨confidence, rfl⟩ := h
      exact .inl ⟨c, confidence, rfl, rfl⟩
    | error e' => exact False.elim h
  | error e =>
    cases outcome with
    | ok c => exact False.elim h
    | error e' =>
      have hsame : e = e' := h
      subst hsame
      exact .inr ⟨e, rfl, rfl⟩

/-- The loop and its model both classify, or are both exhausted, or both raise the same. -/
theorem loopAgrees_cases {info : RecordingKeyInfo} {result : Except PyError (Option Value)}
    {outcome : Except SafetyConfirmation.KeywordMatcher.Failure Classification} (h : LoopAgrees info result outcome) :
    (∃ c confidence, result = .ok (some (okAnswer info c confidence)) ∧ outcome = .ok c) ∨
      (result = .ok none ∧ outcome = .error .exhausted) ∨ ∃ e, result = .error e ∧ outcome = .error (.raised e) := by
  cases result with
  | ok returned =>
    cases returned with
    | some v =>
      cases outcome with
      | ok c =>
        obtain ⟨confidence, rfl⟩ := h
        exact .inl ⟨c, confidence, rfl, rfl⟩
      | error failure => exact False.elim h
    | none =>
      cases outcome with
      | ok c => exact False.elim h
      | error failure =>
        cases failure with
        | exhausted => exact .inr (.inl ⟨rfl, rfl⟩)
        | raised e' => exact False.elim h
  | error e =>
    cases outcome with
    | ok c => exact False.elim h
    | error failure =>
      cases failure with
      | exhausted => exact False.elim h
      | raised e' =>
        have hsame : e = e' := h
        subst hsame
        exact .inr (.inr ⟨e, rfl, rfl⟩)

section Read

variable {α : Type} {c : PipelineCall} {read : c.Reply → Except PyError α} {rest : α → PipelineLambda Value} {tape : Tape}
  {answer : Except PyError c.Reply}

/-- A read of a try, and what is made of it. -/
theorem run_read_of_ok (hrespond : respond script fallback tape c = (answer, tape)) {a : α} (h : answer >>= read = .ok a) :
    (PipelineCall.perform c >>= fun r => Program.ofExcept (read r) >>= rest).run (respond script fallback) tape =
      (rest a).run (respond script fallback) tape := by
  obtain ⟨r, rfl, hread⟩ := bind_eq_ok.1 h
  rw [PipelineCall.perform, Program.run_bind, Program.run_perform, hrespond]
  dsimp only
  rw [Program.run_bind, Program.run_ofExcept, hread]

theorem run_read_of_error (hrespond : respond script fallback tape c = (answer, tape)) {e : PyError}
    (h : answer >>= read = .error e) :
    (PipelineCall.perform c >>= fun r => Program.ofExcept (read r) >>= rest).run (respond script fallback) tape =
      (.error e, tape) := by
  rw [PipelineCall.perform, Program.run_bind, Program.run_perform, hrespond]
  rcases bind_eq_error.1 h with rfl | ⟨r, rfl, hread⟩
  · rfl
  · dsimp only
    rw [Program.run_bind, Program.run_ofExcept, hread]

end Read

theorem triedAs_error (tape : Tape) (e : PyError) : TriedAs delivery tape (.error e, tape) ([], .error e) where
  written := by rw [stored, List.map_nil, Tape.add, List.append_nil]
  result := rfl

/-- The two writes of a try. -/
theorem triedAs_writes (tape : Tape) (c : Classification) (confidence : ℚ) :
    TriedAs delivery tape ((do
      PipelineCall.perform (.updateResponse (rowKey delivery) c)
      PipelineCall.perform (.updateTranscriptMeta (delivery.info.metaPk, delivery.info.metaSk) c.excerpt confidence)
      return okAnswer delivery.info c confidence : PipelineLambda Value).run (respond script fallback) tape)
      (match (script tape.tryIdx).updateResponse, (script tape.tryIdx).updateTranscriptMeta with
        | .error e applied, _ => (if applied then [.recordResponse c] else [], .error e)
        | .ok, .error e _ => ([.recordResponse c], .error e)
        | .ok, .ok => ([.recordResponse c], .ok c)) := by
  have hwrite : respond script fallback tape (.updateResponse (rowKey delivery) c) =
    tape.write (rowKey delivery) (.recordResponse c) (script tape.tryIdx).updateResponse := rfl
  have hmeta : respond script fallback (tape.add [(rowKey delivery, .recordResponse c)])
      (.updateTranscriptMeta (delivery.info.metaPk, delivery.info.metaSk) c.excerpt confidence) =
    (resultOf (script tape.tryIdx).updateTranscriptMeta, tape.add [(rowKey delivery, .recordResponse c)]) := rfl
  rw [PipelineCall.perform, Program.run_bind, Program.run_perform, hwrite]
  cases (script tape.tryIdx).updateResponse with
  | error e applied =>
    cases applied with
    | false => exact triedAs_error tape e
    | true => exact ⟨rfl, rfl⟩
  | ok =>
    rw [Tape.write]
    dsimp only
    rw [PipelineCall.perform, Program.run_bind, Program.run_perform, hmeta]
    cases (script tape.tryIdx).updateTranscriptMeta with
    | error e applied => exact ⟨rfl, rfl⟩
    | ok => exact ⟨rfl, confidence, rfl⟩

/-- A try returns its classification or raises its first error, and has written the classification where the answer to that
write says so. -/
theorem triedAs_runMatchingPipeline (tape : Tape) :
    TriedAs delivery tape
      ((runMatchingPipeline lower delivery.bucket delivery.key delivery.info).run (respond script fallback) tape)
      (SafetyConfirmation.KeywordMatcher.runMatchingPipeline lower (outcomes script delivery tape.tryIdx)) := by
  rw [runMatchingPipeline_eq, SafetyConfirmation.KeywordMatcher.runMatchingPipeline,
    SafetyConfirmation.KeywordMatcher.classify]
  cases hread : (outcomes script delivery tape.tryIdx).readTranscript with
  | error e =>
    have hraises : (script tape.tryIdx).getTranscript >>= payloadOf delivery.bucket delivery.key = .error e := hread
    rw [run_read_of_error (c := .getTranscript _ _) rfl hraises, error_bind]
    exact triedAs_error tape e
  | ok read =>
    have hreads : (script tape.tryIdx).getTranscript >>= payloadOf delivery.bucket delivery.key = .ok read := hread
    rw [run_read_of_ok (c := .getTranscript _ _) rfl hreads, ok_bind]
    dsimp only
    cases hversion : (outcomes script delivery tape.tryIdx).resolveDictionaryVersion with
    | error e =>
      have hraises : (script tape.tryIdx).getCycle >>= dictionaryVersionOf delivery.info.metaPk = .error e := hversion
      rw [run_read_of_error (c := .getCycle _) rfl hraises, error_bind]
      exact triedAs_error tape e
    | ok dictionaryVersion =>
      have hreads : (script tape.tryIdx).getCycle >>= dictionaryVersionOf delivery.info.metaPk = .ok dictionaryVersion := hversion
      have hquery : respond script fallback tape (.queryHistory dictionaryVersion) =
        ((outcomes script delivery tape.tryIdx).getDictionarySnapshot, tape) := rfl
      rw [run_read_of_ok (c := .getCycle _) rfl hreads, ok_bind, PipelineCall.perform, Program.run_bind, Program.run_perform,
        hquery]
      cases (outcomes script delivery tape.tryIdx).getDictionarySnapshot with
      | error e => exact triedAs_error tape e
      | ok dictionary => exact triedAs_writes tape (classification lower read.1 dictionary dictionaryVersion) read.2

/-- A try, and what comes after one that is to be retried. -/
theorem loopedAs_succ {left : Nat} {tape : Tape}
    (hafter : ∀ tape', tape'.tryIdx = tape.tryIdx → LoopedAs delivery tape'
      ((if 0 < left then (do
          PipelineCall.perform (.sleep tape.tryIdx)
          Program.retrying isRetryable (runMatchingPipeline lower delivery.bucket delivery.key delivery.info)
            (fun tryIdx => PipelineCall.perform (.sleep tryIdx)) (tape.tryIdx + 1) left)
        else return none : PipelineLambda (Option Value)).run (respond script fallback) tape')
      (SafetyConfirmation.KeywordMatcher.runWithRetry lower (outcomes script delivery) (tape.tryIdx + 1) left)) :
    LoopedAs delivery tape
      ((Program.retrying isRetryable (runMatchingPipeline lower delivery.bucket delivery.key delivery.info)
        (fun tryIdx => PipelineCall.perform (.sleep tryIdx)) tape.tryIdx (left + 1)).run (respond script fallback) tape)
      (SafetyConfirmation.KeywordMatcher.runWithRetry lower (outcomes script delivery) tape.tryIdx (left + 1)) := by
  have htried := @triedAs_runMatchingPipeline script fallback lower delivery tape
  rw [SafetyConfirmation.KeywordMatcher.runWithRetry, Program.retrying, Program.run_andThen]
  revert htried
  generalize (runMatchingPipeline lower delivery.bucket delivery.key delivery.info).run (respond script fallback) tape = run
  generalize SafetyConfirmation.KeywordMatcher.runMatchingPipeline lower (outcomes script delivery tape.tryIdx) = model
  rintro ⟨hwritten, hresult⟩
  obtain ⟨result, tape'⟩ := run
  obtain ⟨writes, outcome⟩ := model
  dsimp only at hwritten hresult ⊢
  subst hwritten
  obtain ⟨c, confidence, rfl, rfl⟩ | ⟨e, rfl, rfl⟩ := agrees_cases hresult
  · exact ⟨rfl, confidence, rfl⟩
  · dsimp only
    by_cases hretry : isRetryable e = true
    · rw [if_pos hretry, if_pos hretry]
      have hlater := hafter (tape.add (stored delivery writes)) rfl
      refine ⟨?_, hlater.result⟩
      rw [hlater.written, Tape.add, List.append_assoc]
      exact congrArg _ List.map_append.symm
    · rw [if_neg hretry, if_neg hretry]
      exact ⟨rfl, rfl⟩

/-- The tries that are left. -/
theorem loopedAs_retrying (left : Nat) (tape : Tape) :
    LoopedAs delivery tape
      ((Program.retrying isRetryable (runMatchingPipeline lower delivery.bucket delivery.key delivery.info)
        (fun tryIdx => PipelineCall.perform (.sleep tryIdx)) tape.tryIdx (left + 1)).run (respond script fallback) tape)
      (SafetyConfirmation.KeywordMatcher.runWithRetry lower (outcomes script delivery) tape.tryIdx (left + 1)) := by
  induction left generalizing tape with
  | zero =>
    apply loopedAs_succ
    intro tape' _
    exact ⟨(List.append_nil _).symm, trivial⟩
  | succ left ih =>
    apply loopedAs_succ
    intro tape' hsame
    have hlater := ih { tape' with tryIdx := tape'.tryIdx + 1 }
    rw [if_pos (Nat.succ_pos left), PipelineCall.perform, Program.run_bind, Program.run_perform]
    rw [← hsame]
    exact ⟨hlater.written, hlater.result⟩

/-- What a run does once its event has been read. -/
theorem lambdaHandler_eq {event : Value} (h : deliveryOf event = .ok delivery) : lambdaHandler lower event = (do
    match ← runWithRetry lower delivery.bucket delivery.key delivery.info with
    | some v => return v
    | none => do
      recordOtherFallback delivery.info
      return fallbackAnswer delivery.info) := by
  obtain ⟨⟨bucket, key⟩, hparse, h⟩ := bind_eq_ok.1 h
  obtain ⟨info, hinfo, h⟩ := bind_eq_ok.1 h
  obtain ⟨_, hkind, h⟩ := bind_eq_ok.1 h
  cases h
  rw [lambdaHandler, hparse]
  show (Program.ofExcept (transcriptInfo key) >>= _) = _
  rw [hinfo]
  show (Program.ofExcept (require (info.kind = .outbound) (notHandled key)) >>= _) = _
  rw [hkind]
  rfl

/-- KeywordMatcher run alone for an outbound transcript writes the Response row of its call as the model of its outcomes
does, and returns the status that this returns, or raises what it raises. -/
theorem keywordMatcher_alone {event : Value} (hdelivery : deliveryOf event = .ok delivery) (lower : String → String)
    (script : Nat → Script) (fallback : Answer) :
    ((lambdaHandler lower event).run (respond script fallback) {}).2.writes = stored delivery
        (SafetyConfirmation.KeywordMatcher.lambdaHandler lower (outcomes script delivery) fallback).1 ∧
      ((lambdaHandler lower event).run (respond script fallback) {}).1.map (fun v => v.get? "voiceStatus") =
        (SafetyConfirmation.KeywordMatcher.lambdaHandler lower (outcomes script delivery) fallback).2.map
          fun status => some (.str status.name) := by
  have hlooped : LoopedAs delivery {}
      ((runWithRetry lower delivery.bucket delivery.key delivery.info).run (respond script fallback) {})
      (SafetyConfirmation.KeywordMatcher.runWithRetry lower (outcomes script delivery) 0 maxKeywordMatcherAttempts) :=
    loopedAs_retrying 2 {}
  rw [lambdaHandler_eq hdelivery, Program.run_bind, SafetyConfirmation.KeywordMatcher.lambdaHandler]
  revert hlooped
  generalize (runWithRetry lower delivery.bucket delivery.key delivery.info).run (respond script fallback) {} = run
  generalize SafetyConfirmation.KeywordMatcher.runWithRetry lower (outcomes script delivery) 0 maxKeywordMatcherAttempts =
    model
  rintro ⟨hwritten, hresult⟩
  obtain ⟨result, tape⟩ := run
  obtain ⟨writes, outcome⟩ := model
  dsimp only at hwritten hresult ⊢
  rw [List.nil_append] at hwritten
  obtain ⟨c, confidence, rfl, rfl⟩ | ⟨rfl, rfl⟩ | ⟨e, rfl, rfl⟩ := loopAgrees_cases hresult
  · exact ⟨hwritten, rfl⟩
  · have hperform : recordOtherFallback delivery.info = Program.perform (PipelineCall.updateOtherFallback (rowKey delivery)) := rfl
    have hwrite : respond script fallback tape (.updateOtherFallback (rowKey delivery)) =
      tape.write (rowKey delivery) .recordOtherFallback fallback := rfl
    have hadd : (tape.add [(rowKey delivery, .recordOtherFallback)]).writes =
        stored delivery (writes ++ [.recordOtherFallback]) := by
      rw [stored, List.map_append, ← stored, ← hwritten]
      rfl
    dsimp only
    rw [hperform, Program.run_bind, Program.run_perform, hwrite]
    cases fallback with
    | ok => exact ⟨hadd, rfl⟩
    | error e applied =>
      cases applied with
      | false => exact ⟨hwritten, rfl⟩
      | true => exact ⟨hadd, rfl⟩
  · exact ⟨hwritten, rfl⟩

/-- The classification is stored three times before the row gets `OTHER`. -/
theorem keywordMatcher_alone_throttled : ∃ delivery,
    deliveryOf (RecordingRelocator.objectCreated "transcripts" "transcripts/c1/e1/1.json") = .ok delivery ∧
    ((lambdaHandler id (RecordingRelocator.objectCreated "transcripts" "transcripts/c1/e1/1.json")).run
      (respond (fun _ => {
        getTranscript := .ok (some (.dict [("results", .dict [("transcripts", .list [.dict [("transcript", .str "ok")]])])]))
        getCycle := .ok (some (.dict [("dictionaryVersion", .int 1)]))
        queryHistory := .ok {}
        updateResponse := .ok
        updateTranscriptMeta := .error (.clientError "ThrottlingException") false }) .ok) {}).2.writes.length = 4 := by
  obtain ⟨delivery, hdelivery⟩ := exists_of_isOk (show (deliveryOf
    (RecordingRelocator.objectCreated "transcripts" "transcripts/c1/e1/1.json")).isOk = true by decide +kernel)
  refine ⟨delivery, hdelivery, ?_⟩
  rw [(keywordMatcher_alone hdelivery id _ .ok).1, stored, List.length_map]
  rfl

end KeywordMatcher

namespace TranscribeStarter

open SafetyConfirmation.TranscribeStarter (Settings Prepared deriveMockResponse maxTranscribeAttempts retryableErrorCodes
  transcribeExhaustedError)

/-- The answers of a run. -/
structure Script where
  startTranscriptionJob : Nat → Answer
  putTranscript : Answer
  putTranscriptMeta : Answer
  updateTranscribeFailed : Answer

/-- How often the run has paused, the transcript that the mock has stored, and the row of the recording. -/
structure Tape where
  tryIdx : Nat := 0
  transcript : Option Value := none
  row : Option TranscriptMeta

def isApplied : Answer → Bool
  | .ok => true
  | .error _ applied => applied

variable (script : Script)

def respond (tape : Tape) : (c : PipelineCall) → Except PyError c.Reply × Tape
  | .startTranscriptionJob .. => (resultOf (script.startTranscriptionJob tape.tryIdx), tape)
  | .sleep _ => (.ok (), { tape with tryIdx := tape.tryIdx + 1 })
  | .putTranscript _ payload =>
    (resultOf script.putTranscript, if isApplied script.putTranscript then { tape with transcript := some payload } else tape)
  | .putTranscriptMeta _ jobName transcriptS3Key =>
    (resultOf script.putTranscriptMeta,
      if isApplied script.putTranscriptMeta then
        { tape with row := (TranscriptMeta.recordJob jobName transcriptS3Key).run tape.row }
      else tape)
  | .updateTranscribeFailed _ => (resultOf script.updateTranscribeFailed, tape)
  | .utcNow | .putRecordingMeta .. | .getTranscript .. | .getCycle _ | .queryHistory _ | .updateResponse ..
  | .updateOtherFallback _ | .updateTranscriptMeta .. => (.error unscripted, tape)

/-- What the model of the outcomes says of the end of a run, and of the row. -/
def endOf (info : RecordingKeyInfo) (row : Option TranscriptMeta) :
    Except PyError Prepared → Except PyError Value × Option TranscriptMeta
  | .ok (.record jobName transcriptS3Key) =>
    let (row', result) :=
      SafetyConfirmation.TranscribeStarter.recordTranscriptMeta jobName transcriptS3Key row script.putTranscriptMeta
    (result.map fun _ => okAnswer info jobName, row')
  | .ok (.skipped callResultCode) => (.ok (skippedAnswer callResultCode), row)
  | .ok (.transcribeFailed .outbound) =>
    ((PipelineCall.settled (resultOf script.updateTranscribeFailed)).map fun _ => failedAnswer .outbound, row)
  | .ok (.transcribeFailed kind) => (.ok (failedAnswer kind), row)
  | .error e => (.error e, row)

theorem run_start (jobName : String) (job : TranscriptionJob) (tape : Tape) :
    (start jobName job).run (respond script) tape =
      (match script.startTranscriptionJob tape.tryIdx with
        | .ok => .ok jobName
        | .error e _ => if isConflict e then .ok jobName else .error e, tape) := by
  have hrespond : respond script tape (.startTranscriptionJob jobName job) =
    (resultOf (script.startTranscriptionJob tape.tryIdx), tape) := rfl
  rw [start, Program.run_tryCatch, PipelineCall.perform, Program.run_bind, Program.run_perform, hrespond]
  cases script.startTranscriptionJob tape.tryIdx with
  | ok => rfl
  | error e applied =>
    rw [resultOf]
    dsimp only
    split <;> rfl

/-- A start that raises, in the loop of the model. -/
theorem startFrom_of_error {startTranscriptionJob : Nat → Answer} {tryIdx : Nat} {e : PyError} {applied : Bool}
    (h : startTranscriptionJob tryIdx = .error e applied) (jobName : String) (left : Nat) :
    SafetyConfirmation.TranscribeStarter.startFrom jobName startTranscriptionJob tryIdx (left + 1) =
      if isConflict e then .ok jobName
      else if isRetryable e then
        SafetyConfirmation.TranscribeStarter.startFrom jobName startTranscriptionJob (tryIdx + 1) left
      else .error e := by
  rw [SafetyConfirmation.TranscribeStarter.startFrom, h]
  cases e with
  | clientError code =>
    simp only [isConflict, isRetryable, beq_iff_eq]
    rfl
  | _ => rfl

/-- How the loop of the program ends, where its model ends so. -/
def looped : Except PyError String → Except PyError (Option String)
  | .ok jobName => .ok (some jobName)
  | .error e => if e.errorName = transcribeExhaustedError.errorName then .ok none else .error e

/-- No start raises what the loop raises at its end. -/
def RaisesItsOwn (startTranscriptionJob : Nat → Answer) : Prop := ∀ tryIdx e applied,
  startTranscriptionJob tryIdx = .error e applied → e.errorName ≠ transcribeExhaustedError.errorName

/-- A try, and what comes after one that is to be retried. -/
theorem run_retrying_succ (hraises : RaisesItsOwn script.startTranscriptionJob) (jobName : String) (job : TranscriptionJob)
    {left : Nat} {tape : Tape} (hafter : ∃ tryIdx, ((if 0 < left then (do
        PipelineCall.perform (.sleep tape.tryIdx)
        Program.retrying isRetryable (start jobName job) (fun tryIdx => PipelineCall.perform (.sleep tryIdx)) (tape.tryIdx + 1)
          left)
      else return none : PipelineLambda (Option String)).run (respond script) tape) =
      (looped (SafetyConfirmation.TranscribeStarter.startFrom jobName script.startTranscriptionJob (tape.tryIdx + 1) left),
        { tape with tryIdx })) : ∃ tryIdx,
      (Program.retrying isRetryable (start jobName job) (fun tryIdx => PipelineCall.perform (.sleep tryIdx)) tape.tryIdx
        (left + 1)).run (respond script) tape =
      (looped (SafetyConfirmation.TranscribeStarter.startFrom jobName script.startTranscriptionJob tape.tryIdx (left + 1)),
        { tape with tryIdx }) := by
  rw [Program.retrying, Program.run_andThen, run_start]
  cases hstart : script.startTranscriptionJob tape.tryIdx with
  | ok =>
    refine ⟨tape.tryIdx, ?_⟩
    rw [SafetyConfirmation.TranscribeStarter.startFrom, hstart]
    rfl
  | error e applied =>
    rw [startFrom_of_error hstart]
    dsimp only
    by_cases hconflict : isConflict e = true
    · refine ⟨tape.tryIdx, ?_⟩
      rw [if_pos hconflict, if_pos hconflict]
      rfl
    · rw [if_neg hconflict, if_neg hconflict]
      dsimp only
      by_cases hretry : isRetryable e = true
      · rw [if_pos hretry, if_pos hretry]
        exact hafter
      · refine ⟨tape.tryIdx, ?_⟩
        rw [if_neg hretry, if_neg hretry, looped, if_neg (hraises _ _ _ hstart)]
        rfl

/-- The starts that are left. -/
theorem run_retrying (hraises : RaisesItsOwn script.startTranscriptionJob) (jobName : String) (job : TranscriptionJob)
    (left : Nat) (tape : Tape) : ∃ tryIdx,
      (Program.retrying isRetryable (start jobName job) (fun tryIdx => PipelineCall.perform (.sleep tryIdx)) tape.tryIdx
        (left + 1)).run (respond script) tape =
      (looped (SafetyConfirmation.TranscribeStarter.startFrom jobName script.startTranscriptionJob tape.tryIdx (left + 1)),
        { tape with tryIdx }) := by
  induction left generalizing tape with
  | zero =>
    apply run_retrying_succ script hraises
    exact ⟨tape.tryIdx, rfl⟩
  | succ left ih =>
    apply run_retrying_succ script hraises
    rw [if_pos (Nat.succ_pos left), PipelineCall.perform, Program.run_bind, Program.run_perform]
    exact ih { tape with tryIdx := tape.tryIdx + 1 }

theorem recordTranscriptMeta_eq (jobName transcriptS3Key : String) (row : Option TranscriptMeta) (answer : Answer) :
    SafetyConfirmation.TranscribeStarter.recordTranscriptMeta jobName transcriptS3Key row answer =
      (if isApplied answer then (TranscriptMeta.recordJob jobName transcriptS3Key).run row else row,
        PipelineCall.settled (resultOf answer)) := by
  cases answer with
  | ok => rfl
  | error e applied =>
    apply congrArg (Prod.mk _)
    rw [resultOf, PipelineCall.settled]
    cases e with
    | clientError code =>
      by_cases hfails : code = "ConditionalCheckFailedException"
      · subst hfails
        rfl
      · have hother : conditionalCheckFailed (.clientError code) = false := beq_eq_false_iff_ne.2 hfails
        rw [hother]
        split
        · rename_i hsame
          exact absurd (PyError.clientError.inj hsame) hfails
        · rfl
    | _ => rfl

/-- A write on a condition. -/
theorem run_conditional {tape tape' : Tape} {result : Except PyError Unit} (write : PipelineLambda Unit)
    (h : write.run (respond script) tape = (result, tape')) :
    (PipelineCall.conditional write).run (respond script) tape = (PipelineCall.settled result, tape') := by
  rw [PipelineCall.conditional, Program.run_tryCatch, h]
  cases result with
  | ok _ => rfl
  | error e =>
    dsimp only
    rw [PipelineCall.settled]
    split <;> rfl

variable {script} {settings : Settings} {delivery : Delivery} {event : Value} {jobName : String}

/-- A run that has the job ends with the row of it. -/
theorem run_recordTranscriptMeta (info : RecordingKeyInfo) (jobName : String) (tape : Tape) :
    let run := (recordTranscriptMeta info jobName >>= fun _ => return okAnswer info jobName).run (respond script) tape
    (run.1, run.2.row) = endOf script info tape.row (.ok (.record jobName info.transcriptS3Key)) ∧
      run.2.transcript = tape.transcript := by
  have hput : (PipelineCall.perform (.putTranscriptMeta (info.metaPk, info.metaSk) jobName info.transcriptS3Key)).run
      (respond script) tape = (resultOf script.putTranscriptMeta, if isApplied script.putTranscriptMeta then
        { tape with row := (TranscriptMeta.recordJob jobName info.transcriptS3Key).run tape.row } else tape) :=
    Program.run_perform _ _ _
  have hrow : ∀ {applied : Bool} {row : Option TranscriptMeta},
      (if applied then { tape with row } else tape).row = (if applied then row else tape.row) ∧
        (if applied then { tape with row } else tape).transcript = tape.transcript := by
    intro applied row
    cases applied <;> exact ⟨rfl, rfl⟩
  have hrecord := run_conditional script _ hput
  dsimp only
  rw [Program.run_bind, recordTranscriptMeta, hrecord, endOf, recordTranscriptMeta_eq, ← hrow.1]
  cases PipelineCall.settled (resultOf script.putTranscriptMeta) with
  | ok _ => exact ⟨rfl, hrow.2⟩
  | error e => exact ⟨rfl, hrow.2⟩

/-- What a run does once its event has been read. -/
theorem lambdaHandler_eq (h : deliveryOf event = .ok delivery) : lambdaHandler settings event =
    if settings.mockMode then handleMockEvent settings delivery.info
    else handleRecording delivery.bucket delivery.objectKey delivery.info := by
  obtain ⟨⟨bucket, key⟩, hparse, h⟩ := bind_eq_ok.1 h
  obtain ⟨info, hinfo, h⟩ := bind_eq_ok.1 h
  cases h
  rw [lambdaHandler, hparse]
  show (Program.ofExcept (recordingInfo key) >>= _) = _
  rw [hinfo]
  rfl

theorem model_eq (h : deliveryOf event = .ok delivery) (startTranscriptionJob : Nat → Answer) (putTranscript : Answer) :
    SafetyConfirmation.TranscribeStarter.lambdaHandler settings event startTranscriptionJob putTranscript =
      SafetyConfirmation.TranscribeStarter.prepare settings delivery.info startTranscriptionJob putTranscript := by
  obtain ⟨⟨bucket, key⟩, hparse, h⟩ := bind_eq_ok.1 h
  obtain ⟨info, hinfo, h⟩ := bind_eq_ok.1 h
  cases h
  rw [SafetyConfirmation.TranscribeStarter.lambdaHandler, hparse]
  cases key with
  | str objectKey =>
    dsimp only
    rw [demand_eq_ok.1 hinfo]
  | _ => cases hinfo

def textOf (body : Value) : Option SafetyConfirmation.TranscribeStarter.Transcript :=
  (Transcript.extractTranscriptPayload body).toOption

/-- A run ends as its model says, leaves the row that this leaves, and has stored the transcript that this stores. -/
structure EndsAs (script : Script) (info : RecordingKeyInfo) (row : Option TranscriptMeta)
    (run : Except PyError Value × Tape)
    (model : Except PyError Prepared × Option SafetyConfirmation.TranscribeStarter.Transcript) : Prop where
  ended : (run.1, run.2.row) = endOf script info row model.1
  stored : run.2.transcript.bind textOf = model.2

theorem endsAs_handleMockEvent (info : RecordingKeyInfo) (row : Option TranscriptMeta) (hmock : settings.mockMode = true) :
    EndsAs script info row ((handleMockEvent settings info).run (respond script) { row })
      (SafetyConfirmation.TranscribeStarter.prepare settings info script.startTranscriptionJob script.putTranscript) := by
  rw [SafetyConfirmation.TranscribeStarter.prepare, if_pos hmock, handleMockEvent]
  cases deriveMockResponse settings.digestByte info.employeeId with
  | error e => exact ⟨rfl, rfl⟩
  | ok response =>
    obtain ⟨callResultCode, transcript⟩ := response
    cases transcript with
    | none => exact ⟨rfl, rfl⟩
    | some text =>
      show EndsAs script info row ((Program.ofExcept (deriveTranscribeJobName info.metaPk info.metaSk) >>= _).run _ _) _
      rw [Program.run_bind, Program.run_ofExcept]
      cases deriveTranscribeJobName info.metaPk info.metaSk with
      | error e => exact ⟨rfl, rfl⟩
      | ok jobName =>
        have hput : respond script { row } (.putTranscript info.transcriptS3Key (buildMockTranscriptJson jobName text)) =
          (resultOf script.putTranscript, if isApplied script.putTranscript then
            { transcript := some (buildMockTranscriptJson jobName text), row } else { row }) := rfl
        have htext : textOf (buildMockTranscriptJson jobName text) = some (text, 1) := by
          rw [textOf, extractTranscriptPayload_mock]
          rfl
        dsimp only
        rw [PipelineCall.perform, Program.run_bind, Program.run_perform, hput]
        cases script.putTranscript with
        | ok =>
          obtain ⟨hended, hstored⟩ := @run_recordTranscriptMeta script info jobName
            { transcript := some (buildMockTranscriptJson jobName text), row }
          exact ⟨hended, (congrArg (Option.bind · textOf) hstored).trans htext⟩
        | error e applied =>
          cases applied with
          | false => exact ⟨rfl, rfl⟩
          | true => exact ⟨rfl, htext⟩

/-- The loop of the model returns the name it was given. -/
theorem startFrom_eq_ok {startTranscriptionJob : Nat → Answer} {tryIdx left : Nat} {name : String}
    (h : SafetyConfirmation.TranscribeStarter.startFrom jobName startTranscriptionJob tryIdx left = .ok name) :
    name = jobName := by
  induction left generalizing tryIdx with
  | zero => cases h
  | succ left ih =>
    cases hstart : startTranscriptionJob tryIdx with
    | ok =>
      rw [SafetyConfirmation.TranscribeStarter.startFrom, hstart] at h
      exact (Except.ok.inj h).symm
    | error e applied =>
      rw [startFrom_of_error hstart] at h
      split at h
      · exact (Except.ok.inj h).symm
      · split at h
        · exact ih h
        · cases h

theorem endsAs_handleRecording (bucket : Value) (objectKey : String) (info : RecordingKeyInfo) (row : Option TranscriptMeta)
    (hmock : settings.mockMode = false) (hraises : RaisesItsOwn script.startTranscriptionJob) :
    EndsAs script info row ((handleRecording bucket objectKey info).run (respond script) { row })
      (SafetyConfirmation.TranscribeStarter.prepare settings info script.startTranscriptionJob script.putTranscript) := by
  rw [SafetyConfirmation.TranscribeStarter.prepare, if_neg (Bool.eq_false_iff.1 hmock), handleRecording, Program.run_bind,
    Program.run_ofExcept]
  cases deriveTranscribeJobName info.metaPk info.metaSk with
  | error e => exact ⟨rfl, rfl⟩
  | ok jobName =>
    obtain ⟨tryIdx, hloop⟩ := run_retrying script hraises jobName (transcriptionJob bucket objectKey info) 2 { row }
    have hrun : (startTranscribeJobWithRetry jobName (transcriptionJob bucket objectKey info)).run (respond script) { row } =
        (looped (SafetyConfirmation.TranscribeStarter.startTranscribeJobWithRetry jobName script.startTranscriptionJob),
          { tryIdx, row }) := hloop
    dsimp only
    rw [Program.run_bind, hrun]
    cases hmodel : SafetyConfirmation.TranscribeStarter.startTranscribeJobWithRetry jobName
        script.startTranscriptionJob with
    | ok name =>
      have hname := startFrom_eq_ok hmodel
      subst hname
      obtain ⟨hended, hstored⟩ := @run_recordTranscriptMeta script info name { tryIdx, row }
      exact ⟨hended, congrArg (Option.bind · textOf) hstored⟩
    | error e =>
      dsimp only
      rw [looped]
      by_cases hexhausted : e.errorName = transcribeExhaustedError.errorName
      · rw [if_pos hexhausted, if_pos hexhausted]
        dsimp only
        cases hkind : info.kind with
        | inbound => exact ⟨rfl, rfl⟩
        | outbound =>
          have hupdate : (PipelineCall.perform (.updateTranscribeFailed (info.metaPk, info.employeeId))).run (respond script)
              { tryIdx, row } = (resultOf script.updateTranscribeFailed, { tryIdx, row }) := Program.run_perform _ _ _
          have hfailed := run_conditional script _ hupdate
          rw [if_pos rfl, recordTranscribeFailedOnResponse, Program.run_bind, hfailed]
          cases hsettled : PipelineCall.settled (resultOf script.updateTranscribeFailed) with
          | ok _ => exact ⟨by rw [endOf, hsettled]; rfl, rfl⟩
          | error e => exact ⟨by rw [endOf, hsettled]; rfl, rfl⟩
      · rw [if_neg hexhausted, if_neg hexhausted]
        exact ⟨rfl, rfl⟩

/-- TranscribeStarter run alone for a recording ends as the model of its outcomes says, leaves the row that this leaves, and
has stored the transcript that this stores. -/
theorem transcribeStarter_alone (hdelivery : deliveryOf event = .ok delivery) (settings : Settings)
    (hraises : RaisesItsOwn script.startTranscriptionJob) (row : Option TranscriptMeta) :
    EndsAs script delivery.info row ((lambdaHandler settings event).run (respond script) { row })
      (SafetyConfirmation.TranscribeStarter.lambdaHandler settings event script.startTranscriptionJob
        script.putTranscript) := by
  rw [lambdaHandler_eq hdelivery, model_eq hdelivery]
  cases hmock : settings.mockMode with
  | true => exact endsAs_handleMockEvent delivery.info row hmock
  | false => exact endsAs_handleRecording delivery.bucket delivery.objectKey delivery.info row hmock hraises

/-- The job is there on the second try, and so is the row. -/
theorem transcribeStarter_alone_conflict : ∃ delivery script,
    deliveryOf (RecordingRelocator.objectCreated "recordings" "recordings/c1/e1/1.wav") = .ok delivery ∧
    EndsAs script delivery.info (some {})
      ((lambdaHandler { mockMode := false, digestByte := fun _ => 0 }
        (RecordingRelocator.objectCreated "recordings" "recordings/c1/e1/1.wav")).run (respond script) { row := some {} })
      (SafetyConfirmation.TranscribeStarter.lambdaHandler { mockMode := false, digestByte := fun _ => 0 }
        (RecordingRelocator.objectCreated "recordings" "recordings/c1/e1/1.wav") script.startTranscriptionJob
        script.putTranscript) ∧
    (SafetyConfirmation.TranscribeStarter.startTranscribeJobWithRetry "job" script.startTranscriptionJob).isOk = true := by
  obtain ⟨delivery, hdelivery⟩ := exists_of_isOk (show (deliveryOf
    (RecordingRelocator.objectCreated "recordings" "recordings/c1/e1/1.wav")).isOk = true by decide +kernel)
  refine ⟨delivery, {
    startTranscriptionJob := fun tryIdx =>
      .error (.clientError (if tryIdx = 0 then "ThrottlingException" else "ConflictException")) false
    putTranscript := .ok
    putTranscriptMeta := .error (.clientError "ConditionalCheckFailedException") false
    updateTranscribeFailed := .ok }, hdelivery, transcribeStarter_alone hdelivery _ ?_ _, by decide⟩
  rintro tryIdx e applied ⟨⟩
  exact (by decide : "ClientError" ≠ "_TranscribeExhaustedError")

end TranscribeStarter

end Pipeline

end SafetyConfirmation
