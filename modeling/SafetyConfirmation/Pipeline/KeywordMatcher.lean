import SafetyConfirmation.Pipeline.MetadataWriter

/-!
# KeywordMatcher, call by call

One run for the S3 event of a transcript: read it, find the dictionary of its cycle, classify it, and write the Response row
and the TranscriptMeta row. The whole is tried again when one of the calls is throttled, and after three tries the row is
given `OTHER`.
-/

namespace SafetyConfirmation

namespace Pipeline

namespace KeywordMatcher

open Checks Recording
open SafetyConfirmation.KeywordMatcher (maxKeywordMatcherAttempts isRetryable classification)
open Transcript (isDict extractTranscriptPayload)

/-! ### Input -/

def parseEvent : Value → Except PyError (Value × Value) := RecordingRelocator.parseEvent

def transcriptInfo : Value → Except PyError RecordingKeyInfo
  | .str key => demand (parseTranscriptKey key)
      (.valueError "transcript key did not match expected schema: key=" (some (.str key)))
  | key => .error (.valueError "transcript key did not match expected schema: key=" (some key))

/-! ### The reads -/

def place (bucket : Value) (key : String) : Value := .dict [("bucket", bucket), ("key", .str key)]

def bodyOf (bucket : Value) (key : String) (body : Option Value) : Except PyError Value := do
  let body ← demand body (.valueError "transcript body is not valid JSON:" (some (place bucket key)))
  require (isDict body = true) (.valueError
    ("transcript body must decode to a JSON object; got " ++ body.typeName ++ ":") (some (place bucket key)))
  return body

def readTranscriptBody (bucket : Value) (key : String) : PipelineLambda Value := do
  let body ← PipelineCall.perform (.getTranscript bucket key)
  Program.ofExcept (bodyOf bucket key body)

/-- `int(str(v))`, `none` for a `ValueError`. -/
def intOfText? : Value → Option Int
  | .str s => Decimals.intOf s.toList
  | .int n => some n
  | .decimal q => if q.den = 1 then some q.num else none
  | _ => none

/-- `item.get(key)`, where `None` counts as nothing. -/
def fieldOf (item : Value) (key : String) : Option Value :=
  match item.get? key with
  | some .none => none
  | field => field

def dictionaryVersionOf (cycleId : String) (item : Option Value) : Except PyError Int := do
  let item ← demand item (.valueError "Cycle row not found in CycleTable; cycleId=" (some (.str cycleId)))
  let raw ← demand (fieldOf item "dictionaryVersion")
    (.valueError "Cycle row missing dictionaryVersion; cycleId=" (some (.dict [("cycleId", .str cycleId), ("item", item)])))
  demand (intOfText? raw) (.valueError "Cycle.dictionaryVersion not int-coercible; cycleId="
    (some (.dict [("cycleId", .str cycleId), ("value", raw)])))

def resolveDictionaryVersion (cycleId : String) : PipelineLambda Int := do
  let item ← PipelineCall.perform (.getCycle cycleId)
  Program.ofExcept (dictionaryVersionOf cycleId item)

/-- What a body is read as. -/
def payloadOf (bucket : Value) (key : String) (body : Option Value) : Except PyError (String × ℚ) := do
  let body ← bodyOf bucket key body
  extractTranscriptPayload body

/-! ### One try -/

def okAnswer (info : RecordingKeyInfo) (c : Classification) (confidence : ℚ) : Value :=
  .dict [("status", .str "ok"), ("cycleId", .str info.metaPk), ("employeeId", .str info.employeeId),
    ("seq", .str info.seqOrContact), ("voiceStatus", .str c.voiceStatus.name),
    ("matchedKeywords", .list (c.matchedKeywords.map .str)), ("dictionaryVersion", .int c.dictionaryVersion),
    ("confidence", .float confidence)]

def fallbackAnswer (info : RecordingKeyInfo) : Value :=
  .dict [("status", .str "fallback"), ("cycleId", .str info.metaPk), ("employeeId", .str info.employeeId),
    ("seq", .str info.seqOrContact), ("voiceStatus", .str "OTHER"), ("matchedKeywords", .list []),
    ("reason", .str "MATCHING_FAILED")]

variable (lower : String → String)

def runMatchingPipeline (bucket : Value) (key : String) (info : RecordingKeyInfo) : PipelineLambda Value := do
  let body ← readTranscriptBody bucket key
  let (text, confidence) ← Program.ofExcept (extractTranscriptPayload body)
  let dictionaryVersion ← resolveDictionaryVersion info.metaPk
  let dictionary ← PipelineCall.perform (.queryHistory dictionaryVersion)
  let c := classification lower text dictionary dictionaryVersion
  PipelineCall.perform (.updateResponse (info.metaPk, info.employeeId) c)
  PipelineCall.perform (.updateTranscriptMeta (info.metaPk, info.metaSk) c.excerpt confidence)
  return okAnswer info c confidence

/-- `_run_with_retry`, with `none` for `_KeywordMatcherExhaustedError`. -/
def runWithRetry (bucket : Value) (key : String) (info : RecordingKeyInfo) : PipelineLambda (Option Value) :=
  Program.retrying isRetryable (runMatchingPipeline lower bucket key info)
    (fun tryIdx => PipelineCall.perform (.sleep tryIdx)) 0 maxKeywordMatcherAttempts

def recordOtherFallback (info : RecordingKeyInfo) : PipelineLambda Unit :=
  PipelineCall.perform (.updateOtherFallback (info.metaPk, info.employeeId))

def notHandled (key : Value) : PyError :=
  .valueError "inbound transcripts are not handled in Phase 8.1; key=" (some key)

def lambdaHandler (event : Value) : PipelineLambda Value := do
  let (bucket, key) ← Program.ofExcept (parseEvent event)
  let info ← Program.ofExcept (transcriptInfo key)
  Program.ofExcept (require (info.kind = .outbound) (notHandled key))
  match ← runWithRetry lower bucket (keyText key) info with
  | some v => return v
  | none => do
    recordOtherFallback info
    return fallbackAnswer info

/-! ### How far a run has come -/

/-- What a run works on once its event has been read. -/
structure Delivery where
  bucket : Value
  key : String
  info : RecordingKeyInfo

def deliveryOf (event : Value) : Except PyError Delivery := do
  let (bucket, key) ← parseEvent event
  let info ← transcriptInfo key
  require (info.kind = .outbound) (notHandled key)
  return { bucket, key := keyText key, info }

/-- A try keeps what it has read: the text with its confidence, the version, the classification. -/
inductive Stage where
  | reading (tryIdx : Nat)
  | resolving (tryIdx : Nat) (text : String) (confidence : ℚ)
  | querying (tryIdx : Nat) (text : String) (confidence : ℚ) (dictionaryVersion : Int)
  | responding (tryIdx : Nat) (c : Classification) (confidence : ℚ)
  | augmenting (tryIdx : Nat) (c : Classification) (confidence : ℚ)
  | matched (c : Classification) (confidence : ℚ)
  | pausing (tryIdx : Nat)
  | exhausted
  | fallenBack
  | failed
  deriving DecidableEq

namespace Stage

def call? (delivery : Delivery) : Stage → Option PipelineCall
  | reading _ => some (.getTranscript delivery.bucket delivery.key)
  | resolving .. => some (.getCycle delivery.info.metaPk)
  | querying _ _ _ dictionaryVersion => some (.queryHistory dictionaryVersion)
  | responding _ c _ => some (.updateResponse (delivery.info.metaPk, delivery.info.employeeId) c)
  | augmenting _ c confidence =>
    some (.updateTranscriptMeta (delivery.info.metaPk, delivery.info.metaSk) c.excerpt confidence)
  | pausing tryIdx => some (.sleep tryIdx)
  | exhausted => some (.updateOtherFallback (delivery.info.metaPk, delivery.info.employeeId))
  | matched .. | fallenBack | failed => none

/-- After a call of a try that has raised. -/
def afterError (tryIdx : Nat) (e : PyError) : Stage :=
  if isRetryable e then if tryIdx + 1 < maxKeywordMatcherAttempts then pausing tryIdx else exhausted else failed

/-- A try goes on with what a call has come to. -/
def onward {α : Type} (tryIdx : Nat) (result : Except PyError α) (next : α → Stage) : Stage :=
  match result with
  | .ok a => next a
  | .error e => afterError tryIdx e

def advance : Stage → (c : PipelineCall) → Except PyError c.Reply → Stage
  | reading tryIdx, .getTranscript bucket key, result =>
    onward tryIdx (result >>= payloadOf bucket key) fun read => resolving tryIdx read.1 read.2
  | resolving tryIdx text confidence, .getCycle cycleId, result =>
    onward tryIdx (result >>= dictionaryVersionOf cycleId) (querying tryIdx text confidence)
  | querying tryIdx text confidence dictionaryVersion, .queryHistory _, result =>
    onward tryIdx result fun dictionary => responding tryIdx (classification lower text dictionary dictionaryVersion) confidence
  | responding tryIdx c confidence, .updateResponse .., result => onward tryIdx result fun _ => augmenting tryIdx c confidence
  | augmenting tryIdx c confidence, .updateTranscriptMeta .., result => onward tryIdx result fun _ => matched c confidence
  | pausing tryIdx, .sleep _, .ok _ => reading (tryIdx + 1)
  | exhausted, .updateOtherFallback _, .ok _ => fallenBack
  | _, _, _ => failed

end Stage

def protocol (event : Value) : Program.Spec PipelineCall PipelineCall.Reply PyError Stage where
  allowed stage c := ∃ delivery, deliveryOf event = .ok delivery ∧ stage.call? delivery = some c
  advance := Stage.advance lower

/-- How a run ends. -/
def Ends (event : Value) : Except PyError Value → Stage → Prop
  | .ok v, stage => ∃ delivery, deliveryOf event = .ok delivery ∧
      ((∃ c confidence, stage = .matched c confidence ∧ v = okAnswer delivery.info c confidence) ∨
        (stage = .fallenBack ∧ v = fallbackAnswer delivery.info))
  | .error _, stage => (∀ c confidence, stage ≠ .matched c confidence) ∧ stage ≠ .fallenBack

/-- How a try ends. -/
def TryEnds (info : RecordingKeyInfo) (tryIdx : Nat) : Except PyError Value → Stage → Prop
  | .ok v, stage => ∃ c confidence, stage = .matched c confidence ∧ v = okAnswer info c confidence
  | .error e, stage => stage = .afterError tryIdx e

variable {lower} {event : Value} {delivery : Delivery}

theorem bind_ok {α : Type} (result : Except PyError α) : result >>= Except.ok = result := by
  cases result <;> rfl

/-- A call of a try, and what is made of its answer. -/
theorem wp_of_onward {α : Type} {c : PipelineCall} {read : c.Reply → Except PyError α} {next : α → Stage}
    {rest : α → PipelineLambda Value} {tryIdx : Nat} {info : RecordingKeyInfo} {stage : Stage}
    (hallowed : (protocol lower event).allowed stage c)
    (hadvance : ∀ result, stage.advance lower c result = .onward tryIdx (result >>= read) next)
    (hrest : ∀ a, (rest a).wp (protocol lower event) (TryEnds info tryIdx) (next a)) :
    (PipelineCall.perform c >>= fun r => Program.ofExcept (read r) >>= rest).wp (protocol lower event)
      (TryEnds info tryIdx) stage := by
  apply Program.wp_perform_bind hallowed
  · intro e _
    exact hadvance (.error e)
  · intro r _
    have hstage : (protocol lower event).advance stage c (.ok r) = .onward tryIdx (read r) next := hadvance (.ok r)
    rw [hstage]
    apply Program.wp_ofExcept_bind
    · intro e herror
      rw [herror]
      rfl
    · intro a hread
      rw [hread]
      exact hrest a

theorem wp_of_call {c : PipelineCall} {next : c.Reply → Stage} {rest : c.Reply → PipelineLambda Value} {tryIdx : Nat}
    {info : RecordingKeyInfo} {stage : Stage} (hallowed : (protocol lower event).allowed stage c)
    (hadvance : ∀ result, stage.advance lower c result = .onward tryIdx result next)
    (hrest : ∀ r, (rest r).wp (protocol lower event) (TryEnds info tryIdx) (next r)) :
    (PipelineCall.perform c >>= rest).wp (protocol lower event) (TryEnds info tryIdx) stage :=
  @wp_of_onward _ _ _ _ .ok next rest _ _ _ hallowed (fun result => by rw [bind_ok, hadvance]) hrest

/-- A try, with what it reads of each answer. -/
theorem runMatchingPipeline_eq (bucket : Value) (key : String) (info : RecordingKeyInfo) :
    runMatchingPipeline lower bucket key info = do
      let body ← PipelineCall.perform (.getTranscript bucket key)
      let read ← Program.ofExcept (payloadOf bucket key body)
      let item ← PipelineCall.perform (.getCycle info.metaPk)
      let dictionaryVersion ← Program.ofExcept (dictionaryVersionOf info.metaPk item)
      let dictionary ← PipelineCall.perform (.queryHistory dictionaryVersion)
      let c := classification lower read.1 dictionary dictionaryVersion
      PipelineCall.perform (.updateResponse (info.metaPk, info.employeeId) c)
      PipelineCall.perform (.updateTranscriptMeta (info.metaPk, info.metaSk) c.excerpt read.2)
      return okAnswer info c read.2 := by
  simp only [runMatchingPipeline, readTranscriptBody, resolveDictionaryVersion, payloadOf, Program.ofExcept_bind,
    bind_assoc]

theorem runMatchingPipeline_wp (hdelivery : deliveryOf event = .ok delivery) (tryIdx : Nat) :
    (runMatchingPipeline lower delivery.bucket delivery.key delivery.info).wp (protocol lower event)
      (TryEnds delivery.info tryIdx) (.reading tryIdx) := by
  rw [runMatchingPipeline_eq]
  apply wp_of_onward ⟨delivery, hdelivery, rfl⟩ (fun _ => rfl)
  intro read
  apply wp_of_onward ⟨delivery, hdelivery, rfl⟩ (fun _ => rfl)
  intro dictionaryVersion
  apply wp_of_call ⟨delivery, hdelivery, rfl⟩ (fun _ => rfl)
  intro dictionary
  apply wp_of_call ⟨delivery, hdelivery, rfl⟩ (fun _ => rfl)
  intro _
  apply wp_of_call ⟨delivery, hdelivery, rfl⟩ (fun _ => rfl)
  intro _
  exact ⟨_, _, rfl, rfl⟩

theorem runWithRetry_wp (hdelivery : deliveryOf event = .ok delivery) :
    (runWithRetry lower delivery.bucket delivery.key delivery.info).wp (protocol lower event) (fun result stage =>
      match result with
      | .ok (some v) => ∃ c confidence, stage = .matched c confidence ∧ v = okAnswer delivery.info c confidence
      | .ok none => stage = .exhausted
      | .error _ => stage = .failed) (.reading 0) := by
  apply @Program.wp_retrying_upTo _ _ _ _ _ _ _ _ (protocol lower event) _ maxKeywordMatcherAttempts Stage.reading
    Stage.pausing .exhausted
  · intro tryIdx _
    apply Program.wp_mono ?_ (runMatchingPipeline_wp hdelivery tryIdx)
    intro result stage hresult
    cases result with
    | ok v => exact hresult
    | error e =>
      have hstage : stage = Stage.afterError tryIdx e := hresult
      rw [hstage, Stage.afterError]
      dsimp only
      split
      · rfl
      · rfl
  · intro tryIdx _
    apply Program.wp_perform.2
    refine ⟨⟨delivery, hdelivery, rfl⟩, fun result _ => ?_⟩
    cases result with
    | ok _ => rfl
    | error e => rfl
  · rfl
  · decide

/-- Whatever is answered, a run reads and writes for the call of its own transcript only, and returns the classification
that it has written, or `OTHER`. -/
theorem lambdaHandler_wp (lower : String → String) (event : Value) :
    (lambdaHandler lower event).wp (protocol lower event) (Ends event) (.reading 0) := by
  have hunread : ∀ e, Ends event (.error e) (.reading 0) := fun e => ⟨by simp, by simp⟩
  apply Program.wp_ofExcept_bind (fun e _ => hunread e)
  rintro ⟨bucket, key⟩ hparse
  apply Program.wp_ofExcept_bind (fun e _ => hunread e)
  intro info hinfo
  apply Program.wp_ofExcept_bind (fun e _ => hunread e)
  intro _ hkind
  have hdelivery : deliveryOf event = .ok { bucket, key := keyText key, info } := by
    rw [deliveryOf, hparse, ok_bind]
    dsimp only
    rw [hinfo, ok_bind, hkind, ok_bind]
    rfl
  have htries := @runWithRetry_wp lower _ _ hdelivery
  apply Program.wp_bind.2
  apply Program.wp_mono ?_ htries
  intro result stage hresult
  match result with
  | .error e =>
    have hstage : stage = .failed := hresult
    subst hstage
    exact ⟨by simp, by simp⟩
  | .ok (some v) =>
    obtain ⟨c, confidence, rfl, rfl⟩ := hresult
    exact ⟨_, hdelivery, .inl ⟨c, confidence, rfl, rfl⟩⟩
  | .ok none =>
    have hstage : stage = .exhausted := hresult
    subst hstage
    apply Program.wp_perform_bind
    · exact ⟨_, hdelivery, rfl⟩
    · intro e _
      exact ⟨by simp [protocol, Stage.advance], by simp [protocol, Stage.advance]⟩
    · intro r _
      exact ⟨_, hdelivery, .inr ⟨rfl, rfl⟩⟩

end KeywordMatcher

end Pipeline

end SafetyConfirmation
