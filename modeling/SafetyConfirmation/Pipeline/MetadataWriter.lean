import SafetyConfirmation.Connect.CallEnd
import SafetyConfirmation.Lib.Binary64
import SafetyConfirmation.Recording.KeyCodecs

/-!
# The RecordingMetadataWriter lambda

The calls of the three lambdas that a recording and its transcript start, and the first of them: one run for the S3 event of a
recording puts its RecordingMeta row, unless there is one.
-/

namespace SafetyConfirmation

open Checks Recording

/-! ### The calls -/

/-- A row of the RecordingMeta table, keyed by `cycleId` and `employeeIdSeq`. -/
structure RecordingMeta where
  employeeId : String
  s3Bucket : Value
  s3ObjectKey : String
  recordedAt : Instant
  fileSizeBytes : Nat
  durationSeconds : Nat
  kind : RecordingKind
  contactId : Option String

/-- What `StartTranscriptionJob` is asked for, besides settings. `MediaFileUri` is made of the bucket and the key. -/
structure TranscriptionJob where
  bucket : Value
  mediaKey : String
  outputKey : String

/-- What the lambdas of a recording ask of AWS. -/
inductive PipelineCall where
  | utcNow
  | sleep (tryIdx : Nat)
  | putRecordingMeta (key : String × String) (item : RecordingMeta)
  | startTranscriptionJob (jobName : String) (job : TranscriptionJob)
  | putTranscript (key : String) (payload : Value)
  | putTranscriptMeta (key : String × String) (jobName transcriptS3Key : String)
  | updateTranscribeFailed (key : String × String)
  | getTranscript (bucket : Value) (key : String)
  | getCycle (cycleId : String)
  | queryHistory (version : Int)
  | updateResponse (key : String × String) (c : Classification)
  | updateOtherFallback (key : String × String)
  | updateTranscriptMeta (key : String × String) (excerpt : String) (confidence : ℚ)

/-- A body that is no JSON is read as `none`, and so is an item that is not there. -/
abbrev PipelineCall.Reply : PipelineCall → Type
  | utcNow => Instant
  | getTranscript .. | getCycle _ => Option Value
  | queryHistory _ => KeywordLists
  | _ => Unit

abbrev PipelineLambda := Program PipelineCall PipelineCall.Reply PyError

abbrev PipelineCall.perform (c : PipelineCall) : PipelineLambda c.Reply := Program.perform c

/-- A write whose condition may fail, which is swallowed. -/
def PipelineCall.conditional (write : PipelineLambda Unit) : PipelineLambda Unit :=
  Program.tryCatch write fun e => if conditionalCheckFailed e then return () else throw e

/-- How such a write ends. -/
def PipelineCall.settled : Except PyError Unit → Except PyError Unit
  | .ok _ => .ok ()
  | .error e => if conditionalCheckFailed e then .ok () else .error e

theorem PipelineCall.conditional_wp {τ : Type} {spec : Program.Spec PipelineCall PipelineCall.Reply PyError τ}
    {post : Except PyError Unit → τ → Prop} {t : τ} {write : PipelineLambda Unit}
    (h : write.wp spec (fun result t' => post (settled result) t') t) : (conditional write).wp spec post t := by
  apply Program.wp_tryCatch.2
  apply Program.wp_mono ?_ h
  intro result t' hresult
  cases result with
  | ok _ => exact hresult
  | error e =>
    rw [settled] at hresult
    dsimp only
    split at hresult
    · rwa [if_pos ‹_›]
    · rwa [if_neg ‹_›]

def recordingInfo : Value → Except PyError RecordingKeyInfo
  | .str objectKey => demand (parseRecordingKey objectKey)
      (.valueError "recording key did not match expected schema: key=" (some (.str objectKey)))
  | objectKey => .error (.valueError "recording key did not match expected schema: key=" (some objectKey))

/-- The text of a key that was parsed. -/
def keyText : Value → String
  | .str objectKey => objectKey
  | _ => ""

namespace RecordingMetadataWriter

/-! ### Input -/

/-- `int(object_block.get("size", 0))`, 0 where that raises or is negative. -/
def sizeBytes (event : Value) : Nat :=
  let objectBlock := ((event.get? "detail").bind fun detail => detail.get? "object").getD .none
  ((CallEndHandler.intOf? ((objectBlock.get? "size").getD (.int 0))).getD 0).toNat

def parseEvent (event : Value) : Except PyError (Value × Value × Nat) := do
  let (bucket, objectKey) ← RecordingRelocator.parseEvent event
  return (bucket, objectKey, sizeBytes event)

/-! ### The item -/

def defaultBitrateKbps : Nat := 128

/-- The quotient is a double, and `round` goes to the even one of two. -/
def estimateDurationSeconds (fileSizeBytes bitrateKbps : Nat) : Nat :=
  if fileSizeBytes = 0 ∨ bitrateKbps = 0 then 0
  else
    let seconds := Binary64.quotient (fileSizeBytes * 8) (bitrateKbps * 1000)
    Binary64.roundHalfEven seconds.mantissa (2 ^ seconds.shift)

example : estimateDurationSeconds 40000 defaultBitrateKbps = 2 ∧ estimateDurationSeconds 24000 defaultBitrateKbps = 2 := by
  decide +kernel

def buildRecordingMetaItem (info : RecordingKeyInfo) (bucket : Value) (objectKey : String) (fileSizeBytes : Nat)
    (recordedAt : Instant) : RecordingMeta where
  employeeId := info.employeeId
  s3Bucket := bucket
  s3ObjectKey := objectKey
  recordedAt
  fileSizeBytes
  durationSeconds := estimateDurationSeconds fileSizeBytes defaultBitrateKbps
  kind := info.kind
  contactId := if info.kind = .inbound then some info.seqOrContact else none

/-! ### The put -/

def maxDdbAttempts : Nat := 3

def retryableDdbErrorCodes : List String := ["ThrottlingException", "ProvisionedThroughputExceededException"]

def isRetryable : PyError → Bool
  | .clientError code => retryableDdbErrorCodes.contains code
  | _ => false

def ddbWriteExhaustedError : PyError := .other "_DdbWriteExhaustedError"

def writeMetadataWithRetry (key : String × String) (item : RecordingMeta) : PipelineLambda Unit := do
  let put := PipelineCall.conditional (PipelineCall.perform (.putRecordingMeta key item))
  match ← Program.retrying isRetryable put (fun tryIdx => PipelineCall.perform (.sleep tryIdx)) 0 maxDdbAttempts with
  | some _ => return ()
  | none => throw ddbWriteExhaustedError

def RecordingKind.name : RecordingKind → String
  | .outbound => "outbound"
  | .inbound => "inbound"

def answer (info : RecordingKeyInfo) : Value :=
  .dict [("status", .str "ok"), ("metaPk", .str info.metaPk), ("metaSk", .str info.metaSk),
    ("kind", .str (RecordingKind.name info.kind))]

def lambdaHandler (event : Value) : PipelineLambda Value := do
  let (bucket, objectKey, fileSizeBytes) ← Program.ofExcept (parseEvent event)
  let info ← Program.ofExcept (recordingInfo objectKey)
  let recordedAt ← PipelineCall.perform .utcNow
  writeMetadataWithRetry (info.metaPk, info.metaSk)
    (buildRecordingMetaItem info bucket (keyText objectKey) fileSizeBytes recordedAt)
  return answer info

/-! ### How far a run has come -/

/-- What a run works on once its event has been read. -/
structure Delivery where
  bucket : Value
  objectKey : String
  fileSizeBytes : Nat
  info : RecordingKeyInfo

namespace Delivery

def key (delivery : Delivery) : String × String := (delivery.info.metaPk, delivery.info.metaSk)

def item (delivery : Delivery) (recordedAt : Instant) : RecordingMeta :=
  buildRecordingMetaItem delivery.info delivery.bucket delivery.objectKey delivery.fileSizeBytes recordedAt

end Delivery

def deliveryOf (event : Value) : Except PyError Delivery := do
  let (bucket, objectKey, fileSizeBytes) ← parseEvent event
  let info ← recordingInfo objectKey
  return { bucket, objectKey := keyText objectKey, fileSizeBytes, info }

/-- The time of the item is asked for once, before the first try. -/
inductive Stage where
  | asking
  | putting (recordedAt : Instant) (tryIdx : Nat)
  | pausing (recordedAt : Instant) (tryIdx : Nat)
  | exhausted
  | written
  | failed
  deriving DecidableEq

namespace Stage

def call? (delivery : Delivery) : Stage → Option PipelineCall
  | asking => some .utcNow
  | putting recordedAt _ => some (.putRecordingMeta delivery.key (delivery.item recordedAt))
  | pausing _ tryIdx => some (.sleep tryIdx)
  | exhausted | written | failed => none

def afterThrottle (recordedAt : Instant) (tryIdx : Nat) : Stage :=
  if tryIdx + 1 < maxDdbAttempts then pausing recordedAt tryIdx else exhausted

def afterPut (recordedAt : Instant) (tryIdx : Nat) (result : Except PyError Unit) : Stage :=
  match PipelineCall.settled result with
  | .ok _ => written
  | .error e => if isRetryable e then afterThrottle recordedAt tryIdx else failed

def advance : Stage → (c : PipelineCall) → Except PyError c.Reply → Stage
  | asking, .utcNow, .ok recordedAt => putting recordedAt 0
  | putting recordedAt tryIdx, .putRecordingMeta .., result => afterPut recordedAt tryIdx result
  | pausing recordedAt tryIdx, .sleep _, .ok _ => putting recordedAt (tryIdx + 1)
  | _, _, _ => failed

end Stage

def protocol (event : Value) : Program.Spec PipelineCall PipelineCall.Reply PyError Stage where
  allowed stage c := ∃ delivery, deliveryOf event = .ok delivery ∧ stage.call? delivery = some c
  advance := Stage.advance

/-- A run returns once the row is there, and raises otherwise. -/
def Ends (event : Value) : Except PyError Value → Stage → Prop
  | .ok v, stage => stage = .written ∧ ∃ delivery, deliveryOf event = .ok delivery ∧ v = answer delivery.info
  | .error _, stage => stage ≠ .written

variable {event : Value} {delivery : Delivery}

theorem writeMetadataWithRetry_wp (hdelivery : deliveryOf event = .ok delivery) (recordedAt : Instant) :
    (writeMetadataWithRetry delivery.key (delivery.item recordedAt)).wp (protocol event) (fun result stage =>
      match result with
      | .ok _ => stage = .written
      | .error _ => stage ≠ .written) (.putting recordedAt 0) := by
  apply Program.wp_bind.2
  apply @Program.wp_retrying_upTo _ _ _ _ _ _ _ _ (protocol event) _ maxDdbAttempts (Stage.putting recordedAt)
    (Stage.pausing recordedAt) .exhausted
  · intro tryIdx _
    apply PipelineCall.conditional_wp
    apply Program.wp_perform.2
    refine ⟨⟨delivery, hdelivery, rfl⟩, fun result _ => ?_⟩
    have hstage : (protocol event).advance (.putting recordedAt tryIdx)
        (.putRecordingMeta delivery.key (delivery.item recordedAt)) result = .afterPut recordedAt tryIdx result := rfl
    rw [hstage, Stage.afterPut]
    cases PipelineCall.settled result with
    | ok a => rfl
    | error e =>
      by_cases hretry : isRetryable e = true
      · simp only [hretry, if_true]
        rfl
      · simp only [hretry, Bool.false_eq_true, if_false]
        decide
  · intro tryIdx _
    apply Program.wp_perform.2
    refine ⟨⟨delivery, hdelivery, rfl⟩, fun result _ => ?_⟩
    cases result with
    | ok _ => rfl
    | error e =>
      show Stage.failed ≠ Stage.written
      decide
  · show Stage.exhausted ≠ Stage.written
    decide
  · decide

/-- Whatever is answered, a run puts its one item, three times at most, and returns only when the row is there. -/
theorem lambdaHandler_wp (event : Value) : (lambdaHandler event).wp (protocol event) (Ends event) .asking := by
  apply Program.wp_ofExcept_bind
  · intro e _
    show Stage.asking ≠ Stage.written
    decide
  · rintro ⟨bucket, objectKey, fileSizeBytes⟩ hparse
    apply Program.wp_ofExcept_bind
    · intro e _
      show Stage.asking ≠ Stage.written
      decide
    · intro info hinfo
      have hdelivery : deliveryOf event = .ok { bucket, objectKey := keyText objectKey, fileSizeBytes, info } := by
        rw [deliveryOf, hparse, ok_bind]
        dsimp only
        rw [hinfo, ok_bind]
        rfl
      apply Program.wp_perform_bind
      · exact ⟨_, hdelivery, rfl⟩
      · intro e _
        show Stage.failed ≠ Stage.written
        decide
      · intro recordedAt _
        apply Program.wp_bind.2
        apply Program.wp_mono ?_ (writeMetadataWithRetry_wp hdelivery recordedAt)
        intro result stage hresult
        cases result with
        | ok _ => exact ⟨hresult, _, hdelivery, rfl⟩
        | error e => exact hresult

end RecordingMetadataWriter

end SafetyConfirmation
