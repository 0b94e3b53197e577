import SafetyConfirmation.Cycle.Row
import SafetyConfirmation.Dictionary.Table
import SafetyConfirmation.Lib.CallLog
import SafetyConfirmation.Pipeline.KeywordMatcher
import SafetyConfirmation.Pipeline.TranscribeStarter

/-!
# The lambdas of a recording, at work together

Recordings of any calls are uploaded, each upload is told to RecordingMetadataWriter and TranscribeStarter once or more than
once, the jobs come to their ends, and each transcript is told to KeywordMatcher. In between cycles are started and closed,
the dictionary is published, and the other writers of the Response table come by.
-/

namespace SafetyConfirmation

namespace Pipeline

open Checks KeyedStore Interleaving
open Dictionary (History getDictionarySnapshot)

/-! ### The world -/

/-- The two buckets keep what was put into them, the latest first. A transcript that is no JSON is `none`. A job never
expires. The history table, which is queried in one call, is kept with its earlier states. -/
structure World where
  recordings : List (String × Nat) := []
  jobs : Store String TranscriptionJob := ∅
  transcripts : List (String × Option Value) := []
  recordingMeta : Store (String × String) RecordingMeta := ∅
  transcriptMeta : Store (String × String) TranscriptMeta := ∅
  responses : Store (String × String) Response := ∅
  cycles : Store String Cycle := ∅
  history : History := ∅
  past : List History := []

/-- An error that says something of the state: a condition does not hold, or a name is taken. -/
def isVerdict : PyError → Bool
  | .clientError code => ["ConditionalCheckFailedException", "ConflictException"].contains code
  | _ => false

/-- How a call goes: with which error, whether it took effect all the same, and when. A verdict may be that on a repetition
of the same call by the client library, so it comes only with the effect. -/
structure Environment where
  error : Option PyError := none
  applied : Bool := true
  now : Instant := 0
  verdict : error.any isVerdict = true → applied = true := by decide

/-- `_put_recording_meta`, on `attribute_not_exists(cycleId)`. -/
def recordingMetaPut (item : RecordingMeta) : Write RecordingMeta := .put item fun row => row.isNone

/-- What the read of a cycle returns, of the attributes that are used. -/
def cycleItem (cycleId : String) (cycle : Cycle) : Value :=
  .dict [("cycleId", .str cycleId), ("dictionaryVersion", .decimal cycle.dictionaryVersion)]

namespace World

def dictionaryVersion (world : World) (cycleId : String) : Option Int :=
  (world.cycles.lookup cycleId).map Cycle.dictionaryVersion

def answer {α : Type} (world : World) (environment : Environment) (result : Except PyError α) : Except PyError α × World :=
  match environment.error with
  | none => (result, world)
  | some e => (.error e, world)

def carryOut (world : World) (environment : Environment) (done : World) : Except PyError Unit × World :=
  match environment.error with
  | none => (.ok (), done)
  | some e => (.error e, if environment.applied then done else world)

/-- What takes effect where its condition holds. -/
def attempt (world : World) (environment : Environment) (condition : Bool) (refusal : String) (done : World) :
    Except PyError Unit × World :=
  if condition then world.carryOut environment done else world.answer environment (.error (.clientError refusal))

def getTranscript (world : World) (key : String) : Except PyError (Option Value) :=
  match world.transcripts.lookup key with
  | some body => .ok body
  | none => .error (.clientError "NoSuchKey")

def respond (world : World) (environment : Environment) : (c : PipelineCall) → Except PyError c.Reply × World
  | .utcNow => (.ok environment.now, world)
  | .sleep _ => (.ok (), world)
  | .putRecordingMeta key item =>
    world.attempt environment ((recordingMetaPut item).condition (world.recordingMeta.lookup key))
      "ConditionalCheckFailedException" { world with recordingMeta := world.recordingMeta.write key (recordingMetaPut item) }
  | .startTranscriptionJob jobName job =>
    world.attempt environment (world.jobs.lookup jobName).isNone "ConflictException"
      { world with jobs := world.jobs.set jobName (some job) }
  | .putTranscript key payload =>
    world.carryOut environment { world with transcripts := (key, some payload) :: world.transcripts }
  | .putTranscriptMeta key jobName transcriptS3Key =>
    world.attempt environment ((TranscriptMeta.recordJob jobName transcriptS3Key).condition (world.transcriptMeta.lookup key))
      "ConditionalCheckFailedException"
      { world with transcriptMeta := world.transcriptMeta.write key (TranscriptMeta.recordJob jobName transcriptS3Key) }
  | .updateTranscribeFailed key =>
    world.attempt environment (Response.recordTranscribeFailed.condition (world.responses.lookup key))
      "ConditionalCheckFailedException" { world with responses := world.responses.write key Response.recordTranscribeFailed }
  | .getTranscript _ key => world.answer environment (world.getTranscript key)
  | .getCycle cycleId => world.answer environment (.ok ((world.cycles.lookup cycleId).map (cycleItem cycleId)))
  | .queryHistory version => world.answer environment (.ok (getDictionarySnapshot world.history version))
  | .updateResponse key c =>
    world.carryOut environment { world with responses := world.responses.write key (Response.recordResponse c) }
  | .updateOtherFallback key =>
    world.carryOut environment { world with responses := world.responses.write key Response.recordOtherFallback }
  | .updateTranscriptMeta key excerpt confidence =>
    world.carryOut environment
      { world with transcriptMeta := world.transcriptMeta.write key (TranscriptMeta.recordExcerpt excerpt confidence) }

end World

/-! ### The system -/

/-- The two lambdas of the recordings and their events, and what they are told of. -/
structure Deployment where
  settings : TranscribeStarter.Settings
  lower : String → String
  recordingsBucketName : String
  transcriptsBucketName : String

/-- The event of S3 for an object, with its size. -/
def objectCreated (bucket key : String) (fileSizeBytes : Nat) : Value :=
  .dict [("detail", .dict [("bucket", .dict [("name", .str bucket)]),
    ("object", .dict [("key", .str key), ("size", .int fileSizeBytes)])])]

inductive Request where
  | writeMetadata (key : String) (fileSizeBytes : Nat)
  | transcribe (key : String) (fileSizeBytes : Nat)
  | classify (key : String) (fileSizeBytes : Nat)

/-- The writers of a Response row that do not come from a transcript. The contact flow has one result for a call. -/
inductive OtherWrite where
  | initAttempt (dictionaryVersion : Int)
  | finalizeOne (finalStatus : VoiceStatus) (now : Instant)
  | finalizeOneError (now : Instant)
  | recordSuccess (contactId : String) (now : Instant)
  | recordError (now : Instant)
  | recordCallEnd (now : Instant)
  | putInbound
  | appendInbound
  | forceResponseUnreachable

def OtherWrite.write : OtherWrite → Write Response
  | initAttempt dictionaryVersion => Response.initAttempt dictionaryVersion
  | finalizeOne finalStatus now => Response.finalizeOne finalStatus now
  | finalizeOneError now => Response.finalizeOneError now
  | recordSuccess contactId now => Response.recordSuccess contactId now
  | recordError now => Response.recordError now
  | recordCallEnd now => Response.recordCallEnd "RECORDED" now
  | putInbound => Response.putInbound
  | appendInbound => Response.appendInbound
  | forceResponseUnreachable => Response.forceResponseUnreachable

/-- The later writes of a Cycle row. -/
inductive CycleWrite where
  | setStartFailed
  | setCycleStatus (newStatus : CycleStatus) (now : Instant)
  | setSlaWarningFlag

def CycleWrite.write : CycleWrite → Write Cycle
  | setStartFailed => Cycle.setStartFailed
  | setCycleStatus newStatus now => Cycle.setCycleStatus newStatus now
  | setSlaWarningFlag => Cycle.setSlaWarningFlag

inductive Move where
  | upload (key : String) (fileSizeBytes : Nat)
  | complete (jobName : String) (body : Option Value)
  | createCycle (cycleId : String) (cycle : Cycle)
  | writeCycle (cycleId : String) (w : CycleWrite)
  | publish (history : History)
  | write (key : String × String) (w : OtherWrite)

/-- The events of S3 come after the object, any number of times. -/
def arrive (world : World) : Request → Option World
  | .writeMetadata key fileSizeBytes | .transcribe key fileSizeBytes =>
    if (key, fileSizeBytes) ∈ world.recordings then some world else none
  | .classify key _ => if (world.transcripts.lookup key).isSome then some world else none

def World.move (world : World) : Move → Option World
  | .upload key fileSizeBytes => some { world with recordings := (key, fileSizeBytes) :: world.recordings }
  | .complete jobName body =>
    (world.jobs.lookup jobName).map fun job => { world with transcripts := (job.outputKey, body) :: world.transcripts }
  | .createCycle cycleId cycle =>
    if (world.cycles.lookup cycleId).isNone then some { world with cycles := world.cycles.set cycleId (some cycle) } else none
  | .writeCycle cycleId w => some { world with cycles := world.cycles.write cycleId w.write }
  | .publish history => some { world with history, past := world.history :: world.past }
  | .write key w => some { world with responses := world.responses.write key w.write }

variable (deployment : Deployment)

def Request.event : Request → Value
  | .writeMetadata key fileSizeBytes | .transcribe key fileSizeBytes =>
    objectCreated deployment.recordingsBucketName key fileSizeBytes
  | .classify key fileSizeBytes => objectCreated deployment.transcriptsBucketName key fileSizeBytes

def handler (request : Request) : PipelineLambda Value :=
  match request with
  | .writeMetadata .. => RecordingMetadataWriter.lambdaHandler (request.event deployment)
  | .transcribe .. => TranscribeStarter.lambdaHandler deployment.settings (request.event deployment)
  | .classify .. => KeywordMatcher.lambdaHandler deployment.lower (request.event deployment)

def system : Arrivals.System Request PipelineCall PipelineCall.Reply PyError Value Environment World Move where
  service := { respond := World.respond, handler := handler deployment }
  arrive := arrive
  move := World.move

abbrev State := Pool Request PipelineCall PipelineCall.Reply PyError Value Environment World

abbrev Label := Arrivals.Label Request Environment Move

abbrev step := Arrivals.step (system deployment)

/-! ### What a thread has done -/

/-- How far a thread has come, in the stages of its lambda. -/
abbrev Knowledge := RecordingMetadataWriter.Stage × TranscribeStarter.Stage × KeywordMatcher.Stage

def start : Knowledge := (.asking, TranscribeStarter.start₀ deployment.settings, .reading 0)

def spec (request : Request) : Program.Spec PipelineCall PipelineCall.Reply PyError Knowledge where
  allowed t c :=
    match request with
    | .writeMetadata .. => (RecordingMetadataWriter.protocol (request.event deployment)).allowed t.1 c
    | .transcribe .. => (TranscribeStarter.protocol deployment.settings (request.event deployment)).allowed t.2.1 c
    | .classify .. => (KeywordMatcher.protocol deployment.lower (request.event deployment)).allowed t.2.2 c
  advance t c answer := (t.1.advance c answer, t.2.1.advance c answer, t.2.2.advance deployment.lower c answer)

def Ends (request : Request) (result : Except PyError Value) (t : Knowledge) : Prop :=
  match request with
  | .writeMetadata .. => RecordingMetadataWriter.Ends (request.event deployment) result t.1
  | .transcribe .. => TranscribeStarter.EndsAt deployment.settings (request.event deployment) result t.2.1
  | .classify .. => KeywordMatcher.Ends (request.event deployment) result t.2.2

variable {deployment}

theorem handler_wp (request : Request) :
    (handler deployment request).wp (spec deployment request) (Ends deployment request) (start deployment) := by
  cases request with
  | writeMetadata key fileSizeBytes =>
    have h := RecordingMetadataWriter.lambdaHandler_wp ((Request.writeMetadata key fileSizeBytes).event deployment)
    exact Program.wp_of_view (t := start deployment) Prod.fst (fun _ _ h => h) (fun _ _ _ _ => trivial) (fun _ _ _ => rfl) h
  | transcribe key fileSizeBytes =>
    have h := TranscribeStarter.lambdaHandler_wp deployment.settings ((Request.transcribe key fileSizeBytes).event deployment)
    exact @Program.wp_of_view _ _ _ _ _ _ _ (spec deployment (.transcribe key fileSizeBytes)) (fun t => t.2.1)
      (fun _ _ h => h) (fun _ _ _ _ => trivial) (fun _ _ _ => rfl) _ _ (start deployment) h
  | classify key fileSizeBytes =>
    have h := KeywordMatcher.lambdaHandler_wp deployment.lower ((Request.classify key fileSizeBytes).event deployment)
    exact @Program.wp_of_view _ _ _ _ _ _ _ (spec deployment (.classify key fileSizeBytes)) (fun t => t.2.2)
      (fun _ _ h => h) (fun _ _ _ _ => trivial) (fun _ _ _ => rfl) _ _ (start deployment) h

/-- What thread `i` knows from the calls it has made. -/
def knowledge (deployment : Deployment) (request : Request) (p : State) (i : Nat) : Knowledge :=
  reached (spec deployment request) (start deployment) i p.log

end Pipeline

end SafetyConfirmation
