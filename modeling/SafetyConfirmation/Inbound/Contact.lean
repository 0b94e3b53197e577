import SafetyConfirmation.Lib.KeyedStore
import SafetyConfirmation.Data.Calendar
import SafetyConfirmation.Data.VoiceStatus
import SafetyConfirmation.Inbound.CycleSelection

/-!
# The Inbound_Contact row

One row for each inbound call, put by InboundHandler's identify step and completed by its finalize step.
-/

namespace SafetyConfirmation

open KeyedStore

/-- A row of the Inbound_Contact table, keyed by `contactId`. -/
structure InboundContact where
  receivedAt : Instant
  callerNumber : String
  callerNumberMasked : String
  flow : InboundFlow
  employeeId : Option String := none
  cycleId : Option String := none
  callResultCode : Option String := none
  recordingS3Key : Option String := none
  transcriptS3Key : Option String := none
  voiceStatus : Option VoiceStatus := none
  deriving DecidableEq

/-- `mask_phone`: all but the last four characters, and the leading `+`, become `*`. -/
def maskPhone (s : String) : String :=
  match s.toList with
  | '+' :: body =>
    if body.length ≤ 4 then s
    else String.ofList ('+' :: (List.replicate (body.length - 4) '*' ++ body.drop (body.length - 4)))
  | chars =>
    if chars.length ≤ 4 then s
    else String.ofList (List.replicate (chars.length - 4) '*' ++ chars.drop (chars.length - 4))

example : maskPhone "+819012345678" = "+********5678" := by decide

namespace InboundContact

/-- `_put_provisional_inbound_contact`: PutItem on `attribute_not_exists(contactId)`, whose failure is swallowed. -/
def putProvisional (now : Instant) (callerNumber : String) (flow : InboundFlow) (employeeId cycleId : Option String) :
    Write InboundContact :=
  .put {
    receivedAt := now.truncateToSeconds
    callerNumber
    callerNumberMasked := maskPhone callerNumber
    flow
    employeeId
    cycleId } fun row => row.isNone

/-- What finalize adds to the row. A field that is `none` is not written. -/
structure Completion where
  employeeId : Option String := none
  recordingS3Key : Option String := none
  transcriptS3Key : Option String := none
  callResultCode : String
  voiceStatus : Option VoiceStatus := none

/-- `_finalize_inbound_contact`: UpdateItem on `attribute_exists(contactId) AND #f = :f`. -/
def complete (flow : InboundFlow) (completion : Completion) : Write InboundContact where
  condition row := row.any fun contact => contact.flow == flow
  update := Option.map fun contact =>
    { contact with
      callResultCode := some completion.callResultCode
      recordingS3Key := completion.recordingS3Key.or contact.recordingS3Key
      transcriptS3Key := completion.transcriptS3Key.or contact.transcriptS3Key
      voiceStatus := completion.voiceStatus.or contact.voiceStatus
      employeeId := completion.employeeId.or contact.employeeId }

end InboundContact

end SafetyConfirmation
