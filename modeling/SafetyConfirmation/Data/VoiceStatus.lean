import SafetyConfirmation.Data.Value

/-!
# Voice statuses

The `voiceStatus` vocabulary of a Response row and the sets of it the lambdas test membership in.
-/

namespace SafetyConfirmation

/-- The values of `VALID_VOICE_STATUS_VALUES`. -/
inductive VoiceStatus where
  | pending
  | safe
  | injured
  | unavailable
  | other
  | unreachable
  deriving DecidableEq, Repr, Inhabited

namespace VoiceStatus

def name : VoiceStatus → String
  | pending => "PENDING"
  | safe => "SAFE"
  | injured => "INJURED"
  | unavailable => "UNAVAILABLE"
  | other => "OTHER"
  | unreachable => "UNREACHABLE"

def ofName? : String → Option VoiceStatus
  | "PENDING" => some pending
  | "SAFE" => some safe
  | "INJURED" => some injured
  | "UNAVAILABLE" => some unavailable
  | "OTHER" => some other
  | "UNREACHABLE" => some unreachable
  | _ => none

@[simp] theorem ofName?_name (status : VoiceStatus) : ofName? status.name = some status := by
  cases status <;> rfl

theorem eq_name_of_ofName? {s : String} {status : VoiceStatus} (h : ofName? s = some status) : s = status.name := by
  unfold ofName? at h
  split at h
  case h_7 => cases h
  all_goals
    rw [← Option.some.inj h]
    rfl

theorem name_injective : Function.Injective name := by
  intro left right h
  have := congrArg ofName? h
  simpa using this

/-- `_CONFIRMED_VOICE_STATUSES`: the answers after which no call is due. -/
def isConfirmed : VoiceStatus → Bool
  | safe | injured | unavailable => true
  | pending | other | unreachable => false

/-- `_RETRYABLE_VOICE_STATUSES`, the same set as `_TIMEOUT_REWRITE_VOICE_STATUSES`. -/
def isRetryable : VoiceStatus → Bool
  | pending | other => true
  | safe | injured | unavailable | unreachable => false

/-- `_TERMINAL_VOICE_STATUSES`: a confirmed answer, or `UNREACHABLE`. -/
def isTerminal (status : VoiceStatus) : Bool := status.isConfirmed || status == unreachable

theorem isTerminal_of_isConfirmed {status : VoiceStatus} (h : status.isConfirmed = true) :
    status.isTerminal = true := by
  rw [isTerminal, h, Bool.true_or]

theorem isTerminal_eq_not_isRetryable (status : VoiceStatus) : status.isTerminal = !status.isRetryable := by
  cases status <;> rfl

end VoiceStatus

end SafetyConfirmation
