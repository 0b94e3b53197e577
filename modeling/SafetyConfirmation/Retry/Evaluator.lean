import SafetyConfirmation.Lib.Checks
import SafetyConfirmation.Data.VoiceStatus
import SafetyConfirmation.Data.Value

/-!
# The retry decision

`shared.retry.evaluator` and the RetryEvaluator lambda around it: whether an employee is redialled, when, and
with which final status the iteration ends when not. Timestamps are the instants they denote.
-/

namespace SafetyConfirmation

namespace Retry

open Checks

/-- The check `isinstance(v, int) and not isinstance(v, bool)`. -/
def requireInt (field : String) : Value → Except PyError Int
  | .int n => .ok n
  | v => .error (.valueError (field ++ " must be int; got " ++ v.typeName))

def requireVoiceStatus (voiceStatus : String) : Except PyError VoiceStatus :=
  match VoiceStatus.ofName? voiceStatus with
  | some status => .ok status
  | none => .error (.valueError
      ("voice_status must be one of " ++
        "['INJURED', 'OTHER', 'PENDING', 'SAFE', 'UNAVAILABLE', 'UNREACHABLE']; got")
      (some (.str voiceStatus)))

/-- `should_retry`. The call result code is accepted and not looked at. -/
def shouldRetry (voiceStatus : String) (_callResultCode : Option String) (attempts retryCount : Value) :
    Except PyError Bool := do
  let status ← requireVoiceStatus voiceStatus
  let attempts ← requireInt "attempts" attempts
  let retryCount ← requireInt "retry_count" retryCount
  require (0 ≤ attempts) (.valueError "attempts must be >= 0; got" (some (.int attempts)))
  require (0 ≤ retryCount) (.valueError "retry_count must be >= 0; got" (some (.int retryCount)))
  if status.isConfirmed then
    return false
  else if status = .unreachable then
    return false
  else
    return decide (attempts < retryCount)

def minIntervalMinutes : Int := 1

def maxIntervalMinutes : Int := 60

def microsecondsPerMinute : Int := 60 * 1000000

/-- `compute_next_dispatch_at` on instants, of which there is no last one. The `OverflowError` of a sum that lies past the
calendar is in `IsoInterval.computeNextDispatchAt`, which reads and writes the texts. -/
def computeNextDispatchAt (prevEndAt : Instant) (intervalMinutes : Value) : Except PyError Instant := do
  let interval ← requireInt "interval_minutes" intervalMinutes
  require (minIntervalMinutes ≤ interval ∧ interval ≤ maxIntervalMinutes)
    (.valueError "interval_minutes must be in [1, 60]; got" (some (.int interval)))
  return prevEndAt + interval * microsecondsPerMinute

/-- `compute_retry_wait_seconds`: `int()` drops the fraction of a second. -/
def computeRetryWaitSeconds (prevEndAt : Instant) (intervalMinutes : Value) (now : Instant) : Except PyError Int := do
  let nextDispatchAt ← computeNextDispatchAt prevEndAt intervalMinutes
  return max 0 ((nextDispatchAt - now).tdiv 1000000)

def deriveFinalStatus (voiceStatus : String) : Except PyError VoiceStatus := do
  let status ← requireVoiceStatus voiceStatus
  return if status.isConfirmed then status else .unreachable

/-- The payload `EvaluateRetry` passes to the lambda. -/
structure Event where
  cycleId : String
  employeeId : String
  voiceStatus : String
  callResultCode : Option String := none
  attempts : Value
  retryCount : Value
  retryIntervalMinutes : Value
  prevEndAt : Instant

/-- The two shapes of the lambda's answer: `retry: true` with the wait, `retry: false` with the final status. -/
inductive Decision where
  | redial (retryWaitSeconds : Int) (nextDispatchAt : Instant)
  | final (finalStatus : VoiceStatus)
  deriving DecidableEq, Repr

/-- The `retry` field `RetryChoice` branches on. -/
def Decision.retry : Decision → Bool
  | redial .. => true
  | final _ => false

/-- `_parse_event`, on a payload whose keys the state machine always sends. -/
def parseEvent (event : Event) : Except PyError Unit := do
  require (event.cycleId ≠ "") (.valueError "cycleId must be a non-empty string")
  require (event.employeeId ≠ "") (.valueError "employeeId must be a non-empty string")

def lambdaHandler (event : Event) (now : Instant) : Except PyError Decision := do
  parseEvent event
  let retry ← shouldRetry event.voiceStatus event.callResultCode event.attempts event.retryCount
  if retry then
    let nextDispatchAt ← computeNextDispatchAt event.prevEndAt event.retryIntervalMinutes
    let waitSeconds ← computeRetryWaitSeconds event.prevEndAt event.retryIntervalMinutes now
    return .redial waitSeconds nextDispatchAt
  else
    let finalStatus ← deriveFinalStatus event.voiceStatus
    return .final finalStatus

/-! ### What the functions answer on a known status -/

@[simp] theorem requireVoiceStatus_name (status : VoiceStatus) : requireVoiceStatus status.name = .ok status := by
  simp [requireVoiceStatus]

@[simp] theorem requireInt_int (field : String) (n : Int) : requireInt field (.int n) = .ok n := rfl

theorem requireInt_eq_ok {field : String} {v : Value} {n : Int} : requireInt field v = .ok n ↔ v = .int n := by
  cases v <;> simp [requireInt]

@[simp] theorem deriveFinalStatus_name (status : VoiceStatus) :
    deriveFinalStatus status.name = .ok (if status.isConfirmed then status else .unreachable) := by
  rw [deriveFinalStatus, requireVoiceStatus_name]
  rfl

theorem isTerminal_of_deriveFinalStatus {voiceStatus : String} {finalStatus : VoiceStatus}
    (h : deriveFinalStatus voiceStatus = .ok finalStatus) : finalStatus.isTerminal = true := by
  obtain ⟨status, -, hfinal⟩ := bind_eq_ok.1 h
  cases hfinal
  cases hconfirmed : status.isConfirmed with
  | true => simpa [hconfirmed] using VoiceStatus.isTerminal_of_isConfirmed hconfirmed
  | false => rfl

theorem shouldRetry_eq_ok {status : VoiceStatus} {code : Option String} {attempts retryCount : Value} {retry : Bool} :
    shouldRetry status.name code attempts retryCount = .ok retry ↔
      ∃ n m : Int, attempts = .int n ∧ retryCount = .int m ∧ 0 ≤ n ∧ 0 ≤ m ∧
        retry = (status.isRetryable && decide (n < m)) := by
  simp only [shouldRetry, requireVoiceStatus_name, ok_bind, bind_eq_ok, requireInt_eq_ok, require_eq_ok, exists_const]
  constructor
  · rintro ⟨n, rfl, m, rfl, hn, hm, hretry⟩
    refine ⟨n, m, rfl, rfl, hn, hm, ?_⟩
    cases status <;> cases hretry <;> rfl
  · rintro ⟨n, m, rfl, rfl, hn, hm, rfl⟩
    refine ⟨n, rfl, m, rfl, hn, hm, ?_⟩
    cases status <;> rfl

/-- The lambda answers with a redial when `should_retry` holds and with the final status when not. -/
theorem lambdaHandler_cases {event : Event} {now : Instant} {decision : Decision}
    (h : lambdaHandler event now = .ok decision) :
    (shouldRetry event.voiceStatus event.callResultCode event.attempts event.retryCount = .ok true ∧
      ∃ wait next, decision = .redial wait next) ∨
    (shouldRetry event.voiceStatus event.callResultCode event.attempts event.retryCount = .ok false ∧
      ∃ finalStatus, deriveFinalStatus event.voiceStatus = .ok finalStatus ∧ decision = .final finalStatus) := by
  rw [lambdaHandler] at h
  obtain ⟨_, -, h⟩ := bind_eq_ok.1 h
  obtain ⟨retry, hretry, h⟩ := bind_eq_ok.1 h
  cases retry with
  | true =>
    obtain ⟨next, -, h⟩ := bind_eq_ok.1 h
    obtain ⟨wait, -, h⟩ := bind_eq_ok.1 h
    cases h
    exact .inl ⟨hretry, wait, next, rfl⟩
  | false =>
    obtain ⟨finalStatus, hfinal, h⟩ := bind_eq_ok.1 h
    cases h
    exact .inr ⟨hretry, finalStatus, hfinal, rfl⟩

theorem exists_lambdaHandler_eq_ok {event : Event} (now : Instant) {status : VoiceStatus} {n m interval : Int}
    (hcycle : event.cycleId ≠ "") (hemployee : event.employeeId ≠ "") (hstatus : event.voiceStatus = status.name)
    (hattempts : event.attempts = .int n) (hcount : event.retryCount = .int m)
    (hinterval : event.retryIntervalMinutes = .int interval) (hn : 0 ≤ n) (hm : 0 ≤ m)
    (hrange : minIntervalMinutes ≤ interval ∧ interval ≤ maxIntervalMinutes) :
    ∃ decision, lambdaHandler event now = .ok decision := by
  have hretry : shouldRetry status.name event.callResultCode (.int n) (.int m) =
      .ok (status.isRetryable && decide (n < m)) := shouldRetry_eq_ok.2 ⟨n, m, rfl, rfl, hn, hm, rfl⟩
  simp only [lambdaHandler, parseEvent, require_of hcycle, require_of hemployee, hstatus, hattempts, hcount, hretry,
    hinterval, computeRetryWaitSeconds, computeNextDispatchAt, requireInt_int, require_of hrange,
    deriveFinalStatus_name, ok_bind, pure_eq_ok]
  split
  · exact ⟨_, rfl⟩
  · exact ⟨_, rfl⟩

end Retry

end SafetyConfirmation
