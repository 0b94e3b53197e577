import SafetyConfirmation.Lib.KeyedStore
import SafetyConfirmation.Data.Value
import SafetyConfirmation.Keyword.Matcher

/-!
# The Response row and its writers

One row of the Response table, keyed by `(cycleId, employeeId)`, and every write of it in the system: the
state machine's three, ConnectDispatcher's two, CallEndHandler's, TranscribeStarter's, KeywordMatcher's two,
InboundHandler's two and CycleFinalizer's. An attribute that was never written is `none`.
-/

namespace SafetyConfirmation

open KeyedStore

structure Response where
  voiceStatus : Option VoiceStatus := none
  callAttempts : Option Nat := none
  dictionaryVersion : Option Int := none
  contactId : Option String := none
  dispatchedAt : Option Instant := none
  callResultCode : Option String := none
  callResultCodes : Option (List String) := none
  endedAt : Option Instant := none
  matchedKeywords : Option (List String) := none
  transcriptExcerpt : Option String := none
  finalizedAt : Option Instant := none
  sfnError : Option String := none
  deriving DecidableEq, Repr, Inhabited

/-- What KeywordMatcher found in a transcript: one of the four statuses the matcher answers with. -/
structure Classification where
  voiceStatus : VoiceStatus
  matchedKeywords : List String
  excerpt : String
  dictionaryVersion : Int
  isClassified : Keyword.IsClassified voiceStatus
  deriving DecidableEq

namespace Response

/-! ### The state machine's writes -/

/-- `InitAttempt`: PutItem on `attribute_not_exists(employeeId)`. -/
def initAttempt (dictionaryVersion : Int) : Write Response :=
  .put { voiceStatus := some .pending, callAttempts := some 0, dictionaryVersion := some dictionaryVersion }
    fun row => row.isNone

/-- `FinalizeOne`: UpdateItem without a condition. -/
def finalizeOne (finalStatus : VoiceStatus) (now : Instant) : Write Response :=
  .modify {} fun row => { row with voiceStatus := some finalStatus, finalizedAt := some now }

/-- `FinalizeOneError`: UpdateItem without a condition. -/
def finalizeOneError (now : Instant) : Write Response :=
  .modify {} fun row =>
    { row with voiceStatus := some .other, finalizedAt := some now, sfnError := some "SFN_ITERATION_FAILED" }

/-! ### The lambdas' writes -/

def addAttempt (row : Response) : Option Nat := some (row.callAttempts.getD 0 + 1)

/-- ConnectDispatcher's `_record_success`. -/
def recordSuccess (contactId : String) (now : Instant) : Write Response :=
  .modify {} fun row =>
    { row with contactId := some contactId, dispatchedAt := some now, callAttempts := addAttempt row }

def noCallResultCode (row : Option Response) : Bool := (row.bind callResultCode).isNone

/-- ConnectDispatcher's `_record_error`. -/
def recordError (now : Instant) : Write Response :=
  .modify {} (fun row =>
    { row with callResultCode := some "ERROR", dispatchedAt := some now, callAttempts := addAttempt row })
    noCallResultCode

/-- CallEndHandler's `_record_call_end`. -/
def recordCallEnd (code : String) (now : Instant) : Write Response :=
  .modify {} (fun row => { row with callResultCode := some code, endedAt := some now }) noCallResultCode

/-- TranscribeStarter's `_record_transcribe_failed_on_response`. -/
def recordTranscribeFailed : Write Response :=
  .modify {} (fun row => { row with callResultCode := some "TRANSCRIBE_FAILED" })
    fun row => row.bind callResultCode == some "RECORDED"

/-- KeywordMatcher's `_record_response`: no condition. -/
def recordResponse (c : Classification) : Write Response :=
  .modify {} fun row =>
    { row with
      voiceStatus := some c.voiceStatus
      matchedKeywords := some c.matchedKeywords
      transcriptExcerpt := some c.excerpt
      dictionaryVersion := some c.dictionaryVersion }

/-- KeywordMatcher's `_record_other_fallback`: no condition. -/
def recordOtherFallback : Write Response :=
  .modify {} fun row => { row with voiceStatus := some .other, matchedKeywords := some [] }

/-- The PutItem of InboundHandler's `_append_inbound_to_response`. -/
def putInbound : Write Response :=
  .put { callAttempts := some 0, callResultCodes := some [], voiceStatus := some .pending } fun row => row.isNone

/-- The UpdateItem of InboundHandler's `_append_inbound_to_response`. -/
def appendInbound : Write Response :=
  .modify {} fun row => { row with callResultCodes := some (row.callResultCodes.getD [] ++ ["INBOUND"]) }

/-- CycleFinalizer's `_force_response_unreachable`. -/
def forceResponseUnreachable : Write Response :=
  .modify {} (fun row => { row with voiceStatus := some .unreachable })
    fun row => row.bind voiceStatus == some .pending || row.bind voiceStatus == some .other

end Response

/-- A write of a Response row by a lambda. -/
inductive RowWrite where
  | recordSuccess (contactId : String) (now : Instant)
  | recordError (now : Instant)
  | recordCallEnd (code : String) (now : Instant)
  | recordTranscribeFailed
  | recordResponse (c : Classification)
  | recordOtherFallback
  | putInbound
  | appendInbound
  | forceResponseUnreachable
  deriving DecidableEq

namespace RowWrite

def write : RowWrite → Write Response
  | recordSuccess contactId now => Response.recordSuccess contactId now
  | recordError now => Response.recordError now
  | recordCallEnd code now => Response.recordCallEnd code now
  | recordTranscribeFailed => Response.recordTranscribeFailed
  | recordResponse c => Response.recordResponse c
  | recordOtherFallback => Response.recordOtherFallback
  | putInbound => Response.putInbound
  | appendInbound => Response.appendInbound
  | forceResponseUnreachable => Response.forceResponseUnreachable

def run (w : RowWrite) (row : Option Response) : Option Response := w.write.run row

/-- The status a KeywordMatcher write sets, `none` for the other writers. -/
def classified? : RowWrite → Option VoiceStatus
  | recordResponse c => some c.voiceStatus
  | recordOtherFallback => some .other
  | _ => none

/-- A KeywordMatcher write of `OTHER`: an unmatched transcript, or the fallback after three failed tries. -/
def IsOther (w : RowWrite) : Prop := w.classified? = some .other

def confirms (w : RowWrite) : Bool := w.classified?.any VoiceStatus.isConfirmed

instance (w : RowWrite) : Decidable w.IsOther := inferInstanceAs (Decidable (_ = _))

end RowWrite

namespace Response

def statusOf (row : Option Response) : Option VoiceStatus := row.bind voiceStatus

def Confirmed (row : Option Response) : Prop := ∃ status, statusOf row = some status ∧ status.isConfirmed = true

instance (row : Option Response) : Decidable (Confirmed row) :=
  match h : statusOf row with
  | none => .isFalse (by simp [Confirmed, h])
  | some status => decidable_of_iff (status.isConfirmed = true) (by simp [Confirmed, h])

/-- Dispatch attempts recorded so far, none where the row or the attribute is missing. -/
def attemptsOf (row : Option Response) : Nat := (row.bind callAttempts).getD 0

/-- What a lambda's write does to the status: KeywordMatcher sets it, an inbound call opens a missing row,
the timeout closes an open one, and every other write leaves it. -/
theorem statusOf_run (w : RowWrite) (row : Option Response) :
    (∃ status, w.classified? = some status ∧ statusOf (w.run row) = some status) ∨
    (w = .putInbound ∧ row = none ∧ statusOf (w.run row) = some .pending) ∨
    (w = .forceResponseUnreachable ∧ (statusOf row = some .pending ∨ statusOf row = some .other) ∧
      statusOf (w.run row) = some .unreachable) ∨
    (w.classified? = none ∧ statusOf (w.run row) = statusOf row) := by
  cases w with
  | recordResponse c => exact .inl ⟨c.voiceStatus, rfl, rfl⟩
  | recordOtherFallback => exact .inl ⟨.other, rfl, rfl⟩
  | putInbound =>
    cases row with
    | none => exact .inr (.inl ⟨rfl, rfl, rfl⟩)
    | some row => exact .inr (.inr (.inr ⟨rfl, rfl⟩))
  | forceResponseUnreachable =>
    by_cases hopen : statusOf row = some .pending ∨ statusOf row = some .other
    · refine .inr (.inr (.inl ⟨rfl, hopen, ?_⟩))
      have hcond : forceResponseUnreachable.condition row = true := by
        simpa [forceResponseUnreachable, statusOf] using hopen
      rw [RowWrite.run, RowWrite.write, Write.run_of_condition hcond]
      rfl
    · refine .inr (.inr (.inr ⟨rfl, ?_⟩))
      have hcond : forceResponseUnreachable.condition row = false := by
        simpa [forceResponseUnreachable, statusOf] using hopen
      rw [RowWrite.run, RowWrite.write, Write.run_of_not_condition hcond]
  | recordSuccess contactId now => cases row <;> exact .inr (.inr (.inr ⟨rfl, rfl⟩))
  | appendInbound => cases row <;> exact .inr (.inr (.inr ⟨rfl, rfl⟩))
  | recordError now | recordCallEnd code now | recordTranscribeFailed =>
    refine .inr (.inr (.inr ⟨rfl, ?_⟩))
    refine Write.run_induction (motive := fun row' => statusOf row' = statusOf row) rfl fun _ => ?_
    cases row <;> rfl

/-- Only a KeywordMatcher write of `OTHER` takes a confirmed answer away. -/
theorem confirmed_run {w : RowWrite} {row : Option Response} (hrow : Confirmed row) (hw : ¬ w.IsOther) :
    Confirmed (w.run row) := by
  obtain ⟨status, hstatus, hconfirmed⟩ := hrow
  rcases statusOf_run w row with ⟨status', hset, hrun⟩ | ⟨-, rfl, -⟩ | ⟨-, hopen, -⟩ | ⟨-, hrun⟩
  · refine ⟨status', hrun, ?_⟩
    cases w with
    | recordResponse c =>
      cases hset
      rcases c.isClassified with hc | hc
      · exact hc
      · exact absurd (congrArg some hc) hw
    | recordOtherFallback => exact absurd rfl hw
    | _ => cases hset
  · cases hstatus
  · rcases hopen with hopen | hopen <;> rw [hopen] at hstatus <;> cases hstatus <;> cases hconfirmed
  · exact ⟨status, hrun.trans hstatus, hconfirmed⟩

/-- Only a KeywordMatcher write of a confirmed status brings a confirmed answer. -/
theorem confirmed_of_confirmed_run {w : RowWrite} {row : Option Response} (h : Confirmed (w.run row)) :
    Confirmed row ∨ w.confirms = true := by
  obtain ⟨status, hstatus, hconfirmed⟩ := h
  rcases statusOf_run w row with ⟨status', hset, hrun⟩ | ⟨-, -, hrun⟩ | ⟨-, -, hrun⟩ | ⟨-, hrun⟩
  · rw [hstatus] at hrun
    cases hrun
    exact .inr (by rw [RowWrite.confirms, hset]; exact hconfirmed)
  · rw [hstatus] at hrun
    cases hrun
    cases hconfirmed
  · rw [hstatus] at hrun
    cases hrun
    cases hconfirmed
  · exact .inl ⟨status, hrun.symm.trans hstatus, hconfirmed⟩

end Response

end SafetyConfirmation
