import Mathlib.Data.List.Basic
import Mathlib.Tactic.IntervalCases
import SafetyConfirmation.Response.Row

/-!
# The call bookkeeping of a row

`callAttempts` and `callResultCode`, which ConnectDispatcher, CallEndHandler and TranscribeStarter share. The two
attributes are a tally of their own: what a write does to them is decided by them, and the other writers leave them.
-/

namespace SafetyConfirmation

open KeyedStore

namespace Response

/-- `VALID_CALL_RESULT_CODES`. -/
def validCallResultCodes : List String := ["RECORDED", "NO_ANSWER", "BUSY", "VOICEMAIL", "ERROR", "TRANSCRIBE_FAILED"]

/-- A code `_parse_event` of CallEndHandler lets through. -/
abbrev CallResultCode := { code : String // code ∈ validCallResultCodes }

/-- One dispatch attempt: a contact was placed and CallEndHandler invoked for it, perhaps more than once, or
StartOutboundVoiceContact failed until its retries were exhausted. -/
inductive Attempt where
  | placed (contactId : String) (dispatchedAt : Instant) (code : CallResultCode) (endedAt : Instant)
      (redelivered : List Instant)
  | exhausted (dispatchedAt : Instant)

namespace Attempt

def code : Attempt → String
  | placed _ _ code _ _ => code
  | exhausted _ => "ERROR"

def isExhausted : Attempt → Bool
  | placed .. => false
  | exhausted _ => true

def writes : Attempt → List RowWrite
  | placed contactId dispatchedAt code endedAt redelivered =>
    .recordSuccess contactId dispatchedAt :: .recordCallEnd code endedAt ::
      redelivered.map fun now => .recordCallEnd code now
  | exhausted dispatchedAt => [.recordError dispatchedAt]

end Attempt

end Response

namespace RowWrite

/-- The writes that touch `callAttempts` or `callResultCode` of a row that is there. -/
def isBookkeeping : RowWrite → Bool
  | recordSuccess .. | recordError _ | recordCallEnd .. | recordTranscribeFailed => true
  | _ => false

def runAll (writes : List RowWrite) (row : Option Response) : Option Response :=
  writes.foldl (fun row w => w.run row) row

end RowWrite

namespace Response

/-- What happens to a row: a lambda writes it, or TranscribeStarter gives up the recording of one of the attempts. -/
inductive BookEvent where
  | write (w : RowWrite)
  | transcribeFailed (attempt : Nat)
  deriving DecidableEq

namespace BookEvent

def rowWrite : BookEvent → RowWrite
  | write w => w
  | transcribeFailed _ => .recordTranscribeFailed

/-- The writes that the attempts have to account for. -/
def bookkeeping? : BookEvent → Option RowWrite
  | write w => if w.isBookkeeping then some w else none
  | transcribeFailed _ => none

def isTranscribeFailed : BookEvent → Bool
  | write _ => false
  | transcribeFailed _ => true

end BookEvent

/-- A run of the attempts, one after the other: what touches the books is their writes, and a recording is given up after
its call has ended, at any time. Other lambdas write the row in between. -/
structure Run (attempts : List Attempt) (events : List BookEvent) : Prop where
  books : events.filterMap BookEvent.bookkeeping? = attempts.flatMap Attempt.writes
  recorded : ∀ k i, events[k]? = some (.transcribeFailed i) → ∃ attempt, attempts[i]? = some attempt ∧
    attempt.code = "RECORDED" ∧
    (attempts.take i).flatMap Attempt.writes ++ attempt.writes.take 2 <+: (events.take k).filterMap BookEvent.bookkeeping?

/-- TranscribeStarter gave the recording of the last call up. -/
def LastFailed (attempts : List Attempt) (events : List BookEvent) : Prop :=
  BookEvent.transcribeFailed (attempts.length - 1) ∈ events

instance (attempts : List Attempt) (events : List BookEvent) : Decidable (LastFailed attempts events) :=
  inferInstanceAs (Decidable (_ ∈ _))

def callResultCodeOf (row : Option Response) : Option String := row.bind callResultCode

/-! ### The tally -/

structure Tally where
  attempts : Nat
  code : Option String
  deriving DecidableEq

def tally (row : Option Response) : Tally where
  attempts := attemptsOf row
  code := callResultCodeOf row

namespace Tally

def apply (t : Tally) : RowWrite → Tally
  | .recordSuccess .. => { t with attempts := t.attempts + 1 }
  | .recordError _ => if t.code = none then { attempts := t.attempts + 1, code := some "ERROR" } else t
  | .recordCallEnd code _ => if t.code = none then { t with code := some code } else t
  | .recordTranscribeFailed => if t.code = some "RECORDED" then { t with code := some "TRANSCRIBE_FAILED" } else t
  | _ => t

/-- What a whole attempt leaves of the tally. -/
def attempt (t : Tally) (a : Attempt) : Tally where
  attempts := if a.isExhausted ∧ t.code ≠ none then t.attempts else t.attempts + 1
  code := some (t.code.getD a.code)

theorem apply_of_not_isBookkeeping {t : Tally} {w : RowWrite} (h : w.isBookkeeping = false) : t.apply w = t := by
  cases w <;> first
    | rfl
    | cases h

theorem foldl_recordCallEnd {t : Tally} {code : String} (h : t.code ≠ none) (redelivered : List Instant) :
    (redelivered.map fun now => RowWrite.recordCallEnd code now).foldl apply t = t := by
  induction redelivered with
  | nil => rfl
  | cons now redelivered ih =>
    rw [List.map_cons, List.foldl_cons, apply, if_neg h, ih]

theorem foldl_writes (t : Tally) (a : Attempt) : a.writes.foldl apply t = t.attempt a := by
  obtain ⟨attempts, code⟩ := t
  cases a with
  | exhausted dispatchedAt => cases code <;> rfl
  | placed contactId dispatchedAt code' endedAt redelivered =>
    rw [Attempt.writes, List.foldl_cons, List.foldl_cons]
    cases code with
    | none => exact foldl_recordCallEnd (Option.some_ne_none _) redelivered
    | some code => exact foldl_recordCallEnd (Option.some_ne_none _) redelivered

/-- Once a code is set it stays, and only the attempts that placed a contact are counted. -/
theorem foldl_attempt_of_code {t : Tally} {code : String} (h : t.code = some code) (attempts : List Attempt) :
    attempts.foldl attempt t = { attempts := t.attempts + attempts.countP (!·.isExhausted), code := some code } := by
  induction attempts generalizing t with
  | nil =>
    rw [List.foldl_nil, List.countP_nil, Nat.add_zero, ← h]
  | cons a attempts ih =>
    have hcode : (t.attempt a).code = some code := by
      rw [attempt, h, Option.getD_some]
    rw [List.foldl_cons, ih hcode, List.countP_cons, attempt, h]
    cases a.isExhausted with
    | true => simp
    | false =>
      simp
      omega

end Tally

/-- A conditional write on the tally, where the condition reads the tally. -/
theorem tally_run_of_condition {w : RowWrite} {row : Option Response} {u : Tally} (P : Prop) [Decidable P]
    (hcondition : w.write.condition row = decide P) (hupdate : P → tally (w.write.update row) = u) :
    tally (w.run row) = if P then u else tally row := by
  by_cases hP : P
  · rw [RowWrite.run, Write.run_of_condition (hcondition.trans (decide_eq_true hP)), if_pos hP, hupdate hP]
  · rw [RowWrite.run, Write.run_of_not_condition (hcondition.trans (decide_eq_false hP)), if_neg hP]

theorem noCallResultCode_eq (row : Option Response) : noCallResultCode row = decide (callResultCodeOf row = none) := by
  rw [noCallResultCode, callResultCodeOf]
  cases row.bind callResultCode <;> rfl

/-- The tally of a row after a write is the write on the tally. -/
theorem tally_run (w : RowWrite) (row : Option Response) : tally (w.run row) = (tally row).apply w := by
  cases w with
  | recordError now => exact tally_run_of_condition _ (noCallResultCode_eq row) fun _ => by cases row <;> rfl
  | recordCallEnd code now => exact tally_run_of_condition _ (noCallResultCode_eq row) fun _ => by cases row <;> rfl
  | recordTranscribeFailed =>
    refine tally_run_of_condition (callResultCodeOf row = some "RECORDED") ?_ fun _ => by cases row <;> rfl
    exact Bool.beq_eq_decide_eq ..
  | forceResponseUnreachable =>
    refine Write.run_induction (motive := fun row' => tally row' = tally row) rfl fun _ => ?_
    cases row <;> rfl
  | _ => cases row <;> rfl

theorem tally_runAll (writes : List RowWrite) (row : Option Response) :
    tally (RowWrite.runAll writes row) = writes.foldl Tally.apply (tally row) :=
  (List.foldl_hom tally fun row w => (tally_run w row).symm).symm

/-! ### A run of attempts -/

/-- `callAttempts` counts the attempts, `callResultCode` is the last one's, and a failed transcription of a last call
that was recorded shows. -/
structure KeepsBooks (attempts : List Attempt) (events : List BookEvent) (row : Option Response) : Prop where
  callAttempts : attemptsOf row = attempts.length
  callResultCode : ¬ LastFailed attempts events → callResultCodeOf row = attempts.getLast?.map Attempt.code
  lastFailed : LastFailed attempts events → callResultCodeOf row = some "TRANSCRIBE_FAILED"
  transcribeFailed : attempts.getLast?.map Attempt.code = some "RECORDED" →
    callResultCodeOf (RowWrite.recordTranscribeFailed.run row) = some "TRANSCRIBE_FAILED"

/-- The last call ended as the first one did, a transcription that failed after it taken into account. -/
def EndsAsFirst (attempts : List Attempt) (events : List BookEvent) : Prop :=
  if LastFailed attempts events then
    attempts.head?.map Attempt.code = some "RECORDED" ∨ attempts.head?.map Attempt.code = some "TRANSCRIBE_FAILED"
  else if attempts.head?.map Attempt.code = some "RECORDED" ∧ events.any BookEvent.isTranscribeFailed = true then
    attempts.getLast?.map Attempt.code = some "TRANSCRIBE_FAILED"
  else attempts.getLast?.map Attempt.code = attempts.head?.map Attempt.code

instance (attempts : List Attempt) (events : List BookEvent) : Decidable (EndsAsFirst attempts events) :=
  inferInstanceAs (Decidable (ite _ _ _))

namespace Tally

/-- A failed transcription may come before or after any other write, once there is a code. -/
theorem apply_recordTranscribeFailed_comm {t : Tally} (h : t.code ≠ none) (w : RowWrite) :
    (t.apply .recordTranscribeFailed).apply w = (t.apply w).apply .recordTranscribeFailed := by
  obtain ⟨attempts, code⟩ := t
  obtain ⟨code, rfl⟩ := Option.ne_none_iff_exists'.1 h
  cases w <;> simp only [apply] <;> split <;> simp [*]

theorem apply_recordTranscribeFailed_idem (t : Tally) :
    (t.apply .recordTranscribeFailed).apply .recordTranscribeFailed = t.apply .recordTranscribeFailed := by
  obtain ⟨attempts, code⟩ := t
  simp only [apply]
  split <;> simp [*]

theorem code_apply_ne_none {t : Tally} (h : t.code ≠ none) (w : RowWrite) : (t.apply w).code ≠ none := by
  cases w <;> simp only [apply] <;> first | exact h | (split <;> simp_all)

theorem code_recordCallEnd_ne_none (t : Tally) (code : String) (now : Instant) :
    (t.apply (.recordCallEnd code now)).code ≠ none := by
  by_cases h : t.code = none
  · rw [apply, if_pos h]
    exact Option.some_ne_none _
  · rw [apply, if_neg h]
    exact h

theorem code_foldl_ne_none {t : Tally} (h : t.code ≠ none) (writes : List RowWrite) :
    (writes.foldl apply t).code ≠ none := by
  induction writes generalizing t with
  | nil => exact h
  | cons w writes ih => exact ih (code_apply_ne_none h w)

end Tally

/-- The recording that is given up at a point of the run has its call's code in the row by then. -/
theorem Run.code_ne_none {attempts : List Attempt} {events : List BookEvent} (h : Run attempts events) {k i : Nat}
    (hfailed : events[k]? = some (.transcribeFailed i)) (t : Tally) :
    (((events.take k).filterMap BookEvent.bookkeeping?).foldl Tally.apply t).code ≠ none := by
  obtain ⟨attempt, -, hrecorded, rest, hrest⟩ := h.recorded k i hfailed
  rw [← hrest, List.foldl_append, List.foldl_append]
  apply Tally.code_foldl_ne_none
  generalize ((attempts.take i).flatMap Attempt.writes).foldl Tally.apply t = t'
  cases attempt with
  | exhausted dispatchedAt => exact absurd (show "ERROR" = "RECORDED" from hrecorded) (by decide)
  | placed contactId dispatchedAt code endedAt redelivered => exact Tally.code_recordCallEnd_ne_none _ code endedAt

/-- The code is set by the end of a run in which a recording was given up. -/
theorem code_ne_none_of_any {t : Tally} {events : List BookEvent}
    (hcode : ∀ k i, events[k]? = some (.transcribeFailed i) →
      (((events.take k).filterMap BookEvent.bookkeeping?).foldl Tally.apply t).code ≠ none)
    (hany : events.any BookEvent.isTranscribeFailed = true) :
    ((events.filterMap BookEvent.bookkeeping?).foldl Tally.apply t).code ≠ none := by
  obtain ⟨failed, hmem, hfailed⟩ := List.any_eq_true.1 hany
  obtain ⟨k, hk⟩ := List.mem_iff_getElem?.1 hmem
  cases failed with
  | write w => cases hfailed
  | transcribeFailed i =>
    rw [← List.take_append_drop k events, List.filterMap_append, List.foldl_append]
    exact Tally.code_foldl_ne_none (hcode k i hk) _

/-- The tally after a run is that of the attempts alone, with the code of a failed transcription where there was one. -/
theorem tally_of_events {row : Option Response} {events : List BookEvent}
    (hcode : ∀ k i, events[k]? = some (.transcribeFailed i) →
      (((events.take k).filterMap BookEvent.bookkeeping?).foldl Tally.apply (tally row)).code ≠ none) :
    tally (RowWrite.runAll (events.map BookEvent.rowWrite) row) =
      if events.any BookEvent.isTranscribeFailed = true then
        ((events.filterMap BookEvent.bookkeeping?).foldl Tally.apply (tally row)).apply .recordTranscribeFailed
      else (events.filterMap BookEvent.bookkeeping?).foldl Tally.apply (tally row) := by
  induction events using List.reverseRecOn with
  | nil => rfl
  | append_singleton events event ih =>
    have hcode' : ∀ k i, events[k]? = some (.transcribeFailed i) →
        (((events.take k).filterMap BookEvent.bookkeeping?).foldl Tally.apply (tally row)).code ≠ none := by
      intro k i hfailed
      obtain ⟨hk, -⟩ := List.getElem?_eq_some_iff.1 hfailed
      have hthen := hcode k i (by rw [List.getElem?_append_left hk, hfailed])
      rwa [List.take_append_of_le_length hk.le] at hthen
    have hrun : tally (RowWrite.runAll ((events ++ [event]).map BookEvent.rowWrite) row) =
        (tally (RowWrite.runAll (events.map BookEvent.rowWrite) row)).apply event.rowWrite := by
      rw [List.map_append, List.map_singleton, tally_runAll, tally_runAll, List.foldl_concat]
    rw [hrun, ih hcode', List.filterMap_append, List.foldl_append, List.any_append]
    have hset := code_ne_none_of_any hcode'
    generalize (events.filterMap BookEvent.bookkeeping?).foldl Tally.apply (tally row) = t at hset ⊢
    cases event with
    | transcribeFailed i =>
      show Tally.apply (if _ then _ else _) .recordTranscribeFailed = if (_ || true) = true then _ else _
      rw [Bool.or_true, if_pos rfl]
      split
      · exact Tally.apply_recordTranscribeFailed_idem t
      · rfl
    | write w =>
      show Tally.apply (if _ then _ else _) w = if (_ || false) = true then _ else _
      rw [Bool.or_false]
      cases hw : w.isBookkeeping with
      | false =>
        have hnone : [BookEvent.write w].filterMap BookEvent.bookkeeping? = [] := by simp [BookEvent.bookkeeping?, hw]
        rw [hnone, Tally.apply_of_not_isBookkeeping hw, List.foldl_nil]
      | true =>
        have hsome : [BookEvent.write w].filterMap BookEvent.bookkeeping? = [w] := by simp [BookEvent.bookkeeping?, hw]
        rw [hsome, List.foldl_cons, List.foldl_nil]
        split
        · exact Tally.apply_recordTranscribeFailed_comm (hset ‹_›) w
        · rfl

/-- Of the attempts after the first, those that were refused are not counted and the others leave the code. -/
theorem Tally.foldl_attempt (attempts : List Attempt) : attempts.foldl attempt { attempts := 0, code := none } =
    { attempts := attempts.length - attempts.tail.countP Attempt.isExhausted, code := attempts.head?.map Attempt.code } := by
  cases attempts with
  | nil => rfl
  | cons first rest =>
    have hfirst : attempt { attempts := 0, code := none } first = { attempts := 1, code := some first.code } := by
      simp [attempt]
    have hplaced : (fun a : Attempt => decide ¬ a.isExhausted = true) = fun a => !a.isExhausted := by
      funext a
      cases a.isExhausted <;> rfl
    have hlength := @List.length_eq_countP_add_countP _ Attempt.isExhausted rest
    rw [hplaced] at hlength
    rw [List.foldl_cons, hfirst, foldl_attempt_of_code rfl, List.tail_cons, List.length_cons]
    congr 1
    show 1 + _ = _
    omega

/-- What a run leaves of the books of a row that had none. -/
theorem Run.tally_eq {row : Option Response} {events : List BookEvent} {attempts : List Attempt}
    (hattempts : attemptsOf row = 0) (hcode : callResultCodeOf row = none) (hrun : Run attempts events) :
    tally (RowWrite.runAll (events.map BookEvent.rowWrite) row) = {
      attempts := attempts.length - attempts.tail.countP Attempt.isExhausted
      code :=
        if attempts.head?.map Attempt.code = some "RECORDED" ∧ events.any BookEvent.isTranscribeFailed = true then
          some "TRANSCRIBE_FAILED"
        else attempts.head?.map Attempt.code } := by
  have hwrites : (events.filterMap BookEvent.bookkeeping?).foldl Tally.apply (tally row) =
      { attempts := attempts.length - attempts.tail.countP Attempt.isExhausted, code := attempts.head?.map Attempt.code } := by
    rw [hrun.books, List.foldl_flatMap, tally, hattempts, hcode]
    simp only [Tally.foldl_writes]
    exact Tally.foldl_attempt attempts
  rw [tally_of_events fun k i hfailed => hrun.code_ne_none hfailed _, hwrites, Tally.apply]
  by_cases hrecorded : attempts.head?.map Attempt.code = some "RECORDED" <;>
    by_cases hany : events.any BookEvent.isTranscribeFailed = true <;> simp [hrecorded, hany]

/-- A recording is given up only of a call that was recorded. -/
theorem Run.recorded_of_lastFailed {events : List BookEvent} {attempts : List Attempt} (hrun : Run attempts events)
    (h : LastFailed attempts events) :
    events.any BookEvent.isTranscribeFailed = true ∧ attempts.getLast?.map Attempt.code = some "RECORDED" := by
  obtain ⟨k, hk⟩ := List.mem_iff_getElem?.1 h
  obtain ⟨attempt, hattempt, hcode, -⟩ := hrun.recorded k _ hk
  refine ⟨List.any_eq_true.2 ⟨_, h, rfl⟩, ?_⟩
  rw [List.getLast?_eq_getElem?, hattempt, Option.map_some, hcode]

/-- The books are right exactly when every attempt after the first placed a contact and the last call ended as the
first one did, a failed transcription taken into account. -/
theorem keepsBooks_iff {row : Option Response} {events : List BookEvent} {attempts : List Attempt}
    (hattempts : attemptsOf row = 0) (hcode : callResultCodeOf row = none) (hrun : Run attempts events) :
    KeepsBooks attempts events (RowWrite.runAll (events.map BookEvent.rowWrite) row) ↔
      (∀ attempt ∈ attempts.tail, attempt.isExhausted = false) ∧ EndsAsFirst attempts events := by
  have htally := hrun.tally_eq hattempts hcode
  have hcount := congrArg Tally.attempts htally
  have hlast := congrArg Tally.code htally
  have hfailed := congrArg Tally.code (tally_run .recordTranscribeFailed (RowWrite.runAll (events.map BookEvent.rowWrite) row))
  generalize RowWrite.runAll (events.map BookEvent.rowWrite) row = left at *
  have hcount : attemptsOf left = _ := hcount
  have hlast : callResultCodeOf left = _ := hlast
  have hfailed : callResultCodeOf (RowWrite.recordTranscribeFailed.run left) = _ := hfailed
  have hall : attemptsOf left = attempts.length ↔ ∀ attempt ∈ attempts.tail, attempt.isExhausted = false := by
    have hle := (List.countP_le_length (p := Attempt.isExhausted)).trans_eq (List.length_tail (l := attempts))
    have hiff : attempts.tail.countP Attempt.isExhausted = 0 ↔ ∀ attempt ∈ attempts.tail, attempt.isExhausted = false := by
      simp
    rw [hcount, ← hiff]
    simp only
    omega
  have hcodes : ((¬ LastFailed attempts events → callResultCodeOf left = attempts.getLast?.map Attempt.code) ∧
      (LastFailed attempts events → callResultCodeOf left = some "TRANSCRIBE_FAILED")) ↔ EndsAsFirst attempts events := by
    by_cases hlastFailed : LastFailed attempts events
    · obtain ⟨hany, -⟩ := hrun.recorded_of_lastFailed hlastFailed
      rw [EndsAsFirst, if_pos hlastFailed, hlast]
      by_cases hrecorded : attempts.head?.map Attempt.code = some "RECORDED" <;> simp [hlastFailed, hany, hrecorded]
    · rw [EndsAsFirst, if_neg hlastFailed, hlast]
      split <;> simp [hlastFailed, eq_comm]
  constructor
  · intro hbooks
    exact ⟨hall.1 hbooks.callAttempts, hcodes.1 ⟨hbooks.callResultCode, hbooks.lastFailed⟩⟩
  · intro hboth
    obtain ⟨hplaced, hends⟩ := hboth
    obtain ⟨hcode, hgivenUp⟩ := hcodes.2 hends
    refine ⟨hall.2 hplaced, hcode, hgivenUp, fun hrecorded => ?_⟩
    rw [hfailed]
    by_cases hlastFailed : LastFailed attempts events
    · simp [tally, Tally.apply, hgivenUp hlastFailed]
    · simp [tally, Tally.apply, hcode hlastFailed, hrecorded]

/-- A busy line, and a call that is recorded on the redial. -/
def busyThenRecorded : List Attempt :=
  [.placed "k1" 10 ⟨"BUSY", by decide⟩ 11 [12], .placed "k2" 70 ⟨"RECORDED", by decide⟩ 71 []]

/-- The redial leaves no code, and a refused attempt after it is not counted. -/
theorem retried_call_not_recorded :
    let row := RowWrite.runAll (busyThenRecorded.flatMap Attempt.writes) ((initAttempt 1).run none)
    callResultCodeOf row = some "BUSY" ∧ callResultCodeOf (RowWrite.recordTranscribeFailed.run row) = some "BUSY" ∧
      attemptsOf (RowWrite.runAll (Attempt.exhausted 130).writes row) = 2 ∧
      ¬ KeepsBooks busyThenRecorded ((busyThenRecorded.flatMap Attempt.writes).map .write) row := by
  refine ⟨by decide, by decide, by decide, fun hbooks => ?_⟩
  have hcode := hbooks.callResultCode (by decide)
  revert hcode
  decide

/-- Two calls that are both recorded, one CallEndHandler invocation delivered twice. -/
def recordedTwice : List Attempt :=
  [.placed "k1" 10 ⟨"RECORDED", by decide⟩ 11 [12], .placed "k2" 70 ⟨"RECORDED", by decide⟩ 71 []]

/-- The recording of the second call is given up. -/
def recordedTwiceEvents : List BookEvent := (recordedTwice.flatMap Attempt.writes).map .write ++ [.transcribeFailed 1]

theorem run_recordedTwice : Run recordedTwice recordedTwiceEvents where
  books := by decide
  recorded := by
    intro k i hfailed
    obtain ⟨hk, -⟩ := List.getElem?_eq_some_iff.1 hfailed
    have hk : k < 6 := hk
    interval_cases k <;> cases hfailed
    exact ⟨_, rfl, rfl, by decide⟩

theorem keepsBooks_recordedTwice :
    KeepsBooks recordedTwice recordedTwiceEvents
      (RowWrite.runAll (recordedTwiceEvents.map BookEvent.rowWrite) ((initAttempt 1).run none)) :=
  (keepsBooks_iff (by decide) (by decide) run_recordedTwice).2 (by decide)

end Response

end SafetyConfirmation
