import SafetyConfirmation.Lib.StepMachine
import SafetyConfirmation.StateMachine.Iteration

/-!
# The retry loop

The iteration from `Dispatch` to `FinalizeOne`, with whatever each `ReadResponse` finds and each `Dispatch` ends in, as
long as its errors are caught into `WaitForTranscribe`. The counter is in the state machine and the decision in the
lambda; together they dial as often as the cycle allows, and at least once.
-/

namespace SafetyConfirmation

namespace StateMachine

open KeyedStore Response StepMachine

/-- The error of a `Dispatch` after which the loop goes on. -/
def CaughtIntoWait (name : String) : Prop :=
  (Frame.onError { control := .dispatch } name).control = .waitForTranscribe

instance (name : String) : Decidable (CaughtIntoWait name) := inferInstanceAs (Decidable (_ = _))

/-- What the state that is due meets: how a `Dispatch` ends, the row that a `ReadResponse` finds, and the clocks. -/
structure Answer where
  dispatchError : Option String := none
  row : Response
  voiceStatus : VoiceStatus
  enteredTime : Instant := 0
  now : Instant := 0
  isCaught : ∀ name ∈ dispatchError, CaughtIntoWait name
  isRead : row.voiceStatus = some voiceStatus

/-- A frame in the loop, with the attempts that were passed to `Dispatch`, the statuses that were read, and the row that
`FinalizeOne` has left. -/
structure Loop where
  frame : Frame := { control := .dispatch }
  dispatched : List Nat := []
  read : List VoiceStatus := []
  written : Option Response := none
  deriving DecidableEq

def Answer.next (input : Input) (frame : Frame) (answer : Answer) : Option Frame :=
  match frame.control, answer.dispatchError with
  | .dispatch, some name => some (frame.onError name)
  | _, _ => frame.next input (some answer.row) answer.enteredTime answer.now

def loopStep (input : Input) (s : Loop) (answer : Answer) : Option Loop :=
  (answer.next input s.frame).map fun frame =>
    { frame := frame
      dispatched := if s.frame.control = .dispatch then s.dispatched ++ [s.frame.currentAttempt] else s.dispatched
      read := if s.frame.control = .readResponse then s.read ++ [answer.voiceStatus] else s.read
      written :=
        if s.frame.control = .finalizeOne then (s.frame.write input answer.enteredTime).run (some answer.row)
        else s.written }

/-- The cycle's settings, as CycleApi accepts them. -/
structure Input.Valid (input : Input) (retryCount : Nat) : Prop where
  cycleId : input.cycleId ≠ ""
  employeeId : input.employeeId ≠ ""
  retryCount : input.retryCount = .int retryCount
  interval : ∃ interval, input.retryIntervalMinutes = .int interval ∧
    Retry.minIntervalMinutes ≤ interval ∧ interval ≤ Retry.maxIntervalMinutes

/-- The status an employee is left with who was last read to have this one. -/
def finalOf (status : VoiceStatus) : VoiceStatus := if status.isConfirmed then status else .unreachable

/-! ### The invariant -/

/-- The statuses read before the last one, which calls for another attempt. -/
structure LastRead (read : List VoiceStatus) (status : VoiceStatus) : Prop where
  getLast : read.getLast? = some status
  earlier : ∀ earlier ∈ read.dropLast, earlier.isRetryable = true

def Redials (retryCount : Nat) (frame : Frame) (status : VoiceStatus) : Prop :=
  status.isRetryable = true ∧ frame.currentAttempt < retryCount

/-- What each state of the loop has behind it. -/
def Loop.Phase (retryCount : Nat) (s : Loop) : Prop :=
  match s.frame.control with
  | .dispatch | .waitForTranscribe | .readResponse => ∀ status ∈ s.read, status.isRetryable = true
  | .evaluateRetry => ∃ status, LastRead s.read status ∧ statusOf s.frame.responseRow = some status
  | .retryChoice => ∃ status decision, LastRead s.read status ∧ s.frame.evaluateResult = some decision ∧
      (decision.retry = true ∧ Redials retryCount s.frame status ∨
        decision = .final (finalOf status) ∧ ¬ Redials retryCount s.frame status)
  | .waitInterval | .incrementAttempt =>
    (∀ status ∈ s.read, status.isRetryable = true) ∧ s.frame.currentAttempt < retryCount
  | .finalizeOne => ∃ status, LastRead s.read status ∧ s.frame.evaluateResult = some (.final (finalOf status)) ∧
      ¬ Redials retryCount s.frame status
  | .finalized => ∃ status, LastRead s.read status ∧ statusOf s.written = some (finalOf status) ∧
      ¬ Redials retryCount s.frame status
  | .initAttempt | .finalizeOneError | .finalizedError | .failed => False

/-- How many times `Dispatch` was entered: the one that is due is not counted. -/
def Frame.dispatches (frame : Frame) : Nat :=
  if frame.control = .dispatch then frame.currentAttempt - 1 else frame.currentAttempt

structure Turning (retryCount : Nat) (s : Loop) : Prop where
  positive : 1 ≤ s.frame.currentAttempt
  bounded : s.frame.currentAttempt ≤ max 1 retryCount
  dispatched : s.dispatched = List.range' 1 s.frame.dispatches
  phase : s.Phase retryCount

/-- The states that are left before `FinalizeOne` has run, were this attempt the last. -/
def Control.left : Control → Nat
  | .dispatch => 8
  | .waitForTranscribe => 7
  | .readResponse => 6
  | .evaluateRetry => 5
  | .retryChoice => 4
  | .waitInterval => 3
  | .incrementAttempt => 2
  | .finalizeOne => 1
  | _ => 0

def Loop.left (retryCount : Nat) (s : Loop) : Nat :=
  (max 1 retryCount - s.frame.currentAttempt) * 9 + s.frame.control.left

/-! ### One step -/

section

variable {input : Input} {retryCount : Nat}

theorem lastRead_append {read : List VoiceStatus} (h : ∀ status ∈ read, status.isRetryable = true)
    (status : VoiceStatus) : LastRead (read ++ [status]) status where
  getLast := List.getLast?_concat
  earlier := by
    rw [List.dropLast_concat]
    exact h

theorem LastRead.forall {read : List VoiceStatus} {status : VoiceStatus} (h : LastRead read status)
    (hstatus : status.isRetryable = true) : ∀ status ∈ read, status.isRetryable = true := by
  intro before hmem
  rw [← List.dropLast_append_getLast? status h.getLast] at hmem
  obtain hearlier | hlast := List.mem_append.1 hmem
  · exact h.earlier before hearlier
  · rw [List.mem_singleton.1 hlast]
    exact hstatus

theorem onError_of_caughtIntoWait {frame : Frame} {name : String} (hcontrol : frame.control = .dispatch)
    (h : CaughtIntoWait name) : frame.onError name = { frame with control := .waitForTranscribe } := by
  obtain ⟨control, currentAttempt, responseRow, evaluateResult⟩ := frame
  cases hcontrol
  rw [CaughtIntoWait, Frame.onError] at h
  rw [Frame.onError]
  dsimp only at h ⊢
  cases hfind : Control.dispatch.catchers.find? fun catcher => catcher.errorEquals.any (matchesError name) with
  | none =>
    rw [hfind] at h
    cases h
  | some catcher =>
    rw [hfind] at h
    dsimp only at h ⊢
    rw [h]

/-- The lambda answers: a redial where the status calls for it and attempts are left, the final status where not. -/
theorem evaluate_of_valid (hvalid : input.Valid retryCount) {frame : Frame} {status : VoiceStatus}
    (hstatus : statusOf frame.responseRow = some status) (enteredTime now : Instant) :
    ∃ decision, frame.evaluate input enteredTime now =
        { frame with control := .retryChoice, evaluateResult := some decision } ∧
      (decision.retry = true ∧ Redials retryCount frame status ∨
        decision = .final (finalOf status) ∧ ¬ Redials retryCount frame status) := by
  obtain ⟨interval, hinterval, hrange⟩ := hvalid.interval
  obtain ⟨decision, hdecision⟩ := @Retry.exists_lambdaHandler_eq_ok (frame.retryEvent input enteredTime status) now status
    frame.currentAttempt retryCount interval hvalid.cycleId hvalid.employeeId rfl rfl hvalid.retryCount hinterval
    (Int.natCast_nonneg _) (Int.natCast_nonneg _) hrange
  refine ⟨decision, ?_, ?_⟩
  · rw [Frame.evaluate, hstatus]
    dsimp only
    rw [hdecision]
  · have hredials : ∀ retry, Retry.shouldRetry status.name (frame.retryEvent input enteredTime status).callResultCode
        (.int frame.currentAttempt) input.retryCount = .ok retry → (retry = true ↔ Redials retryCount frame status) := by
      intro retry hretry
      obtain ⟨n, m, hn, hm, -, -, rfl⟩ := Retry.shouldRetry_eq_ok.1 hretry
      cases hn
      rw [hvalid.retryCount] at hm
      cases hm
      rw [Bool.and_eq_true, decide_eq_true_eq, Int.ofNat_lt]
      exact Iff.rfl
    obtain ⟨hretry, wait, next, rfl⟩ | ⟨hretry, final, hfinal, rfl⟩ := Retry.lambdaHandler_cases hdecision
    · exact .inl ⟨rfl, (hredials true hretry).1 rfl⟩
    · have hname : (frame.retryEvent input enteredTime status).voiceStatus = status.name := rfl
      rw [hname, Retry.deriveFinalStatus_name] at hfinal
      cases hfinal
      exact .inr ⟨rfl, fun h => Bool.false_ne_true ((hredials false hretry).2 h)⟩

/-- A state other than `Dispatch` takes its step as it does on success. -/
theorem loopStep_eq {s : Loop} (hcontrol : s.frame.control ≠ .dispatch) (answer : Answer) :
    loopStep input s answer =
      (s.frame.next input (some answer.row) answer.enteredTime answer.now).map fun frame =>
        { frame := frame
          dispatched := s.dispatched
          read := if s.frame.control = .readResponse then s.read ++ [answer.voiceStatus] else s.read
          written :=
            if s.frame.control = .finalizeOne then (s.frame.write input answer.enteredTime).run (some answer.row)
            else s.written } := by
  have hnext : answer.next input s.frame = s.frame.next input (some answer.row) answer.enteredTime answer.now := by
    rw [Answer.next]
    split
    · rename_i hdispatch _
      exact absurd hdispatch hcontrol
    · rfl
  rw [loopStep, hnext]
  simp only [if_neg hcontrol]

theorem loopStep_dispatch {s : Loop} (hcontrol : s.frame.control = .dispatch) (answer : Answer) :
    loopStep input s answer = some { s with
      frame := { s.frame with control := .waitForTranscribe }
      dispatched := s.dispatched ++ [s.frame.currentAttempt] } := by
  have hnext : answer.next input s.frame = some { s.frame with control := .waitForTranscribe } := by
    rw [Answer.next, hcontrol]
    cases herror : answer.dispatchError with
    | none =>
      dsimp only
      rw [Frame.next, hcontrol]
    | some name =>
      dsimp only
      rw [onError_of_caughtIntoWait hcontrol (answer.isCaught name (by rw [herror]; rfl))]
  rw [loopStep, hnext, hcontrol]
  rfl

/-- Every state of the loop takes a step on every answer, and is nearer to the end after it. -/
theorem turning_loopStep (hvalid : input.Valid retryCount) {s : Loop} (hs : Turning retryCount s)
    (hended : s.frame.control ≠ .finalized) (answer : Answer) :
    ∃ t, loopStep input s answer = some t ∧ Turning retryCount t ∧ t.left retryCount < s.left retryCount := by
  obtain ⟨⟨control, attempt, responseRow, evaluateResult⟩, dispatched, read, written⟩ := s
  obtain ⟨hpositive, hbounded, hdispatched, hphase⟩ := hs
  cases control with
  | dispatch =>
    refine ⟨_, loopStep_dispatch rfl answer, ⟨hpositive, hbounded, ?_, hphase⟩, Nat.lt_succ_self _⟩
    obtain ⟨before, rfl⟩ := Nat.exists_eq_add_of_le' hpositive
    rw [show dispatched = List.range' 1 before from hdispatched]
    show _ = List.range' 1 (before + 1)
    rw [List.range'_concat, Nat.one_mul, Nat.add_comm]
  | waitForTranscribe =>
    exact ⟨_, loopStep_eq (fun h => Control.noConfusion h) answer, ⟨hpositive, hbounded, hdispatched, hphase⟩, Nat.lt_succ_self _⟩
  | readResponse =>
    refine ⟨_, loopStep_eq (fun h => Control.noConfusion h) answer, ⟨hpositive, hbounded, hdispatched, ?_⟩, Nat.lt_succ_self _⟩
    exact ⟨answer.voiceStatus, lastRead_append hphase _, answer.isRead⟩
  | evaluateRetry =>
    obtain ⟨status, hread, hstatus⟩ := hphase
    obtain ⟨decision, heq, hdecision⟩ := evaluate_of_valid hvalid hstatus answer.enteredTime answer.now
    refine ⟨_, (loopStep_eq (fun h => Control.noConfusion h) answer).trans (congrArg (Option.map _) (congrArg some heq)), ?_⟩
    exact ⟨⟨hpositive, hbounded, hdispatched, status, decision, hread, rfl, hdecision⟩, Nat.lt_succ_self _⟩
  | retryChoice =>
    obtain ⟨status, decision, hread, rfl, ⟨hretry, hredials⟩ | ⟨rfl, hredials⟩⟩ := hphase
    · have hnext := @loopStep_eq input ⟨⟨.retryChoice, attempt, responseRow, some decision⟩, dispatched, read, written⟩
        (fun h => Control.noConfusion h) answer
      simp only [Frame.next, hretry, if_true] at hnext
      refine ⟨_, hnext, ⟨hpositive, hbounded, hdispatched, hread.forall hredials.1, hredials.2⟩, Nat.lt_succ_self _⟩
    · refine ⟨_, loopStep_eq (fun h => Control.noConfusion h) answer, ⟨hpositive, hbounded, hdispatched, ?_⟩, ?_⟩
      · exact ⟨status, hread, rfl, hredials⟩
      · show (max 1 retryCount - attempt) * 9 + 1 < (max 1 retryCount - attempt) * 9 + 4
        omega
  | waitInterval =>
    exact ⟨_, loopStep_eq (fun h => Control.noConfusion h) answer, ⟨hpositive, hbounded, hdispatched, hphase⟩, Nat.lt_succ_self _⟩
  | incrementAttempt =>
    obtain ⟨hread, hleft⟩ := hphase
    refine ⟨_, loopStep_eq (fun h => Control.noConfusion h) answer, ⟨Nat.le_add_left 1 _, ?_, hdispatched, hread⟩, ?_⟩
    · exact Nat.le_trans hleft (Nat.le_max_right 1 retryCount)
    · have hmax : retryCount ≤ max 1 retryCount := le_max_right _ _
      show (max 1 retryCount - (attempt + 1)) * 9 + 8 < (max 1 retryCount - attempt) * 9 + 2
      dsimp only at hleft
      omega
  | finalizeOne =>
    obtain ⟨status, hread, rfl, hredials⟩ := hphase
    refine ⟨_, loopStep_eq (fun h => Control.noConfusion h) answer, ⟨hpositive, hbounded, hdispatched, ?_⟩, Nat.lt_succ_self _⟩
    exact ⟨status, hread, rfl, hredials⟩
  | finalized => exact absurd rfl hended
  | initAttempt | finalizeOneError | finalizedError | failed => exact hphase.elim

end

/-! ### The whole loop -/

/-- What the loop has done when it ends. -/
structure Ended (retryCount : Nat) (s : Loop) : Prop where
  finalized : s.frame.control = .finalized
  bounded : s.dispatched.length ≤ max 1 retryCount
  exhausted : (∀ status ∈ s.read, status ≠ .safe ∧ status ≠ .injured ∧ status ≠ .unavailable ∧ status ≠ .unreachable) →
    s.dispatched.length = max 1 retryCount
  attempts : ∀ k (hk : k < s.dispatched.length), s.dispatched.get ⟨k, hk⟩ = k + 1
  written : ∃ last final, s.read.getLast? = some last ∧ statusOf s.written = some final ∧ final.isTerminal = true ∧
    final = if last.isConfirmed then last else .unreachable

theorem isTerminal_finalOf (status : VoiceStatus) : (finalOf status).isTerminal = true := by
  cases status <;> rfl

theorem ended_of_turning {retryCount : Nat} {s : Loop} (hs : Turning retryCount s)
    (hfinalized : s.frame.control = .finalized) : Ended retryCount s := by
  have hdispatched := hs.dispatched
  have hphase := hs.phase
  rw [Frame.dispatches, hfinalized, if_neg (by decide)] at hdispatched
  rw [Loop.Phase, hfinalized] at hphase
  obtain ⟨status, hread, hwritten, hredials⟩ := hphase
  have hlength : s.dispatched.length = s.frame.currentAttempt := by
    rw [hdispatched, List.length_range']
  refine ⟨hfinalized, hlength ▸ hs.bounded, ?_, ?_, ?_⟩
  · intro hopen
    have hretryable : status.isRetryable = true := by
      obtain ⟨hsafe, hinjured, hunavailable, hunreachable⟩ := hopen status (List.mem_of_getLast? hread.getLast)
      cases status <;> first | rfl | contradiction
    have hspent : retryCount ≤ s.frame.currentAttempt := by
      by_contra hlt
      exact hredials ⟨hretryable, Nat.lt_of_not_le hlt⟩
    rw [hlength]
    exact Nat.le_antisymm hs.bounded (max_le hs.positive hspent)
  · intro k hk
    simp only [List.get_eq_getElem, hdispatched, List.getElem_range', Nat.one_mul, Nat.add_comm]
  · exact ⟨status, finalOf status, hread.getLast, hwritten, isTerminal_finalOf status, rfl⟩

theorem turning_start (retryCount : Nat) : Turning retryCount {} where
  positive := le_refl 1
  bounded := le_max_left 1 retryCount
  dispatched := rfl
  phase := fun _ h => (List.not_mem_nil h).elim

/-- Whatever is read, the loop ends: after at most as many dispatches as the cycle allows, numbered from one, and with
the status that the last reading calls for. -/
theorem loop_ends {input : Input} {retryCount : Nat} (hvalid : input.Valid retryCount) (answers : Nat → Answer) :
    ∃ n s, exec (loopStep input) {} ((List.range n).map answers) = some s ∧ Ended retryCount s := by
  obtain ⟨n, s, hrun, hs, hended⟩ := @exists_exec_done _ _ (loopStep input) (Turning retryCount)
    (fun s => s.frame.control = .finalized) (Loop.left retryCount)
    (fun _ answer hs hended => turning_loopStep hvalid hs hended answer) {} (turning_start retryCount) answers
  exact ⟨n, s, hrun, ended_of_turning hs hended⟩

def twoAttempts : Input where
  cycleId := "c0"
  employeeId := "e0"
  retryCount := .int 2
  retryIntervalMinutes := .int 5
  dictionaryVersion := 1

/-- A dispatch that times out, and a row that no call has changed. -/
def unanswered : Answer where
  dispatchError := some "States.Timeout"
  row := { voiceStatus := some .pending }
  voiceStatus := .pending
  isCaught := by decide
  isRead := rfl

theorem loop_ends_twoAttempts :
    ∃ n s, exec (loopStep twoAttempts) {} ((List.range n).map fun _ => unanswered) = some s ∧ Ended 2 s := by
  refine loop_ends ⟨by decide, by decide, rfl, 5, rfl, ?_, ?_⟩ fun _ => unanswered
  · decide
  · decide

end StateMachine

end SafetyConfirmation
