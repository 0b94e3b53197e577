import SafetyConfirmation.Cycle.Closing

/-!
# The rows of a closed cycle

An invocation closes the cycle on the rows its query found, one page at a time, while the other writers go on. At each
of its calls the rows that are still open are the ones it has yet to reach or to flip, and the ones a step opened since
its query began; nothing else opens a row afterwards either.
-/

namespace SafetyConfirmation

namespace CycleFinalizer

open KeyedStore StepMachine Response StateMachine Finalize

/-- The row has one of the statuses the finalizer counts as pending. -/
def isOpen (row : Option Response) : Bool := (statusOf row).any VoiceStatus.isRetryable

theorem isOpen_of_statusOf {row : Option Response} {status : VoiceStatus} (h : statusOf row = some status) :
    isOpen row = status.isRetryable := by
  rw [isOpen, h]
  rfl

theorem isOpen_forceResponseUnreachable (row : Option Response) : isOpen (forceResponseUnreachable.run row) = false := by
  rw [forceResponseUnreachable_run]
  split
  · rfl
  · exact Bool.eq_false_iff.2 ‹_›

theorem exists_row_of_isOpen {responses : Store String Response} {employeeId : String}
    (h : isOpen (responses.lookup employeeId) = true) : ∃ row, responses.lookup employeeId = some row ∧
      hasStatus VoiceStatus.isRetryable (employeeId, row) = true := by
  cases hrow : responses.lookup employeeId with
  | none =>
    rw [hrow] at h
    cases h
  | some row =>
    rw [hrow] at h
    exact ⟨row, rfl, h⟩

variable {ι : Type} {x : Execution}

/-- The steps that leave a row open: a transcript without a match or its fallback, an inbound call that finds no row,
and the two writes of the iteration, `InitAttempt` where no row is and `FinalizeOneError`. -/
inductive OpensRow (employeeId : String) (s : State ι) : Label ι → Prop where
  | transcript {w : RowWrite} (h : w.IsOther) : OpensRow employeeId s (.map (.write employeeId w))
  | inbound (h : s.world.responses.lookup employeeId = none) : OpensRow employeeId s (.map (.write employeeId .putInbound))
  | initAttempt {event : Event} {frame : Frame} (hframe : s.frames.lookup employeeId = some frame)
      (hcontrol : frame.control = .initAttempt) (h : s.world.responses.lookup employeeId = none) :
      OpensRow employeeId s (.map (.iterate employeeId event))
  | finalizeOneError {event : Event} {frame : Frame} (hframe : s.frames.lookup employeeId = some frame)
      (hcontrol : frame.control = .finalizeOneError) : OpensRow employeeId s (.map (.iterate employeeId event))

theorem statusOf_of_classified {w : RowWrite} {status : VoiceStatus} (h : w.classified? = some status)
    (row : Option Response) : statusOf (w.run row) = some status := by
  cases w with
  | recordResponse c => exact h
  | recordOtherFallback => exact h
  | _ => cases h

theorem isOpen_run {w : RowWrite} {row : Option Response} (h : isOpen (w.run row) = true) :
    isOpen row = true ∨ w.IsOther ∨ w = .putInbound ∧ row = none := by
  rcases statusOf_run w row with ⟨status, hset, hrun⟩ | ⟨hw, hrow, -⟩ | ⟨-, -, hrun⟩ | ⟨-, hrun⟩
  · rw [isOpen_of_statusOf hrun] at h
    refine .inr (.inl ?_)
    cases w with
    | recordResponse c =>
      cases hset
      rcases c.isClassified with hconfirmed | hother
      · have hterminal := VoiceStatus.isTerminal_of_isConfirmed hconfirmed
        rw [VoiceStatus.isTerminal_eq_not_isRetryable, h] at hterminal
        cases hterminal
      · exact congrArg some hother
    | recordOtherFallback => rfl
    | _ => cases hset
  · exact .inr (.inr ⟨hw, hrow⟩)
  · rw [isOpen_of_statusOf hrun] at h
    cases h
  · rw [isOpen, hrun] at h
    exact .inl h

/-- The iteration opens a row in `InitAttempt`, where none is, and in `FinalizeOneError`. -/
theorem isOpen_write {input : Input} {frame : Frame} {row : Option Response} (enteredTime : Instant)
    (hdecided : frame.Decided) (h : isOpen ((frame.write input enteredTime).run row) = true) :
    isOpen row = true ∨ frame.control = .initAttempt ∧ row = none ∨ frame.control = .finalizeOneError := by
  cases hcontrol : frame.control with
  | initAttempt =>
    rw [Frame.write, hcontrol] at h
    cases row with
    | none => exact .inr (.inl ⟨rfl, rfl⟩)
    | some row => exact .inl h
  | finalizeOne =>
    rw [Frame.Decided, hcontrol] at hdecided
    obtain ⟨status, finalStatus, -, hfinal, hresult⟩ := hdecided
    have hterminal := Retry.isTerminal_of_deriveFinalStatus hfinal
    rw [Frame.write, hcontrol, hresult] at h
    have hopen : finalStatus.isRetryable = true := h
    rw [VoiceStatus.isTerminal_eq_not_isRetryable, hopen] at hterminal
    cases hterminal
  | finalizeOneError => exact .inr (.inr rfl)
  | _ =>
    rw [write_eq_skip enteredTime (by rw [hcontrol]; rfl), Write.run_skip] at h
    exact .inl h

theorem isTerminal_or_isOpen {s : State ι} (hs : MapSound x s.map) {employeeId : String} {row : Response}
    (hrow : s.world.responses.lookup employeeId = some row) :
    (∃ status, row.voiceStatus = some status ∧ status.isTerminal = true) ∨
      isOpen (s.world.responses.lookup employeeId) = true := by
  obtain ⟨status, hstatus⟩ := (hs.row employeeId row hrow).status
  have hrowStatus : statusOf (some row) = some status := hstatus
  rw [hrow, isOpen_of_statusOf hrowStatus]
  cases hopen : status.isRetryable with
  | true => exact .inr rfl
  | false => exact .inl ⟨status, hstatus, by rw [VoiceStatus.isTerminal_eq_not_isRetryable, hopen, Bool.not_false]⟩

variable [LinearOrder ι] {position : String → ι}

/-- The four kinds of steps are the only ones after which a row is open that was not. -/
theorem opensRow_of_step {s t : State ι} {label : Label ι} (hs : MapSound x s.map)
    (h : step x position s label = some t) {employeeId : String}
    (hopen : isOpen (t.world.responses.lookup employeeId) = true) :
    isOpen (s.world.responses.lookup employeeId) = true ∨ OpensRow employeeId s label := by
  by_cases hlabel : label.isFinalizer = true
  · left
    rcases responses_of_finalizer_step hlabel h with hsame | ⟨forced, hforced⟩
    · rw [← hsame]
      exact hopen
    · rw [hforced] at hopen
      by_cases heq : employeeId = forced
      · rw [heq, Store.lookup_write_self, isOpen_forceResponseUnreachable] at hopen
        cases hopen
      · rw [Store.lookup_write_ne _ _ heq] at hopen
        exact hopen
  · cases steps_of_step h with
    | @mapped label m hm =>
      obtain ⟨written, hother, hcases⟩ := mapStep_cases hm
      by_cases heq : employeeId = written
      · subst employeeId
        rcases hcases with ⟨-, -, -, -, hsame⟩ | ⟨event, frame, frame', row', rfl, hframe, hstep, -, hrow⟩ |
          ⟨w, rfl, -, -, hrow⟩
        · exact .inl (hsame ▸ hopen)
        · have hrow' : isOpen row' = true := hrow ▸ hopen
          rcases step_row hstep with rfl | ⟨enteredTime, rfl⟩
          · exact .inl hrow'
          · rcases isOpen_write enteredTime (hs.decided written frame hframe) hrow' with hbefore | ⟨hcontrol, hnone⟩ | hcontrol
            · exact .inl hbefore
            · exact .inr (.initAttempt hframe hcontrol hnone)
            · exact .inr (.finalizeOneError hframe hcontrol)
        · have hrun : isOpen (w.run (s.world.responses.lookup written)) = true := hrow ▸ hopen
          rcases isOpen_run hrun with hbefore | hw | ⟨rfl, hnone⟩
          · exact .inl hbefore
          · exact .inr (.transcript hw)
          · exact .inr (.inbound hnone)
      · exact .inl ((hother employeeId heq).2 ▸ hopen)
    | invoked _ | died _ _ => exact absurd rfl hlabel
    | moved _ _ hafter => rcases hafter with ⟨rfl, -⟩ | ⟨rfl, -⟩ <;> exact absurd rfl hlabel

theorem mapSound_map_of_step {s t : State ι} {label : Label ι} (hs : MapSound x s.map)
    (h : step x position s label = some t) : MapSound x t.map := by
  cases steps_of_step h with
  | mapped hm => exact mapSound_step hs hm
  | invoked _ | died _ _ => exact hs
  | moved _ hcall _ =>
    cases Invocation.moves_of_call hcall with
    | @forced _ _ employeeId _ =>
      -- the flip is one of the writes the Map is prepared for
      exact @mapSound_step x s.map _ (.write employeeId .forceResponseUnreachable) hs rfl
    | _ => exact hs

/-! ### What an invocation has in hand -/

namespace Invocation

/-- The invocation is on its way to an update of the cycle's status. -/
def isDeciding : Invocation ι → Bool
  | query .. | force .. | setCycleStatus _ => true
  | _ => false

variable (position) in
/-- Every open row but the ones in `opened` is one the invocation has yet to read, has read as open, or has yet to
flip. -/
def Covers (responses : Store String Response) (opened : String → Prop) : Invocation ι → Prop
  | query _ cursor found => ∀ employeeId, isOpen (responses.lookup employeeId) = true → opened employeeId ∨
      (∀ c ∈ cursor, c < position employeeId) ∨
      ∃ row, (employeeId, row) ∈ found ∧ hasStatus VoiceStatus.isRetryable (employeeId, row) = true
  | force _ pending => ∀ employeeId, isOpen (responses.lookup employeeId) = true →
      opened employeeId ∨ employeeId ∈ pending
  | setCycleStatus _ => ∀ employeeId, isOpen (responses.lookup employeeId) = true → opened employeeId
  | _ => True

theorem covers_of_not_isDeciding {responses : Store String Response} {opened : String → Prop}
    {invocation : Invocation ι} (h : invocation.isDeciding = false) : invocation.Covers position responses opened := by
  cases invocation with
  | query _ _ _ | force _ _ | setCycleStatus _ => cases h
  | _ => trivial

theorem covers_start {responses : Store String Response} {opened : String → Prop} {trigger : Trigger} :
    (query trigger none [] : Invocation ι).Covers position responses opened :=
  fun _ _ => .inr (.inl fun _ hc => by cases hc)

theorem Covers.mono {responses responses' : Store String Response} {opened opened' : String → Prop}
    {invocation : Invocation ι} (h : invocation.Covers position responses opened)
    (hsub : ∀ employeeId, opened employeeId → opened' employeeId)
    (hopen : ∀ employeeId, isOpen (responses'.lookup employeeId) = true →
      isOpen (responses.lookup employeeId) = true ∨ opened' employeeId) :
    invocation.Covers position responses' opened' := by
  cases invocation with
  | query trigger cursor found =>
    intro employeeId hrow
    rcases hopen employeeId hrow with hrow | hopened
    · exact (h employeeId hrow).imp_left (hsub employeeId)
    · exact .inl hopened
  | force stoppedResponses pending =>
    intro employeeId hrow
    rcases hopen employeeId hrow with hrow | hopened
    · exact (h employeeId hrow).imp_left (hsub employeeId)
    · exact .inl hopened
  | setCycleStatus closing =>
    intro employeeId hrow
    rcases hopen employeeId hrow with hrow | hopened
    · exact hsub employeeId (h employeeId hrow)
    · exact hopened
  | _ => trivial

/-- The rows read as open are the ones TIMER_60MIN flips. -/
theorem mem_of_applyTimeoutFrom {rows : List (String × Response)} {idx : Nat} {rewrites : List (String × VoiceStatus)}
    (h : applyTimeoutFrom idx (items rows) = .ok rewrites) {entry : String × Response} (hmem : entry ∈ rows)
    (hopen : hasStatus VoiceStatus.isRetryable entry = true) : entry.1 ∈ rewrites.map Prod.fst := by
  induction rows generalizing idx rewrites with
  | nil => cases hmem
  | cons head rows ih =>
    rw [items_cons, applyTimeoutFrom, statusIn_item, Checks.ok_bind] at h
    cases hhead : hasStatus VoiceStatus.isRetryable head with
    | true =>
      rw [hhead, if_pos rfl] at h
      obtain ⟨-, -, h⟩ := Checks.bind_eq_ok.1 h
      obtain ⟨rest, hrest, h⟩ := Checks.bind_eq_ok.1 h
      cases h
      rcases List.mem_cons.1 hmem with rfl | hmem
      · exact List.mem_cons_self
      · exact List.mem_cons_of_mem _ (ih hrest hmem)
    | false =>
      rw [hhead, if_neg Bool.false_ne_true] at h
      rcases List.mem_cons.1 hmem with rfl | hmem
      · rw [hhead] at hopen
        cases hopen
      · exact ih h hmem

theorem covers_afterForce {responses : Store String Response} {opened : String → Prop} {stoppedResponses : Nat}
    {pending : List String} (h : ∀ employeeId, isOpen (responses.lookup employeeId) = true →
      opened employeeId ∨ employeeId ∈ pending) :
    (afterForce stoppedResponses pending : Invocation ι).Covers position responses opened := by
  rcases @afterForce_cases ι stoppedResponses pending with ⟨hnil, hnext⟩ | ⟨-, hnext⟩
  · rw [hnext]
    intro employeeId hrow
    refine (h employeeId hrow).elim id fun hmem => ?_
    rw [hnil] at hmem
    cases hmem
  · rw [hnext]
    exact h

/-- A page of the query: every open row that was still to be read is on it or beyond it. -/
theorem Covers.page {responses : Store String Response} {opened : String → Prop} {trigger : Trigger} {cursor : Option ι}
    {found : List (String × Response)} (h : (query trigger cursor found).Covers position responses opened)
    (upTo : Option ι) {employeeId : String} (hrow : isOpen (responses.lookup employeeId) = true) :
    opened employeeId ∨ (∃ u ∈ upTo, u < position employeeId) ∨
      ∃ row, (employeeId, row) ∈ found ++ responses.page position cursor upTo ∧
        hasStatus VoiceStatus.isRetryable (employeeId, row) = true := by
  obtain hopened | hcursor | ⟨row, hmem, hopen⟩ := h employeeId hrow
  · exact .inl hopened
  · by_cases hupTo : ∀ u ∈ upTo, position employeeId ≤ u
    · obtain ⟨row, hlookup, hopen⟩ := exists_row_of_isOpen hrow
      exact .inr (.inr ⟨row, List.mem_append_right _ (Store.mem_page hlookup hcursor hupTo), hopen⟩)
    · simp only [not_forall, not_le] at hupTo
      obtain ⟨u, hu, hlt⟩ := hupTo
      exact .inr (.inl ⟨u, hu, hlt⟩)
  · exact .inr (.inr ⟨row, List.mem_append_left _ hmem, hopen⟩)

/-- Once the last page is read every open row that is left was opened meanwhile, or is about to be flipped. -/
theorem covers_afterQuery {responses : Store String Response} {opened : String → Prop} {trigger : Trigger}
    {found : List (String × Response)} (h : ∀ employeeId, isOpen (responses.lookup employeeId) = true →
      opened employeeId ∨ ∃ row, (employeeId, row) ∈ found ∧ hasStatus VoiceStatus.isRetryable (employeeId, row) = true) :
    (ofExcept (afterQuery trigger found) : Invocation ι).Covers position responses opened := by
  rcases @afterQuery_cases ι trigger found with hended | ⟨-, heq⟩ | ⟨-, hcompleted, summary, heq⟩ |
    ⟨executionArn, rewrites, -, hrewrites, heq⟩
  · apply covers_of_not_isDeciding
    cases hnext : (ofExcept (afterQuery trigger found) : Invocation ι) <;> rw [hnext] at hended <;> first
      | rfl
      | cases hended
  · rw [heq]
    trivial
  · rw [heq]
    intro employeeId hrow
    refine (h employeeId hrow).elim id fun ⟨row, hmem, hopen⟩ => ?_
    rw [isCycleCompleted_items, Except.ok.injEq, List.all_eq_true] at hcompleted
    obtain ⟨status, hstatus, hterminal⟩ := (Option.any_eq_true _ _).1 (hcompleted (employeeId, row) hmem)
    rw [hasStatus, hstatus, Option.any_some] at hopen
    rw [VoiceStatus.isTerminal_eq_not_isRetryable, hopen] at hterminal
    cases hterminal
  · have hpending : ∀ employeeId, isOpen (responses.lookup employeeId) = true →
        opened employeeId ∨ employeeId ∈ rewrites.map Prod.fst := by
      intro employeeId hrow
      refine (h employeeId hrow).imp_right fun ⟨row, hmem, hopen⟩ => ?_
      exact mem_of_applyTimeoutFrom hrewrites hmem hopen
    rw [heq]
    exact covers_afterForce hpending

theorem covers_ofExcept_map {α : Type} {responses : Store String Response} {opened : String → Prop}
    {e : Except PyError α} {f : α → Invocation ι} (hf : ∀ a, (f a).isDeciding = false) :
    (ofExcept (e.map f)).Covers position responses opened := by
  apply covers_of_not_isDeciding
  cases e with
  | error e => rfl
  | ok a => exact hf a

/-- A call keeps what its invocation covers, and a new query covers everything. -/
theorem Covers.of_moves {world world' : World} {invocation next : Invocation ι} {c : Call ι} {opened : String → Prop}
    (hcovers : invocation.Covers position world.responses opened)
    (h : invocation.Moves position world c next world') : next.Covers position world'.responses opened := by
  cases h with
  | got hrunning hnext =>
    rcases hnext with rfl | rfl
    · trivial
    · exact covers_start
  | stopped => exact covers_start
  | @paged trigger cursor found upTo hcursor =>
    intro employeeId hrow
    refine (hcovers.page (some upTo) hrow).imp_right fun hread => hread.imp_left fun ⟨u, hu, hlt⟩ c hc => ?_
    cases hu
    cases hc
    exact hlt
  | @queried trigger cursor found =>
    apply covers_afterQuery
    intro employeeId hrow
    refine (hcovers.page none hrow).imp_right fun hread => hread.resolve_left ?_
    rintro ⟨u, hu, -⟩
    cases hu
  | @forced stoppedResponses pending flipped hpending =>
    apply covers_afterForce
    intro employeeId hrow
    by_cases heq : employeeId = flipped
    · rw [heq, Store.lookup_write_self, isOpen_forceResponseUnreachable] at hrow
      cases hrow
    · rw [Store.lookup_write_ne _ _ heq] at hrow
      exact (hcovers employeeId hrow).imp_right fun hmem => (List.mem_erase_of_ne heq).2 hmem
  | @closed closing now hrunning => cases closing <;> trivial
  | warningMetric | requeried => exact covers_ofExcept_map fun _ => rfl
  | ruleCalled =>
    apply covers_of_not_isDeciding
    rw [afterRuleCall]
    split <;> rfl
  | _ => trivial

/-- Only a query begins an invocation's way to the update of the status. -/
theorem Moves.isDeciding_cases {world world' : World} {invocation next : Invocation ι} {c : Call ι}
    (h : invocation.Moves position world c next world') (hnext : next.isDeciding = true) :
    (∃ trigger, next = query trigger none []) ∨ invocation.isDeciding = true := by
  cases h with
  | got hrunning hcases =>
    rcases hcases with rfl | rfl
    · cases hnext
    · exact .inl ⟨_, rfl⟩
  | stopped => exact .inl ⟨_, rfl⟩
  | paged _ | queried | forced _ | closed _ | notClosed _ => exact .inr rfl
  | @warningMetric found | @requeried stoppedResponses _ _ found =>
    cases hsummary : computeSummary (items found) <;> rw [hsummary] at hnext <;> cases hnext
  | @ruleCalled ruleCall pending outcome =>
    rw [afterRuleCall] at hnext
    split at hnext <;> cases hnext
  | _ => cases hnext

end Invocation

/-! ### The history of a decision -/

variable (x position) in
/-- A step of the run opened the row of the employee. -/
def Opened (s : State ι) (labels : List (Label ι)) (employeeId : String) : Prop :=
  Happened (step x position) (OpensRow employeeId) s labels

variable (x position) in
/-- The query of invocation `i` began in the middle of the run, in `m`, and `since` is what came then. -/
def Asked (s : State ι) (labels : List (Label ι)) (i : Nat) (m : State ι) (since : List (Label ι)) : Prop :=
  ∃ before trigger, labels = before ++ since ∧ exec (step x position) s before = some m ∧
    m.invocations.lookup i = some (.query trigger none [])

theorem Asked.exec {s t m : State ι} {labels since : List (Label ι)} {i : Nat} (h : Asked x position s labels i m since)
    (hrun : exec (step x position) s labels = some t) : exec (step x position) m since = some t := by
  obtain ⟨before, trigger, rfl, hbefore, -⟩ := h
  rwa [exec_append_of_eq hbefore] at hrun

theorem Asked.append {s m : State ι} {labels since : List (Label ι)} {i : Nat} (h : Asked x position s labels i m since)
    (rest : List (Label ι)) : Asked x position s (labels ++ rest) i m (since ++ rest) := by
  obtain ⟨before, trigger, rfl, hbefore, hquery⟩ := h
  exact ⟨before, trigger, List.append_assoc .., hbefore, hquery⟩

theorem asked_of_query {s t : State ι} {labels : List (Label ι)} {i : Nat} {trigger : Trigger}
    (hrun : exec (step x position) s labels = some t) (h : t.invocations.lookup i = some (.query trigger none [])) :
    Asked x position s labels i t [] :=
  ⟨labels, trigger, (List.append_nil labels).symm, hrun, h⟩

variable (x position) in
structure Tracked (s : State ι) (labels : List (Label ι)) (t : State ι) : Prop where
  sound : MapSound x t.map
  deciding : ∀ i invocation, t.invocations.lookup i = some invocation → invocation.isDeciding = true →
    ∃ m since, Asked x position s labels i m since ∧
      invocation.Covers position t.world.responses (Opened x position m since)

/-- What an invocation covers goes on over a step, when the step keeps it but for the rows it opens. -/
theorem Tracked.carry {s t u : State ι} {labels : List (Label ι)} {label : Label ι} (hs : Tracked x position s labels t)
    (hrun : exec (step x position) s labels = some t) (hstep : step x position t label = some u) {i : Nat}
    {old new : Invocation ι} (hold : t.invocations.lookup i = some old) (hdeciding : old.isDeciding = true)
    (hkeep : ∀ opened : String → Prop, old.Covers position t.world.responses opened →
      (∀ employeeId, isOpen (u.world.responses.lookup employeeId) = true →
        isOpen (t.world.responses.lookup employeeId) = true ∨ opened employeeId) →
      new.Covers position u.world.responses opened) :
    ∃ m since, Asked x position s (labels ++ [label]) i m since ∧
      new.Covers position u.world.responses (Opened x position m since) := by
  obtain ⟨m, since, hasked, hcovers⟩ := hs.deciding i old hold hdeciding
  refine ⟨m, since ++ [label], hasked.append [label], hkeep _ ?_ ?_⟩
  · exact hcovers.mono (fun _ hopened => hopened.append [label]) fun _ hopen => .inl hopen
  · intro employeeId hopen
    refine (opensRow_of_step hs.sound hstep hopen).imp_right fun hevent => ?_
    exact (happened_singleton hevent).after (hasked.exec hrun)

theorem Tracked.step {s t u : State ι} {labels : List (Label ι)} {label : Label ι} (hs : Tracked x position s labels t)
    (hrun : exec (step x position) s labels = some t) (hstep : step x position t label = some u) :
    Tracked x position s (labels ++ [label]) u := by
  have hrun' : exec (CycleFinalizer.step x position) s (labels ++ [label]) = some u := by
    rw [exec_append_of_eq hrun, exec_singleton, hstep]
  refine ⟨mapSound_map_of_step hs.sound hstep, ?_⟩
  have hother : ∀ i invocation, t.invocations.lookup i = some invocation → invocation.isDeciding = true →
      ∃ m since, Asked x position s (labels ++ [label]) i m since ∧
        invocation.Covers position u.world.responses (Opened x position m since) :=
    fun i invocation hinvocation hdeciding =>
      hs.carry hrun hstep hinvocation hdeciding fun _ hcovers hopen => hcovers.mono (fun _ => id) hopen
  have hquery : ∀ i trigger, u.invocations.lookup i = some (.query trigger none []) →
      ∃ m since, Asked x position s (labels ++ [label]) i m since ∧
        (Invocation.query trigger none []).Covers position u.world.responses (Opened x position m since) :=
    fun i trigger hlookup => ⟨u, [], asked_of_query hrun' hlookup, Invocation.covers_start⟩
  cases steps_of_step hstep with
  | mapped _ => exact hother
  | @invoked i trigger hfresh =>
    apply Store.forall_lookup_set
    · exact fun j invocation _ => hother j invocation
    · intro hdeciding
      cases trigger with
      | mapCompleted => exact hquery i .mapCompleted (Store.lookup_set_self ..)
      | timer30Min | timer60Min _ => cases hdeciding
  | died _ _ =>
    apply Store.forall_lookup_set
    · exact fun j invocation _ => hother j invocation
    · intro hdeciding
      cases hdeciding
  | @moved i c invocation next after world label hinvocation hcall hafter =>
    have hmoves := Invocation.moves_of_call hcall
    apply Store.forall_lookup_set
    · exact fun j other _ => hother j other
    · intro hdeciding
      obtain ⟨-, rfl⟩ | ⟨-, rfl⟩ := hafter
      · rcases hmoves.isDeciding_cases hdeciding with ⟨trigger, rfl⟩ | hbefore
        · exact hquery i trigger (Store.lookup_set_self ..)
        · exact hs.carry hrun hstep hinvocation hbefore fun _ hcovers _ => hcovers.of_moves hmoves
      · cases hdeciding

/-- A cycle before its first invocation and before any row. -/
structure Fresh (s : State ι) : Prop where
  map : s.map = {}
  invocations : s.invocations = ∅

theorem Fresh.tracked {s t : State ι} {labels : List (Label ι)} (hs : Fresh s)
    (hrun : exec (CycleFinalizer.step x position) s labels = some t) : Tracked x position s labels t := by
  refine run_induction (motive := Tracked x position s) ?_ ?_ hrun
  · refine ⟨?_, fun i invocation hinvocation => ?_⟩
    · rw [hs.map]
      exact mapSound_start x
    · rw [hs.invocations] at hinvocation
      cases hinvocation
  · exact fun labels m label u hm htracked hstep => htracked.step hm hstep

/-! ### After the cycle is closed -/

/-- A row that is open after a run was open before it, or a step of the run opened it. -/
theorem opened_of_exec {s t : State ι} {labels : List (Label ι)} (hs : MapSound x s.map)
    (hrun : exec (step x position) s labels = some t) {employeeId : String}
    (hopen : isOpen (t.world.responses.lookup employeeId) = true) :
    isOpen (s.world.responses.lookup employeeId) = true ∨ Opened x position s labels employeeId := by
  have hsound : ∀ {labels t}, exec (step x position) s labels = some t → MapSound x t.map :=
    fun h => invariant (fun _ _ _ => mapSound_map_of_step) hs h
  refine run_induction (motive := fun labels t => isOpen (t.world.responses.lookup employeeId) = true →
    isOpen (s.world.responses.lookup employeeId) = true ∨ Opened x position s labels employeeId) .inl ?_ hrun hopen
  intro labels m label u hm ih hstep hopen
  rcases opensRow_of_step (hsound hm) hstep hopen with hbefore | hevent
  · exact (ih hbefore).imp_right fun hopened => hopened.append [label]
  · exact .inr ((happened_singleton hevent).after hm)

/-- The update that closes the cycle comes from an invocation that covers the open rows. -/
theorem Tracked.closing {s t u : State ι} {labels : List (Label ι)} {label : Label ι} (hs : Tracked x position s labels t)
    (hstep : CycleFinalizer.step x position t label = some u) (hrunning : Cycle.isRunning t.world.cycle = true)
    (hclosed : Cycle.isRunning u.world.cycle = false) :
    u.world.responses = t.world.responses ∧ ∃ i m since, Asked x position s labels i m since ∧
      (∃ c, label = .call i c ∨ label = .raise i (some c)) ∧
      ∀ employeeId, isOpen (t.world.responses.lookup employeeId) = true → Opened x position m since employeeId := by
  have hne : u.world.cycle ≠ t.world.cycle := by
    intro hsame
    rw [hsame, hrunning] at hclosed
    cases hclosed
  cases steps_of_step hstep with
  | mapped _ | invoked _ | died _ _ => exact absurd rfl hne
  | @moved i c invocation next after world _ hinvocation hcall hafter =>
    have hlabel : ∃ c, label = .call i c ∨ label = .raise i (some c) := ⟨c, hafter.imp And.left And.left⟩
    cases Invocation.moves_of_call hcall with
    | @closed closing now _ =>
      obtain ⟨m, since, hasked, hcovers⟩ := hs.deciding i _ hinvocation rfl
      exact ⟨rfl, i, m, since, hasked, hlabel, hcovers⟩
    | warned _ =>
      obtain ⟨cycle, hcycle, hrun⟩ := setSlaWarningFlag_run_of_running hrunning
      rw [hcycle] at hrunning
      have hflagged : Cycle.isRunning (Cycle.setSlaWarningFlag.run t.world.cycle) = false := hclosed
      rw [hrun] at hflagged
      exact absurd hrunning (Bool.eq_false_iff.1 hflagged)
    | _ => exact absurd rfl hne

/-- In every state after the cycle was closed a row is terminal, unless one of the four kinds of steps opened it since
the query began on whose answer the cycle was closed. A transcript that arrives then sets its own status. -/
theorem settled_unless_opened {s u v t : State ι} {labels rest : List (Label ι)} {last : Label ι} (hs : Fresh s)
    (hrun : exec (step x position) s labels = some u) (hstep : step x position u last = some v)
    (hrunning : Cycle.isRunning u.world.cycle = true) (hclosed : Cycle.isRunning v.world.cycle = false)
    (hrest : exec (step x position) v rest = some t) :
    (∃ i m since, Asked x position s labels i m since ∧ (∃ c, last = .call i c ∨ last = .raise i (some c)) ∧
      ∀ employeeId row, t.world.responses.lookup employeeId = some row →
        (∃ status, row.voiceStatus = some status ∧ status.isTerminal = true) ∨
          Opened x position m (since ++ last :: rest) employeeId) ∧
      ∀ employeeId (w : RowWrite) status t', w.classified? = some status →
        step x position t (.map (.write employeeId w)) = some t' →
        statusOf (t'.world.responses.lookup employeeId) = some status := by
  have htracked := hs.tracked hrun
  obtain ⟨hresponses, i, m, since, hasked, hlabel, hcovers⟩ := htracked.closing hstep hrunning hclosed
  have hv : MapSound x v.map := mapSound_map_of_step htracked.sound hstep
  have ht : MapSound x t.map := invariant (fun _ _ _ => mapSound_map_of_step) hv hrest
  have hm : exec (step x position) m (since ++ [last]) = some v := by
    rw [exec_append_of_eq (hasked.exec hrun), exec_singleton, hstep]
  refine ⟨⟨i, m, since, hasked, hlabel, fun employeeId row hrow => ?_⟩, ?_⟩
  · refine (isTerminal_or_isOpen ht hrow).imp_right fun hopen => ?_
    rcases opened_of_exec hv hrest hopen with hbefore | hopened
    · rw [hresponses] at hbefore
      exact (hcovers employeeId hbefore).append (last :: rest)
    · rw [List.append_cons]
      exact hopened.after hm
  · intro employeeId w status t' hclassified hwrite
    obtain ⟨m', hm', rfl⟩ := Option.map_eq_some_iff.1 hwrite
    obtain ⟨-, hwritten⟩ := Option.ite_none_right_eq_some.1 hm'
    cases hwritten
    show statusOf ((t.world.responses.write employeeId w.write).lookup employeeId) = some status
    rw [Store.lookup_write_self]
    exact statusOf_of_classified hclassified (t.world.responses.lookup employeeId)

/-! ### A transcript after the end -/

/-- What KeywordMatcher writes for a transcript of the employee's call. -/
def transcript (text : String) : List (Label ℕ) :=
  (KeywordMatcher.lambdaHandler id (untroubled text) .ok).1.map fun w => .map (.write "e" w)

/-- The employee is dialled, answers, and the Map drains. -/
def answered : List (Label ℕ) :=
  [.map (.start "e"), .map (.iterate "e" (.success 0 0))] ++ transcript "I am fine" ++
    List.replicate 6 (.map (.iterate "e" (.success 0 0))) ++ [.invoke 0 .mapCompleted, .call 0 (.page none)]

/-- The employee is dialled, and the timer finds the row open. -/
def unanswered : List (Label ℕ) :=
  [.map (.start "e"), .map (.iterate "e" (.success 0 0)), .invoke 0 timer60Min, .call 0 (.next 60), .call 0 (.page none),
    .call 0 (.force "e")]

/-- A second transcript reopens the row of a completed cycle, and after a timeout one changes the status of a row. -/
theorem terminal_cycle_reopened :
    (∃ t, exec (step oneTarget String.length) started (answered ++ .call 0 (.next 60) :: transcript "hello") = some t ∧
      Cycle.statusOf t.world.cycle = some .completed ∧ statusOf (t.world.responses.lookup "e") = some .other) ∧
    ∃ t u, exec (step oneTarget String.length) started (unanswered ++ [.call 0 (.next 60)]) = some t ∧
      Cycle.statusOf t.world.cycle = some .timeout ∧ statusOf (t.world.responses.lookup "e") = some .unreachable ∧
      exec (step oneTarget String.length) t (transcript "I am fine") = some u ∧
      statusOf (u.world.responses.lookup "e") = some .safe := by
  refine ⟨⟨_, rfl, ?_, ?_⟩, _, _, rfl, ?_, ?_, rfl, ?_⟩
  all_goals decide

theorem settled_unless_opened_answered :
    ∃ t, exec (step oneTarget String.length) started (answered ++ .call 0 (.next 60) :: transcript "hello") = some t ∧
      ∃ i m since, Asked oneTarget String.length started answered i m since ∧
        (∃ c, (.call 0 (.next 60) : Label ℕ) = .call i c ∨ (.call 0 (.next 60) : Label ℕ) = .raise i (some c)) ∧
        ∀ employeeId row, t.world.responses.lookup employeeId = some row →
          (∃ status, row.voiceStatus = some status ∧ status.isTerminal = true) ∨
            Opened oneTarget String.length m (since ++ .call 0 (.next 60) :: transcript "hello") employeeId := by
  refine ⟨_, rfl, ?_⟩
  exact (@settled_unless_opened ℕ oneTarget _ String.length started _ _ _ answered (transcript "hello") (.call 0 (.next 60))
    ⟨rfl, rfl⟩ rfl rfl rfl rfl rfl).1

end CycleFinalizer

end SafetyConfirmation
