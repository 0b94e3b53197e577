import SafetyConfirmation.Connect.Agreement

/-!
# What a Dispatch does

How often an entry of `Dispatch` dials and whom, and what its task ends with, in every run of the system.
-/

namespace SafetyConfirmation

namespace Outbound

open Checks FlowGraph KeyedStore Interleaving StepMachine

/-! ### The dials of a thread -/

structure Dial where
  outbound : OutboundCall
  answer : Except PyError Value

def dialOf : Entry ConnectCall ConnectCall.Reply PyError Environment → Option Dial
  | { call := .startOutboundVoiceContact outbound, answer, .. } => some { outbound, answer }
  | _ => none

/-- The dials of thread `i`, the last one first. -/
def dials (p : State) (i : Nat) : List Dial := p.log.filterMap fun entry => if entry.thread = i then dialOf entry else none

def Dial.Throttled (d : Dial) : Prop := ∃ e, d.answer = .error e ∧ ConnectDispatcher.isRetryable e = true

/-- The dials of a dispatcher that has come to a stage: all of them were throttled, but for the last one of a dispatcher
that took a contact or failed. -/
def DialsAt (outbound : OutboundCall) (ds : List Dial) : ConnectDispatcher.Stage → Prop
  | .dialing tryIdx => tryIdx < ConnectDispatcher.maxDispatchAttempts ∧ ds.length = tryIdx ∧
      ∀ d ∈ ds, d.outbound = outbound ∧ d.Throttled
  | .pausing tryIdx => tryIdx + 1 < ConnectDispatcher.maxDispatchAttempts ∧ ds.length = tryIdx + 1 ∧
      ∀ d ∈ ds, d.outbound = outbound ∧ d.Throttled
  | .exhausted | .unreleased | .released | .gaveUp => ds.length = ConnectDispatcher.maxDispatchAttempts ∧
      ∀ d ∈ ds, d.outbound = outbound ∧ d.Throttled
  | .placed _ | .recorded _ | .failed => ds.length ≤ ConnectDispatcher.maxDispatchAttempts ∧
      (∀ d ∈ ds, d.outbound = outbound) ∧ ∀ d ∈ ds.tail, d.Throttled

variable {outbound : OutboundCall} {ds : List Dial}

theorem dialsAt_le {stage : ConnectDispatcher.Stage} (h : DialsAt outbound ds stage) :
    ds.length ≤ ConnectDispatcher.maxDispatchAttempts ∧ (∀ d ∈ ds, d.outbound = outbound) ∧ ∀ d ∈ ds.tail, d.Throttled := by
  cases stage with
  | placed _ | recorded _ | failed => exact h
  | dialing tryIdx | pausing tryIdx =>
    obtain ⟨hlt, hlength, hall⟩ := h
    exact ⟨by omega, fun d hd => (hall d hd).1, fun d hd => (hall d (List.mem_of_mem_tail hd)).2⟩
  | exhausted | unreleased | released | gaveUp =>
    obtain ⟨hlength, hall⟩ := h
    exact ⟨by omega, fun d hd => (hall d hd).1, fun d hd => (hall d (List.mem_of_mem_tail hd)).2⟩

/-- A dial is one more. -/
theorem dialsAt_afterDial {tryIdx : Nat} (h : DialsAt outbound ds (.dialing tryIdx)) (answer : Except PyError Value) :
    DialsAt outbound ({ outbound, answer } :: ds) (.afterDial tryIdx answer) := by
  obtain ⟨hlt, hlength, hall⟩ := h
  have hmost : ({ outbound, answer } :: ds).length ≤ ConnectDispatcher.maxDispatchAttempts ∧
      (∀ d ∈ ({ outbound, answer } : Dial) :: ds, d.outbound = outbound) ∧ ∀ d ∈ ({ outbound, answer } :: ds).tail, d.Throttled := by
    refine ⟨?_, ?_, fun d hd => (hall d hd).2⟩
    · rw [List.length_cons]
      omega
    · rw [List.forall_mem_cons]
      exact ⟨rfl, fun d hd => (hall d hd).1⟩
  cases answer with
  | ok resp =>
    rw [ConnectDispatcher.Stage.afterDial]
    split
    · exact hmost
    · exact hmost
  | error e =>
    rw [ConnectDispatcher.Stage.afterDial]
    split
    · rename_i hretry
      have hthrottled : ∀ d ∈ ({ outbound, answer := .error e } : Dial) :: ds, d.outbound = outbound ∧ Dial.Throttled d := by
        rw [List.forall_mem_cons]
        exact ⟨⟨rfl, e, rfl, hretry⟩, hall⟩
      rw [ConnectDispatcher.Stage.afterThrottle]
      split
      · refine ⟨‹_›, ?_, hthrottled⟩
        rw [List.length_cons, hlength]
      · refine ⟨?_, hthrottled⟩
        rw [List.length_cons]
        omega
    · exact hmost

/-- The calls after a throttled dial, and after the last one, are no dials. -/
theorem dialsAt_advance {dispatch : ConnectDispatcher.Dispatch} {stage : ConnectDispatcher.Stage} {c : ConnectCall}
    (hcall : stage.call? dispatch = some c) (hstage : ∀ tryIdx, stage ≠ .dialing tryIdx) (h : DialsAt outbound ds stage)
    (answer : Except PyError c.Reply) : DialsAt outbound ds (stage.advance c answer) := by
  cases stage with
  | dialing tryIdx => exact absurd rfl (hstage tryIdx)
  | pausing tryIdx =>
    cases hcall
    cases answer with
    | ok _ => exact h
    | error e => exact dialsAt_le h
  | placed contactId =>
    cases hcall
    cases answer <;> exact h
  | exhausted =>
    cases hcall
    show DialsAt outbound ds (ConnectDispatcher.Stage.afterError answer)
    cases answer with
    | ok _ => exact h
    | error e =>
      rw [ConnectDispatcher.Stage.afterError]
      split <;> exact h
  | unreleased =>
    cases hcall
    cases answer <;> exact h
  | recorded _ | released | failed | gaveUp => cases hcall

/-! ### In every run -/

variable {settings : ConnectDispatcher.Settings} {p t : State}

variable (settings) in
def DialsSound (p : State) : Prop := ∀ {i : Nat} {taskToken : String} {input : DispatchInput},
  Asks p i (.dispatch taskToken input) → DialsAt (input.outbound settings taskToken) (dials p i) (knowledge p i).1

section Call

variable {i : Nat} {environment : Environment} {request : Request} {c : ConnectCall}
  {next : Except PyError c.Reply → ConnectLambda Value}

theorem dials_self_of_dial {outbound : OutboundCall} {next : Except PyError Value → ConnectLambda Value} :
    dials (afterCall (system settings).service p i environment request (.startOutboundVoiceContact outbound) next) i =
      { outbound, answer := (p.world.start environment outbound).1 } :: dials p i := by
  apply List.filterMap_cons_some
  exact if_pos rfl

theorem dials_self (hc : ∀ outbound, c ≠ .startOutboundVoiceContact outbound) :
    dials (afterCall (system settings).service p i environment request c next) i = dials p i := by
  apply List.filterMap_cons_none
  rw [if_pos rfl]
  cases c with
  | startOutboundVoiceContact outbound => exact absurd rfl (hc outbound)
  | sleep _ | updateResponse _ _ | putObject _ _ | sendTaskSuccess _ _ => rfl

theorem dials_ne {j : Nat} (hij : i ≠ j) :
    dials (afterCall (system settings).service p i environment request c next) j = dials p j := by
  apply List.filterMap_cons_none
  exact if_neg hij

theorem dialsSound_call (hp : Lawful settings p) (hd : DialsSound settings p)
    (hthread : p.threads[i]? = some { request, program := .call c next }) :
    DialsSound settings (afterCall (system settings).service p i environment request c next) := by
  intro j taskToken input hafter
  have hasks : Asks p j (.dispatch taskToken input) := (asks_afterCall hthread j _).1 hafter
  by_cases hij : i = j
  · subst j
    have hsame : request = .dispatch taskToken input :=
      Option.some.inj ((Arrivals.request_of_thread hthread).symm.trans hasks)
    subst hsame
    obtain ⟨dispatch, hdispatch, hcall⟩ := hp.allowed hthread
    obtain ⟨-, rfl⟩ := dispatchOf_event.1 hdispatch
    change (knowledge p i).1.call? _ = some c at hcall
    have hat := hd hasks
    rw [knowledge_self]
    by_cases hdialing : ∃ tryIdx, (knowledge p i).1 = .dialing tryIdx
    · obtain ⟨tryIdx, hstage⟩ := hdialing
      rw [hstage] at hcall hat
      cases hcall
      rw [hstage, dials_self_of_dial]
      exact dialsAt_afterDial hat _
    · have hstage : ∀ tryIdx, (knowledge p i).1 ≠ .dialing tryIdx := fun tryIdx h => hdialing ⟨tryIdx, h⟩
      rw [dials_self]
      · exact dialsAt_advance hcall hstage hat _
      · rintro outbound rfl
        cases hbefore : (knowledge p i).1 with
        | dialing tryIdx => exact hstage tryIdx hbefore
        | pausing _ | placed _ | recorded _ | exhausted | unreleased | released | failed | gaveUp =>
          rw [hbefore] at hcall
          cases hcall
  · rw [knowledge_ne hij, dials_ne hij]
    exact hd hasks

end Call

theorem dials_length (hp : Lawful settings p) : dials p p.threads.length = [] := by
  rw [dials, List.filterMap_eq_nil_iff]
  intro entry hmem
  have hlogged := hp.logged entry hmem
  rw [if_neg (by omega)]

theorem dialsSound_run (hreal : settings.mockMode = false) {labels : List Label}
    (hrun : exec (step settings) { world := {} } labels = some p) : DialsSound settings p := by
  apply Arrivals.invariant_run (handler_wp hreal) (fun _ _ _ _ => trivial) _ _ hrun
  · intro p t hp _ hd hstep
    cases hstep with
    | arrive request world harrive =>
      intro j taskToken input hasks
      rcases asks_arrive hasks with hold | ⟨rfl, -⟩
      · exact hd hold
      · show DialsAt _ (dials p p.threads.length) (knowledge p p.threads.length).1
        rw [dials_length hp, knowledge_length hp]
        exact ⟨by decide, rfl, by simp⟩
    | call i environment request c next hthread => exact dialsSound_call hp hd hthread
    | move m world hmove => exact hd
  · intro j taskToken input hasks
    simp [Asks, Pool.requests] at hasks

/-- In every run an entry of `Dispatch` dials at most three times, always its own call, and again only after it was
throttled; and no two contacts are placed for it. -/
theorem dispatch_dials (hreal : settings.mockMode = false) {labels : List Label}
    (hrun : exec (step settings) { world := {} } labels = some p) {i : Nat} {taskToken : String} {input : DispatchInput}
    (hasks : Asks p i (.dispatch taskToken input)) :
    (dials p i).length ≤ 3 ∧ (∀ d ∈ dials p i, d.outbound = input.outbound settings taskToken) ∧
      (∀ d ∈ (dials p i).tail, d.Throttled) ∧
      ∀ contactId contactId' contact contact', IsContactOf settings p.world taskToken input contactId contact →
        IsContactOf settings p.world taskToken input contactId' contact' → contactId = contactId' := by
  obtain ⟨hlength, hown, htail⟩ := dialsAt_le (dialsSound_run hreal hrun hasks)
  exact ⟨hlength, hown, htail, fun _ _ _ _ h h' => (sound_run hreal hrun).single h h'⟩

def sampleSettings : ConnectDispatcher.Settings where
  mockMode := false
  connectInstanceId := "instance"
  outboundContactFlowId := "outbound"
  outboundPhoneNumber := "+81300000000"
  recordingsBucketName := "recordings"
  digestByte := fun _ => 0

def firstAttempt : DispatchInput where
  cycleId := "c1"
  employeeId := "e1"
  phoneNumber := "+819012345678"
  attempt := 1

/-- A call that is placed on the second try, and CallEndHandler invoked for it twice. -/
def retriedCall : List Label :=
  [.arrive (.dispatch "t1" firstAttempt), .call 0 { error := some (.clientError "ThrottlingException") }, .call 0 {},
    .call 0 { contactId := "k1" }, .call 0 { now := 10 }, .move (.leave "k1" .succeeded), .move (.leave "k1" .succeeded),
    .move (.leave "k1" .succeeded), .move (.leave "k1" .succeeded),
    .arrive (.callEnd "k1" (firstAttempt.outbound sampleSettings "t1").attributes),
    .arrive (.callEnd "k1" (firstAttempt.outbound sampleSettings "t1").attributes),
    .call 1 { now := 20 }, .call 2 { now := 21 }, .call 2 {}, .call 1 {}]

theorem asks_retriedCall {p : State} (hrun : exec (step sampleSettings) { world := {} } retriedCall = some p) :
    Asks p 0 (.dispatch "t1" firstAttempt) ∧
      ∀ i, i = 1 ∨ i = 2 → Asks p i (.callEnd "k1" (firstAttempt.outbound sampleSettings "t1").attributes) := by
  refine ⟨?_, fun i hi => ?_⟩
  · rw [Asks, Arrivals.requests_run hrun]
    rfl
  · rw [Asks, Arrivals.requests_run hrun]
    rcases hi with rfl | rfl <;> rfl

theorem dispatch_dials_retriedCall : ∃ p, exec (step sampleSettings) { world := {} } retriedCall = some p ∧
    (dials p 0).length ≤ 3 ∧ (∀ d ∈ dials p 0, d.outbound = firstAttempt.outbound sampleSettings "t1") ∧
      ∀ d ∈ (dials p 0).tail, d.Throttled := by
  obtain ⟨p, hrun⟩ := Option.isSome_iff_exists.1
    (show (exec (step sampleSettings) { world := {} } retriedCall).isSome = true by decide)
  obtain ⟨hlength, hown, htail, -⟩ := dispatch_dials rfl hrun (asks_retriedCall hrun).1
  exact ⟨p, hrun, hlength, hown, htail⟩

/-- A dispatcher that gave up was throttled three times. -/
theorem GaveUp.dials (hreal : settings.mockMode = false) {labels : List Label}
    (hrun : exec (step settings) { world := {} } labels = some p) {taskToken : String} {input : DispatchInput}
    (h : GaveUp p taskToken input) : ∃ i, Asks p i (.dispatch taskToken input) ∧ (dials p i).length = 3 ∧
      ∀ d ∈ dials p i, d.outbound = input.outbound settings taskToken ∧ d.Throttled := by
  obtain ⟨i, hasks, hgaveUp⟩ := h
  have hdials := dialsSound_run hreal hrun hasks
  refine ⟨i, hasks, ?_⟩
  rcases hgaveUp with hstage | hstage | hstage
  all_goals
    rw [hstage] at hdials
    exact hdials

/-- In every run a task that has succeeded carries the output of its own call. It is that of a contact placed for the task,
once that was being recorded; or the dispatcher of the task was throttled three times, and no contact was placed for it. -/
theorem task_output (hreal : settings.mockMode = false) {labels : List Label}
    (hrun : exec (step settings) { world := {} } labels = some p) {taskToken : String} {task : Task} {output : Value}
    (htask : p.world.tasks.lookup taskToken = some task) (hstate : task.state = .succeeded output) :
    (∃ contactId, HasRecording settings p.world taskToken task.input contactId ∧
      output = CallEndHandler.callEndOutput (.str contactId) "RECORDED") ∨
    (output = ConnectDispatcher.dispatchFailed ∧
      (∀ contactId contact, ¬ IsContactOf settings p.world taskToken task.input contactId contact) ∧
      ∃ i, Asks p i (.dispatch taskToken task.input) ∧ (dials p i).length = 3 ∧ ∀ d ∈ dials p i, d.Throttled) := by
  have hs := sound_run hreal hrun
  rcases hs.outputs htask hstate with hcall | ⟨houtput, hgaveUp⟩
  · exact .inl hcall
  · refine .inr ⟨houtput, ?_, ?_⟩
    · obtain ⟨i, hasks, hstage⟩ := hgaveUp
      rintro contactId contact ⟨hcontact, houtbound⟩
      obtain ⟨-, -, j, token, input, hj, -, houtbound', hplaced⟩ := hs.placed hcontact
      rw [houtbound] at houtbound'
      have htoken := outbound_inj houtbound'
      subst htoken
      have hji := hs.unique hj hasks
      subst hji
      exact not_mayHavePlaced hstage hplaced
    · obtain ⟨i, hasks, hlength, hall⟩ := hgaveUp.dials hreal hrun
      exact ⟨i, hasks, hlength, fun d hd => (hall d hd).2⟩

theorem task_output_retriedCall : ∃ p task, exec (step sampleSettings) { world := {} } retriedCall = some p ∧
    p.world.tasks.lookup "t1" = some task ∧ ∃ output, task.state = .succeeded output ∧
      ((∃ contactId, HasRecording sampleSettings p.world "t1" task.input contactId) ∨
        output = ConnectDispatcher.dispatchFailed) := by
  obtain ⟨output, houtput⟩ := Option.isSome_iff_exists.1 (show ((exec (step sampleSettings) { world := {} } retriedCall).bind
    fun p => (p.world.tasks.lookup "t1").bind fun task => task.state.output?).isSome = true by decide)
  obtain ⟨p, hrun, houtput⟩ := Option.bind_eq_some_iff.1 houtput
  obtain ⟨task, htask, houtput⟩ := Option.bind_eq_some_iff.1 houtput
  have hstate := TaskState.output?_eq_some.1 houtput
  refine ⟨p, task, hrun, htask, output, hstate, ?_⟩
  rcases task_output rfl hrun htask hstate with ⟨contactId, hrecording, -⟩ | ⟨hfailed, -⟩
  · exact .inl ⟨contactId, hrecording⟩
  · exact .inr hfailed

/-! ### Runs of CallEndHandler that return -/

theorem ok_of_release {world : World} {environment : Environment} {taskToken : String} {output : Value}
    (h : (world.release environment taskToken output).1 = .ok ()) : world.isWaiting taskToken = true ∧
      (world.release environment taskToken output).2 = world.setTask taskToken (.succeeded output) := by
  rw [World.release] at h ⊢
  cases herror : environment.error with
  | some e =>
    rw [herror] at h
    cases h
  | none =>
    rw [herror] at h
    dsimp only at h ⊢
    by_cases hwaiting : world.isWaiting taskToken = true
    · simp only [hwaiting, if_true, and_self]
    · rw [if_neg hwaiting] at h
      cases h

/-- What a task has succeeded with stays. -/
theorem succeeded_setTask {world : World} {taskToken token : String} {state : TaskState} {task : Task} {output : Value}
    (hwaiting : world.isWaiting taskToken = true) (h : world.tasks.lookup token = some task)
    (hstate : task.state = .succeeded output) : (world.setTask taskToken state).tasks.lookup token = some task := by
  have hne : token ≠ taskToken := by
    rintro rfl
    rw [World.isWaiting, h] at hwaiting
    obtain ⟨input, state⟩ := task
    cases hstate
    cases hwaiting
  rw [World.setTask]
  split
  · rw [Store.lookup_set_ne _ _ hne]
    exact h
  · exact h

/-- The task of the contact has succeeded with the contact's own output. -/
def HasEnded (world : World) (contactId : String) (attributes : StringMap) : Prop :=
  ∃ taskToken task, attributes.lookup "taskToken" = some taskToken ∧ world.tasks.lookup taskToken = some task ∧
    task.state = .succeeded (CallEndHandler.callEndOutput (.str contactId) "RECORDED")

structure Returned (p : State) : Prop where
  ended : ∀ {i : Nat} {contactId attributes}, Asks p i (.callEnd contactId attributes) →
    (knowledge p i).2 = .released → HasEnded p.world contactId attributes
  once : ∀ {i j : Nat} {contactId attributes}, Asks p i (.callEnd contactId attributes) →
    Asks p j (.callEnd contactId attributes) → (knowledge p i).2 = .released → (knowledge p j).2 = .released → i = j

theorem hasEnded_afterCall {i : Nat} {environment : Environment} {request : Request} {c : ConnectCall}
    {next : Except PyError c.Reply → ConnectLambda Value} {contactId : String} {attributes : StringMap}
    (h : HasEnded p.world contactId attributes) :
    HasEnded (afterCall (system settings).service p i environment request c next).world contactId attributes := by
  obtain ⟨taskToken, task, htoken, htask, hstate⟩ := h
  refine ⟨taskToken, task, htoken, ?_, hstate⟩
  show (p.world.respond environment c).2.tasks.lookup taskToken = some task
  rcases World.tasks_respond p.world environment c with hsame | ⟨token, output, -, hwaiting, hworld⟩
  · rw [hsame, htask]
  · rw [hworld]
    exact succeeded_setTask hwaiting htask hstate

/-- A run that releases its task finds it waiting. -/
theorem ended_of_released (hp : Lawful settings p) (hs : Sound settings p) {i : Nat} {environment : Environment}
    {request : Request} {c : ConnectCall} {next : Except PyError c.Reply → ConnectLambda Value} {contactId : String}
    {attributes : StringMap} (hthread : p.threads[i]? = some { request, program := .call c next })
    (hasks : Asks p i (.callEnd contactId attributes))
    (hreleased : (knowledge (afterCall (system settings).service p i environment request c next) i).2 = .released) :
    ¬ HasEnded p.world contactId attributes ∧
      HasEnded (afterCall (system settings).service p i environment request c next).world contactId attributes := by
  have hsame : request = .callEnd contactId attributes :=
    Option.some.inj ((Arrivals.request_of_thread hthread).symm.trans hasks)
  subst hsame
  obtain ⟨contact, hcontact, rfl, hboth⟩ := hs.invoked hasks
  obtain ⟨hid, -, j, taskToken, input, hj, hcomplete, houtbound, -⟩ := hs.placed hcontact
  obtain ⟨parsed, hparse, hcall⟩ := hp.allowed hthread
  change (knowledge p i).2.MayCall parsed c at hcall
  rw [houtbound, parseEvent_contactFlowEvent hcomplete hid] at hparse
  cases hparse
  have htoken : contact.outbound.attributes.lookup "taskToken" = some taskToken := by
    rw [houtbound]
    rfl
  rw [knowledge_self] at hreleased
  cases hstage : (knowledge p i).2 with
  | recording =>
    rw [hstage] at hcall hreleased
    obtain ⟨key, -, rfl⟩ := hcall
    exact absurd hreleased (CallEndHandler.Stage.afterRecord_ne_released _)
  | releasing =>
    rw [hstage] at hcall hreleased
    obtain ⟨token, htoken', rfl⟩ := hcall
    cases htoken'
    change CallEndHandler.Stage.advance .releasing
      (.sendTaskSuccess taskToken (CallEndHandler.callEndOutput (.str contactId) "RECORDED"))
      (p.world.release environment taskToken (CallEndHandler.callEndOutput (.str contactId) "RECORDED")).1 = .released
      at hreleased
    cases hanswer : (p.world.release environment taskToken
        (CallEndHandler.callEndOutput (.str contactId) "RECORDED")).1 with
    | error e =>
      rw [hanswer] at hreleased
      cases hreleased
    | ok _ =>
      obtain ⟨hwaiting, hworld⟩ := ok_of_release hanswer
      obtain ⟨task, htask⟩ := hs.tasked hj
      constructor
      · rintro ⟨token, task', htoken', htask', hstate⟩
        rw [htoken] at htoken'
        cases htoken'
        rw [World.isWaiting, htask'] at hwaiting
        obtain ⟨input', state⟩ := task'
        cases hstate
        cases hwaiting
      · refine ⟨taskToken, { task with state := .succeeded _ }, htoken, ?_, rfl⟩
        show (p.world.release environment taskToken _).2.tasks.lookup taskToken = _
        rw [hworld, World.setTask, htask]
        exact Store.lookup_set_self ..
  | released | failed =>
    rw [hstage] at hcall
    exact hcall.elim

theorem returned_call (hp : Lawful settings p) (hs : Sound settings p) (hr : Returned p) {i : Nat}
    {environment : Environment} {request : Request} {c : ConnectCall}
    {next : Except PyError c.Reply → ConnectLambda Value}
    (hthread : p.threads[i]? = some { request, program := .call c next }) :
    Returned (afterCall (system settings).service p i environment request c next) := by
  have hasks : ∀ j r, Asks (afterCall (system settings).service p i environment request c next) j r ↔ Asks p j r :=
    asks_afterCall hthread
  constructor
  case ended =>
    intro j contactId attributes hj hreleased
    have hold := (hasks j _).1 hj
    by_cases hij : i = j
    · subst j
      exact (ended_of_released hp hs hthread hold hreleased).2
    · rw [knowledge_ne hij] at hreleased
      exact hasEnded_afterCall (hr.ended hold hreleased)
  case once =>
    intro j k contactId attributes hj hk hreleased hreleased'
    have hold := (hasks j _).1 hj
    have hold' := (hasks k _).1 hk
    by_cases hij : i = j
    · by_cases hik : i = k
      · exact hij.symm.trans hik
      · subst j
        rw [knowledge_ne hik] at hreleased'
        exact absurd (hr.ended hold' hreleased') (ended_of_released hp hs hthread hold hreleased).1
    · rw [knowledge_ne hij] at hreleased
      by_cases hik : i = k
      · subst k
        exact absurd (hr.ended hold hreleased) (ended_of_released hp hs hthread hold' hreleased').1
      · rw [knowledge_ne hik] at hreleased'
        exact hr.once hold hold' hreleased hreleased'

theorem returned_arrive (hp : Lawful settings p) (hr : Returned p) {request : Request} {world : World}
    {program : ConnectLambda Value} (harrive : arrive p.world request = some world) :
    Returned { p with world, threads := p.threads ++ [{ request, program }] } := by
  have hold : ∀ {i contactId attributes},
      Asks { p with world, threads := p.threads ++ [{ request, program }] } i (.callEnd contactId attributes) →
      (knowledge p i).2 = .released → Asks p i (.callEnd contactId attributes) := by
    intro i contactId attributes hasks hreleased
    rcases asks_arrive hasks with hold | ⟨rfl, -⟩
    · exact hold
    · rw [knowledge_length hp] at hreleased
      cases hreleased
  constructor
  case ended =>
    intro i contactId attributes hasks hreleased
    obtain ⟨taskToken, task, htoken, htask, hstate⟩ := hr.ended (hold hasks hreleased) hreleased
    exact ⟨taskToken, task, htoken, (task_arrive harrive).2 (.inl htask), hstate⟩
  case once =>
    intro i j contactId attributes hi hj hreleased hreleased'
    exact hr.once (hold hi hreleased) (hold hj hreleased') hreleased hreleased'

theorem hasEnded_move {world world' : World} {m : Move} (hmove : world.move m = some world') {contactId : String}
    {attributes : StringMap} (h : HasEnded world contactId attributes) : HasEnded world' contactId attributes := by
  obtain ⟨taskToken, task, htoken, htask, hstate⟩ := h
  refine ⟨taskToken, task, htoken, ?_, hstate⟩
  cases m with
  | leave contactId outcome =>
    obtain ⟨contact, -, rfl⟩ := Option.map_eq_some_iff.1 hmove
    exact htask
  | close token =>
    rw [World.move] at hmove
    split at hmove
    · cases hmove
      exact succeeded_setTask ‹_› htask hstate
    · cases hmove
  | write key w =>
    cases hmove
    exact htask

theorem returned_run (hreal : settings.mockMode = false) {labels : List Label}
    (hrun : exec (step settings) { world := {} } labels = some p) : Returned p := by
  have hboth : Sound settings p ∧ Returned p := by
    apply Arrivals.invariant_run (handler_wp hreal) (fun _ _ _ _ => trivial) _ _ hrun
    · rintro p t hp - ⟨hs, hr⟩ hstep
      cases hstep with
      | arrive request world harrive => exact ⟨sound_arrive hp hs harrive, returned_arrive hp hr harrive⟩
      | call i environment request c next hthread => exact ⟨sound_call hp hs hthread, returned_call hp hs hr hthread⟩
      | move m world hmove =>
        exact ⟨sound_move hs hmove, fun hasks h => hasEnded_move hmove (hr.ended hasks h), hr.once⟩
    · refine ⟨sound_start, ?_, ?_⟩
      · intro i contactId attributes hasks
        simp [Asks, Pool.requests] at hasks
      · intro i j contactId attributes hasks
        simp [Asks, Pool.requests] at hasks
  exact hboth.2

/-- The run of CallEndHandler that is thread `i` has returned. -/
def ReturnedFor (p : State) (i : Nat) (contactId : String) (output : Value) : Prop :=
  ∃ thread attributes, p.threads[i]? = some thread ∧ thread.request = .callEnd contactId attributes ∧
    thread.result? = some (.ok output)

theorem ReturnedFor.released (hreal : settings.mockMode = false) {labels : List Label}
    (hrun : exec (step settings) { world := {} } labels = some p) {i : Nat} {contactId : String} {output : Value}
    (h : ReturnedFor p i contactId output) : ∃ contact j taskToken input, p.world.contacts.lookup contactId = some contact ∧
      Asks p j (.dispatch taskToken input) ∧ contact.outbound = input.outbound settings taskToken ∧
      Asks p i (.callEnd contactId contact.outbound.attributes) ∧ (knowledge p i).2 = .released ∧ output = CallEndHandler.answer (.str contactId) "RECORDED" := by
  have hs := sound_run hreal hrun
  have hp : Lawful settings p := Arrivals.follows_run (handler_wp hreal) (fun _ _ _ _ => trivial) hrun
  obtain ⟨⟨request, program⟩, attributes, hthread, rfl, hresult⟩ := h
  have hasks : Asks p i (.callEnd contactId attributes) := Arrivals.request_of_thread hthread
  obtain ⟨contact, hcontact, rfl, -⟩ := hs.invoked hasks
  obtain ⟨hid, -, j, taskToken, input, hj, hcomplete, houtbound, -⟩ := hs.placed hcontact
  obtain ⟨hreleased, parsed, hparse, houtput⟩ := hp.result hthread hresult
  rw [houtbound, parseEvent_contactFlowEvent hcomplete hid] at hparse
  cases hparse
  exact ⟨contact, j, taskToken, input, hcontact, hj, houtbound, hasks, hreleased, houtput⟩

/-- In every run at most one run of CallEndHandler returns for a contact, however often the flow invokes it, and what it
returns names that contact. The task the contact was placed for has then succeeded, with the output of that contact. -/
theorem callEnd_once (hreal : settings.mockMode = false) {labels : List Label}
    (hrun : exec (step settings) { world := {} } labels = some p) {i : Nat} {contactId : String} {output : Value}
    (hreturned : ReturnedFor p i contactId output) :
    output = CallEndHandler.answer (.str contactId) "RECORDED" ∧
      (∃ taskToken task contact, IsContactOf settings p.world taskToken task.input contactId contact ∧
        p.world.tasks.lookup taskToken = some task ∧
        task.state = .succeeded (CallEndHandler.callEndOutput (.str contactId) "RECORDED")) ∧
      ∀ j output', ReturnedFor p j contactId output' → i = j := by
  have hs := sound_run hreal hrun
  have hr := returned_run hreal hrun
  obtain ⟨contact, k, token, input, hcontact, hk, houtbound, hasks, hreleased, houtput⟩ := hreturned.released hreal hrun
  refine ⟨houtput, ?_, ?_⟩
  · obtain ⟨taskToken, task, htoken, htask, hstate⟩ := hr.ended hasks hreleased
    refine ⟨taskToken, task, contact, ⟨hcontact, ?_⟩, htask, hstate⟩
    rw [houtbound] at htoken
    have hsame : token = taskToken := Option.some.inj htoken
    subst hsame
    obtain ⟨k', hk'⟩ := hs.asked htask
    have hkk' := hs.unique hk hk'
    subst hkk'
    have hinput : Request.dispatch token input = .dispatch token task.input := Option.some.inj (hk.symm.trans hk')
    cases hinput
    exact houtbound
  · intro j output' hreturned'
    obtain ⟨contact', -, -, -, hcontact', -, -, hasks', hreleased', -⟩ := hreturned'.released hreal hrun
    rw [hcontact] at hcontact'
    cases hcontact'
    exact hr.once hasks hasks' hreleased hreleased'

/-- Of the two runs the later one is refused. -/
theorem callEnd_once_retriedCall : ∃ p output, exec (step sampleSettings) { world := {} } retriedCall = some p ∧
    ReturnedFor p 2 "k1" output ∧ output = CallEndHandler.answer (.str "k1") "RECORDED" ∧
      ∀ output', ¬ ReturnedFor p 1 "k1" output' := by
  obtain ⟨output, houtput⟩ := Option.isSome_iff_exists.1 (show ((exec (step sampleSettings) { world := {} } retriedCall).bind
    fun p => p.threads[2]?.bind fun thread => thread.result?.bind Except.toOption).isSome = true by decide)
  obtain ⟨p, hrun, houtput⟩ := Option.bind_eq_some_iff.1 houtput
  obtain ⟨thread, hthread, houtput⟩ := Option.bind_eq_some_iff.1 houtput
  obtain ⟨result, hresult, houtput⟩ := Option.bind_eq_some_iff.1 houtput
  have hasks := (asks_retriedCall hrun).2 2 (.inr rfl)
  have hrequest := Option.some.inj ((Arrivals.request_of_thread hthread).symm.trans hasks)
  have hreturned : ReturnedFor p 2 "k1" output := by
    refine ⟨thread, _, hthread, hrequest, ?_⟩
    cases result with
    | error e => cases houtput
    | ok v =>
      cases houtput
      exact hresult
  obtain ⟨hanswer, -, honce⟩ := callEnd_once rfl hrun hreturned
  refine ⟨p, output, hrun, hreturned, hanswer, fun output' hother => ?_⟩
  have hsame := honce 1 output' hother
  revert hsame
  decide

end Outbound

end SafetyConfirmation
