import SafetyConfirmation.Connect.TaskTokens

/-!
# Which call a task ends with

In every run of the system a task that has succeeded carries the output of its own call: of the one contact that was placed
for it, once that was being recorded, or of a dispatcher that was throttled three times and placed none.
-/

namespace SafetyConfirmation

namespace Outbound

open Checks FlowGraph KeyedStore Interleaving StepMachine

/-! ### Stages that stay -/

/-- The dispatcher was throttled in every try. -/
def HasGivenUp (stage : ConnectDispatcher.Stage) : Prop := stage = .unreleased ∨ stage = .released ∨ stage = .gaveUp

/-- The dispatcher may have placed a contact with this id, and makes no further call. -/
def MayHavePlaced (contactId : String) (stage : ConnectDispatcher.Stage) : Prop :=
  stage = .placed contactId ∨ stage = .recorded contactId ∨ stage = .failed

variable {dispatch : ConnectDispatcher.Dispatch} {stage : ConnectDispatcher.Stage} {c : ConnectCall}

theorem hasGivenUp_advance (h : HasGivenUp stage) (hcall : stage.call? dispatch = some c)
    (answer : Except PyError c.Reply) : HasGivenUp (stage.advance c answer) := by
  rcases h with rfl | rfl | rfl
  · cases hcall
    cases answer with
    | ok _ => exact .inr (.inl rfl)
    | error e => exact .inr (.inr rfl)
  · cases hcall
  · cases hcall

theorem mayHavePlaced_advance {contactId : String} (h : MayHavePlaced contactId stage)
    (hcall : stage.call? dispatch = some c) (answer : Except PyError c.Reply) :
    MayHavePlaced contactId (stage.advance c answer) := by
  rcases h with rfl | rfl | rfl
  · cases hcall
    cases answer with
    | ok _ => exact .inr (.inl rfl)
    | error e => exact .inr (.inr rfl)
  · cases hcall
  · cases hcall

/-- Only a dial leads to a contact that is placed. -/
theorem exists_dialing_of_placed {contactId : String} (hcall : stage.call? dispatch = some c)
    {answer : Except PyError c.Reply} (h : stage.advance c answer = .placed contactId) : ∃ tryIdx, stage = .dialing tryIdx := by
  cases stage with
  | dialing tryIdx => exact ⟨tryIdx, rfl⟩
  | pausing tryIdx | placed id | unreleased =>
    cases hcall
    cases answer <;> cases h
  | exhausted =>
    cases hcall
    cases answer with
    | ok _ => cases h
    | error e =>
      change (if conditionalCheckFailed e then ConnectDispatcher.Stage.unreleased else .gaveUp) = _ at h
      split at h <;> cases h
  | recorded _ | released | failed | gaveUp => cases hcall

theorem not_mayHavePlaced {contactId : String} (h : HasGivenUp stage) : ¬ MayHavePlaced contactId stage := by
  rcases h with rfl | rfl | rfl <;> simp [MayHavePlaced]

/-! ### What a call does to the world -/

namespace World

variable {world : World} {environment : Environment}

/-- A dial places a contact, and the dispatcher takes it or fails; or it places none. -/
theorem start_cases (world : World) (environment : Environment) (outbound : OutboundCall) (tryIdx : Nat) :
    (world.accepts environment.contactId = true ∧
      (world.start environment outbound).2 = world.place environment.contactId outbound ∧
      (ConnectDispatcher.Stage.afterDial tryIdx (world.start environment outbound).1 = .placed environment.contactId ∨
        ConnectDispatcher.Stage.afterDial tryIdx (world.start environment outbound).1 = .failed)) ∨
    ((world.start environment outbound).2 = world ∧
      (ConnectDispatcher.Stage.afterDial tryIdx (world.start environment outbound).1 = .failed ∨
        ∃ e, (world.start environment outbound).1 = .error e ∧ ConnectDispatcher.isRetryable e = true)) := by
  rw [start]
  cases environment.error with
  | none =>
    by_cases haccepts : world.accepts environment.contactId = true
    · refine .inl ⟨haccepts, by simp only [haccepts, if_true], .inl ?_⟩
      have hid : environment.contactId ≠ "" := by
        rw [accepts, Bool.and_eq_true, bne_iff_ne] at haccepts
        exact haccepts.1
      have hread : ConnectDispatcher.contactIdOf (.dict [("ContactId", .str environment.contactId)]) =
          .ok environment.contactId := if_neg hid
      simp only [haccepts, if_true, ConnectDispatcher.Stage.afterDial, hread]
    · refine .inr ⟨by simp only [haccepts, Bool.false_eq_true, if_false], .inl ?_⟩
      simp only [haccepts, Bool.false_eq_true, if_false]
      rfl
  | some e =>
    by_cases hretry : ConnectDispatcher.isRetryable e = true
    · refine .inr ⟨?_, .inr ⟨e, rfl, hretry⟩⟩
      simp only [hretry, Bool.not_true, Bool.and_false, Bool.false_and, Bool.false_eq_true, if_false]
    · have hfailed : ConnectDispatcher.Stage.afterDial tryIdx (.error e) = .failed := if_neg hretry
      by_cases hplaces : (environment.applied && !ConnectDispatcher.isRetryable e &&
          world.accepts environment.contactId) = true
      · have haccepts := (Bool.and_eq_true_iff.1 hplaces).2
        exact .inl ⟨haccepts, if_pos hplaces, .inr hfailed⟩
      · exact .inr ⟨if_neg hplaces, .inl hfailed⟩

theorem update_cases (world : World) (environment : Environment) (key : String × String) (u : RowUpdate) :
    (world.update environment key u).2 = world ∨
      (world.update environment key u).2 = world.writeRow key (u.write environment.now).write := by
  rw [update]
  cases environment.error with
  | none =>
    dsimp only
    split
    · exact .inr rfl
    · exact .inl rfl
  | some e =>
    dsimp only
    split
    · exact .inr rfl
    · exact .inl rfl

theorem release_cases (world : World) (environment : Environment) (taskToken : String) (output : Value) :
    (world.release environment taskToken output).2 = world ∨
      (world.isWaiting taskToken = true ∧
        (world.release environment taskToken output).2 = world.setTask taskToken (.succeeded output)) := by
  rw [release]
  by_cases hwaiting : world.isWaiting taskToken = true
  · simp only [hwaiting, if_true]
    cases environment.error with
    | none => exact .inr ⟨trivial, rfl⟩
    | some e =>
      dsimp only
      split
      · exact .inr ⟨trivial, rfl⟩
      · exact .inl rfl
  · simp only [hwaiting]
    cases environment.error with
    | none => exact .inl rfl
    | some e => exact .inl (ite_self world)

theorem contacts_setTask (world : World) (taskToken : String) (state : TaskState) :
    (world.setTask taskToken state).contacts = world.contacts := by
  rw [setTask]
  split <;> rfl

theorem responses_setTask (world : World) (taskToken : String) (state : TaskState) :
    (world.setTask taskToken state).responses = world.responses := by
  rw [setTask]
  split <;> rfl

theorem lookup_setTask {taskToken token : String} {state : TaskState} {task : Task}
    (h : (world.setTask taskToken state).tasks.lookup token = some task) :
    (world.tasks.lookup token = some task) ∨
      (token = taskToken ∧ task.state = state ∧ ∃ old, world.tasks.lookup token = some old ∧ task.input = old.input) := by
  rw [setTask] at h
  split at h
  · rename_i old hold
    rw [Store.lookup_set] at h
    split at h
    · subst token
      cases h
      exact .inr ⟨rfl, rfl, old, hold, rfl⟩
    · exact .inl h
  · exact .inl h

theorem isSome_lookup_setTask {taskToken token : String} {state : TaskState} {task : Task}
    (h : world.tasks.lookup token = some task) : ∃ task', (world.setTask taskToken state).tasks.lookup token = some task' := by
  rw [setTask]
  split
  · rw [Store.lookup_set]
    split
    · exact ⟨_, rfl⟩
    · exact ⟨task, h⟩
  · exact ⟨task, h⟩

/-- Only a dial changes the contacts, and it places one. -/
theorem contacts_respond (world : World) (environment : Environment) (c : ConnectCall) :
    (world.respond environment c).2.contacts = world.contacts ∨
      ∃ outbound, c = .startOutboundVoiceContact outbound ∧ world.accepts environment.contactId = true ∧
        (world.respond environment c).2 = world.place environment.contactId outbound := by
  cases c with
  | startOutboundVoiceContact outbound =>
    rcases start_cases world environment outbound 0 with ⟨haccepts, hworld, -⟩ | ⟨hworld, -⟩
    · exact .inr ⟨outbound, rfl, haccepts, hworld⟩
    · exact .inl (congrArg contacts hworld :)
  | sleep tryIdx => exact .inl rfl
  | updateResponse key u =>
    rcases update_cases world environment key u with hworld | hworld
    · exact .inl (congrArg contacts hworld :)
    · exact .inl (congrArg contacts hworld :)
  | putObject bucket key => exact .inl rfl
  | sendTaskSuccess taskToken output =>
    rcases release_cases world environment taskToken output with hworld | ⟨-, hworld⟩
    · exact .inl (congrArg contacts hworld :)
    · exact .inl ((congrArg contacts hworld).trans (contacts_setTask world taskToken _))

/-- Only a release changes the tasks, and only one that waits. -/
theorem tasks_respond (world : World) (environment : Environment) (c : ConnectCall) :
    (world.respond environment c).2.tasks = world.tasks ∨
      ∃ taskToken output, c = .sendTaskSuccess taskToken output ∧ world.isWaiting taskToken = true ∧
        (world.respond environment c).2 = world.setTask taskToken (.succeeded output) := by
  cases c with
  | startOutboundVoiceContact outbound =>
    rcases start_cases world environment outbound 0 with ⟨-, hworld, -⟩ | ⟨hworld, -⟩
    · exact .inl (congrArg tasks hworld :)
    · exact .inl (congrArg tasks hworld :)
  | sleep tryIdx => exact .inl rfl
  | updateResponse key u =>
    rcases update_cases world environment key u with hworld | hworld
    · exact .inl (congrArg tasks hworld :)
    · exact .inl (congrArg tasks hworld :)
  | putObject bucket key => exact .inl rfl
  | sendTaskSuccess taskToken output =>
    rcases release_cases world environment taskToken output with hworld | ⟨hwaiting, hworld⟩
    · exact .inl (congrArg tasks hworld :)
    · exact .inr ⟨taskToken, output, rfl, hwaiting, hworld⟩

theorem lookup_place_eq_some {contactId id : String} {outbound : OutboundCall} {contact : Contact}
    (h : (world.place contactId outbound).contacts.lookup id = some contact) :
    (id = contactId ∧ contact = { outbound }) ∨ world.contacts.lookup id = some contact := by
  rw [place, Store.lookup_set] at h
  split at h
  · cases h
    exact .inl ⟨‹_›, rfl⟩
  · exact .inr h

theorem lookup_place {contactId : String} (haccepts : world.accepts contactId = true) {id : String} {contact : Contact}
    (h : world.contacts.lookup id = some contact) (outbound : OutboundCall) :
    (world.place contactId outbound).contacts.lookup id = some contact := by
  have hne : id ≠ contactId := by
    rintro rfl
    rw [accepts, h] at haccepts
    simp at haccepts
  rw [place, Store.lookup_set_ne _ _ hne]
  exact h

end World

/-! ### The invariant -/

variable (settings : ConnectDispatcher.Settings)

/-- Thread `i` was started for this request. -/
def Asks (p : State) (i : Nat) (request : Request) : Prop := p.requests[i]? = some request

/-- The contact was placed for this Dispatch. -/
def IsContactOf (world : World) (taskToken : String) (input : DispatchInput) (contactId : String) (contact : Contact) : Prop :=
  world.contacts.lookup contactId = some contact ∧ contact.outbound = input.outbound settings taskToken

/-- A contact of this Dispatch was being recorded. -/
def HasRecording (world : World) (taskToken : String) (input : DispatchInput) (contactId : String) : Prop :=
  ∃ contact, IsContactOf settings world taskToken input contactId contact ∧ contact.recordingBehavior = some "Both"

/-- The Dispatch was entered, and its dispatcher was throttled in every try. -/
def GaveUp (p : State) (taskToken : String) (input : DispatchInput) : Prop :=
  ∃ i, Asks p i (.dispatch taskToken input) ∧ HasGivenUp (knowledge p i).1

/-- The output comes from the call of the task. -/
def Explained (p : State) (taskToken : String) (input : DispatchInput) (output : Value) : Prop :=
  (∃ contactId, HasRecording settings p.world taskToken input contactId ∧
    output = CallEndHandler.callEndOutput (.str contactId) "RECORDED") ∨
  (output = ConnectDispatcher.dispatchFailed ∧ GaveUp p taskToken input)

structure Sound (p : State) : Prop where
  asked : ∀ {taskToken task}, p.world.tasks.lookup taskToken = some task →
    ∃ i, Asks p i (.dispatch taskToken task.input)
  tasked : ∀ {i : Nat} {taskToken input}, Asks p i (.dispatch taskToken input) →
    ∃ task, p.world.tasks.lookup taskToken = some task
  unique : ∀ {i j : Nat} {taskToken input input'}, Asks p i (.dispatch taskToken input) →
    Asks p j (.dispatch taskToken input') → i = j
  placed : ∀ {contactId contact}, p.world.contacts.lookup contactId = some contact →
    contactId ≠ "" ∧ contact.Recorded ∧ ∃ i taskToken input, Asks p i (.dispatch taskToken input) ∧
      input.Complete taskToken ∧ contact.outbound = input.outbound settings taskToken ∧
      MayHavePlaced contactId (knowledge p i).1
  single : ∀ {taskToken input contactId contactId' contact contact'},
    IsContactOf settings p.world taskToken input contactId contact →
    IsContactOf settings p.world taskToken input contactId' contact' → contactId = contactId'
  taken : ∀ {i : Nat} {taskToken input contactId}, Asks p i (.dispatch taskToken input) →
    (knowledge p i).1 = .placed contactId → ∃ contact, IsContactOf settings p.world taskToken input contactId contact
  invoked : ∀ {i : Nat} {contactId attributes}, Asks p i (.callEnd contactId attributes) →
    ∃ contact, p.world.contacts.lookup contactId = some contact ∧ contact.outbound.attributes = attributes ∧
      contact.recordingBehavior = some "Both"
  outputs : ∀ {taskToken task output}, p.world.tasks.lookup taskToken = some task → task.state = .succeeded output →
    Explained settings p taskToken task.input output

variable {settings} {p t : State}

theorem sound_start : Sound settings { world := {} } where
  asked h := by simp at h
  tasked h := by simp [Asks, Pool.requests] at h
  unique h := by simp [Asks, Pool.requests] at h
  placed h := by simp at h
  single h := by simp [IsContactOf] at h
  taken h := by simp [Asks, Pool.requests] at h
  invoked h := by simp [Asks, Pool.requests] at h
  outputs h := by simp at h

/-! ### What stays true -/

/-- A later state of the same run. -/
structure Grows (p t : State) : Prop where
  requests : ∀ {i : Nat} {request}, Asks p i request → Asks t i request
  contacts : ∀ {contactId contact}, p.world.contacts.lookup contactId = some contact →
    ∃ contact', t.world.contacts.lookup contactId = some contact' ∧ contact'.outbound = contact.outbound ∧
      (contact.recordingBehavior = some "Both" → contact'.recordingBehavior = some "Both")
  givenUp : ∀ {i : Nat} {taskToken input}, Asks p i (.dispatch taskToken input) →
    HasGivenUp (knowledge p i).1 → HasGivenUp (knowledge t i).1
  mayHavePlaced : ∀ {i : Nat} {taskToken input contactId}, Asks p i (.dispatch taskToken input) →
    MayHavePlaced contactId (knowledge p i).1 → MayHavePlaced contactId (knowledge t i).1

theorem Grows.hasRecording (h : Grows p t) {taskToken : String} {input : DispatchInput} {contactId : String}
    (hrecording : HasRecording settings p.world taskToken input contactId) :
    HasRecording settings t.world taskToken input contactId := by
  obtain ⟨contact, ⟨hcontact, houtbound⟩, hboth⟩ := hrecording
  obtain ⟨contact', hcontact', houtbound', hboth'⟩ := h.contacts hcontact
  exact ⟨contact', ⟨hcontact', houtbound'.trans houtbound⟩, hboth' hboth⟩

theorem Grows.gaveUp (h : Grows p t) {taskToken : String} {input : DispatchInput} (hgaveUp : GaveUp p taskToken input) :
    GaveUp t taskToken input := by
  obtain ⟨i, hrequest, hstage⟩ := hgaveUp
  exact ⟨i, h.requests hrequest, h.givenUp hrequest hstage⟩

theorem Grows.explained (h : Grows p t) {taskToken : String} {input : DispatchInput} {output : Value}
    (hexplained : Explained settings p taskToken input output) : Explained settings t taskToken input output := by
  rcases hexplained with ⟨contactId, hrecording, houtput⟩ | ⟨houtput, hgaveUp⟩
  · exact .inl ⟨contactId, h.hasRecording hrecording, houtput⟩
  · exact .inr ⟨houtput, h.gaveUp hgaveUp⟩

theorem recordingBehavior_leave {contact : Contact} (h : contact.recordingBehavior = some "Both") (outcome : Outcome) :
    (contact.leave outcome).recordingBehavior = some "Both" := by
  obtain ⟨outbound, current, recordingBehavior⟩ := contact
  cases current with
  | none => exact h
  | some action => cases action <;> cases outcome <;> first | exact h | rfl

theorem outbound_leave (contact : Contact) (outcome : Outcome) : (contact.leave outcome).outbound = contact.outbound := by
  rw [Contact.leave]
  split <;> rfl

/-! ### The call of a thread -/

variable (settings) in
/-- The call that a thread may be at. -/
inductive Acts (p : State) (i : Nat) : ConnectCall → Prop where
  | dial {taskToken : String} {input : DispatchInput} {tryIdx : Nat} (hrequest : Asks p i (.dispatch taskToken input))
      (hcomplete : input.Complete taskToken) (hstage : (knowledge p i).1 = .dialing tryIdx) :
      Acts p i (.startOutboundVoiceContact (input.outbound settings taskToken))
  | pause (tryIdx : Nat) : Acts p i (.sleep tryIdx)
  | recordSuccess {taskToken : String} {input : DispatchInput} {contactId : String}
      (hrequest : Asks p i (.dispatch taskToken input)) (hstage : (knowledge p i).1 = .placed contactId) :
      Acts p i (.updateResponse input.key (.recordSuccess contactId))
  | recordError {taskToken : String} {input : DispatchInput} (hrequest : Asks p i (.dispatch taskToken input))
      (hstage : (knowledge p i).1 = .exhausted) : Acts p i (.updateResponse input.key .recordError)
  | giveUp {taskToken : String} {input : DispatchInput} (hrequest : Asks p i (.dispatch taskToken input))
      (hstage : (knowledge p i).1 = .unreleased) : Acts p i (.sendTaskSuccess taskToken ConnectDispatcher.dispatchFailed)
  | recordCallEnd {taskToken : String} {input : DispatchInput} {contactId : String}
      (hrecording : HasRecording settings p.world taskToken input contactId) :
      Acts p i (.updateResponse input.key (.recordCallEnd "RECORDED"))
  | release {j : Nat} {taskToken : String} {input : DispatchInput} {contactId : String}
      (hrequest : Asks p j (.dispatch taskToken input))
      (hrecording : HasRecording settings p.world taskToken input contactId) :
      Acts p i (.sendTaskSuccess taskToken (CallEndHandler.callEndOutput (.str contactId) "RECORDED"))

theorem acts_of_thread (hp : Lawful settings p) (hs : Sound settings p) {i : Nat} {request : Request} {c : ConnectCall}
    {next : Except PyError c.Reply → ConnectLambda Value}
    (hthread : p.threads[i]? = some { request, program := .call c next }) : Acts settings p i c := by
  have hrequest : Asks p i request := Arrivals.request_of_thread hthread
  have hallowed : (spec settings request).allowed (knowledge p i) c := hp.allowed hthread
  cases request with
  | dispatch taskToken input =>
    obtain ⟨dispatch, hdispatch, hcall⟩ := hallowed
    obtain ⟨hcomplete, rfl⟩ := dispatchOf_event.1 hdispatch
    cases hstage : (knowledge p i).1 with
    | dialing tryIdx =>
      rw [hstage] at hcall
      cases hcall
      exact .dial hrequest hcomplete hstage
    | pausing tryIdx =>
      rw [hstage] at hcall
      cases hcall
      exact .pause tryIdx
    | placed contactId =>
      rw [hstage] at hcall
      cases hcall
      exact .recordSuccess hrequest hstage
    | exhausted =>
      rw [hstage] at hcall
      cases hcall
      exact .recordError hrequest hstage
    | unreleased =>
      rw [hstage] at hcall
      cases hcall
      exact .giveUp hrequest hstage
    | recorded _ | released | failed | gaveUp =>
      rw [hstage] at hcall
      cases hcall
  | callEnd contactId attributes =>
    obtain ⟨contact, hcontact, rfl, hboth⟩ := hs.invoked hrequest
    obtain ⟨hid, -, j, taskToken, input, hj, hcomplete, houtbound, -⟩ := hs.placed hcontact
    have hrecording : HasRecording settings p.world taskToken input contactId := ⟨contact, ⟨hcontact, houtbound⟩, hboth⟩
    obtain ⟨parsed, hparse, hcall⟩ := hallowed
    rw [houtbound, parseEvent_contactFlowEvent hcomplete hid] at hparse
    cases hparse
    cases hstage : (knowledge p i).2 with
    | recording =>
      rw [hstage] at hcall
      obtain ⟨key, hkey, rfl⟩ := hcall
      cases hkey
      exact .recordCallEnd hrecording
    | releasing =>
      rw [hstage] at hcall
      obtain ⟨token, htoken, rfl⟩ := hcall
      cases htoken
      exact .release hj hrecording
    | released | failed =>
      rw [hstage] at hcall
      exact hcall.elim

/-! ### The steps -/

section Call

variable {i : Nat} {environment : Environment} {request : Request} {c : ConnectCall}
  {next : Except PyError c.Reply → ConnectLambda Value}

theorem asks_afterCall (hthread : p.threads[i]? = some { request, program := .call c next }) (j : Nat) (r : Request) :
    Asks (afterCall (system settings).service p i environment request c next) j r ↔ Asks p j r := by
  rw [Asks, Asks, @Arrivals.requests_afterCall _ _ _ _ _ _ _ _ (system settings) _ _ _ _ _ _ hthread]

/-- What a stage that a thread is held at keeps, holds of every thread after a call. -/
theorem stage_afterCall {property : ConnectDispatcher.Stage → Prop}
    (hkeep : ∀ dispatch stage, property stage → ∀ c answer, stage.call? dispatch = some c → property (stage.advance c answer))
    (hp : Lawful settings p) (hthread : p.threads[i]? = some { request, program := .call c next }) {j : Nat}
    {taskToken : String} {input : DispatchInput} (hasks : Asks p j (.dispatch taskToken input))
    (hproperty : property (knowledge p j).1) :
    property (knowledge (afterCall (system settings).service p i environment request c next) j).1 := by
  by_cases hij : i = j
  · subst j
    have hsame : request = .dispatch taskToken input :=
      Option.some.inj ((Arrivals.request_of_thread hthread).symm.trans hasks)
    subst hsame
    obtain ⟨dispatch, -, hcall⟩ := hp.allowed hthread
    rw [knowledge_self]
    exact hkeep dispatch _ hproperty c _ hcall
  · rw [knowledge_ne hij]
    exact hproperty

theorem grows_call (hp : Lawful settings p) (hthread : p.threads[i]? = some { request, program := .call c next }) :
    Grows p (afterCall (system settings).service p i environment request c next) where
  requests h := (asks_afterCall hthread _ _).2 h
  contacts := by
    intro contactId contact h
    refine ⟨contact, ?_, rfl, id⟩
    rcases World.contacts_respond p.world environment c with hsame | ⟨outbound, rfl, haccepts, hworld⟩
    · show (p.world.respond environment c).2.contacts.lookup contactId = some contact
      rw [hsame, h]
    · show (p.world.respond environment _).2.contacts.lookup contactId = some contact
      rw [hworld]
      exact World.lookup_place haccepts h outbound
  givenUp hrequest h :=
    stage_afterCall (fun _ _ hstage _ answer hcall => hasGivenUp_advance hstage hcall answer) hp hthread hrequest h
  mayHavePlaced hrequest h :=
    stage_afterCall (fun _ _ hstage _ answer hcall => mayHavePlaced_advance hstage hcall answer) hp hthread hrequest h

theorem outbound_inj {taskToken taskToken' : String} {input input' : DispatchInput}
    (h : input.outbound settings taskToken = input'.outbound settings taskToken') : taskToken = taskToken' := by
  have hattributes := congrArg OutboundCall.attributes h
  simp only [DispatchInput.outbound, List.cons.injEq, Prod.mk.injEq] at hattributes
  exact hattributes.2.2.2.1.2

/-- A thread takes a contact where its dial has placed it. -/
theorem taken_afterCall (hp : Lawful settings p) (hthread : p.threads[i]? = some { request, program := .call c next })
    {taskToken : String} {input : DispatchInput} {contactId : String} (hasks : Asks p i (.dispatch taskToken input))
    (hstage : (knowledge (afterCall (system settings).service p i environment request c next) i).1 = .placed contactId) :
    ∃ contact, IsContactOf settings (afterCall (system settings).service p i environment request c next).world taskToken
      input contactId contact := by
  have hsame : request = .dispatch taskToken input :=
    Option.some.inj ((Arrivals.request_of_thread hthread).symm.trans hasks)
  subst hsame
  obtain ⟨dispatch, hdispatch, hcall⟩ := hp.allowed hthread
  obtain ⟨-, rfl⟩ := dispatchOf_event.1 hdispatch
  change (knowledge p i).1.call? _ = some c at hcall
  rw [knowledge_self] at hstage
  obtain ⟨tryIdx, hbefore⟩ := exists_dialing_of_placed hcall hstage
  rw [hbefore] at hcall hstage
  cases hcall
  change ConnectDispatcher.Stage.afterDial tryIdx (p.world.start environment _).1 = _ at hstage
  show ∃ contact, IsContactOf settings (p.world.start environment _).2 taskToken input contactId contact
  rcases World.start_cases p.world environment (input.outbound settings taskToken) tryIdx with
    ⟨-, hworld, htaken | hfailed⟩ | ⟨-, hfailed | ⟨e, hanswer, hretry⟩⟩
  · rw [htaken] at hstage
    cases hstage
    refine ⟨{ outbound := input.outbound settings taskToken }, ?_, rfl⟩
    rw [hworld]
    exact Store.lookup_set_self ..
  · rw [hfailed] at hstage
    cases hstage
  · rw [hfailed] at hstage
    cases hstage
  · rw [hanswer, ConnectDispatcher.Stage.afterDial, if_pos hretry, ConnectDispatcher.Stage.afterThrottle] at hstage
    split at hstage <;> cases hstage

/-- A contact of the state after a call is an old one, or the thread has placed it. -/
theorem contact_afterCall (hp : Lawful settings p) (hs : Sound settings p)
    (hthread : p.threads[i]? = some { request, program := .call c next }) {contactId : String} {contact : Contact}
    (h : (afterCall (system settings).service p i environment request c next).world.contacts.lookup contactId = some contact) :
    p.world.contacts.lookup contactId = some contact ∨
      (∃ taskToken input tryIdx, Asks p i (.dispatch taskToken input) ∧ input.Complete taskToken ∧
        (knowledge p i).1 = .dialing tryIdx ∧ contactId = environment.contactId ∧ contactId ≠ "" ∧ contact = { outbound := input.outbound settings taskToken } ∧
        MayHavePlaced contactId (knowledge (afterCall (system settings).service p i environment request c next) i).1) := by
  change (p.world.respond environment c).2.contacts.lookup contactId = some contact at h
  rcases World.contacts_respond p.world environment c with hsame | ⟨outbound, rfl, haccepts, hworld⟩
  · rw [hsame] at h
    exact .inl h
  · cases acts_of_thread hp hs hthread with
    | @dial taskToken input tryIdx hrequest hcomplete hstage =>
      rw [hworld] at h
      rcases World.lookup_place_eq_some h with ⟨rfl, rfl⟩ | hold
      · refine .inr ⟨taskToken, input, tryIdx, hrequest, hcomplete, hstage, rfl, ?_, rfl, ?_⟩
        · rw [World.accepts, Bool.and_eq_true, bne_iff_ne] at haccepts
          exact haccepts.1
        · rw [knowledge_self, hstage]
          show MayHavePlaced _ (ConnectDispatcher.Stage.afterDial tryIdx (p.world.start environment _).1)
          rcases World.start_cases p.world environment (input.outbound settings taskToken) tryIdx with
            ⟨-, -, htaken | hfailed⟩ | ⟨hsame, -⟩
          · exact .inl htaken
          · exact .inr (.inr hfailed)
          · -- The world would be the old one, which has no such contact.
            rw [← hworld] at h
            change (p.world.start environment _).2.contacts.lookup _ = _ at h
            rw [hsame] at h
            rw [World.accepts, h] at haccepts
            simp at haccepts
      · exact .inl hold

/-- A task of the state after a call is an old one, or the thread has released it. -/
theorem task_afterCall {taskToken : String} {task : Task}
    (h : (afterCall (system settings).service p i environment request c next).world.tasks.lookup taskToken = some task) :
    p.world.tasks.lookup taskToken = some task ∨
      ∃ output old, c = .sendTaskSuccess taskToken output ∧ p.world.tasks.lookup taskToken = some old ∧
        task.input = old.input ∧ task.state = .succeeded output := by
  change (p.world.respond environment c).2.tasks.lookup taskToken = some task at h
  rcases World.tasks_respond p.world environment c with hsame | ⟨token, output, rfl, -, hworld⟩
  · rw [hsame] at h
    exact .inl h
  · rw [hworld] at h
    rcases World.lookup_setTask h with hold | ⟨rfl, hstate, old, hold, hinput⟩
    · exact .inl hold
    · exact .inr ⟨output, old, rfl, hold, hinput, hstate⟩

/-- A task released by a call carries the output of its own call. -/
theorem explained_release (hp : Lawful settings p) (hs : Sound settings p)
    (hthread : p.threads[i]? = some { request, program := .call c next }) {taskToken : String} {output : Value} {old : Task}
    (hcall : c = .sendTaskSuccess taskToken output) (hold : p.world.tasks.lookup taskToken = some old) :
    Explained settings (afterCall (system settings).service p i environment request c next) taskToken old.input output := by
  have hg : Grows p (afterCall (system settings).service p i environment request c next) := grows_call hp hthread
  have hinput : ∀ {j : Nat} {input : DispatchInput}, Asks p j (.dispatch taskToken input) → input = old.input := by
    intro j input hasks
    obtain ⟨k, hk⟩ := hs.asked hold
    have hjk := hs.unique hasks hk
    subst k
    cases Option.some.inj (hasks.symm.trans hk)
    rfl
  have hacts := acts_of_thread hp hs hthread
  rw [hcall] at hacts
  cases hacts with
  | giveUp hrequest hstage =>
    rw [← hinput hrequest]
    exact .inr ⟨rfl, hg.gaveUp ⟨i, hrequest, .inl hstage⟩⟩
  | release hrequest hrecording =>
    rw [← hinput hrequest]
    exact .inl ⟨_, hg.hasRecording hrecording, rfl⟩

theorem sound_call (hp : Lawful settings p) (hs : Sound settings p)
    (hthread : p.threads[i]? = some { request, program := .call c next }) :
    Sound settings (afterCall (system settings).service p i environment request c next) := by
  have hg : Grows p (afterCall (system settings).service p i environment request c next) := grows_call hp hthread
  have hasks : ∀ j r, Asks (afterCall (system settings).service p i environment request c next) j r ↔ Asks p j r :=
    asks_afterCall hthread
  constructor
  case asked =>
    intro taskToken task h
    rcases task_afterCall h with hold | ⟨output, old, -, hold, hinput, -⟩
    · obtain ⟨j, hj⟩ := hs.asked hold
      exact ⟨j, hg.requests hj⟩
    · obtain ⟨j, hj⟩ := hs.asked hold
      rw [hinput]
      exact ⟨j, hg.requests hj⟩
  case tasked =>
    intro j taskToken input h
    obtain ⟨task, htask⟩ := hs.tasked ((hasks j _).1 h)
    show ∃ task, (p.world.respond environment c).2.tasks.lookup taskToken = some task
    rcases World.tasks_respond p.world environment c with hsame | ⟨token, output, rfl, -, hworld⟩
    · rw [hsame]
      exact ⟨task, htask⟩
    · rw [hworld]
      exact World.isSome_lookup_setTask htask
  case unique =>
    intro j k taskToken input input' hj hk
    exact hs.unique ((hasks j _).1 hj) ((hasks k _).1 hk)
  case placed =>
    intro contactId contact h
    rcases contact_afterCall hp hs hthread h with hold | ⟨taskToken, input, tryIdx, hrequest, hcomplete, -, -, hid, rfl, hstage⟩
    · obtain ⟨hid, hrecorded, j, taskToken, input, hj, hcomplete, houtbound, hstage⟩ := hs.placed hold
      exact ⟨hid, hrecorded, j, taskToken, input, hg.requests hj, hcomplete, houtbound, hg.mayHavePlaced hj hstage⟩
    · refine ⟨hid, ?_, i, taskToken, input, hg.requests hrequest, hcomplete, rfl, hstage⟩
      intro hcurrent
      simp at hcurrent
  case single =>
    have hfresh : ∀ {taskToken contactId contact taskToken' tryIdx} {input input' : DispatchInput},
        p.world.contacts.lookup contactId = some contact → contact.outbound = input.outbound settings taskToken →
        Asks p i (.dispatch taskToken' input') → (knowledge p i).1 = .dialing tryIdx → taskToken ≠ taskToken' := by
      rintro taskToken contactId contact taskToken' tryIdx input input' hold houtbound hrequest hdialing rfl
      obtain ⟨-, -, j, token, input'', hj, -, houtbound', hstage⟩ := hs.placed hold
      rw [houtbound] at houtbound'
      have htoken := outbound_inj houtbound'
      subst htoken
      have hji := hs.unique hj hrequest
      subst hji
      rw [hdialing] at hstage
      simp [MayHavePlaced] at hstage
    rintro taskToken input contactId contactId' contact contact' ⟨h, houtbound⟩ ⟨h', houtbound'⟩
    rcases contact_afterCall hp hs hthread h with hold | ⟨token, input₁, tryIdx, hrequest, -, hdialing, hid, -, rfl, -⟩
    · rcases contact_afterCall hp hs hthread h' with hold' | ⟨token, input₂, tryIdx, hrequest, -, hdialing, -, -, rfl, -⟩
      · exact hs.single ⟨hold, houtbound⟩ ⟨hold', houtbound'⟩
      · exact absurd (outbound_inj houtbound'.symm) (hfresh hold houtbound hrequest hdialing)
    · rcases contact_afterCall hp hs hthread h' with hold' | ⟨-, -, -, -, -, -, hid', -⟩
      · exact absurd (outbound_inj houtbound.symm) (hfresh hold' houtbound' hrequest hdialing)
      · exact hid.trans hid'.symm
  case taken =>
    intro j taskToken input contactId hj hstage
    by_cases hij : i = j
    · subst j
      exact taken_afterCall hp hthread ((hasks i _).1 hj) hstage
    · rw [knowledge_ne hij] at hstage
      obtain ⟨contact, hcontact, houtbound⟩ := hs.taken ((hasks j _).1 hj) hstage
      obtain ⟨contact', hcontact', houtbound', -⟩ := hg.contacts hcontact
      exact ⟨contact', hcontact', houtbound'.trans houtbound⟩
  case invoked =>
    intro j contactId attributes hj
    obtain ⟨contact, hcontact, rfl, hboth⟩ := hs.invoked ((hasks j _).1 hj)
    obtain ⟨contact', hcontact', houtbound, hboth'⟩ := hg.contacts hcontact
    exact ⟨contact', hcontact', by rw [houtbound], hboth' hboth⟩
  case outputs =>
    intro taskToken task output h hstate
    rcases task_afterCall h with hold | ⟨output', old, hcall, hold, hinput, hstate'⟩
    · exact hg.explained (hs.outputs hold hstate)
    · rw [hstate] at hstate'
      cases hstate'
      rw [hinput]
      exact explained_release hp hs hthread hcall hold

end Call

section Arrive

variable {request : Request} {world : World} {program : ConnectLambda Value}

/-- The contacts stay as they are when a request comes in. -/
theorem contacts_arrive (harrive : arrive p.world request = some world) : world.contacts = p.world.contacts := by
  cases request with
  | dispatch taskToken input =>
    rw [arrive] at harrive
    split at harrive
    · cases harrive
      rfl
    · cases harrive
  | callEnd contactId attributes =>
    obtain ⟨contact, -, hcontact⟩ := Option.bind_eq_some_iff.1 harrive
    split at hcontact
    · cases hcontact
      rfl
    · cases hcontact

theorem grows_arrive (harrive : arrive p.world request = some world) :
    Grows p { p with world, threads := p.threads ++ [{ request, program }] } where
  requests h := by
    rw [Asks, Arrivals.requests_arrive]
    exact Arrivals.getElem?_requests_append h
  contacts := by
    intro contactId contact h
    refine ⟨contact, ?_, rfl, id⟩
    show world.contacts.lookup contactId = some contact
    rw [contacts_arrive harrive, h]
  givenUp _ h := h
  mayHavePlaced _ h := h

theorem asks_arrive {j : Nat} {r : Request}
    (h : Asks { p with world, threads := p.threads ++ [{ request, program }] } j r) :
    Asks p j r ∨ (j = p.threads.length ∧ r = request) := by
  rw [Asks, Arrivals.requests_arrive] at h
  exact Arrivals.getElem?_requests_append_eq_some h

/-- The tasks after a request has come in: a Dispatch adds its own. -/
theorem task_arrive (harrive : arrive p.world request = some world) {token : String} {task : Task} :
    world.tasks.lookup token = some task ↔ p.world.tasks.lookup token = some task ∨
      ∃ input, request = .dispatch token input ∧ p.world.tasks.lookup token = none ∧ task = { input } := by
  cases request with
  | callEnd contactId attributes =>
    obtain ⟨contact, -, hcontact⟩ := Option.bind_eq_some_iff.1 harrive
    split at hcontact
    · cases hcontact
      simp
    · cases hcontact
  | dispatch taskToken input =>
    rw [arrive] at harrive
    split at harrive
    · rename_i hnone
      cases harrive
      have hfresh := Option.isNone_iff_eq_none.1 hnone
      show (p.world.tasks.set taskToken (some { input })).lookup token = some task ↔ _
      rw [Store.lookup_set]
      by_cases htoken : token = taskToken
      · subst token
        rw [if_pos rfl, hfresh]
        constructor
        · intro htask
          cases htask
          exact .inr ⟨input, rfl, rfl, rfl⟩
        · rintro (h | ⟨input', hrequest, -, rfl⟩)
          · cases h
          · cases hrequest
            rfl
      · rw [if_neg htoken]
        constructor
        · exact .inl
        · rintro (h | ⟨input', hrequest, -, -⟩)
          · exact h
          · cases hrequest
            exact absurd rfl htoken
    · cases harrive

theorem knowledge_length (hp : Lawful settings p) : knowledge p p.threads.length = start := by
  apply @reached_of_forall_ne _ _ _ _ _ (spec settings (.callEnd "" []))
  intro entry hmem
  have hlogged := hp.logged entry hmem
  omega

theorem sound_arrive (hp : Lawful settings p) (hs : Sound settings p) (harrive : arrive p.world request = some world) :
    Sound settings { p with world, threads := p.threads ++ [{ request, program }] } := by
  have hg : Grows p { p with world, threads := p.threads ++ [{ request, program }] } := grows_arrive harrive
  have hcontacts := contacts_arrive harrive
  constructor
  case asked =>
    intro taskToken task h
    rcases (task_arrive harrive).1 h with hold | ⟨input, rfl, -, rfl⟩
    · obtain ⟨j, hj⟩ := hs.asked hold
      exact ⟨j, hg.requests hj⟩
    · refine ⟨p.threads.length, ?_⟩
      rw [Asks, Arrivals.requests_arrive, List.getElem?_append_right (by simp [Pool.requests])]
      simp [Pool.requests]
  case tasked =>
    intro j taskToken input h
    rcases asks_arrive h with hold | ⟨-, rfl⟩
    · obtain ⟨task, htask⟩ := hs.tasked hold
      exact ⟨task, (task_arrive harrive).2 (.inl htask)⟩
    · cases hnone : p.world.tasks.lookup taskToken with
      | none => exact ⟨{ input }, (task_arrive harrive).2 (.inr ⟨input, rfl, hnone, rfl⟩)⟩
      | some task => exact ⟨task, (task_arrive harrive).2 (.inl hnone)⟩
  case unique =>
    have hfresh : ∀ {j : Nat} {taskToken input input'}, Asks p j (.dispatch taskToken input) →
        request = .dispatch taskToken input' → False := by
      rintro j taskToken input input' hj rfl
      obtain ⟨task, htask⟩ := hs.tasked hj
      rw [arrive, htask] at harrive
      cases harrive
    intro j k taskToken input input' hj hk
    rcases asks_arrive hj with hold | ⟨rfl, hnew⟩
    · rcases asks_arrive hk with hold' | ⟨rfl, hnew'⟩
      · exact hs.unique hold hold'
      · exact (hfresh hold hnew'.symm).elim
    · rcases asks_arrive hk with hold' | ⟨rfl, -⟩
      · exact (hfresh hold' hnew.symm).elim
      · rfl
  case placed =>
    intro contactId contact h
    change world.contacts.lookup contactId = some contact at h
    rw [hcontacts] at h
    obtain ⟨hid, hrecorded, j, taskToken, input, hj, hcomplete, houtbound, hstage⟩ := hs.placed h
    exact ⟨hid, hrecorded, j, taskToken, input, hg.requests hj, hcomplete, houtbound, hstage⟩
  case single =>
    rintro taskToken input contactId contactId' contact contact' ⟨h, houtbound⟩ ⟨h', houtbound'⟩
    change world.contacts.lookup _ = _ at h h'
    rw [hcontacts] at h h'
    exact hs.single ⟨h, houtbound⟩ ⟨h', houtbound'⟩
  case taken =>
    intro j taskToken input contactId hj hstage
    rcases asks_arrive hj with hj | ⟨rfl, -⟩
    · obtain ⟨contact, hcontact, houtbound⟩ := hs.taken hj hstage
      obtain ⟨contact', hcontact', houtbound', -⟩ := hg.contacts hcontact
      exact ⟨contact', hcontact', houtbound'.trans houtbound⟩
    · change (knowledge p p.threads.length).1 = _ at hstage
      rw [knowledge_length hp] at hstage
      cases hstage
  case invoked =>
    intro j contactId attributes hj
    rcases asks_arrive hj with hj | ⟨-, rfl⟩
    · obtain ⟨contact, hcontact, rfl, hboth⟩ := hs.invoked hj
      obtain ⟨contact', hcontact', houtbound, hboth'⟩ := hg.contacts hcontact
      exact ⟨contact', hcontact', by rw [houtbound], hboth' hboth⟩
    · obtain ⟨contact, hcontact, hinvoked⟩ := Option.bind_eq_some_iff.1 harrive
      split at hinvoked
      · rename_i hat
        have hrecorded := (hs.placed hcontact).2.1 (.inr (.inr hat.1))
        cases hinvoked
        exact ⟨contact, hcontact, hat.2.symm, hrecorded⟩
      · cases hinvoked
  case outputs =>
    intro taskToken task output h hstate
    rcases (task_arrive harrive).1 h with hold | ⟨input, -, -, rfl⟩
    · exact hg.explained (hs.outputs hold hstate)
    · cases hstate

end Arrive

/-- The contacts after one of them has gone on. -/
theorem contact_leave {contactId id : String} {contact contact' : Contact} {outcome : Outcome}
    (hcontact : p.world.contacts.lookup contactId = some contact)
    (h : (p.world.contacts.set contactId (some (contact.leave outcome))).lookup id = some contact') :
    ∃ old, p.world.contacts.lookup id = some old ∧ contact'.outbound = old.outbound ∧ (old.Recorded → contact'.Recorded) := by
  rw [Store.lookup_set] at h
  split at h
  · subst id
    cases h
    exact ⟨contact, hcontact, outbound_leave contact outcome, fun hrecorded => recorded_leave hrecorded outcome⟩
  · exact ⟨contact', h, rfl, fun hrecorded => hrecorded⟩

theorem grows_leave {contactId : String} {contact : Contact} (hcontact : p.world.contacts.lookup contactId = some contact)
    (outcome : Outcome) : Grows p
      { p with world := { p.world with contacts := p.world.contacts.set contactId (some (contact.leave outcome)) } } where
  requests h := h
  contacts := by
    intro id old h
    show ∃ contact', (p.world.contacts.set contactId (some (contact.leave outcome))).lookup id = some contact' ∧ _
    rw [Store.lookup_set]
    split
    · subst id
      rw [hcontact] at h
      cases h
      exact ⟨_, rfl, outbound_leave contact outcome, fun hboth => recordingBehavior_leave hboth outcome⟩
    · exact ⟨old, h, rfl, fun hboth => hboth⟩
  givenUp _ h := h
  mayHavePlaced _ h := h

theorem sound_leave (hs : Sound settings p) {contactId : String} {contact : Contact}
    (hcontact : p.world.contacts.lookup contactId = some contact) (outcome : Outcome) : Sound settings
      { p with world := { p.world with contacts := p.world.contacts.set contactId (some (contact.leave outcome)) } } := by
  have hg := grows_leave hcontact outcome
  constructor
  case asked => exact hs.asked
  case tasked => exact hs.tasked
  case unique => exact hs.unique
  case placed =>
    intro id contact' h
    obtain ⟨old, hold, houtbound, hrecorded⟩ := contact_leave hcontact h
    obtain ⟨hid, hrec, j, taskToken, input, hj, hcomplete, houtbound', hstage⟩ := hs.placed hold
    exact ⟨hid, hrecorded hrec, j, taskToken, input, hj, hcomplete, houtbound.trans houtbound', hstage⟩
  case single =>
    rintro taskToken input id id' contact₁ contact₂ ⟨h, houtbound⟩ ⟨h', houtbound'⟩
    obtain ⟨old, hold, hsame, -⟩ := contact_leave hcontact h
    obtain ⟨old', hold', hsame', -⟩ := contact_leave hcontact h'
    exact hs.single ⟨hold, hsame.symm.trans houtbound⟩ ⟨hold', hsame'.symm.trans houtbound'⟩
  case taken =>
    intro j taskToken input id hj hstage
    obtain ⟨old, hold, houtbound⟩ := hs.taken hj hstage
    obtain ⟨contact', hcontact', houtbound', -⟩ := hg.contacts hold
    exact ⟨contact', hcontact', houtbound'.trans houtbound⟩
  case invoked =>
    intro j id attributes hj
    obtain ⟨old, hold, rfl, hboth⟩ := hs.invoked hj
    obtain ⟨contact', hcontact', houtbound, hboth'⟩ := hg.contacts hold
    exact ⟨contact', hcontact', by rw [houtbound], hboth' hboth⟩
  case outputs =>
    intro taskToken task output h hstate
    exact hg.explained (hs.outputs h hstate)

theorem grows_close (taskToken : String) : Grows p { p with world := p.world.setTask taskToken .closed } where
  requests h := h
  contacts := by
    intro contactId contact h
    refine ⟨contact, ?_, rfl, fun hboth => hboth⟩
    show (p.world.setTask taskToken .closed).contacts.lookup contactId = some contact
    rw [World.contacts_setTask]
    exact h
  givenUp _ h := h
  mayHavePlaced _ h := h

theorem sound_close (hs : Sound settings p) (taskToken : String) :
    Sound settings { p with world := p.world.setTask taskToken .closed } := by
  have hcontacts := World.contacts_setTask p.world taskToken .closed
  have hg : Grows p { p with world := p.world.setTask taskToken .closed } := grows_close taskToken
  constructor
  case asked =>
    intro token task h
    rcases World.lookup_setTask h with hold | ⟨-, -, old, hold, hinput⟩
    · exact hs.asked hold
    · rw [hinput]
      exact hs.asked hold
  case tasked =>
    intro j token input hj
    obtain ⟨task, htask⟩ := hs.tasked hj
    exact World.isSome_lookup_setTask htask
  case unique => exact hs.unique
  case placed =>
    intro contactId contact h
    rw [hcontacts] at h
    exact hs.placed h
  case single =>
    rintro token input contactId contactId' contact contact' ⟨h, houtbound⟩ ⟨h', houtbound'⟩
    rw [hcontacts] at h h'
    exact hs.single ⟨h, houtbound⟩ ⟨h', houtbound'⟩
  case taken =>
    intro j token input contactId hj hstage
    obtain ⟨contact, hcontact, houtbound⟩ := hs.taken hj hstage
    refine ⟨contact, ?_, houtbound⟩
    rw [hcontacts]
    exact hcontact
  case invoked =>
    intro j contactId attributes hj
    rw [hcontacts]
    exact hs.invoked hj
  case outputs =>
    intro token task output h hstate
    rcases World.lookup_setTask h with hold | ⟨-, hclosed, -⟩
    · exact hg.explained (hs.outputs hold hstate)
    · rw [hstate] at hclosed
      cases hclosed

theorem grows_move {m : Move} {world : World} (hmove : p.world.move m = some world) : Grows p { p with world } := by
  cases m with
  | leave contactId outcome =>
    obtain ⟨contact, hcontact, rfl⟩ := Option.map_eq_some_iff.1 hmove
    exact grows_leave hcontact outcome
  | close taskToken =>
    rw [World.move] at hmove
    split at hmove
    · cases hmove
      exact grows_close taskToken
    · cases hmove
  | write key w =>
    cases hmove
    exact ⟨fun h => h, fun h => ⟨_, h, rfl, fun hboth => hboth⟩, fun _ h => h, fun _ h => h⟩

theorem sound_move (hs : Sound settings p) {m : Move} {world : World} (hmove : p.world.move m = some world) :
    Sound settings { p with world } := by
  cases m with
  | leave contactId outcome =>
    obtain ⟨contact, hcontact, rfl⟩ := Option.map_eq_some_iff.1 hmove
    exact sound_leave hs hcontact outcome
  | close taskToken =>
    rw [World.move] at hmove
    split at hmove
    · cases hmove
      exact sound_close hs taskToken
    · cases hmove
  | write key w =>
    cases hmove
    exact { hs with }

theorem sound_run (hreal : settings.mockMode = false) {labels : List Label}
    (hrun : exec (step settings) { world := {} } labels = some p) : Sound settings p := by
  apply Arrivals.invariant_run (handler_wp hreal) (fun _ _ _ _ => trivial) _ sound_start hrun
  intro p t hp _ hs hstep
  cases hstep with
  | arrive request world harrive => exact sound_arrive hp hs harrive
  | call i environment request c next hthread => exact sound_call hp hs hthread
  | move m world hmove => exact sound_move hs hmove

end Outbound

end SafetyConfirmation
