import SafetyConfirmation.Connect.Dispatches
import SafetyConfirmation.Response.Bookkeeping

/-!
# What the rows say of the calls

In every run of the system a row of the Response table names a contact that was placed for it, has a result that a call of
its own came to, and counts each Dispatch of it at most once, and at least when its dispatcher has taken a contact.
-/

namespace SafetyConfirmation

namespace Outbound

open Checks FlowGraph KeyedStore Interleaving StepMachine

/-! ### What a write does to a row -/

def contactIdOf (row : Option Response) : Option String := row.bind Response.contactId

/-- A write of another writer leaves the contact and the attempts alone, and the result but for a recording that could not
be transcribed. -/
theorem otherWrite_run (w : OtherWrite) (row : Option Response) :
    contactIdOf (w.write.run row) = contactIdOf row ∧ (Response.tally (w.write.run row) = Response.tally row ∨
      (Response.callResultCodeOf row = some "RECORDED" ∧ Response.tally (w.write.run row) =
        { attempts := Response.attemptsOf row, code := some "TRANSCRIBE_FAILED" })) := by
  cases w
  case recordTranscribeFailed =>
    apply Write.run_induction (motive := fun row' => contactIdOf row' = contactIdOf row ∧
      (Response.tally row' = Response.tally row ∨ (Response.callResultCodeOf row = some "RECORDED" ∧ Response.tally row' =
        { attempts := Response.attemptsOf row, code := some "TRANSCRIBE_FAILED" }))) ⟨rfl, .inl rfl⟩
    intro hcondition
    cases row with
    | none => cases hcondition
    | some row => exact ⟨rfl, .inr ⟨beq_iff_eq.1 hcondition, rfl⟩⟩
  all_goals
    apply Write.run_induction (motive := fun row' => contactIdOf row' = contactIdOf row ∧
      (Response.tally row' = Response.tally row ∨ (Response.callResultCodeOf row = some "RECORDED" ∧ Response.tally row' =
        { attempts := Response.attemptsOf row, code := some "TRANSCRIBE_FAILED" }))) ⟨rfl, .inl rfl⟩
    intro hcondition
    cases row with
    | none => exact ⟨rfl, .inl rfl⟩
    | some row => first | exact ⟨rfl, .inl rfl⟩ | cases hcondition

theorem contactIdOf_update (u : RowUpdate) (now : Instant) (row : Option Response) :
    contactIdOf ((u.write now).run row) = contactIdOf row ∨
      ∃ contactId, u = .recordSuccess contactId ∧ contactIdOf ((u.write now).run row) = some contactId := by
  cases u with
  | recordSuccess contactId => exact .inr ⟨contactId, rfl, rfl⟩
  | recordError | recordCallEnd code =>
    left
    apply Write.run_induction (motive := fun row' => contactIdOf row' = contactIdOf row) rfl
    intro _
    cases row <;> rfl

/-- The result after an update is the old one, or the one of the update. -/
theorem callResultCodeOf_update (u : RowUpdate) (now : Instant) (row : Option Response) :
    Response.callResultCodeOf ((u.write now).run row) = Response.callResultCodeOf row ∨
      (u = .recordError ∧ Response.callResultCodeOf ((u.write now).run row) = some "ERROR") ∨
      ∃ code, u = .recordCallEnd code ∧ Response.callResultCodeOf ((u.write now).run row) = some code := by
  have htally := Response.tally_run (u.write now) row
  have hcode : Response.callResultCodeOf ((u.write now).run row) = ((Response.tally row).apply (u.write now)).code :=
    congrArg Response.Tally.code htally
  rw [hcode]
  cases u with
  | recordSuccess contactId => exact .inl rfl
  | recordError =>
    rw [RowUpdate.write, Response.Tally.apply]
    split
    · exact .inr (.inl ⟨rfl, rfl⟩)
    · exact .inl rfl
  | recordCallEnd code =>
    rw [RowUpdate.write, Response.Tally.apply]
    split
    · exact .inr (.inr ⟨code, rfl, rfl⟩)
    · exact .inl rfl

/-- An update counts at most one attempt, and none is lost. -/
theorem attemptsOf_update (u : RowUpdate) (now : Instant) (row : Option Response) :
    Response.attemptsOf row ≤ Response.attemptsOf ((u.write now).run row) ∧
      Response.attemptsOf ((u.write now).run row) ≤ Response.attemptsOf row + 1 ∧
      ((∃ code, u = .recordCallEnd code) → Response.attemptsOf ((u.write now).run row) = Response.attemptsOf row) ∧
      ((∃ contactId, u = .recordSuccess contactId) →
        Response.attemptsOf ((u.write now).run row) = Response.attemptsOf row + 1) := by
  have htally := Response.tally_run (u.write now) row
  have hattempts : Response.attemptsOf ((u.write now).run row) = ((Response.tally row).apply (u.write now)).attempts :=
    congrArg Response.Tally.attempts htally
  have hbefore : (Response.tally row).attempts = Response.attemptsOf row := rfl
  rw [hattempts]
  cases u with
  | recordSuccess contactId =>
    simp only [RowUpdate.write, Response.Tally.apply, hbefore]
    simp
  | recordError =>
    simp only [RowUpdate.write, Response.Tally.apply]
    split <;> simp [hbefore]
  | recordCallEnd code =>
    simp only [RowUpdate.write, Response.Tally.apply]
    split <;> simp [hbefore]

/-! ### What a step does to a row -/

/-- Only an update changes a row. -/
theorem World.lookup_responses_respond (world : World) (environment : Environment) (c : ConnectCall)
    (key : String × String) :
    (world.respond environment c).2.responses.lookup key = world.responses.lookup key ∨
      ∃ u, c = .updateResponse key u ∧
        (world.respond environment c).2.responses.lookup key =
          (u.write environment.now).run (world.responses.lookup key) := by
  cases c with
  | startOutboundVoiceContact outbound =>
    rcases start_cases world environment outbound 0 with ⟨-, hworld, -⟩ | ⟨hworld, -⟩
    · exact .inl (congrArg (fun world => world.responses.lookup key) hworld :)
    · exact .inl (congrArg (fun world => world.responses.lookup key) hworld :)
  | sleep tryIdx => exact .inl rfl
  | updateResponse other u =>
    rcases update_cases world environment other u with hworld | hworld
    · exact .inl (congrArg (fun world => world.responses.lookup key) hworld :)
    · have hlookup : (world.respond environment (.updateResponse other u)).2.responses.lookup key =
          (world.responses.write other (u.write environment.now).write).lookup key :=
        congrArg (fun world => world.responses.lookup key) hworld
      by_cases hkey : key = other
      · subst other
        rw [Store.lookup_write_self] at hlookup
        exact .inr ⟨u, rfl, hlookup⟩
      · rw [Store.lookup_write_ne _ _ hkey] at hlookup
        exact .inl hlookup
  | putObject bucket object => exact .inl rfl
  | sendTaskSuccess taskToken output =>
    rcases release_cases world environment taskToken output with hworld | ⟨-, hworld⟩
    · exact .inl (congrArg (fun world => world.responses.lookup key) hworld :)
    · refine .inl ((congrArg (fun world => world.responses.lookup key) hworld).trans ?_)
      rw [responses_setTask]

theorem responses_arrive {world world' : World} {request : Request} (harrive : arrive world request = some world') :
    world'.responses = world.responses := by
  cases request with
  | dispatch taskToken input =>
    rw [arrive] at harrive
    split at harrive
    · cases harrive
      rfl
    · cases harrive
  | callEnd contactId attributes =>
    obtain ⟨contact, -, hcontact⟩ := Option.bind_eq_some_iff.1 harrive
    split at hcontact
    · cases hcontact
      rfl
    · cases hcontact

/-- A move of the world leaves a row, or is a write of another writer to it. -/
theorem World.lookup_responses_move {world world' : World} {m : Move} (hmove : world.move m = some world')
    (key : String × String) :
    world'.responses.lookup key = world.responses.lookup key ∨
      ∃ w : OtherWrite, world'.responses.lookup key = w.write.run (world.responses.lookup key) := by
  cases m with
  | leave contactId outcome =>
    obtain ⟨contact, -, rfl⟩ := Option.map_eq_some_iff.1 hmove
    exact .inl rfl
  | close taskToken =>
    rw [World.move] at hmove
    split at hmove
    · cases hmove
      rw [responses_setTask]
      exact .inl rfl
    · cases hmove
  | write other w =>
    cases hmove
    by_cases hkey : key = other
    · subst other
      exact .inr ⟨w, Store.lookup_write_self ..⟩
    · exact .inl (Store.lookup_write_ne _ _ hkey)

/-! ### Where the contact and the result of a row come from -/

variable {settings : ConnectDispatcher.Settings} {p t : State}

variable (settings) in
/-- A call of the row has come to this result. -/
def HasResult (p : State) (key : String × String) (code : String) : Prop :=
  ((code = "RECORDED" ∨ code = "TRANSCRIBE_FAILED") ∧
    ∃ taskToken input contactId, input.key = key ∧ HasRecording settings p.world taskToken input contactId) ∨
  (code = "ERROR" ∧ ∃ taskToken input, input.key = key ∧ GaveUp p taskToken input)

variable (settings) in
/-- What the row says is true of calls of its own. -/
structure Told (p : State) (key : String × String) (row : Option Response) : Prop where
  contactId : ∀ {contactId}, contactIdOf row = some contactId →
    ∃ taskToken input contact, input.key = key ∧ IsContactOf settings p.world taskToken input contactId contact
  code : ∀ {code}, Response.callResultCodeOf row = some code → HasResult settings p key code

theorem Grows.told (h : Grows p t) {key : String × String} {row : Option Response} (htold : Told settings p key row) :
    Told settings t key row where
  contactId hrow := by
    obtain ⟨taskToken, input, contact, hkey, hcontact, houtbound⟩ := htold.contactId hrow
    obtain ⟨contact', hcontact', houtbound', -⟩ := h.contacts hcontact
    exact ⟨taskToken, input, contact', hkey, hcontact', houtbound'.trans houtbound⟩
  code hrow := by
    rcases htold.code hrow with ⟨hcode, taskToken, input, contactId, hkey, hrecording⟩ | ⟨hcode, taskToken, input, hkey, hgaveUp⟩
    · exact .inl ⟨hcode, taskToken, input, contactId, hkey, h.hasRecording hrecording⟩
    · exact .inr ⟨hcode, taskToken, input, hkey, h.gaveUp hgaveUp⟩

theorem told_otherWrite {key : String × String} {row : Option Response} (htold : Told settings p key row) (w : OtherWrite) :
    Told settings p key (w.write.run row) := by
  obtain ⟨hid, htally⟩ := otherWrite_run w row
  constructor
  case contactId =>
    intro contactId hrow
    rw [hid] at hrow
    exact htold.contactId hrow
  case code =>
    intro code hrow
    rcases htally with hsame | ⟨hrecorded, hfailed⟩
    · have hcode : Response.callResultCodeOf (w.write.run row) = Response.callResultCodeOf row :=
        congrArg Response.Tally.code hsame
      rw [hcode] at hrow
      exact htold.code hrow
    · have hcode : Response.callResultCodeOf (w.write.run row) = some "TRANSCRIBE_FAILED" :=
        congrArg Response.Tally.code hfailed
      rw [hcode] at hrow
      cases hrow
      rcases htold.code hrecorded with ⟨-, hcall⟩ | ⟨herror, -⟩
      · exact .inl ⟨.inr rfl, hcall⟩
      · exact absurd herror (by decide)

section Call

variable {i : Nat} {environment : Environment} {request : Request} {c : ConnectCall}
  {next : Except PyError c.Reply → ConnectLambda Value}

/-- A dispatcher that records its error has given up. -/
theorem hasGivenUp_afterCall {key : String × String} {next : Except PyError Unit → ConnectLambda Value}
    (hstage : (knowledge p i).1 = .exhausted) : HasGivenUp
      (knowledge (afterCall (system settings).service p i environment request (.updateResponse key .recordError) next) i).1 := by
  rw [knowledge_self, hstage]
  show HasGivenUp (ConnectDispatcher.Stage.afterError (p.world.update environment key .recordError).1)
  rw [ConnectDispatcher.Stage.afterError.eq_def]
  split
  · exact .inl rfl
  · split
    · exact .inl rfl
    · exact .inr (.inr rfl)

theorem told_call (hp : Lawful settings p) (hs : Sound settings p)
    (hthread : p.threads[i]? = some { request, program := .call c next }) {key : String × String}
    (htold : Told settings p key (p.world.responses.lookup key)) :
    Told settings (afterCall (system settings).service p i environment request c next) key
      ((afterCall (system settings).service p i environment request c next).world.responses.lookup key) := by
  have hg : Grows p (afterCall (system settings).service p i environment request c next) := grows_call hp hthread
  have hold := hg.told htold
  have hacts := acts_of_thread hp hs hthread
  show Told _ _ key ((p.world.respond environment c).2.responses.lookup key)
  rcases World.lookup_responses_respond p.world environment c key with hsame | ⟨u, rfl, hrow⟩
  · rw [hsame]
    exact hold
  · rw [hrow]
    constructor
    case contactId =>
      intro contactId hid
      rcases contactIdOf_update u environment.now (p.world.responses.lookup key) with hsame | ⟨contactId', rfl, hset⟩
      · rw [hsame] at hid
        exact hold.contactId hid
      · rw [hset] at hid
        cases hid
        cases hacts with
        | @recordSuccess taskToken input _ hrequest hstage =>
          obtain ⟨contact, hcontact, houtbound⟩ := hs.taken hrequest hstage
          obtain ⟨contact', hcontact', houtbound', -⟩ := hg.contacts hcontact
          exact ⟨taskToken, input, contact', rfl, hcontact', houtbound'.trans houtbound⟩
    case code =>
      intro code hcode
      rcases callResultCodeOf_update u environment.now (p.world.responses.lookup key) with
        hsame | ⟨rfl, hset⟩ | ⟨code', rfl, hset⟩
      · rw [hsame] at hcode
        exact hold.code hcode
      · rw [hset] at hcode
        cases hcode
        cases hacts with
        | @recordError taskToken input hrequest hstage =>
          exact .inr ⟨rfl, taskToken, input, rfl, i, hg.requests hrequest, hasGivenUp_afterCall hstage⟩
      · rw [hset] at hcode
        cases hcode
        cases hacts with
        | @recordCallEnd taskToken input contactId hrecording =>
          exact .inl ⟨.inl rfl, taskToken, input, contactId, rfl, hg.hasRecording hrecording⟩

end Call

/-- In every run a row names a contact only that was placed for a Dispatch of its own. Its result is `RECORDED` or
`TRANSCRIBE_FAILED` only after such a contact was recorded, and `ERROR` only after a dispatcher of its own was throttled
three times; it is never another one. -/
theorem row_told (hreal : settings.mockMode = false) {labels : List Label}
    (hrun : exec (step settings) { world := {} } labels = some p) {key : String × String} {row : Response}
    (hrow : p.world.responses.lookup key = some row) :
    (∀ contactId, row.contactId = some contactId →
      ∃ taskToken input contact, input.key = key ∧ IsContactOf settings p.world taskToken input contactId contact) ∧
    ∀ code, row.callResultCode = some code →
      ((code = "RECORDED" ∨ code = "TRANSCRIBE_FAILED") ∧
        ∃ taskToken input contactId, input.key = key ∧ HasRecording settings p.world taskToken input contactId) ∨
      (code = "ERROR" ∧ ∃ i taskToken input, input.key = key ∧ Asks p i (.dispatch taskToken input) ∧
        (dials p i).length = 3 ∧ ∀ d ∈ dials p i, d.outbound = input.outbound settings taskToken ∧ d.Throttled) := by
  have hboth : Sound settings p ∧ ∀ key, Told settings p key (p.world.responses.lookup key) := by
    apply Arrivals.invariant_run (handler_wp hreal) (fun _ _ _ _ => trivial) _ _ hrun
    · rintro p t hp - ⟨hs, htold⟩ hstep
      cases hstep with
      | arrive request world harrive =>
        refine ⟨sound_arrive hp hs harrive, fun key => ?_⟩
        show Told _ _ key (world.responses.lookup key)
        rw [responses_arrive harrive]
        exact (grows_arrive harrive).told (htold key)
      | call i environment request c next hthread => exact ⟨sound_call hp hs hthread, fun key => told_call hp hs hthread (htold key)⟩
      | move m world hmove =>
        refine ⟨sound_move hs hmove, fun key => ?_⟩
        have hold := (grows_move hmove).told (htold key)
        show Told _ _ key (world.responses.lookup key)
        rcases World.lookup_responses_move hmove key with hsame | ⟨w, hrow⟩
        · rw [hsame]
          exact hold
        · rw [hrow]
          exact told_otherWrite hold w
    · refine ⟨sound_start, fun key => ⟨?_, ?_⟩⟩
      · intro contactId h
        simp [contactIdOf] at h
      · intro code h
        simp [Response.callResultCodeOf] at h
  have htold := hboth.2 key
  rw [hrow] at htold
  refine ⟨fun contactId h => htold.contactId h, fun code h => ?_⟩
  rcases htold.code h with hcall | ⟨hcode, taskToken, input, hkey, hgaveUp⟩
  · exact .inl hcall
  · obtain ⟨i, hasks, hdials⟩ := hgaveUp.dials hreal hrun
    exact .inr ⟨hcode, i, taskToken, input, hkey, hasks, hdials⟩

theorem row_told_retriedCall : ∃ p row, exec (step sampleSettings) { world := {} } retriedCall = some p ∧
    p.world.responses.lookup ("c1", "e1") = some row ∧ row.contactId = some "k1" ∧ ∃ taskToken input contact,
      input.key = ("c1", "e1") ∧ IsContactOf sampleSettings p.world taskToken input "k1" contact := by
  obtain ⟨row, hrow⟩ := Option.isSome_iff_exists.1 (show (((exec (step sampleSettings) { world := {} } retriedCall).bind
    fun p => p.world.responses.lookup ("c1", "e1")).filter fun row => row.contactId = some "k1").isSome = true by decide)
  obtain ⟨hrow, hid⟩ := Option.filter_eq_some_iff.1 hrow
  obtain ⟨p, hrun, hrow⟩ := Option.bind_eq_some_iff.1 hrow
  have hcontact := of_decide_eq_true hid
  exact ⟨p, row, hrun, hrow, hcontact, (row_told rfl hrun hrow).1 "k1" hcontact⟩

/-! ### How many attempts a row counts -/

def attempts (p : State) (key : String × String) : Nat := Response.attemptsOf (p.world.responses.lookup key)

/-- The dispatcher has written to its row, or may have. -/
def HasCounted (stage : ConnectDispatcher.Stage) : Prop :=
  (∃ contactId, stage = .recorded contactId) ∨ stage = .failed ∨ HasGivenUp stage

theorem hasCounted_advance {dispatch : ConnectDispatcher.Dispatch} {stage : ConnectDispatcher.Stage} {c : ConnectCall}
    (h : HasCounted stage) (hcall : stage.call? dispatch = some c) (answer : Except PyError c.Reply) :
    HasCounted (stage.advance c answer) := by
  rcases h with ⟨contactId, rfl⟩ | rfl | hgivenUp
  · cases hcall
  · cases hcall
  · exact .inr (.inr (hasGivenUp_advance hgivenUp hcall answer))

/-- Thread `i` is a dispatcher of the row. -/
def DispatchesFor (p : State) (key : String × String) (i : Nat) : Prop :=
  ∃ taskToken input, Asks p i (.dispatch taskToken input) ∧ input.key = key

/-- Every attempt that a row counts is that of a dispatcher of its own, and every dispatcher of it that has recorded its
contact is counted. -/
structure Counts (p : State) (key : String × String) : Prop where
  most : ∃ is : List Nat, is.Nodup ∧ attempts p key ≤ is.length ∧
    ∀ i ∈ is, DispatchesFor p key i ∧ HasCounted (knowledge p i).1
  least : ∀ is : List Nat, is.Nodup →
    (∀ i ∈ is, DispatchesFor p key i ∧ ∃ contactId, (knowledge p i).1 = .recorded contactId) → is.length ≤ attempts p key

theorem dispatchesFor_arrive {key : String × String} {request : Request} {world : World} {program : ConnectLambda Value}
    {i : Nat} (h : DispatchesFor { p with world, threads := p.threads ++ [{ request, program }] } key i) :
    DispatchesFor p key i ∨ i = p.threads.length := by
  obtain ⟨taskToken, input, hasks, hkey⟩ := h
  rcases asks_arrive hasks with hold | ⟨hlast, -⟩
  · exact .inl ⟨taskToken, input, hold, hkey⟩
  · exact .inr hlast

theorem counts_arrive (hp : Lawful settings p) {key : String × String} {request : Request} {world : World}
    {program : ConnectLambda Value} (harrive : arrive p.world request = some world) (hc : Counts p key) :
    Counts { p with world, threads := p.threads ++ [{ request, program }] } key := by
  have hg : Grows p { p with world, threads := p.threads ++ [{ request, program }] } := grows_arrive harrive
  have hattempts : attempts { p with world, threads := p.threads ++ [{ request, program }] } key = attempts p key := by
    show Response.attemptsOf (world.responses.lookup key) = _
    rw [responses_arrive harrive]
    rfl
  constructor
  case most =>
    obtain ⟨is, hnodup, hmost, hall⟩ := hc.most
    refine ⟨is, hnodup, by rw [hattempts]; exact hmost, fun i hi => ?_⟩
    obtain ⟨⟨taskToken, input, hasks, hkey⟩, hcounted⟩ := hall i hi
    exact ⟨⟨taskToken, input, hg.requests hasks, hkey⟩, hcounted⟩
  case least =>
    intro is hnodup hall
    rw [hattempts]
    apply hc.least is hnodup
    intro i hi
    obtain ⟨hfor, contactId, hstage⟩ := hall i hi
    change (knowledge p i).1 = _ at hstage
    rcases dispatchesFor_arrive hfor with hold | rfl
    · exact ⟨hold, contactId, hstage⟩
    · rw [knowledge_length hp] at hstage
      cases hstage

theorem counts_move {key : String × String} {m : Move} {world : World} (hmove : p.world.move m = some world)
    (hc : Counts p key) : Counts { p with world } key := by
  have hattempts : attempts { p with world } key = attempts p key := by
    show Response.attemptsOf (world.responses.lookup key) = Response.attemptsOf (p.world.responses.lookup key)
    rcases World.lookup_responses_move hmove key with hsame | ⟨w, hrow⟩
    · rw [hsame]
    · rw [hrow]
      rcases (otherWrite_run w (p.world.responses.lookup key)).2 with hsame | ⟨-, hfailed⟩
      · exact (congrArg Response.Tally.attempts hsame :)
      · exact (congrArg Response.Tally.attempts hfailed :)
  constructor
  case most =>
    obtain ⟨is, hnodup, hmost, hall⟩ := hc.most
    exact ⟨is, hnodup, by rw [hattempts]; exact hmost, hall⟩
  case least =>
    intro is hnodup hall
    rw [hattempts]
    exact hc.least is hnodup hall

section Call

variable {i : Nat} {environment : Environment} {request : Request} {c : ConnectCall}
  {next : Except PyError c.Reply → ConnectLambda Value}

/-- A dispatcher comes to have recorded its contact where the update of its row is answered. -/
theorem recorded_advance {dispatch : ConnectDispatcher.Dispatch} {stage : ConnectDispatcher.Stage} {contactId : String}
    (hcall : stage.call? dispatch = some c) {answer : Except PyError c.Reply}
    (h : stage.advance c answer = .recorded contactId) :
    stage = .placed contactId ∧ c = .updateResponse dispatch.key (.recordSuccess contactId) ∧ ∃ a, answer = .ok a := by
  cases stage with
  | placed id =>
    cases hcall
    cases answer with
    | ok a =>
      cases h
      exact ⟨rfl, rfl, a, rfl⟩
    | error e => cases h
  | dialing tryIdx =>
    cases hcall
    cases answer with
    | ok resp =>
      change ConnectDispatcher.Stage.afterDial tryIdx (.ok resp) = _ at h
      rw [ConnectDispatcher.Stage.afterDial] at h
      split at h <;> cases h
    | error e =>
      change ConnectDispatcher.Stage.afterDial tryIdx (.error e) = _ at h
      rw [ConnectDispatcher.Stage.afterDial, ConnectDispatcher.Stage.afterThrottle] at h
      split at h
      · split at h <;> cases h
      · cases h
  | pausing tryIdx | unreleased =>
    cases hcall
    cases answer <;> cases h
  | exhausted =>
    cases hcall
    cases answer with
    | ok _ => cases h
    | error e =>
      change (if conditionalCheckFailed e then ConnectDispatcher.Stage.unreleased else .gaveUp) = _ at h
      split at h <;> cases h
  | recorded _ | released | failed | gaveUp => cases hcall

/-- A write that is answered is there. -/
theorem World.lookup_update_of_ok {world : World} {environment : Environment} {key : String × String} {u : RowUpdate}
    {a : Unit} (h : (world.update environment key u).1 = .ok a) :
    (world.update environment key u).2.responses.lookup key = (u.write environment.now).run (world.responses.lookup key) := by
  rw [World.update] at h ⊢
  cases herror : environment.error with
  | some e =>
    rw [herror] at h
    cases h
  | none =>
    rw [herror] at h
    dsimp only at h ⊢
    split
    · exact Store.lookup_write_self ..
    · rename_i hcondition
      rw [if_neg hcondition] at h
      cases h

/-- The stage of a dispatcher that writes to its row. -/
theorem attempts_afterCall (hp : Lawful settings p) (hs : Sound settings p)
    (hthread : p.threads[i]? = some { request, program := .call c next }) (key : String × String) :
    attempts p key ≤ attempts (afterCall (system settings).service p i environment request c next) key ∧
      (attempts (afterCall (system settings).service p i environment request c next) key = attempts p key ∨
        (attempts (afterCall (system settings).service p i environment request c next) key ≤ attempts p key + 1 ∧
          DispatchesFor p key i ∧ ¬ HasCounted (knowledge p i).1 ∧
          HasCounted (knowledge (afterCall (system settings).service p i environment request c next) i).1)) := by
  have hafter : attempts (afterCall (system settings).service p i environment request c next) key =
      Response.attemptsOf ((p.world.respond environment c).2.responses.lookup key) := rfl
  rw [hafter]
  rcases World.lookup_responses_respond p.world environment c key with hsame | ⟨u, rfl, hrow⟩
  · rw [hsame]
    exact ⟨Nat.le_refl _, .inl rfl⟩
  · obtain ⟨hkeep, hmost, hcallEnd, -⟩ := attemptsOf_update u environment.now (p.world.responses.lookup key)
    rw [hrow]
    refine ⟨hkeep, ?_⟩
    cases acts_of_thread hp hs hthread with
    | recordCallEnd hrecording => exact .inl (hcallEnd ⟨_, rfl⟩)
    | @recordError taskToken input hrequest hstage =>
      refine .inr ⟨hmost, ⟨taskToken, input, hrequest, rfl⟩, ?_, .inr (.inr (hasGivenUp_afterCall hstage))⟩
      rw [hstage]
      simp [HasCounted, HasGivenUp]
    | @recordSuccess taskToken input contactId hrequest hstage =>
      refine .inr ⟨hmost, ⟨taskToken, input, hrequest, rfl⟩, ?_, ?_⟩
      · rw [hstage]
        simp [HasCounted, HasGivenUp]
      · rw [knowledge_self, hstage]
        show HasCounted (ConnectDispatcher.Stage.advance (.placed contactId)
          (.updateResponse input.key (.recordSuccess contactId)) (p.world.update environment input.key _).1)
        cases (p.world.update environment input.key (.recordSuccess contactId)).1 with
        | ok _ => exact .inl ⟨contactId, rfl⟩
        | error e => exact .inr (.inl rfl)

/-- A dispatcher that has recorded its contact is counted. -/
theorem attempts_of_recorded (hp : Lawful settings p)
    (hthread : p.threads[i]? = some { request, program := .call c next }) {taskToken : String} {input : DispatchInput}
    {contactId : String} (hasks : Asks p i (.dispatch taskToken input))
    (hstage : (knowledge (afterCall (system settings).service p i environment request c next) i).1 = .recorded contactId) :
    attempts (afterCall (system settings).service p i environment request c next) input.key = attempts p input.key + 1 := by
  have hsame : request = .dispatch taskToken input :=
    Option.some.inj ((Arrivals.request_of_thread hthread).symm.trans hasks)
  subst hsame
  obtain ⟨dispatch, hdispatch, hcall⟩ := hp.allowed hthread
  obtain ⟨-, rfl⟩ := dispatchOf_event.1 hdispatch
  rw [knowledge_self] at hstage
  obtain ⟨-, rfl, a, hanswer⟩ := recorded_advance hcall hstage
  show Response.attemptsOf ((p.world.update environment input.key (.recordSuccess contactId)).2.responses.lookup input.key) = _
  rw [World.lookup_update_of_ok hanswer]
  exact (attemptsOf_update _ _ _).2.2.2 ⟨contactId, rfl⟩

theorem counts_call (hp : Lawful settings p) (hs : Sound settings p)
    (hthread : p.threads[i]? = some { request, program := .call c next }) {key : String × String} (hc : Counts p key) :
    Counts (afterCall (system settings).service p i environment request c next) key := by
  have hasks : ∀ j r, Asks (afterCall (system settings).service p i environment request c next) j r ↔ Asks p j r :=
    asks_afterCall hthread
  have hg : Grows p (afterCall (system settings).service p i environment request c next) := grows_call hp hthread
  obtain ⟨hkeep, hchange⟩ := @attempts_afterCall _ _ _ environment _ _ _ hp hs hthread key
  constructor
  case most =>
    obtain ⟨is, hnodup, hmost, hall⟩ := hc.most
    have hall' : ∀ j ∈ is, DispatchesFor (afterCall (system settings).service p i environment request c next) key j ∧
        HasCounted (knowledge (afterCall (system settings).service p i environment request c next) j).1 := by
      intro j hj
      obtain ⟨⟨taskToken, input, hrequest, hkey⟩, hcounted⟩ := hall j hj
      refine ⟨⟨taskToken, input, hg.requests hrequest, hkey⟩, ?_⟩
      exact stage_afterCall (fun _ _ hstage _ answer hcall => hasCounted_advance hstage hcall answer) hp hthread hrequest hcounted
    rcases hchange with hsame | ⟨hone, hfor, hbefore, hcounted⟩
    · exact ⟨is, hnodup, by omega, hall'⟩
    · refine ⟨i :: is, List.nodup_cons.2 ⟨fun hmem => hbefore (hall i hmem).2, hnodup⟩, ?_, ?_⟩
      · rw [List.length_cons]
        omega
      · rw [List.forall_mem_cons]
        obtain ⟨taskToken, input, hrequest, hkey⟩ := hfor
        exact ⟨⟨⟨taskToken, input, hg.requests hrequest, hkey⟩, hcounted⟩, hall'⟩
  case least =>
    intro is hnodup hall
    have hothers : ∀ js : List Nat, js.Nodup → (∀ j ∈ js, j ∈ is ∧ i ≠ j) → js.length ≤ attempts p key := by
      intro js hjs hmem
      apply hc.least js hjs
      intro j hj
      obtain ⟨hmem, hij⟩ := hmem j hj
      obtain ⟨⟨taskToken, input, hrequest, hkey⟩, contactId, hstage⟩ := hall j hmem
      rw [knowledge_ne hij] at hstage
      exact ⟨⟨taskToken, input, (hasks j _).1 hrequest, hkey⟩, contactId, hstage⟩
    by_cases hmem : i ∈ is
    · have hrest := hothers (is.erase i) (hnodup.erase i) fun j hj =>
        ⟨List.mem_of_mem_erase hj, fun hij => (hnodup.mem_erase_iff.1 hj).1 hij.symm⟩
      rw [List.length_erase_of_mem hmem] at hrest
      obtain ⟨⟨taskToken, input, hrequest, rfl⟩, contactId, hstage⟩ := hall i hmem
      have hone := attempts_of_recorded hp hthread ((hasks i _).1 hrequest) hstage
      omega
    · have hrest := hothers is hnodup fun j hj => ⟨hj, fun hij => hmem (hij ▸ hj)⟩
      omega

end Call

/-- The dispatchers of a row that have returned with a contact. -/
def TookContact (p : State) (key : String × String) (i : Nat) : Prop :=
  ∃ thread taskToken input contactId, p.threads[i]? = some thread ∧ thread.request = .dispatch taskToken input ∧
    input.key = key ∧ thread.result? = some (.ok (ConnectDispatcher.answer "ok" (.str contactId) false))

theorem counts_run (hreal : settings.mockMode = false) {labels : List Label}
    (hrun : exec (step settings) { world := {} } labels = some p) (key : String × String) : Counts p key := by
  have hboth : Sound settings p ∧ ∀ key, Counts p key := by
    apply Arrivals.invariant_run (handler_wp hreal) (fun _ _ _ _ => trivial) _ _ hrun
    · rintro p t hp - ⟨hs, hc⟩ hstep
      cases hstep with
      | arrive request world harrive => exact ⟨sound_arrive hp hs harrive, fun key => counts_arrive hp harrive (hc key)⟩
      | call i environment request c next hthread =>
        exact ⟨sound_call hp hs hthread, fun key => counts_call hp hs hthread (hc key)⟩
      | move m world hmove => exact ⟨sound_move hs hmove, fun key => counts_move hmove (hc key)⟩
    · refine ⟨sound_start, fun key => ⟨⟨[], List.nodup_nil, Nat.le_refl _, by simp⟩, ?_⟩⟩
      intro is _ hall
      cases is with
      | nil => exact Nat.zero_le _
      | cons i is =>
        obtain ⟨⟨taskToken, input, hasks, -⟩, -⟩ := hall i List.mem_cons_self
        simp [Asks, Pool.requests] at hasks
  exact hboth.2 key

/-- In every run `callAttempts` is at most the number of Dispatches that were entered for the row, and at least the number
of those whose dispatcher has returned with a contact: no update of a dispatcher is lost under another writer. -/
theorem callAttempts_between (hreal : settings.mockMode = false) {labels : List Label}
    (hrun : exec (step settings) { world := {} } labels = some p) (key : String × String) :
    (∃ is : List Nat, is.Nodup ∧ (∀ i ∈ is, DispatchesFor p key i) ∧ attempts p key ≤ is.length) ∧
      ∀ is : List Nat, is.Nodup → (∀ i ∈ is, TookContact p key i) → is.length ≤ attempts p key := by
  have hp : Lawful settings p := Arrivals.follows_run (handler_wp hreal) (fun _ _ _ _ => trivial) hrun
  have hc := counts_run hreal hrun key
  constructor
  · obtain ⟨is, hnodup, hmost, hall⟩ := hc.most
    exact ⟨is, hnodup, fun i hi => (hall i hi).1, hmost⟩
  · intro is hnodup hall
    apply hc.least is hnodup
    intro i hi
    obtain ⟨⟨request, program⟩, taskToken, input, contactId, hthread, rfl, hkey, hresult⟩ := hall i hi
    have hends : (knowledge p i).1.Ends (.ok (ConnectDispatcher.answer "ok" (.str contactId) false)) :=
      hp.result hthread hresult
    refine ⟨⟨taskToken, input, Arrivals.request_of_thread hthread, hkey⟩, ?_⟩
    cases hstage : (knowledge p i).1 with
    | recorded id => exact ⟨id, rfl⟩
    | released =>
      rw [hstage] at hends
      simp [ConnectDispatcher.Stage.Ends, ConnectDispatcher.answer] at hends
    | dialing _ | pausing _ | placed _ | exhausted | unreleased | failed | gaveUp =>
      rw [hstage] at hends
      exact hends.elim

/-- The dispatcher whose call was throttled once has returned with its contact. -/
theorem tookContact_retriedCall {p : State} (hrun : exec (step sampleSettings) { world := {} } retriedCall = some p) :
    TookContact p ("c1", "e1") 0 := by
  have hthread : (exec (step sampleSettings) { world := {} } retriedCall).map
      (fun p => p.threads[0]?.map fun thread => (thread.request, thread.result?)) =
        some (some (.dispatch "t1" firstAttempt, some (.ok (ConnectDispatcher.answer "ok" (.str "k1") false)))) := rfl
  rw [hrun, Option.map_some, Option.some.injEq, Option.map_eq_some_iff] at hthread
  obtain ⟨thread, hthread, heq⟩ := hthread
  rw [Prod.mk.injEq] at heq
  exact ⟨thread, "t1", firstAttempt, "k1", hthread, heq.1, rfl, heq.2⟩

theorem callAttempts_between_retriedCall : ∃ p, exec (step sampleSettings) { world := {} } retriedCall = some p ∧
    (∃ is : List Nat, is.Nodup ∧ (∀ i ∈ is, DispatchesFor p ("c1", "e1") i) ∧ attempts p ("c1", "e1") ≤ is.length) ∧
      1 ≤ attempts p ("c1", "e1") := by
  obtain ⟨p, hrun⟩ := Option.isSome_iff_exists.1
    (show (exec (step sampleSettings) { world := {} } retriedCall).isSome = true by decide)
  obtain ⟨hmost, hleast⟩ := callAttempts_between rfl hrun ("c1", "e1")
  refine ⟨p, hrun, hmost, hleast [0] (List.nodup_singleton 0) fun i hi => ?_⟩
  rw [List.mem_singleton.1 hi]
  exact tookContact_retriedCall hrun

end Outbound

end SafetyConfirmation
