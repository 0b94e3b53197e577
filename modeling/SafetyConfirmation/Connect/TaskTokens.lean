import SafetyConfirmation.Connect.OutboundFlow
import SafetyConfirmation.Lib.Arrivals

/-!
# The tasks of the state Dispatch

Iterations of any number of cycles that wait in `Dispatch` for their task token, the runs of ConnectDispatcher they start,
the contacts these place, the flow each contact takes, and the runs of CallEndHandler that the flow invokes, once or more
than once. Any of them goes on at any time, a task may be closed under them by its timeout or an error, and the other writers
of the Response table come in between.
-/

namespace SafetyConfirmation

namespace Outbound

open Checks FlowGraph KeyedStore Interleaving

/-! ### The world -/

/-- A task is closed when its time is up, its lambda has failed or its execution was stopped. -/
inductive TaskState where
  | waiting
  | succeeded (output : Value)
  | closed

def TaskState.output? : TaskState → Option Value
  | succeeded output => some output
  | _ => none

theorem TaskState.output?_eq_some {state : TaskState} {output : Value} :
    state.output? = some output ↔ state = .succeeded output := by
  cases state <;> simp [output?]

structure Task where
  input : DispatchInput
  state : TaskState := .waiting

/-- The tasks by their tokens, the contacts by their ids, and the Response table. -/
structure World where
  tasks : Store String Task := ∅
  contacts : Store String Contact := ∅
  responses : Store (String × String) Response := ∅

/-- How a call goes: with which error, whether it took effect all the same, when, and the id of a contact it places. -/
structure Environment where
  error : Option PyError := none
  applied : Bool := true
  now : Instant := 0
  contactId : String := ""

namespace World

/-- Connect gives no id twice. -/
def accepts (world : World) (contactId : String) : Bool := contactId != "" && (world.contacts.lookup contactId).isNone

def place (world : World) (contactId : String) (outbound : OutboundCall) : World :=
  { world with contacts := world.contacts.set contactId (some { outbound }) }

def start (world : World) (environment : Environment) (outbound : OutboundCall) : Except PyError Value × World :=
  let places := world.accepts environment.contactId
  match environment.error with
  | none =>
    if places then (.ok (.dict [("ContactId", .str environment.contactId)]), world.place environment.contactId outbound)
    else (.ok (.dict []), world)
  | some e =>
    -- A request that is throttled places no contact.
    (.error e, if environment.applied && !ConnectDispatcher.isRetryable e && places then
      world.place environment.contactId outbound else world)

def writeRow (world : World) (key : String × String) (w : Write Response) : World :=
  { world with responses := world.responses.write key w }

def update (world : World) (environment : Environment) (key : String × String) (u : RowUpdate) : Except PyError Unit × World :=
  let w := (u.write environment.now).write
  match environment.error with
  | none =>
    if w.condition (world.responses.lookup key) then (.ok (), world.writeRow key w)
    else (.error (.clientError "ConditionalCheckFailedException"), world)
  | some e => (.error e, if environment.applied then world.writeRow key w else world)

def isWaiting (world : World) (taskToken : String) : Bool :=
  match world.tasks.lookup taskToken with
  | some { state := .waiting, .. } => true
  | _ => false

def setTask (world : World) (taskToken : String) (state : TaskState) : World :=
  match world.tasks.lookup taskToken with
  | some task => { world with tasks := world.tasks.set taskToken (some { task with state }) }
  | none => world

/-- `SendTaskSuccess`, which is refused for a task that does not wait. -/
def release (world : World) (environment : Environment) (taskToken : String) (output : Value) : Except PyError Unit × World :=
  let released := if world.isWaiting taskToken then world.setTask taskToken (.succeeded output) else world
  match environment.error with
  | none => if world.isWaiting taskToken then (.ok (), released) else (.error (.clientError "TaskTimedOut"), world)
  | some e => (.error e, if environment.applied then released else world)

def respond (world : World) (environment : Environment) : (c : ConnectCall) → Except PyError c.Reply × World
  | .startOutboundVoiceContact outbound => world.start environment outbound
  | .sleep _ => (.ok (), world)
  | .updateResponse key u => world.update environment key u
  | .putObject .. => (environment.error.elim (.ok ()) .error, world)
  | .sendTaskSuccess taskToken output => world.release environment taskToken output

end World

/-! ### The system -/

inductive Request where
  | dispatch (taskToken : String) (input : DispatchInput)
  | callEnd (contactId : String) (attributes : StringMap)

/-- The other writers of a Response row. -/
inductive OtherWrite where
  | initAttempt (dictionaryVersion : Int)
  | finalizeOne (finalStatus : VoiceStatus) (now : Instant)
  | finalizeOneError (now : Instant)
  | recordTranscribeFailed
  | recordResponse (c : Classification)
  | recordOtherFallback
  | putInbound
  | appendInbound
  | forceResponseUnreachable

def OtherWrite.write : OtherWrite → Write Response
  | initAttempt dictionaryVersion => Response.initAttempt dictionaryVersion
  | finalizeOne finalStatus now => Response.finalizeOne finalStatus now
  | finalizeOneError now => Response.finalizeOneError now
  | recordTranscribeFailed => Response.recordTranscribeFailed
  | recordResponse c => Response.recordResponse c
  | recordOtherFallback => Response.recordOtherFallback
  | putInbound => Response.putInbound
  | appendInbound => Response.appendInbound
  | forceResponseUnreachable => Response.forceResponseUnreachable

inductive Move where
  | leave (contactId : String) (outcome : Outcome)
  | close (taskToken : String)
  | write (key : String × String) (w : OtherWrite)

/-- `Dispatch` is entered with a token of its own; the flow invokes CallEndHandler for as long as a contact is there. -/
def arrive (world : World) : Request → Option World
  | .dispatch taskToken input =>
    if (world.tasks.lookup taskToken).isNone then
      some { world with tasks := world.tasks.set taskToken (some { input }) }
    else none
  | .callEnd contactId attributes =>
    (world.contacts.lookup contactId).bind fun contact =>
      if contact.current = some .invokeCallEnd ∧ attributes = contact.outbound.attributes then some world else none

def World.move (world : World) : Move → Option World
  | .leave contactId outcome =>
    (world.contacts.lookup contactId).map fun contact =>
      { world with contacts := world.contacts.set contactId (some (contact.leave outcome)) }
  | .close taskToken => if world.isWaiting taskToken then some (world.setTask taskToken .closed) else none
  | .write key w => some (world.writeRow key w.write)

variable (settings : ConnectDispatcher.Settings)

def handler : Request → ConnectLambda Value
  | .dispatch taskToken input => ConnectDispatcher.lambdaHandler settings (input.event taskToken)
  | .callEnd contactId attributes => CallEndHandler.lambdaHandler (contactFlowEvent contactId attributes callEndParameters)

def system : Arrivals.System Request ConnectCall ConnectCall.Reply PyError Value Environment World Move where
  service := { respond := World.respond, handler := handler settings }
  arrive := arrive
  move := World.move

abbrev State := Pool Request ConnectCall ConnectCall.Reply PyError Value Environment World

abbrev Label := Arrivals.Label Request Environment Move

abbrev step := Arrivals.step (system settings)

/-! ### What a thread has done -/

/-- How far a thread has come, in the stages of either lambda. -/
abbrev Knowledge := ConnectDispatcher.Stage × CallEndHandler.Stage

def start : Knowledge := (.dialing 0, .recording)

def spec (request : Request) : Program.Spec ConnectCall ConnectCall.Reply PyError Knowledge where
  allowed t c :=
    match request with
    | .dispatch taskToken input => (ConnectDispatcher.protocol settings (input.event taskToken)).allowed t.1 c
    | .callEnd contactId attributes =>
      (CallEndHandler.protocol (contactFlowEvent contactId attributes callEndParameters)).allowed t.2 c
  advance t c answer := (t.1.advance c answer, t.2.advance c answer)

def Ends (request : Request) (result : Except PyError Value) (t : Knowledge) : Prop :=
  match request with
  | .dispatch .. => t.1.Ends result
  | .callEnd contactId attributes => CallEndHandler.Ends (contactFlowEvent contactId attributes callEndParameters) result t.2

variable {settings}

theorem handler_wp (hreal : settings.mockMode = false) (request : Request) :
    (handler settings request).wp (spec settings request) (Ends request) start := by
  cases request with
  | dispatch taskToken input =>
    have h := ConnectDispatcher.lambdaHandler_wp hreal (input.event taskToken)
    exact Program.wp_of_view (t := start) Prod.fst (fun _ _ h => h) (fun _ _ _ _ => trivial) (fun _ _ _ => rfl) h
  | callEnd contactId attributes =>
    have h := CallEndHandler.lambdaHandler_wp (contactFlowEvent contactId attributes callEndParameters)
    exact Program.wp_of_view (t := start) Prod.snd (fun _ _ h => h) (fun _ _ _ _ => trivial) (fun _ _ _ => rfl) h

/-- All runs of the lambdas go by their stages. -/
abbrev Lawful (settings : ConnectDispatcher.Settings) (p : State) : Prop := Follows (spec settings) (fun _ => start) Ends p

/-- What thread `i` knows from the calls it has made. -/
def knowledge (p : State) (i : Nat) : Knowledge :=
  p.log.foldr (fun entry t =>
    if entry.thread = i then (t.1.advance entry.call entry.answer, t.2.advance entry.call entry.answer) else t) start

theorem knowledge_self {p : State} {i : Nat} {environment : Environment} {request : Request} {c : ConnectCall}
    {next : Except PyError c.Reply → ConnectLambda Value} :
    knowledge (afterCall (system settings).service p i environment request c next) i =
      ((knowledge p i).1.advance c (p.world.respond environment c).1,
        (knowledge p i).2.advance c (p.world.respond environment c).1) := if_pos rfl

theorem knowledge_ne {p : State} {i j : Nat} (hij : i ≠ j) {environment : Environment} {request : Request} {c : ConnectCall}
    {next : Except PyError c.Reply → ConnectLambda Value} :
    knowledge (afterCall (system settings).service p i environment request c next) j = knowledge p j := if_neg hij

end Outbound

end SafetyConfirmation
