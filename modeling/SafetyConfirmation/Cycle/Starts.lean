import SafetyConfirmation.Dictionary.Concurrent

/-!
# Concurrent cycle starts

Any number of POST /cycles requests at once, one AWS call of one of them at a step, between the updates of
CycleFinalizer. A request reads until it puts its row, then starts the execution and, when StartExecution answers with
a `ClientError`, marks the row. It can die at any point after it began.
-/

namespace SafetyConfirmation

namespace CycleApi

open KeyedStore StepMachine

/-! ### A request -/

inductive Stage where
  | reading (start : Dictionary.Start)
  | starting (cycleId : String)
  | failing (cycleId : String)
  | answered (answer : Answer)
  | raised

inductive Call where
  /-- The next DynamoDB call up to the put, on what the dictionary holds at that time. -/
  | next (tables : Dictionary.Tables) (cycleId : String) (startedAt : Instant)
  | startExecution (clientError : Bool)
  | markFailed
  | raise

namespace Stage

def ofStart : Dictionary.Start → Stage
  | .accepted cycleId => starting cycleId
  | .refused answer => answered answer
  | start => reading start

def init (request : Request) : Stage := reading (.probe request [.safe, .injured, .unavailable] false)

/-- The request found no `RUNNING` cycle and has not put its row yet. -/
def isDecided : Stage → Bool
  | reading (.readVersion _) | reading (.put _ _) => true
  | _ => false

def isAtPut : Stage → Bool
  | reading (.put _ _) => true
  | _ => false

def call (cycles : Store String Cycle) : Stage → Call → Option (Stage × Store String Cycle)
  | reading start, .next tables cycleId startedAt =>
    if cycleId = "" then none
    else (start.call tables cycles cycleId startedAt).map fun next => (ofStart next.1, next.2)
  | starting cycleId, .startExecution false => some (answered (.created cycleId), cycles)
  | starting cycleId, .startExecution true => some (failing cycleId, cycles)
  | failing cycleId, .markFailed =>
    some (answered (.startFailed cycleId), cycles.write cycleId Cycle.setStartFailed)
  | reading _, .raise | starting _, .raise | failing _, .raise => some (raised, cycles)
  | _, _ => none

inductive Moves (cycles : Store String Cycle) : Stage → Call → Stage → Store String Cycle → Prop where
  | probed {c : Call} {request : Request} {category : Category} {categories : List Category} {found found' : Bool} :
      Moves cycles (reading (.probe request (category :: categories) found)) c
        (reading (.probe request categories found')) cycles
  | nonempty {c : Call} {request : Request} {category : Category} {found : Bool} :
      Moves cycles (reading (.probe request [category] found)) c (reading (.queryRunning request)) cycles
  | empty {c : Call} {request : Request} {category : Category} {found : Bool} :
      Moves cycles (reading (.probe request [category] found)) c (answered .dictionaryEmpty) cycles
  | refused {c : Call} {request : Request} {answer : Answer} (h : refuse request false cycles = some answer) :
      Moves cycles (reading (.queryRunning request)) c (answered answer) cycles
  | decided {request : Request} {tables : Dictionary.Tables} {cycleId : String} {startedAt : Instant}
      (h : refuse request false cycles = none) :
      Moves cycles (reading (.queryRunning request)) (.next tables cycleId startedAt) (reading (.readVersion request))
        cycles
  | versioned {c : Call} {request : Request} {dictVersion : Int} :
      Moves cycles (reading (.readVersion request)) c (reading (.put request dictVersion)) cycles
  | put {request : Request} {dictVersion : Int} {tables : Dictionary.Tables} {cycleId : String} {startedAt : Instant}
      (hid : cycleId ≠ "") (hfresh : cycles.lookup cycleId = none) :
      Moves cycles (reading (.put request dictVersion)) (.next tables cycleId startedAt) (starting cycleId)
        (cycles.write cycleId (.put (newCycle request dictVersion startedAt)))
  | started {c : Call} {cycleId : String} : Moves cycles (starting cycleId) c (answered (.created cycleId)) cycles
  | notStarted {c : Call} {cycleId : String} : Moves cycles (starting cycleId) c (failing cycleId) cycles
  | marked {c : Call} {cycleId : String} :
      Moves cycles (failing cycleId) c (answered (.startFailed cycleId)) (cycles.write cycleId Cycle.setStartFailed)
  | raised {c : Call} {stage : Stage} : Moves cycles stage c .raised cycles

theorem moves_of_startCall {cycles cycles' : Store String Cycle} {tables : Dictionary.Tables} {cycleId : String}
    {startedAt : Instant} {start start' : Dictionary.Start} (hid : cycleId ≠ "")
    (h : start.call tables cycles cycleId startedAt = some (start', cycles')) :
    Moves cycles (reading start) (.next tables cycleId startedAt) (ofStart start') cycles' := by
  unfold Dictionary.Start.call at h
  split at h
  · split at h
    · cases h
      split
      · exact .nonempty
      · exact .empty
    · cases h
      exact .probed
  · split at h
    · rename_i hrefuse
      cases h
      exact .refused hrefuse
    · rename_i hrefuse
      cases h
      exact .decided hrefuse
  · cases h
    exact .versioned
  · split at h
    · rename_i hfresh
      cases h
      exact .put hid (Option.isNone_iff_eq_none.1 hfresh)
    · cases h
  · cases h

theorem moves_of_call {cycles cycles' : Store String Cycle} {stage stage' : Stage} {c : Call}
    (h : stage.call cycles c = some (stage', cycles')) : Moves cycles stage c stage' cycles' := by
  unfold call at h
  split at h
  · split at h
    · cases h
    · rename_i hid
      obtain ⟨⟨start', _⟩, hcall, heq⟩ := Option.map_eq_some_iff.1 h
      cases heq
      exact moves_of_startCall hid hcall
  · cases h
    exact .started
  · cases h
    exact .notStarted
  · cases h
    exact .marked
  · cases h
    exact .raised
  · cases h
    exact .raised
  · cases h
    exact .raised
  · cases h

end Stage

structure Post where
  request : Request
  stage : Stage

/-! ### The interleavings -/

structure State where
  cycles : Store String Cycle := ∅
  posts : Store Nat Post := ∅

inductive Label where
  | post (i : Nat) (request : Request)
  | call (i : Nat) (call : Call)
  /-- CycleFinalizer closes a cycle, by its 60-minute timer or on `MAP_COMPLETED`. -/
  | finish (cycleId : String) (isTimer : Bool) (now : Instant)
  | warn (cycleId : String)

def step (s : State) : Label → Option State
  | .post i request =>
    if (s.posts.lookup i).isNone then
      some { s with posts := s.posts.set i (some { request, stage := .init request }) }
    else none
  | .call i call =>
    (s.posts.lookup i).bind fun post =>
      (post.stage.call s.cycles call).map fun next =>
        { cycles := next.2, posts := s.posts.set i (some { post with stage := next.1 }) }
  | .finish cycleId isTimer now =>
    some { s with
      cycles := s.cycles.write cycleId (Cycle.setCycleStatus (if isTimer then .timeout else .completed) now) }
  | .warn cycleId => some { s with cycles := s.cycles.write cycleId Cycle.setSlaWarningFlag }

/-- What a step does: a request begins, one of them moves on, or CycleFinalizer writes a row. -/
inductive Steps (s : State) : Label → State → Prop where
  | began {i : Nat} {request : Request} (hfresh : s.posts.lookup i = none) :
      Steps s (.post i request) { s with posts := s.posts.set i (some { request, stage := .init request }) }
  | moved {i : Nat} {c : Call} {post : Post} {stage : Stage} {cycles : Store String Cycle}
      (hpost : s.posts.lookup i = some post) (hmoves : post.stage.Moves s.cycles c stage cycles) :
      Steps s (.call i c) { cycles, posts := s.posts.set i (some { post with stage }) }
  | finished {label : Label} {cycleId : String} {newStatus : CycleStatus} {now : Instant}
      (hstatus : newStatus = .completed ∨ newStatus = .timeout) :
      Steps s label { s with cycles := s.cycles.write cycleId (Cycle.setCycleStatus newStatus now) }
  | warned {label : Label} {cycleId : String} :
      Steps s label { s with cycles := s.cycles.write cycleId Cycle.setSlaWarningFlag }

theorem steps_of_step {s t : State} {label : Label} (h : step s label = some t) : Steps s label t := by
  cases label with
  | post i request =>
    rw [step] at h
    split at h
    · rename_i hfresh
      cases h
      exact .began (Option.isNone_iff_eq_none.1 hfresh)
    · cases h
  | call i call =>
    obtain ⟨post, hpost, h⟩ := Option.bind_eq_some_iff.1 h
    obtain ⟨⟨stage, cycles⟩, hcall, heq⟩ := Option.map_eq_some_iff.1 h
    cases heq
    exact .moved hpost (Stage.moves_of_call hcall)
  | finish cycleId isTimer now =>
    cases h
    cases isTimer with
    | false => exact .finished (.inl rfl)
    | true => exact .finished (.inr rfl)
  | warn cycleId =>
    cases h
    exact .warned

end CycleApi

end SafetyConfirmation
