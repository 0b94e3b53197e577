/-!
# Call flows as action graphs

A telephone flow is a graph of actions that one contact walks through. The contact carries the attributes the
flow has stored on it and, under `External`, what the last lambda answered. A lambda is invoked with the
parameters its action lists and with the attributes stored so far, and with nothing else the flow has seen.
An action of the telephone service itself never fails here; an invoked lambda may.
-/

universe u v w

namespace FlowGraph

/-- What a lambda is given and what it answers: a flat map of strings. -/
abbrev StringMap := List (String × String)

def StringMap.store (map : StringMap) (key value : String) : StringMap :=
  (key, value) :: map.filter fun entry => entry.1 != key

/-- `$.External.key` or `$.Attributes.key`. -/
inductive Reference where
  | external (key : String)
  | attributes (key : String)

inductive ErrorType where
  | noMatchingError
  | noMatchingCondition
  deriving DecidableEq

inductive Kind where
  | updateContactTextToSpeechVoice (textToSpeechVoice : String)
  | invokeLambdaFunction (lambdaInvocationAttributes : StringMap)
  | updateContactAttributes (attributes : List (String × Reference))
  | compare (comparisonValue : Reference)
  | updateContactRecordingBehavior (recordingBehavior : String)
  | messageParticipant (text : String)
  | wait (timeLimitSeconds : Nat)
  | disconnectParticipant

/-- An action with its transitions. A condition is `Equals` with one operand. -/
structure Action (ι : Type u) where
  kind : Kind
  nextAction : Option ι := none
  errors : List (ErrorType × ι) := []
  conditions : List (String × ι) := []

/-- A contact in a flow, with the world its lambdas act on. `current` is `none` once it is disconnected. -/
structure State (ι : Type u) (ε : Type v) (σ : Type w) where
  current : Option ι
  attributes : StringMap := []
  external : StringMap := []
  invocations : List (StringMap × Except ε StringMap) := []
  world : σ

/-- A lambda, given how many invocations came before it, its parameters and the contact's attributes. -/
abbrev Lambda (ε : Type v) (σ : Type w) := Nat → StringMap → StringMap → σ → Except ε StringMap × σ

variable {ι : Type u} {ε : Type v} {σ : Type w}

/-- The value of a reference, empty where nothing is stored. -/
def State.resolve (s : State ι ε σ) : Reference → String
  | .external key => (s.external.lookup key).getD ""
  | .attributes key => (s.attributes.lookup key).getD ""

def Action.perform (action : Action ι) (lambda : Lambda ε σ) (s : State ι ε σ) : State ι ε σ :=
  match action.kind with
  | .invokeLambdaFunction parameters =>
    match lambda s.invocations.length parameters s.attributes s.world with
    | (.ok answer, world) =>
      { s with
        current := action.nextAction, external := answer, world
        invocations := s.invocations ++ [(parameters, .ok answer)] }
    | (.error e, world) =>
      { s with
        current := action.errors.lookup .noMatchingError, world
        invocations := s.invocations ++ [(parameters, .error e)] }
  | .updateContactAttributes attributes =>
    { s with
      current := action.nextAction
      attributes := attributes.foldl (fun stored entry => stored.store entry.1 (s.resolve entry.2)) s.attributes }
  | .compare comparisonValue =>
    { s with
      current := (action.conditions.lookup (s.resolve comparisonValue)).or (action.errors.lookup .noMatchingCondition) }
  | .disconnectParticipant => { s with current := none }
  | _ => { s with current := action.nextAction }

def step (flow : ι → Action ι) (lambda : Lambda ε σ) (s : State ι ε σ) : State ι ε σ :=
  match s.current with
  | none => s
  | some action => (flow action).perform lambda s

def run (flow : ι → Action ι) (lambda : Lambda ε σ) : Nat → State ι ε σ → State ι ε σ
  | 0, s => s
  | n + 1, s => run flow lambda n (step flow lambda s)

variable {flow : ι → Action ι} {lambda : Lambda ε σ}

theorem run_add (m n : Nat) (s : State ι ε σ) : run flow lambda (m + n) s = run flow lambda n (run flow lambda m s) := by
  induction m generalizing s with
  | zero => rw [Nat.zero_add, run]
  | succ m ih =>
    rw [Nat.succ_add]
    exact ih (step flow lambda s)

theorem run_of_disconnected {s : State ι ε σ} (h : s.current = none) (n : Nat) : run flow lambda n s = s := by
  induction n with
  | zero => rfl
  | succ n ih =>
    have hstep : step flow lambda s = s := by rw [step, h]
    rw [run, hstep, ih]

/-- A contact that is disconnected after some actions is in the same state after more of them. -/
theorem run_eq_of_disconnected {m n : Nat} {s : State ι ε σ} (h : (run flow lambda m s).current = none) (hmn : m ≤ n) :
    run flow lambda n s = run flow lambda m s := by
  obtain ⟨k, rfl⟩ := Nat.exists_eq_add_of_le hmn
  rw [run_add, run_of_disconnected h]

theorem step_invoke_of_ok {s : State ι ε σ} {action : ι} {parameters answer : StringMap} {world : σ}
    (hcurrent : s.current = some action) (hkind : (flow action).kind = .invokeLambdaFunction parameters)
    (hanswer : lambda s.invocations.length parameters s.attributes s.world = (.ok answer, world)) :
    step flow lambda s =
      { s with
        current := (flow action).nextAction, external := answer, world
        invocations := s.invocations ++ [(parameters, .ok answer)] } := by
  simp only [step, hcurrent, Action.perform, hkind, hanswer]

theorem step_invoke_of_error {s : State ι ε σ} {action : ι} {parameters : StringMap} {e : ε} {world : σ}
    (hcurrent : s.current = some action) (hkind : (flow action).kind = .invokeLambdaFunction parameters)
    (hanswer : lambda s.invocations.length parameters s.attributes s.world = (.error e, world)) :
    step flow lambda s =
      { s with
        current := (flow action).errors.lookup .noMatchingError, world
        invocations := s.invocations ++ [(parameters, .error e)] } := by
  simp only [step, hcurrent, Action.perform, hkind, hanswer]

/-! ### Actions that fail -/

/-- How an action ends for a contact. The other side may hang up at any of them. -/
inductive Outcome where
  | succeeded
  | failed (error : ErrorType)
  | hungUp
  deriving DecidableEq

/-- Where a contact goes from an action, `none` when it is disconnected. -/
def Action.leave (action : Action ι) (outcome : Outcome) : Option ι :=
  match action.kind, outcome with
  | .disconnectParticipant, _ => none
  | _, .succeeded => action.nextAction
  | _, .failed error => action.errors.lookup error
  | _, .hungUp => none

end FlowGraph
