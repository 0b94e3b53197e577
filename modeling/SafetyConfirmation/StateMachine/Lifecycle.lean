import SafetyConfirmation.Cycle.Api
import SafetyConfirmation.Cycle.Finalizer
import SafetyConfirmation.Employee.LoadTargets
import SafetyConfirmation.Lib.StepMachine

/-!
# The life of one cycle

From the RUNNING row that POST /cycles puts to the end of the execution it starts, with every failure on the way:
StartExecution, LoadTargets, the Map and Finalize. Only two writers take the row out of RUNNING, the update after
a ClientError of StartExecution and CycleFinalizer.
-/

namespace SafetyConfirmation

namespace StateMachine

open KeyedStore StepMachine CycleFinalizer Finalize CycleApi

/-- Where the cycle stands. `failed` is final: no execution runs and none will. -/
inductive Phase where
  | starting
  | loadTargets
  | callMap
  | finalize (attempt : Nat)
  | succeeded
  | failed
  deriving DecidableEq

structure LifecycleState where
  cycle : Option Cycle
  phase : Phase := .starting

inductive LifecycleLabel where
  | die
  | startExecution (outcome : StartExecution)
  | loadTargets (employees : Store String Employee) (responses : String → Store String Response)
  | loadTargetsFails (name : String)
  | mapSucceeds
  | mapFails (name : String)
  | finalize (responses : Store String Response) (now : Instant)
  | finalizeRaises (name : String) (responses : Store String Response) (now : Instant) (updated : Bool)

/-- The errors of `Finalize`'s `Retry`, and how often it retries. -/
def finalizeRetryErrors : List String :=
  ["Lambda.ServiceException", "Lambda.AWSLambdaException", "Lambda.SdkClientException",
    "Lambda.TooManyRequestsException"]

def finalizeMaxAttempts : Nat := 3

/-- The row after an invocation of MAP_COMPLETED that got as far as its update. -/
def cycleAfterMapCompleted (cycle : Option Cycle) (responses : Store String Response) (now : Instant) : Option Cycle :=
  match handleMapCompleted now { cycle, responses } with
  | .ok (_, world) => world.cycle
  | .error _ => cycle

/-- The input CycleApi gives the execution, as `LoadTargets` sees it. -/
def loadTargetsEvent (cycleId : String) (cycle : Cycle) : LoadTargets.Event where
  cycleId := some (.str cycleId)
  mode := some (.str cycle.mode.name)
  referencedCycleId := some ((cycle.referencedCycleId.map Value.str).getD .none)

def lifecycleStep (cycleId : String) (s : LifecycleState) : LifecycleLabel → Option LifecycleState
  | .die => if s.phase = .starting then some { s with phase := .failed } else none
  | .startExecution outcome =>
    if s.phase = .starting then
      match outcome with
      | .started => some { s with phase := .loadTargets }
      | .clientError _ updated =>
        some { cycle := if updated then Cycle.setStartFailed.run s.cycle else s.cycle, phase := .failed }
      | .raised _ started => some { s with phase := if started then .loadTargets else .failed }
    else none
  | .loadTargets employees responses =>
    if s.phase = .loadTargets then
      s.cycle.map fun cycle =>
        match LoadTargets.lambdaHandler employees responses (loadTargetsEvent cycleId cycle) with
        | .ok _ => { s with phase := .callMap }
        -- `Catch` of every error: CycleFailed
        | .error _ => { s with phase := .failed }
    else none
  | .loadTargetsFails _ => if s.phase = .loadTargets then some { s with phase := .failed } else none
  | .mapSucceeds => if s.phase = .callMap then some { s with phase := .finalize 0 } else none
  | .mapFails _ => if s.phase = .callMap then some { s with phase := .failed } else none
  | .finalize responses now =>
    match s.phase with
    | .finalize _ => some { cycle := cycleAfterMapCompleted s.cycle responses now, phase := .succeeded }
    | _ => none
  | .finalizeRaises name responses now updated =>
    match s.phase with
    | .finalize attempt =>
      some {
        cycle := if updated then cycleAfterMapCompleted s.cycle responses now else s.cycle
        -- no `Catch`: the execution fails when the retries are over
        phase := if finalizeRetryErrors.contains name ∧ attempt < finalizeMaxAttempts then .finalize (attempt + 1)
          else .failed }
    | _ => none

/-- The failures that take the row out of RUNNING: a ClientError of StartExecution whose update was made, and an
attempt of Finalize that raised after it had found every row terminal and updated the cycle. -/
def Releases : LifecycleLabel → Prop
  | .startExecution (.clientError _ updated) => updated = true
  | .finalizeRaises _ responses _ updated =>
    updated = true ∧ responses.rows.all (hasStatus VoiceStatus.isTerminal) = true
  | _ => False

/-- The slot is free: the row has left RUNNING, and with no other cycle no later request is answered 409. -/
def SlotReleased (cycleId : String) (s : LifecycleState) : Prop :=
  Cycle.statusOf s.cycle ≠ some .running ∧
    ∀ request isActiveDictionaryEmpty,
      refuse request isActiveDictionaryEmpty ((∅ : Store String Cycle).set cycleId s.cycle) ≠ some .conflict

theorem slotReleased_iff {cycleId : String} {s : LifecycleState} :
    SlotReleased cycleId s ↔ Cycle.isRunning s.cycle = false := by
  have hrunning : Cycle.isRunning s.cycle = false ↔ Cycle.statusOf s.cycle ≠ some .running := by
    rw [← not_iff_not, not_not, ← Cycle.isRunning_iff, Bool.not_eq_false]
  rw [SlotReleased, hrunning]
  refine and_iff_left_of_imp fun hstatus request isActiveDictionaryEmpty => refuse_ne_conflict ?_
  rintro ⟨id, row⟩ hentry
  have hlookup := Store.mem_rows.1 hentry
  rw [Store.lookup_set] at hlookup
  split at hlookup
  · intro hrow
    rw [hlookup, Cycle.statusOf, Option.map_some, hrow] at hstatus
    exact hstatus rfl
  · cases hlookup

theorem isRunning_setStartFailed (cycle : Option Cycle) : Cycle.isRunning (Cycle.setStartFailed.run cycle) = false := by
  cases cycle <;> rfl

theorem isRunning_cycleAfterMapCompleted (cycle : Option Cycle) (responses : Store String Response) (now : Instant) :
    Cycle.isRunning (cycleAfterMapCompleted cycle responses now) = true ↔
      Cycle.isRunning cycle = true ∧ ¬ responses.rows.all (hasStatus VoiceStatus.isTerminal) = true := by
  rcases handleMapCompleted_cases now { cycle, responses } with ⟨hall, outcome, world', heq, hcycle, -⟩ |
    ⟨hall, pending, heq⟩
  · rw [cycleAfterMapCompleted, heq]
    refine iff_of_false ?_ fun h => h.2 hall
    show ¬ Cycle.isRunning world'.cycle = true
    rw [hcycle]
    cases hrunning : Cycle.isRunning cycle with
    | true => simp [Cycle.isRunning_iff, Cycle.statusOf_setCycleStatus hrunning]
    | false => simp [Cycle.setCycleStatus_of_not_running hrunning, hrunning]
  · rw [cycleAfterMapCompleted, heq, hall]
    simp

/-- A step that is not the end of a successful execution keeps the row RUNNING unless it releases it. -/
theorem isRunning_lifecycleStep {cycleId : String} {s t : LifecycleState} {label : LifecycleLabel}
    (h : lifecycleStep cycleId s label = some t) (hphase : t.phase ≠ .succeeded) :
    Cycle.isRunning t.cycle = true ↔ Cycle.isRunning s.cycle = true ∧ ¬ Releases label := by
  cases label with
  | die | loadTargetsFails name | mapSucceeds | mapFails name =>
    simp only [lifecycleStep, Option.ite_none_right_eq_some, Option.some.injEq] at h
    obtain ⟨-, rfl⟩ := h
    simp [Releases]
  | startExecution outcome =>
    simp only [lifecycleStep, Option.ite_none_right_eq_some] at h
    obtain ⟨-, h⟩ := h
    cases outcome with
    | started | raised name started =>
      cases h
      simp [Releases]
    | clientError code updated =>
      cases h
      cases updated with
      | true => simp [Releases, isRunning_setStartFailed]
      | false => simp [Releases]
  | loadTargets employees responses =>
    simp only [lifecycleStep, Option.ite_none_right_eq_some] at h
    obtain ⟨-, cycle, hcycle, h⟩ := h.imp_right Option.map_eq_some_iff.1
    split at h
    · cases h
      simp [Releases]
    · cases h
      simp [Releases]
  | finalize responses now =>
    simp only [lifecycleStep] at h
    split at h
    · cases h
      exact absurd rfl hphase
    · cases h
  | finalizeRaises name responses now updated =>
    simp only [lifecycleStep] at h
    split at h
    · cases h
      cases updated with
      | true => simp only [if_true, isRunning_cycleAfterMapCompleted, Releases, true_and]
      | false => simp [Releases]
    · cases h

theorem lifecycleStep_succeeded {cycleId : String} {s : LifecycleState} {label : LifecycleLabel}
    (hphase : s.phase = .succeeded) : lifecycleStep cycleId s label = none := by
  cases label <;> simp [lifecycleStep, hphase]

/-- Along a run that does not succeed the row stays RUNNING until a label releases it. -/
theorem isRunning_exec {cycleId : String} {s t : LifecycleState} {labels : List LifecycleLabel}
    (hrun : exec (lifecycleStep cycleId) s labels = some t) (hphase : t.phase ≠ .succeeded) :
    Cycle.isRunning t.cycle = true ↔ Cycle.isRunning s.cycle = true ∧ ∀ label ∈ labels, ¬ Releases label := by
  induction labels generalizing s with
  | nil =>
    cases hrun
    simp
  | cons label rest ih =>
    obtain ⟨m, hstep, hrest⟩ := exec_cons_eq_some.1 hrun
    have hm : m.phase ≠ .succeeded := by
      intro hm
      cases rest with
      | nil =>
        cases hrest
        exact hphase hm
      | cons next rest =>
        obtain ⟨_, hnext, -⟩ := exec_cons_eq_some.1 hrest
        rw [lifecycleStep_succeeded hm] at hnext
        cases hnext
    rw [ih hrest, isRunning_lifecycleStep hstep hm, List.forall_mem_cons, and_assoc]

/-- A cycle that failed has released the slot exactly when its start failed with a ClientError and was marked, or
Finalize raised only after it had updated the row. -/
theorem failed_cycle_releases_iff {cycleId : String} {request : Request} {dictVersion : Int} {startedAt : Instant}
    {labels : List LifecycleLabel} {t : LifecycleState}
    (hrun : exec (lifecycleStep cycleId) { cycle := some (newCycle request dictVersion startedAt) } labels = some t)
    (hfailed : t.phase = .failed) :
    SlotReleased cycleId t ↔ ∃ label ∈ labels, Releases label := by
  have hnot : t.phase ≠ .succeeded := by
    rw [hfailed]
    exact fun h => by cases h
  have hrunning := isRunning_exec hrun hnot
  have hput : Cycle.isRunning (some (newCycle request dictVersion startedAt)) = true := rfl
  rw [slotReleased_iff, ← not_iff_not, Bool.not_eq_false, hrunning]
  simp [hput]

def callAll : Request where
  mode := .all
  retryCount := .int 3
  retryIntervalMinutes := .int 5

/-- With no visible employee LoadTargets raises, the execution ends in CycleFailed, and the next request is
refused with 409. -/
theorem failed_cycle_blocks_next :
    ∃ t, exec (lifecycleStep "c") { cycle := some (newCycle callAll 1 0) }
        [.startExecution .started, .loadTargets ∅ fun _ => ∅] = some t ∧ t.phase = .failed ∧
      Cycle.statusOf t.cycle = some .running ∧
      refuse callAll false ((∅ : Store String Cycle).set "c" t.cycle) = some .conflict :=
  ⟨_, rfl, rfl, rfl, (refuse_eq_conflict_iff rfl).2 ⟨("c", newCycle callAll 1 0), List.mem_singleton.2 rfl, rfl⟩⟩

/-- A start that Step Functions refuses, marked in the row. -/
def refusedStart : List LifecycleLabel := [.startExecution (.clientError "ThrottlingException" true)]

theorem failed_cycle_releases_iff_client_error :
    ∃ t, exec (lifecycleStep "c") { cycle := some (newCycle callAll 1 0) } refusedStart = some t ∧
      SlotReleased "c" t := by
  have hreleases : ∃ label ∈ refusedStart, Releases label := ⟨_, List.mem_singleton.2 rfl, rfl⟩
  exact ⟨_, rfl, (failed_cycle_releases_iff rfl rfl).2 hreleases⟩

end StateMachine

end SafetyConfirmation
