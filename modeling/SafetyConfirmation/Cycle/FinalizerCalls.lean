import SafetyConfirmation.Cycle.Finalizer
import SafetyConfirmation.Lib.StepMachine

/-!
# An invocation of CycleFinalizer, call by call

The three triggers as programs at their next AWS call. A query reads page after page, TIMER_60MIN flips the rows it
found open one by one in any order, and each write is conditional on its own.
-/

namespace SafetyConfirmation

namespace CycleFinalizer

open KeyedStore StepMachine Checks Response Finalize

inductive Trigger where
  | mapCompleted
  | timer30Min
  | timer60Min (executionArn : Option String)
  deriving DecidableEq

/-- What an invocation asks `_set_cycle_status` for: its summary on MAP_COMPLETED, the number of rows it flipped on
TIMER_60MIN. -/
inductive Closing where
  | completed (summary : Summary)
  | timeout (stoppedResponses : Nat)

/-- The calls of `_delete_timer_rules`, the targets of a rule before the rule. -/
inductive RuleCall where
  | removeTargets (name : String)
  | deleteRule (name : String)
  deriving DecidableEq

def ruleCalls : List RuleCall :=
  [.removeTargets "cycle-30min", .deleteRule "cycle-30min", .removeTargets "cycle-60min", .deleteRule "cycle-60min"]

/-- An invocation at its next AWS call. `ι` is the order in which a query returns rows. -/
inductive Invocation (ι : Type) where
  | getCycle (trigger : Trigger)
  | stopExecution (trigger : Trigger)
  | query (trigger : Trigger) (cursor : Option ι) (found : List (String × Response))
  | force (stoppedResponses : Nat) (pending : List String)
  | setCycleStatus (closing : Closing)
  | setSlaWarningFlag (found : List (String × Response))
  | putWarningMetric (found : List (String × Response))
  | publishWarning (summary : Summary)
  | putTimeoutMetric (stoppedResponses : Nat)
  | requery (stoppedResponses : Nat) (cursor : Option ι) (found : List (String × Response))
  | publishTimeout (stoppedResponses : Nat) (summary : Summary)
  | deleteRules (pending : List RuleCall) (outcome : Outcome)
  | done (outcome : Outcome)
  | raised

/-- What AWS answers or chooses: the time of an update, how far a page of a query reaches (`none` for the last one),
which of the open rows is flipped next, and that StopExecution found no execution. -/
inductive Call (ι : Type) where
  | next (now : Instant)
  | page (upTo : Option ι)
  | force (employeeId : String)
  | notFound

namespace Trigger

def executionArn : Trigger → Option String
  | timer60Min executionArn => executionArn
  | _ => none

end Trigger

namespace Closing

def status : Closing → CycleStatus
  | completed _ => .completed
  | timeout _ => .timeout

def summary? : Closing → Option Summary
  | completed summary => some summary
  | timeout _ => none

end Closing

namespace Invocation

variable {ι : Type}

def isEnded : Invocation ι → Bool
  | done _ | raised => true
  | _ => false

def start : Trigger → Invocation ι
  | .mapCompleted => query .mapCompleted none []
  | trigger => getCycle trigger

def ofExcept : Except PyError (Invocation ι) → Invocation ι
  | .ok invocation => invocation
  | .error _ => raised

def afterForce (stoppedResponses : Nat) (pending : List String) : Invocation ι :=
  if pending = [] then setCycleStatus (.timeout stoppedResponses) else force stoppedResponses pending

/-- What the trigger does with the rows its query returned. -/
def afterQuery (trigger : Trigger) (found : List (String × Response)) : Except PyError (Invocation ι) :=
  match trigger with
  | .mapCompleted => do
    if ← isCycleCompleted (items found) then
      let summary ← computeSummary (items found)
      return setCycleStatus (.completed summary)
    else
      let pending ← countPendingResponses (items found)
      return done (.incomplete pending)
  | .timer30Min => do
    if ← isFirstDispatchIncomplete (items found) then return setSlaWarningFlag found else return done .noWarningNeeded
  | .timer60Min _ => do
    let rewrites ← applyTimeout (items found)
    return afterForce rewrites.length (rewrites.map Prod.fst)

def afterSetCycleStatus : Closing → Invocation ι
  | .completed summary => deleteRules ruleCalls (.completed summary)
  | .timeout stoppedResponses => putTimeoutMetric stoppedResponses

def afterRuleCall (pending : List RuleCall) (outcome : Outcome) : Invocation ι :=
  if pending = [] then done outcome else deleteRules pending outcome

def nextRuleCall (world : World) (pending : List RuleCall) : World :=
  { world with timerRulesDeleted := world.timerRulesDeleted || decide (pending = []) }

theorem afterForce_cases (stoppedResponses : Nat) (pending : List String) :
    (pending = [] ∧ (afterForce stoppedResponses pending : Invocation ι) = setCycleStatus (.timeout stoppedResponses)) ∨
      (pending ≠ [] ∧ (afterForce stoppedResponses pending : Invocation ι) = force stoppedResponses pending) := by
  rw [afterForce]
  split
  · exact .inl ⟨‹_›, rfl⟩
  · exact .inr ⟨‹_›, rfl⟩

/-- Where the rows of the query lead: to the end, or to the update the trigger is about. -/
theorem afterQuery_cases (trigger : Trigger) (found : List (String × Response)) :
    (ofExcept (afterQuery trigger found) : Invocation ι).isEnded = true ∨
    (trigger = .timer30Min ∧ (ofExcept (afterQuery trigger found) : Invocation ι) = setSlaWarningFlag found) ∨
    (trigger = .mapCompleted ∧ isCycleCompleted (items found) = .ok true ∧
      ∃ summary, (ofExcept (afterQuery trigger found) : Invocation ι) = setCycleStatus (.completed summary)) ∨
    (∃ executionArn rewrites, trigger = .timer60Min executionArn ∧ applyTimeout (items found) = .ok rewrites ∧
      (ofExcept (afterQuery trigger found) : Invocation ι) = afterForce rewrites.length (rewrites.map Prod.fst)) := by
  cases trigger with
  | mapCompleted =>
    rw [afterQuery]
    cases hcompleted : isCycleCompleted (items found) with
    | error e => exact .inl rfl
    | ok completed =>
      cases completed with
      | false =>
        left
        cases hpending : countPendingResponses (items found) <;> rfl
      | true =>
        cases hsummary : computeSummary (items found) with
        | error e => exact .inl rfl
        | ok summary => exact .inr (.inr (.inl ⟨rfl, rfl, summary, rfl⟩))
  | timer30Min =>
    rw [afterQuery]
    cases hincomplete : isFirstDispatchIncomplete (items found) with
    | error e => exact .inl rfl
    | ok incomplete =>
      cases incomplete with
      | false => exact .inl rfl
      | true => exact .inr (.inl ⟨rfl, rfl⟩)
  | timer60Min executionArn =>
    rw [afterQuery]
    cases hrewrites : applyTimeout (items found) with
    | error e => exact .inl rfl
    | ok rewrites => exact .inr (.inr (.inr ⟨executionArn, rewrites, rfl, rfl, rfl⟩))

variable [LinearOrder ι] (position : String → ι)

def call (world : World) : Invocation ι → Call ι → Option (Invocation ι × World)
  | getCycle trigger, .next _ =>
    if Cycle.isRunning world.cycle then
      some (if trigger.executionArn.any (· != "") then stopExecution trigger else query trigger none [], world)
    else some (done .noOp, world)
  | stopExecution trigger, .next _ => some (query trigger none [], { world with executionStopped := true })
  | stopExecution trigger, .notFound => some (query trigger none [], world)
  | query trigger cursor found, .page (some upTo) =>
    if cursor.all (fun c => decide (c < upTo)) then
      some (query trigger (some upTo) (found ++ world.responses.page position cursor (some upTo)), world)
    else none
  | query trigger cursor found, .page none =>
    some (ofExcept (afterQuery trigger (found ++ world.responses.page position cursor none)), world)
  | force stoppedResponses pending, .force employeeId =>
    if employeeId ∈ pending then
      some (afterForce stoppedResponses (pending.erase employeeId),
        { world with responses := world.responses.write employeeId forceResponseUnreachable })
    else none
  | setCycleStatus closing, .next now =>
    if Cycle.isRunning world.cycle then
      some (afterSetCycleStatus closing, world.setCycleStatus closing.status now)
    else some (done (.alreadyTerminal closing.summary?), world)
  | setSlaWarningFlag found, .next _ =>
    if Cycle.isRunning world.cycle then
      some (putWarningMetric found, { world with cycle := Cycle.setSlaWarningFlag.run world.cycle })
    else some (done .noOp, world)
  | putWarningMetric found, .next _ =>
    some (ofExcept ((computeSummary (items found)).map publishWarning),
      { world with metrics := world.metrics ++ ["SlaWarning30Min"] })
  | publishWarning summary, .next _ =>
    some (done (.warningApplied summary),
      { world with notifications := world.notifications ++ [{ event := "SLA_WARNING_30MIN", summary }] })
  | putTimeoutMetric stoppedResponses, .next _ =>
    some (requery stoppedResponses none [], { world with metrics := world.metrics ++ ["CycleTimeout"] })
  | requery stoppedResponses cursor found, .page (some upTo) =>
    if cursor.all (fun c => decide (c < upTo)) then
      some (requery stoppedResponses (some upTo) (found ++ world.responses.page position cursor (some upTo)), world)
    else none
  | requery stoppedResponses cursor found, .page none =>
    some (ofExcept ((computeSummary (items (found ++ world.responses.page position cursor none))).map
      (publishTimeout stoppedResponses)), world)
  | publishTimeout stoppedResponses summary, .next _ =>
    some (deleteRules ruleCalls (.timeoutApplied stoppedResponses summary),
      { world with
        notifications := world.notifications ++
          [{ event := "CYCLE_TIMEOUT_60MIN", summary, stoppedResponses := some stoppedResponses }] })
  | deleteRules (_ :: pending) outcome, .next _ => some (afterRuleCall pending outcome, nextRuleCall world pending)
  | _, _ => none

inductive Moves (world : World) : Invocation ι → Call ι → Invocation ι → World → Prop where
  | noOp {trigger : Trigger} {c : Call ι} (h : Cycle.isRunning world.cycle = false) :
      Moves world (getCycle trigger) c (done .noOp) world
  | got {trigger : Trigger} {c : Call ι} {next : Invocation ι} (h : Cycle.isRunning world.cycle = true)
      (hnext : next = stopExecution trigger ∨ next = query trigger none []) :
      Moves world (getCycle trigger) c next world
  | stopped {trigger : Trigger} {c : Call ι} {executionStopped : Bool} :
      Moves world (stopExecution trigger) c (query trigger none []) { world with executionStopped }
  | paged {trigger : Trigger} {cursor : Option ι} {found : List (String × Response)} {upTo : ι}
      (h : ∀ c ∈ cursor, c < upTo) :
      Moves world (query trigger cursor found) (.page (some upTo))
        (query trigger (some upTo) (found ++ world.responses.page position cursor (some upTo))) world
  | queried {trigger : Trigger} {cursor : Option ι} {found : List (String × Response)} :
      Moves world (query trigger cursor found) (.page none)
        (ofExcept (afterQuery trigger (found ++ world.responses.page position cursor none))) world
  | forced {stoppedResponses : Nat} {pending : List String} {employeeId : String} (h : employeeId ∈ pending) :
      Moves world (force stoppedResponses pending) (.force employeeId)
        (afterForce stoppedResponses (pending.erase employeeId))
        { world with responses := world.responses.write employeeId forceResponseUnreachable }
  | closed {closing : Closing} {now : Instant} (h : Cycle.isRunning world.cycle = true) :
      Moves world (setCycleStatus closing) (.next now) (afterSetCycleStatus closing)
        (world.setCycleStatus closing.status now)
  | notClosed {closing : Closing} {c : Call ι} (h : Cycle.isRunning world.cycle = false) :
      Moves world (setCycleStatus closing) c (done (.alreadyTerminal closing.summary?)) world
  | warned {found : List (String × Response)} {c : Call ι} (h : Cycle.isRunning world.cycle = true) :
      Moves world (setSlaWarningFlag found) c (putWarningMetric found)
        { world with cycle := Cycle.setSlaWarningFlag.run world.cycle }
  | notWarned {found : List (String × Response)} {c : Call ι} (h : Cycle.isRunning world.cycle = false) :
      Moves world (setSlaWarningFlag found) c (done .noOp) world
  | warningMetric {found : List (String × Response)} {c : Call ι} :
      Moves world (putWarningMetric found) c (ofExcept ((computeSummary (items found)).map publishWarning))
        { world with metrics := world.metrics ++ ["SlaWarning30Min"] }
  | warningPublished {summary : Summary} {c : Call ι} {notification : Notification}
      (h : notification.event = "SLA_WARNING_30MIN") :
      Moves world (publishWarning summary) c (done (.warningApplied summary))
        { world with notifications := world.notifications ++ [notification] }
  | timeoutMetric {stoppedResponses : Nat} {c : Call ι} :
      Moves world (putTimeoutMetric stoppedResponses) c (requery stoppedResponses none [])
        { world with metrics := world.metrics ++ ["CycleTimeout"] }
  | repaged {stoppedResponses : Nat} {cursor : Option ι} {found found' : List (String × Response)} {upTo : ι} {c : Call ι} :
      Moves world (requery stoppedResponses cursor found) c (requery stoppedResponses (some upTo) found') world
  | requeried {stoppedResponses : Nat} {cursor : Option ι} {found found' : List (String × Response)} {c : Call ι} :
      Moves world (requery stoppedResponses cursor found) c
        (ofExcept ((computeSummary (items found')).map (publishTimeout stoppedResponses))) world
  | timeoutPublished {stoppedResponses : Nat} {summary : Summary} {c : Call ι} {notification : Notification}
      (h : notification.event = "CYCLE_TIMEOUT_60MIN") :
      Moves world (publishTimeout stoppedResponses summary) c
        (deleteRules ruleCalls (.timeoutApplied stoppedResponses summary))
        { world with notifications := world.notifications ++ [notification] }
  | ruleCalled {ruleCall : RuleCall} {pending : List RuleCall} {outcome : Outcome} {c : Call ι} :
      Moves world (deleteRules (ruleCall :: pending) outcome) c (afterRuleCall pending outcome)
        (nextRuleCall world pending)

variable {position}

theorem moves_of_call {world world' : World} {invocation invocation' : Invocation ι} {c : Call ι}
    (h : invocation.call position world c = some (invocation', world')) :
    Moves position world invocation c invocation' world' := by
  unfold call at h
  split at h
  · split at h
    · rename_i hrunning
      cases h
      apply Moves.got hrunning
      split
      · exact .inl rfl
      · exact .inr rfl
    · rename_i hrunning
      cases h
      exact .noOp (Bool.eq_false_iff.2 hrunning)
  · cases h
    exact .stopped
  · cases h
    exact .stopped
  · split at h
    · rename_i hcursor
      cases h
      rw [Option.all_eq_true] at hcursor
      exact .paged fun c hc => of_decide_eq_true (hcursor c hc)
    · cases h
  · cases h
    exact .queried
  · split at h
    · rename_i hpending
      cases h
      exact .forced hpending
    · cases h
  · split at h
    · rename_i hrunning
      cases h
      exact .closed hrunning
    · rename_i hrunning
      cases h
      exact .notClosed (Bool.eq_false_iff.2 hrunning)
  · split at h
    · rename_i hrunning
      cases h
      exact .warned hrunning
    · rename_i hrunning
      cases h
      exact .notWarned (Bool.eq_false_iff.2 hrunning)
  · cases h
    exact .warningMetric
  · cases h
    exact .warningPublished rfl
  · cases h
    exact .timeoutMetric
  · split at h
    · cases h
      exact .repaged
    · cases h
  · cases h
    exact .requeried
  · cases h
    exact .timeoutPublished rfl
  · cases h
    exact .ruleCalled
  · cases h

/-! ### An invocation with nothing in between -/

def alone (position : String → ι) (s : Invocation ι × World) (c : Call ι) : Option (Invocation ι × World) :=
  s.1.call position s.2 c

def handle (now : Instant) (world : World) : Trigger → Except PyError (Outcome × World)
  | .mapCompleted => handleMapCompleted now world
  | .timer30Min => handleTimer30Min world
  | .timer60Min executionArn => handleTimer60Min executionArn now world

theorem exec_query (trigger : Trigger) (world : World) :
    exec (alone position) (query trigger none [], world) [.page none] =
      some (ofExcept (afterQuery trigger world.responses.rows), world) := by
  rw [exec_singleton, alone, call, List.nil_append, Store.page_none_none]

theorem exec_deleteRules (now : Instant) (outcome : Outcome) (world : World) :
    exec (alone position) (deleteRules ruleCalls outcome, world) (List.replicate 4 (.next now)) =
      some (done outcome, { world with timerRulesDeleted := true }) := by
  simp [List.replicate, exec, alone, call, ruleCalls, afterRuleCall, nextRuleCall]

theorem exec_forces (stoppedResponses : Nat) (pending : List String) (world : World) :
    exec (alone position) (afterForce stoppedResponses pending, world) (pending.map .force) =
      some (setCycleStatus (.timeout stoppedResponses),
        { world with responses := world.responses.writeAll pending forceResponseUnreachable }) := by
  induction pending generalizing world with
  | nil => rfl
  | cons employeeId rest ih =>
    have hforce : alone position (afterForce stoppedResponses (employeeId :: rest), world) (.force employeeId) =
        some (afterForce stoppedResponses rest,
          { world with responses := world.responses.write employeeId forceResponseUnreachable }) := by
      rw [afterForce, if_neg (List.cons_ne_nil employeeId rest), alone, call, if_pos List.mem_cons_self,
        List.erase_cons_head]
    rw [List.map_cons, exec_cons, hforce]
    exact ih _

theorem exec_mapCompleted {now : Instant} {world world' : World} {outcome : Outcome}
    (h : handleMapCompleted now world = .ok (outcome, world')) :
    ∃ calls, exec (alone position) (query .mapCompleted none [], world) calls = some (done outcome, world') := by
  obtain ⟨completed, hcompleted, h⟩ := bind_eq_ok.1 h
  have hquery := @exec_query ι _ position .mapCompleted world
  rw [queryResponses] at hcompleted h
  rw [afterQuery, hcompleted, ok_bind] at hquery
  cases completed with
  | false =>
    obtain ⟨pending, hpending, h⟩ := bind_eq_ok.1 h
    cases h
    refine ⟨[.page none], ?_⟩
    rw [hquery, if_neg Bool.false_ne_true, hpending]
    rfl
  | true =>
    obtain ⟨summary, hsummary, h⟩ := bind_eq_ok.1 h
    rw [if_pos rfl, hsummary] at hquery
    cases hrunning : Cycle.isRunning world.cycle with
    | false =>
      rw [hrunning] at h
      cases h
      refine ⟨[.page none] ++ [.next now], ?_⟩
      rw [exec_append_of_eq hquery, exec_singleton]
      simp [alone, ofExcept, call, hrunning, World.setCycleStatus, Cycle.setCycleStatus_of_not_running hrunning,
        Closing.summary?]
    | true =>
      rw [hrunning] at h
      cases h
      refine ⟨[.page none] ++ .next now :: List.replicate 4 (.next now), ?_⟩
      have hset : alone position (setCycleStatus (.completed summary), world) (.next now) =
          some (deleteRules ruleCalls (.completed summary), world.setCycleStatus .completed now) := by
        rw [alone, call, if_pos hrunning]
        rfl
      exact (exec_append_of_eq hquery _).trans ((exec_cons_of_eq hset _).trans (exec_deleteRules now _ _))

theorem exec_timer30Min {world world' : World} {outcome : Outcome}
    (h : handleTimer30Min world = .ok (outcome, world')) :
    ∃ calls, exec (alone position) (getCycle .timer30Min, world) calls = some (done outcome, world') := by
  cases hrunning : Cycle.isRunning world.cycle with
  | false =>
    rw [handleTimer30Min, hrunning] at h
    cases h
    refine ⟨[.next 0], ?_⟩
    simp [exec_singleton, alone, call, hrunning]
  | true =>
    rw [handleTimer30Min, hrunning] at h
    obtain ⟨incomplete, hincomplete, h⟩ := bind_eq_ok.1 h
    have hget : alone position (getCycle .timer30Min, world) (.next 0) = some (query .timer30Min none [], world) := by
      rw [alone, call, if_pos hrunning]
      rfl
    have hquery := @exec_query ι _ position .timer30Min world
    rw [queryResponses] at hincomplete h
    rw [afterQuery, hincomplete, ok_bind] at hquery
    cases incomplete with
    | false =>
      cases h
      exact ⟨[.next 0, .page none], (exec_cons_of_eq hget _).trans hquery⟩
    | true =>
      obtain ⟨summary, hsummary, h⟩ := bind_eq_ok.1 h
      cases h
      refine ⟨.next 0 :: ([.page none] ++ [.next 0, .next 0, .next 0]), ?_⟩
      refine (exec_cons_of_eq hget _).trans ((exec_append_of_eq hquery _).trans ?_)
      simp [exec, alone, call, ofExcept, hrunning, hsummary, World.warn, Except.map]

theorem exec_timer60Min {executionArn : Option String} {now : Instant} {world world' : World} {outcome : Outcome}
    (h : handleTimer60Min executionArn now world = .ok (outcome, world')) :
    ∃ calls, exec (alone position) (getCycle (.timer60Min executionArn), world) calls = some (done outcome, world') := by
  cases hrunning : Cycle.isRunning world.cycle with
  | false =>
    rw [handleTimer60Min, hrunning] at h
    cases h
    refine ⟨[.next now], ?_⟩
    simp [exec_singleton, alone, call, hrunning]
  | true =>
    rw [handleTimer60Min, hrunning] at h
    obtain ⟨rewrites, hrewrites, h⟩ := bind_eq_ok.1 h
    obtain ⟨summary, hsummary, h⟩ := bind_eq_ok.1 h
    cases h
    let stopped : World := { world with executionStopped := world.executionStopped || executionArn.any (· != "") }
    have hprefix : ∃ calls, exec (alone position) (getCycle (.timer60Min executionArn), world) calls =
        some (query (.timer60Min executionArn) none [], stopped) := by
      cases harn : executionArn.any (· != "") with
      | false =>
        refine ⟨[.next now], ?_⟩
        simp [exec_singleton, alone, call, hrunning, Trigger.executionArn, harn, stopped]
      | true =>
        refine ⟨[.next now, .next now], ?_⟩
        simp [exec, alone, call, hrunning, Trigger.executionArn, harn, stopped]
    obtain ⟨first, hfirst⟩ := hprefix
    have hquery := @exec_query ι _ position (.timer60Min executionArn) stopped
    have hitems : items stopped.responses.rows = queryResponses world := rfl
    rw [afterQuery, hitems, hrewrites, ok_bind] at hquery
    have hforces := @exec_forces ι _ position rewrites.length (rewrites.map Prod.fst) stopped
    let closed := world.timeOut executionArn rewrites now
    let published : World := { closed with
      metrics := closed.metrics ++ ["CycleTimeout"]
      notifications := closed.notifications ++
        [{ event := "CYCLE_TIMEOUT_60MIN", summary, stoppedResponses := some rewrites.length }] }
    have hreport : exec (alone position) (setCycleStatus (.timeout rewrites.length), { stopped with
          responses := stopped.responses.writeAll (rewrites.map Prod.fst) forceResponseUnreachable })
        [.next now, .next now, .page none, .next now] =
        some (deleteRules ruleCalls (.timeoutApplied rewrites.length summary), published) := by
      have hafter : computeSummary (items (stopped.responses.writeAll (rewrites.map Prod.fst)
          forceResponseUnreachable).rows) = .ok summary := hsummary
      have hstill : Cycle.isRunning stopped.cycle = true := hrunning
      simp only [exec, alone, call, hstill, if_true, Option.bind_some, afterSetCycleStatus, World.setCycleStatus,
        List.nil_append, Store.page_none_none, hafter, Except.map, ofExcept]
      rfl
    refine ⟨first ++ ([.page none] ++ ((rewrites.map Prod.fst).map .force ++
      ([.next now, .next now, .page none, .next now] ++ List.replicate 4 (.next now)))), ?_⟩
    exact (exec_append_of_eq hfirst _).trans ((exec_append_of_eq hquery _).trans
      ((exec_append_of_eq hforces _).trans ((exec_append_of_eq hreport _).trans (exec_deleteRules now _ _))))

/-- An invocation whose calls follow one another does what the handler does. -/
theorem exec_alone {trigger : Trigger} {now : Instant} {world world' : World} {outcome : Outcome}
    (h : handle now world trigger = .ok (outcome, world')) :
    ∃ calls, exec (alone position) (start trigger, world) calls = some (done outcome, world') := by
  cases trigger with
  | mapCompleted => exact exec_mapCompleted h
  | timer30Min => exact exec_timer30Min h
  | timer60Min executionArn => exact exec_timer60Min h

end Invocation

end CycleFinalizer

end SafetyConfirmation
