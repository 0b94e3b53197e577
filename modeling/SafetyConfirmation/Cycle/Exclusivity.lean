import SafetyConfirmation.Cycle.Starts

/-!
# One running cycle

CycleApi queries the `RUNNING` cycles and puts its own row later, without a condition. Two rows are `RUNNING` at once
exactly through a put that falls between another request's query and its put.
-/

namespace SafetyConfirmation

namespace CycleApi

open KeyedStore StepMachine

def Running (cycles : Store String Cycle) (cycleId : String) : Prop := Cycle.isRunning (cycles.lookup cycleId) = true

instance Running.decidable (cycles : Store String Cycle) (cycleId : String) : Decidable (Running cycles cycleId) :=
  inferInstanceAs (Decidable (_ = true))

def AtMostOneRunning (cycles : Store String Cycle) : Prop :=
  ∀ cycleId other, Running cycles cycleId → Running cycles other → cycleId = other

theorem running_iff {cycles : Store String Cycle} {cycleId : String} :
    Running cycles cycleId ↔ ∃ cycle, cycles.lookup cycleId = some cycle ∧ cycle.status = .running := by
  rw [Running, Cycle.isRunning]
  cases cycles.lookup cycleId <;> simp

/-- A write that makes no row run leaves only rows running that did before. -/
theorem running_of_write {cycles : Store String Cycle} {w : Write Cycle} {key cycleId : String}
    (hw : Cycle.isRunning (w.run (cycles.lookup key)) = true → Cycle.isRunning (cycles.lookup key) = true)
    (h : Running (cycles.write key w) cycleId) : Running cycles cycleId := by
  by_cases hkey : cycleId = key
  · subst cycleId
    rw [Running, Store.lookup_write_self] at h
    exact hw h
  · rw [Running, Store.lookup_write_ne cycles w hkey] at h
    exact h

theorem isRunning_of_setStartFailed {row : Option Cycle} (h : Cycle.isRunning (Cycle.setStartFailed.run row) = true) :
    Cycle.isRunning row = true := by
  cases row with
  | none => cases h
  | some cycle => cases h

theorem isRunning_of_setCycleStatus {row : Option Cycle} {newStatus : CycleStatus} {now : Instant}
    (h : Cycle.isRunning ((Cycle.setCycleStatus newStatus now).run row) = true) : Cycle.isRunning row = true := by
  cases hrow : Cycle.isRunning row with
  | true => rfl
  | false =>
    rw [Cycle.setCycleStatus_of_not_running hrow, hrow] at h
    exact h

theorem isRunning_of_setSlaWarningFlag {row : Option Cycle}
    (h : Cycle.isRunning (Cycle.setSlaWarningFlag.run row) = true) : Cycle.isRunning row = true := by
  cases hrow : Cycle.isRunning row with
  | true => rfl
  | false =>
    have hskip : Cycle.setSlaWarningFlag.run row = row := Write.run_of_not_condition hrow
    rw [hskip, hrow] at h
    exact h

/-- A cycle may start exactly when none runs. -/
theorem canStartCycle_iff {cycles : Store String Cycle} :
    canStartCycle (queryRunningCycles cycles) = true ↔ ∀ cycleId, ¬ Running cycles cycleId := by
  cases hquery : queryRunningCycles cycles with
  | nil =>
    refine iff_of_true rfl ?_
    intro cycleId hrunning
    obtain ⟨cycle, hlookup, hstatus⟩ := running_iff.1 hrunning
    exact queryRunningCycles_eq_nil_iff.1 hquery (cycleId, cycle) (Store.mem_rows.2 hlookup) hstatus
  | cons existing rest =>
    have hmem : existing ∈ queryRunningCycles cycles := by
      rw [hquery]
      exact List.mem_cons_self
    obtain ⟨hrow, hstatus⟩ := mem_queryRunningCycles hmem
    refine iff_of_false ?_ ?_
    · simp [canStartCycle, hstatus]
    · exact fun hnone => hnone existing.1 (running_iff.2 ⟨existing.2, Store.mem_rows.1 hrow, hstatus⟩)

theorem canStartCycle_of_refuse {cycles : Store String Cycle} {request : Request}
    (h : refuse request false cycles = none) : canStartCycle (queryRunningCycles cycles) = true := by
  simp only [refuse, Bool.false_eq_true, if_false] at h
  split at h
  · assumption
  · split at h
    · rename_i hquery
      rw [hquery]
      rfl
    · split at h <;> cases h

/-! ### The invariant -/

structure Exclusive (s : State) : Prop where
  unique : AtMostOneRunning s.cycles
  undecided : ∀ cycleId, Running s.cycles cycleId → ∀ i post, s.posts.lookup i = some post → post.stage.isDecided = false

/-- No put falls between another request's query, which found no `RUNNING` cycle, and its put. -/
def PutAlone (s : State) : Label → Prop
  | .call i (.next _ _ _) => (s.posts.lookup i).any (fun post => post.stage.isAtPut) = true →
      ∀ entry ∈ s.posts.rows, entry.1 ≠ i → entry.2.stage.isDecided = false
  | _ => True

instance PutAlone.decidable (s : State) : ∀ label, Decidable (PutAlone s label)
  | .call _ (.next _ _ _) => inferInstanceAs (Decidable (_ → _))
  | .call _ (.startExecution _) | .call _ .markFailed | .call _ .raise => .isTrue trivial
  | .post _ _ | .finish _ _ _ | .warn _ => .isTrue trivial

theorem Exclusive.quiet {s t : State} (hs : Exclusive s)
    (hrunning : ∀ cycleId, Running t.cycles cycleId → Running s.cycles cycleId)
    (hposts : ∀ i post, t.posts.lookup i = some post → post.stage.isDecided = true →
      ∃ post', s.posts.lookup i = some post' ∧ post'.stage.isDecided = true) : Exclusive t where
  unique cycleId other h h' := hs.unique cycleId other (hrunning _ h) (hrunning _ h')
  undecided cycleId h i post hpost := by
    by_contra hdecided
    obtain ⟨post', hpost', hdecided'⟩ := hposts i post hpost (Bool.eq_true_of_not_eq_false hdecided)
    rw [hs.undecided cycleId (hrunning _ h) i post' hpost'] at hdecided'
    cases hdecided'

theorem decided_of_set {posts : Store Nat Post} {i : Nat} {post' : Post}
    (hset : post'.stage.isDecided = true → ∃ post, posts.lookup i = some post ∧ post.stage.isDecided = true) :
    ∀ j post, (posts.set i (some post')).lookup j = some post → post.stage.isDecided = true →
      ∃ post, posts.lookup j = some post ∧ post.stage.isDecided = true := by
  apply Store.forall_lookup_set
  · intro j post _ hpost hdecided
    exact ⟨post, hpost, hdecided⟩
  · exact hset

/-- The put of a request that stands alone leaves its row as the only running one. -/
theorem Exclusive.put {s : State} (hs : Exclusive s) {i : Nat} {post : Post} {stage : Stage} {cycleId : String}
    {cycle : Cycle} (hpost : s.posts.lookup i = some post) (hdecided : post.stage.isDecided = true)
    (hstage : stage.isDecided = false)
    (halone : ∀ entry ∈ s.posts.rows, entry.1 ≠ i → entry.2.stage.isDecided = false) :
    Exclusive { cycles := s.cycles.write cycleId (.put cycle), posts := s.posts.set i (some { post with stage }) } where
  unique := by
    have honly : ∀ other, Running (s.cycles.write cycleId (.put cycle)) other → other = cycleId := by
      intro other hother
      by_contra hne
      rw [Running, Store.lookup_write_ne _ _ hne] at hother
      rw [hs.undecided other hother i post hpost] at hdecided
      cases hdecided
    intro left right hleft hright
    rw [honly left hleft, honly right hright]
  undecided _ _ := by
    apply Store.forall_lookup_set
    · intro j other hj hother
      exact halone (j, other) (Store.mem_rows.2 hother) hj
    · exact hstage

theorem Exclusive.step {s t : State} {label : Label} (hs : Exclusive s) (hguard : PutAlone s label)
    (hstep : step s label = some t) : Exclusive t := by
  cases steps_of_step hstep with
  | began hfresh =>
    refine hs.quiet (fun _ h => h) (decided_of_set ?_)
    intro h
    cases h
  | finished _ => exact hs.quiet (fun _ => running_of_write isRunning_of_setCycleStatus) fun i post h hd => ⟨post, h, hd⟩
  | warned => exact hs.quiet (fun _ => running_of_write isRunning_of_setSlaWarningFlag) fun i post h hd => ⟨post, h, hd⟩
  | @moved i c post stage cycles hpost hmoves =>
    obtain ⟨request, before⟩ := post
    cases hmoves with
    | decided hrefuse =>
      exact {
        unique := hs.unique
        undecided := fun cycleId hrunning =>
          absurd hrunning (canStartCycle_iff.1 (canStartCycle_of_refuse hrefuse) cycleId) }
    | versioned => exact hs.quiet (fun _ h => h) (decided_of_set fun _ => ⟨_, hpost, rfl⟩)
    | put hid hfresh => exact hs.put hpost rfl rfl (hguard (by rw [hpost]; rfl))
    | marked =>
      refine hs.quiet (fun _ => running_of_write isRunning_of_setStartFailed) (decided_of_set ?_)
      intro h
      cases h
    | probed | nonempty | empty | refused | started | notStarted | raised =>
      refine hs.quiet (fun _ h => h) (decided_of_set ?_)
      intro h
      cases h

/-- While no put falls between another request's query and its put, at most one cycle runs. -/
theorem atMostOneRunning_of_putAlone {s t : State} {labels : List Label}
    (hrunning : ∀ cycleId, ¬ Running s.cycles cycleId) (hguard : Guarded step PutAlone s labels)
    (hrun : exec step s labels = some t) : AtMostOneRunning t.cycles := by
  have hinit : Exclusive s := {
    unique := fun cycleId _ h => absurd h (hrunning cycleId)
    undecided := fun cycleId h => absurd h (hrunning cycleId) }
  exact (invariant_of_guarded (fun _ _ _ => Exclusive.step) hinit hguard hrun).unique

/-- The condition cannot be dropped: two requests that both are at their put make two running cycles. -/
theorem not_atMostOneRunning_of_overlap {s : State} {i j : Nat} {left right : Post} {leftRequest rightRequest : Request}
    {leftVersion rightVersion : Int} {leftId rightId : String} {tables : Dictionary.Tables} {startedAt : Instant}
    (hij : j ≠ i) (hids : leftId ≠ rightId) (hleftId : leftId ≠ "") (hrightId : rightId ≠ "")
    (hleft : s.posts.lookup i = some left) (hleftStage : left.stage = .reading (.put leftRequest leftVersion))
    (hright : s.posts.lookup j = some right) (hrightStage : right.stage = .reading (.put rightRequest rightVersion))
    (hleftFresh : s.cycles.lookup leftId = none) (hrightFresh : s.cycles.lookup rightId = none) :
    ∃ t, exec step s [.call i (.next tables leftId startedAt), .call j (.next tables rightId startedAt)] = some t ∧
      ¬ AtMostOneRunning t.cycles := by
  have hfirst : step s (.call i (.next tables leftId startedAt)) = some {
      cycles := s.cycles.write leftId (.put (newCycle leftRequest leftVersion startedAt))
      posts := s.posts.set i (some { left with stage := .starting leftId }) } := by
    simp [step, hleft, hleftStage, Stage.call, hleftId, Dictionary.Start.call, hleftFresh, Stage.ofStart]
  have hfresh : (s.cycles.write leftId (.put (newCycle leftRequest leftVersion startedAt))).lookup rightId = none := by
    rw [Store.lookup_write_ne _ _ hids.symm]
    exact hrightFresh
  rw [exec_cons, hfirst, Option.bind_some, exec_singleton]
  refine ⟨_, by
    simp only [step, Store.lookup_set_ne _ _ hij, hright, hrightStage, Stage.call, hrightId, Dictionary.Start.call,
      hfresh, Option.bind_some, if_false, Option.isNone_none, if_true, Option.map_some]
    rfl, ?_⟩
  intro hunique
  apply hids
  apply hunique
  · rw [Running, Store.lookup_write_ne _ _ hids, Store.lookup_write_self]
    rfl
  · rw [Running, Store.lookup_write_self]
    rfl

/-! ### Two requests at once -/

def someKeyword : Dictionary.Tables where
  dictionary := (∅ : Store Dictionary.Key Dictionary.Row).set ("SAFE", "ok") (some { version := some 1 })

def startRequest : Request where
  mode := .all
  retryCount := .int 3
  retryIntervalMinutes := .int 5

/-- The next `n` DynamoDB calls of a request with nothing in between. -/
def nextCalls (i n : Nat) (cycleId : String) (startedAt : Instant) : List Label :=
  List.replicate n (.call i (.next someKeyword cycleId startedAt))

/-- Both requests query the running cycles before either puts its row. -/
theorem two_running_cycles :
    ∃ t, exec step {} ([.post 0 startRequest, .post 1 startRequest] ++ nextCalls 0 4 "c0" 0 ++ nextCalls 1 4 "c1" 0 ++
        nextCalls 0 2 "c0" 0 ++ nextCalls 1 2 "c1" 0) = some t ∧
      ¬ AtMostOneRunning t.cycles := by
  refine ⟨_, rfl, ?_⟩
  intro hunique
  have heq : "c0" = "c1" := hunique _ _ (by decide) (by decide)
  exact absurd heq (by decide)

def oneAfterAnother : List Label :=
  [.post 0 startRequest] ++ nextCalls 0 6 "c0" 0 ++ [.call 0 (.startExecution false), .finish "c0" false 60] ++
    [.post 1 startRequest] ++ nextCalls 1 6 "c1" 90

theorem atMostOneRunning_oneAfterAnother :
    ∃ t, exec step {} oneAfterAnother = some t ∧ Running t.cycles "c1" ∧ AtMostOneRunning t.cycles := by
  refine ⟨_, rfl, by decide, ?_⟩
  exact @atMostOneRunning_of_putAlone {} _ oneAfterAnother (fun _ h => Bool.noConfusion h) (by decide) rfl

end CycleApi

end SafetyConfirmation
