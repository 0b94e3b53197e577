import SafetyConfirmation.Inbound.CycleRecords

/-!
# The cycle that an inbound call is taken for

What `decide_inbound_flow` answers on any list of well-formed records: the latest one of the first class that has any. The
records are compared as texts and come in any order. All that is in the way is the end of the calendar: a window that
reaches past it overflows.
-/

namespace SafetyConfirmation

namespace Inbound

namespace CycleRecords

open Checks CivilTime IsoText

def inWindow (now : Instant) (windowDays : Int) (cycle : Value) : Bool :=
  decide (now ≤ instantAt cycle "completedAt" + days windowDays)

/-- The window of the record ends before the calendar does. -/
def Reaches (windowDays : Int) (cycle : Value) : Prop :=
  Datetime.InRange (instantAt cycle "completedAt" + days windowDays)

def running (cycles : List Value) : List Value := cycles.filter (hasStatus .running)

def completedIn (now : Instant) (windowDays : Int) (cycles : List Value) : List Value :=
  cycles.filter fun cycle => hasStatus .completed cycle && inWindow now windowDays cycle

def terminatedIn (now : Instant) (windowDays : Int) (cycles : List Value) : List Value :=
  cycles.filter fun cycle => isTerminated cycle && inWindow now windowDays cycle

/-- A candidate that no other one is later than. -/
def IsLatest (key : String) (candidates : List Value) (cycle : Value) : Prop :=
  cycle ∈ candidates ∧ ∀ other ∈ candidates, instantAt other key ≤ instantAt cycle key

/-- The four flows by what there is. -/
structure Property11 (cycles : List Value) (now : Instant) (windowDays : Int) (result : InboundFlow × Option String) :
    Prop where
  running : running cycles ≠ [] →
    ∃ cycle, IsLatest "startedAt" (running cycles) cycle ∧ result = (.activeCycle, some (cycleIdOf cycle))
  completed : CycleRecords.running cycles = [] → completedIn now windowDays cycles ≠ [] →
    ∃ cycle, IsLatest "completedAt" (completedIn now windowDays cycles) cycle ∧
      result = (.activeCycle, some (cycleIdOf cycle))
  terminated : CycleRecords.running cycles = [] → completedIn now windowDays cycles = [] →
    terminatedIn now windowDays cycles ≠ [] →
    ∃ cycle, IsLatest "completedAt" (terminatedIn now windowDays cycles) cycle ∧
      result = (.cycleTerminated, some (cycleIdOf cycle))
  none : CycleRecords.running cycles = [] → completedIn now windowDays cycles = [] →
    terminatedIn now windowDays cycles = [] → result = (.noCycle, .none)

/-- The timestamps that the decision is made by. -/
def decidingTimes (cycles : List Value) (now : Instant) (windowDays : Int) : List Instant :=
  if running cycles ≠ [] then (running cycles).map fun cycle => instantAt cycle "startedAt"
  else if completedIn now windowDays cycles ≠ [] then
    (completedIn now windowDays cycles).map fun cycle => instantAt cycle "completedAt"
  else (terminatedIn now windowDays cycles).map fun cycle => instantAt cycle "completedAt"

/-- The decision is that of the latest record, and the same for every order of the list: the flow always, and the cycle
where the deciding timestamps differ. -/
def Decides (cycles : List Value) (now : Instant) (windowDays : Int) : Prop :=
  ∃ result, decideInboundFlow true cycles now windowDays = .ok result ∧ Property11 cycles now windowDays result ∧
    ∀ reordered : List Value, reordered.Perm cycles →
      ∃ result', decideInboundFlow true reordered now windowDays = .ok result' ∧ result'.1 = result.1 ∧
        ((decidingTimes cycles now windowDays).Nodup → result'.2 = result.2)

/-- No window that is looked at reaches past the end of the calendar. -/
def WithinCalendar (cycles : List Value) (now : Instant) (windowDays : Int) : Prop :=
  running cycles ≠ [] ∨
    (∀ cycle ∈ cycles, hasStatus .completed cycle = true → Reaches windowDays cycle) ∧
      (completedIn now windowDays cycles ≠ [] ∨ ∀ cycle ∈ cycles, isTerminated cycle = true → Reaches windowDays cycle)

/-! ### The windows -/

section

variable {cycles : List Value} {now : Instant} {windowDays : Int} {test : Value → Bool}

theorem recent_eq_ok (htime : ∀ cycle ∈ cycles, test cycle = true → ∃ t, HasTime cycle "completedAt" t)
    (hreach : ∀ cycle ∈ cycles, test cycle = true → Reaches windowDays cycle) :
    recent test now windowDays cycles = .ok (cycles.filter fun cycle => test cycle && inWindow now windowDays cycle) := by
  induction cycles with
  | nil => rfl
  | cons cycle rest ih =>
    have hrest := ih (fun c hc => htime c (List.mem_cons_of_mem _ hc)) fun c hc => hreach c (List.mem_cons_of_mem _ hc)
    rw [recent, hrest, List.filter_cons]
    cases htest : test cycle with
    | false => simp
    | true =>
      obtain ⟨t, ht⟩ := htime cycle List.mem_cons_self htest
      have hwindow := ht.isWithinWindow_eq now windowDays
      have hfirst : Datetime.InRange (instantAt cycle "completedAt" + days windowDays) :=
        hreach cycle List.mem_cons_self htest
      rw [if_pos hfirst] at hwindow
      rw [if_pos rfl, hwindow, ok_bind, ok_bind, Bool.true_and, inWindow]
      rfl

theorem recent_eq_error (htime : ∀ cycle ∈ cycles, test cycle = true → ∃ t, HasTime cycle "completedAt" t)
    (hreach : ¬ ∀ cycle ∈ cycles, test cycle = true → Reaches windowDays cycle) :
    recent test now windowDays cycles = .error (.other "OverflowError") := by
  induction cycles with
  | nil => exact absurd (fun _ h => (List.not_mem_nil h).elim) hreach
  | cons cycle rest ih =>
    have hrest := ih fun c hc => htime c (List.mem_cons_of_mem _ hc)
    rw [List.forall_mem_cons] at hreach
    rw [recent]
    cases htest : test cycle with
    | false =>
      rw [if_neg Bool.false_ne_true]
      exact hrest fun h => hreach ⟨fun h => absurd (htest.symm.trans h) Bool.false_ne_true, h⟩
    | true =>
      obtain ⟨t, ht⟩ := htime cycle List.mem_cons_self htest
      have hwindow := ht.isWithinWindow_eq now windowDays
      rw [if_pos rfl, hwindow]
      by_cases hfirst : Datetime.InRange (instantAt cycle "completedAt" + days windowDays)
      · rw [if_pos hfirst, ok_bind, hrest fun h => hreach ⟨fun _ => hfirst, h⟩]
        rfl
      · rw [if_neg hfirst]
        rfl

end

/-! ### The decision -/

/-- What is answered where no window overflows. -/
def selected (cycles : List Value) (now : Instant) (windowDays : Int) : InboundFlow × Option String :=
  match selectLatest (running cycles) "startedAt" with
  | some cycle => (.activeCycle, some (cycleIdOf cycle))
  | none =>
    match selectLatest (completedIn now windowDays cycles) "completedAt" with
    | some cycle => (.activeCycle, some (cycleIdOf cycle))
    | none =>
      match selectLatest (terminatedIn now windowDays cycles) "completedAt" with
      | some cycle => (.cycleTerminated, some (cycleIdOf cycle))
      | none => (.noCycle, none)

theorem selectLatest_eq_none {cycles : List Value} {key : String} : selectLatest cycles key = none ↔ cycles = [] :=
  List.argmax_eq_none

section

variable {cycles : List Value} {now : Instant} {windowDays : Int}

theorem time_of_completed (hformed : ∀ cycle ∈ cycles, WellFormed cycle) :
    ∀ cycle ∈ cycles, hasStatus .completed cycle = true → ∃ t, HasTime cycle "completedAt" t := by
  intro cycle hmem hcompleted
  refine (hformed cycle hmem).completedAt ?_
  rw [hasStatus, beq_iff_eq] at hcompleted
  rw [hasStatus, hcompleted]
  rfl

theorem time_of_terminated (hformed : ∀ cycle ∈ cycles, WellFormed cycle) :
    ∀ cycle ∈ cycles, isTerminated cycle = true → ∃ t, HasTime cycle "completedAt" t := by
  intro cycle hmem hterminated
  refine (hformed cycle hmem).completedAt ?_
  rw [isTerminated, Option.any_eq_true] at hterminated
  obtain ⟨status, hstatus, hterminal⟩ := hterminated
  rw [hasStatus, hstatus, beq_eq_false_iff_ne]
  rintro hrunning
  rw [Option.some.inj hrunning] at hterminal
  cases hterminal

theorem validate_of_wellFormed (hformed : ∀ cycle ∈ cycles, WellFormed cycle) : cycles.forM validateCycle = .ok ⟨⟩ :=
  forM_eq_ok.2 fun cycle hmem => validateCycle_of_wellFormed (hformed cycle hmem)

theorem decideInboundFlow_eq_ok (hformed : ∀ cycle ∈ cycles, WellFormed cycle) (hwindow : 1 ≤ windowDays ∧ windowDays ≤ 365)
    (hcalendar : WithinCalendar cycles now windowDays) :
    decideInboundFlow true cycles now windowDays = .ok (selected cycles now windowDays) := by
  rw [decideInboundFlow, require_of hwindow, ok_bind, if_pos rfl, validate_of_wellFormed hformed, ok_bind, selected]
  cases hrunning : selectLatest (running cycles) "startedAt" with
  | some cycle =>
    rw [running] at hrunning
    rw [hrunning]
    rfl
  | none =>
    have hempty := selectLatest_eq_none.1 hrunning
    obtain ⟨hcompleted, hterminated⟩ := hcalendar.resolve_left (not_not.2 hempty)
    rw [running] at hrunning
    simp only [hrunning, recent_eq_ok (time_of_completed hformed) hcompleted, ok_bind]
    cases hlatest : selectLatest (completedIn now windowDays cycles) "completedAt" with
    | some cycle =>
      rw [completedIn] at hlatest
      rw [hlatest]
      rfl
    | none =>
      have hterminated := hterminated.resolve_left (not_not.2 (selectLatest_eq_none.1 hlatest))
      rw [completedIn] at hlatest
      simp only [hlatest, recent_eq_ok (time_of_terminated hformed) hterminated, ok_bind]
      rw [terminatedIn]
      generalize selectLatest _ "completedAt" = latest
      cases latest <;> rfl

theorem decideInboundFlow_eq_error (hformed : ∀ cycle ∈ cycles, WellFormed cycle)
    (hwindow : 1 ≤ windowDays ∧ windowDays ≤ 365) (hcalendar : ¬ WithinCalendar cycles now windowDays) :
    decideInboundFlow true cycles now windowDays = .error (.other "OverflowError") := by
  rw [WithinCalendar, not_or, not_not, not_and_or, not_or, not_not] at hcalendar
  obtain ⟨hempty, hcalendar⟩ := hcalendar
  have hrunning : selectLatest (running cycles) "startedAt" = none := selectLatest_eq_none.2 hempty
  rw [running] at hrunning
  rw [decideInboundFlow, require_of hwindow, ok_bind, if_pos rfl, validate_of_wellFormed hformed, ok_bind]
  simp only [hrunning]
  by_cases hcompleted : ∀ cycle ∈ cycles, hasStatus .completed cycle = true → Reaches windowDays cycle
  · obtain ⟨hlatest, hterminated⟩ := hcalendar.resolve_left (not_not.2 hcompleted)
    have hlatest : selectLatest (completedIn now windowDays cycles) "completedAt" = none := selectLatest_eq_none.2 hlatest
    rw [completedIn] at hlatest
    simp only [recent_eq_ok (time_of_completed hformed) hcompleted, ok_bind, hlatest,
      recent_eq_error (time_of_terminated hformed) hterminated, error_bind]
  · simp only [recent_eq_error (time_of_completed hformed) hcompleted, error_bind]

end

/-! ### The latest record -/

/-- Among records with times of whole seconds the greatest text is the latest time. -/
theorem isLatest_of_selectLatest {candidates : List Value} {key : String}
    (htime : ∀ cycle ∈ candidates, ∃ t, HasTime cycle key t) {cycle : Value}
    (h : selectLatest candidates key = some cycle) : IsLatest key candidates cycle := by
  refine ⟨List.argmax_mem h, fun other hother => ?_⟩
  obtain ⟨t, ht⟩ := htime cycle (List.argmax_mem h)
  obtain ⟨t', ht'⟩ := htime other hother
  have hnot := List.not_lt_of_mem_argmax hother h
  rw [textAt_lt_iff ht ht'] at hnot
  exact Int.not_lt.1 hnot

/-- Two lists of the same candidates, with times that differ, have the same latest one. -/
theorem eq_of_isLatest {candidates reordered : List Value} {key : String} (hperm : reordered.Perm candidates)
    (hnodup : (candidates.map fun cycle => instantAt cycle key).Nodup) {cycle cycle' : Value}
    (h : IsLatest key candidates cycle) (h' : IsLatest key reordered cycle') : cycle' = cycle := by
  have hmem := hperm.mem_iff.1 h'.1
  refine List.inj_on_of_nodup_map hnodup hmem h.1 (Int.le_antisymm (h.2 cycle' hmem) ?_)
  exact h'.2 cycle (hperm.mem_iff.2 h.1)

section

variable {cycles : List Value} {now : Instant} {windowDays : Int}

theorem time_of_running (hformed : ∀ cycle ∈ cycles, WellFormed cycle) :
    ∀ cycle ∈ running cycles, ∃ t, HasTime cycle "startedAt" t := fun cycle hmem =>
  (hformed cycle (List.mem_of_mem_filter hmem)).startedAt

theorem time_of_completedIn (hformed : ∀ cycle ∈ cycles, WellFormed cycle) :
    ∀ cycle ∈ completedIn now windowDays cycles, ∃ t, HasTime cycle "completedAt" t := by
  intro cycle hmem
  obtain ⟨hcycle, htest⟩ := List.mem_filter.1 hmem
  exact time_of_completed hformed cycle hcycle (Bool.and_eq_true_iff.1 htest).1

theorem time_of_terminatedIn (hformed : ∀ cycle ∈ cycles, WellFormed cycle) :
    ∀ cycle ∈ terminatedIn now windowDays cycles, ∃ t, HasTime cycle "completedAt" t := by
  intro cycle hmem
  obtain ⟨hcycle, htest⟩ := List.mem_filter.1 hmem
  exact time_of_terminated hformed cycle hcycle (Bool.and_eq_true_iff.1 htest).1

theorem exists_selectLatest {candidates : List Value} (h : candidates ≠ []) (key : String) :
    ∃ cycle, selectLatest candidates key = some cycle := by
  rw [← Option.isSome_iff_exists, Option.isSome_iff_ne_none, Ne, selectLatest_eq_none]
  exact h

theorem property11_selected (hformed : ∀ cycle ∈ cycles, WellFormed cycle) :
    Property11 cycles now windowDays (selected cycles now windowDays) where
  running hrunning := by
    obtain ⟨cycle, hcycle⟩ := exists_selectLatest hrunning "startedAt"
    refine ⟨cycle, isLatest_of_selectLatest (time_of_running hformed) hcycle, ?_⟩
    rw [selected, hcycle]
  completed hrunning hcompleted := by
    obtain ⟨cycle, hcycle⟩ := exists_selectLatest hcompleted "completedAt"
    refine ⟨cycle, isLatest_of_selectLatest (time_of_completedIn hformed) hcycle, ?_⟩
    rw [selected, selectLatest_eq_none.2 hrunning, hcycle]
  terminated hrunning hcompleted hterminated := by
    obtain ⟨cycle, hcycle⟩ := exists_selectLatest hterminated "completedAt"
    refine ⟨cycle, isLatest_of_selectLatest (time_of_terminatedIn hformed) hcycle, ?_⟩
    rw [selected, selectLatest_eq_none.2 hrunning, selectLatest_eq_none.2 hcompleted, hcycle]
  none hrunning hcompleted hterminated := by
    rw [selected, selectLatest_eq_none.2 hrunning, selectLatest_eq_none.2 hcompleted, selectLatest_eq_none.2 hterminated]

/-! ### Another order -/

variable {reordered : List Value}

theorem withinCalendar_perm (hperm : reordered.Perm cycles) (h : WithinCalendar cycles now windowDays) :
    WithinCalendar reordered now windowDays := by
  have hne : ∀ test : Value → Bool, cycles.filter test ≠ [] → reordered.filter test ≠ [] := fun test hne heq =>
    hne (List.Perm.eq_nil (heq ▸ (hperm.filter test).symm))
  obtain h | ⟨hcompleted, hterminated⟩ := h
  · exact .inl (hne _ h)
  · refine .inr ⟨fun cycle hmem => hcompleted cycle (hperm.mem_iff.1 hmem), ?_⟩
    exact hterminated.imp (hne _) fun hall cycle hmem => hall cycle (hperm.mem_iff.1 hmem)

/-- The flow is that of the first class that has a record, whatever the order of the list. -/
theorem selected_perm (hformed : ∀ cycle ∈ cycles, WellFormed cycle) (hperm : reordered.Perm cycles) :
    (selected reordered now windowDays).1 = (selected cycles now windowDays).1 ∧
      ((decidingTimes cycles now windowDays).Nodup →
        (selected reordered now windowDays).2 = (selected cycles now windowDays).2) := by
  have hformed' : ∀ cycle ∈ reordered, WellFormed cycle := fun cycle hmem => hformed cycle (hperm.mem_iff.1 hmem)
  have hnil : ∀ {test : Value → Bool}, reordered.filter test = [] ↔ cycles.filter test = [] := by
    intro test
    have hfilter := hperm.filter test
    constructor
    · intro heq
      rw [heq] at hfilter
      exact hfilter.symm.eq_nil
    · intro heq
      rw [heq] at hfilter
      exact hfilter.eq_nil
  have h := @property11_selected cycles now windowDays hformed
  have h' := @property11_selected reordered now windowDays hformed'
  by_cases hrunning : running cycles = []
  · by_cases hcompleted : completedIn now windowDays cycles = []
    · by_cases hterminated : terminatedIn now windowDays cycles = []
      · rw [h.none hrunning hcompleted hterminated, h'.none (hnil.2 hrunning) (hnil.2 hcompleted) (hnil.2 hterminated)]
        exact ⟨rfl, fun _ => rfl⟩
      · obtain ⟨cycle, hlatest, heq⟩ := h.terminated hrunning hcompleted hterminated
        obtain ⟨cycle', hlatest', heq'⟩ := h'.terminated (hnil.2 hrunning) (hnil.2 hcompleted) (mt hnil.1 hterminated)
        rw [heq, heq']
        refine ⟨rfl, fun hnodup => ?_⟩
        rw [decidingTimes, if_neg (not_not.2 hrunning), if_neg (not_not.2 hcompleted)] at hnodup
        rw [eq_of_isLatest (hperm.filter _) hnodup hlatest hlatest']
    · obtain ⟨cycle, hlatest, heq⟩ := h.completed hrunning hcompleted
      obtain ⟨cycle', hlatest', heq'⟩ := h'.completed (hnil.2 hrunning) (mt hnil.1 hcompleted)
      rw [heq, heq']
      refine ⟨rfl, fun hnodup => ?_⟩
      rw [decidingTimes, if_neg (not_not.2 hrunning), if_pos hcompleted] at hnodup
      rw [eq_of_isLatest (hperm.filter _) hnodup hlatest hlatest']
  · obtain ⟨cycle, hlatest, heq⟩ := h.running hrunning
    obtain ⟨cycle', hlatest', heq'⟩ := h'.running (mt hnil.1 hrunning)
    rw [heq, heq']
    refine ⟨rfl, fun hnodup => ?_⟩
    rw [decidingTimes, if_pos hrunning] at hnodup
    rw [eq_of_isLatest (hperm.filter _) hnodup hlatest hlatest']

end

/-- The latest cycle of the first class is what decides exactly where no window that is looked at overflows. -/
theorem decides_iff_withinCalendar (cycles : List Value) (hformed : ∀ cycle ∈ cycles, WellFormed cycle) (now : Instant)
    (windowDays : Int) (hwindow : 1 ≤ windowDays ∧ windowDays ≤ 365) :
    Decides cycles now windowDays ↔ WithinCalendar cycles now windowDays := by
  constructor
  · rintro ⟨result, hresult, -⟩
    by_contra hcalendar
    rw [decideInboundFlow_eq_error hformed hwindow hcalendar] at hresult
    cases hresult
  · intro hcalendar
    refine ⟨_, decideInboundFlow_eq_ok hformed hwindow hcalendar, property11_selected hformed, ?_⟩
    intro reordered hperm
    have hformed' : ∀ cycle ∈ reordered, WellFormed cycle := fun cycle hmem => hformed cycle (hperm.mem_iff.1 hmem)
    obtain ⟨hflow, hid⟩ := @selected_perm cycles now windowDays reordered hformed hperm
    exact ⟨_, decideInboundFlow_eq_ok hformed' hwindow (withinCalendar_perm hperm hcalendar), hflow, hid⟩

/-! ### Two lists to try -/

/-- Midnight of a day of a January or a December. -/
def midnight (year month day : Nat) (hyear : minYear ≤ year ∧ year ≤ maxYear) (hmonth : month = 1 ∨ month = 12)
    (hday : 1 ≤ day ∧ day ≤ 31) : Datetime where
  date := ⟨year, month, day, hyear, by omega, by
    obtain rfl | rfl := hmonth
    · exact hday
    · exact hday⟩
  microsecond := 0
  microsecond_lt := by decide

def finished (cycleId : String) (t : Datetime) : Value := record cycleId .completed (isoformatZ t) (some (isoformatZ t))

theorem wellFormed_finished {cycleId : String} (hid : cycleId ≠ "") {t : Datetime} (ht : IsWhole t) :
    WellFormed (finished cycleId t) := wellFormed_record hid ⟨t, rfl, ht⟩ fun _ => ⟨t, rfl, ht⟩

theorem instantAt_finished (cycleId : String) {t : Datetime} (ht : IsWhole t) :
    instantAt (finished cycleId t) "completedAt" = t.instant :=
  (hasTime_completedAt ht : HasTime (finished cycleId t) "completedAt" t).instantAt_eq

def january : Datetime := midnight 2026 1 5 (by decide) (by decide) (by decide)

/-- The last midnight of the calendar. -/
def lastMidnight : Datetime := midnight 9999 12 31 (by decide) (by decide) (by decide)

theorem decides_january : Decides [finished "c0" january, finished "c1" january] january.instant 30 := by
  have hformed : ∀ cycle ∈ [finished "c0" january, finished "c1" january], WellFormed cycle := by
    rw [List.forall_mem_cons, List.forall_mem_singleton]
    exact ⟨wellFormed_finished (by decide) rfl, wellFormed_finished (by decide) rfl⟩
  have hreach : ∀ cycleId, Reaches 30 (finished cycleId january) := by
    intro cycleId
    rw [Reaches, instantAt_finished cycleId (rfl : IsWhole january)]
    decide +kernel
  refine (decides_iff_withinCalendar _ hformed january.instant 30 (by decide)).2 (.inr ⟨?_, .inr ?_⟩)
  · rw [List.forall_mem_cons, List.forall_mem_singleton]
    exact ⟨fun _ => hreach _, fun _ => hreach _⟩
  · rw [List.forall_mem_cons, List.forall_mem_singleton]
    exact ⟨fun _ => hreach _, fun _ => hreach _⟩

/-- A cycle that was completed on the last day of the calendar. -/
theorem not_decides_lastMidnight : WellFormed (finished "c0" lastMidnight) ∧
    ¬ Decides [finished "c0" lastMidnight] lastMidnight.instant 30 := by
  refine ⟨wellFormed_finished (by decide) rfl, ?_⟩
  rintro ⟨result, hresult, -⟩
  have hformed : ∀ cycle ∈ [finished "c0" lastMidnight], WellFormed cycle :=
    List.forall_mem_singleton.2 (wellFormed_finished (by decide) rfl)
  rw [decideInboundFlow_eq_error hformed (by decide)] at hresult
  · cases hresult
  · rintro (hrunning | ⟨hcompleted, -⟩)
    · exact hrunning rfl
    · have hreach := hcompleted _ (List.mem_singleton_self _) rfl
      rw [Reaches, instantAt_finished "c0" (rfl : IsWhole lastMidnight)] at hreach
      exact absurd hreach (by decide +kernel)

end CycleRecords

end Inbound

end SafetyConfirmation
