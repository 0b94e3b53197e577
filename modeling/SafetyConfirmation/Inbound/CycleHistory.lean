import SafetyConfirmation.Cycle.Exclusivity
import SafetyConfirmation.Data.Calendar
import SafetyConfirmation.Inbound.RecentCycles

/-!
# The cycles an inbound call finds

Which rows CycleApi and CycleFinalizer leave for `decide_inbound_flow` to read, and the records they are stored as.
CycleFinalizer writes `completedAt` with the status; CycleApi marks a failed start without it, and one such row makes every
call of a registered employee raise. On rows that pass the checks the decision on the records is the one on the rows, up to
the end of the calendar.
-/

namespace SafetyConfirmation

namespace Inbound

open KeyedStore StepMachine Checks CivilTime IsoText

/-- The time that the step of a lambda reads off the clock. -/
def clockOf : CycleApi.Label → Option Instant
  | .call _ (.next _ _ startedAt) => some startedAt
  | .finish _ _ now => some now
  | _ => none

/-- The clock of a lambda is a `datetime`: what it shows has a date. -/
def ShowsDates (label : CycleApi.Label) : Prop := ∀ now ∈ clockOf label, Datetime.InRange now

/-- What `validateCycle` may rely on for a row with the id. -/
structure Readable (cycleId : String) (cycle : Cycle) : Prop where
  cycleId_ne : cycleId ≠ ""
  completedAt : cycle.status = .completed ∨ cycle.status = .timeout → cycle.completedAt.isSome = true
  startedAt_inRange : Datetime.InRange cycle.startedAt
  completedAt_inRange : ∀ completedAt ∈ cycle.completedAt, Datetime.InRange completedAt

instance : DecidablePred ShowsDates := fun label =>
  inferInstanceAs (Decidable (∀ now ∈ clockOf label, Datetime.InRange now))

theorem Readable.setStartFailed {cycleId : String} {row : Option Cycle} {cycle : Cycle}
    (hrow : ∀ cycle ∈ row, Readable cycleId cycle) (h : Cycle.setStartFailed.run row = some cycle) :
    Readable cycleId cycle := by
  obtain ⟨old, hold, rfl⟩ := Option.map_eq_some_iff.1 h
  exact { hrow old hold with completedAt := fun hstatus => by simp at hstatus }

theorem Readable.setCycleStatus {cycleId : String} {row : Option Cycle} {newStatus : CycleStatus} {now : Instant}
    (hnow : Datetime.InRange now) (hrow : ∀ cycle ∈ row, Readable cycleId cycle) :
    ∀ cycle ∈ (Cycle.setCycleStatus newStatus now).run row, Readable cycleId cycle := by
  apply Write.run_induction (motive := fun row => ∀ cycle ∈ row, Readable cycleId cycle) hrow
  intro _ cycle hcycle
  obtain ⟨old, hold, rfl⟩ := Option.map_eq_some_iff.1 hcycle
  exact { hrow old hold with
    completedAt := fun _ => rfl
    completedAt_inRange := fun completedAt hcompleted => Option.some.inj hcompleted ▸ hnow }

theorem Readable.setSlaWarningFlag {cycleId : String} {row : Option Cycle}
    (hrow : ∀ cycle ∈ row, Readable cycleId cycle) :
    ∀ cycle ∈ Cycle.setSlaWarningFlag.run row, Readable cycleId cycle := by
  apply Write.run_induction (motive := fun row => ∀ cycle ∈ row, Readable cycleId cycle) hrow
  intro _ cycle hcycle
  obtain ⟨old, hold, rfl⟩ := Option.map_eq_some_iff.1 hcycle
  exact { hrow old hold with }

theorem readable_step {s t : CycleApi.State} {label : CycleApi.Label} (hclock : ShowsDates label)
    (hs : ∀ cycleId cycle, s.cycles.lookup cycleId = some cycle → Readable cycleId cycle)
    (hstep : CycleApi.step s label = some t) :
    ∀ cycleId cycle, t.cycles.lookup cycleId = some cycle → Readable cycleId cycle := by
  cases label with
  | post i request =>
    rw [CycleApi.step] at hstep
    split at hstep
    · cases hstep
      exact hs
    · cases hstep
  | warn cycleId =>
    cases hstep
    exact Store.forall_lookup_write hs (Readable.setSlaWarningFlag (hs _))
  | finish cycleId isTimer now =>
    cases hstep
    exact Store.forall_lookup_write hs (Readable.setCycleStatus (hclock now rfl) (hs _))
  | call i c =>
    obtain ⟨⟨request, before⟩, -, hcall⟩ := Option.bind_eq_some_iff.1 hstep
    obtain ⟨⟨stage, cycles⟩, hnext, rfl⟩ := Option.map_eq_some_iff.1 hcall
    have hmoves : CycleApi.Stage.Moves s.cycles before c stage cycles := CycleApi.Stage.moves_of_call hnext
    cases hmoves with
    | @put _ _ _ _ startedAt hid hfresh =>
      apply Store.forall_lookup_write hs
      intro cycle hcycle
      cases hcycle
      exact {
        cycleId_ne := hid
        completedAt := fun hstatus => by simp [CycleApi.newCycle] at hstatus
        startedAt_inRange := hclock startedAt rfl
        completedAt_inRange := fun completedAt hcompleted => by cases hcompleted }
    | marked => exact Store.forall_lookup_write hs fun _ => Readable.setStartFailed (hs _)
    | probed | nonempty | empty | refused | decided | versioned | started | notStarted | raised => exact hs

theorem readable_of_exec {labels : List CycleApi.Label} {t : CycleApi.State} (hclock : ∀ label ∈ labels, ShowsDates label)
    (hrun : exec CycleApi.step {} labels = some t) :
    ∀ cycleId cycle, t.cycles.lookup cycleId = some cycle → Readable cycleId cycle := by
  refine invariant_of_guarded (fun _ _ _ hs hlabel => readable_step hlabel hs) ?_ (guarded_of_forall_mem hclock) hrun
  intro cycleId cycle h
  cases h

/-! ### The records -/

/-- `_now_iso`: the clock's time, to the second. -/
def nowIso (now : Instant) : String := (Datetime.ofInstant? now.truncateToSeconds).elim "" isoformatZ

/-- The record that a row is stored as. -/
def recordOf (entry : String × Cycle) : Value :=
  CycleRecords.record entry.1 entry.2.status (nowIso entry.2.startedAt) (entry.2.completedAt.map nowIso)

def recordTable (cycles : Store String Cycle) : List Value := cycles.rows.map recordOf

def HasCompletedAt (cycle : Value) : Prop := CycleRecords.get cycle "completedAt" ≠ .none

theorem exists_nowIso_eq {now : Instant} (h : Datetime.InRange now) :
    ∃ t, nowIso now = isoformatZ t ∧ IsWhole t ∧ t.instant = now.truncateToSeconds := by
  have hrange : Datetime.InRange now.truncateToSeconds := by
    simp only [Datetime.InRange, Datetime.sinceDayZero, Instant.truncateToSeconds, microsecondsPerDay, microsecondsPerSecond,
      epochOrdinal, maxOrdinal] at *
    omega
  obtain ⟨t, ht, hinstant⟩ := Datetime.exists_instant_eq hrange
  refine ⟨t, by rw [nowIso, ht]; rfl, ?_, hinstant⟩
  rw [Datetime.instant, Instant.truncateToSeconds] at hinstant
  simp only [IsWhole, microsecondsPerDay, microsecondsPerSecond] at *
  omega

theorem wellFormed_recordOf {entry : String × Cycle} (h : Readable entry.1 entry.2)
    (hclosed : entry.2.status ≠ .running → entry.2.completedAt.isSome = true) : CycleRecords.WellFormed (recordOf entry) := by
  obtain ⟨t, ht, hwhole, -⟩ := exists_nowIso_eq h.startedAt_inRange
  refine CycleRecords.wellFormed_record h.cycleId_ne ⟨t, ht, hwhole⟩ fun hrunning => ?_
  obtain ⟨completedAt, hcompleted⟩ := Option.isSome_iff_exists.1 (hclosed hrunning)
  obtain ⟨t', ht', hwhole', -⟩ := exists_nowIso_eq (h.completedAt_inRange completedAt hcompleted)
  exact ⟨t', by rw [hcompleted, Option.map_some, ht'], hwhole'⟩

theorem hasCompletedAt_recordOf {entry : String × Cycle} :
    HasCompletedAt (recordOf entry) ↔ entry.2.completedAt.isSome = true := by
  rw [HasCompletedAt, recordOf]
  cases entry.2.completedAt with
  | none => exact iff_of_false (fun h => h rfl) Bool.false_ne_true
  | some completedAt => exact iff_of_true Value.noConfusion rfl

theorem exists_of_mem_query {cycles : Store String Cycle} {status : CycleStatus} {cycle : Value}
    (h : cycle ∈ CycleRecords.queryByStatus (recordTable cycles) status) :
    ∃ entry : String × Cycle, cycles.lookup entry.1 = some entry.2 ∧ entry.2.status = status ∧ recordOf entry = cycle := by
  have hmem := (List.perm_insertionSort _ _).mem_iff.1 (List.mem_of_mem_take h)
  obtain ⟨hrow, hstatus⟩ := List.mem_filter.1 hmem
  obtain ⟨entry, hentry, rfl⟩ := List.mem_map.1 hrow
  rw [CycleRecords.hasStatus, recordOf, CycleRecords.statusOf?_record, beq_iff_eq] at hstatus
  exact ⟨entry, Store.mem_rows.1 hentry, Option.some.inj hstatus, rfl⟩

theorem mem_queryRecentCycles {table : List Value} {cycle : Value} :
    cycle ∈ CycleRecords.queryRecentCycles table ↔ ∃ status, cycle ∈ CycleRecords.queryByStatus table status := by
  rw [CycleRecords.queryRecentCycles, List.mem_flatMap]
  constructor
  · intro h
    obtain ⟨status, -, hquery⟩ := h
    exact ⟨status, hquery⟩
  · intro h
    obtain ⟨status, hquery⟩ := h
    exact ⟨status, CycleRecords.status_mem_cycleQueryStatuses status, hquery⟩

/-- Of the rows that a history leaves only the failed starts may miss their time of completion. -/
theorem wellFormed_of_mem_query {cycles : Store String Cycle}
    (hreadable : ∀ cycleId cycle, cycles.lookup cycleId = some cycle → Readable cycleId cycle)
    (hfailed : ∀ cycle ∈ CycleRecords.queryByStatus (recordTable cycles) .startFailed, HasCompletedAt cycle) :
    ∀ cycle ∈ CycleRecords.queryRecentCycles (recordTable cycles), CycleRecords.WellFormed cycle := by
  intro cycle hcycle
  obtain ⟨status, hquery⟩ := mem_queryRecentCycles.1 hcycle
  obtain ⟨entry, hlookup, hstatus, rfl⟩ := exists_of_mem_query hquery
  have hentry := hreadable entry.1 entry.2 hlookup
  apply wellFormed_recordOf hentry
  intro hrunning
  cases status with
  | running => exact absurd hstatus hrunning
  | completed => exact hentry.completedAt (.inl hstatus)
  | timeout => exact hentry.completedAt (.inr hstatus)
  | startFailed => exact hasCompletedAt_recordOf.1 (hfailed _ hquery)

/-- The calls of registered employees get through exactly when every `START_FAILED` row that the query answers has a
`completedAt`, and no window that is looked at reaches past the calendar. -/
theorem decideInboundFlow_isOk_iff_of_exec {labels : List CycleApi.Label} {t : CycleApi.State} {now : Instant}
    {windowDays : Int} (hclock : ∀ label ∈ labels, ShowsDates label) (hrun : exec CycleApi.step {} labels = some t)
    (hwindow : 1 ≤ windowDays ∧ windowDays ≤ 365) :
    (∃ result, CycleRecords.decideInboundFlow true (CycleRecords.queryRecentCycles (recordTable t.cycles)) now windowDays =
        .ok result) ↔
      (∀ cycle ∈ CycleRecords.queryByStatus (recordTable t.cycles) .startFailed, HasCompletedAt cycle) ∧
        CycleRecords.WithinCalendar (CycleRecords.queryRecentCycles (recordTable t.cycles)) now windowDays := by
  have hreadable := readable_of_exec hclock hrun
  constructor
  · intro h
    obtain ⟨result, hresult⟩ := h
    have hfailed : ∀ cycle ∈ CycleRecords.queryByStatus (recordTable t.cycles) .startFailed, HasCompletedAt cycle := by
      intro cycle hquery
      obtain ⟨⟨cycleId, row⟩, hlookup, hstatus, rfl⟩ := exists_of_mem_query hquery
      obtain ⟨_, -, hafter⟩ := bind_eq_ok.1 hresult
      obtain ⟨_, hchecks, -⟩ := bind_eq_ok.1 hafter
      have hvalid := forM_eq_ok.1 hchecks _ (mem_queryRecentCycles.2 ⟨_, hquery⟩)
      rw [hasCompletedAt_recordOf]
      by_contra hnone
      rw [Bool.not_eq_true, Option.isSome_eq_false_iff, Option.isNone_iff_eq_none] at hnone
      rw [recordOf, hnone] at hvalid
      exact CycleRecords.validateCycle_record_ne_ok (hstatus ▸ CycleStatus.noConfusion) hvalid
    refine ⟨hfailed, ?_⟩
    by_contra hcalendar
    rw [CycleRecords.decideInboundFlow_eq_error (wellFormed_of_mem_query hreadable hfailed) hwindow hcalendar] at hresult
    cases hresult
  · intro h
    obtain ⟨hfailed, hcalendar⟩ := h
    exact ⟨_, CycleRecords.decideInboundFlow_eq_ok (wellFormed_of_mem_query hreadable hfailed) hwindow hcalendar⟩

/-! ### A failed start -/

def failedStart : List CycleApi.Label :=
  [.post 0 CycleApi.startRequest] ++ CycleApi.nextCalls 0 6 "c0" 0 ++ [.call 0 (.startExecution true)]

/-- One StartExecution that failed, and no registered caller gets through any more. -/
theorem decideInboundFlow_raises_after_failed_start :
    ∃ t, exec CycleApi.step {} (failedStart ++ [.call 0 .markFailed]) = some t ∧
      ¬ ∃ result, CycleRecords.decideInboundFlow true (CycleRecords.queryRecentCycles (recordTable t.cycles)) 0 30 =
        .ok result := by
  refine ⟨_, rfl, ?_⟩
  intro h
  obtain ⟨result, hresult⟩ := h
  cases hresult

/-- Had CycleFinalizer closed the cycle before it was marked, the row could be read. -/
theorem decideInboundFlow_isOk_after_finished_failed_start :
    ∃ t, exec CycleApi.step {} (failedStart ++ [.finish "c0" true 60, .call 0 .markFailed]) = some t ∧
      ∃ result, CycleRecords.decideInboundFlow true (CycleRecords.queryRecentCycles (recordTable t.cycles)) 0 30 =
        .ok result := by
  have hclock : ∀ label ∈ failedStart ++ [.finish "c0" true 60, .call 0 .markFailed], ShowsDates label := by decide
  refine ⟨_, rfl, ?_⟩
  apply (@decideInboundFlow_isOk_iff_of_exec _ _ 0 30 hclock rfl (by decide)).2
  constructor
  · intro cycle hcycle
    obtain rfl := List.mem_singleton.1 hcycle
    exact Value.noConfusion
  · refine .inr ⟨?_, .inr ?_⟩
    · intro cycle hcycle hcompleted
      obtain rfl := List.mem_singleton.1 hcycle
      cases hcompleted
    · intro cycle hcycle _
      obtain rfl := List.mem_singleton.1 hcycle
      show Datetime.InRange _
      decide +kernel

/-! ### The decision on the rows is that on their records -/

/-- A row that passes the checks, with the times as the lambdas write them. -/
structure Stored (entry : String × Cycle) : Prop where
  readable : Readable entry.1 entry.2
  closed : entry.2.status ≠ .running → entry.2.completedAt.isSome = true
  startedAt_whole : entry.2.startedAt.truncateToSeconds = entry.2.startedAt
  completedAt_whole : ∀ completedAt ∈ entry.2.completedAt, completedAt.truncateToSeconds = completedAt

namespace Stored

variable {entry entry' : String × Cycle}

theorem wellFormed (h : Stored entry) : CycleRecords.WellFormed (recordOf entry) :=
  wellFormed_recordOf h.readable h.closed

theorem exists_startedAt (h : Stored entry) :
    ∃ t, CycleRecords.HasTime (recordOf entry) "startedAt" t ∧ t.instant = entry.2.startedAt := by
  obtain ⟨t, htext, hwhole, hinstant⟩ := exists_nowIso_eq h.readable.startedAt_inRange
  refine ⟨t, ?_, hinstant.trans h.startedAt_whole⟩
  rw [recordOf, htext]
  exact CycleRecords.hasTime_startedAt hwhole

theorem exists_completedAt (h : Stored entry) (hstatus : entry.2.status ≠ .running) :
    ∃ t, CycleRecords.HasTime (recordOf entry) "completedAt" t ∧ entry.2.completedAt = some t.instant := by
  obtain ⟨completedAt, hcompleted⟩ := Option.isSome_iff_exists.1 (h.closed hstatus)
  obtain ⟨t, htext, hwhole, hinstant⟩ := exists_nowIso_eq (h.readable.completedAt_inRange completedAt hcompleted)
  refine ⟨t, ?_, ?_⟩
  · rw [recordOf, hcompleted, Option.map_some, htext]
    exact CycleRecords.hasTime_completedAt hwhole
  · rw [hcompleted, hinstant, h.completedAt_whole completedAt hcompleted]

theorem startedAt_lt_iff (h : Stored entry) (h' : Stored entry') :
    CycleRecords.textAt (recordOf entry) "startedAt" < CycleRecords.textAt (recordOf entry') "startedAt" ↔
      entry.2.startedAt < entry'.2.startedAt := by
  obtain ⟨t, ht, hinstant⟩ := h.exists_startedAt
  obtain ⟨t', ht', hinstant'⟩ := h'.exists_startedAt
  rw [CycleRecords.textAt_lt_iff ht ht', ht.instantAt_eq, ht'.instantAt_eq, hinstant, hinstant']

theorem completedAt_lt_iff (h : Stored entry) (h' : Stored entry') (hstatus : entry.2.status ≠ .running)
    (hstatus' : entry'.2.status ≠ .running) :
    CycleRecords.textAt (recordOf entry) "completedAt" < CycleRecords.textAt (recordOf entry') "completedAt" ↔
      entry.2.completedAt.getD 0 < entry'.2.completedAt.getD 0 := by
  obtain ⟨t, ht, hinstant⟩ := h.exists_completedAt hstatus
  obtain ⟨t', ht', hinstant'⟩ := h'.exists_completedAt hstatus'
  rw [CycleRecords.textAt_lt_iff ht ht', ht.instantAt_eq, ht'.instantAt_eq, hinstant, hinstant']
  rfl

theorem inWindow_eq (h : Stored entry) (hstatus : entry.2.status ≠ .running) (now : Instant) (windowDays : Int) :
    CycleRecords.inWindow now windowDays (recordOf entry) = isWithinWindow now windowDays entry.2 := by
  obtain ⟨t, ht, hinstant⟩ := h.exists_completedAt hstatus
  rw [CycleRecords.inWindow, ht.instantAt_eq, isWithinWindow, hinstant]
  rfl

end Stored

theorem hasStatus_recordOf (status : CycleStatus) (entry : String × Cycle) :
    CycleRecords.hasStatus status (recordOf entry) = (entry.2.status == status) := by
  rw [CycleRecords.hasStatus, recordOf, CycleRecords.statusOf?_record]
  rfl

theorem isTerminated_recordOf (entry : String × Cycle) :
    CycleRecords.isTerminated (recordOf entry) = isTerminalStatus entry.2.status := by
  rw [CycleRecords.isTerminated, recordOf, CycleRecords.statusOf?_record]
  rfl

theorem selectLatest_recordOf {entries : List (String × Cycle)} {keyAttr : String} {key : Cycle → Instant}
    (hlt : ∀ entry ∈ entries, ∀ entry' ∈ entries,
      CycleRecords.textAt (recordOf entry) keyAttr < CycleRecords.textAt (recordOf entry') keyAttr ↔
        key entry.2 < key entry'.2) :
    CycleRecords.selectLatest (entries.map recordOf) keyAttr = (selectLatest key entries).map recordOf := by
  induction entries with
  | nil => rfl
  | cons entry rest ih =>
    have hrest := ih fun entry hentry entry' hentry' =>
      hlt entry (List.mem_cons_of_mem _ hentry) entry' (List.mem_cons_of_mem _ hentry')
    rw [CycleRecords.selectLatest] at hrest
    rw [CycleRecords.selectLatest, List.map_cons, List.argmax_cons, hrest, selectLatest]
    cases hbest : selectLatest key rest with
    | none => rfl
    | some best =>
      have hiff := hlt entry List.mem_cons_self best (List.mem_cons_of_mem _ (mem_of_selectLatest hbest))
      simp only [Option.map_some, hiff, apply_ite (Option.map recordOf)]

theorem filter_recordOf {entries : List (String × Cycle)} {test : Value → Bool} {test' : String × Cycle → Bool}
    (htest : ∀ entry ∈ entries, test (recordOf entry) = test' entry) :
    (entries.map recordOf).filter test = (entries.filter test').map recordOf := by
  rw [List.filter_map]
  exact congrArg _ (List.filter_congr htest)

/-- A class of rows that are over, which is told from the status. -/
theorem selectLatest_window {entries : List (String × Cycle)} (hstored : ∀ entry ∈ entries, Stored entry)
    {recordTest : Value → Bool} (test : CycleStatus → Bool) (hrunning : test .running = false)
    (htest : ∀ entry : String × Cycle, recordTest (recordOf entry) = test entry.2.status) (now : Instant)
    (windowDays : Int) :
    CycleRecords.selectLatest ((entries.map recordOf).filter fun cycle =>
        recordTest cycle && CycleRecords.inWindow now windowDays cycle) "completedAt" =
      (selectLatest (fun cycle => cycle.completedAt.getD 0) (entries.filter fun entry =>
        test entry.2.status && isWithinWindow now windowDays entry.2)).map recordOf := by
  have hover : ∀ entry : String × Cycle, test entry.2.status = true → entry.2.status ≠ .running := by
    intro entry htrue heq
    rw [heq, hrunning] at htrue
    cases htrue
  have hfilter : ∀ entry ∈ entries,
      (recordTest (recordOf entry) && CycleRecords.inWindow now windowDays (recordOf entry)) =
        (test entry.2.status && isWithinWindow now windowDays entry.2) := by
    intro entry hentry
    rw [htest]
    cases hstatus : test entry.2.status with
    | false => rfl
    | true => rw [(hstored entry hentry).inWindow_eq (hover entry hstatus)]
  rw [filter_recordOf hfilter]
  apply selectLatest_recordOf
  intro entry hentry entry' hentry'
  obtain ⟨hmem, hinside⟩ := List.mem_filter.1 hentry
  obtain ⟨hmem', hinside'⟩ := List.mem_filter.1 hentry'
  exact (hstored entry hmem).completedAt_lt_iff (hstored entry' hmem')
    (hover entry (Bool.and_eq_true_iff.1 hinside).1) (hover entry' (Bool.and_eq_true_iff.1 hinside').1)

theorem selected_recordOf {entries : List (String × Cycle)} (hstored : ∀ entry ∈ entries, Stored entry) (now : Instant)
    (windowDays : Int) :
    CycleRecords.selected (entries.map recordOf) now windowDays = selectFlow entries now windowDays := by
  have hrunning : CycleRecords.selectLatest (CycleRecords.running (entries.map recordOf)) "startedAt" =
      (selectLatest Cycle.startedAt (entries.filter fun entry => entry.2.status == .running)).map recordOf := by
    rw [CycleRecords.running, filter_recordOf fun entry _ => hasStatus_recordOf .running entry]
    apply selectLatest_recordOf
    intro entry hentry entry' hentry'
    exact (hstored entry (List.mem_of_mem_filter hentry)).startedAt_lt_iff (hstored entry' (List.mem_of_mem_filter hentry'))
  have hcompleted := selectLatest_window hstored (· == .completed) rfl (hasStatus_recordOf .completed) now windowDays
  have hterminated := selectLatest_window hstored isTerminalStatus rfl isTerminated_recordOf now windowDays
  rw [CycleRecords.selected, hrunning, CycleRecords.completedIn, hcompleted, CycleRecords.terminatedIn, hterminated, selectFlow]
  cases selectLatest Cycle.startedAt _ with
  | some entry => rfl
  | none =>
    cases selectLatest (fun cycle => cycle.completedAt.getD 0) (entries.filter fun entry =>
        entry.2.status == .completed && isWithinWindow now windowDays entry.2) with
    | some entry => rfl
    | none =>
      cases selectLatest (fun cycle => cycle.completedAt.getD 0) (entries.filter fun entry =>
          isTerminalStatus entry.2.status && isWithinWindow now windowDays entry.2) with
      | some entry => rfl
      | none => rfl

/-- Where no window reaches past the calendar, what is decided on the rows is what is decided on their records. -/
theorem decideInboundFlow_recordOf {entries : List (String × Cycle)} {now : Instant} {windowDays : Int}
    (hstored : ∀ entry ∈ entries, Stored entry)
    (hcalendar : CycleRecords.WithinCalendar (entries.map recordOf) now windowDays) (employeeMatched : Bool) :
    CycleRecords.decideInboundFlow employeeMatched (entries.map recordOf) now windowDays =
      decideInboundFlow employeeMatched entries now windowDays := by
  by_cases hwindow : 1 ≤ windowDays ∧ windowDays ≤ 365
  · cases employeeMatched with
    | false =>
      rw [CycleRecords.decideInboundFlow, decideInboundFlow, require_of hwindow]
      rfl
    | true =>
      have hformed : ∀ cycle ∈ entries.map recordOf, CycleRecords.WellFormed cycle :=
        List.forall_mem_map.2 fun entry hentry => (hstored entry hentry).wellFormed
      have hvalid : ∀ entry ∈ entries, validateCycle entry = .ok ⟨⟩ := by
        intro entry hentry
        rw [validateCycle, require_of (hstored entry hentry).readable.cycleId_ne, ok_bind, require_eq_ok]
        exact or_iff_not_imp_left.2 (hstored entry hentry).closed
      rw [CycleRecords.decideInboundFlow_eq_ok hformed hwindow hcalendar, selected_recordOf hstored, decideInboundFlow,
        require_of hwindow, ok_bind, if_pos rfl, forM_eq_ok.2 hvalid]
      rfl
  · rw [CycleRecords.decideInboundFlow, decideInboundFlow, require, if_neg hwindow]
    rfl

end Inbound

end SafetyConfirmation
