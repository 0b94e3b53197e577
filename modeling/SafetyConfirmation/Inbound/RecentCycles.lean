import SafetyConfirmation.Inbound.LatestCycle

/-!
# The bounded query decides like the whole table

InboundHandler reads the ten latest rows of each status. In a table of cycles that do not overlap the latest row of a
status is the one that was completed last, too, so the decision on these rows is that on all rows.
-/

namespace SafetyConfirmation

namespace Inbound

namespace CycleRecords

open KeyedStore Checks CivilTime IsoText

/-! ### Records that stand for others -/

/-- Some records of a list, with one for each other record that is no earlier: of the same status, started no earlier and
completed no earlier. -/
structure StandFor (some all : List Value) : Prop where
  subset : ∀ cycle ∈ some, cycle ∈ all
  dominated : ∀ cycle ∈ all, ∃ later ∈ some, statusOf? later = statusOf? cycle ∧
    instantAt cycle "startedAt" ≤ instantAt later "startedAt" ∧
    (hasStatus .running cycle = false → instantAt cycle "completedAt" ≤ instantAt later "completedAt")
  startedAt_inj : ∀ cycle ∈ all, ∀ other ∈ all, instantAt cycle "startedAt" = instantAt other "startedAt" → cycle = other
  completedAt_inj : ∀ cycle ∈ all, ∀ other ∈ all, hasStatus .running cycle = false → hasStatus .running other = false →
    instantAt cycle "completedAt" = instantAt other "completedAt" → cycle = other

theorem selectLatest_eq_of_dominated {part whole : List Value} {key : String}
    (htime : ∀ cycle ∈ whole, ∃ t, HasTime cycle key t) (hsubset : ∀ cycle ∈ part, cycle ∈ whole)
    (hdominated : ∀ cycle ∈ whole, ∃ later ∈ part, instantAt cycle key ≤ instantAt later key)
    (hinj : ∀ cycle ∈ whole, ∀ other ∈ whole, instantAt cycle key = instantAt other key → cycle = other) :
    selectLatest part key = selectLatest whole key := by
  cases hwhole : selectLatest whole key with
  | none =>
    rw [selectLatest_eq_none] at hwhole ⊢
    refine List.eq_nil_iff_forall_not_mem.2 fun cycle hmem => ?_
    have hnone := hsubset cycle hmem
    rw [hwhole] at hnone
    cases hnone
  | some cycle =>
    have hlatest := isLatest_of_selectLatest htime hwhole
    obtain ⟨later, hlater, hle⟩ := hdominated cycle hlatest.1
    obtain ⟨cycle', hpart⟩ := exists_selectLatest (List.ne_nil_of_mem hlater) key
    have hlatest' := isLatest_of_selectLatest (fun c hc => htime c (hsubset c hc)) hpart
    have hmem := hsubset cycle' hlatest'.1
    have hsame := Int.le_antisymm (hlatest.2 cycle' hmem) (hle.trans (hlatest'.2 later hlater))
    rw [hpart, hinj cycle' hmem cycle hlatest.1 hsame]

section

variable {part whole : List Value} {now : Instant} {windowDays : Int}

theorem not_running_of_completed {cycle : Value} (h : hasStatus .completed cycle = true) :
    hasStatus .running cycle = false := by
  rw [hasStatus, beq_iff_eq] at h
  rw [hasStatus, h]
  rfl

theorem not_running_of_terminated {cycle : Value} (h : isTerminated cycle = true) : hasStatus .running cycle = false := by
  rw [isTerminated, Option.any_eq_true] at h
  obtain ⟨status, hstatus, hterminal⟩ := h
  rw [hasStatus, hstatus, beq_eq_false_iff_ne]
  intro hrunning
  rw [Option.some.inj hrunning] at hterminal
  cases hterminal

namespace StandFor

theorem subset_filter (h : StandFor part whole) (test : Value → Bool) : part.filter test ⊆ whole.filter test := by
  intro cycle hmem
  obtain ⟨hcycle, htest⟩ := List.mem_filter.1 hmem
  exact List.mem_filter.2 ⟨h.subset cycle hcycle, htest⟩

theorem running_eq (h : StandFor part whole) (hformed : ∀ cycle ∈ whole, WellFormed cycle) :
    selectLatest (running part) "startedAt" = selectLatest (running whole) "startedAt" := by
  refine selectLatest_eq_of_dominated (time_of_running hformed) (fun _ hmem => h.subset_filter _ hmem) ?_ ?_
  · intro cycle hmem
    obtain ⟨hcycle, htest⟩ := List.mem_filter.1 hmem
    obtain ⟨later, hlater, hstatus, hle, -⟩ := h.dominated cycle hcycle
    refine ⟨later, List.mem_filter.2 ⟨hlater, ?_⟩, hle⟩
    rw [hasStatus, hstatus]
    exact htest
  · intro cycle hmem other hother
    exact h.startedAt_inj cycle (List.mem_of_mem_filter hmem) other (List.mem_of_mem_filter hother)

/-- A class of records that are over, which is told from the status. -/
theorem window_eq (h : StandFor part whole) (hformed : ∀ cycle ∈ whole, WellFormed cycle) {test : Value → Bool}
    (hstatus : ∀ cycle later, statusOf? later = statusOf? cycle → test later = test cycle)
    (hover : ∀ cycle, test cycle = true → hasStatus .running cycle = false) :
    selectLatest (part.filter fun cycle => test cycle && inWindow now windowDays cycle) "completedAt" =
      selectLatest (whole.filter fun cycle => test cycle && inWindow now windowDays cycle) "completedAt" := by
  refine selectLatest_eq_of_dominated ?_ (fun _ hmem => h.subset_filter _ hmem) ?_ ?_
  · intro cycle hmem
    obtain ⟨hcycle, htest⟩ := List.mem_filter.1 hmem
    exact (hformed cycle hcycle).completedAt (hover cycle (Bool.and_eq_true_iff.1 htest).1)
  · intro cycle hmem
    obtain ⟨hcycle, htest⟩ := List.mem_filter.1 hmem
    obtain ⟨htest, hwindow⟩ := Bool.and_eq_true_iff.1 htest
    obtain ⟨later, hlater, hsame, -, hle⟩ := h.dominated cycle hcycle
    have hle := hle (hover cycle htest)
    refine ⟨later, List.mem_filter.2 ⟨hlater, ?_⟩, hle⟩
    have hwindow := of_decide_eq_true hwindow
    rw [hstatus cycle later hsame, htest, Bool.true_and]
    show decide (now ≤ instantAt later "completedAt" + days windowDays) = true
    exact decide_eq_true (hwindow.trans (Int.add_le_add_right hle _))
  · intro cycle hmem other hother
    obtain ⟨hcycle, htest⟩ := List.mem_filter.1 hmem
    obtain ⟨hother, htest'⟩ := List.mem_filter.1 hother
    exact h.completedAt_inj cycle hcycle other hother (hover cycle (Bool.and_eq_true_iff.1 htest).1)
      (hover other (Bool.and_eq_true_iff.1 htest').1)

/-- A window that overflows for some record does so for the one that stands for it. -/
theorem reaches_iff (h : StandFor part whole) (hformed : ∀ cycle ∈ whole, WellFormed cycle) (hwindow : 0 ≤ windowDays)
    {test : Value → Bool} (hstatus : ∀ cycle later, statusOf? later = statusOf? cycle → test later = test cycle)
    (hover : ∀ cycle, test cycle = true → hasStatus .running cycle = false) :
    (∀ cycle ∈ part, test cycle = true → Reaches windowDays cycle) ↔
      ∀ cycle ∈ whole, test cycle = true → Reaches windowDays cycle := by
  constructor
  · intro hall cycle hcycle htest
    obtain ⟨later, hlater, hsame, -, hover'⟩ := h.dominated cycle hcycle
    have hle := Int.add_le_add_right (hover' (hover cycle htest)) (days windowDays)
    have hreach := hall later hlater ((hstatus cycle later hsame).trans htest)
    obtain ⟨t, ht⟩ := (hformed cycle hcycle).completedAt (hover cycle htest)
    have hrange := t.inRange_instant
    rw [← ht.instantAt_eq] at hrange
    have hdays : 0 ≤ days windowDays := by
      rw [days]
      omega
    obtain ⟨hstart, -⟩ := hrange
    obtain ⟨-, hend⟩ := hreach
    rw [Datetime.sinceDayZero] at hstart hend
    constructor
    · rw [Datetime.sinceDayZero]
      omega
    · rw [Datetime.sinceDayZero]
      omega
  · exact fun hall cycle hcycle => hall cycle (h.subset cycle hcycle)

end StandFor

theorem decideInboundFlow_eq_of_standFor (h : StandFor part whole) (hformed : ∀ cycle ∈ whole, WellFormed cycle)
    (employeeMatched : Bool) (now : Instant) (windowDays : Int) :
    decideInboundFlow employeeMatched part now windowDays = decideInboundFlow employeeMatched whole now windowDays := by
  have hformed' : ∀ cycle ∈ part, WellFormed cycle := fun cycle hmem => hformed cycle (h.subset cycle hmem)
  have hcompleted : ∀ cycle later, statusOf? later = statusOf? cycle →
      hasStatus .completed later = hasStatus .completed cycle := by
    intro cycle later hsame
    rw [hasStatus, hasStatus, hsame]
  have hterminated : ∀ cycle later, statusOf? later = statusOf? cycle → isTerminated later = isTerminated cycle := by
    intro cycle later hsame
    rw [isTerminated, isTerminated, hsame]
  have hselected : selected part now windowDays = selected whole now windowDays := by
    rw [selected, selected, completedIn, completedIn, terminatedIn, terminatedIn, h.running_eq hformed,
      h.window_eq hformed hcompleted fun _ => not_running_of_completed,
      h.window_eq hformed hterminated fun _ => not_running_of_terminated]
  by_cases hwindow : 1 ≤ windowDays ∧ windowDays ≤ 365
  · cases employeeMatched with
    | false => rw [decideInboundFlow, decideInboundFlow]; rfl
    | true =>
      have hnil : ∀ {part whole : List Value} {key : String}, selectLatest part key = selectLatest whole key →
          (part = [] ↔ whole = []) := by
        intro part whole key heq
        rw [← @selectLatest_eq_none part key, ← @selectLatest_eq_none whole key, heq]
      have hcalendar : WithinCalendar part now windowDays ↔ WithinCalendar whole now windowDays := by
        have hpos : 0 ≤ windowDays := by omega
        rw [WithinCalendar, WithinCalendar, h.reaches_iff hformed hpos hcompleted fun _ => not_running_of_completed,
          h.reaches_iff hformed hpos hterminated fun _ => not_running_of_terminated, Ne, Ne, Ne, Ne,
          hnil (h.running_eq hformed), completedIn, completedIn,
          hnil (h.window_eq hformed hcompleted fun _ => not_running_of_completed)]
      by_cases hwhole : WithinCalendar whole now windowDays
      · rw [decideInboundFlow_eq_ok hformed hwindow hwhole,
          decideInboundFlow_eq_ok hformed' hwindow (hcalendar.2 hwhole), hselected]
      · rw [decideInboundFlow_eq_error hformed hwindow hwhole,
          decideInboundFlow_eq_error hformed' hwindow (mt hcalendar.1 hwhole)]
  · have hrefused : ∀ cycles : List Value, decideInboundFlow employeeMatched cycles now windowDays = .error
        (.valueError "eligibility_window_days must be an int in [1, 365]; got" (some (.int windowDays))) := by
      intro cycles
      rw [decideInboundFlow, require, if_neg hwindow]
      rfl
    rw [hrefused, hrefused]

end

/-! ### The query -/

/-- One query of `StatusStartedAtIndex`: the ten rows of the status with the greatest texts under `startedAt`. -/
def queryByStatus (table : List Value) (status : CycleStatus) : List Value :=
  ((table.filter (hasStatus status)).insertionSort fun cycle other => textAt other "startedAt" ≤ textAt cycle "startedAt").take 10

/-- `_query_recent_cycles`. -/
def queryRecentCycles (table : List Value) : List Value := cycleQueryStatuses.flatMap (queryByStatus table)

/-- A table of cycles one after the other: their starts differ, and of two that are over one has ended before the other
has started. -/
structure OneByOne (table : List Value) : Prop where
  startedAt_nodup : (table.map fun cycle => instantAt cycle "startedAt").Nodup
  interval : ∀ cycle ∈ table, hasStatus .running cycle = false →
    instantAt cycle "startedAt" ≤ instantAt cycle "completedAt"
  disjoint : ∀ cycle ∈ table, ∀ other ∈ table, hasStatus .running cycle = false → hasStatus .running other = false →
    cycle ≠ other → instantAt cycle "completedAt" < instantAt other "startedAt" ∨
      instantAt other "completedAt" < instantAt cycle "startedAt"

section

variable {table : List Value}

theorem mem_of_mem_queryByStatus {status : CycleStatus} {cycle : Value} (h : cycle ∈ queryByStatus table status) :
    cycle ∈ table := by
  have hmem := (List.perm_insertionSort _ _).mem_iff.1 (List.mem_of_mem_take h)
  exact List.mem_of_mem_filter hmem

/-- The first row of the answer is no earlier than any other of the status. -/
theorem exists_latest_of_status {status : CycleStatus} {cycle : Value} (hmem : cycle ∈ table)
    (hstatus : hasStatus status cycle = true) :
    ∃ later ∈ queryByStatus table status, hasStatus status later = true ∧
      textAt cycle "startedAt" ≤ textAt later "startedAt" := by
  let newestFirst : Value → Value → Prop := fun cycle other => textAt other "startedAt" ≤ textAt cycle "startedAt"
  have hsorted := List.mem_insertionSort newestFirst |>.2 (List.mem_filter.2 ⟨hmem, hstatus⟩)
  have hpairwise : ((table.filter (hasStatus status)).insertionSort newestFirst).Pairwise newestFirst :=
    List.pairwise_insertionSort newestFirst _
  have hsubset : ∀ later ∈ (table.filter (hasStatus status)).insertionSort newestFirst, hasStatus status later = true :=
    fun later hlater => (List.mem_filter.1 ((List.mem_insertionSort newestFirst).1 hlater)).2
  rw [queryByStatus]
  cases hrows : (table.filter (hasStatus status)).insertionSort newestFirst with
  | nil =>
    rw [hrows] at hsorted
    cases hsorted
  | cons later rest =>
    rw [hrows] at hsorted hpairwise hsubset
    refine ⟨later, List.mem_cons_self, hsubset later List.mem_cons_self, ?_⟩
    obtain rfl | hrest := List.mem_cons.1 hsorted
    · exact le_refl _
    · exact List.rel_of_pairwise_cons hpairwise hrest

theorem status_mem_cycleQueryStatuses (status : CycleStatus) : status ∈ cycleQueryStatuses := by
  cases status <;> decide

/-- Of two cycles that are over the one that started later was completed later. -/
theorem OneByOne.completedAt_le (h : OneByOne table) {cycle later : Value} (hcycle : cycle ∈ table) (hlater : later ∈ table)
    (hover : hasStatus .running cycle = false) (hover' : hasStatus .running later = false)
    (hle : instantAt cycle "startedAt" ≤ instantAt later "startedAt") :
    instantAt cycle "completedAt" ≤ instantAt later "completedAt" := by
  by_cases heq : cycle = later
  · rw [heq]
  · have hinterval : (instantAt later "startedAt" : Int) ≤ _ := h.interval later hlater hover'
    obtain hbefore | hafter := h.disjoint cycle hcycle later hlater hover hover' heq
    · exact (Int.lt_of_lt_of_le hbefore hinterval).le
    · exact absurd (hinterval.trans hafter.le) (fun hle' => absurd (Int.lt_of_le_of_lt hinterval hafter) (Int.not_lt.2 hle))

theorem standFor_queryRecentCycles (hformed : ∀ cycle ∈ table, WellFormed cycle) (h : OneByOne table) :
    StandFor (queryRecentCycles table) table where
  subset cycle hmem := by
    obtain ⟨status, -, hquery⟩ := List.mem_flatMap.1 hmem
    exact mem_of_mem_queryByStatus hquery
  dominated cycle hmem := by
    obtain ⟨status, hstatus⟩ := (hformed cycle hmem).status
    have hstatus := statusOf?_eq hstatus
    have hlabelled : hasStatus status cycle = true := by
      rw [hasStatus, hstatus, beq_self_eq_true]
    obtain ⟨later, hquery, hstatus', hle⟩ := exists_latest_of_status hmem hlabelled
    have hlater := mem_of_mem_queryByStatus hquery
    obtain ⟨t, ht⟩ := (hformed cycle hmem).startedAt
    obtain ⟨t', ht'⟩ := (hformed later hlater).startedAt
    have hsame : statusOf? later = statusOf? cycle := by
      rw [hasStatus, beq_iff_eq] at hstatus'
      rw [hstatus', hstatus]
    have hstarted : instantAt cycle "startedAt" ≤ instantAt later "startedAt" := by
      rw [← not_lt, textAt_lt_iff ht' ht, Int.not_lt] at hle
      exact hle
    refine ⟨later, List.mem_flatMap.2 ⟨status, status_mem_cycleQueryStatuses status, hquery⟩, hsame, hstarted, ?_⟩
    intro hover
    refine h.completedAt_le hmem hlater hover ?_ hstarted
    rw [hasStatus, hsame]
    exact hover
  startedAt_inj cycle hmem other hother heq := List.inj_on_of_nodup_map h.startedAt_nodup hmem hother heq
  completedAt_inj cycle hmem other hother hover hover' heq := by
    by_contra hne
    have hinterval := h.interval cycle hmem hover
    have hinterval' := h.interval other hother hover'
    obtain hbefore | hafter := h.disjoint cycle hmem other hother hover hover' hne
    · rw [heq] at hbefore
      exact absurd hbefore (Int.not_lt.2 hinterval')
    · rw [← heq] at hafter
      exact absurd hafter (Int.not_lt.2 hinterval)

/-- The ten latest rows of each status decide as the whole table does, an overflow included. -/
theorem decideInboundFlow_queryRecentCycles (table : List Value) (hformed : ∀ cycle ∈ table, WellFormed cycle)
    (h : OneByOne table) (employeeMatched : Bool) (now : Instant) (windowDays : Int) :
    decideInboundFlow employeeMatched (queryRecentCycles table) now windowDays =
      decideInboundFlow employeeMatched table now windowDays :=
  decideInboundFlow_eq_of_standFor (standFor_queryRecentCycles hformed h) hformed employeeMatched now windowDays

end

theorem isYear_januaryDay : minYear ≤ 2026 ∧ 2026 ≤ maxYear := by decide

theorem isMonth_januaryDay : 1 = 1 ∨ 1 = 12 := .inl rfl

theorem isDay_januaryDay (n : Nat) : 1 ≤ n % 31 + 1 ∧ n % 31 + 1 ≤ 31 := by omega

def januaryDay (n : Nat) : Datetime :=
  midnight 2026 1 (n % 31 + 1) isYear_januaryDay isMonth_januaryDay (isDay_januaryDay n)

/-- Eleven cycles, one a day. -/
def elevenDays : List Value := (List.range 11).map fun n => finished ("c" ++ toString n) (januaryDay n)

theorem januaryDay_lt : ∀ m < 11, ∀ n < m, (januaryDay n).instant < (januaryDay m).instant := by decide +kernel

theorem exists_day {cycle : Value} (h : cycle ∈ elevenDays) :
    ∃ n < 11, cycle = finished ("c" ++ toString n) (januaryDay n) := by
  obtain ⟨n, hn, rfl⟩ := List.mem_map.1 h
  exact ⟨n, List.mem_range.1 hn, rfl⟩

theorem startedAt_day (n : Nat) :
    instantAt (finished ("c" ++ toString n) (januaryDay n)) "startedAt" = (januaryDay n).instant :=
  (hasTime_startedAt rfl : HasTime (finished _ (januaryDay n)) "startedAt" (januaryDay n)).instantAt_eq

theorem completedAt_day (n : Nat) :
    instantAt (finished ("c" ++ toString n) (januaryDay n)) "completedAt" = (januaryDay n).instant :=
  instantAt_finished _ (rfl : IsWhole (januaryDay n))

theorem oneByOne_days : OneByOne elevenDays := by
  constructor
  · rw [elevenDays, List.map_map]
    refine List.Nodup.map_on (fun m hm n hn heq => ?_) List.nodup_range
    simp only [Function.comp_apply, startedAt_day] at heq
    rcases Nat.lt_trichotomy m n with hlt | hlt | hlt
    · exact absurd heq (januaryDay_lt n (List.mem_range.1 hn) m hlt).ne
    · exact hlt
    · exact absurd heq (januaryDay_lt m (List.mem_range.1 hm) n hlt).ne'
  · intro cycle hcycle _
    obtain ⟨n, -, rfl⟩ := exists_day hcycle
    rw [startedAt_day, completedAt_day]
  · intro cycle hcycle other hother _ _ hne
    obtain ⟨m, hm, rfl⟩ := exists_day hcycle
    obtain ⟨n, hn, rfl⟩ := exists_day hother
    rw [startedAt_day, startedAt_day, completedAt_day, completedAt_day]
    rcases Nat.lt_trichotomy m n with hlt | rfl | hlt
    · exact .inl (januaryDay_lt n hn m hlt)
    · exact absurd rfl hne
    · exact .inr (januaryDay_lt m hm n hlt)

/-- The query leaves the first of the eleven days out, and answers on the last of them as the table does. -/
theorem decideInboundFlow_queryRecentCycles_days :
    elevenDays.length = 11 ∧ (queryRecentCycles elevenDays).length = 10 ∧
      decideInboundFlow true (queryRecentCycles elevenDays) (januaryDay 10).instant 30 =
        decideInboundFlow true elevenDays (januaryDay 10).instant 30 := by
  refine ⟨rfl, ?_, decideInboundFlow_queryRecentCycles elevenDays ?_ oneByOne_days true (januaryDay 10).instant 30⟩
  · have hcounts : cycleQueryStatuses.map (fun status => (elevenDays.filter (hasStatus status)).length) =
        [0, 11, 0, 0] := by decide +kernel
    simp only [cycleQueryStatuses, List.map_cons, List.map_nil, List.cons.injEq] at hcounts
    obtain ⟨hrunning, hcompleted, htimeout, hfailed, -⟩ := hcounts
    simp [queryRecentCycles, queryByStatus, cycleQueryStatuses, List.length_insertionSort, hrunning, hcompleted, htimeout,
      hfailed]
  · intro cycle hcycle
    obtain ⟨n, -, rfl⟩ := exists_day hcycle
    exact wellFormed_finished (by simp) rfl

end CycleRecords

end Inbound

end SafetyConfirmation
