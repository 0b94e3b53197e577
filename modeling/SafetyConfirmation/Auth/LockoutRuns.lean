import SafetyConfirmation.Auth.Lockout
import SafetyConfirmation.Lib.StepMachine

/-!
# How long an account stays locked

The Lockout table over whole runs: reports of failures, logins and the expiry of rows, in the order of time. What was
recorded for an identifier since its last login is the row it has, after times so old that their row had expired. The
lock ends when the fifth newest failure leaves the window, and the rows are found only under the identifiers they were
recorded for.
-/

namespace SafetyConfirmation

namespace Lockout

open KeyedStore StepMachine

structure State where
  table : Table := ∅
  now : Int

inductive Label where
  | report (event : ReportEvent) (time : Int) (clientError : Bool)
  | login (event : TriggerEvent) (time : Int)
  | expire (userIdentifier : String) (time : Int)

namespace Label

def time : Label → Int
  | report _ time _ => time
  | login _ time => time
  | expire _ time => time

/-- What is done to the table. A row may be removed once its `expireAt` has passed. -/
def act (table : Table) : Label → Option Table
  | report event time clientError => some (reportFailure table time clientError event).2
  | login event time => some (postAuth table time event)
  | expire userIdentifier time =>
    if (table.lookup userIdentifier).any fun row => decide (row.expireAt < time) then some (table.set userIdentifier none)
    else none

/-- The time that the label records for an identifier. -/
def recordedAt (identifier : String) : Label → Option Int
  | report event time clientError =>
    if clientError = false ∧ event.userIdentifier? = some identifier then some time else none
  | _ => none

/-- A login of the identifier has succeeded. -/
def Succeeds (identifier : String) : Label → Prop
  | login event _ => event.userIdentifier = .ok identifier
  | _ => False

instance (identifier : String) : DecidablePred (Succeeds identifier)
  | login event _ =>
    match huser : event.userIdentifier with
    | .ok userIdentifier => decidable_of_iff (userIdentifier = identifier) (by simp [Succeeds, huser])
    | .error _ => .isFalse (by simp [Succeeds, huser])
  | report .. => inferInstanceAs (Decidable False)
  | expire .. => inferInstanceAs (Decidable False)

end Label

def step (s : State) (label : Label) : Option State :=
  if s.now ≤ label.time then (label.act s.table).map fun table => { table, now := label.time } else none

/-- The failures recorded for an identifier since it last logged in. -/
def recorded (identifier : String) (labels : List Label) : List Int :=
  labels.foldl (fun times label =>
    if label.Succeeds identifier then [] else times ++ (label.recordedAt identifier).toList) []

theorem recorded_append_singleton_of_succeeds {identifier : String} {labels : List Label} {label : Label}
    (h : label.Succeeds identifier) : recorded identifier (labels ++ [label]) = [] := by
  rw [recorded, List.foldl_append]
  exact if_pos h

theorem recorded_append_singleton {identifier : String} {labels : List Label} {label : Label}
    (h : ¬ label.Succeeds identifier) :
    recorded identifier (labels ++ [label]) = recorded identifier labels ++ (label.recordedAt identifier).toList := by
  rw [recorded, List.foldl_append]
  exact if_neg h

/-! ### What a step does to the row of an identifier -/

/-- A report changes the table when it names an identifier and its update is carried out. -/
theorem reportFailure_snd (table : Table) (now : Int) (clientError : Bool) (event : ReportEvent) :
    (reportFailure table now clientError event).2 =
      match event.userIdentifier? with
      | some userIdentifier => if clientError then table else table.write userIdentifier (recordFailure now)
      | none => table := by
  rw [reportFailure, ReportEvent.userIdentifier?]
  by_cases hroute : event.httpMethod = "POST" ∧ event.resource = "/auth/record-failure"
  · rw [if_pos hroute, if_neg (by simp [hroute])]
    cases parseBody event.body with
    | error e => rfl
    | ok body =>
      dsimp only
      cases ((body.get? "userIdentifier").bind Value.asStr?).filter Employee.emailRe with
      | none => rfl
      | some userIdentifier =>
        dsimp only
        split <;> rfl
  · rw [if_neg hroute, if_pos (by rwa [not_and_or] at hroute)]

theorem lookup_reportFailure {identifier : String} {table : Table} {now : Int} {clientError : Bool} {event : ReportEvent} :
    (reportFailure table now clientError event).2.lookup identifier =
      if clientError = false ∧ event.userIdentifier? = some identifier then
        (recordFailure now).run (table.lookup identifier)
      else table.lookup identifier := by
  rw [reportFailure_snd]
  cases event.userIdentifier? with
  | none => simp
  | some userIdentifier =>
    cases clientError with
    | true => simp
    | false =>
      simp only [Bool.false_eq_true, if_false, Option.some.injEq, true_and]
      by_cases hsame : userIdentifier = identifier
      · subst hsame
        rw [if_pos rfl, Store.lookup_write_self]
      · rw [if_neg hsame, Store.lookup_write_ne _ _ (Ne.symm hsame)]

theorem lookup_postAuth_of_eq {identifier : String} {table : Table} {now : Int} {event : TriggerEvent}
    (h : event.userIdentifier = .ok identifier) :
    (postAuth table now event).lookup identifier = (clearLockout now).run (table.lookup identifier) := by
  rw [postAuth, h]
  exact Store.lookup_write_self ..

theorem lookup_postAuth_of_ne {identifier : String} {table : Table} {now : Int} {event : TriggerEvent}
    (h : event.userIdentifier ≠ .ok identifier) : (postAuth table now event).lookup identifier = table.lookup identifier := by
  rw [postAuth]
  cases huser : event.userIdentifier with
  | error e => rfl
  | ok userIdentifier =>
    apply Store.lookup_write_ne
    intro heq
    exact h (heq ▸ huser)

/-- All that a step can do to the row of one identifier. -/
inductive RowStep (identifier : String) (time : Int) (label : Label) (row : Option Row) : Option Row → Prop where
  | record (hrecorded : label.recordedAt identifier = some time) (hopen : ¬ label.Succeeds identifier) :
    RowStep identifier time label row ((recordFailure time).run row)
  | clear (hsuccess : label.Succeeds identifier) : RowStep identifier time label row ((clearLockout time).run row)
  | expire (hexpired : ∀ r, row = some r → r.expireAt < time) (hrecorded : label.recordedAt identifier = none)
    (hopen : ¬ label.Succeeds identifier) : RowStep identifier time label row none
  | keep (hrecorded : label.recordedAt identifier = none) (hopen : ¬ label.Succeeds identifier) :
    RowStep identifier time label row row

theorem step_cases {s t : State} {label : Label} (h : step s label = some t) (identifier : String) :
    s.now ≤ t.now ∧ RowStep identifier t.now label (s.table.lookup identifier) (t.table.lookup identifier) := by
  rw [step] at h
  split at h
  · rename_i hnow
    obtain ⟨table, hact, rfl⟩ := Option.map_eq_some_iff.1 h
    refine ⟨hnow, ?_⟩
    cases label with
    | report event time clientError =>
      cases hact
      dsimp only [Label.time]
      rw [lookup_reportFailure]
      split
      · rename_i hrecord
        exact .record (if_pos hrecord) (fun h => h)
      · rename_i hother
        exact .keep (if_neg hother) (fun h => h)
    | login event time =>
      cases hact
      dsimp only [Label.time]
      by_cases huser : event.userIdentifier = .ok identifier
      · rw [lookup_postAuth_of_eq huser]
        exact .clear huser
      · rw [lookup_postAuth_of_ne huser]
        exact .keep rfl huser
    | expire userIdentifier time =>
      rw [Label.act] at hact
      split at hact
      · rename_i hexpired
        cases hact
        dsimp only [Label.time]
        rw [Store.lookup_set]
        split
        · rename_i hsame
          subst hsame
          refine .expire (fun r hr => ?_) rfl (fun h => h)
          rw [hr] at hexpired
          exact of_decide_eq_true hexpired
        · exact .keep rfl (fun h => h)
      · cases hact
  · cases h

/-- Failures are recorded only for identifiers that look like an e-mail address. -/
theorem emailRe_of_recordedAt {identifier : String} {label : Label} {time : Int}
    (h : label.recordedAt identifier = some time) : Employee.emailRe identifier = true := by
  cases label with
  | report event time clientError =>
    rw [Label.recordedAt] at h
    split at h
    · rename_i hreport
      have huser := hreport.2
      rw [ReportEvent.userIdentifier?] at huser
      split at huser
      · split at huser
        · exact (Option.filter_eq_some_iff.1 huser).2
        · cases huser
      · cases huser
    · cases h
  | login event time => cases h
  | expire userIdentifier time => cases h

/-- Rows are made only under such identifiers. -/
theorem lookup_eq_none_of_not_email {identifier : String} (hemail : Employee.emailRe identifier = false) {start : Int}
    {labels : List Label} {s : State} (hrun : exec step { now := start } labels = some s) :
    s.table.lookup identifier = none := by
  refine @invariant _ _ step (fun s => s.table.lookup identifier = none) ?_ _ _ _ rfl hrun
  intro s label t hnone hstep
  obtain ⟨-, hrow⟩ := step_cases hstep identifier
  rw [hnone] at hrow
  generalize t.table.lookup identifier = row at hrow
  cases hrow with
  | record hrecorded hopen =>
    rw [emailRe_of_recordedAt hrecorded] at hemail
    cases hemail
  | clear hsuccess => rfl
  | expire hexpired hrecorded hopen => rfl
  | keep hrecorded hopen => rfl

/-! ### The row and what was recorded -/

/-- The row of an identifier against the failures recorded for it: it lacks only times whose row had expired. -/
structure RowInvariant (times : List Int) (row : Option Row) (now : Int) : Prop where
  /-- What the row still has, after what was removed. -/
  split : ∃ dropped, times = dropped ++ (row.map Row.failedAts).getD [] ∧ ∀ x ∈ dropped, x + 1800 < now
  past : ∀ x ∈ times, x ≤ now
  sorted : times.Pairwise (· ≤ ·)
  expiry : ∀ r, row = some r → ∀ x ∈ r.failedAts, x + 1800 ≤ r.expireAt

theorem RowInvariant.later {times : List Int} {row : Option Row} {now later : Int} (h : RowInvariant times row now)
    (hlater : now ≤ later) : RowInvariant times row later := by
  obtain ⟨dropped, htimes, hdropped⟩ := h.split
  exact {
    split := ⟨dropped, htimes, fun x hx => lt_of_lt_of_le (hdropped x hx) hlater⟩
    past := fun x hx => le_trans (h.past x hx) hlater
    sorted := h.sorted
    expiry := h.expiry }

theorem RowInvariant.record {times : List Int} {row : Option Row} {now : Int} (h : RowInvariant times row now) :
    RowInvariant (times ++ [now]) ((recordFailure now).run row) now := by
  obtain ⟨dropped, htimes, hdropped⟩ := h.split
  refine {
    split := ⟨dropped, ?_, hdropped⟩
    past := ?_
    sorted := ?_
    expiry := ?_ }
  · rw [htimes, List.append_assoc]
    rfl
  · intro x hx
    obtain hx | hx := List.mem_append.1 hx
    · exact h.past x hx
    · exact le_of_eq (List.mem_singleton.1 hx)
  · rw [List.pairwise_append]
    refine ⟨h.sorted, List.pairwise_singleton _ _, fun x hx y hy => ?_⟩
    rw [List.mem_singleton.1 hy]
    exact h.past x hx
  · intro r hr x hx
    cases hr
    have hle : x ≤ now := by
      obtain hx | hx := List.mem_append.1 hx
      · apply h.past x
        rw [htimes]
        exact List.mem_append_right _ hx
      · exact le_of_eq (List.mem_singleton.1 hx)
    show x + 1800 ≤ now + 1800
    omega

theorem RowInvariant.clear {row : Option Row} {now : Int} : RowInvariant [] ((clearLockout now).run row) now := by
  have hempty : ∀ r, (clearLockout now).run row = some r → r.failedAts = [] := by
    intro r hr
    cases row with
    | none => cases hr
    | some old =>
      cases hr
      rfl
  refine {
    split := ⟨[], ?_, fun x hx => (List.not_mem_nil hx).elim⟩
    past := fun x hx => (List.not_mem_nil hx).elim
    sorted := .nil
    expiry := fun r hr x hx => ?_ }
  · cases hrow : (clearLockout now).run row with
    | none => rfl
    | some r => simpa using hempty r hrow
  · rw [hempty r hr] at hx
    exact (List.not_mem_nil hx).elim

theorem RowInvariant.expire {times : List Int} {row : Option Row} {now : Int} (h : RowInvariant times row now)
    (hexpired : ∀ r, row = some r → r.expireAt < now) : RowInvariant times none now := by
  obtain ⟨dropped, htimes, hdropped⟩ := h.split
  refine {
    split := ⟨times, (List.append_nil _).symm, fun x hx => ?_⟩
    past := h.past
    sorted := h.sorted
    expiry := fun r hr => nomatch hr }
  rw [htimes] at hx
  obtain hx | hx := List.mem_append.1 hx
  · exact hdropped x hx
  · cases hrow : row with
    | none =>
      rw [hrow] at hx
      exact (List.not_mem_nil hx).elim
    | some r =>
      rw [hrow] at hx
      exact lt_of_le_of_lt (h.expiry r hrow x hx) (hexpired r hrow)

/-- In every run the row of an identifier lacks only times whose row had expired. -/
theorem rowInvariant_of_run {start : Int} {labels : List Label} {s : State}
    (hrun : exec step { now := start } labels = some s) (identifier : String) :
    RowInvariant (recorded identifier labels) (s.table.lookup identifier) s.now := by
  refine @run_induction _ _ step { now := start }
    (fun labels s => RowInvariant (recorded identifier labels) (s.table.lookup identifier) s.now) ?_ ?_ _ _ hrun
  · exact {
      split := ⟨[], rfl, fun x hx => (List.not_mem_nil hx).elim⟩
      past := fun x hx => (List.not_mem_nil hx).elim
      sorted := .nil
      expiry := fun r hr => nomatch hr }
  · intro labels s label t _ hinv hstep
    obtain ⟨hnow, hrow⟩ := step_cases hstep identifier
    have hlater := hinv.later hnow
    generalize t.table.lookup identifier = row at hrow ⊢
    cases hrow with
    | record hrecorded hopen =>
      rw [recorded_append_singleton hopen, hrecorded]
      exact hlater.record
    | clear hsuccess =>
      rw [recorded_append_singleton_of_succeeds hsuccess]
      exact RowInvariant.clear
    | expire hexpired hrecorded hopen =>
      rw [recorded_append_singleton hopen, hrecorded, Option.toList_none, List.append_nil]
      exact hlater.expire hexpired
    | keep hrecorded hopen =>
      rw [recorded_append_singleton hopen, hrecorded, Option.toList_none, List.append_nil]
      exact hlater

/-- How many of the recorded failures are younger than half an hour is read off the row. -/
theorem RowInvariant.countP_eq {times : List Int} {row : Option Row} {now u : Int} (h : RowInvariant times row now)
    (hu : now ≤ u) : ((row.map Row.failedAts).getD []).countP (fun x => decide (u - 1800 < x)) =
      times.countP fun x => decide (u - 1800 < x) := by
  obtain ⟨dropped, htimes, hdropped⟩ := h.split
  have hold : dropped.countP (fun x => decide (u - 1800 < x)) = 0 := by
    apply List.countP_eq_zero.2
    intro x hx
    have hlt := hdropped x hx
    simp only [decide_eq_true_eq]
    omega
  rw [htimes, List.countP_append, hold, Nat.zero_add]

theorem recorded_append_of_open {identifier : String} {before labels : List Label}
    (hopen : ∀ label ∈ labels, ¬ label.Succeeds identifier) :
    recorded identifier (before ++ labels) = recorded identifier before ++ labels.filterMap (Label.recordedAt identifier) := by
  induction labels using List.reverseRecOn with
  | nil => simp
  | append_singleton labels label ih =>
    obtain ⟨hlabels, hlabel⟩ := List.forall_mem_append.1 hopen
    rw [← List.append_assoc, recorded_append_singleton (hlabel label List.mem_cons_self), ih hlabels, List.append_assoc,
      List.filterMap_append]
    cases hrecorded : label.recordedAt identifier <;> simp [hrecorded]

theorem exists_of_mem_recorded {identifier : String} {labels : List Label} {x : Int}
    (h : x ∈ recorded identifier labels) : ∃ label ∈ labels, label.recordedAt identifier = some x := by
  induction labels using List.reverseRecOn with
  | nil => exact (List.not_mem_nil h).elim
  | append_singleton labels label ih =>
    by_cases hsuccess : label.Succeeds identifier
    · rw [recorded_append_singleton_of_succeeds hsuccess] at h
      exact (List.not_mem_nil h).elim
    · rw [recorded_append_singleton hsuccess, List.mem_append, Option.mem_toList] at h
      obtain h | h := h
      · obtain ⟨label', hmem, hrecorded⟩ := ih h
        exact ⟨label', List.mem_append_left _ hmem, hrecorded⟩
      · exact ⟨label, List.mem_append_right _ List.mem_cons_self, h⟩

theorem ne_empty_of_mem_recorded {identifier : String} {labels : List Label} {x : Int}
    (h : x ∈ recorded identifier labels) : identifier ≠ "" := by
  obtain ⟨label, -, hrecorded⟩ := exists_of_mem_recorded h
  have hemail := emailRe_of_recordedAt hrecorded
  intro hempty
  rw [hempty] at hemail
  exact absurd hemail (by decide)

/-- Without further failures nothing new is recorded. -/
theorem recorded_append_of_quiet {identifier : String} {before labels : List Label}
    (hquiet : ∀ label ∈ labels, label.recordedAt identifier = none) :
    recorded identifier (before ++ labels) = recorded identifier before ∨ recorded identifier (before ++ labels) = [] := by
  induction labels using List.reverseRecOn with
  | nil => simp
  | append_singleton labels label ih =>
    obtain ⟨hlabels, hlabel⟩ := List.forall_mem_append.1 hquiet
    rw [← List.append_assoc]
    by_cases hsuccess : label.Succeeds identifier
    · exact .inr (recorded_append_singleton_of_succeeds hsuccess)
    · rw [recorded_append_singleton hsuccess, hlabel label List.mem_cons_self, Option.toList_none, List.append_nil]
      exact ih hlabels

theorem preAuth_eq_ok {table : Table} {now : Int} {event : TriggerEvent} {userIdentifier : String}
    (hid : event.userIdentifier = .ok userIdentifier)
    (hfew : (failedAts table userIdentifier).countP (fun x => decide (now - 1800 < x)) < 5) :
    preAuth table now event = .ok event := by
  have hopen := (preAuth_eq_denied_iff hid).not.2 (Nat.not_le.2 hfew)
  rw [preAuth, hid] at hopen ⊢
  dsimp only [Except.bind, bind, pure, Except.pure] at hopen ⊢
  split at hopen
  · exact absurd rfl hopen
  · rename_i hunlocked
    rw [if_neg hunlocked]

/-! ### The end of the lock -/

/-- The newest five of some times, with the last of them at `t` and all of them in the half hour before it. -/
structure NewestFive (times : List Int) (t : Int) (five : List Int) : Prop where
  suffix : five <:+ times
  length : five.length = 5
  window : ∀ x ∈ five, t - 1800 < x ∧ x ≤ t
  newest : t ∈ five

/-- From `t` on attempts are denied before the limit unless a login succeeds, and let in after it unless failures follow. -/
structure LockedUntil (s : State) (identifier : String) (t limit : Int) : Prop where
  denied : ∀ labels s', exec step s labels = some s' → (∀ label ∈ labels, ¬ label.Succeeds identifier) →
    ∀ u event, s'.now ≤ u → t ≤ u → u < limit → event.userIdentifier = .ok identifier →
      preAuth s'.table u event = .error permissionError
  ends : ∀ labels s', exec step s labels = some s' → (∀ label ∈ labels, label.recordedAt identifier = none) →
    ∀ u event, s'.now ≤ u → limit ≤ u → event.userIdentifier = .ok identifier → preAuth s'.table u event = .ok event

/-- The lock lasts half an hour from `t` on. -/
abbrev LockLasts (s : State) (identifier : String) (t : Int) : Prop := LockedUntil s identifier t (t + 1800)

theorem countP_failedAts {start : Int} {labels : List Label} {s : State}
    (hrun : exec step { now := start } labels = some s) (identifier : String) {u : Int} (hu : s.now ≤ u) :
    (failedAts s.table identifier).countP (fun x => decide (u - 1800 < x)) =
      (recorded identifier labels).countP fun x => decide (u - 1800 < x) :=
  (rowInvariant_of_run hrun identifier).countP_eq hu

/-- The lock ends when the fifth newest failure leaves the window. -/
theorem lockedUntil_of_newestFive {start : Int} {labels : List Label} {s : State}
    (hrun : exec step { now := start } labels = some s) {identifier : String} {oldest : Int} {four : List Int}
    (hfive : NewestFive (recorded identifier labels) s.now (oldest :: four)) :
    LockedUntil s identifier s.now (oldest + 1800) := by
  obtain ⟨older, holder⟩ := hfive.suffix
  have hsorted := (rowInvariant_of_run hrun identifier).sorted
  rw [← holder, List.pairwise_append, List.pairwise_cons] at hsorted
  obtain ⟨-, ⟨hleast, -⟩, hbefore⟩ := hsorted
  have hlength : four.length + 1 = 5 := hfive.length
  constructor
  · intro later s' hlater hopen u event hu ht hend hid
    have hrun' : exec step { now := start } (labels ++ later) = some s' := by rw [exec_append_of_eq hrun, hlater]
    rw [preAuth_eq_denied_iff hid, countP_failedAts hrun' identifier hu, recorded_append_of_open hopen, ← holder,
      List.countP_append, List.countP_append]
    have hall : (oldest :: four).countP (fun x => decide (u - 1800 < x)) = four.length + 1 := by
      apply List.countP_eq_length.2
      intro x hx
      apply decide_eq_true
      obtain rfl | hx := List.mem_cons.1 hx
      · omega
      · have hle := hleast x hx
        omega
    omega
  · intro later s' hlater hquiet u event hu hend hid
    have hrun' : exec step { now := start } (labels ++ later) = some s' := by rw [exec_append_of_eq hrun, hlater]
    apply preAuth_eq_ok hid
    rw [countP_failedAts hrun' identifier hu]
    obtain hsame | hnone := recorded_append_of_quiet hquiet
    · have hold : older.countP (fun x => decide (u - 1800 < x)) = 0 := by
        apply List.countP_eq_zero.2
        intro x hx
        have hle := hbefore x hx oldest List.mem_cons_self
        simp only [decide_eq_true_eq]
        omega
      have hrest : four.countP (fun x => decide (u - 1800 < x)) ≤ four.length := List.countP_le_length
      rw [hsame, ← holder, List.countP_append, hold, List.countP_cons, if_neg (by simp only [decide_eq_true_eq]; omega)]
      omega
    · rw [hnone]
      exact Nat.zero_lt_succ 4

/-- The lock ends when the fifth newest failure leaves the window: half an hour from the newest one exactly when all five
failures were at that time. -/
theorem lockLasts_iff {start : Int} {labels : List Label} {s : State}
    (hrun : exec step { now := start } labels = some s) {identifier : String} {five : List Int}
    (hfive : NewestFive (recorded identifier labels) s.now five) :
    (∀ oldest ∈ five.head?, LockedUntil s identifier s.now (oldest + 1800)) ∧
      (LockLasts s identifier s.now ↔ ∀ x ∈ five, x = s.now) := by
  obtain ⟨oldest, four, rfl⟩ : ∃ oldest four, five = oldest :: four := by
    cases hlist : five with
    | nil => exact absurd hfive.length (by simp [hlist])
    | cons oldest four => exact ⟨oldest, four, rfl⟩
  have huntil := lockedUntil_of_newestFive hrun hfive
  have hmem : oldest ∈ recorded identifier labels := hfive.suffix.subset List.mem_cons_self
  have hid : (TriggerEvent.mk (.str identifier) []).userIdentifier = .ok identifier := if_neg (ne_empty_of_mem_recorded hmem)
  have hquiet : ∀ label ∈ ([] : List Label), label.recordedAt identifier = none := fun label h => (List.not_mem_nil h).elim
  have hopen : ∀ label ∈ ([] : List Label), ¬ label.Succeeds identifier := fun label h => (List.not_mem_nil h).elim
  have hsorted := (rowInvariant_of_run hrun identifier).sorted
  obtain ⟨older, holder⟩ := hfive.suffix
  rw [← holder, List.pairwise_append, List.pairwise_cons] at hsorted
  obtain ⟨-, ⟨hleast, -⟩, -⟩ := hsorted
  have hwindow := hfive.window oldest List.mem_cons_self
  refine ⟨fun oldest' holdest => Option.some.inj holdest ▸ huntil, ?_⟩
  constructor
  · intro hlasts
    -- an earlier oldest failure would open the account while the lock lasts
    have hsame : oldest = s.now := by
      by_contra hne
      have hearlier := huntil.ends [] s rfl hquiet (oldest + 1800) _ (by omega) le_rfl hid
      rw [hlasts.denied [] s rfl hopen (oldest + 1800) _ (by omega) (by omega) (by omega) hid] at hearlier
      cases hearlier
    intro x hx
    have hbound := (hfive.window x hx).2
    obtain rfl | hx := List.mem_cons.1 hx
    · exact hsame
    · have hle := hleast x hx
      omega
  · intro hsame
    rwa [hsame oldest List.mem_cons_self] at huntil

def failuresOf (userIdentifier : String) (times : List Int) : List Label :=
  times.map fun time =>
    .report { httpMethod := "POST", resource := "/auth/record-failure",
              body := .json (.dict [("userIdentifier", .str userIdentifier)]) } time false

theorem lockLasts_of_burst : ∃ s, exec step { now := 0 } (failuresOf "a@b.co" [7, 7, 7, 7, 7]) = some s ∧
    LockLasts s "a@b.co" s.now := by
  have hrun : exec step { now := 0 } (failuresOf "a@b.co" [7, 7, 7, 7, 7]) =
    some { table := AList.insert "a@b.co" { failedAts := [7, 7, 7, 7, 7], expireAt := 1807 } ∅, now := 7 } := rfl
  have hfive : NewestFive (recorded "a@b.co" (failuresOf "a@b.co" [7, 7, 7, 7, 7])) 7 [7, 7, 7, 7, 7] :=
    ⟨by decide, rfl, by decide, by decide⟩
  exact ⟨_, hrun, (lockLasts_iff hrun hfive).2.2 (by decide)⟩

/-- Failures at 0, 400, 800, 1200 and 1600 lock the account at 1600, and at 1800 it is open again. -/
theorem lock_ends_early : ∃ s, exec step { now := 0 } (failuresOf "a@b.co" [0, 400, 800, 1200, 1600]) = some s ∧
    NewestFive (recorded "a@b.co" (failuresOf "a@b.co" [0, 400, 800, 1200, 1600])) s.now [0, 400, 800, 1200, 1600] ∧
    preAuth s.table 1600 { userName := .str "a@b.co" } = .error permissionError ∧
    preAuth s.table 1800 { userName := .str "a@b.co" } = .ok { userName := .str "a@b.co" } ∧
    ¬ LockLasts s "a@b.co" s.now := by
  have hrun : exec step { now := 0 } (failuresOf "a@b.co" [0, 400, 800, 1200, 1600]) = some
    { table := AList.insert "a@b.co" { failedAts := [0, 400, 800, 1200, 1600], expireAt := 3400 } ∅, now := 1600 } := rfl
  have hfive : NewestFive (recorded "a@b.co" (failuresOf "a@b.co" [0, 400, 800, 1200, 1600])) 1600
      [0, 400, 800, 1200, 1600] := ⟨by decide, rfl, by decide, by decide⟩
  refine ⟨_, hrun, hfive, rfl, rfl, fun hlasts => ?_⟩
  have hdenied := hlasts.denied [] _ rfl (by simp) 1800 { userName := .str "a@b.co" } (by decide) (by decide) (by decide) rfl
  cases hdenied

/-! ### The accounts of the pool -/

/-- `[0-9a-f]`. -/
def isHexDigit (c : Char) : Bool := ('0' ≤ c && c ≤ '9') || ('a' ≤ c && c ≤ 'f')

/-- The form of the user names that a pool generates, such as `6b1c2e9a-0d4f-4c57-9a3e-2f8b7d5c1e60`. -/
def isUuid (userName : String) : Bool :=
  (userName.toList.map fun c => if isHexDigit c then '0' else c) == "00000000-0000-0000-0000-000000000000".toList

/-- An account of a pool whose members sign in with their e-mail address. -/
structure Account where
  email : String
  userName : String
  generated : isUuid userName = true

/-- What a trigger is told of an attempt to log in. -/
def Account.loginEvent (account : Account) : TriggerEvent where
  userName := .str account.userName
  userAttributes := [("email", account.email)]

/-- From now on, for as long as all of the failures lie in the window, attempts of the account are denied. -/
def LocksOut (s : State) (account : Account) (five : List Int) : Prop :=
  ∀ u, s.now ≤ u → (∀ x ∈ five, u - 1800 < x) → preAuth s.table u account.loginEvent = .error permissionError

theorem Account.emailRe_userName (account : Account) : Employee.emailRe account.userName = false := by
  rw [Bool.eq_false_iff]
  intro hemail
  have hshape := eq_of_beq account.generated
  have hmem := List.mem_map_of_mem (Employee.at_mem_of_emailRe hemail) (f := fun c => if isHexDigit c then '0' else c)
  rw [hshape] at hmem
  exact absurd hmem (by decide)

theorem Account.userIdentifier_loginEvent (account : Account) :
    account.loginEvent.userIdentifier = .ok account.userName := by
  apply if_neg
  intro hempty
  have hgenerated := account.generated
  rw [hempty] at hgenerated
  exact absurd hgenerated (by decide)

/-- No run has a row under the user name of an account, so that every attempt is let in. -/
theorem Account.preAuth_loginEvent {start : Int} {labels : List Label} {s : State}
    (hrun : exec step { now := start } labels = some s) (account : Account) (u : Int) :
    preAuth s.table u account.loginEvent = .ok account.loginEvent := by
  apply preAuth_eq_ok account.userIdentifier_loginEvent
  rw [failedAts, lookup_eq_none_of_not_email account.emailRe_userName hrun]
  exact Nat.zero_lt_succ 4

/-- Five failures for the e-mail address of an account never lock the account. -/
theorem not_locksOut {start : Int} {labels : List Label} {s : State} (hrun : exec step { now := start } labels = some s)
    (account : Account) {five : List Int} (hfive : NewestFive (recorded account.email labels) s.now five) :
    ¬ LocksOut s account five := by
  intro hlocks
  have hdenied := hlocks s.now le_rfl fun x hx => (hfive.window x hx).1
  rw [account.preAuth_loginEvent hrun] at hdenied
  cases hdenied

def sampleAccount : Account where
  email := "a@b.co"
  userName := "6b1c2e9a-0d4f-4c57-9a3e-2f8b7d5c1e60"
  generated := by decide

theorem not_locksOut_sampleAccount : ∃ s, exec step { now := 0 } (failuresOf "a@b.co" [7, 7, 7, 7, 7]) = some s ∧
    ¬ LocksOut s sampleAccount [7, 7, 7, 7, 7] := by
  have hrun : exec step { now := 0 } (failuresOf "a@b.co" [7, 7, 7, 7, 7]) =
    some { table := AList.insert "a@b.co" { failedAts := [7, 7, 7, 7, 7], expireAt := 1807 } ∅, now := 7 } := rfl
  exact ⟨_, hrun, not_locksOut hrun sampleAccount ⟨by decide, rfl, by decide, by decide⟩⟩

/-- Five failures are recorded at 7, and the account logs in at 8. -/
theorem sampleAccount_let_in : ∃ s, exec step { now := 0 } (failuresOf "a@b.co" [7, 7, 7, 7, 7]) = some s ∧
    NewestFive (recorded sampleAccount.email (failuresOf "a@b.co" [7, 7, 7, 7, 7])) s.now [7, 7, 7, 7, 7] ∧
    preAuth s.table 8 sampleAccount.loginEvent = .ok sampleAccount.loginEvent := by
  have hrun : exec step { now := 0 } (failuresOf "a@b.co" [7, 7, 7, 7, 7]) =
    some { table := AList.insert "a@b.co" { failedAts := [7, 7, 7, 7, 7], expireAt := 1807 } ∅, now := 7 } := rfl
  exact ⟨_, hrun, ⟨by decide, rfl, by decide, by decide⟩, rfl⟩

end Lockout

end SafetyConfirmation
