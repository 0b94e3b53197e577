import SafetyConfirmation.Cycle.Finalize
import Mathlib.Data.List.Forall2

/-!
# What a timeout leaves open

Three sets of statuses meet in TIMER_60MIN: `apply_timeout` lists the rows in one of them, the condition of each write
tests another, and the completion test a third. Between them they settle the rows with a status of the vocabulary. A
row that has no status, or one that nobody knows, is in none of the three, and `apply_timeout` passes over it.
-/

namespace SafetyConfirmation

open Checks

namespace ResponseItem

/-- The status of the vocabulary that the row has. -/
def known? (row : ResponseItem) : Option VoiceStatus := (row.voiceStatus.bind Value.asStr?).bind VoiceStatus.ofName?

def closed (row : ResponseItem) : ResponseItem :=
  { row with voiceStatus := some (.str VoiceStatus.unreachable.name) }

/-- The condition of `_force_response_unreachable`. -/
def isOpen (row : ResponseItem) : Bool :=
  row.voiceStatus.bind Value.asStr? == some VoiceStatus.pending.name ||
    row.voiceStatus.bind Value.asStr? == some VoiceStatus.other.name

def IsAt (employeeId : String) (row : ResponseItem) : Prop := row.employeeId.bind Value.asStr? = some employeeId

instance (employeeId : String) (row : ResponseItem) : Decidable (row.IsAt employeeId) :=
  inferInstanceAs (Decidable (_ = _))

end ResponseItem

namespace Finalize

/-- `_force_response_unreachable` on the rows of a cycle. -/
def forceRowUnreachable (employeeId : String) (rows : List ResponseItem) : List ResponseItem :=
  rows.map fun row => if row.IsAt employeeId ∧ row.isOpen = true then row.closed else row

def applyRewrites (rewrites : List (String × VoiceStatus)) (rows : List ResponseItem) : List ResponseItem :=
  rewrites.foldl (fun rows rewrite => forceRowUnreachable rewrite.1 rows) rows

/-- What a timeout makes of a row: a terminal one stays, and any other is `UNREACHABLE`. -/
def Settles (before after : ResponseItem) : Prop :=
  if before.known?.any VoiceStatus.isTerminal then after = before
  else after.voiceStatus = some (.str VoiceStatus.unreachable.name)

/-- A timeout of these rows raises, or leaves none of them open. -/
def TimeoutSettles (rows : List ResponseItem) : Prop :=
  (∃ message got, applyTimeout rows = .error (.typeError message got)) ∨
  ∃ rewrites, applyTimeout rows = .ok rewrites ∧ isCycleCompleted (applyRewrites rewrites rows) = .ok true ∧
    List.Forall₂ Settles rows (applyRewrites rewrites rows)

end Finalize

namespace ResponseItem

variable {row : ResponseItem}

/-- A status that no set can be asked about. -/
def IsUnhashable (row : ResponseItem) : Prop :=
  (∃ items, row.voiceStatus = some (.list items)) ∨ ∃ fields, row.voiceStatus = some (.dict fields)

/-- A row that `apply_timeout` refuses: its status is unhashable, or it is open and no employee is named. -/
def IsRefused (row : ResponseItem) : Prop :=
  row.IsUnhashable ∨ row.isOpen = true ∧ ∀ employeeId, row.employeeId = some (.str employeeId) → employeeId = ""

def HasKnownStatus (row : ResponseItem) : Prop := ∃ status : VoiceStatus, row.voiceStatus = some (.str status.name)

theorem hasKnownStatus_iff : row.HasKnownStatus ↔ ∃ status, row.known? = some status := by
  constructor
  · rintro ⟨status, hstatus⟩
    exact ⟨status, by simp [known?, hstatus, Value.asStr?]⟩
  · rintro ⟨status, hstatus⟩
    obtain ⟨s, hs, hname⟩ := Option.bind_eq_some_iff.1 hstatus
    obtain ⟨raw, hraw, hstr⟩ := Option.bind_eq_some_iff.1 hs
    refine ⟨status, ?_⟩
    rw [hraw, ← VoiceStatus.eq_name_of_ofName? hname]
    cases raw <;> cases hstr
    rfl

theorem isOpen_eq (row : ResponseItem) : row.isOpen = row.known?.any VoiceStatus.isRetryable := by
  rw [known?, isOpen]
  cases row.voiceStatus.bind Value.asStr? with
  | none => rfl
  | some s =>
    rw [Option.bind_some]
    cases hfound : VoiceStatus.ofName? s with
    | some status =>
      rw [VoiceStatus.eq_name_of_ofName? hfound]
      cases status <;> decide
    | none =>
      have hne : ∀ status : VoiceStatus, ¬ s = status.name := by
        rintro status rfl
        rw [VoiceStatus.ofName?_name] at hfound
        cases hfound
      simp [hne]

theorem known?_closed (row : ResponseItem) : row.closed.known? = some .unreachable := rfl

theorem isOpen_closed (row : ResponseItem) : row.closed.isOpen = false := by
  rw [isOpen_eq, known?_closed]
  rfl

theorem statusIn_of_hashable (h : ¬ row.IsUnhashable) (statuses : VoiceStatus → Bool) :
    Finalize.statusIn statuses row.voiceStatus = .ok (row.known?.any statuses) := by
  have hhashable : (row.voiceStatus.getD .none).requireHashable = .ok ⟨⟩ := by
    cases hstatus : row.voiceStatus with
    | none => rfl
    | some raw =>
      cases raw with
      | list items => exact absurd (.inl ⟨items, hstatus⟩) h
      | dict fields => exact absurd (.inr ⟨fields, hstatus⟩) h
      | _ => rfl
  rw [Finalize.statusIn, hhashable, ok_bind, known?]
  cases row.voiceStatus.bind Value.asStr? <;> rfl

theorem statusIn_of_isUnhashable (h : row.IsUnhashable) (statuses : VoiceStatus → Bool) :
    ∃ message, Finalize.statusIn statuses row.voiceStatus = .error (.typeError message) := by
  rcases h with ⟨items, hstatus⟩ | ⟨fields, hstatus⟩
  · exact ⟨_, by rw [hstatus]; rfl⟩
  · exact ⟨_, by rw [hstatus]; rfl⟩

theorem addressOf_eq_empty_iff :
    Finalize.addressOf row = "" ↔ ∀ employeeId, row.employeeId = some (.str employeeId) → employeeId = "" := by
  cases hid : row.employeeId with
  | none => simp [Finalize.addressOf, hid]
  | some raw => cases raw <;> simp [Finalize.addressOf, hid, Value.asStr?]

theorem isAt_addressOf (h : Finalize.addressOf row ≠ "") : row.IsAt (Finalize.addressOf row) := by
  rw [IsAt]
  rw [Finalize.addressOf] at h ⊢
  cases hid : row.employeeId.bind Value.asStr? with
  | none =>
    rw [hid] at h
    exact absurd rfl h
  | some employeeId => rfl

end ResponseItem

namespace Finalize

/-! ### What `apply_timeout` lists -/

theorem applyTimeoutFrom_of_not_refused (idx : Nat) {rows : List ResponseItem} (h : ∀ row ∈ rows, ¬ row.IsRefused) :
    applyTimeoutFrom idx rows =
      .ok ((rows.filter ResponseItem.isOpen).map fun row => (addressOf row, .unreachable)) := by
  induction rows generalizing idx with
  | nil => rfl
  | cons row rows ih =>
    obtain ⟨hrow, hrest⟩ := List.forall_mem_cons.1 h
    have hhashable : ¬ row.IsUnhashable := fun hstatus => hrow (.inl hstatus)
    rw [applyTimeoutFrom, row.statusIn_of_hashable hhashable, ← row.isOpen_eq, ok_bind, ih (idx + 1) hrest]
    cases hopen : row.isOpen with
    | true =>
      have haddress : addressOf row ≠ "" := fun hempty =>
        hrow (.inr ⟨hopen, ResponseItem.addressOf_eq_empty_iff.1 hempty⟩)
      rw [if_pos rfl, require_of haddress, ok_bind, ok_bind, List.filter_cons_of_pos hopen]
      rfl
    | false => rw [if_neg (by simp), List.filter_cons_of_neg (by simp [hopen])]

/-- The first refused row stops the loop, and the error is a TypeError whatever row it is. -/
theorem applyTimeoutFrom_of_refused (idx : Nat) {rows : List ResponseItem} (h : ∃ row ∈ rows, row.IsRefused) :
    ∃ message got, applyTimeoutFrom idx rows = .error (.typeError message got) := by
  induction rows generalizing idx with
  | nil =>
    obtain ⟨row, hrow, -⟩ := h
    exact (List.not_mem_nil hrow).elim
  | cons row rows ih =>
    rw [applyTimeoutFrom]
    by_cases hhashable : row.IsUnhashable
    · obtain ⟨message, herror⟩ := row.statusIn_of_isUnhashable hhashable VoiceStatus.isRetryable
      exact ⟨message, none, by rw [herror, error_bind]⟩
    rw [row.statusIn_of_hashable hhashable, ← row.isOpen_eq, ok_bind]
    by_cases hrefused : row.isOpen = true ∧ addressOf row = ""
    · rw [if_pos hrefused.1, require, if_neg (not_not_intro hrefused.2), error_bind]
      exact ⟨_, _, rfl⟩
    have hrest : ∃ other ∈ rows, other.IsRefused := by
      obtain ⟨other, hother, hbad⟩ := h
      rcases List.mem_cons.1 hother with rfl | hother
      · rcases hbad with hbad | ⟨hopen, hid⟩
        · exact absurd hbad hhashable
        · exact absurd ⟨hopen, ResponseItem.addressOf_eq_empty_iff.2 hid⟩ hrefused
      · exact ⟨other, hother, hbad⟩
    obtain ⟨message, got, herror⟩ := ih (idx + 1) hrest
    refine ⟨message, got, ?_⟩
    rw [herror]
    cases hopen : row.isOpen with
    | true =>
      have haddress : addressOf row ≠ "" := fun hempty => hrefused ⟨hopen, hempty⟩
      rw [if_pos rfl, require_of haddress, ok_bind, error_bind]
    | false => rw [if_neg (by simp)]

/-! ### What the writes leave -/

/-- A row is closed by the writes when it is open and one of them names it. -/
theorem applyRewrites_eq_map (rewrites : List (String × VoiceStatus)) (rows : List ResponseItem) :
    applyRewrites rewrites rows = rows.map fun row =>
      if (∃ rewrite ∈ rewrites, row.IsAt rewrite.1) ∧ row.isOpen = true then row.closed else row := by
  induction rewrites generalizing rows with
  | nil => simp [applyRewrites]
  | cons rewrite rewrites ih =>
    rw [applyRewrites, List.foldl_cons, ← applyRewrites, ih, forceRowUnreachable, List.map_map]
    refine List.map_congr_left fun row _ => ?_
    rw [Function.comp_apply]
    by_cases hhere : row.IsAt rewrite.1 ∧ row.isOpen = true
    · have hlisted : (∃ other ∈ rewrite :: rewrites, row.IsAt other.1) ∧ row.isOpen = true :=
        ⟨⟨rewrite, List.mem_cons_self, hhere.1⟩, hhere.2⟩
      rw [if_pos hhere, if_pos hlisted, if_neg (by simp [row.isOpen_closed])]
    · have hiff : ((∃ other ∈ rewrites, row.IsAt other.1) ∧ row.isOpen = true) ↔
          (∃ other ∈ rewrite :: rewrites, row.IsAt other.1) ∧ row.isOpen = true := by
        simp only [List.exists_mem_cons_iff]
        tauto
      rw [if_neg hhere]
      simp only [hiff]

/-- The rewrites of rows of which none is refused close every open row and touch no other. -/
theorem applyRewrites_of_not_refused {rows : List ResponseItem} (h : ∀ row ∈ rows, ¬ row.IsRefused) :
    applyRewrites ((rows.filter ResponseItem.isOpen).map fun row => (addressOf row, .unreachable)) rows =
      rows.map fun row => if row.isOpen = true then row.closed else row := by
  rw [applyRewrites_eq_map]
  refine List.map_congr_left fun row hrow => ?_
  by_cases hopen : row.isOpen = true
  · have haddress : addressOf row ≠ "" := fun hempty =>
      h row hrow (.inr ⟨hopen, ResponseItem.addressOf_eq_empty_iff.1 hempty⟩)
    have hlisted : ∃ rewrite ∈ (rows.filter ResponseItem.isOpen).map fun other =>
        (addressOf other, VoiceStatus.unreachable), row.IsAt rewrite.1 :=
      ⟨_, List.mem_map_of_mem (List.mem_filter.2 ⟨hrow, hopen⟩), ResponseItem.isAt_addressOf haddress⟩
    rw [if_pos ⟨hlisted, hopen⟩, if_pos hopen]
  · rw [if_neg fun hboth => hopen hboth.2, if_neg hopen]

theorem isCycleCompleted_of_hashable {rows : List ResponseItem} (h : ∀ row ∈ rows, ¬ row.IsUnhashable) :
    isCycleCompleted rows = .ok (rows.all fun row => row.known?.any VoiceStatus.isTerminal) := by
  induction rows with
  | nil => rfl
  | cons row rows ih =>
    obtain ⟨hrow, hrest⟩ := List.forall_mem_cons.1 h
    rw [isCycleCompleted, row.statusIn_of_hashable hrow, ok_bind, List.all_cons, ih hrest]
    cases row.known?.any VoiceStatus.isTerminal <;> rfl

/-! ### When a timeout settles its rows -/

/-- Closing an open row makes it terminal; a row of no known status is neither open nor terminal. -/
theorem terminal_after_iff (row : ResponseItem) :
    ((if row.isOpen = true then row.closed else row).known?.any VoiceStatus.isTerminal) = true ↔
      row.HasKnownStatus := by
  rw [ResponseItem.hasKnownStatus_iff]
  by_cases hopen : row.isOpen = true
  · rw [if_pos hopen, row.known?_closed]
    rw [row.isOpen_eq] at hopen
    obtain ⟨status, hstatus, -⟩ := (Option.any_eq_true _ _).1 hopen
    exact iff_of_true rfl ⟨status, hstatus⟩
  · rw [if_neg hopen]
    rw [row.isOpen_eq] at hopen
    cases hknown : row.known? with
    | none => simp
    | some status =>
      rw [hknown, Option.any_some, Bool.not_eq_true] at hopen
      simp [VoiceStatus.isTerminal_eq_not_isRetryable, hopen]

theorem settles_after {row : ResponseItem} (h : row.HasKnownStatus) :
    Settles row (if row.isOpen = true then row.closed else row) := by
  obtain ⟨status, hstatus⟩ := ResponseItem.hasKnownStatus_iff.1 h
  have hopen : row.isOpen = status.isRetryable := by
    rw [row.isOpen_eq, hstatus, Option.any_some]
  rw [Settles, hstatus, Option.any_some, VoiceStatus.isTerminal_eq_not_isRetryable, ← hopen]
  cases row.isOpen <;> rfl

/-- A timeout settles its rows exactly when it refuses one of them or each has a status of the vocabulary. -/
theorem timeoutSettles_iff (rows : List ResponseItem) :
    TimeoutSettles rows ↔ (∃ row ∈ rows, row.IsRefused) ∨ ∀ row ∈ rows, row.HasKnownStatus := by
  by_cases hrefused : ∃ row ∈ rows, row.IsRefused
  · exact iff_of_true (.inl (applyTimeoutFrom_of_refused 0 hrefused)) (.inl hrefused)
  have hnone : ∀ row ∈ rows, ¬ row.IsRefused := fun row hrow hbad => hrefused ⟨row, hrow, hbad⟩
  have hlisted : applyTimeout rows = .ok _ := applyTimeoutFrom_of_not_refused 0 hnone
  have hafter := applyRewrites_of_not_refused hnone
  have hhashable : ∀ row ∈ rows.map fun row => if row.isOpen = true then row.closed else row,
      ¬ row.IsUnhashable := by
    intro row hrow
    obtain ⟨before, hbefore, rfl⟩ := List.mem_map.1 hrow
    split
    · rintro (⟨items, hstatus⟩ | ⟨fields, hstatus⟩) <;> cases hstatus
    · exact fun hstatus => hnone before hbefore (.inl hstatus)
  rw [or_iff_right hrefused]
  constructor
  · rintro (⟨message, got, herror⟩ | ⟨rewrites, hok, hcompleted, -⟩)
    · rw [hlisted] at herror
      cases herror
    · rw [hlisted] at hok
      rw [← Except.ok.inj hok, hafter, isCycleCompleted_of_hashable hhashable, List.all_map] at hcompleted
      intro row hrow
      exact (terminal_after_iff row).1 (List.all_eq_true.1 (Except.ok.inj hcompleted) row hrow)
  · intro hknown
    refine .inr ⟨_, hlisted, ?_, ?_⟩
    · rw [hafter, isCycleCompleted_of_hashable hhashable, List.all_map]
      refine congrArg Except.ok (List.all_eq_true.2 fun row hrow => ?_)
      exact (terminal_after_iff row).2 (hknown row hrow)
    · rw [hafter, List.forall₂_map_right_iff, List.forall₂_same]
      exact fun row hrow => settles_after (hknown row hrow)

/-- A row that an update of another attribute created has no status: nothing is raised, and the row stays open. -/
theorem not_timeoutSettles : ¬ TimeoutSettles [{ employeeId := some (.str "e1") }] := by
  rintro (⟨message, got, herror⟩ | ⟨rewrites, hok, hcompleted, -⟩)
  · cases herror
  · obtain rfl : [] = rewrites := Except.ok.inj hok
    cases hcompleted

end Finalize

end SafetyConfirmation
