import Mathlib.Algebra.GroupWithZero.Nat
import SafetyConfirmation.Cycle.Finalize
import Mathlib.Algebra.BigOperators.Group.List.Basic

/-!
# The aggregates of a cycle agree

CycleFinalizer folds the Response rows of a cycle five times: the summary with its histogram, the number of pending
rows, the completion test and the SLA test. Each has its own defaults for what is missing and its own set of statuses.
On rows whose attempts are counts and whose statuses are strings, known ones or not, all of them are counts over one
reading of the row, and the equations between them are equations between counts.
-/

namespace SafetyConfirmation

open Checks

namespace Finalize

/-! ### The histogram -/

/-- `by_status.get(status, 0)`. -/
def countOf (status : Value) : List (Value × Nat) → Nat
  | [] => 0
  | (key, count) :: rest => if sameKey key status then count else countOf status rest

/-- Keys are one exactly when they agree as strings and as numbers. -/
theorem sameKey_iff {left right : Value} :
    sameKey left right = true ↔ left.asStr? = right.asStr? ∧ left.number? = right.number? := by
  cases left <;> cases right <;> simp [sameKey, Value.asStr?, Value.number?]

theorem sameKey_congr {key status : Value} (h : sameKey key status = true) (other : Value) :
    sameKey key other = sameKey status other := by
  obtain ⟨hstr, hnumber⟩ := sameKey_iff.1 h
  rw [Bool.eq_iff_iff, sameKey_iff, sameKey_iff, hstr, hnumber]

/-- Counting a status once more adds one under its key and nothing under any other. -/
theorem countOf_increment (key status : Value) (byStatus : List (Value × Nat)) :
    countOf key (increment status byStatus) = countOf key byStatus + if sameKey status key then 1 else 0 := by
  induction byStatus with
  | nil => simp [increment, countOf]
  | cons entry rest ih =>
    obtain ⟨other, count⟩ := entry
    rw [increment]
    by_cases hhere : sameKey other status = true
    · rw [if_pos hhere, countOf, countOf, sameKey_congr hhere]
      split <;> rfl
    · rw [if_neg hhere, countOf, countOf, ih]
      by_cases hkey : sameKey other key = true
      · have hnot : ¬ sameKey status key = true := by
          intro h
          obtain ⟨hother, hotherNumber⟩ := sameKey_iff.1 hkey
          obtain ⟨hstatus, hstatusNumber⟩ := sameKey_iff.1 h
          exact hhere (sameKey_iff.2 ⟨hother.trans hstatus.symm, hotherNumber.trans hstatusNumber.symm⟩)
        rw [if_pos hkey, if_pos hkey, if_neg hnot, Nat.add_zero]
      · rw [if_neg hkey, if_neg hkey]

theorem sum_increment (status : Value) (byStatus : List (Value × Nat)) :
    ((increment status byStatus).map Prod.snd).sum = (byStatus.map Prod.snd).sum + 1 := by
  induction byStatus with
  | nil => rfl
  | cons entry rest ih =>
    obtain ⟨key, count⟩ := entry
    rw [increment]
    split
    · simp only [List.map_cons, List.sum_cons]
      omega
    · simp only [List.map_cons, List.sum_cons, ih]
      omega

/-- No two keys of the histogram are one. -/
def KeysApart (byStatus : List (Value × Nat)) : Prop :=
  byStatus.Pairwise fun left right => sameKey left.1 right.1 = false

/-- The keys of a histogram that counted a status once more. -/
theorem exists_of_mem_increment {status : Value} {byStatus : List (Value × Nat)} {entry : Value × Nat}
    (h : entry ∈ increment status byStatus) : entry.1 = status ∨ ∃ other ∈ byStatus, other.1 = entry.1 := by
  induction byStatus with
  | nil => exact .inl (congrArg Prod.fst (List.mem_singleton.1 h))
  | cons head rest ih =>
    obtain ⟨key, count⟩ := head
    rw [increment] at h
    split at h
    · rcases List.mem_cons.1 h with rfl | hrest
      · exact .inr ⟨(key, count), List.mem_cons_self, rfl⟩
      · exact .inr ⟨entry, List.mem_cons_of_mem _ hrest, rfl⟩
    · rcases List.mem_cons.1 h with rfl | hrest
      · exact .inr ⟨_, List.mem_cons_self, rfl⟩
      · rcases ih hrest with heq | ⟨other, hother, heq⟩
        · exact .inl heq
        · exact .inr ⟨other, List.mem_cons_of_mem _ hother, heq⟩

theorem keysApart_increment (status : Value) {byStatus : List (Value × Nat)} (h : KeysApart byStatus) :
    KeysApart (increment status byStatus) := by
  induction byStatus with
  | nil => exact List.pairwise_singleton _ _
  | cons head rest ih =>
    obtain ⟨key, count⟩ := head
    obtain ⟨hhead, hrest⟩ := List.pairwise_cons.1 h
    rw [increment]
    split
    · exact List.pairwise_cons.2 ⟨hhead, hrest⟩
    · rename_i hnot
      refine List.pairwise_cons.2 ⟨fun entry hentry => ?_, ih hrest⟩
      rcases exists_of_mem_increment hentry with heq | ⟨other, hother, heq⟩
      · rw [heq]
        exact Bool.eq_false_iff.2 hnot
      · rw [← heq]
        exact hhead other hother

/-! ### The folds as counts -/

theorem countOf_histogram (key : Value) (rows : List ResponseItem) (byStatus : List (Value × Nat)) :
    countOf key (histogram rows byStatus) =
      countOf key byStatus + rows.countP fun row => sameKey (.str row.status) key := by
  induction rows generalizing byStatus with
  | nil => rfl
  | cons row rows ih =>
    rw [histogram, List.foldl_cons, ← histogram, ih, countOf_increment, List.countP_cons]
    omega

theorem sum_histogram (rows : List ResponseItem) (byStatus : List (Value × Nat)) :
    ((histogram rows byStatus).map Prod.snd).sum = (byStatus.map Prod.snd).sum + rows.length := by
  induction rows generalizing byStatus with
  | nil => rfl
  | cons row rows ih =>
    rw [histogram, List.foldl_cons, ← histogram, ih, sum_increment, List.length_cons]
    omega

theorem keysApart_histogram (rows : List ResponseItem) {byStatus : List (Value × Nat)} (h : KeysApart byStatus) :
    KeysApart (histogram rows byStatus) := by
  induction rows generalizing byStatus with
  | nil => exact h
  | cons row rows ih => exact ih (keysApart_increment _ h)

/-! ### The four answers on one list of rows -/

structure Aggregates where
  summary : Summary
  pending : Nat
  completed : Bool
  firstDispatchIncomplete : Bool

def aggregates (rows : List ResponseItem) : Except PyError Aggregates := do
  let summary ← computeSummary rows
  let pending ← countPendingResponses rows
  let completed ← isCycleCompleted rows
  let firstDispatchIncomplete ← isFirstDispatchIncomplete rows
  return { summary, pending, completed, firstDispatchIncomplete }

inductive Counter where
  | targetTotal
  | dispatched
  | responded
  | unreachable
  | byStatus (status : Value)
  | pending

/-- The rows a counter counts. -/
def Counter.counts : Counter → ResponseItem → Bool
  | targetTotal, _ => true
  | dispatched, row => row.isDispatched
  | responded, row => row.hasStatus VoiceStatus.isConfirmed
  | unreachable, row => row.hasStatus (· == .unreachable)
  | byStatus status, row => sameKey (.str row.status) status
  | pending, row => !row.hasStatus VoiceStatus.isTerminal

namespace Aggregates

def value (found : Aggregates) : Counter → Nat
  | .targetTotal => found.summary.targetTotal
  | .dispatched => found.summary.dispatched
  | .responded => found.summary.responded
  | .unreachable => found.summary.unreachable
  | .byStatus status => countOf status found.summary.byStatus
  | .pending => found.pending

structure Agree (found : Aggregates) (rows : List ResponseItem) : Prop where
  targetTotal : found.summary.targetTotal = rows.length
  isHistogram : KeysApart found.summary.byStatus
  byStatus : (found.summary.byStatus.map Prod.snd).sum = found.summary.targetTotal
  pending : (found.pending : Int) = found.summary.targetTotal - found.summary.responded - found.summary.unreachable
  completed : found.completed = true ↔ found.pending = 0
  firstDispatchIncomplete :
    found.firstDispatchIncomplete = true ↔ found.summary.dispatched < found.summary.targetTotal

end Aggregates

variable {rows : List ResponseItem}

/-- The four answers as counts of rows. -/
def counted (rows : List ResponseItem) : Aggregates where
  summary :=
    { targetTotal := rows.length
      dispatched := rows.countP ResponseItem.isDispatched
      responded := rows.countP (ResponseItem.hasStatus VoiceStatus.isConfirmed)
      unreachable := rows.countP (ResponseItem.hasStatus (· == .unreachable))
      byStatus := histogram rows [] }
  pending := rows.countP fun row => !row.hasStatus VoiceStatus.isTerminal
  completed := rows.all (ResponseItem.hasStatus VoiceStatus.isTerminal)
  firstDispatchIncomplete := rows.any fun row => !row.isDispatched

theorem aggregates_eq (hrows : ∀ row ∈ rows, row.IsCountable) : aggregates rows = .ok (counted rows) := by
  have hsummary : computeSummary rows = .ok (counted rows).summary := by
    rw [computeSummary, summarize_eq hrows]
    simp only [Nat.zero_add, counted]
  have hincomplete : isFirstDispatchIncomplete rows = .ok (counted rows).firstDispatchIncomplete :=
    firstDispatchIncompleteFrom_eq hrows 0
  rw [aggregates, hsummary, ok_bind, countPendingResponses_eq hrows, ok_bind, isCycleCompleted_eq hrows, ok_bind,
    hincomplete, ok_bind]
  rfl

theorem value_counted (rows : List ResponseItem) (counter : Counter) :
    (counted rows).value counter = rows.countP counter.counts := by
  cases counter with
  | targetTotal => exact (congrFun List.countP_true rows).symm
  | byStatus status => exact (countOf_histogram status rows []).trans (Nat.zero_add _)
  | dispatched | responded | unreachable | pending => rfl

/-- A row is confirmed, unreachable or pending. -/
theorem length_eq_add (rows : List ResponseItem) :
    rows.length = (counted rows).summary.responded + (counted rows).summary.unreachable + (counted rows).pending := by
  simp only [counted]
  induction rows with
  | nil => rfl
  | cons row rows ih =>
    have hsplit : ((if row.hasStatus VoiceStatus.isConfirmed then 1 else 0) +
        if row.hasStatus (· == .unreachable) then 1 else 0) = if row.hasStatus VoiceStatus.isTerminal then 1 else 0 :=
      ResponseItem.terminal_split (VoiceStatus.ofName? row.status)
    rw [List.length_cons, ih, List.countP_cons, List.countP_cons, List.countP_cons]
    cases hterminal : row.hasStatus VoiceStatus.isTerminal with
    | true =>
      rw [hterminal] at hsplit
      simp only [if_true, Bool.not_true, Bool.false_eq_true, if_false] at hsplit ⊢
      omega
    | false =>
      rw [hterminal] at hsplit
      simp only [Bool.not_false, if_true, Bool.false_eq_true, if_false] at hsplit ⊢
      omega

theorem agree_counted (rows : List ResponseItem) : (counted rows).Agree rows where
  targetTotal := rfl
  isHistogram := keysApart_histogram rows List.Pairwise.nil
  byStatus := (sum_histogram rows []).trans (Nat.zero_add _)
  pending := by
    have hlength := length_eq_add rows
    show (((counted rows).pending : Nat) : Int) = (rows.length : Int) - _ - _
    omega
  completed := by
    show rows.all _ = true ↔ rows.countP _ = 0
    rw [List.all_eq_true, List.countP_eq_zero]
    simp
  firstDispatchIncomplete := by
    show rows.any _ = true ↔ rows.countP _ < rows.length
    rw [List.any_eq_true, lt_iff_le_and_ne, and_iff_right List.countP_le_length, Ne, List.countP_eq_length]
    simp

/-- On rows of counts and strings the answers agree, in any order of the rows and over any cut of the list. -/
theorem aggregates_agree (hrows : ∀ row ∈ rows, row.IsCountable) :
    ∃ found, aggregates rows = .ok found ∧ found.Agree rows ∧
      (∀ others, others.Perm rows → ∃ found', aggregates others = .ok found' ∧
        ∀ counter, found'.value counter = found.value counter) ∧
      ∀ left right, rows = left ++ right → ∃ found₁ found₂, aggregates left = .ok found₁ ∧
        aggregates right = .ok found₂ ∧
        ∀ counter, found.value counter = found₁.value counter + found₂.value counter := by
  refine ⟨_, aggregates_eq hrows, agree_counted rows, ?_, ?_⟩
  · intro others hperm
    refine ⟨_, aggregates_eq fun row hrow => hrows row (hperm.subset hrow), fun counter => ?_⟩
    rw [value_counted, value_counted, hperm.countP_eq]
  · rintro left right rfl
    have hleft : ∀ row ∈ left, row.IsCountable := fun row hrow => hrows row (List.mem_append_left right hrow)
    have hright : ∀ row ∈ right, row.IsCountable := fun row hrow => hrows row (List.mem_append_right left hrow)
    refine ⟨_, _, aggregates_eq hleft, aggregates_eq hright, fun counter => ?_⟩
    rw [value_counted, value_counted, value_counted, List.countP_append]

/-- A row without attributes, one with a fraction of a call and a status nobody knows, and a confirmed one. -/
def threeRows : List ResponseItem :=
  [{}, { voiceStatus := some (.str "LOST"), callAttempts := some (.decimal (1 / 2)) },
    { voiceStatus := some (.str "SAFE"), callAttempts := some (.int 2) }]

theorem aggregates_agree_threeRows : ∃ found, aggregates threeRows = .ok found ∧ found.Agree threeRows := by
  obtain ⟨found, hfound, hagree, -⟩ := aggregates_agree (show ∀ row ∈ threeRows, row.IsCountable by
    intro row hrow
    simp only [threeRows, List.mem_cons, List.not_mem_nil, or_false] at hrow
    rcases hrow with rfl | rfl | rfl
    · exact ⟨nofun, nofun⟩
    · refine ⟨fun raw hraw => ?_, fun raw hraw => ⟨"LOST", (Option.some.inj hraw).symm⟩⟩
      exact .inr ⟨1 / 2, by decide +kernel, (Option.some.inj hraw).symm⟩
    · refine ⟨fun raw hraw => ?_, fun raw hraw => ⟨"SAFE", (Option.some.inj hraw).symm⟩⟩
      exact .inl ⟨2, by decide, (Option.some.inj hraw).symm⟩)
  exact ⟨found, hfound, hagree⟩

end Finalize

end SafetyConfirmation
