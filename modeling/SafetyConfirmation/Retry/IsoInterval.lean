import SafetyConfirmation.Lib.Binary64
import SafetyConfirmation.Lib.IsoText
import SafetyConfirmation.Retry.Evaluator

/-!
# The wait until the next dispatch

`compute_retry_wait_seconds` on the texts it is given: both are parsed and brought to UTC, the next dispatch is printed and
parsed again, and the seconds in between are a double of which `int()` keeps the integer part.
-/

namespace SafetyConfirmation

namespace Retry

namespace IsoInterval

open Checks CivilTime IsoText Binary64

/-- `value[:-1] + "+00:00" if value.endswith("Z") else value`. -/
def withUtcOffset (cs : List Char) : List Char :=
  if cs.getLast? = some 'Z' then cs.dropLast ++ "+00:00".toList else cs

/-- `astimezone(timezone.utc)`. -/
def toUtc (t : Aware) : Except PyError Datetime := demand (Datetime.ofInstant? t.instant) (.other "OverflowError")

/-- `_parse_iso_utc`. -/
def parseIsoUtc (value fieldName : String) : Except PyError Datetime :=
  if value = "" then .error (.valueError (fieldName ++ " must be a non-empty ISO 8601 string"))
  else
    match read (withUtcOffset value.toList) with
    | .malformed => .error (.valueError (fieldName ++ " is not a valid ISO 8601 timestamp:") (some (.str value)))
    | .naive _ => .error (.valueError (fieldName ++ " must include a timezone offset:") (some (.str value)))
    | .aware t => toUtc t

/-- `_format_iso_utc_z`. -/
def formatIsoUtcZ (t : Datetime) : String := isoformatZ t

def computeNextDispatchAt (prevEndAtIso : String) (intervalMinutes : Value) : Except PyError String := do
  let interval ← requireInt "interval_minutes" intervalMinutes
  require (minIntervalMinutes ≤ interval ∧ interval ≤ maxIntervalMinutes)
    (.valueError "interval_minutes must be in [1, 60]; got" (some (.int interval)))
  let prevEndAt ← parseIsoUtc prevEndAtIso "prev_end_at_iso"
  let nextDispatchAt ← toUtc { wall := prevEndAt, offset := -(interval * microsecondsPerMinute) }
  return formatIsoUtcZ nextDispatchAt

/-- `timedelta.total_seconds`, of a time that is not negative. -/
def totalSeconds (microseconds : Nat) : Double := quotient microseconds 1000000

/-- `int(delta.total_seconds())`. -/
def wholeSeconds : Int → Int
  | .ofNat n => (totalSeconds n).truncate
  | .negSucc n => -(totalSeconds (n + 1)).truncate

def computeRetryWaitSeconds (prevEndAtIso : String) (intervalMinutes : Value) (nowIso : String) : Except PyError Int := do
  let nextDispatchAtIso ← computeNextDispatchAt prevEndAtIso intervalMinutes
  let nextDispatchAt ← parseIsoUtc nextDispatchAtIso "next_dispatch_at"
  let now ← parseIsoUtc nowIso "now_iso"
  return max 0 (wholeSeconds (nextDispatchAt.instant - now.instant))

/-- The text is an ISO 8601 time with an offset. -/
def Denotes (text : String) (t : Aware) : Prop := read (withUtcOffset text.toList) = .aware t

/-! ### Texts -/

theorem toUtc_of_inRange {t : Aware} (h : Datetime.InRange t.instant) :
    ∃ utc, toUtc t = .ok utc ∧ utc.instant = t.instant := by
  obtain ⟨utc, hutc, hinstant⟩ := Datetime.exists_instant_eq h
  refine ⟨utc, ?_, hinstant⟩
  rw [toUtc, hutc]
  rfl

theorem toUtc_of_not_inRange {t : Aware} (h : ¬ Datetime.InRange t.instant) :
    toUtc t = .error (.other "OverflowError") := by
  rw [← Datetime.isSome_ofInstant?_iff, Bool.not_eq_true, Option.isSome_eq_false_iff, Option.isNone_iff_eq_none] at h
  rw [toUtc, h]
  rfl

theorem toUtc_utc (t : Datetime) : toUtc { wall := t, offset := 0 } = .ok t := by
  have hinstant : Aware.instant { wall := t, offset := 0 } = t.instant := Int.sub_zero _
  rw [toUtc, hinstant, Datetime.ofInstant?_instant]
  rfl

theorem parseIsoUtc_of_denotes {text : String} {t : Aware} (h : Denotes text t) (fieldName : String) :
    parseIsoUtc text fieldName = toUtc t := by
  have hne : text ≠ "" := by
    rintro rfl
    cases h
  rw [parseIsoUtc, if_neg hne, h]

/-- A printed time with its offset behind it, in any form that has a sign. -/
theorem denotes_isoText (t : Datetime) {sign : Char} {zone : List Char} {offset : Int} (hsign : startsZone sign = true)
    (hlast : (sign :: zone).getLast? ≠ some 'Z') (hzone : zone? sign zone = some offset) :
    Denotes (String.ofList (isoText t ++ sign :: zone)) { wall := t, offset := offset } := by
  have hlast' : (isoText t ++ sign :: zone).getLast? ≠ some 'Z' := by
    rw [List.getLast?_append_of_ne_nil _ (List.cons_ne_nil _ _)]
    exact hlast
  rw [Denotes, String.toList_ofList, withUtcOffset, if_neg hlast', IsoText.read, fromisoformat_isoText t hsign hzone]

theorem denotes_formatIsoUtcZ (t : Datetime) : Denotes (formatIsoUtcZ t) { wall := t, offset := 0 } := by
  rw [Denotes, formatIsoUtcZ, isoformatZ, String.toList_ofList, withUtcOffset, if_pos List.getLast?_concat,
    List.dropLast_concat, read_isoText]

@[simp] theorem parseIsoUtc_formatIsoUtcZ (t : Datetime) (fieldName : String) :
    parseIsoUtc (formatIsoUtcZ t) fieldName = .ok t := by
  rw [parseIsoUtc_of_denotes (denotes_formatIsoUtcZ t), toUtc_utc]

/-! ### Seconds -/

/-- The wait is over less than a second too early, and less than a second too late. -/
theorem max_wholeSeconds (microseconds : Int) :
    microseconds < (max 0 (wholeSeconds microseconds) + 1) * 1000000 ∧
      (0 ≤ microseconds → max 0 (wholeSeconds microseconds) * 1000000 < microseconds + 1000000) := by
  have hmillion : 0 < 1000000 := by decide
  cases microseconds with
  | ofNat n =>
    have hlow := div_le_truncate_quotient hmillion n
    have hhigh := truncate_quotient_mul_lt hmillion n
    have hmax : max 0 (wholeSeconds (.ofNat n)) = ((quotient n 1000000).truncate : Int) := max_eq_right (Int.natCast_nonneg _)
    rw [hmax]
    have hdiv := Nat.div_add_mod n 1000000
    have hmod := Nat.mod_lt n hmillion
    constructor
    · show (n : Int) < _
      omega
    · intro _
      show _ < (n : Int) + 1000000
      omega
  | negSucc n =>
    have hmax : max 0 (wholeSeconds (.negSucc n)) = 0 := by
      refine max_eq_left ?_
      show -((totalSeconds (n + 1)).truncate : Int) ≤ 0
      omega
    rw [hmax]
    constructor
    · omega
    · intro hnonneg
      omega

/-- Below 285 years the double drops the fraction and nothing else. -/
theorem wholeSeconds_eq_tdiv {microseconds : Int} (h : microseconds.natAbs < 2 ^ 53) :
    wholeSeconds microseconds = microseconds.tdiv 1000000 := by
  have hmillion : 0 < 1000000 := by decide
  cases microseconds with
  | ofNat n => exact congrArg Int.ofNat (truncate_quotient_eq_div hmillion h)
  | negSucc n =>
    have heq : (totalSeconds (n + 1)).truncate = (n + 1) / 1000000 := truncate_quotient_eq_div hmillion h
    rw [wholeSeconds, heq]
    rfl

/-! ### The wait -/

/-- When the next dispatch is due. -/
def dueAt (prevEndAt : Aware) (interval : Int) : Int := prevEndAt.instant + interval * microsecondsPerMinute

section

variable {prevEndAtIso nowIso : String} {prevEndAt now : Aware} {interval : Int}

/-- Both times, and the one that is due, are in the years 1 to 9999 of UTC. -/
def InCalendar (prevEndAt now : Aware) (interval : Int) : Prop :=
  Datetime.InRange prevEndAt.instant ∧ Datetime.InRange (dueAt prevEndAt interval) ∧ Datetime.InRange now.instant

instance (prevEndAt now : Aware) (interval : Int) : Decidable (InCalendar prevEndAt now interval) :=
  inferInstanceAs (Decidable (_ ∧ _ ∧ _))

theorem computeRetryWaitSeconds_of_inCalendar (hprev : Denotes prevEndAtIso prevEndAt) (hnow : Denotes nowIso now)
    (hinterval : minIntervalMinutes ≤ interval ∧ interval ≤ maxIntervalMinutes) (h : InCalendar prevEndAt now interval) :
    computeRetryWaitSeconds prevEndAtIso (.int interval) nowIso =
      .ok (max 0 (wholeSeconds (dueAt prevEndAt interval - now.instant))) := by
  obtain ⟨hfirst, hdue, hsecond⟩ := h
  obtain ⟨prev, hprevUtc, hprevInstant⟩ := toUtc_of_inRange hfirst
  obtain ⟨nowUtc, hnowUtc, hnowInstant⟩ := toUtc_of_inRange hsecond
  have hinstant : Aware.instant { wall := prev, offset := -(interval * microsecondsPerMinute) } = dueAt prevEndAt interval := by
    rw [Aware.instant, dueAt, hprevInstant, Int.sub_neg]
  obtain ⟨next, hnextUtc, hnextInstant⟩ := toUtc_of_inRange (hinstant ▸ hdue)
  rw [hinstant] at hnextInstant
  simp only [computeRetryWaitSeconds, computeNextDispatchAt, requireInt_int, ok_bind, require_of hinterval,
    parseIsoUtc_of_denotes hprev, hprevUtc, hnextUtc, pure_eq_ok, parseIsoUtc_formatIsoUtcZ, parseIsoUtc_of_denotes hnow,
    hnowUtc, hnextInstant, hnowInstant]

theorem computeRetryWaitSeconds_of_not_inCalendar (hprev : Denotes prevEndAtIso prevEndAt) (hnow : Denotes nowIso now)
    (hinterval : minIntervalMinutes ≤ interval ∧ interval ≤ maxIntervalMinutes) (h : ¬ InCalendar prevEndAt now interval) :
    computeRetryWaitSeconds prevEndAtIso (.int interval) nowIso = .error (.other "OverflowError") := by
  simp only [computeRetryWaitSeconds, computeNextDispatchAt, requireInt_int, ok_bind, require_of hinterval,
    parseIsoUtc_of_denotes hprev]
  by_cases hfirst : Datetime.InRange prevEndAt.instant
  · obtain ⟨prev, hprevUtc, hprevInstant⟩ := toUtc_of_inRange hfirst
    have hinstant : Aware.instant { wall := prev, offset := -(interval * microsecondsPerMinute) } =
        dueAt prevEndAt interval := by
      rw [Aware.instant, dueAt, hprevInstant, Int.sub_neg]
    simp only [hprevUtc, ok_bind]
    by_cases hdue : Datetime.InRange (dueAt prevEndAt interval)
    · obtain ⟨next, hnextUtc, -⟩ := toUtc_of_inRange (hinstant ▸ hdue)
      have hlate : ¬ Datetime.InRange now.instant := fun hsecond => h ⟨hfirst, hdue, hsecond⟩
      simp only [hnextUtc, ok_bind, pure_eq_ok, parseIsoUtc_formatIsoUtcZ, parseIsoUtc_of_denotes hnow,
        toUtc_of_not_inRange hlate, error_bind]
    · simp only [toUtc_of_not_inRange (hinstant ▸ hdue), error_bind]
  · simp only [toUtc_of_not_inRange hfirst, error_bind]

end

/-- The wait for the interval, for any two texts with an offset: the next dispatch is less than a second early, and where
it is not overdue less than a second late. What does not fit the calendar overflows. -/
theorem computeRetryWaitSeconds_within_second {prevEndAtIso nowIso : String} {prevEndAt now : Aware} {interval : Int}
    (hprev : Denotes prevEndAtIso prevEndAt) (hnow : Denotes nowIso now)
    (hinterval : minIntervalMinutes ≤ interval ∧ interval ≤ maxIntervalMinutes) :
    (InCalendar prevEndAt now interval → ∃ wait, computeRetryWaitSeconds prevEndAtIso (.int interval) nowIso = .ok wait ∧
      0 ≤ wait ∧ dueAt prevEndAt interval - 1000000 < now.instant + wait * 1000000 ∧
      (now.instant ≤ dueAt prevEndAt interval →
        wait * 1000000 < dueAt prevEndAt interval - now.instant + 1000000)) ∧
      (¬ InCalendar prevEndAt now interval →
        computeRetryWaitSeconds prevEndAtIso (.int interval) nowIso = .error (.other "OverflowError")) := by
  refine ⟨fun hcalendar => ?_, computeRetryWaitSeconds_of_not_inCalendar hprev hnow hinterval⟩
  refine ⟨_, computeRetryWaitSeconds_of_inCalendar hprev hnow hinterval hcalendar, le_max_left _ _, ?_⟩
  obtain ⟨hearly, hlate⟩ := max_wholeSeconds (dueAt prevEndAt interval - now.instant)
  generalize max 0 (wholeSeconds (dueAt prevEndAt interval - now.instant)) = wait at hearly hlate ⊢
  generalize dueAt prevEndAt interval = due at hearly hlate ⊢
  constructor
  · omega
  · intro hle
    exact hlate (Int.sub_nonneg_of_le hle)

theorem isYear_monday : minYear ≤ 2026 ∧ 2026 ≤ maxYear := by decide

/-- 5 January 2026. -/
def monday : Date := ⟨2026, 1, 5, isYear_monday, by decide, by decide⟩

/-- Half a second after nine in the morning, nine hours ahead of UTC. -/
def halfPastNine : Aware := { wall := ⟨monday, 32400500000, by decide⟩, offset := 32400000000 }

theorem midnight_lt : 0 < microsecondsPerDay := by decide

def midnight : Aware := { wall := ⟨monday, 0, midnight_lt⟩, offset := 0 }

theorem denotes_halfPastNine : Denotes "2026-01-05T09:00:00.500000+09:00" halfPastNine :=
  @denotes_isoText halfPastNine.wall '+' "09:00".toList 32400000000 (by decide) (by decide) (by decide +kernel)

theorem denotes_midnight : Denotes "2026-01-05T00:00:00Z" midnight := denotes_formatIsoUtcZ midnight.wall

theorem computeRetryWaitSeconds_halfPastNine :
    ∃ wait, computeRetryWaitSeconds "2026-01-05T09:00:00.500000+09:00" (.int 1) "2026-01-05T00:00:00Z" = .ok wait ∧
      0 ≤ wait ∧ dueAt halfPastNine 1 - 1000000 < midnight.instant + wait * 1000000 ∧
      (midnight.instant ≤ dueAt halfPastNine 1 → wait * 1000000 < dueAt halfPastNine 1 - midnight.instant + 1000000) := by
  have hwithin := computeRetryWaitSeconds_within_second denotes_halfPastNine denotes_midnight
    (show minIntervalMinutes ≤ 1 ∧ 1 ≤ maxIntervalMinutes by decide)
  exact hwithin.1 (by decide +kernel)

/-- A minute after the half second, the wait from midnight is sixty seconds: it ends half a second early. -/
theorem wait_ends_early :
    Denotes "2026-01-05T09:00:00.500000+09:00" halfPastNine ∧ Denotes "2026-01-05T00:00:00Z" midnight ∧
      computeRetryWaitSeconds "2026-01-05T09:00:00.500000+09:00" (.int 1) "2026-01-05T00:00:00Z" = .ok 60 ∧
      midnight.instant + 60 * 1000000 < dueAt halfPastNine 1 := by
  refine ⟨denotes_halfPastNine, denotes_midnight, ?_, by decide +kernel⟩
  rw [computeRetryWaitSeconds_of_inCalendar denotes_halfPastNine denotes_midnight (by decide) (by decide +kernel)]
  have hwait : max 0 (wholeSeconds (dueAt halfPastNine 1 - midnight.instant)) = 60 := by decide +kernel
  rw [hwait]

/-- Within 285 years the wait is the one of the decision on instants. -/
theorem computeRetryWaitSeconds_formatIsoUtcZ (prevEndAt now : Datetime) (intervalMinutes : Value)
    (hfits : ∀ interval, intervalMinutes = .int interval →
      Datetime.InRange (prevEndAt.instant + interval * microsecondsPerMinute) ∧
        (prevEndAt.instant + interval * microsecondsPerMinute - now.instant).natAbs < 2 ^ 53) :
    computeRetryWaitSeconds (formatIsoUtcZ prevEndAt) intervalMinutes (formatIsoUtcZ now) =
      Retry.computeRetryWaitSeconds prevEndAt.instant intervalMinutes now.instant := by
  cases intervalMinutes with
  | int interval =>
    obtain ⟨hrange, hnear⟩ := hfits interval rfl
    have hprevInstant : Aware.instant { wall := prevEndAt, offset := 0 } = prevEndAt.instant := Int.sub_zero _
    have hnowInstant : Aware.instant { wall := now, offset := 0 } = now.instant := Int.sub_zero _
    by_cases hinterval : minIntervalMinutes ≤ interval ∧ interval ≤ maxIntervalMinutes
    · have hcalendar : InCalendar { wall := prevEndAt, offset := 0 } { wall := now, offset := 0 } interval := by
        rw [InCalendar, dueAt, hprevInstant, hnowInstant]
        exact ⟨prevEndAt.inRange_instant, hrange, now.inRange_instant⟩
      rw [computeRetryWaitSeconds_of_inCalendar (denotes_formatIsoUtcZ prevEndAt) (denotes_formatIsoUtcZ now) hinterval
        hcalendar, dueAt, hprevInstant, hnowInstant, wholeSeconds_eq_tdiv hnear]
      simp only [Retry.computeRetryWaitSeconds, Retry.computeNextDispatchAt, requireInt_int, ok_bind, require_of hinterval,
        pure_eq_ok]
    · simp only [computeRetryWaitSeconds, computeNextDispatchAt, Retry.computeRetryWaitSeconds,
        Retry.computeNextDispatchAt, requireInt_int, ok_bind, require, if_neg hinterval, error_bind]
  | _ => rfl

end IsoInterval

end Retry

end SafetyConfirmation
