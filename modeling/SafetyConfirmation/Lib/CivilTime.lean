import Mathlib.Data.Nat.Find
import Mathlib.Order.Monotone.Basic

/-!
# Calendar dates and instants

The proleptic Gregorian calendar from the year 1 to the year 9999, a date as its ordinal number and back, and instants in
microseconds, of which only those between the first and the last of these days have a date.
-/

namespace CivilTime

def isLeap (year : Nat) : Bool := year % 4 == 0 && (year % 100 != 0 || year % 400 == 0)

def daysInMonth (year month : Nat) : Nat :=
  if month = 2 then if isLeap year then 29 else 28
  else if month = 4 ∨ month = 6 ∨ month = 9 ∨ month = 11 then 30 else 31

def yearLength (year : Nat) : Nat := if isLeap year then 366 else 365

def daysBeforeYear (year : Nat) : Nat :=
  (year - 1) * 365 + (year - 1) / 4 - (year - 1) / 100 + (year - 1) / 400

/-- The days of the first months of a year. -/
def daysThroughMonth (year : Nat) : Nat → Nat
  | 0 => 0
  | month + 1 => daysThroughMonth year month + daysInMonth year (month + 1)

def minYear : Nat := 1

def maxYear : Nat := 9999

def maxOrdinal : Nat := daysBeforeYear (maxYear + 1)

structure Date where
  year : Nat
  month : Nat
  day : Nat
  year_mem : minYear ≤ year ∧ year ≤ maxYear
  month_mem : 1 ≤ month ∧ month ≤ 12
  day_mem : 1 ≤ day ∧ day ≤ daysInMonth year month
  deriving DecidableEq

namespace Date

def ofFields? (year month day : Nat) : Option Date :=
  if h : (minYear ≤ year ∧ year ≤ maxYear) ∧ (1 ≤ month ∧ month ≤ 12) ∧ 1 ≤ day ∧ day ≤ daysInMonth year month then
    some ⟨year, month, day, h.1, h.2.1, h.2.2⟩
  else none

/-- The number of the day, from 1 on. -/
def ordinal (d : Date) : Nat := daysBeforeYear d.year + daysThroughMonth d.year (d.month - 1) + d.day

/-- A year has 365 days at least, so the search ends after a few steps. -/
def yearOf (n : Nat) : Nat := Nat.findGreatest (fun year => daysBeforeYear year < n) (n / 365 + 1)

def monthOf (year dayOfYear : Nat) : Nat :=
  Nat.findGreatest (fun month => daysThroughMonth year (month - 1) < dayOfYear) 12

def ofOrdinal? (n : Nat) : Option Date :=
  let year := yearOf n
  let dayOfYear := n - daysBeforeYear year
  let month := monthOf year dayOfYear
  ofFields? year month (dayOfYear - daysThroughMonth year (month - 1))

end Date

/-! ### Days before a year and before a month -/

theorem daysBeforeYear_succ {year : Nat} (h : 1 ≤ year) :
    daysBeforeYear (year + 1) = daysBeforeYear year + yearLength year := by
  obtain ⟨n, rfl⟩ := Nat.exists_eq_add_of_le' h
  have hle : n / 100 ≤ n / 4 := Nat.div_le_div_left (by decide) (by decide)
  have h100 : 100 ∣ n + 1 → 4 ∣ n + 1 := fun h => Nat.dvd_trans (by decide) h
  have h400 : 400 ∣ n + 1 → 100 ∣ n + 1 := fun h => Nat.dvd_trans (by decide) h
  simp only [daysBeforeYear, yearLength, isLeap, Nat.add_sub_cancel, Nat.succ_div, Nat.dvd_iff_mod_eq_zero] at *
  -- Every fourth year is a leap year, but for every hundredth that is no four hundredth.
  by_cases hfour : (n + 1) % 4 = 0
  · by_cases hhundred : (n + 1) % 100 = 0
    · by_cases hfourhundred : (n + 1) % 400 = 0
      · simp [hfour, hhundred, hfourhundred]
        omega
      · simp [hfour, hhundred, hfourhundred]
        omega
    · simp [hfour, hhundred, mt h400 hhundred]
      omega
  · simp [hfour, mt h100 hfour, mt h400 (mt h100 hfour)]
    omega

theorem daysBeforeYear_mono : Monotone daysBeforeYear := by
  refine monotone_nat_of_le_succ fun year => ?_
  cases year with
  | zero => exact Nat.le_refl _
  | succ year =>
    rw [daysBeforeYear_succ (Nat.le_add_left 1 year)]
    exact Nat.le_add_right _ _

theorem mul_le_daysBeforeYear (year : Nat) : (year - 1) * 365 ≤ daysBeforeYear year := by
  rw [daysBeforeYear]
  omega

theorem daysThroughMonth_mono (year : Nat) : Monotone (daysThroughMonth year) :=
  monotone_nat_of_le_succ fun _ => Nat.le_add_right _ _

theorem daysThroughMonth_year (year : Nat) : daysThroughMonth year 12 = yearLength year := by
  simp only [daysThroughMonth, daysInMonth, yearLength]
  cases isLeap year <;> rfl

namespace Date

theorem ofFields?_self (d : Date) : ofFields? d.year d.month d.day = some d := dif_pos ⟨d.year_mem, d.month_mem, d.day_mem⟩

theorem ofFields?_eq_some {year month day : Nat} {d : Date} (h : ofFields? year month day = some d) :
    d.year = year ∧ d.month = month ∧ d.day = day := by
  rw [ofFields?] at h
  split at h
  · cases h
    exact ⟨rfl, rfl, rfl⟩
  · cases h

theorem day_le (d : Date) : d.day ≤ 31 := by
  have hmax : daysInMonth d.year d.month ≤ 31 := by
    rw [daysInMonth]
    split
    · split <;> decide
    · split <;> decide
  exact d.day_mem.2.trans hmax

theorem month_eq (d : Date) : d.month = d.month - 1 + 1 := by
  have hmonth := d.month_mem.1
  omega

theorem dayOfYear_le (d : Date) : daysThroughMonth d.year (d.month - 1) + d.day ≤ daysThroughMonth d.year d.month := by
  have hday := d.day_mem.2
  have hsucc : daysThroughMonth d.year (d.month - 1 + 1) =
      daysThroughMonth d.year (d.month - 1) + daysInMonth d.year (d.month - 1 + 1) := rfl
  rw [← d.month_eq] at hsucc
  omega

theorem dayOfYear_le_yearLength (d : Date) : daysThroughMonth d.year (d.month - 1) + d.day ≤ yearLength d.year := by
  rw [← daysThroughMonth_year]
  exact d.dayOfYear_le.trans (daysThroughMonth_mono d.year d.month_mem.2)

theorem ordinal_le (d : Date) : d.ordinal ≤ daysBeforeYear (d.year + 1) := by
  have hday := d.dayOfYear_le_yearLength
  rw [daysBeforeYear_succ d.year_mem.1, ordinal]
  omega

theorem lt_ordinal (d : Date) : daysBeforeYear d.year < d.ordinal := by
  have hday := d.day_mem.1
  rw [ordinal]
  omega

theorem one_le_ordinal (d : Date) : 1 ≤ d.ordinal := Nat.lt_of_le_of_lt (Nat.zero_le _) d.lt_ordinal

theorem ordinal_le_maxOrdinal (d : Date) : d.ordinal ≤ maxOrdinal :=
  d.ordinal_le.trans (daysBeforeYear_mono (Nat.succ_le_succ d.year_mem.2))

/-! ### Order -/

/-- A day of an earlier year, or month, or day has the smaller number. -/
theorem ordinal_lt_of_year {d d' : Date} (h : d.year < d'.year) : d.ordinal < d'.ordinal :=
  Nat.lt_of_le_of_lt (d.ordinal_le.trans (daysBeforeYear_mono h)) d'.lt_ordinal

theorem ordinal_lt_of_month {d d' : Date} (hyear : d.year = d'.year) (h : d.month < d'.month) :
    d.ordinal < d'.ordinal := by
  have hday := d.dayOfYear_le
  have hmonths : daysThroughMonth d.year d.month ≤ daysThroughMonth d.year (d'.month - 1) :=
    daysThroughMonth_mono d.year (by omega)
  have hday' := d'.day_mem.1
  rw [ordinal, ordinal, ← hyear]
  omega

theorem ordinal_lt_of_day {d d' : Date} (hyear : d.year = d'.year) (hmonth : d.month = d'.month) (h : d.day < d'.day) :
    d.ordinal < d'.ordinal := by
  rw [ordinal, ordinal, ← hyear, ← hmonth]
  omega

/-! ### From the number to the date -/

theorem yearOf_ordinal (d : Date) : yearOf d.ordinal = d.year := by
  have hbound : d.year ≤ d.ordinal / 365 + 1 := by
    have hmul := (mul_le_daysBeforeYear d.year).trans_lt d.lt_ordinal
    omega
  refine Nat.findGreatest_eq_iff.2 ⟨hbound, fun _ => d.lt_ordinal, fun year hyear _ hlt => ?_⟩
  have hle := d.ordinal_le.trans (daysBeforeYear_mono hyear)
  omega

theorem monthOf_dayOfYear (d : Date) :
    monthOf d.year (daysThroughMonth d.year (d.month - 1) + d.day) = d.month := by
  have hday := d.day_mem.1
  refine Nat.findGreatest_eq_iff.2 ⟨d.month_mem.2, fun _ => by omega, fun month hmonth _ hlt => ?_⟩
  have hle := d.dayOfYear_le.trans (daysThroughMonth_mono d.year (Nat.le_sub_one_of_lt hmonth))
  omega

theorem ofOrdinal?_ordinal (d : Date) : ofOrdinal? d.ordinal = some d := by
  have hrest : d.ordinal - daysBeforeYear d.year = daysThroughMonth d.year (d.month - 1) + d.day := by
    rw [ordinal]
    omega
  have hday : daysThroughMonth d.year (d.month - 1) + d.day - daysThroughMonth d.year (d.month - 1) = d.day := by omega
  simp only [ofOrdinal?, yearOf_ordinal, hrest, monthOf_dayOfYear, hday]
  exact d.ofFields?_self

theorem ordinal_of_ofOrdinal? {n : Nat} {d : Date} (h : ofOrdinal? n = some d) : d.ordinal = n := by
  obtain ⟨hyear, hmonth, hday⟩ := ofFields?_eq_some h
  have hpos := d.day_mem.1
  rw [ordinal, hmonth, hyear]
  omega

/-- Every number up to that of the last day has a date. -/
theorem exists_ordinal_eq {n : Nat} (hlow : 1 ≤ n) (hhigh : n ≤ maxOrdinal) :
    ∃ d, ofOrdinal? n = some d ∧ d.ordinal = n := by
  have hfirst : daysBeforeYear 1 < n := hlow
  have hyear : daysBeforeYear (yearOf n) < n :=
    Nat.findGreatest_spec (m := 1) (P := fun year => daysBeforeYear year < n) (Nat.le_add_left 1 _) hfirst
  have hpos : 1 ≤ yearOf n := Nat.le_findGreatest (Nat.le_add_left 1 _) hfirst
  have hmax : yearOf n ≤ maxYear := by
    by_contra hlate
    have hle : maxOrdinal ≤ daysBeforeYear (yearOf n) := daysBeforeYear_mono (Nat.lt_of_not_le hlate)
    omega
  have hnext : n ≤ daysBeforeYear (yearOf n + 1) := by
    by_cases hlast : yearOf n + 1 ≤ n / 365 + 1
    · obtain ⟨-, -, hgreatest⟩ := Nat.findGreatest_eq_iff.1
        (show Nat.findGreatest (fun year => daysBeforeYear year < n) (n / 365 + 1) = yearOf n from rfl)
      exact Nat.le_of_not_lt (hgreatest (Nat.lt_succ_self _) hlast)
    · have hmul := mul_le_daysBeforeYear (yearOf n + 1)
      omega
  rw [daysBeforeYear_succ hpos, ← daysThroughMonth_year] at hnext
  obtain ⟨dayOfYear, hdayOfYear⟩ : ∃ r, n = daysBeforeYear (yearOf n) + r := ⟨n - daysBeforeYear (yearOf n), by omega⟩
  have hsub : n - daysBeforeYear (yearOf n) = dayOfYear := by omega
  have hstart : daysThroughMonth (yearOf n) (1 - 1) < dayOfYear := by
    show 0 < dayOfYear
    omega
  generalize hm : monthOf (yearOf n) dayOfYear = month
  have hmonth : daysThroughMonth (yearOf n) (month - 1) < dayOfYear := by
    rw [← hm]
    exact Nat.findGreatest_spec (m := 1) (P := fun month => daysThroughMonth (yearOf n) (month - 1) < dayOfYear)
      (Nat.le_add_left 1 _) hstart
  have hmonth_pos : 1 ≤ month := by
    rw [← hm]
    exact Nat.le_findGreatest (by decide) hstart
  have hmonth_max : month ≤ 12 := by
    rw [← hm]
    exact Nat.findGreatest_le _
  have hend : dayOfYear ≤ daysThroughMonth (yearOf n) month := by
    by_cases hlast : month + 1 ≤ 12
    · obtain ⟨-, -, hgreatest⟩ := Nat.findGreatest_eq_iff.1 hm
      exact Nat.le_of_not_lt (hgreatest (Nat.lt_succ_self _) hlast)
    · rw [show month = 12 by omega]
      omega
  obtain ⟨before, rfl⟩ := Nat.exists_eq_add_of_le' hmonth_pos
  rw [daysThroughMonth] at hend
  rw [Nat.add_sub_cancel] at hmonth
  have hvalid : (minYear ≤ yearOf n ∧ yearOf n ≤ maxYear) ∧ (1 ≤ before + 1 ∧ before + 1 ≤ 12) ∧
      1 ≤ dayOfYear - daysThroughMonth (yearOf n) before ∧
        dayOfYear - daysThroughMonth (yearOf n) before ≤ daysInMonth (yearOf n) (before + 1) :=
    ⟨⟨hpos, hmax⟩, ⟨hmonth_pos, hmonth_max⟩, by omega, by omega⟩
  refine ⟨⟨_, _, _, hvalid.1, hvalid.2.1, hvalid.2.2⟩, ?_, ?_⟩
  · simp only [ofOrdinal?, hsub, hm, Nat.add_sub_cancel]
    exact dif_pos hvalid
  · rw [ordinal]
    dsimp only
    rw [Nat.add_sub_cancel]
    omega

end Date

example : (Date.ofOrdinal? 738945).map (fun d => (d.year, d.month, d.day)) = some (2024, 2, 29) := by decide +kernel

/-! ### Instants -/

def microsecondsPerSecond : Nat := 1000000

def microsecondsPerDay : Nat := 86400 * microsecondsPerSecond

def epochOrdinal : Nat := 719163

/-- A day and the time of the day. -/
structure Datetime where
  date : Date
  microsecond : Nat
  microsecond_lt : microsecond < microsecondsPerDay
  deriving DecidableEq

namespace Datetime

/-- The microseconds since the first of January of 1970. -/
def instant (t : Datetime) : Int := ((t.date.ordinal : Int) - epochOrdinal) * microsecondsPerDay + t.microsecond

/-- The microseconds since the day before the first one. -/
def sinceDayZero (instant : Int) : Int := instant + epochOrdinal * microsecondsPerDay

def ofInstant? (instant : Int) : Option Datetime :=
  (Date.ofOrdinal? (sinceDayZero instant / microsecondsPerDay).toNat).map fun date =>
    ⟨date, (sinceDayZero instant % microsecondsPerDay).toNat, by
      have hlt := Int.emod_lt_of_pos (sinceDayZero instant) (show (0 : Int) < microsecondsPerDay by decide)
      have hpos : 0 < microsecondsPerDay := by decide
      omega⟩

/-- The instant has a date. -/
def InRange (instant : Int) : Prop :=
  (microsecondsPerDay : Int) ≤ sinceDayZero instant ∧ sinceDayZero instant < (maxOrdinal + 1) * microsecondsPerDay

instance (instant : Int) : Decidable (InRange instant) := inferInstanceAs (Decidable (_ ∧ _))

theorem sinceDayZero_instant (t : Datetime) :
    sinceDayZero t.instant = t.date.ordinal * microsecondsPerDay + t.microsecond := by
  rw [sinceDayZero, instant, Int.sub_mul]
  omega

theorem inRange_instant (t : Datetime) : InRange t.instant := by
  have hlow := t.date.one_le_ordinal
  have hhigh := t.date.ordinal_le_maxOrdinal
  have hlt := t.microsecond_lt
  rw [InRange, sinceDayZero_instant]
  simp only [microsecondsPerDay, microsecondsPerSecond] at *
  omega

theorem ofInstant?_instant (t : Datetime) : ofInstant? t.instant = some t := by
  have hlt := t.microsecond_lt
  have hday : (sinceDayZero t.instant / microsecondsPerDay).toNat = t.date.ordinal := by
    rw [sinceDayZero_instant]
    simp only [microsecondsPerDay, microsecondsPerSecond] at *
    omega
  have htime : (sinceDayZero t.instant % microsecondsPerDay).toNat = t.microsecond := by
    rw [sinceDayZero_instant]
    simp only [microsecondsPerDay, microsecondsPerSecond] at *
    omega
  simp only [ofInstant?, hday, htime, Date.ofOrdinal?_ordinal, Option.map_some]

theorem exists_instant_eq {instant : Int} (h : InRange instant) :
    ∃ t, ofInstant? instant = some t ∧ t.instant = instant := by
  obtain ⟨hlow, hhigh⟩ := h
  obtain ⟨date, hdate, hordinal⟩ := @Date.exists_ordinal_eq (sinceDayZero instant / microsecondsPerDay).toNat (by
    simp only [microsecondsPerDay, microsecondsPerSecond] at *
    omega) (by
    simp only [microsecondsPerDay, microsecondsPerSecond] at *
    omega)
  refine ⟨_, by rw [ofInstant?, hdate, Option.map_some], ?_⟩
  rw [Datetime.instant, hordinal]
  simp only [sinceDayZero, microsecondsPerDay, microsecondsPerSecond] at *
  omega

theorem ofInstant?_eq_some {instant : Int} {t : Datetime} (h : ofInstant? instant = some t) : t.instant = instant := by
  rw [ofInstant?, Option.map_eq_some_iff] at h
  obtain ⟨date, hdate, rfl⟩ := h
  have hordinal := Date.ordinal_of_ofOrdinal? hdate
  have hpos := date.one_le_ordinal
  simp only [Datetime.instant, sinceDayZero, microsecondsPerDay, microsecondsPerSecond] at *
  omega

theorem isSome_ofInstant?_iff {instant : Int} : (ofInstant? instant).isSome = true ↔ InRange instant := by
  constructor
  · intro h
    obtain ⟨t, ht⟩ := Option.isSome_iff_exists.1 h
    rw [← ofInstant?_eq_some ht]
    exact t.inRange_instant
  · intro h
    obtain ⟨t, ht, -⟩ := exists_instant_eq h
    rw [ht]
    rfl

end Datetime

end CivilTime
