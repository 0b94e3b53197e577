import Mathlib.Data.List.Basic
import Mathlib.Data.String.Basic
import Mathlib.Tactic.Ring
import SafetyConfirmation.Lib.CivilTime

/-!
# Dates and times as ISO 8601 texts

`datetime.isoformat` and `datetime.fromisoformat` of Python 3.12: calendar and week dates, with and without separators, a
fraction of a second, and an offset. What the one prints the other reads, and texts of whole seconds are in the order of
what they stand for.
-/

namespace IsoText

open CivilTime

/-! ### Digits -/

def digit (n : Nat) : Char := Char.ofNat (48 + n % 10)

/-- The last digits of a number, the first of them first. -/
def digits : Nat → Nat → List Char
  | 0, _ => []
  | width + 1, n => digit (n / 10 ^ width) :: digits width (n % 10 ^ width)

def natOf (cs : List Char) : Nat := cs.foldl (fun n c => 10 * n + (c.toNat - 48)) 0

/-- A number of so many digits that the text starts with, and the rest. -/
def field? (width : Nat) (cs : List Char) : Option (Nat × List Char) :=
  if (cs.take width).length = width ∧ (cs.take width).all Char.isDigit then some (natOf (cs.take width), cs.drop width)
  else none

/-! ### Printing -/

def dateText (d : Date) : List Char := digits 4 d.year ++ '-' :: (digits 2 d.month ++ '-' :: digits 2 d.day)

def fractionText (microsecond : Nat) : List Char := if microsecond = 0 then [] else '.' :: digits 6 microsecond

/-- The time of the day, which is given in microseconds. -/
def timeText (t : Nat) : List Char :=
  digits 2 (t / 3600000000) ++ ':' :: (digits 2 (t / 60000000 % 60) ++ ':' :: (digits 2 (t / 1000000 % 60) ++
    fractionText (t % 1000000)))

/-- `isoformat()` of a time in UTC without its offset. -/
def isoText (t : Datetime) : List Char := dateText t.date ++ 'T' :: timeText t.microsecond

/-- `isoformat().replace("+00:00", "Z")`. -/
def isoformatZ (t : Datetime) : String := String.ofList (isoText t ++ ['Z'])

/-! ### Reading -/

def skipSeparator (separator : Char) (separated : Bool) (cs : List Char) : Option (List Char) :=
  if separated then if cs.head? = some separator then some cs.tail else none else some cs

def weekday (ordinal : Nat) : Nat := (ordinal + 6) % 7

/-- The Monday of the first ISO week. -/
def week1Monday (year : Nat) : Nat :=
  let first := daysBeforeYear year + 1
  first - weekday first + if weekday first > 3 then 7 else 0

def ofIsoWeek? (year week day : Nat) : Option Date :=
  let first := weekday (daysBeforeYear year + 1)
  if (minYear ≤ year ∧ year ≤ maxYear) ∧ (1 ≤ week ∧ (week ≤ 52 ∨ week = 53 ∧ (first = 3 ∨ first = 2 ∧ isLeap year))) ∧
      1 ≤ day ∧ day ≤ 7 then
    Date.ofOrdinal? (week1Monday year + (week - 1) * 7 + (day - 1))
  else none

/-- `YYYY-MM-DD`, `YYYYMMDD`, `YYYY-Www`, `YYYY-Www-D`, `YYYYWww` or `YYYYWwwD`. -/
def date? (cs : List Char) : Option Date := do
  let (year, rest) ← field? 4 cs
  let separated := rest.head? == some '-'
  let rest ← skipSeparator '-' separated rest
  if rest.head? = some 'W' then do
    let (week, rest) ← field? 2 rest.tail
    if rest = [] then ofIsoWeek? year week 1
    else do
      let rest ← skipSeparator '-' separated rest
      let (day, rest) ← field? 1 rest
      if rest = [] then ofIsoWeek? year week day else none
  else do
    let (month, rest) ← field? 2 rest
    let rest ← skipSeparator '-' separated rest
    let (day, rest) ← field? 2 rest
    if rest = [] then Date.ofFields? year month day else none

structure Clock where
  hour : Nat
  minute : Nat := 0
  second : Nat := 0
  microsecond : Nat := 0

def Clock.total (clock : Clock) : Nat :=
  clock.hour * 3600000000 + clock.minute * 60000000 + clock.second * 1000000 + clock.microsecond

/-- What follows the seconds: the digits from the seventh on do not count. -/
def fraction? : List Char → Option Nat
  | [] => some 0
  | c :: cs =>
    if (c = '.' ∨ c = ',') ∧ cs ≠ [] ∧ cs.all Char.isDigit then
      some (natOf (cs.take 6) * 10 ^ (6 - (cs.take 6).length))
    else none

/-- `HH[:?MM[:?SS[{.,}fff[fff]]]]`. -/
def clock? (cs : List Char) : Option Clock := do
  let (hour, rest) ← field? 2 cs
  if rest = [] then return { hour }
  else do
    let separated := rest.head? == some ':'
    let rest ← skipSeparator ':' separated rest
    let (minute, rest) ← field? 2 rest
    if rest = [] then return { hour, minute }
    else do
      let rest ← skipSeparator ':' separated rest
      let (second, rest) ← field? 2 rest
      let microsecond ← fraction? rest
      return { hour, minute, second, microsecond }

def startsZone (c : Char) : Bool := c == '+' || c == '-' || c == 'Z'

/-- The offset of a time zone in microseconds, less than a day. -/
def zone? (sign : Char) (cs : List Char) : Option Int := do
  if sign = 'Z' then if cs = [] then return 0 else none
  else do
    let clock ← clock? cs
    if clock.total < microsecondsPerDay then return if sign = '-' then -(clock.total : Int) else clock.total else none

/-- The time of the day, and the offset where there is one. -/
def time? (cs : List Char) : Option (Clock × Option Int) := do
  let clock ← clock? (cs.takeWhile fun c => !startsZone c)
  match cs.dropWhile fun c => !startsZone c with
  | [] => return (clock, none)
  | sign :: rest => do
    let zone ← zone? sign rest
    return (clock, some zone)

def Datetime.ofClock? (date : Date) (clock : Clock) : Option Datetime :=
  if clock.hour < 24 ∧ clock.minute < 60 ∧ clock.second < 60 then
    if h : clock.total < microsecondsPerDay then some ⟨date, clock.total, h⟩ else none
  else none

/-- Where the date ends, which in a week date without separators is a guess. -/
def dateLength? (cs : List Char) : Option Nat :=
  if cs.length = 7 then some 7
  else if cs[4]? = some '-' then
    if cs[5]? = some 'W' then
      if cs[8]? = some '-' then
        if cs.length = 9 then none else if cs[10]?.any Char.isDigit then some 8 else some 10
      else some 8
    else some 10
  else if cs[4]? = some 'W' then
    let digitsEnd := 7 + ((cs.drop 7).takeWhile Char.isDigit).length
    if digitsEnd < 9 then some digitsEnd else if digitsEnd % 2 = 0 then some 7 else some 8
  else some 8

/-- `fromisoformat`: the fields, and the offset of an aware time. -/
def fromisoformat (cs : List Char) : Option (Datetime × Option Int) := do
  if cs.length < 7 then none
  else do
    let n ← dateLength? cs
    let date ← date? (cs.take n)
    if cs.drop n = [] then do
      let t ← Datetime.ofClock? date { hour := 0 }
      return (t, none)
    else do
      let (clock, zone) ← time? (cs.drop (n + 1))
      let t ← Datetime.ofClock? date clock
      return (t, zone)

example : (fromisoformat "2024-W09-4T01:02:03.5+09:00".toList).map (fun read => (read.1.instant, read.2)) =
    some (1709168523500000, some 32400000000) := by decide +kernel

/-! ### Digits -/

theorem toNat_digit (n : Nat) : (digit n).toNat = 48 + n % 10 := by
  have hvalid : (48 + n % 10).isValidChar := .inl (by omega)
  rw [digit, Char.ofNat, dif_pos hvalid]
  rfl

theorem isDigit_digit (n : Nat) : (digit n).isDigit = true := by
  have htoNat : (digit n).val.toNat = 48 + n % 10 := toNat_digit n
  rw [Char.isDigit, Bool.and_eq_true, decide_eq_true_eq, decide_eq_true_eq, ge_iff_le, UInt32.le_iff_toNat_le,
    UInt32.le_iff_toNat_le, htoNat]
  have hlow : '0'.val.toNat = 48 := rfl
  have hhigh : '9'.val.toNat = 57 := rfl
  omega

@[simp] theorem length_digits (width n : Nat) : (digits width n).length = width := by
  induction width generalizing n with
  | zero => rfl
  | succ width ih => rw [digits, List.length_cons, ih]

theorem all_isDigit_digits (width n : Nat) : (digits width n).all Char.isDigit = true := by
  induction width generalizing n with
  | zero => rfl
  | succ width ih => rw [digits, List.all_cons, isDigit_digit, ih, Bool.and_self]

theorem foldl_natOf (cs : List Char) (start : Nat) :
    cs.foldl (fun n c => 10 * n + (c.toNat - 48)) start = start * 10 ^ cs.length + natOf cs := by
  induction cs generalizing start with
  | nil => simp [natOf]
  | cons c cs ih =>
    have hcons : natOf (c :: cs) = (10 * 0 + (c.toNat - 48)) * 10 ^ cs.length + natOf cs := ih _
    rw [List.foldl_cons, ih, hcons, List.length_cons, Nat.pow_succ]
    ring

theorem natOf_cons (c : Char) (cs : List Char) : natOf (c :: cs) = (c.toNat - 48) * 10 ^ cs.length + natOf cs := by
  rw [natOf, List.foldl_cons, foldl_natOf, Nat.mul_zero, Nat.zero_add]

theorem natOf_digits {width n : Nat} (h : n < 10 ^ width) : natOf (digits width n) = n := by
  induction width generalizing n with
  | zero =>
    rw [Nat.pow_zero] at h
    rw [Nat.lt_one_iff.1 h]
    rfl
  | succ width ih =>
    have hpos : 0 < 10 ^ width := Nat.pow_pos (by decide)
    have hfirst : n / 10 ^ width < 10 := (Nat.div_lt_iff_lt_mul hpos).2 (by rwa [Nat.pow_succ, Nat.mul_comm] at h)
    rw [digits, natOf_cons, toNat_digit, length_digits, ih (Nat.mod_lt n hpos), Nat.mod_eq_of_lt hfirst,
      Nat.add_sub_cancel_left]
    exact Nat.div_add_mod' n (10 ^ width)

theorem field?_digits {width n : Nat} (h : n < 10 ^ width) (rest : List Char) :
    field? width (digits width n ++ rest) = some (n, rest) := by
  have htake : (digits width n ++ rest).take width = digits width n := List.take_left' (length_digits width n)
  have hdrop : (digits width n ++ rest).drop width = rest := List.drop_left' (length_digits width n)
  rw [field?, htake, hdrop, if_pos ⟨length_digits width n, all_isDigit_digits width n⟩, natOf_digits h]

/-! ### Reading what was printed -/

theorem fraction?_fractionText {microsecond : Nat} (h : microsecond < 1000000) :
    fraction? (fractionText microsecond) = some microsecond := by
  rw [fractionText]
  split
  · rename_i hzero
    rw [hzero]
    rfl
  · have hall := all_isDigit_digits 6 microsecond
    have hne : digits 6 microsecond ≠ [] := List.ne_nil_of_length_pos (by rw [length_digits]; decide)
    have htake : (digits 6 microsecond).take 6 = digits 6 microsecond :=
      List.take_of_length_le (Nat.le_of_eq (length_digits 6 microsecond))
    rw [fraction?, if_pos ⟨.inl rfl, hne, hall⟩, htake, length_digits, natOf_digits h, Nat.sub_self, Nat.pow_zero,
      Nat.mul_one]

theorem skipSeparator_cons (separator : Char) (cs : List Char) :
    skipSeparator separator true (separator :: cs) = some cs := by
  simp [skipSeparator]

theorem clock?_timeText {t : Nat} (h : t < microsecondsPerDay) : clock? (timeText t) =
    some ⟨t / 3600000000, t / 60000000 % 60, t / 1000000 % 60, t % 1000000⟩ := by
  have hday : t < 86400000000 := h
  have hhour : t / 3600000000 < 10 ^ 2 := by omega
  have hminute : t / 60000000 % 60 < 10 ^ 2 := by omega
  have hsecond : t / 1000000 % 60 < 10 ^ 2 := by omega
  have hfraction := fraction?_fractionText (show t % 1000000 < 1000000 by omega)
  rw [clock?, timeText, field?_digits hhour]
  simp only [Option.bind_eq_bind, Option.bind_some, List.head?_cons, beq_self_eq_true, skipSeparator_cons,
    field?_digits hminute, field?_digits hsecond, hfraction, if_neg (List.cons_ne_nil _ _)]
  rfl

theorem ofClock?_timeText {date : Date} {t : Nat} (h : t < microsecondsPerDay) :
    Datetime.ofClock? date ⟨t / 3600000000, t / 60000000 % 60, t / 1000000 % 60, t % 1000000⟩ = some ⟨date, t, h⟩ := by
  have hday : t < 86400000000 := h
  have htotal : Clock.total ⟨t / 3600000000, t / 60000000 % 60, t / 1000000 % 60, t % 1000000⟩ = t := by
    simp only [Clock.total]
    omega
  rw [Datetime.ofClock?, if_pos (by refine ⟨?_, ?_, ?_⟩ <;> dsimp only <;> omega)]
  simp only [htotal, dif_pos h]

theorem startsZone_of_isDigit {c : Char} (h : c.isDigit = true) : startsZone c = false := by
  have hne : ∀ d : Char, d.isDigit = false → (c == d) = false := by
    intro d hd
    rw [beq_eq_false_iff_ne]
    rintro rfl
    rw [h] at hd
    cases hd
  rw [startsZone, hne '+' (by decide), hne '-' (by decide), hne 'Z' (by decide)]
  rfl

theorem startsZone_timeText {t : Nat} {c : Char} (h : c ∈ timeText t) : startsZone c = false := by
  have hdigits : ∀ width n, c ∈ digits width n → startsZone c = false := fun width n hc =>
    startsZone_of_isDigit (List.all_eq_true.1 (all_isDigit_digits width n) c hc)
  have hfraction : ∀ n, c ∈ fractionText n → startsZone c = false := by
    intro n hc
    rw [fractionText] at hc
    split at hc
    · cases hc
    · rcases List.mem_cons.1 hc with rfl | hc
      · rfl
      · exact hdigits _ _ hc
  simp only [timeText, List.mem_append, List.mem_cons] at h
  rcases h with h | rfl | h | rfl | h | h
  · exact hdigits _ _ h
  · rfl
  · exact hdigits _ _ h
  · rfl
  · exact hdigits _ _ h
  · exact hfraction _ h

theorem time?_timeText {t : Nat} (h : t < microsecondsPerDay) {sign : Char} {zone : List Char} {offset : Int}
    (hsign : startsZone sign = true) (hzone : zone? sign zone = some offset) : time? (timeText t ++ sign :: zone) =
      some (⟨t / 3600000000, t / 60000000 % 60, t / 1000000 % 60, t % 1000000⟩, some offset) := by
  have hall : ∀ c ∈ timeText t, (!startsZone c) = true := by
    intro c hc
    rw [startsZone_timeText hc]
    rfl
  have htake : (timeText t ++ sign :: zone).takeWhile (fun c => !startsZone c) = timeText t := by
    rw [List.takeWhile_append_of_pos hall, List.takeWhile_cons, hsign]
    simp
  have hdrop : (timeText t ++ sign :: zone).dropWhile (fun c => !startsZone c) = sign :: zone := by
    rw [List.dropWhile_append_of_pos hall, List.dropWhile_cons, hsign]
    simp
  rw [time?, htake, hdrop, clock?_timeText h]
  simp only [Option.bind_eq_bind, Option.bind_some, hzone]
  rfl

theorem length_dateText (d : Date) : (dateText d).length = 10 := by
  simp [dateText]

theorem date?_dateText (d : Date) : date? (dateText d) = some d := by
  have hyear : d.year < 10 ^ 4 := Nat.lt_of_le_of_lt d.year_mem.2 (by decide)
  have hmonth : d.month < 10 ^ 2 := Nat.lt_of_le_of_lt d.month_mem.2 (by decide)
  have hday := field?_digits (Nat.lt_of_le_of_lt d.day_le (by decide : 31 < 10 ^ 2)) []
  rw [List.append_nil] at hday
  have hdigit : (digits 2 d.month ++ '-' :: digits 2 d.day).head? ≠ some 'W' := by
    rw [digits, List.cons_append, List.head?_cons]
    intro h
    have hW := isDigit_digit (d.month / 10 ^ 1)
    rw [Option.some.inj h] at hW
    cases hW
  rw [date?, dateText, field?_digits hyear]
  simp only [Option.bind_eq_bind, Option.bind_some, List.head?_cons, beq_self_eq_true, skipSeparator_cons, if_neg hdigit,
    field?_digits hmonth, hday, if_true]
  exact d.ofFields?_self

theorem dateLength?_dateText (d : Date) {rest : List Char} : dateLength? (dateText d ++ rest) = some 10 := by
  have hlength : (dateText d ++ rest).length ≠ 7 := by
    rw [List.length_append, length_dateText]
    omega
  have hfour : (dateText d ++ rest)[4]? = some '-' := rfl
  have hfive : (dateText d ++ rest)[5]? ≠ some 'W' := by
    have hmonth : (dateText d ++ rest)[5]? = some (digit (d.month / 10 ^ 1)) := rfl
    rw [hmonth]
    intro h
    have hW := isDigit_digit (d.month / 10 ^ 1)
    rw [Option.some.inj h] at hW
    cases hW
  rw [dateLength?, if_neg hlength, if_pos hfour, if_neg hfive]

/-- A printed time with a zone behind it is read as it is. -/
theorem fromisoformat_isoText (t : Datetime) {sign : Char} {zone : List Char} {offset : Int}
    (hsign : startsZone sign = true) (hzone : zone? sign zone = some offset) :
    fromisoformat (isoText t ++ sign :: zone) = some (t, some offset) := by
  have htext : isoText t ++ sign :: zone = dateText t.date ++ ('T' :: (timeText t.microsecond ++ sign :: zone)) := by
    rw [isoText, List.append_assoc, List.cons_append]
  have hlength : ¬ (dateText t.date ++ ('T' :: (timeText t.microsecond ++ sign :: zone))).length < 7 := by
    rw [List.length_append, length_dateText]
    omega
  have hdrop : ∀ rest : List Char, (dateText t.date ++ rest).drop 10 = rest := fun _ =>
    List.drop_left' (length_dateText t.date)
  have hdropTime : (dateText t.date ++ ('T' :: (timeText t.microsecond ++ sign :: zone))).drop (10 + 1) =
      timeText t.microsecond ++ sign :: zone := by
    rw [← List.drop_drop, hdrop]
    rfl
  rw [htext, fromisoformat, if_neg hlength, dateLength?_dateText]
  simp only [Option.bind_eq_bind, Option.bind_some, List.take_left' (length_dateText t.date), date?_dateText, hdrop,
    hdropTime, if_neg (List.cons_ne_nil _ _), time?_timeText t.microsecond_lt hsign hzone,
    ofClock?_timeText t.microsecond_lt]
  rfl

theorem not_mem_isoText (t : Datetime) : 'Z' ∉ isoText t := by
  intro h
  have hdigits : ∀ {width n}, 'Z' ∉ digits width n := by
    intro width n hZ
    have hdigit := List.all_eq_true.1 (all_isDigit_digits width n) _ hZ
    cases hdigit
  simp only [isoText, dateText, List.mem_append, List.mem_cons] at h
  rcases h with (h | h | h | h | h) | h | h
  · exact hdigits h
  · cases h
  · exact hdigits h
  · cases h
  · exact hdigits h
  · cases h
  · have hzone := startsZone_timeText h
    cases hzone

/-! ### Aware times -/

/-- A time of the clock on the wall, and how far it is ahead of UTC. -/
structure Aware where
  wall : Datetime
  offset : Int

namespace Aware

def instant (t : Aware) : Int := t.wall.instant - t.offset

/-- `t + timedelta(microseconds=...)`, which overflows with the clock on the wall. -/
def plus? (t : Aware) (microseconds : Int) : Option Aware :=
  (Datetime.ofInstant? (t.wall.instant + microseconds)).map fun wall => { t with wall }

theorem instant_of_plus? {t t' : Aware} {microseconds : Int} (h : t.plus? microseconds = some t') :
    t'.instant = t.instant + microseconds := by
  obtain ⟨wall, hwall, rfl⟩ := Option.map_eq_some_iff.1 h
  rw [instant, instant, Datetime.ofInstant?_eq_some hwall]
  show t.wall.instant + microseconds - t.offset = t.wall.instant - t.offset + microseconds
  omega

end Aware

/-- `fromisoformat` of a text that has to have an offset. -/
inductive Reading where
  | malformed
  | naive (t : Datetime)
  | aware (t : Aware)

def read (cs : List Char) : Reading :=
  match fromisoformat cs with
  | none => .malformed
  | some (t, none) => .naive t
  | some (wall, some offset) => .aware { wall, offset }

theorem read_isoText (t : Datetime) : read (isoText t ++ "+00:00".toList) = .aware { wall := t, offset := 0 } := by
  have hread : fromisoformat (isoText t ++ "+00:00".toList) = some (t, some 0) :=
    @fromisoformat_isoText t '+' "00:00".toList 0 (by decide) (by decide)
  rw [read, hread]

/-! ### The order of texts -/

theorem digit_lt_digit {n m : Nat} (h : n < m) (hm : m < 10) : digit n < digit m := by
  rw [Char.lt_def, UInt32.lt_iff_toNat_lt]
  have hn : (digit n).val.toNat = 48 + n % 10 := toNat_digit n
  have hm' : (digit m).val.toNat = 48 + m % 10 := toNat_digit m
  omega

/-- The smaller number has the smaller text, whatever follows the two. -/
theorem digits_lt_digits {width n m : Nat} (h : n < m) (hm : m < 10 ^ width) (rest rest' : List Char) :
    digits width n ++ rest < digits width m ++ rest' := by
  induction width generalizing n m with
  | zero => omega
  | succ width ih =>
    have hpos : 0 < 10 ^ width := Nat.pow_pos (by decide)
    have hfirst : m / 10 ^ width < 10 := (Nat.div_lt_iff_lt_mul hpos).2 (by rwa [Nat.pow_succ, Nat.mul_comm] at hm)
    rw [digits, digits, List.cons_append, List.cons_append, List.cons_lt_cons_iff]
    by_cases hlt : n / 10 ^ width < m / 10 ^ width
    · exact .inl (digit_lt_digit hlt hfirst)
    · have heq : n / 10 ^ width = m / 10 ^ width :=
        Nat.le_antisymm (Nat.div_le_div_right (Nat.le_of_lt h)) (Nat.le_of_not_lt hlt)
      refine .inr ⟨by rw [heq], ih ?_ (Nat.mod_lt m hpos)⟩
      have hn := Nat.div_add_mod n (10 ^ width)
      have hm' := Nat.div_add_mod m (10 ^ width)
      rw [heq] at hn
      omega

theorem append_lt_append {cs rest rest' : List Char} (h : rest < rest') : cs ++ rest < cs ++ rest' := by
  induction cs with
  | nil => exact h
  | cons c cs ih => exact List.cons_lt_cons_iff.2 (.inr ⟨rfl, ih⟩)

theorem cons_lt_cons {c : Char} {rest rest' : List Char} (h : rest < rest') : c :: rest < c :: rest' :=
  List.cons_lt_cons_iff.2 (.inr ⟨rfl, h⟩)

theorem dateText_lt {d d' : Date} (h : d.ordinal < d'.ordinal) (rest rest' : List Char) :
    dateText d ++ rest < dateText d' ++ rest' := by
  have hyears : d'.year < 10 ^ 4 := Nat.lt_of_le_of_lt d'.year_mem.2 (by decide)
  have hmonths : d'.month < 10 ^ 2 := Nat.lt_of_le_of_lt d'.month_mem.2 (by decide)
  have hdays : d'.day < 10 ^ 2 := Nat.lt_of_le_of_lt d'.day_le (by decide)
  simp only [dateText, List.append_assoc, List.cons_append]
  rcases Nat.lt_trichotomy d.year d'.year with hlt | hyear | hgt
  · exact digits_lt_digits hlt hyears _ _
  · rw [hyear]
    refine append_lt_append (cons_lt_cons ?_)
    rcases Nat.lt_trichotomy d.month d'.month with hlt | hmonth | hgt
    · exact digits_lt_digits hlt hmonths _ _
    · rw [hmonth]
      refine append_lt_append (cons_lt_cons ?_)
      rcases Nat.lt_trichotomy d.day d'.day with hlt | hday | hgt
      · exact digits_lt_digits hlt hdays _ _
      · rw [Date.ordinal, Date.ordinal, hyear, hmonth, hday] at h
        exact absurd h (Nat.lt_irrefl _)
      · exact absurd (Date.ordinal_lt_of_day hyear.symm hmonth.symm hgt) (Nat.lt_asymm h)
    · exact absurd (Date.ordinal_lt_of_month hyear.symm hgt) (Nat.lt_asymm h)
  · exact absurd (Date.ordinal_lt_of_year hgt) (Nat.lt_asymm h)

/-- Times without a fraction. -/
theorem timeText_lt {t t' : Nat} (hwhole : t % 1000000 = 0) (hwhole' : t' % 1000000 = 0) (h : t < t')
    (ht' : t' < microsecondsPerDay) (rest rest' : List Char) : timeText t ++ rest < timeText t' ++ rest' := by
  have hday : t' < 86400000000 := ht'
  simp only [timeText, fractionText, hwhole, hwhole', if_true, List.append_assoc, List.cons_append, List.nil_append]
  rcases Nat.lt_or_ge (t / 3600000000) (t' / 3600000000) with hlt | hhour
  · exact digits_lt_digits hlt (by omega) _ _
  · have hsame : t / 3600000000 = t' / 3600000000 := by omega
    rw [hsame]
    refine append_lt_append (cons_lt_cons ?_)
    rcases Nat.lt_or_ge (t / 60000000 % 60) (t' / 60000000 % 60) with hlt | hminute
    · exact digits_lt_digits hlt (by omega) _ _
    · have hsame' : t / 60000000 % 60 = t' / 60000000 % 60 := by omega
      rw [hsame']
      refine append_lt_append (cons_lt_cons ?_)
      exact digits_lt_digits (by omega) (by omega) _ _

/-- A text of whole seconds is in order with the other texts of whole seconds. -/
def IsWhole (t : Datetime) : Prop := t.microsecond % 1000000 = 0

theorem isoformatZ_lt_of_lt {t t' : Datetime} (ht : IsWhole t) (ht' : IsWhole t') (h : t.instant < t'.instant) :
    isoformatZ t < isoformatZ t' := by
  rw [String.lt_iff_toList_lt, isoformatZ, isoformatZ, String.toList_ofList, String.toList_ofList, isoText, isoText,
    List.append_assoc, List.append_assoc]
  have hlt := t.microsecond_lt
  have hlt' := t'.microsecond_lt
  rw [Datetime.instant, Datetime.instant] at h
  simp only [microsecondsPerDay, microsecondsPerSecond] at *
  rcases Nat.lt_trichotomy t.date.ordinal t'.date.ordinal with hdate | hdate | hdate
  · exact dateText_lt hdate _ _
  · have hsame : t.date = t'.date := by
      have hsome := Date.ofOrdinal?_ordinal t.date
      rw [hdate, Date.ofOrdinal?_ordinal] at hsome
      exact (Option.some.inj hsome).symm
    rw [hsame]
    refine append_lt_append (cons_lt_cons ?_)
    exact timeText_lt ht ht' (by omega) hlt' _ _
  · omega

theorem isoformatZ_lt_iff {t t' : Datetime} (ht : IsWhole t) (ht' : IsWhole t') :
    isoformatZ t < isoformatZ t' ↔ t.instant < t'.instant := by
  refine ⟨fun h => ?_, isoformatZ_lt_of_lt ht ht'⟩
  rcases lt_trichotomy t.instant t'.instant with hlt | heq | hgt
  · exact hlt
  · have hsame := Datetime.ofInstant?_instant t
    rw [heq, Datetime.ofInstant?_instant, Option.some.injEq] at hsame
    rw [hsame] at h
    exact absurd h (lt_irrefl _)
  · exact absurd h (lt_asymm (isoformatZ_lt_of_lt ht' ht hgt))

end IsoText
