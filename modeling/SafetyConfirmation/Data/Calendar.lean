import SafetyConfirmation.Data.Value

/-!
# Instants as the lambdas print them

The two formats of `datetime.now(UTC)` that reach a stored row: the month in an S3 key and the ISO text, which drops
what is below a second.
-/

namespace SafetyConfirmation

namespace Instant

def microsecondsPerDay : Int := 86400 * 1000000

/-- Year and month of a day counted from the Unix epoch, in the proleptic Gregorian calendar. -/
def yearMonth (day : Int) : Int × Nat :=
  -- Days since 1 March of the year 0, so that the leap day ends its year.
  let shifted := day + 719468
  let era := shifted / 146097
  let dayOfEra := shifted - era * 146097
  let yearOfEra := (dayOfEra - dayOfEra / 1460 + dayOfEra / 36524 - dayOfEra / 146096) / 365
  let dayOfYear := dayOfEra - (365 * yearOfEra + yearOfEra / 4 - yearOfEra / 100)
  let month := (5 * dayOfYear + 2) / 153
  let year := yearOfEra + era * 400
  if month < 10 then (year, (month + 3).toNat) else (year + 1, (month - 9).toNat)

def formatYyyymm (now : Instant) : String :=
  let (year, month) := yearMonth (now / microsecondsPerDay)
  toString year ++ (if month < 10 then "0" else "") ++ toString month

/-- The instant the text of `isoformat(timespec="seconds")` stands for. -/
def truncateToSeconds (now : Instant) : Instant := now / 1000000 * 1000000

/-- The days of the month up to `day`: those among the last 31 that fall into it. -/
def dayOfMonth (day : Int) : Nat := (List.range 31).countP fun (n : Nat) => yearMonth (day - n) = yearMonth day

def twoDigits (n : Nat) : String := (if n < 10 then "0" else "") ++ toString n

/-- `isoformat(timespec="seconds")` with the suffix `Z`. -/
def isoText (now : Instant) : String :=
  let day := now / microsecondsPerDay
  let (year, month) := yearMonth day
  let second := (now % microsecondsPerDay / 1000000).toNat
  toString year ++ "-" ++ twoDigits month ++ "-" ++ twoDigits (dayOfMonth day) ++ "T" ++ twoDigits (second / 3600) ++ ":" ++
    twoDigits (second / 60 % 60) ++ ":" ++ twoDigits (second % 60) ++ "Z"

example : formatYyyymm 0 = "197001" := by decide

-- 29 February 2024 and the day after it.
example : formatYyyymm (19782 * microsecondsPerDay) = "202402" ∧ formatYyyymm (19783 * microsecondsPerDay) = "202403" := by
  decide

example : isoText (19782 * microsecondsPerDay + 3661 * 1000000 + 5) = "2024-02-29T01:01:01Z" := by decide

end Instant

end SafetyConfirmation
