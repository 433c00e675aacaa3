/-!
# Waymark.Http.Date

Dates in headers, such as `Sun, 06 Nov 1994 08:49:37 GMT`.

Days are counted in eras of 400 years, which all have the same number of days,
from the first of March of the year 0, so that a leap day ends its year.
-/

namespace Waymark.Http

/-- A day of the Gregorian calendar. -/
structure Day where
  /-- The year. -/
  year : Nat
  /-- The month, from 1. -/
  month : Nat
  /-- The day of the month, from 1. -/
  day : Nat
  deriving DecidableEq, Repr

/-- The days from the first of March of the year 0 to the beginning of 1970. -/
def daysToEpoch : Nat := 719468

/-- The day that is some days after the beginning of 1970. -/
def Day.ofCount (days : Nat) : Day :=
  let z := days + daysToEpoch
  let era := z / 146097
  let dayOfEra := z % 146097
  let yearOfEra := (dayOfEra - dayOfEra / 1460 + dayOfEra / 36524 - dayOfEra / 146096) / 365
  let dayOfYear := dayOfEra - (365 * yearOfEra + yearOfEra / 4 - yearOfEra / 100)
  let monthFromMarch := (5 * dayOfYear + 2) / 153
  let day := dayOfYear - (153 * monthFromMarch + 2) / 5 + 1
  let month := if monthFromMarch < 10 then monthFromMarch + 3 else monthFromMarch - 9
  ⟨400 * era + yearOfEra + (if month ≤ 2 then 1 else 0), month, day⟩

/-- The names of the days of the week, beginning with that of the first day of
1970. -/
def weekdayNames : List String := ["Thu", "Fri", "Sat", "Sun", "Mon", "Tue", "Wed"]

/-- The names of the months. -/
def monthNames : List String :=
  ["Jan", "Feb", "Mar", "Apr", "May", "Jun", "Jul", "Aug", "Sep", "Oct", "Nov", "Dec"]

/-- A number with at least `width` digits. -/
def padded (width n : Nat) : String :=
  let digits := Nat.toDigits 10 n
  String.ofList (List.replicate (width - digits.length) '0' ++ digits)

/-- The date of a time given in seconds since the beginning of 1970. It is meant
for times up to the end of the year 9999: dates in headers have years of four
digits, and there is none for a later time. -/
def printDate (seconds : Nat) : String :=
  let days := seconds / 86400
  let rest := seconds % 86400
  let day := Day.ofCount days
  weekdayNames.getD (days % 7) "" ++ ", " ++ padded 2 day.day ++ " " ++
    monthNames.getD (day.month - 1) "" ++ " " ++ padded 4 day.year ++ " " ++
    padded 2 (rest / 3600) ++ ":" ++ padded 2 (rest / 60 % 60) ++ ":" ++ padded 2 (rest % 60) ++
    " GMT"

end Waymark.Http
