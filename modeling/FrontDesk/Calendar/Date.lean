/-
Dates of the Gregorian calendar, carried back to the year 1.

A day is counted from 0001-01-01, which is day 0 and a Monday. `Date.toDay` and `Date.ofDay` go
between a date and its day.
-/
import FrontDesk.Number.Shortest

namespace FrontDesk.Calendar

/-- A date of the years 1 to 9999. -/
structure Date where
  year : Nat
  month : Nat
  day : Nat
  deriving DecidableEq, Repr

/-- Whether the year has a 29 February. -/
def isLeapYear (y : Nat) : Bool := y % 4 == 0 && (y % 100 != 0 || y % 400 == 0)

/-- The days of the months of a year. -/
def monthLengths (leap : Bool) : List Nat :=
  [31, if leap then 29 else 28, 31, 30, 31, 30, 31, 31, 30, 31, 30, 31]

/-- The days of a month. -/
def daysInMonth (y m : Nat) : Nat := (monthLengths (isLeapYear y)).getD (m - 1) 0

/-- The days from the start of year 1 to the start of the given year. -/
def daysBeforeYear (y : Nat) : Nat := (y - 1) * 365 + (y - 1) / 4 - (y - 1) / 100 + (y - 1) / 400

/-- The days of a year before the given month. -/
def daysBeforeMonth (y m : Nat) : Nat :=
  ((monthLengths (isLeapYear y)).take (m - 1)).foldl (· + ·) 0

/-- The last year a date can have. -/
def maxYear : Nat := 9999

/-- The number of days of all the years. -/
def allDays : Nat := daysBeforeYear (maxYear + 1)

namespace Date

/-- Whether there is such a date. -/
def isValid (d : Date) : Bool :=
  1 ≤ d.year && d.year ≤ maxYear && 1 ≤ d.month && d.month ≤ 12 && 1 ≤ d.day
    && d.day ≤ daysInMonth d.year d.month

/-- The day of a date. -/
def toDay (d : Date) : Nat := daysBeforeYear d.year + daysBeforeMonth d.year d.month + (d.day - 1)

/-- The month and day within a year, of which the months listed are left, from the number of days
since the first of them began. -/
def inYear (month rest : Nat) : List Nat → Nat × Nat
  | [] => (month, rest + 1)
  | length :: later =>
    if rest < length then (month, rest + 1) else inYear (month + 1) (rest - length) later

/-- The date of a day: whole spans of 400, 100, 4 and 1 years are taken off in turn. The last day
of a leap span belongs to the span although it is one more than its years have otherwise. -/
def ofDay (n : Nat) : Date :=
  let n400 := n / 146097
  let r := n % 146097
  let n100 := min 3 (r / 36524)
  let r := r - n100 * 36524
  let n4 := r / 1461
  let r := r % 1461
  let n1 := min 3 (r / 365)
  let year := 400 * n400 + 100 * n100 + 4 * n4 + n1 + 1
  let (month, day) := inYear 1 (r - n1 * 365) (monthLengths (isLeapYear year))
  { year, month, day }

/-- The date as `YYYY-MM-DD`. -/
def isoText (d : Date) : String :=
  Number.padZeros 4 (toString d.year) ++ "-" ++ Number.padZeros 2 (toString d.month) ++ "-"
    ++ Number.padZeros 2 (toString d.day)

end Date

/-- The day of the week of a day, Sunday being 0. -/
def weekday (day : Nat) : Nat := (day + 1) % 7

end FrontDesk.Calendar
