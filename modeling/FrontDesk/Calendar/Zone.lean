/-
Time zones: how far the clocks of a place are ahead of universal time at a given instant.

A zone is a row of eras. In an era the offset is fixed or follows a yearly rule, by which clocks go
forward on one Sunday and back on another. Which zones there are is up to a database of zones.
-/
import FrontDesk.Calendar.Moment

namespace FrontDesk.Calendar

/-- A change of clocks: a Sunday of a month, counted from its start, the fifth standing for the
last; and the time of that day in seconds on the clock before the change. -/
structure Change where
  month : Nat
  week : Nat
  time : Int
  deriving DecidableEq, Repr

/-- The day of a change in a year. -/
def Change.day (c : Change) (year : Nat) : Nat :=
  let first := Date.toDay { year, month := c.month, day := 1 }
  let sunday := first + (7 - weekday first) % 7
  let nth := sunday + 7 * (c.week - 1)
  if nth < first + daysInMonth year c.month then nth else nth - 7

/-- The instant of a change in a year, in seconds of universal time, the clock being so many
seconds ahead before it. -/
def Change.instant (c : Change) (year : Nat) (ahead : Int) : Int :=
  (c.day year : Int) * 86400 + c.time - ahead

/-- How far clocks are ahead of universal time, in seconds. -/
inductive OffsetRule where
  | fixed (seconds : Int)
  | yearly (standard summer : Int) (forward back : Change)
  deriving DecidableEq, Repr

/-- The offset a rule gives at an instant in seconds. -/
def OffsetRule.offsetAt : OffsetRule → Int → Int
  | fixed seconds, _ => seconds
  | yearly standard summer forward back, t =>
    let year := (Date.ofDay (t / 86400).toNat).year
    let f := forward.instant year standard
    let b := back.instant year summer
    let isSummer := if f < b then f ≤ t && t < b else !(b ≤ t && t < f)
    if isSummer then summer else standard

/-- A zone: the rule before all eras, and the eras in order, each from its first second on. -/
structure Zone where
  first : OffsetRule
  eras : List (Int × OffsetRule) := []
  deriving DecidableEq, Repr

namespace Zone

/-- The rule in force at an instant in seconds. -/
def ruleAt (z : Zone) (t : Int) : OffsetRule :=
  z.eras.foldl (fun rule (start, next) => if start ≤ t then next else rule) z.first

/-- The offset in microseconds at an instant in ticks. -/
def offsetAt (z : Zone) (instant : Int) : Int :=
  let t := instant / second
  (z.ruleAt t).offsetAt t * second

/-- The zone with one offset for ever. -/
def fixed (seconds : Int) : Zone := { first := .fixed seconds }

/-- Universal time. -/
def utc : Zone := fixed 0

/-- What a name stands for. -/
inductive Lookup where
  | zone (z : Zone)
  /-- Zones are kept under the name, which is none itself. -/
  | region
  /-- No zone has the name, or none can have it. -/
  | unknown
  deriving DecidableEq, Repr

/-- A database of zones: what each name stands for. -/
abbrev Database := String → Lookup

end Zone

/-- The moment on the clocks of a zone. -/
def Moment.inZone (m : Moment) (z : Zone) : Except ClockError Moment :=
  m.onClock (z.offsetAt m.instant)

end FrontDesk.Calendar
