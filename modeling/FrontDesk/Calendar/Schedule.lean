/-
Operating hours: a week's windows on the clock of a place.

A window lies on the days it lists, Sunday being 0, and both its ends belong to it. One that ends
before it starts goes on into the day after. Reading is lenient: a window without days, start or
end is dropped.
-/
import FrontDesk.Calendar.Zone
import FrontDesk.Graph.Reader
import FrontDesk.Number.Integer

namespace FrontDesk

open Calendar

/-- A window of a week, with its ends as `HH:MM`. -/
structure Window where
  days : List Int
  opening : String
  closing : String
  deriving DecidableEq, Repr

/-- Operating hours. -/
structure Schedule where
  zone : String
  windows : List Window
  enabled : Bool
  /-- What is said outside the hours. -/
  fallback : Option String
  deriving DecidableEq, Repr

namespace Window

/-- A whole number. -/
def readDay : Json → Option Int
  | .int n => some n
  | _ => none

/-- A window, if it has days and both ends. -/
def ofJson (v : Json) : Option Window := do
  let days := (v.field "days").items.filterMap readDay
  if days.isEmpty then none
  else
    let opening ← Graph.optionalString (v.field "start")
    let closing ← Graph.optionalString (v.field "end")
    return { days, opening, closing }

/-- The minutes since midnight that `HH:MM` stands for. What is not a number counts as zero. -/
def minutes (s : String) : Int :=
  let cs := s.toList
  let hour := String.ofList (cs.takeWhile (· != ':'))
  let minute := String.ofList ((cs.dropWhile (· != ':')).drop 1)
  (Number.readInt? hour).getD 0 * 60 + (Number.readInt? minute).getD 0

/-- Whether the window holds a minute of a day of the week. -/
def holds (w : Window) (weekday minute : Int) : Bool :=
  let first := minutes w.opening
  let last := minutes w.closing
  if first ≤ last then w.days.contains weekday && first ≤ minute && minute ≤ last
  else
    (w.days.contains weekday && first ≤ minute)
      || (w.days.contains ((weekday - 1) % 7) && minute ≤ last)

end Window

namespace Schedule

/-- Operating hours, if there is an object that gives them. They are enabled if any window is
listed, unless they say otherwise. -/
def ofJson (v : Json) : Option Schedule :=
  if v.isObject then
    let listed := (v.field "windows").items
    some
      { zone := (Graph.optionalString (v.field "timezone")).getD "UTC"
        windows := listed.filterMap Window.ofJson
        enabled := (v.field "enabled").bool?.getD !listed.isEmpty
        fallback := Graph.optionalString (v.field "fallbackMessage") }
  else none

/-- Why it cannot be said whether hours are open. -/
inductive Fault where
  /-- The zone is the name of a region of zones. -/
  | regionAsZone
  | clock (e : ClockError)
  deriving DecidableEq, Repr

/-- The zone of the hours. A name that is not known stands for universal time. -/
def zoneOf (zones : Zone.Database) (name : String) : Except Fault Zone :=
  match zones name with
  | .zone z => .ok z
  | .unknown => .ok .utc
  | .region => .error .regionAsZone

/-- Whether a moment on the clock of the place lies in a window. -/
def holds (s : Schedule) (here : Moment) : Bool :=
  s.windows.any fun w => w.holds (weekday here.dayNumber) here.minuteOfDay

/-- Whether hours are open, their zone being looked up in a database. Where there are none they
always are, and so are those that are not enabled or have no windows. A moment on no known clock is
one of universal time. -/
def isOpenBy (zones : Zone.Database) (s : Option Schedule) (now : Moment) : Except Fault Bool :=
  match s with
  | none => .ok true
  | some s =>
    if !s.enabled || s.windows.isEmpty then .ok true
    else do
      let zone ← zoneOf zones s.zone
      match now.inZone zone with
      | .ok here => return s.holds here
      | .error e => throw (.clock e)

end Schedule

end FrontDesk
