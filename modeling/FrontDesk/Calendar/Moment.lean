/-
Moments: a date and time on some clock, with or without the distance of that clock from universal
time.

Two moments are compared by the instant they stand for; a moment whose clock is not known cannot be
compared with one whose clock is.
-/
import FrontDesk.Calendar.Date

namespace FrontDesk.Calendar

/-- Microseconds in a second. -/
def second : Int := 1000000

/-- Microseconds in a minute. -/
def minute : Int := 60 * second

/-- Microseconds in an hour. -/
def hour : Int := 60 * minute

/-- Microseconds in a day. -/
def day : Int := 24 * hour

/-- A date and time. `ticks` are the microseconds on its own clock since the start of year 1;
`offset` says how far that clock is ahead of universal time, if that is known. -/
structure Moment where
  ticks : Int
  offset : Option Int
  deriving DecidableEq, Repr, Inhabited

/-- Why two moments or a moment and a distance do not go together. -/
inductive ClockError where
  /-- One clock is known and the other is not. -/
  | incomparable
  /-- The same, for a difference. -/
  | noDifference
  /-- Before the year 1 or after the year 9999. -/
  | outOfRange
  deriving DecidableEq, Repr

/-- The wording of an error. -/
def ClockError.message : ClockError → String
  | incomparable => "can't compare offset-naive and offset-aware datetimes"
  | noDifference => "can't subtract offset-naive and offset-aware datetimes"
  | outOfRange => "date value out of range"

namespace Moment

/-- Whether the ticks lie in the years 1 to 9999. -/
def inRange (ticks : Int) : Bool := 0 ≤ ticks && ticks < (allDays : Int) * day

/-- A moment of universal time. -/
def utc (ticks : Int) : Moment := ⟨ticks, some 0⟩

/-- The instant of a moment in ticks of universal time; a clock that is not known counts as
universal time. -/
def instant (m : Moment) : Int := m.ticks - m.offset.getD 0

/-- The same instant on the clock with the given offset. -/
def onClock (m : Moment) (offset : Int) : Except ClockError Moment :=
  if inRange m.instant && inRange (m.instant + offset) then
    .ok ⟨m.instant + offset, some offset⟩
  else .error .outOfRange

/-- Whether both clocks are known or neither is. -/
def comparable (a b : Moment) : Bool := a.offset.isSome == b.offset.isSome

/-- Whether the first moment is before the second. -/
def isBefore (a b : Moment) : Except ClockError Bool :=
  if a.comparable b then .ok (a.instant < b.instant) else .error .incomparable

/-- The microseconds from the second moment to the first. -/
def since (a b : Moment) : Except ClockError Int :=
  if a.comparable b then .ok (a.instant - b.instant) else .error .noDifference

/-- The moment some microseconds later on the same clock. -/
def later (m : Moment) (ticks : Int) : Except ClockError Moment :=
  if inRange (m.ticks + ticks) then .ok { m with ticks := m.ticks + ticks } else .error .outOfRange

/-- The day of a moment on its own clock. -/
def dayNumber (m : Moment) : Nat := (m.ticks / Calendar.day).toNat

/-- The date of a moment on its own clock. -/
def date (m : Moment) : Date := .ofDay m.dayNumber

/-- The microseconds of the day that have passed. -/
def timeOfDay (m : Moment) : Int := m.ticks % Calendar.day

/-- The whole minutes of the day that have passed. -/
def minuteOfDay (m : Moment) : Int := m.timeOfDay / Calendar.minute

/-- Two digits. -/
def two (n : Int) : String := Number.padZeros 2 (toString n)

/-- `HH:MM:SS` and, unless they are zero, six digits of a second. -/
def clockText (ticks : Int) : String :=
  let micros := ticks % Calendar.second
  two (ticks / Calendar.hour) ++ ":" ++ two (ticks / Calendar.minute % 60) ++ ":"
    ++ two (ticks / Calendar.second % 60)
    ++ if micros == 0 then "" else "." ++ Number.padZeros 6 (toString micros)

/-- `±HH:MM`, with seconds where the offset has any. -/
def offsetText (offset : Int) : String :=
  let n : Int := offset.natAbs
  let text := clockText n
  (if offset < 0 then "-" else "+")
    ++ if n % Calendar.minute == 0 then String.ofList (text.toList.take 5) else text

/-- Date and time, without the offset. -/
def localText (m : Moment) : String := m.date.isoText ++ "T" ++ clockText m.timeOfDay

/-- The moment in ISO 8601, universal time being written `+00:00`. -/
def isoText (m : Moment) : String :=
  m.localText ++ (m.offset.map offsetText).getD ""

/-- The moment in ISO 8601, universal time being written `Z`. -/
def stampText (m : Moment) : String :=
  match m.offset with
  | some 0 => m.localText ++ "Z"
  | some offset => m.localText ++ offsetText offset
  | none => m.localText

end Moment

/-! ## Reading ISO 8601 -/

namespace Iso

/-- The number of exactly as many digits, and the text after them. -/
def digits? (count : Nat) (cs : List Char) : Option (Nat × List Char) :=
  let ds := cs.take count
  if ds.length == count && ds.all Char.isDigit then
    some (ds.foldl (fun n c => 10 * n + (c.toNat - '0'.toNat)) 0, cs.drop count)
  else none

/-- A separator and two digits, if the text goes on with the separator. -/
def part? (separator : Char) (cs : List Char) : Option (Option Nat × List Char) :=
  match cs with
  | c :: rest =>
    if c == separator then (digits? 2 rest).map fun (n, rest) => (some n, rest)
    else some (none, cs)
  | [] => some (none, [])

/-- The microseconds that digits after a decimal mark stand for; digits after the sixth are
dropped. -/
def fraction? (cs : List Char) : Option (Nat × List Char) :=
  match cs with
  | c :: rest =>
    if c == '.' || c == ',' then
      let ds := rest.takeWhile Char.isDigit
      if ds.isEmpty then none
      else do
        let (n, _) ← digits? 6 ((ds ++ List.replicate 6 '0').take 6)
        some (n, rest.dropWhile Char.isDigit)
    else some (0, cs)
  | [] => some (0, [])

/-- `HH[:MM[:SS[.ffffff]]]` as microseconds. -/
def clock? (cs : List Char) : Option (Int × List Char) := do
  let (h, rest) ← digits? 2 cs
  let (m, rest) ← part? ':' rest
  match m with
  | none => some (h * hour, rest)
  | some m =>
    let (s, rest) ← part? ':' rest
    match s with
    | none =>
      if m < 60 then some (h * hour + m * minute, rest) else none
    | some s =>
      let (f, rest) ← fraction? rest
      if m < 60 && s < 60 then some (h * hour + m * minute + s * second + f, rest) else none

/-- The offset at the end of the text, none if the text ends here. -/
def offset? : List Char → Option (Option Int)
  | [] => some none
  | ['Z'] => some (some 0)
  | sign :: rest =>
    if sign == '+' || sign == '-' then
      match clock? rest with
      | some (ticks, []) =>
        if ticks < day then some (some (if sign == '-' then -ticks else ticks)) else none
      | _ => none
    else none

end Iso

/-- Reads a moment in ISO 8601: a date, and after any separator a time with an optional offset. -/
def Moment.parse? (s : String) : Option Moment := do
  let (year, rest) ← Iso.digits? 4 s.toList
  let (month, rest) ← Iso.part? '-' rest
  let month ← month
  let (dayOfMonth, rest) ← Iso.part? '-' rest
  let dayOfMonth ← dayOfMonth
  let date : Date := { year, month, day := dayOfMonth }
  let midnight : Int := date.toDay * day
  if !date.isValid then none
  else
    match rest with
    | [] => some ⟨midnight, none⟩
    | _ :: rest =>
      let (ticks, rest) ← Iso.clock? rest
      let offset ← Iso.offset? rest
      if ticks < day then some ⟨midnight + ticks, offset⟩ else none

end FrontDesk.Calendar
