/-
Reports: how often a flow was used, and how its conversations went.

The timeline covers the last fourteen days, one point for each day on which conversations began.
-/
import FrontDesk.Conversation.Session

namespace FrontDesk

open Calendar Number

/-- Counts of the conversations of a flow. -/
structure Counts where
  total : Nat
  active : Nat
  completed : Nat
  transferred : Nat
  deriving DecidableEq, Repr

/-- A day of a timeline. -/
structure TimelinePoint where
  date : String
  started : Nat
  completed : Nat
  deriving DecidableEq, Repr

/-- A report on a flow. -/
structure Report where
  id : String
  name : String
  total : Nat
  completed : Nat
  transferred : Nat
  /-- How long completed conversations took, in seconds on average. -/
  averageDuration : Int
  /-- How many of a hundred conversations were completed. -/
  completionRate : Int
  timeline : List TimelinePoint
  deriving DecidableEq, Repr

namespace Counts

/-- The counts of some sessions. -/
def ofSessions (ss : List Session) : Counts :=
  { total := ss.length
    active := ss.countP Session.isActive
    completed := ss.countP (!·.isActive)
    transferred := ss.countP (·.transferredAt.isSome) }

/-- The counts, under names written in the given way. -/
def toJson (name : String → String) (c : Counts) : Json :=
  .object
    [(name "total_sessions", .nat c.total),
     (name "active_sessions", .nat c.active),
     (name "completed_sessions", .nat c.completed),
     (name "transfer_count", .nat c.transferred)]

end Counts

namespace Report

/-- How many days a timeline goes back. -/
def timelineDays : Int := 14

/-- How long the completed sessions took, in seconds. -/
def durations : List Session → Except ClockError (List Binary64)
  | [] => return []
  | s :: rest =>
    match s.completedAt with
    | none => durations rest
    | some done => do
      let ticks ← done.since s.createdAt
      return Binary64.ofQuotient ticks second.natAbs :: (← durations rest)

/-- The mean of some durations, to the nearest second; zero if there are none. -/
def average (xs : List Binary64) : Int :=
  if xs.isEmpty then 0
  else ((xs.foldl Binary64.add (Binary64.signedZero false)).divNat xs.length).round

/-- How many of a hundred, to the nearest number; zero if there are none. -/
def rate (part total : Nat) : Int :=
  if total == 0 then 0 else ((Binary64.ofQuotient part total).mulNat 100).round

/-- The sessions created at a moment or later. -/
def startedSince (start : Moment) : List Session → Except ClockError (List Session)
  | [] => return []
  | s :: rest => do
    let before ← s.createdAt.isBefore start
    let later ← startedSince start rest
    return if before then later else s :: later

/-- Counts a session on its day, which gets a point if it has none. -/
def count (points : List TimelinePoint) (s : Session) : List TimelinePoint :=
  let date := s.createdAt.date.isoText
  let done := if s.isActive then 0 else 1
  let rec go : List TimelinePoint → List TimelinePoint
    | [] => [⟨date, 1, done⟩]
    | p :: rest =>
      if p.date == date then ⟨date, p.started + 1, p.completed + done⟩ :: rest else p :: go rest
  go points

/-- The timeline of some sessions, the earliest first. -/
def timelineOf (ss : List Session) : List TimelinePoint :=
  (ss.mergeSort fun a b => a.createdAt.instant ≤ b.createdAt.instant).foldl count []

/-- The report on a flow from its sessions, at a given time. -/
def ofSessions (id name : String) (ss : List Session) (now : Moment) :
    Except ClockError Report := do
  let durations ← durations ss
  let start ← now.later (-timelineDays * day)
  let recent ← startedSince start ss
  let completed := ss.filter (·.completedAt.isSome)
  return { id, name
           total := ss.length
           completed := completed.length
           transferred := ss.countP (·.transferredAt.isSome)
           averageDuration := average durations
           completionRate := rate completed.length ss.length
           timeline := timelineOf recent }

/-- A day of a timeline as front ends get it. -/
def pointJson (p : TimelinePoint) : Json :=
  .object
    [("date", .string p.date), ("started", .nat p.started), ("completed", .nat p.completed)]

/-- The report as front ends get it. -/
def toJson (r : Report) : Json :=
  .object
    [("id", .string r.id),
     ("name", .string r.name),
     ("totalSessions", .nat r.total),
     ("completedSessions", .nat r.completed),
     ("transferCount", .nat r.transferred),
     ("averageDurationSeconds", .int r.averageDuration),
     ("completionRate", .int r.completionRate),
     ("timeline", .list (r.timeline.map pointJson))]

end Report

end FrontDesk
