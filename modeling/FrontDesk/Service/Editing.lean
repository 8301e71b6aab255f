/-
Editing the catalog: flows are created, changed and deleted, listed and reported on.

At most one flow is meant to be primary: when one is saved as primary, the others are demoted in
the step after it.
-/
import FrontDesk.Catalog.Report
import FrontDesk.Service.Job

namespace FrontDesk.Editing

open Calendar Service

variable (now : Moment)

/-- A flow of the catalog. -/
def get (id : String) : Job Flow := do
  match ← Job.store (.flow id) with
  | some f => return f
  | none => Job.failed (.flowNotFound id)

/-- Saves a flow, demoting the others if it is primary. -/
def save (f : Flow) : Job Flow := do
  let saved ← Job.store (.saveFlow f)
  if saved.isPrimary then Job.store (.demoteOthers saved.id)
  return saved

/-- The line of the log for something done to a flow. -/
def line (done : String) (f : Flow) : String := done ++ " flow '" ++ f.name ++ "' (" ++ f.id ++ ")"

/-- Creates a flow. -/
def create (d : Draft) : Job Flow := do
  let flow ← Job.ofExcept .refused d.create
  let id ← Job.request .newFlowId
  let saved ← save (flow id now)
  Job.log .info (line "Created" saved)
  return saved

/-- Changes a flow. -/
def update (id : String) (d : Draft) : Job Flow := do
  let existing ← get id
  let flow ← Job.ofExcept .graph (d.update existing now)
  let saved ← save flow
  Job.log .info (line "Updated" saved)
  return saved

/-- Deletes a flow. -/
def delete (id : String) : Job Unit := do
  if ← Job.store (.deleteFlow id) then Job.log .info ("Deleted flow " ++ id)
  else Job.failed (.flowNotFound id)

/-- Flows with the counts of their sessions. -/
def countAll : List Flow → Job (List (Flow × Counts))
  | [] => return []
  | f :: rest => do
    let ss ← Job.store (.sessionsOf f.id)
    return (f, Counts.ofSessions ss) :: (← countAll rest)

/-- All flows with the counts of their sessions. -/
def list : Job (List (Flow × Counts)) := do
  let fs ← Job.store .flows
  countAll fs

/-- The report on a flow. -/
def report (id : String) : Job Report := do
  let f ← get id
  let ss ← Job.store (.sessionsOf f.id)
  Job.ofExcept .clock (Report.ofSessions f.id f.name ss now)

end FrontDesk.Editing
