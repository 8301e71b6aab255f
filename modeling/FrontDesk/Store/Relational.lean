/-
A store of rows in three tables.

Moments are kept in universal time, and the state of a session as JSON. A session refers to its
flow and an interaction to its session; a row that refers to none is refused, and deleting a flow
takes with it all that refers to it. Saving a session writes what a conversation changes, no more.
-/
import FrontDesk.Store.Request

namespace FrontDesk.Store

open Calendar

/-- A session as a row. -/
structure SessionRow where
  id : String
  flowId : String
  ticketId : String
  contactId : Option String
  currentNode : Option String
  state : Json
  version : Int
  createdAt : Moment
  updatedAt : Moment
  completedAt : Option Moment
  transferredAt : Option Moment

/-- Tables of rows. -/
structure Relational where
  flows : Entries Flow := []
  sessions : Entries SessionRow := []
  interactions : List Interaction := []

/-- A moment as a row has it. -/
def rowMoment (m : Moment) : Except Fault Moment :=
  if m.offset.isSome then (m.onClock 0).mapError fun _ => .unstorableMoment
  else .error .unstorableMoment

/-- A moment that a row may be without. -/
def rowMoment? : Option Moment → Except Fault (Option Moment)
  | some m => some <$> rowMoment m
  | none => .ok none

/-- The session of a row, read at the given time. -/
def SessionRow.session (r : SessionRow) (now : Moment) : Session :=
  { id := r.id
    flowId := r.flowId
    ticketId := r.ticketId
    contactId := r.contactId
    currentNode := r.currentNode
    state := State.ofJson now.isoText r.state
    version := r.version
    createdAt := r.createdAt
    updatedAt := r.updatedAt
    completedAt := r.completedAt
    transferredAt := r.transferredAt }

/-- Whether a row is the session that goes on under a ticket. -/
def SessionRow.isActiveOn (ticketId : String) (r : SessionRow) : Bool :=
  r.ticketId == ticketId && r.completedAt.isNone

namespace Relational

/-- The newest of some rows, the first of those created at one time. -/
def newest : List SessionRow → Option SessionRow
  | [] => none
  | r :: rest =>
    some (rest.foldl (fun a b => if a.createdAt.instant < b.createdAt.instant then b else a) r)

/-- The row of a flow to be saved. One that is there keeps its time of creation. -/
def flowRow (t : Relational) (now : Moment) (f : Flow) : Except Fault Flow :=
  match t.flows.find? f.id with
  | some old => do
    let updatedAt ← rowMoment now
    return { f with createdAt := old.createdAt, updatedAt }
  | none => do
    let createdAt ← rowMoment f.createdAt
    let updatedAt ← rowMoment f.updatedAt
    return { f with createdAt, updatedAt }

/-- Saves a flow. -/
def saveFlow (t : Relational) (now : Moment) (f : Flow) : Except Fault Flow × Relational :=
  match t.flowRow now f with
  | .ok row => (.ok row, { t with flows := t.flows.put f.id row })
  | .error e => (.error e, t)

/-- Deletes a flow, its sessions and their interactions. -/
def deleteFlow (t : Relational) (id : String) : Relational :=
  let gone := (t.sessions.filter fun e => e.2.flowId == id).map Prod.fst
  { flows := t.flows.remove id
    sessions := t.sessions.filter fun e => e.2.flowId != id
    interactions := t.interactions.filter fun i => !gone.contains i.sessionId }

/-- Makes every other primary flow a non-primary one. -/
def demoteOthers (t : Relational) (id : String) : Relational :=
  { t with
    flows := t.flows.map fun (k, f) => (k, if k != id && f.isPrimary then f.demoted else f) }

/-- Begins a session. -/
def openSession (t : Relational) (now : Moment) (id : String) (o : Opening) :
    Except Fault Session × Relational :=
  match rowMoment now with
  | .error e => (.error e, t)
  | .ok time =>
    if t.flows.has o.flowId then
      let row : SessionRow :=
        { id
          flowId := o.flowId
          ticketId := o.ticketId
          contactId := o.contactId
          currentNode := o.currentNode
          state := o.state.toJson
          version := 0
          createdAt := time
          updatedAt := time
          completedAt := none
          transferredAt := none }
      (.ok (row.session now), { t with sessions := t.sessions.put id row })
    else (.error .danglingRow, t)

/-- What saving a session writes into its row. -/
def rowChange (now : Moment) (s : Session) : Except Fault (SessionRow → SessionRow) := do
  let updatedAt ← rowMoment now
  let completedAt ← rowMoment? s.completedAt
  let transferredAt ← rowMoment? s.transferredAt
  return fun r =>
    { r with
      currentNode := s.currentNode
      state := s.state.toJson
      version := s.version + 1
      updatedAt, completedAt, transferredAt }

/-- Saves a session. -/
def saveSession (t : Relational) (now : Moment) (s : Session) : Except Fault Session × Relational :=
  match rowChange now s with
  | .error e => (.error e, t)
  | .ok change =>
    match t.sessions.find? s.id with
    | none => (.error (.noSessionRow s.id), t)
    | some row =>
      if row.version != s.version then (.error (.stale s.id), t)
      else
        (.ok { s with version := s.version + 1, updatedAt := now },
          { t with sessions := t.sessions.put s.id (change row) })

/-- Puts an interaction on record. -/
def record (t : Relational) (i : Interaction) : Except Fault Unit × Relational :=
  match rowMoment i.createdAt with
  | .error e => (.error e, t)
  | .ok createdAt =>
    if t.sessions.has i.sessionId then
      (.ok (), { t with interactions := t.interactions ++ [{ i with createdAt }] })
    else (.error .danglingRow, t)

/-- The interactions of a session, the earliest first, those of one time as they came. -/
def trail (t : Relational) (id : String) : List Interaction :=
  (t.interactions.filter (·.sessionId == id)).mergeSort fun a b =>
    a.createdAt.instant ≤ b.createdAt.instant

/-- Answers a request. A session that is begun gets the given id. -/
def answer (t : Relational) (now : Moment) (freshId : String) :
    (r : Request) → Except Fault r.Answer × Relational
  | .flows => (.ok (Flow.listed t.flows.values), t)
  | .activeFlows => (.ok (Flow.considered t.flows.values), t)
  | .flow id => (.ok (t.flows.find? id), t)
  | .saveFlow f => t.saveFlow now f
  | .deleteFlow id => if t.flows.has id then (.ok true, t.deleteFlow id) else (.ok false, t)
  | .demoteOthers id => (.ok (), t.demoteOthers id)
  | .openSession o => t.openSession now freshId o
  | .session id => (.ok ((t.sessions.find? id).map (·.session now)), t)
  | .activeSession ticketId =>
    (.ok ((newest (t.sessions.values.filter (·.isActiveOn ticketId))).map (·.session now)), t)
  | .saveSession s => t.saveSession now s
  | .sessionsOf flowId =>
    (.ok ((t.sessions.values.filter (·.flowId == flowId)).map (·.session now)), t)
  | .record i => t.record i
  | .interactions id => (.ok (t.trail id), t)

end Relational

end FrontDesk.Store
