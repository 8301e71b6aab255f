/-
A store that keeps its records as they are, in the order in which they first came.

Deleting a flow leaves its sessions alone.
-/
import FrontDesk.Store.Request

namespace FrontDesk.Store

open Calendar

/-- Records in memory. -/
structure Memory where
  flows : Entries Flow := []
  sessions : Entries Session := []
  interactions : List Interaction := []

namespace Memory

/-- Flows in an order that goes by their times, if these can be compared. -/
def ordered (order : List Flow → List Flow) (fs : List Flow) : Except Fault (List Flow) :=
  if Flow.areComparable fs then .ok (order fs) else .error (.clock .incomparable)

/-- The newer of two sessions, the first if neither is. -/
def newer (a b : Session) : Except Fault Session :=
  match a.createdAt.isBefore b.createdAt with
  | .ok later => .ok (if later then b else a)
  | .error e => .error (.clock e)

/-- The newest of some sessions, the first of those created at one time. -/
def newest : List Session → Except Fault (Option Session)
  | [] => .ok none
  | s :: rest => some <$> rest.foldlM newer s

/-- Makes every other primary flow a non-primary one. -/
def demoteOthers (m : Memory) (id : String) : Memory :=
  { m with
    flows := m.flows.map fun (k, f) => (k, if k != id && f.isPrimary then f.demoted else f) }

/-- The session of an opening. -/
def begin (o : Opening) (id : String) (now : Moment) : Session :=
  { id
    flowId := o.flowId
    ticketId := o.ticketId
    contactId := o.contactId
    currentNode := o.currentNode
    state := o.state
    createdAt := now
    updatedAt := now }

/-- A session as it is stored when it is saved. -/
def saved (s : Session) (now : Moment) : Session :=
  { s with version := s.version + 1, updatedAt := now }

/-- Saves a session. -/
def saveSession (m : Memory) (now : Moment) (s : Session) : Except Fault Session × Memory :=
  match m.sessions.find? s.id with
  | none => (.error (.noSession s.id), m)
  | some current =>
    if current.version != s.version then (.error (.stale s.id), m)
    else (.ok (saved s now), { m with sessions := m.sessions.put s.id (saved s now) })

/-- Answers a request. A session that is begun gets the given id. -/
def answer (m : Memory) (now : Moment) (freshId : String) :
    (r : Request) → Except Fault r.Answer × Memory
  | .flows => (ordered Flow.listed m.flows.values, m)
  | .activeFlows => (ordered Flow.considered (m.flows.values.filter Flow.isActive), m)
  | .flow id => (.ok (m.flows.find? id), m)
  | .saveFlow f => (.ok f, { m with flows := m.flows.put f.id f })
  | .deleteFlow id => (.ok (m.flows.has id), { m with flows := m.flows.remove id })
  | .demoteOthers id => (.ok (), m.demoteOthers id)
  | .openSession o =>
    let s := begin o freshId now
    (.ok s, { m with sessions := m.sessions.put s.id s })
  | .session id => (.ok (m.sessions.find? id), m)
  | .activeSession ticketId => (newest (m.sessions.values.filter (·.isActiveOn ticketId)), m)
  | .saveSession s => m.saveSession now s
  | .sessionsOf flowId => (.ok (m.sessions.values.filter (·.flowId == flowId)), m)
  | .record i => (.ok (), { m with interactions := m.interactions ++ [i] })
  | .interactions id => (.ok (m.interactions.filter (·.sessionId == id)), m)

end Memory

end FrontDesk.Store
