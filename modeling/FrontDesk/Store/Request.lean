/-
What is asked of a store of flows and sessions, and what it can object to.

A request names its kind of answer. Stores differ in how they keep things, not in what they are
asked: see `Store.Memory` and `Store.Relational`.
-/
import FrontDesk.Catalog.Flow
import FrontDesk.Conversation.Session

namespace FrontDesk.Store

open Calendar

/-- A session to be begun. -/
structure Opening where
  flowId : String
  ticketId : String
  contactId : Option String
  currentNode : Option String
  state : State

/-- What a store is asked. -/
inductive Request where
  /-- All flows, active ones first, newest first. -/
  | flows
  /-- Active flows in the order in which they are considered. -/
  | activeFlows
  | flow (id : String)
  | saveFlow (f : Flow)
  /-- Deletes a flow; the answer is whether it was there. -/
  | deleteFlow (id : String)
  /-- Makes every other flow a non-primary one. -/
  | demoteOthers (id : String)
  | openSession (o : Opening)
  | session (id : String)
  /-- The newest session of a ticket that goes on. -/
  | activeSession (ticketId : String)
  /-- Saves a session, provided that nobody did so since it was loaded. -/
  | saveSession (s : Session)
  | sessionsOf (flowId : String)
  | record (i : Interaction)
  /-- The audit trail of a session. -/
  | interactions (sessionId : String)

/-- The kind of answer to a request. -/
abbrev Request.Answer : Request → Type
  | flows | activeFlows => List Flow
  | flow _ => Option Flow
  | saveFlow _ => Flow
  | deleteFlow _ => Bool
  | demoteOthers _ | record _ => Unit
  | openSession _ | saveSession _ => Session
  | session _ | activeSession _ => Option Session
  | sessionsOf _ => List Session
  | interactions _ => List Interaction

/-- Why a store does not do what it is asked. -/
inductive Fault where
  /-- The session was saved by someone else since it was loaded. -/
  | stale (id : String)
  /-- There is no such session in memory. -/
  | noSession (id : String)
  /-- There is no such session among the rows. -/
  | noSessionRow (id : String)
  /-- A row refers to one that is not there. -/
  | danglingRow
  /-- A row has a moment on no known clock, or one that cannot be had in universal time. -/
  | unstorableMoment
  /-- The order of some records cannot be told. -/
  | clock (e : ClockError)
  deriving DecidableEq, Repr

/-- The wording of a fault, where it has one. -/
def Fault.message? : Fault → Option String
  | stale id => some ("Session " ++ id ++ " was modified concurrently.")
  | noSession id => some ("Session " ++ id ++ " does not exist.")
  | noSessionRow id => some ("Session " ++ id ++ " does not exist in DB.")
  | danglingRow | unstorableMoment => none
  | clock e => some e.message

end FrontDesk.Store
