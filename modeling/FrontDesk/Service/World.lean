/-
Worlds: a store, a helpdesk, a clock and a log, in which jobs run.

A world can be in trouble: requests to the store and the helpdesk may fail, by whatever rule,
before anything is done. Fresh ids are numbered.
-/
import FrontDesk.Helpdesk.Desk
import FrontDesk.Service.Job
import FrontDesk.Store.Memory
import FrontDesk.Store.Relational

namespace FrontDesk

open Calendar Service

/-- A store of either make. -/
inductive Store where
  | memory (m : Store.Memory)
  | relational (t : Store.Relational)

/-- Answers a request. A session that is begun gets the given id. -/
def Store.answer (s : Store) (now : Moment) (freshId : String) (r : Store.Request) :
    Except Store.Fault r.Answer × Store :=
  match s with
  | memory m =>
    let (x, m) := m.answer now freshId r
    (x, memory m)
  | relational t =>
    let (x, t) := t.answer now freshId r
    (x, relational t)

/-- What goes wrong around a service. -/
structure Trouble where
  /-- Whether a request fails, given how many were made before. -/
  outage : Nat → Request → Bool := fun _ _ => false
  /-- Whether at each delivery someone else saves the session of the ticket. -/
  rivalSaves : Bool := false
  /-- Whether the record of a stored message is not handed back. -/
  recordsWithheld : Bool := false

/-- What is around a service. -/
structure World where
  clock : Moment
  store : Store
  desk : Helpdesk.Desk := {}
  logs : List (Level × String) := []
  /-- How many requests were made. -/
  asked : Nat := 0
  /-- How many flows got an id. -/
  flowIds : Nat := 0
  /-- How many sessions were begun. -/
  sessionIds : Nat := 0
  /-- How many messages were stored. -/
  messageIds : Nat := 0
  trouble : Trouble := {}

namespace World

/-- A numbered id. -/
def numbered (kind : String) (n : Nat) : String := kind ++ "-" ++ toString n

/-- Whether a request takes a fresh session id. -/
def opensSession : Store.Request → Bool
  | .openSession _ => true
  | _ => false

/-- Whether a request takes a fresh message id. -/
def storesMessage : Helpdesk.Request → Bool
  | .persist .. => true
  | _ => false

/-- The answer of the store. -/
def askStore (w : World) (r : Store.Request) : Except Store.Fault r.Answer × World :=
  let ids := if opensSession r then w.sessionIds + 1 else w.sessionIds
  let (x, store) := w.store.answer w.clock (numbered "session" ids) r
  (x, { w with store, sessionIds := ids })

/-- The session that goes on under a ticket is saved as it is. -/
def rivalSave (w : World) (ticketId : String) : World :=
  match w.askStore (.activeSession ticketId) with
  | (.ok (some s), w) => (w.askStore (.saveSession s)).2
  | (_, w) => w

/-- What someone else does meanwhile. -/
def interfere (w : World) : Helpdesk.Request → World
  | .deliver t _ => if w.trouble.rivalSaves then w.rivalSave t.id else w
  | _ => w

/-- The answer to a request for a message to be stored, without the record. -/
def withhold : (r : Helpdesk.Request) → r.Answer → r.Answer
  | .persist .., _ => .null
  | .ticket _, x | .transfer .., x | .deliver .., x | .notify .., x | .touch .., x => x

/-- The answer of the helpdesk. -/
def askDesk (w : World) (r : Helpdesk.Request) : r.Answer × World :=
  let w := w.interfere r
  let ids := if storesMessage r then w.messageIds + 1 else w.messageIds
  let (x, desk) := w.desk.answer (numbered "msg" ids) r
  (if w.trouble.recordsWithheld then withhold r x else x, { w with desk, messageIds := ids })

/-- Does what is asked. -/
def perform (w : World) : (r : Request) → Except Failure r.Answer × World
  | .store r =>
    let (x, w) := w.askStore r
    (x.mapError .store, w)
  | .desk r =>
    let (x, w) := w.askDesk r
    (.ok x, w)
  | .log level text => (.ok (), { w with logs := w.logs ++ [(level, text)] })
  | .newFlowId =>
    (.ok (numbered "flow" (w.flowIds + 1)), { w with flowIds := w.flowIds + 1 })

/-- Whether a request can fail for reasons of its own. -/
def isOutside : Request → Bool
  | .store _ | .desk _ => true
  | .log .. | .newFlowId => false

/-- Answers a request, or fails to. -/
def answer (w : World) (r : Request) : Except Failure r.Answer × World :=
  let fails := isOutside r && w.trouble.outage w.asked r
  let w := { w with asked := w.asked + 1 }
  if fails then (.error .outage, w) else w.perform r

end World

/-- Runs a job to its end. -/
def Job.run {α : Type} : Job α → World → Except Failure α × World
  | done a, w => (.ok a, w)
  | failed e, w => (.error e, w)
  | ask r next, w =>
    let (x, w) := w.answer r
    (next x).run w

end FrontDesk
