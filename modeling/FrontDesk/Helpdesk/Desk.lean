/-
A helpdesk in memory, which keeps a record of all it is asked to do.
-/
import FrontDesk.Helpdesk.Request

namespace FrontDesk.Helpdesk

open Calendar

/-- The tickets of a helpdesk and what it was asked to do. -/
structure Desk where
  tickets : Entries Ticket := []
  /-- Messages stored, each with its ticket. -/
  persisted : List (String × String) := []
  /-- Messages sent, each with its ticket. -/
  delivered : List (String × String) := []
  events : List (String × Json) := []
  transfers : List (String × Option String) := []
  lastActivity : Entries Moment := []

namespace Desk

/-- Puts a ticket on the desk. -/
def add (d : Desk) (t : Ticket) : Desk := { d with tickets := d.tickets.put t.id t }

/-- What was sent for a ticket. -/
def deliveredTo (d : Desk) (ticketId : String) : List String :=
  (d.delivered.filter (·.1 == ticketId)).map Prod.snd

/-- The record of a stored message. -/
def messageRecord (id ticketId body : String) : Json :=
  .object [("id", .string id), ("ticketId", .string ticketId), ("body", .string body)]

/-- Does what is asked. A message that is stored gets the given id. -/
def answer (d : Desk) (messageId : String) : (r : Request) → r.Answer × Desk
  | .ticket id => (d.tickets.find? id, d)
  | .transfer t queue =>
    let moved := t.moved queue
    (moved,
      { d with
        tickets := d.tickets.put t.id moved
        transfers := d.transfers ++ [(t.id, queue)] })
  | .persist t body =>
    (messageRecord messageId t.id body, { d with persisted := d.persisted ++ [(t.id, body)] })
  | .deliver t body => ((), { d with delivered := d.delivered ++ [(t.id, body)] })
  | .notify event payload => ((), { d with events := d.events ++ [(event, payload)] })
  | .touch t time => ((), { d with lastActivity := d.lastActivity.put t.id time })

end Desk

end FrontDesk.Helpdesk
