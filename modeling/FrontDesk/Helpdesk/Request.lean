/-
What is asked of the helpdesk: tickets, and the sending of messages.
-/
import FrontDesk.Calendar.Moment
import FrontDesk.Helpdesk.Ticket

namespace FrontDesk.Helpdesk

open Calendar

/-- What the helpdesk is asked. -/
inductive Request where
  | ticket (id : String)
  /-- Moves a ticket to a queue, or leaves it in its own. -/
  | transfer (t : Ticket) (queue : Option String)
  /-- Stores a message on a ticket; the answer is the stored record, or null. -/
  | persist (t : Ticket) (body : String)
  /-- Sends a message to the contact. -/
  | deliver (t : Ticket) (body : String)
  /-- Tells listeners of an event. -/
  | notify (event : String) (payload : Json)
  /-- Sets the time of the last activity. -/
  | touch (t : Ticket) (time : Moment)

/-- The kind of answer to a request. -/
abbrev Request.Answer : Request → Type
  | ticket _ => Option Ticket
  | transfer .. => Ticket
  | persist .. => Json
  | deliver .. | notify .. | touch .. => Unit

end FrontDesk.Helpdesk
