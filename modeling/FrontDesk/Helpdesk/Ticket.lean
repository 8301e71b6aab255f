/-
Tickets of the helpdesk, as far as conversations need them.
-/
import FrontDesk.Form

namespace FrontDesk

/-- A ticket. -/
structure Ticket where
  id : String
  contactId : String
  contactPhone : Option String := none
  /-- The channel over which the contact is reached. -/
  channelId : Option String := none
  queueId : Option String := none
  /-- The agent in charge. While there is one, nothing is said by itself. -/
  agentId : Option String := none
  status : String := "OPEN"
  deriving DecidableEq, Repr

namespace Ticket

/-- Whether an agent is in charge. -/
def hasAgent (t : Ticket) : Bool := t.agentId.any (!·.isEmpty)

/-- The ticket moved to a queue, or left in its own: nobody is in charge of it, and it is open
again if it was closed. -/
def moved (t : Ticket) (queue : Option String) : Ticket :=
  { t with
    queueId := queue <|> t.queueId
    agentId := none
    status := if t.status == "CLOSED" then "OPEN" else t.status }

/-- A ticket from a record. -/
def ofJson : Json → Checked Ticket :=
  Form.fields .modelType fun ms =>
    Ticket.mk
      <$> Form.required ms "id" Form.string
      <*> Form.required ms "contact_id" Form.string
      <*> Form.optional ms "contact_phone" Form.string
      <*> Form.optional ms "whatsapp_id" Form.string
      <*> Form.optional ms "queue_id" Form.string
      <*> Form.optional ms "user_id" Form.string
      <*> Form.withDefault ms "status" Form.string "OPEN"

/-- The record. -/
def toJson (t : Ticket) : Json :=
  .object
    [("id", .string t.id),
     ("contact_id", .string t.contactId),
     ("contact_phone", .ofString? t.contactPhone),
     ("whatsapp_id", .ofString? t.channelId),
     ("queue_id", .ofString? t.queueId),
     ("user_id", .ofString? t.agentId),
     ("status", .string t.status)]

end Ticket

end FrontDesk
