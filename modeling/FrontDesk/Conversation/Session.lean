/-
Sessions: conversations bound to tickets, and the audit trail of what was said in them.
-/
import FrontDesk.Conversation.State
import FrontDesk.Form

namespace FrontDesk

open Calendar

/-- A conversation of a flow on a ticket. -/
structure Session where
  id : String
  flowId : String
  ticketId : String
  contactId : Option String := none
  /-- The node that waits, or the last one visited. -/
  currentNode : Option String := none
  state : State := {}
  /-- How often the session was saved. -/
  version : Int := 0
  createdAt : Moment
  updatedAt : Moment
  completedAt : Option Moment := none
  transferredAt : Option Moment := none
  deriving DecidableEq, Repr

namespace Session

/-- Whether the conversation goes on. -/
def isActive (s : Session) : Bool := s.completedAt.isNone

/-- Whether the session is the conversation that goes on under a ticket. -/
def isActiveOn (ticketId : String) (s : Session) : Bool := s.ticketId == ticketId && s.isActive

/-- A moment in ISO 8601, or null. -/
def momentJson (m : Option Moment) : Json := .ofString? (m.map Moment.isoText)

/-- The session with its state as stored. -/
def toJson (s : Session) : Json :=
  .object
    [("id", .string s.id),
     ("flow_id", .string s.flowId),
     ("ticket_id", .string s.ticketId),
     ("contact_id", .ofString? s.contactId),
     ("current_node_id", .ofString? s.currentNode),
     ("state", s.state.toJson),
     ("version", .int s.version),
     ("created_at", .string s.createdAt.isoText),
     ("updated_at", .string s.updatedAt.isoText),
     ("completed_at", momentJson s.completedAt),
     ("transferred_at", momentJson s.transferredAt),
     ("is_active", .bool s.isActive)]

end Session

/-- Who said something. -/
inductive Sender where
  | bot
  | contact
  deriving DecidableEq, Repr

/-- The name of a sender. -/
def Sender.name : Sender → String
  | bot => "BOT"
  | contact => "CONTACT"

/-- A message of a conversation, on record. -/
structure Interaction where
  sessionId : String
  sender : Sender
  message : String
  nodeId : Option String
  metadata : Entries Json
  createdAt : Moment

namespace Interaction

/-- A sender by name. -/
def readSender : Json → Checked Sender
  | .string "BOT" => pure .bot
  | .string "CONTACT" => pure .contact
  | _ => .fault .enumValue

/-- An interaction from a record; without a time it gets the time now. -/
def ofJson (now : Moment) : Json → Checked Interaction :=
  Form.fields .modelType fun ms =>
    Interaction.mk
      <$> Form.required ms "session_id" Form.string
      <*> Form.required ms "sender" readSender
      <*> Form.required ms "message" Form.string
      <*> Form.optional ms "node_id" Form.string
      <*> Form.withDefault ms "metadata" Form.dict []
      <*> Form.withDefault ms "created_at" Form.moment now

/-- The record. -/
def toJson (i : Interaction) : Json :=
  .object
    [("session_id", .string i.sessionId),
     ("sender", .string i.sender.name),
     ("message", .string i.message),
     ("node_id", .ofString? i.nodeId),
     ("metadata", .object i.metadata),
     ("created_at", .string i.createdAt.isoText)]

end Interaction

end FrontDesk
