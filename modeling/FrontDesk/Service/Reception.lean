/-
Reception: what happens to a message that comes in on a ticket.

While an agent is in charge of the ticket, nothing does. Otherwise the message goes to the session
that goes on under the ticket, or it opens one: a flow is selected, its hours are looked at, and
the conversation is started. What the conversation says is sent first; then the session is saved,
and last the ticket is handed over if the conversation asks for it. Sending may fail in part
without the rest being stopped.
-/
import FrontDesk.Calendar.ZoneTable
import FrontDesk.Catalog.Selection
import FrontDesk.Conversation.Run
import FrontDesk.Service.Job

namespace FrontDesk

open Calendar Service

/-- How a reception works. -/
structure Reception where
  /-- How many nodes a run visits at most. -/
  limit : Int := Graph.defaultLimit
  /-- What is said outside operating hours when a flow has nothing to say. -/
  offlineMessage : String :=
    "We are currently outside our business hours. We will get back to you as soon as possible."
  /-- Where the zones of operating hours are looked up: in the table, if no other database is
  given. -/
  zones : Zone.Database := Zone.lookup

namespace Reception

/-! ## Sending -/

/-- Tells listeners of an event. -/
def announce (event : String) (payload : Json) : Job Unit :=
  (Job.desk (.notify event payload)).orLog ("Failed to emit " ++ event ++ " event") ()

/-- The interaction by which the bot says something. -/
def botInteraction (now : Moment) (sessionId : String) (m : Outbound) (content : String) :
    Interaction :=
  { sessionId
    sender := .bot
    message := content
    nodeId := Text.nonempty? m.node
    metadata := []
    createdAt := now }

/-- Puts on record what the bot says in a session, if it is said in one. -/
def recordBot (now : Moment) (sessionId : Option String) (m : Outbound) (content : String) :
    Job Unit :=
  match sessionId with
  | some id =>
    (Job.store (.record (botInteraction now id m content))).orLog
      ("Failed to record bot interaction for session " ++ id) ()
  | none => return ()

/-- Announces a message of which there is a stored record. -/
def announceStored (t : Ticket) : Json → Job Unit
  | .object (m :: ms) =>
    announce "message:new" (.object (Entries.put "ticketId" (.string t.id) (m :: ms)))
  | _ => return ()

/-- Sends one message: it is stored, put on record, delivered and announced. -/
def send (now : Moment) (t : Ticket) (sessionId : Option String) (m : Outbound) : Job Unit := do
  match Text.trimmed? m.message with
  | none => return ()
  | some content =>
    let stored ← (Job.desk (.persist t content)).orLog
      ("Failed to persist bot message for ticket " ++ t.id) .null
    recordBot now sessionId m content
    (Job.desk (.deliver t content)).orLog
      ("Failed to send WhatsApp message for ticket " ++ t.id) ()
    announceStored t stored

/-- Sends messages one after the other. -/
def sendAll (now : Moment) (t : Ticket) (sessionId : Option String) : List Outbound → Job Unit
  | [] => return ()
  | m :: rest => do
    send now t sessionId m
    sendAll now t sessionId rest

/-- Sends messages and notes the activity, if there are any. -/
def dispatch (now : Moment) (t : Ticket) (sessionId : Option String) (ms : List Outbound) :
    Job Unit :=
  if ms.isEmpty then return ()
  else do
    sendAll now t sessionId ms
    (Job.desk (.touch t now)).orLog ("Failed to update last activity for ticket " ++ t.id) ()

/-! ## After a run -/

/-- The name of a queue in the log. -/
def queueName (queue : Option String) : String := queue.getD "None"

/-- The queue a conversation is handed to: the one its node names, else that of the flow, else
that of the ticket. -/
def targetQueue (node : Option String) (f : Flow) (t : Ticket) : Option String :=
  (node.bind Text.nonempty?) <|> (f.transferQueue.bind Text.nonempty?) <|> t.queueId

/-- Hands a ticket over. -/
def handOver (now : Moment) (t : Ticket) (f : Flow) (s : Session) (node : Option String) :
    Job Session := do
  let queue := targetQueue node f t
  Job.log .info
    ("Session " ++ s.id ++ " transferring ticket " ++ t.id ++ " to queue " ++ queueName queue)
  let moved ← Job.desk (.transfer t queue)
  let saved ← Job.store (.saveSession { s with transferredAt := some now })
  announce "ticket:update" moved.toJson
  return saved

/-- The line of the log for a defect of a graph. -/
def defectLine (f : Flow) (s : Session) (d : Diagnostic) : String :=
  "Flow '" ++ f.name ++ "' (" ++ f.id ++ ") session " ++ s.id ++ ": " ++ d.defect.name
    ++ " at node " ++ d.node ++ " " ++ d.detail

/-- Logs the defects of a graph. -/
def logDefects (f : Flow) (s : Session) : List Diagnostic → Job Unit
  | [] => return ()
  | d :: rest => do
    Job.log .warning (defectLine f s d)
    logDefects f s rest

/-- A session after a run. When the answer was refused it goes on waiting as before. -/
def advance (now : Moment) (s : Session) (o : Outcome) (waited : Option Waiting) : Session :=
  let completedAt := if o.completed then some now else s.completedAt
  match waited with
  | some w =>
    if o.retries.isEmpty then { s with state := o.state, currentNode := some o.next, completedAt }
    else
      { s with
        state := { o.state with waiting := some w }
        currentNode := some w.node
        completedAt }
  | none => { s with state := o.state, currentNode := some o.next, completedAt }

/-- Does what a run asks for. -/
def apply (now : Moment) (t : Ticket) (f : Flow) (s : Session) (o : Outcome)
    (waited : Option Waiting) : Job Session := do
  logDefects f s o.diagnostics
  dispatch now t (some s.id) o.messages
  dispatch now t (some s.id) o.retries
  let saved ← Job.store (.saveSession (advance now s o waited))
  if o.transferred then handOver now t f saved o.queue else return saved

/-! ## A message comes in -/

/-- The graph of a flow. A flow that has none is logged; other faults are failures. -/
def graphOf (f : Flow) : Job (Option Graph) :=
  match Graph.ofJson (.object f.definition) with
  | .ok g => return some g
  | .error e =>
    if e.isInvalid then do
      Job.log .error
        ("Flow '" ++ f.name ++ "' (" ++ f.id ++ ") has an invalid definition: " ++ e.message)
      return none
    else Job.failed (.graph e)

/-- Puts a contact's message on record. -/
def recordContact (now : Moment) (s : Session) (messageId text : String) : Job Unit :=
  Job.store (.record
    { sessionId := s.id
      sender := .contact
      message := text
      nodeId := none
      metadata := [("messageId", .string messageId)]
      createdAt := now })

variable (r : Reception) (now : Moment)

/-- What is said outside operating hours. -/
def offlineText (f : Flow) (s : Option Schedule) : String :=
  ((s.bind (·.fallback)) <|> (f.offlineMessage.bind Text.nonempty?)).getD r.offlineMessage

/-- Starts a conversation of a flow. -/
def begin (t : Ticket) (f : Flow) (g : Graph) (messageId text : String) : Job Session := do
  Job.log .info ("Starting flow '" ++ f.name ++ "' for ticket " ++ t.id)
  let s ← Job.store (.openSession
    { flowId := f.id
      ticketId := t.id
      contactId := some t.contactId
      currentNode := some g.entry
      state := {} })
  recordContact now s messageId text
  let o ← Job.ofExcept .pattern (g.run r.limit now.isoText {} (some g.entry) .opening)
  apply now t f s o none

/-- Opens a conversation with a message, if a flow takes it up. -/
def openWith (t : Ticket) (messageId text : String) : Job (Option Session) := do
  let flows ← Job.store .activeFlows
  if flows.isEmpty then return none
  else
    match selectFlow flows text with
    | none => do
      Job.log .info ("No chatbot flow selected for ticket " ++ t.id)
      return none
    | some f =>
      match ← graphOf f with
      | none => return none
      | some g =>
        let schedule := Schedule.ofJson f.scheduleJson
        if ← Job.ofExcept .schedule (Schedule.isOpenBy r.zones schedule now) then
          some <$> begin r now t f g messageId text
        else do
          Job.log .info
            ("Flow '" ++ f.name
              ++ "' is outside operating hours, sending offline message to ticket " ++ t.id)
          dispatch now t none [⟨"", r.offlineText f schedule⟩]
          return none

/-- Goes on with a conversation. -/
def goOn (t : Ticket) (s : Session) (messageId text : String) : Job (Option Session) := do
  match ← Job.store (.flow s.flowId) with
  | none => do
    Job.log .warning ("Session " ++ s.id ++ " references missing flow " ++ s.flowId)
    return none
  | some f =>
    match ← graphOf f with
    | none => return none
    | some g =>
      recordContact now s messageId text
      let o ← Job.ofExcept .pattern
        (g.run r.limit now.isoText s.state s.currentNode (.answer text))
      some <$> apply now t f s o s.state.waiting

/-- Deals with a message. -/
def process (ticketId messageId text : String) : Job (Option Session) := do
  match ← Job.desk (.ticket ticketId) with
  | none => do
    Job.log .warning ("Ticket " ++ ticketId ++ " not found, ignoring message " ++ messageId)
    return none
  | some t =>
    if t.hasAgent then return none
    else
      match ← Job.store (.activeSession t.id) with
      | none => openWith r now t messageId text
      | some s => goOn r now t s messageId text

/-- Deals with a message, whatever happens. The result is the session after it, if there is one. -/
def incoming (ticketId messageId text : String) : Job (Option Session) :=
  (process r now ticketId messageId text).orLog
    ("Failed to process incoming message " ++ messageId ++ " of ticket " ++ ticketId) none

end Reception

end FrontDesk
