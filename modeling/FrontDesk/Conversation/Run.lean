/-
Runs: from one message of a contact to the next.

A run takes up the answer that is awaited, if one is, and then walks the graph until it comes to a
node that waits, to an ending, or to a place where the graph does not lead on. What is wrong with
the graph is noted and stops the walk.
-/
import FrontDesk.Answer.Menu
import FrontDesk.Answer.Rules
import FrontDesk.Conversation.State

namespace FrontDesk

/-- What stops a walk at a fault of the graph. -/
inductive Defect where
  | danglingReference
  | unknownNodeType
  | pendingNodeMissing
  | stepLimitReached
  deriving DecidableEq, Repr

/-- The name of a defect in the log. -/
def Defect.name : Defect → String
  | danglingReference => "DANGLING_REFERENCE"
  | unknownNodeType => "UNKNOWN_NODE_TYPE"
  | pendingNodeMissing => "PENDING_NODE_MISSING"
  | stepLimitReached => "STEP_LIMIT_REACHED"

/-- A defect met at a node. -/
structure Diagnostic where
  defect : Defect
  node : String
  detail : String
  deriving DecidableEq, Repr

/-- A message that a node gives rise to. -/
structure Outbound where
  node : String
  message : String
  deriving DecidableEq, Repr

/-- What a run has brought about so far. -/
structure Progress where
  state : State
  /-- The last node visited, or the one that waits. -/
  resting : Option String := none
  messages : List Outbound := []
  diagnostics : List Diagnostic := []
  completed : Bool := false
  transferred : Bool := false
  queue : Option String := none
  deriving DecidableEq, Repr

namespace Progress

/-- Sends a message, unless it is empty. -/
def emit (node message : String) (p : Progress) : Progress :=
  if message.isEmpty then p else { p with messages := p.messages ++ [⟨node, message⟩] }

/-- Enters a visit in the history. -/
def record (stamp node : String) (input : Option String) (p : Progress) : Progress :=
  { p with state := { p.state with history := p.state.history ++ [⟨node, input, stamp⟩] } }

/-- Notes a defect. -/
def report (defect : Defect) (node detail : String) (p : Progress) : Progress :=
  { p with diagnostics := p.diagnostics ++ [⟨defect, node, detail⟩] }

/-- Rests on a node. -/
def rest (node : String) (p : Progress) : Progress := { p with resting := some node }

/-- Waits on a node, or on none. -/
def await (w : Option Waiting) (p : Progress) : Progress :=
  { p with state := { p.state with waiting := w } }

/-- Closes the conversation. -/
def complete (p : Progress) : Progress :=
  { p with completed := true, state := { p.state with completed := some true } }

/-- Hands the conversation to a queue. -/
def handOver (queue : Option String) (p : Progress) : Progress :=
  { p with transferred := true, queue }

end Progress

namespace Graph

variable (g : Graph) (limit : Int) (stamp : String)

/-- Walks from a node on, visiting at most so many nodes. -/
def walk : Nat → String → Progress → Progress
  | 0, id, p =>
    p.report .stepLimitReached id ("stopped after " ++ toString limit ++ " steps")
  | left + 1, id, p =>
    match g.node? id with
    | none => p.report .danglingReference id "node not found"
    | some n =>
      match n.body with
      | .message content next _ =>
        let p := ((p.emit n.id content).record stamp n.id none).rest n.id
        match next with
        | some id => walk left id p
        | none => p
      | .question q =>
        ((p.emit n.id q.prompt).await (some ⟨n.id, .question⟩)).rest n.id
      | .input i => ((p.emit n.id i.content).await (some ⟨n.id, .input⟩)).rest n.id
      | .transfer message queue next =>
        let p := (((p.emit n.id (message.getD "")).record stamp n.id none).handOver queue).rest n.id
        match next with
        | some id => walk left id p
        | none => p.complete
      | .ending content =>
        (((p.emit n.id (content.getD "")).record stamp n.id none).await none).complete.rest n.id
      | .unknown kind _ =>
        p.report .unknownNodeType n.id ("unsupported node type '" ++ kind ++ "'")

/-- Walks on from where the graph leads, if it leads anywhere. -/
def walkFrom (start : Option String) (p : Progress) : Progress :=
  match start with
  | some id => g.walk limit stamp limit.toNat id p
  | none => p

end Graph

/-- What taking up an answer comes to. -/
inductive Resumed where
  /-- The answer is refused, and the node goes on waiting. -/
  | held (node message : String)
  /-- The answer is taken, and the walk goes on. -/
  | advanced (state : State) (node : String) (next : Option String)
  /-- There is no such node any more. -/
  | reset (diagnostic : Diagnostic)

namespace Graph

/-- What is said when an answer picks no choice. -/
def choiceRetry : String :=
  "Sorry, I didn't understand. Could you choose one of the available options?"

variable (g : Graph) (stamp : String)

/-- The state after an answer to a node was taken. -/
def answered (s : State) (node input : String) (stored : Option (String × String)) : State :=
  { s with
    history := s.history ++ [⟨node, some input, stamp⟩]
    waiting := none
    collected :=
      match stored with
      | some (key, value) => s.collected.put key value
      | none => s.collected }

/-- Takes up the answer to the node that waits. -/
def resume (s : State) (w : Waiting) (answer : String) : Except PatternFault Resumed :=
  let missing : Resumed :=
    .reset
      { defect := .pendingNodeMissing
        node := w.node
        detail := "waiting for a " ++ w.kind.name ++ " node that is no longer in the flow" }
  match g.node? w.node with
  | none => .ok missing
  | some n =>
    match n.body, w.kind with
    | .question q, .question =>
      match q.pick answer with
      | none => .ok (.held n.id (q.retryMessage.getD choiceRetry))
      | some pick =>
        let stored := do return (← q.storeField, ← pick.stored)
        .ok (.advanced (answered stamp s n.id pick.captured stored) n.id pick.next)
    | .input i, .input => do
      match ← i.check answer with
      | .rejected message => return .held n.id message
      | .accepted =>
        let text := Text.trim answer
        return .advanced (answered stamp s n.id text (some (i.storageKey, text))) n.id i.next
    | _, _ => .ok missing

end Graph

/-- The outcome of a run. -/
structure Outcome where
  state : State
  /-- Where the conversation rests: the node that waits, or the last one visited. -/
  next : String
  completed : Bool := false
  transferred : Bool := false
  /-- The queue named by the last transfer. -/
  queue : Option String := none
  /-- What is said in place of going on, when the answer was refused. -/
  retries : List Outbound := []
  messages : List Outbound := []
  diagnostics : List Diagnostic := []
  deriving DecidableEq, Repr

/-- The outcome of what a run brought about, resting on the given node if it visited none. -/
def Progress.outcome (p : Progress) (fallback : String) : Outcome :=
  { state := p.state
    next := p.resting.getD fallback
    completed := p.completed
    transferred := p.transferred
    queue := p.queue
    messages := p.messages
    diagnostics := p.diagnostics }

/-- What a contact's message is to a run. -/
inductive Incoming where
  /-- It only sets the conversation going. -/
  | opening
  /-- It answers what is awaited. -/
  | answer (text : String)
  deriving DecidableEq, Repr

namespace Graph

/-- How many nodes a run visits at most, unless it is told otherwise. -/
def defaultLimit : Int := 50

/-- Where a conversation goes on that rests on the given node. -/
def startOf (g : Graph) (current : Option String) : String :=
  (current.bind Text.nonempty?).getD g.entry

/-- Runs the conversation from a state, resting on the given node, until it waits or stops. -/
def run (g : Graph) (limit : Int) (stamp : String) (s : State) (current : Option String)
    (incoming : Incoming) : Except PatternFault Outcome :=
  let start := g.startOf current
  let plain (p : Progress) : Outcome := (g.walkFrom limit stamp (some start) p).outcome start
  match incoming, s.waiting with
  | .answer text, some w => do
    match ← g.resume stamp s w text with
    | .held node message => return { state := s, next := node, retries := [⟨node, message⟩] }
    | .advanced state node next =>
      return (g.walkFrom limit stamp next { state }).outcome node
    | .reset d =>
      return plain { state := { s with waiting := none }, diagnostics := [d] }
  | _, _ => .ok (plain { state := s })

end Graph

end FrontDesk
