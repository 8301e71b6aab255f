/-
Rehearsals: a flow is tried out on messages that are given beforehand, and nothing is sent or
stored.
-/
import FrontDesk.Conversation.Run
import FrontDesk.Conversation.Session
import FrontDesk.Service.Job

namespace FrontDesk

open Service

/-- A line of a conversation. -/
structure Line where
  sender : Sender
  text : String
  deriving DecidableEq, Repr

/-- What came of trying a flow out. -/
structure Rehearsal where
  transcript : List Line
  state : State
  deriving DecidableEq, Repr

namespace Rehearsal

/-- Whether the conversation was completed. -/
def completed (r : Rehearsal) : Bool := r.state.completed == some true

/-- A line as front ends get it. -/
def lineJson (l : Line) : Json :=
  .object [("from", .string l.sender.name), ("message", .string l.text)]

/-- What came of it as front ends get it. -/
def toJson (r : Rehearsal) : Json :=
  .object
    [("transcript", .list (r.transcript.map lineJson)),
     ("state", r.state.toFullJson),
     ("completed", .bool r.completed)]

/-- Messages of the bot as lines. -/
def botLines (ms : List Outbound) : List Line := ms.map fun m => ⟨.bot, m.message⟩

/-- What a run says: its messages and what it says to an answer that it refuses. -/
def linesOf (o : Outcome) : List Line := botLines o.messages ++ botLines o.retries

variable (g : Graph) (limit : Int) (stamp : String)

/-- The conversation after a run, on the messages that are left, until it is completed. -/
def goOn (o : Outcome) : List String → Except PatternFault Rehearsal
  | [] => .ok { transcript := linesOf o, state := o.state }
  | text :: rest =>
    if o.completed then .ok { transcript := linesOf o, state := o.state }
    else do
      let next ← g.run limit stamp o.state (some o.next) (.answer text)
      let r ← goOn next rest
      return { r with transcript := linesOf o ++ ⟨.contact, text⟩ :: r.transcript }

/-- The conversation on some messages. -/
def play (messages : List String) : Except PatternFault Rehearsal := do
  let o ← g.run limit stamp {} (some g.entry) .opening
  goOn g limit stamp o messages

/-- Tries a flow of the catalog out. -/
def ofFlow (now : Calendar.Moment) (flowId : String) (messages : List String) : Job Rehearsal := do
  match ← Job.store (.flow flowId) with
  | none => Job.failed (.flowNotFound flowId)
  | some f =>
    let g ← Job.ofExcept .graph (Graph.ofJson (.object f.definition))
    Job.ofExcept .pattern (play g limit now.isoText messages)

end Rehearsal

end FrontDesk
