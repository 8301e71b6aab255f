/-
The state of a conversation: what it has visited, what it has collected, and what it waits for.

A state is stored as JSON between two messages. Reading is lenient: an item of the history without
a node is dropped, and so is a pointer that does not say what it waits for; an item without a time
gets the time of reading.
-/
import FrontDesk.Graph.Reader

namespace FrontDesk

/-- A node that was visited or answered. -/
structure Visit where
  node : String
  /-- The answer, where one was given. -/
  input : Option String
  /-- When, in ISO 8601. -/
  occurredAt : String
  deriving DecidableEq, Repr

/-- The kinds of nodes a conversation waits on. -/
inductive WaitingKind where
  | question
  | input
  deriving DecidableEq, Repr

/-- The node whose answer is awaited. -/
structure Waiting where
  node : String
  kind : WaitingKind
  deriving DecidableEq, Repr

/-- The name of a kind. -/
def WaitingKind.name : WaitingKind → String
  | question => "question"
  | input => "input"

/-- The state of a conversation. -/
structure State where
  history : List Visit := []
  collected : Entries String := []
  waiting : Option Waiting := none
  completed : Option Bool := none
  deriving DecidableEq, Repr

namespace State

open FrontDesk.Graph (optionalString)

/-! ## Reading -/

/-- An item of the history, read at the given time. -/
def readVisit (now : String) (v : Json) : Option Visit := do
  let node ← optionalString (v.field "nodeId")
  return { node
           input := optionalString (v.field "input")
           occurredAt := (optionalString (v.field "occurredAt")).getD now }

/-- The kind with the given name. -/
def readKind : Json → Option WaitingKind
  | .string "question" => some .question
  | .string "input" => some .input
  | _ => none

/-- What is waited for. -/
def readWaiting (v : Json) : Option Waiting := do
  let node ← optionalString (v.field "nodeId")
  let kind ← readKind (v.field "type")
  return { node, kind }

/-- A state, read at the given time. -/
def ofJson (now : String) (v : Json) : State :=
  { history := (v.field "history").items.filterMap (readVisit now)
    collected := (Graph.membersOf (v.field "collectedData")).map fun (k, x) => (k, x.text)
    waiting := readWaiting (v.field "waitingFor")
    completed := (v.field "completed").bool? }

/-! ## Writing -/

/-- A member, if it has a value. -/
def memberIf (key : String) (v : Option Json) : List (String × Json) := (v.map (key, ·)).toList

/-- An item of the history. -/
def visitJson (v : Visit) : Json :=
  .object ([("nodeId", .string v.node)] ++ memberIf "input" (v.input.map .string)
    ++ [("occurredAt", .string v.occurredAt)])

/-- What is waited for. -/
def waitingJson (w : Waiting) : Json :=
  .object [("nodeId", .string w.node), ("type", .string w.kind.name)]

/-- What is collected. -/
def collectedJson (es : Entries String) : Json := .object (es.map fun (k, x) => (k, .string x))

/-- The state as it is stored. What there is none of is left out. -/
def toJson (s : State) : Json :=
  .object
    ([("history", .list (s.history.map visitJson)), ("collectedData", collectedJson s.collected)]
      ++ memberIf "waitingFor" (s.waiting.map waitingJson)
      ++ memberIf "completed" (s.completed.map .bool))

/-- The state with null for what there is none of. -/
def toFullJson (s : State) : Json :=
  let visit (v : Visit) : Json :=
    .object [("nodeId", .string v.node), ("input", .ofString? v.input),
      ("occurredAt", .string v.occurredAt)]
  .object
    [("history", .list (s.history.map visit)), ("collectedData", collectedJson s.collected),
     ("waitingFor", (s.waiting.map waitingJson).getD .null),
     ("completed", (s.completed.map .bool).getD .null)]

end State

end FrontDesk
