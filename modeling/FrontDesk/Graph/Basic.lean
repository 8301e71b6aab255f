/-
Conversation graphs: the nodes an author draws, and the ways between them.

A message is sent and passed by; a question waits for one of its choices and an input for a free
answer; a transfer hands the conversation to people; an ending closes it. A node of a kind that is
not known is kept, and the conversation stops on it.
-/
import FrontDesk.Json.Basic

namespace FrontDesk

/-- An answer a question offers. -/
structure Choice where
  /-- What stands in the history when it is picked. -/
  value : String
  /-- What the menu shows in place of the value. -/
  label : Option String
  /-- Further words that pick it. -/
  keywords : List String
  /-- Where the conversation goes on, in place of the question's own way. -/
  next : Option String
  /-- What is stored in place of the value. -/
  storeValue : Option String

/-- What an answer has to be. -/
inductive AnswerKind where
  | text
  | freeform
  | number
  | email
  | phone
  deriving DecidableEq, Repr

/-- Rules for the answer to an input. The message, if there is one, is said whatever rule fails. -/
structure AnswerRules where
  kind : Option AnswerKind
  minLength : Option Int
  maxLength : Option Int
  pattern : Option String
  message : Option String
  deriving Repr

/-- What an author notes on a node. No conversation depends on it. -/
structure Notes where
  label : Option String := none
  metadata : Entries Json := []

/-- A question with a menu. -/
structure Question where
  content : String
  choices : List Choice
  next : Option String
  /-- Where a free answer leads, in place of `next`. -/
  defaultNext : Option String
  /-- Under which key the answer is stored, if it is. -/
  storeField : Option String
  allowFreeText : Bool
  retryMessage : Option String
  notes : Notes := {}

/-- A question with a free answer. -/
structure Input where
  content : String
  field : String
  storeField : Option String
  rules : Option AnswerRules
  next : Option String
  notes : Notes := {}

/-- Under which key the answer to an input is stored. -/
def Input.storageKey (i : Input) : String := i.storeField.getD i.field

/-- What a node does. Notes are passed over where they do not matter. -/
inductive NodeBody where
  | message {notes : Notes} (content : String) (next : Option String) (quickReplies : List String)
  | question (q : Question)
  | input (i : Input)
  | transfer {notes : Notes} (message queue next : Option String)
  | ending {notes : Notes} (content : Option String)
  /-- What an author stored is kept as it is, notes and all. -/
  | unknown (kind : String) (source : Entries Json)

/-- The notes on a node, if it is of a kind that has notes. -/
def NodeBody.notes? : NodeBody → Option Notes
  | @message notes .. | @transfer notes .. | @ending notes _ => some notes
  | question q => some q.notes
  | input i => some i.notes
  | unknown .. => none

/-- A node of a graph. -/
structure Node where
  id : String
  body : NodeBody

namespace Node

/-- How a node is labelled, if it is. -/
def label (n : Node) : Option String := n.body.notes?.bind (·.label)

/-- What else is noted on a node. -/
def metadata (n : Node) : Entries Json := (n.body.notes?.map (·.metadata)).getD []

end Node

/-- A graph with the node where conversations begin. -/
structure Graph where
  entry : String
  nodes : List Node
  version : String
  metadata : Option (Entries Json)

namespace Graph

/-- Some nodes by their ids, added to those that are there. Of nodes with one id the first counts. -/
def indexFrom (index : Entries Node) (nodes : List Node) : Entries Node :=
  nodes.foldl (fun index n => index.putNew n.id n) index

/-- The nodes of a graph by their ids. -/
def index (g : Graph) : Entries Node := indexFrom [] g.nodes

/-- The node with the id. No node is found under the empty id. -/
def node? (g : Graph) (id : String) : Option Node :=
  if id.isEmpty then none else g.index.find? id

theorem find?_indexFrom (index : Entries Node) (nodes : List Node) (id : String) :
    (indexFrom index nodes).find? id =
      (index.find? id).or (nodes.find? fun n => n.id == id) := by
  induction nodes generalizing index with
  | nil => exact Option.or_none.symm
  | cons n rest ih =>
    have hstep : indexFrom index (n :: rest) = indexFrom (index.putNew n.id n) rest := rfl
    rw [hstep, ih, Entries.find?_putNew, Option.or_assoc, List.find?_cons]
    by_cases hid : n.id = id
    · simp [hid]
    · have hother : (n.id == id) = false := beq_eq_false_iff_ne.2 hid
      simp [hother, Ne.symm hid]

/-- What is found under an id is the first node that has it. -/
theorem node?_eq (g : Graph) (id : String) :
    g.node? id = if id.isEmpty then none else g.nodes.find? fun n => n.id == id := by
  rw [node?, index, find?_indexFrom]
  rfl

theorem node?_id {g : Graph} {id : String} {n : Node} (h : g.node? id = some n) : n.id = id := by
  rw [node?_eq] at h
  split at h
  · cases h
  · simpa using List.find?_some h

end Graph

end FrontDesk
