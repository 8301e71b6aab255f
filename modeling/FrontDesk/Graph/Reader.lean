/-
Reading a conversation graph from what an author stored.

Only the entry point is strict. Nodes are taken as they come: a field of the wrong kind counts as
missing, and an item that is no object is dropped. Two things cannot be passed over: rules whose
type is a list or an object, and bounds on a length that are no finite number.
-/
import FrontDesk.Graph.Basic
import FrontDesk.Json.Readable
import FrontDesk.Text.Blank

namespace FrontDesk.Graph

open Number

/-- Why a graph is not read. -/
inductive ReadError where
  | notAnObject
  | noEntry
  /-- The entry point is no node. -/
  | entryMissing (id : String)
  /-- Rules whose type is a list. -/
  | listAsType
  /-- Rules whose type is an object. -/
  | objectAsType
  | infiniteLength
  | lengthNotANumber
  deriving DecidableEq, Repr

namespace ReadError

/-- Whether the entry point is at fault, or there is nothing that could have one. -/
def isInvalid : ReadError → Bool
  | notAnObject | noEntry | entryMissing _ => true
  | _ => false

/-- The wording of an error. -/
def message : ReadError → String
  | notAnObject => "Invalid chatbot flow definition"
  | noEntry => "Chatbot flow definition missing entryNodeId"
  | entryMissing id => "Chatbot flow definition entry node '" ++ id ++ "' not found in nodes"
  | listAsType => "unhashable type: 'list'"
  | objectAsType => "unhashable type: 'dict'"
  | infiniteLength => "cannot convert float infinity to integer"
  | lengthNotANumber => "cannot convert float NaN to integer"

end ReadError

/-! ## Fields -/

/-- The string, or the empty one. -/
def stringOr (v : Json) : String := v.string?.getD ""

/-- The string, unless it is empty. -/
def optionalString (v : Json) : Option String := v.string?.bind Text.nonempty?

/-- The strings of a list. -/
def stringsOf (v : Json) : List String := v.items.filterMap Json.string?

/-- The members of an object, of any other value none. -/
def membersOf (v : Json) : Entries Json := v.members?.getD []

/-- A bound on a length: a number, of which the whole part counts. -/
def readLength : Json → Except ReadError (Option Int)
  | .int n => .ok (some n)
  | .float .nan => .error .lengthNotANumber
  | .float x =>
    match x.truncate? with
    | some n => .ok (some n)
    | none => .error .infiniteLength
  | _ => .ok none

/-- The kinds of answers by name. -/
def answerKinds : List (String × AnswerKind) :=
  [("text", .text), ("freeform", .freeform), ("number", .number), ("email", .email),
   ("phone", .phone)]

/-- The kind of answer rules ask for. -/
def readAnswerKind : Json → Except ReadError (Option AnswerKind)
  | .string name => .ok (answerKinds.lookup name)
  | .list _ => .error .listAsType
  | .object _ => .error .objectAsType
  | _ => .ok none

/-- The rules for an answer, if there is an object that gives them. -/
def readRules (v : Json) : Except ReadError (Option AnswerRules) :=
  if v.isObject then do
    let kind ← readAnswerKind (v.field "type")
    let minLength ← readLength (v.field "minLength")
    let maxLength ← readLength (v.field "maxLength")
    return some
      { kind, minLength, maxLength
        pattern := optionalString (v.field "regex")
        message := optionalString (v.field "message") }
  else return none

/-- The value of the choice at a position of the menu. -/
def choiceValue (v : Json) (position : Nat) : String :=
  match v.field "value" with
  | .null | .string "" => "option_" ++ toString position
  | value => value.text

/-- A choice at its position among the items of the menu. -/
def readChoice (v : Json) (position : Nat) : Choice :=
  { value := choiceValue v position
    label := optionalString (v.field "label")
    keywords := stringsOf (v.field "keywords")
    next := optionalString (v.field "next")
    storeValue := optionalString (v.field "storeValue") }

/-- The choices of a menu. Every item takes a position, also one that is no choice. -/
def readChoices (position : Nat) : List Json → List Choice
  | [] => []
  | v :: rest =>
    if v.isObject then readChoice v position :: readChoices (position + 1) rest
    else readChoices (position + 1) rest

/-! ## Nodes -/

/-- The notes on a node. -/
def readNotes (v : Json) : Notes :=
  { label := optionalString (v.field "label")
    metadata := membersOf (v.field "metadata") }

/-- What a node with the given id does. -/
def readBody (id : String) (v : Json) : Except ReadError NodeBody :=
  let content := stringOr (v.field "content")
  let next := optionalString (v.field "next")
  let notes := readNotes v
  match v.field "type" with
  | .string "message" =>
    .ok (@NodeBody.message notes content next (stringsOf (v.field "quickReplies")))
  | .string "question" =>
    .ok (.question
      { content, next, notes
        choices := readChoices 1 (v.field "options").items
        defaultNext := optionalString (v.field "defaultNext")
        storeField := optionalString (v.field "storeField")
        allowFreeText := (v.field "allowFreeText").bool? == some true
        retryMessage := optionalString (v.field "retryMessage") })
  | .string "input" => do
    let rules ← readRules (v.field "validation")
    return .input
      { content, next, rules, notes
        field := (optionalString (v.field "field")).getD id
        storeField := optionalString (v.field "storeField") }
  | .string "transfer" =>
    .ok (@NodeBody.transfer notes (optionalString (v.field "message"))
      (optionalString (v.field "queueId")) next)
  | .string "end" => .ok (@NodeBody.ending notes (optionalString (v.field "content")))
  | kind => .ok (.unknown kind.text (membersOf v))

/-- A node. -/
def readNode (v : Json) : Except ReadError Node := do
  let id := stringOr (v.field "id")
  let body ← readBody id v
  return { id, body }

/-- The nodes among the items of a list. -/
def readNodes : List Json → Except ReadError (List Node)
  | [] => return []
  | v :: rest =>
    if v.isObject then do
      let node ← readNode v
      return node :: (← readNodes rest)
    else readNodes rest

/-- A graph. -/
def ofJson (v : Json) : Except ReadError Graph :=
  if !v.isObject then .error .notAnObject
  else
    let entry := stringOr (v.field "entryNodeId")
    if entry.isEmpty then .error .noEntry
    else do
      let nodes ← readNodes (v.field "nodes").items
      if nodes.any fun n => n.id == entry then
        return { entry, nodes
                 version := stringOr (v.field "version")
                 metadata := (v.field "metadata").members? }
      else .error (.entryMissing entry)

end FrontDesk.Graph
