/-
Drafts: what an author sends to create a flow or to change one.

Every field may be left out, be null or have a value. A new flow takes defaults for what is left
out; a change keeps the stored value, and null mostly clears it. The definition is checked before
anything is stored: it has to be a graph with the flow's entry node.
-/
import FrontDesk.Catalog.Flow
import FrontDesk.Graph.Reader
import FrontDesk.Text.Blank

namespace FrontDesk

/-- A flow as an author sends it. -/
structure Draft where
  name : Given String := none
  description : Given String := none
  isActive : Given Bool := none
  isPrimary : Given Bool := none
  trigger : Given Trigger := none
  keywords : Given (List Json) := none
  entryNode : Given String := none
  definition : Given Json := none
  schedule : Given Json := none
  offlineMessage : Given String := none
  transferQueue : Given String := none

namespace Draft

/-- Reads a draft; anything but an object is refused with the given fault. A field goes by its
name in camel case or, failing that, with low lines. -/
def ofJson (refusal : Form.Fault) : Json → Checked Draft :=
  Form.fields refusal fun ms =>
    let names (name : String) := [Text.camel name, name]
    Draft.mk
      <$> Form.givenAs ms Form.string (names "name")
      <*> Form.givenAs ms Form.string (names "description")
      <*> Form.givenAs ms Form.bool (names "is_active")
      <*> Form.givenAs ms Form.bool (names "is_primary")
      <*> Form.givenAs ms Flow.readTrigger (names "trigger_type")
      <*> Form.givenAs ms (Form.list Form.any) (names "keywords")
      <*> Form.givenAs ms Form.string (names "entry_node_id")
      <*> Form.givenAs ms Form.any (names "definition")
      <*> Form.givenAs ms Form.any (names "schedule")
      <*> Form.givenAs ms Form.string (names "offline_message")
      <*> Form.givenAs ms Form.string (names "transfer_queue_id")

/-- The value of a field, whether it is null or left out. -/
def value? {α : Type} (field : Given α) : Option α := field.join

/-- The trimmed text of a field, if anything is left of it. -/
def clean (field : Given String) : Option String := (value? field).bind Text.trimmed?

/-- The keywords among a list: its strings, trimmed, without blank ones. -/
def cleanKeywords (vs : List Json) : List String :=
  vs.filterMap fun v => v.string?.bind Text.trimmed?

/-- The schedule to be stored: an object with members. -/
def scheduleOf (field : Given Json) : Option (Entries Json) :=
  match value? field with
  | some (.object (m :: ms)) => some (m :: ms)
  | _ => none

/-- A definition with the entry node put in. Without an object there are no nodes. -/
def withEntry (definition : Option Json) (entry : String) : Entries Json :=
  match definition with
  | some (.object ms) => Entries.put "entryNodeId" (.string entry) ms
  | _ => [("entryNodeId", .string entry), ("nodes", .list [])]

/-- The same, unless it is no graph. -/
def ensureDefinition (definition : Option Json) (entry : String) :
    Except Graph.ReadError (Entries Json) := do
  let merged := withEntry definition entry
  let _ ← Graph.ofJson (.object merged)
  return merged

/-- Why a draft makes no flow. -/
inductive Refusal where
  | nameRequired
  | entryRequired
  | graph (e : Graph.ReadError)
  deriving DecidableEq, Repr

/-- The wording of a refusal. -/
def Refusal.message : Refusal → String
  | nameRequired => "Flow name is required"
  | entryRequired => "Flow entry node is required"
  | graph e => e.message

/-- The trigger of a flow: a primary one is always a default. -/
def triggerOf (isPrimary : Bool) (field : Given Trigger) : Trigger :=
  if isPrimary then .default else (value? field).getD .keyword

/-- The flow a draft makes, but for its id and times. -/
def create (d : Draft) : Except Refusal (String → Calendar.Moment → Flow) := do
  let name ← match clean d.name with
    | some name => pure name
    | none => throw .nameRequired
  let entryNode ← match clean d.entryNode with
    | some entry => pure entry
    | none => throw .entryRequired
  let definition ← (ensureDefinition (value? d.definition) entryNode).mapError .graph
  let isPrimary := (value? d.isPrimary).getD false
  return fun id now =>
    { id, name, entryNode, definition, isPrimary
      description := clean d.description
      isActive := (value? d.isActive).getD true
      trigger := triggerOf isPrimary d.trigger
      keywords := cleanKeywords ((value? d.keywords).getD [])
      schedule := scheduleOf d.schedule
      offlineMessage := clean d.offlineMessage
      transferQueue := clean d.transferQueue
      createdAt := now
      updatedAt := now }

/-- What a field of a flow becomes: as the draft has it, else as it was. -/
def change {α β : Type} (field : Given α) (read : Given α → β) (old : β) : β :=
  if field.isSome then read field else old

/-- A flow as a draft changes it at the given time. -/
def update (d : Draft) (f : Flow) (now : Calendar.Moment) : Except Graph.ReadError Flow := do
  let entryNode := (clean d.entryNode).getD f.entryNode
  let isPrimary := change d.isPrimary (fun p => (value? p).getD false) f.isPrimary
  let trigger :=
    if d.trigger.isSome then triggerOf isPrimary d.trigger
    else if f.isPrimary then .default else f.trigger
  let definition ← ensureDefinition (value? d.definition <|> some (.object f.definition)) entryNode
  return { f with
    entryNode, isPrimary, trigger, definition
    name := (clean d.name).getD f.name
    description := change d.description clean f.description
    isActive := change d.isActive (fun a => (value? a).getD false) f.isActive
    keywords := change d.keywords (fun ks => cleanKeywords ((value? ks).getD [])) f.keywords
    schedule := change d.schedule scheduleOf f.schedule
    offlineMessage := change d.offlineMessage clean f.offlineMessage
    transferQueue := change d.transferQueue clean f.transferQueue
    updatedAt := now }

end Draft

end FrontDesk
