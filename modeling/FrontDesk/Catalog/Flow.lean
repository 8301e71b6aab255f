/-
Flows: the records of the catalog. A flow is a conversation graph with what decides when it is
started, when it may run, and where it hands conversations to.
-/
import FrontDesk.Form
import FrontDesk.Text.Camel

namespace FrontDesk

open Calendar

/-- How a flow is started. -/
inductive Trigger where
  /-- By a keyword in the first message. -/
  | keyword
  /-- When no keyword fits. -/
  | default
  /-- Never on its own. -/
  | manual
  deriving DecidableEq, Repr

/-- The triggers by name. -/
def Trigger.names : List (String × Trigger) :=
  [("KEYWORD", .keyword), ("DEFAULT", .default), ("MANUAL", .manual)]

/-- The name of a trigger. -/
def Trigger.name : Trigger → String
  | keyword => "KEYWORD"
  | default => "DEFAULT"
  | manual => "MANUAL"

/-- A flow of the catalog. -/
structure Flow where
  id : String
  name : String
  description : Option String
  isActive : Bool
  isPrimary : Bool
  trigger : Trigger
  keywords : List String
  entryNode : String
  /-- The graph, as its author stored it. -/
  definition : Entries Json
  /-- The operating hours, as their author stored them. -/
  schedule : Option (Entries Json)
  /-- What is said outside the hours, unless these say it themselves. -/
  offlineMessage : Option String
  /-- Where transfers go that name no queue. -/
  transferQueue : Option String
  createdAt : Moment
  updatedAt : Moment

namespace Flow

/-- The schedule as a value. -/
def scheduleJson (f : Flow) : Json := (f.schedule.map .object).getD .null

/-- The members of the record but its definition, under names written in the given way. -/
def membersFor (name : String → String) (f : Flow) (definition : Json) : Entries Json :=
  [(name "id", .string f.id),
   (name "name", .string f.name),
   (name "description", .ofString? f.description),
   (name "is_active", .bool f.isActive),
   (name "is_primary", .bool f.isPrimary),
   (name "trigger_type", .string f.trigger.name),
   (name "keywords", .ofStrings f.keywords),
   (name "entry_node_id", .string f.entryNode),
   (name "definition", definition),
   (name "schedule", f.scheduleJson),
   (name "offline_message", .ofString? f.offlineMessage),
   (name "transfer_queue_id", .ofString? f.transferQueue),
   (name "created_at", .string f.createdAt.stampText),
   (name "updated_at", .string f.updatedAt.stampText)]

/-- The record. -/
def toJson (f : Flow) : Json := .object (f.membersFor (fun name => name) (.object f.definition))

/-- A trigger by its name. -/
def readTrigger : Json → Checked Trigger
  | .string s =>
    match Trigger.names.lookup s with
    | some t => pure t
    | none => .fault .enumValue
  | _ => .fault .enumValue

/-- A flow from a record. Without an id it gets the one given, without times the time now. -/
def ofJson (freshId : String) (now : Moment) : Json → Checked Flow :=
  Form.fields .modelType fun ms =>
    Flow.mk
      <$> Form.withDefault ms "id" Form.string freshId
      <*> Form.required ms "name" Form.string
      <*> Form.optional ms "description" Form.string
      <*> Form.withDefault ms "is_active" Form.bool true
      <*> Form.withDefault ms "is_primary" Form.bool false
      <*> Form.withDefault ms "trigger_type" readTrigger .keyword
      <*> Form.withDefault ms "keywords" (Form.list Form.string) []
      <*> Form.required ms "entry_node_id" Form.string
      <*> Form.withDefault ms "definition" Form.dict []
      <*> Form.optional ms "schedule" Form.dict
      <*> Form.optional ms "offline_message" Form.string
      <*> Form.optional ms "transfer_queue_id" Form.string
      <*> Form.withDefault ms "created_at" Form.moment now
      <*> Form.withDefault ms "updated_at" Form.moment now

/-- Whether a record has no id of its own. -/
def lacksId (v : Json) : Bool := (v.get? "id").isNone

/-! ## Order -/

/-- The flows from the newest to the oldest, those of one time as they stand. -/
def newestFirst (fs : List Flow) : List Flow :=
  fs.mergeSort fun a b => b.createdAt.instant ≤ a.createdAt.instant

/-- The flows that are picked first, the others after them. -/
def leading (first : Flow → Bool) (fs : List Flow) : List Flow :=
  fs.filter first ++ fs.filter fun f => !first f

/-- Whether the times of creation can all be compared with each other. -/
def areComparable (fs : List Flow) : Bool :=
  match fs with
  | [] => true
  | f :: rest => rest.all fun g => f.createdAt.comparable g.createdAt

/-- All flows: active ones first, newest first. -/
def listed (fs : List Flow) : List Flow := leading Flow.isActive (newestFirst fs)

/-- Active flows in the order in which they are considered: primary ones first, newest first. -/
def considered (fs : List Flow) : List Flow :=
  leading Flow.isPrimary (newestFirst (fs.filter Flow.isActive))

/-- The flow as it stands when another becomes primary: no longer so, and started by keywords. -/
def demoted (f : Flow) : Flow := { f with isPrimary := false, trigger := .keyword }

end Flow

end FrontDesk
