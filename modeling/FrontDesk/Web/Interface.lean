/-
The interface for front ends: requests over the web and the replies to them.

A body is checked before anything is done, also where the flow it is for does not exist.
-/
import FrontDesk.Json.Reader
import FrontDesk.Service.Editing
import FrontDesk.Service.Reception
import FrontDesk.Service.Rehearsal
import FrontDesk.Web.Route

namespace FrontDesk.Web

open Calendar Service

/-- A request. -/
structure Request where
  method : String
  path : String
  /-- The body, empty if there is none. -/
  body : String

/-- A reply. -/
inductive Reply where
  | value (status : Nat) (body : Json)
  /-- A refusal, with its reason. -/
  | refusal (status : Nat) (reason : String)
  /-- Complaints about the body. -/
  | complaints (cs : List Form.Complaint)
  /-- The body is not JSON. -/
  | unreadable
  /-- The path is another one. -/
  | sentOn
  /-- Something went wrong that nobody reckoned with. -/
  | broken

/-! ## Bodies -/

/-- Why a body is no good. -/
def badBody : Json.ReadError → Reply
  | .malformed => .unreadable
  | .tooManyDigits => .refusal 400 "There was an error parsing the body"

/-- What a body says. -/
def readBody {α : Type} (read : Json → Checked α) (body : String) : Except Reply α :=
  if body.isEmpty then .error (.complaints [⟨[.field "body"], .missing⟩])
  else
    match Json.parse body with
    | .error e => .error (badBody e)
    | .ok v => (((read v).within (.field "body")).toExcept).mapError .complaints

/-- A message that comes in. -/
structure Notice where
  ticketId : String
  messageId : String
  body : String
  deriving DecidableEq, Repr

/-- Reads a message that comes in. -/
def Notice.ofJson : Json → Checked Notice :=
  Form.fields .modelAttributesType fun ms =>
    Notice.mk
      <$> Form.requiredAs ms Form.string "ticketId" ["ticketId", "ticket_id"]
      <*> Form.requiredAs ms Form.string "messageId" ["messageId", "message_id"]
      <*> Form.withDefault ms "body" Form.string ""

/-- The messages to try a flow out on: what is said in any of the items of a list. -/
def script : Json → Checked (List String) :=
  Form.fields .modelAttributesType fun ms =>
    (fun items => items.filterMap fun v => v.string?.bind Text.trimmed?)
      <$> Form.required ms "messages" (Form.list Form.any)

/-! ## Replies -/

/-- A flow as front ends get it. -/
def flowJson (f : Flow) : Json := .object (f.membersFor Text.camel (.object f.definition))

/-- A flow of a list as front ends get it: without its graph, with its counts. -/
def summaryJson (f : Flow) (c : Counts) : Json :=
  .object (f.membersFor Text.camel .null ++ [("stats", c.toJson Text.camel)])

/-- What is said of a message that came in. -/
def noticeJson (s : Option Session) : Json :=
  .object
    [("handled", .bool s.isSome),
     ("sessionId", .ofString? (s.map (·.id))),
     ("currentNodeId", .ofString? (s.bind (·.currentNode))),
     ("completed", .bool (s.any (!·.isActive)))]

/-- The reply to a failure. Only failures that a caller can bring about are explained. -/
def replyTo (e : Failure) : Reply :=
  let explained (isCallers : Bool) (status : Nat) : Reply :=
    if isCallers then .refusal status (e.message?.getD "") else .broken
  match e with
  | .flowNotFound _ => explained true 404
  | .graph e | .refused (.graph e) => explained e.isInvalid 400
  | .refused _ => explained true 400
  | _ => .broken

/-- The reply with the result of a job, or to its failure. -/
def reply {α : Type} (status : Nat) (json : α → Json) (t : Job α) : Job Reply := do
  match ← t.attempt with
  | .ok a => return .value status (json a)
  | .error e => return replyTo e

/-- The reply to a request with a body. -/
def withBody {α : Type} (read : Json → Checked α) (body : String) (next : α → Job Reply) :
    Job Reply :=
  match readBody read body with
  | .ok a => next a
  | .error r => return r

/-! ## Requests -/

variable (r : Reception) (now : Moment)

/-- Does what is asked in a place. -/
def serve (body : String) : Route → Method → Job Reply
  | .messages, _ =>
    withBody Notice.ofJson body fun n =>
      reply 200 noticeJson (r.incoming now n.ticketId n.messageId n.body)
  | .flows, .post =>
    withBody (Draft.ofJson .modelAttributesType) body fun d =>
      reply 201 flowJson (Editing.create now d)
  | .flows, _ => reply 200 (fun fs => .list (fs.map fun (f, c) => summaryJson f c)) Editing.list
  | .flow id, .patch =>
    withBody (Draft.ofJson .modelAttributesType) body fun d =>
      reply 200 flowJson (Editing.update now id d)
  | .flow id, .delete =>
    reply 200 (fun () => .object [("success", .bool true)]) (Editing.delete id)
  | .flow id, _ => reply 200 flowJson (Editing.get id)
  | .stats id, _ => reply 200 Report.toJson (Editing.report now id)
  | .test id, _ =>
    withBody script body fun ms => reply 200 Rehearsal.toJson (Rehearsal.ofFlow r.limit now id ms)

/-- Replies to a request. -/
def answer (q : Request) : Job Reply :=
  let path := pathOf q.path
  match Route.ofPath path with
  | none => return if isSentOn path then .sentOn else .refusal 404 "Not Found"
  | some route =>
    match (Method.names.lookup q.method).filter route.methods.contains with
    | some m => serve r now q.body route m
    | none => return .refusal 405 "Method Not Allowed"

end FrontDesk.Web
