/-
A helpdesk that is reached over the web.

Every request to the helpdesk is one message to its server, and the server's answer is read back:
a status that is no success is a fault, except that a ticket may not be there.
-/
import FrontDesk.Helpdesk.Request
import FrontDesk.Json.Readable
import FrontDesk.Json.Reader
import FrontDesk.Settings
import FrontDesk.Web.Address

namespace FrontDesk.Helpdesk

open Web

/-- How the server is reached. -/
structure Client where
  baseUrl : String
  token : Option String
  /-- How many seconds the server may take. -/
  timeout : Json

/-- A message to the server. -/
structure Message where
  method : String
  url : String
  authorization : Option String
  body : Option Json

/-- The answer of the server. -/
structure Response where
  status : Int
  body : String

/-- Why an answer of the server is of no use. -/
inductive ClientFault where
  | status (code : Int)
  | notJson
  /-- A value where there should be an object. -/
  | notAnObject (v : Json)
  | missingKey (key : String)
  | form (cs : List Form.Complaint)

/-- The wording of a fault, where it has one. -/
def ClientFault.message? : ClientFault → Option String
  | notAnObject v => some ("'" ++ v.kindName ++ "' object has no attribute 'get'")
  | missingKey key => some (Text.quoted key)
  | status _ | notJson | form _ => none

namespace Client

/-- A client from what is given of its address, its token and its patience. -/
def make (baseUrl token : Option String) (timeout : Json) : Client :=
  { baseUrl :=
      Address.withoutSlashes ((baseUrl.bind Text.nonempty?).getD Settings.defaultHelpdeskUrl)
    token
    timeout := if timeout.isTruthy then timeout else .float Settings.defaultTimeout }

/-- Where and how a request is put: method, path and body. -/
def form : Request → String × String × Option Json
  | .ticket id => ("GET", "/tickets/" ++ id, none)
  | .transfer t queue =>
    ("POST", "/tickets/" ++ t.id ++ "/transfer",
      some (.object
        [("queueId", .ofString? queue), ("userId", .null),
         ("reopen", .bool (t.status == "CLOSED"))]))
  | .persist t body =>
    ("POST", "/tickets/" ++ t.id ++ "/messages",
      some (.object
        [("body", .string body), ("type", .string "TEXT"), ("channel", .string "WHATSAPP"),
         ("status", .string "SENT"), ("fromBot", .bool true)]))
  | .deliver t body =>
    ("POST", "/tickets/" ++ t.id ++ "/messages/send",
      some (.object
        [("whatsappId", .ofString? t.channelId), ("to", .ofString? t.contactPhone),
         ("body", .string body)]))
  | .notify event payload =>
    ("POST", "/events", some (.object [("event", .string event), ("payload", payload)]))
  | .touch t time =>
    ("PATCH", "/tickets/" ++ t.id ++ "/activity",
      some (.object
        [("lastMessageAt", .string time.isoText), ("contactId", .string t.contactId)]))

/-- The message for a request. -/
def message (c : Client) (r : Request) : Message :=
  let (method, path, body) := form r
  { method, body
    url := Address.write (c.baseUrl ++ path)
    authorization := (c.token.bind Text.nonempty?).map fun token => "Bearer " ++ token }

/-! ## Answers -/

/-- The members of an object. -/
def membersOf : Json → Except ClientFault (Entries Json)
  | .object ms => .ok ms
  | v => .error (.notAnObject v)

/-- The first of some values that counts as something, else the empty text. -/
def firstTruthy (vs : List Json) : Json := (vs.find? Json.isTruthy).getD (.string "")

/-- A ticket from what the server says of it. -/
def ticketOf (v : Json) : Except ClientFault Ticket := do
  let ms ← membersOf v
  let field (key : String) := (ms.find? key).getD .null
  let id ← match ms.find? "id" with
    | some id => pure id.text
    | none => throw (.missingKey "id")
  let contact ← if (field "contact").isTruthy then membersOf (field "contact") else pure []
  let contactId := (firstTruthy [field "contactId", (contact.find? "id").getD .null]).text
  let status := if (field "status").isTruthy then field "status" else .string "OPEN"
  (Ticket.ofJson (.object
    [("id", .string id),
     ("contact_id", .string contactId),
     ("contact_phone", (contact.find? "phoneNumber").getD .null),
     ("whatsapp_id", field "whatsappId"),
     ("queue_id", field "queueId"),
     ("user_id", field "userId"),
     ("status", status)])).toExcept.mapError .form

/-- The value in the body of an answer. -/
def valueOf (r : Response) : Except ClientFault Json :=
  (Json.parse r.body).mapError fun _ => .notJson

/-- An answer, if it is a success. -/
def success (r : Response) : Except ClientFault Unit :=
  if 200 ≤ r.status && r.status < 300 then .ok () else .error (.status r.status)

/-- The status of an answer about something that is not there. -/
def notFound : Int := 404

/-- Reads the answer to a request. -/
def read (response : Response) : (r : Request) → Except ClientFault r.Answer
  | .ticket _ =>
    if response.status == notFound then .ok none
    else do
      success response
      some <$> ticketOf (← valueOf response)
  | .transfer .. => do
    success response
    ticketOf (← valueOf response)
  | .persist .. => do
    success response
    valueOf response
  | .deliver .. | .notify .. | .touch .. => success response

end Client

end FrontDesk.Helpdesk
