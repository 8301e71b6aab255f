/-
Failures: all that can keep a service from giving an answer.
-/
import FrontDesk.Answer.Rules
import FrontDesk.Calendar.Schedule
import FrontDesk.Catalog.Draft
import FrontDesk.Store.Request

namespace FrontDesk.Service

open Calendar

/-- Why a job fails. -/
inductive Failure where
  /-- The store or the helpdesk did not do its part. -/
  | outage
  | store (e : Store.Fault)
  | graph (e : Graph.ReadError)
  | pattern (e : PatternFault)
  | schedule (e : Schedule.Fault)
  | clock (e : ClockError)
  | flowNotFound (id : String)
  | refused (r : Draft.Refusal)
  | form (cs : List Form.Complaint)
  deriving DecidableEq, Repr

/-- The wording of a failure, where it has one. -/
def Failure.message? : Failure → Option String
  | outage | schedule .regionAsZone | form _ => none
  | store e => e.message?
  | graph e => some e.message
  | pattern e => some e.message
  | schedule (.clock e) | clock e => some e.message
  | flowNotFound id => some ("Flow " ++ id ++ " not found")
  | refused r => some r.message

end FrontDesk.Service
