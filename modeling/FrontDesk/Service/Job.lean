/-
Jobs: what a service does, as the row of things it asks of the store and the helpdesk.

A job says what is asked next and how it goes on after the answer, which may be that the request
failed. What a job does is found by running it in a world (`Service.World`); jobs that are under
way at the same time take turns request by request (`Counter`).
-/
import FrontDesk.Helpdesk.Request
import FrontDesk.Service.Failure

namespace FrontDesk.Service

open Calendar

/-- How serious a line of the log is. -/
inductive Level where
  | info
  | warning
  | error
  deriving DecidableEq, Repr

/-- The name of a level. -/
def Level.name : Level → String
  | info => "INFO"
  | warning => "WARNING"
  | error => "ERROR"

/-- What a service asks of what is around it. -/
inductive Request where
  | store (r : Store.Request)
  | desk (r : Helpdesk.Request)
  | log (level : Level) (text : String)
  /-- An id for a new flow. -/
  | newFlowId

/-- The kind of answer to a request. -/
abbrev Request.Answer : Request → Type
  | store r => r.Answer
  | desk r => r.Answer
  | log .. => Unit
  | newFlowId => String

end FrontDesk.Service

namespace FrontDesk

open Service in
/-- A job with a result. -/
inductive Job (α : Type) : Type where
  | done (a : α)
  | failed (e : Failure)
  | ask (r : Request) (next : Except Failure r.Answer → Job α)

namespace Job

open Service

variable {α β : Type}

/-- One job after the other. -/
def bind : Job α → (α → Job β) → Job β
  | done a, f => f a
  | failed e, _ => failed e
  | ask r next, f => ask r fun x => (next x).bind f

instance : Monad Job where
  pure := done
  bind := bind

/-- The job with its failure, if any, as its result. -/
def attempt : Job α → Job (Except Failure α)
  | done a => done (.ok a)
  | failed e => done (.error e)
  | ask r next => ask r fun x => (next x).attempt

/-- The answer to a request, whose failure is that of the job. -/
def request (r : Request) : Job r.Answer :=
  ask r fun
    | .ok a => done a
    | .error e => failed e

/-- The answer of the store. -/
def store (r : Store.Request) : Job r.Answer := request (.store r)

/-- The answer of the helpdesk. -/
def desk (r : Helpdesk.Request) : Job r.Answer := request (.desk r)

/-- Writes a line to the log. -/
def log (level : Level) (text : String) : Job Unit := request (.log level text)

/-- A result that is there already, or a failure. -/
def ofExcept {ε : Type} (failure : ε → Failure) : Except ε α → Job α
  | .ok a => done a
  | .error e => failed (failure e)

/-- The job; if it fails, a line is logged and the given value taken. -/
def orLog (text : String) (value : α) (t : Job α) : Job α := do
  match ← t.attempt with
  | .ok a => return a
  | .error _ => do
    log .error text
    return value

end Job

end FrontDesk
