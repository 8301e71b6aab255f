/-
The counter: calls about tickets that are under way at the same time.

Calls about one ticket stand in a line, in the order in which they came, and only the first in a
line is dealt with. Lines are opened as tickets need them. The counter may forget the line of a
ticket, but only one in which nobody stands; the next call then opens a new one.

What happens is a row of events. In a turn the first in a line makes one request of the world, or
leaves if it has nothing left to do; the turns of calls that wait come to nothing
(`turn_eq_self`). Turns of calls in different lines may come in any order. To serve a call to its
end is to give it turns, and nothing else (`serve_eq_afterAll`).
-/
import FrontDesk.Service.Reception
import FrontDesk.Service.World

namespace FrontDesk

variable {α : Type}

/-- The result of a job that has nothing left to do. -/
def Job.result? : Job α → Option (Except Service.Failure α)
  | done a => some (.ok a)
  | failed e => some (.error e)
  | ask .. => none

/-- A call about a ticket. -/
structure Call (α : Type) where
  ticket : String
  /-- The number of the line in which it stands. -/
  line : Nat
  /-- What is left to do. -/
  left : Job α

/-- Calls and the lines in which they stand. Calls and lines go by their numbers. -/
structure Counter (α : Type) where
  /-- All calls that came, in their order. -/
  calls : List (Call α) := []
  /-- The calls in each line, the first of them at its head. -/
  lines : List (List Nat) := []
  /-- The line of each ticket that has one. -/
  lineOf : Entries Nat := []

namespace Counter

/-- The counter with a line for the ticket, and its number. -/
def lineFor (c : Counter α) (ticket : String) : Nat × Counter α :=
  match c.lineOf.find? ticket with
  | some k => (k, c)
  | none =>
    (c.lines.length,
      { c with lines := c.lines ++ [[]], lineOf := Entries.put ticket c.lines.length c.lineOf })

/-- A call comes in and goes to the end of the line for its ticket. -/
def arrive (c : Counter α) (ticket : String) (job : Job α) : Counter α :=
  let (k, c) := c.lineFor ticket
  { c with
    calls := c.calls ++ [⟨ticket, k, job⟩]
    lines := c.lines.modify k (· ++ [c.calls.length]) }

/-- The counter without the line of the ticket, if nobody stands in it. -/
def forget (c : Counter α) (ticket : String) : Counter α :=
  match (c.lineOf.find? ticket).bind (c.lines[·]?) with
  | some [] => { c with lineOf := c.lineOf.remove ticket }
  | _ => c

/-- The call of that number, if it is the first in its line. -/
def first? (c : Counter α) (n : Nat) : Option (Call α) :=
  c.calls[n]?.filter fun call => (c.lines[call.line]?.bind (·.head?)) == some n

/-- The counter after the call of that number went on. -/
def goOn (c : Counter α) (n : Nat) (job : Job α) : Counter α :=
  { c with calls := c.calls.modify n ({ · with left := job }) }

/-- The counter after the first in a line left. -/
def leave (c : Counter α) (line : Nat) : Counter α :=
  { c with lines := c.lines.modify line List.tail }

/-- The turn of a call. -/
def turn (c : Counter α) (n : Nat) (w : World) : Counter α × World :=
  match c.first? n with
  | none => (c, w)
  | some call =>
    match call.left with
    | .ask r next =>
      let (x, w) := w.answer r
      (c.goOn n (next x), w)
    | .done _ | .failed _ => (c.leave call.line, w)

/-- What can happen at a counter. -/
inductive Event (α : Type) where
  | arrive (ticket : String) (job : Job α)
  | turn (n : Nat)
  | forget (ticket : String)

/-- What an event does. -/
def after (c : Counter α) (w : World) : Event α → Counter α × World
  | .arrive ticket job => (c.arrive ticket job, w)
  | .turn n => c.turn n w
  | .forget ticket => (c.forget ticket, w)

/-- What a row of events does. -/
def afterAll (c : Counter α) (w : World) : List (Event α) → Counter α × World
  | [] => (c, w)
  | e :: es =>
    let (c, w) := c.after w e
    c.afterAll w es

/-- The first in a line is served to its end. -/
def serve (c : Counter α) (n : Nat) (w : World) : Counter α × World :=
  match c.first? n with
  | none => (c, w)
  | some call =>
    let (x, w) := call.left.run w
    ((c.goOn n (Job.ofExcept id x)).leave call.line, w)

/-- All calls are served to their ends, in the order in which they came. -/
def serveAll (c : Counter α) (w : World) : Counter α × World :=
  (List.range c.calls.length).foldl (fun (c, w) n => c.serve n w) (c, w)

/-- The results of the calls that have them. -/
def results (c : Counter α) : List (Except Service.Failure α) :=
  c.calls.filterMap (·.left.result?)

theorem turn_eq_self {c : Counter α} {n : Nat} (h : c.first? n = none) (w : World) :
    c.turn n w = (c, w) := by
  simp [turn, h]

/-! ## Serving is giving turns -/

theorem getElem?_of_first? {c : Counter α} {n : Nat} {call : Call α}
    (h : c.first? n = some call) : c.calls[n]? = some call := by
  rw [first?, Option.filter_eq_some_iff] at h
  exact h.1

theorem first?_goOn {c : Counter α} {n : Nat} {call : Call α} (h : c.first? n = some call)
    (job : Job α) : (c.goOn n job).first? n = some { call with left := job } := by
  rw [first?, Option.filter_eq_some_iff] at h ⊢
  exact ⟨by simp [goOn, h.1], h.2⟩

theorem goOn_goOn (c : Counter α) (n : Nat) (a b : Job α) :
    (c.goOn n a).goOn n b = c.goOn n b := by
  simp [goOn, List.modify_modify_eq, Function.comp_def]

theorem goOn_left {c : Counter α} {n : Nat} {call : Call α} (h : c.calls[n]? = some call) :
    c.goOn n call.left = c := by
  have : c.calls.modify n ({ · with left := call.left }) = c.calls := by
    apply List.ext_getElem?
    intro i
    rw [List.getElem?_modify]
    split
    · next hi => subst hi; simp [h]
    · simp
  simp [goOn, this]

/-- Some turns serve the first in a line to its end. -/
theorem exists_turns {n : Nat} : ∀ (job : Job α) {c : Counter α} {call : Call α} (w : World),
    c.first? n = some call → call.left = job →
    ∃ k, c.afterAll w (List.replicate k (.turn n)) =
      ((c.goOn n (Job.ofExcept id (job.run w).1)).leave call.line, (job.run w).2)
  | .done a, c, call, w, h, hleft => by
    refine ⟨1, ?_⟩
    have hc := goOn_left (getElem?_of_first? h)
    rw [hleft] at hc
    simp [afterAll, after, turn, h, hleft, Job.run, Job.ofExcept, hc]
  | .failed e, c, call, w, h, hleft => by
    refine ⟨1, ?_⟩
    have hc := goOn_left (getElem?_of_first? h)
    rw [hleft] at hc
    simp [afterAll, after, turn, h, hleft, Job.run, Job.ofExcept, hc]
  | .ask r next, c, call, w, h, hleft => by
    obtain ⟨k, hk⟩ := exists_turns (next (w.answer r).1) (w.answer r).2
      (first?_goOn h (next (w.answer r).1)) rfl
    refine ⟨k + 1, ?_⟩
    rw [goOn_goOn] at hk
    simpa [List.replicate_succ, afterAll, after, turn, h, hleft, Job.run] using hk

/-- To serve a call is to give it turns. -/
theorem serve_eq_afterAll (c : Counter α) (n : Nat) (w : World) :
    ∃ k, c.serve n w = c.afterAll w (List.replicate k (.turn n)) := by
  cases h : c.first? n with
  | none => exact ⟨0, by simp [serve, h, afterAll]⟩
  | some call =>
    obtain ⟨k, hk⟩ := exists_turns call.left w h rfl
    exact ⟨k, by simp [serve, h, hk]⟩

end Counter

/-- A counter at which messages of one ticket came in together. -/
def Reception.counter (r : Reception) (now : Calendar.Moment) (ticketId : String)
    (messages : List (String × String)) : Counter (Option Session) :=
  messages.foldl (fun c (messageId, text) =>
    c.arrive ticketId (r.incoming now ticketId messageId text)) {}

end FrontDesk
