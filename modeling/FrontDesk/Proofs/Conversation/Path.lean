/-
The path of a run: the nodes a walk visits, read off the graph alone.

A walk collects messages, visits, the pointer, the marks of completion and transfer in one sweep.
Here each of them is said of the path on its own, and `walk_path` shows that the sweep comes to
just that, whatever the graph is like: it may lead nowhere or in circles.
-/
import FrontDesk.Conversation.Run

namespace FrontDesk

namespace Node

/-- Where the way leads on from a node. It ends at all but messages and transfers. -/
def onward (n : Node) : Option String :=
  match n.body with
  | .message _ next _ | .transfer _ _ next => next
  | _ => none

/-- What is said at a node; nothing is said if that is empty. -/
def text (n : Node) : String :=
  match n.body with
  | .message content _ _ => content
  | .question q => q.prompt
  | .input i => i.content
  | .transfer message _ _ => message.getD ""
  | .ending content => content.getD ""
  | .unknown .. => ""

/-- Whether a node goes into the history as soon as it is walked. -/
def isPassed (n : Node) : Bool :=
  match n.body with
  | .message .. | .transfer .. | .ending _ => true
  | _ => false

/-- The kind of answer that is awaited at a node. -/
def awaits (n : Node) : Option WaitingKind :=
  match n.body with
  | .question _ => some .question
  | .input _ => some .input
  | _ => none

/-- Whether people take over at a node. -/
def isTransfer (n : Node) : Bool :=
  match n.body with
  | .transfer .. => true
  | _ => false

/-- The queue a transfer names. -/
def queue (n : Node) : Option String :=
  match n.body with
  | .transfer _ queue _ => queue
  | _ => none

/-- Whether the conversation is complete with a node. -/
def closes (n : Node) : Bool :=
  match n.body with
  | .ending _ => true
  | .transfer _ _ next => next.isNone
  | _ => false

/-- Whether a node is of a kind that is known. -/
def isKnown (n : Node) : Bool :=
  match n.body with
  | .unknown .. => false
  | _ => true

/-- The message of a node, if it has one. -/
def outbound? (n : Node) : Option Outbound := if n.text.isEmpty then none else some ⟨n.id, n.text⟩

/-- The item of the history for a node that is passed. -/
def visit? (stamp : String) (n : Node) : Option Visit :=
  if n.isPassed then some ⟨n.id, none, stamp⟩ else none

/-- The pointer after a node. Messages and transfers leave it alone. -/
def pointer (old : Option Waiting) (n : Node) : Option Waiting :=
  match n.body with
  | .question _ => some ⟨n.id, .question⟩
  | .input _ => some ⟨n.id, .input⟩
  | .ending _ => none
  | _ => old

/-- What is wrong with a node of a kind that is not known. -/
def defect? (n : Node) : Option Diagnostic :=
  match n.body with
  | .unknown kind _ => some ⟨.unknownNodeType, n.id, "unsupported node type '" ++ kind ++ "'"⟩
  | _ => none

end Node

namespace Graph

/-- The nodes from an id on, at most so many. -/
def path (g : Graph) : Nat → Option String → List Node
  | 0, _ | _, none => []
  | left + 1, some id =>
    match g.node? id with
    | none => []
    | some n => n :: g.path left n.onward

/-- The defect that a path from the given id ends with, of which at most so many nodes are walked:
an unknown node, or a way on that is not gone. -/
def snag (limit : Int) (most : Nat) (start : Option String) (ns : List Node) : Option Diagnostic :=
  ns.getLast?.bind Node.defect? <|> (ns.getLast?.elim start Node.onward).map fun id =>
    if most ≤ ns.length then
      ⟨.stepLimitReached, id, "stopped after " ++ toString limit ++ " steps"⟩
    else ⟨.danglingReference, id, "node not found"⟩

end Graph

/-! ## What a path comes to -/

namespace Path

/-- The pointer after a path. -/
def pointer (old : Option Waiting) (ns : List Node) : Option Waiting :=
  ns.getLast?.elim old (Node.pointer old)

/-- Whether a path completes the conversation. -/
def closes (ns : List Node) : Bool := ns.getLast?.any Node.closes

/-- The queue of the last transfer of a path. -/
def queue (old : Option String) (ns : List Node) : Option String :=
  (ns.filter Node.isTransfer).getLast?.elim old Node.queue

/-- The last known node of a path. -/
def resting (old : Option String) (ns : List Node) : Option String :=
  ((ns.filter Node.isKnown).getLast?.map Node.id) <|> old

end Path

/-- What has come about after a path. -/
def Progress.after (stamp : String) (p : Progress) (ns : List Node) (snag : Option Diagnostic) :
    Progress :=
  { state :=
      { history := p.state.history ++ ns.filterMap (Node.visit? stamp)
        collected := p.state.collected
        waiting := Path.pointer p.state.waiting ns
        completed := if Path.closes ns then some true else p.state.completed }
    resting := Path.resting p.resting ns
    messages := p.messages ++ ns.filterMap Node.outbound?
    diagnostics := p.diagnostics ++ snag.toList
    completed := p.completed || Path.closes ns
    transferred := p.transferred || ns.any Node.isTransfer
    queue := Path.queue p.queue ns }

theorem Progress.after_nil {stamp : String} (p : Progress) (snag : Option Diagnostic) :
    p.after stamp [] snag = { p with diagnostics := p.diagnostics ++ snag.toList } := by
  simp [Progress.after, Path.pointer, Path.closes, Path.queue, Path.resting]

theorem Progress.after_one {stamp : String} (p : Progress) (n : Node) (snag : Option Diagnostic) :
    p.after stamp [n] snag =
      { state :=
          { history := p.state.history ++ (n.visit? stamp).toList
            collected := p.state.collected
            waiting := n.pointer p.state.waiting
            completed := if n.closes then some true else p.state.completed }
        resting := if n.isKnown then some n.id else p.resting
        messages := p.messages ++ n.outbound?.toList
        diagnostics := p.diagnostics ++ snag.toList
        completed := p.completed || n.closes
        transferred := p.transferred || n.isTransfer
        queue := if n.isTransfer then n.queue else p.queue } := by
  have hrest : Path.resting p.resting [n] = if n.isKnown then some n.id else p.resting := by
    cases hk : n.isKnown <;> simp [Path.resting, hk]
  have hqueue : Path.queue p.queue [n] = if n.isTransfer then n.queue else p.queue := by
    cases ht : n.isTransfer <;> simp [Path.queue, ht]
  have hcloses : Path.closes [n] = n.closes := by simp [Path.closes]
  simp only [Progress.after, hrest, hqueue, hcloses, Path.pointer, List.getLast?_singleton,
    Option.elim_some, List.any_cons, List.any_nil, Bool.or_false]
  cases ho : n.outbound? <;> cases hv : n.visit? stamp <;> simp [ho, hv]

theorem Progress.emit_eq (p : Progress) (node message : String) :
    p.emit node message =
      { p with
        messages := p.messages ++
          (if message.isEmpty then none else some ⟨node, message⟩).toList } := by
  unfold Progress.emit
  split <;> simp

theorem Node.of_onward {n : Node} {next : String} (h : n.onward = some next) :
    n.isKnown = true ∧ n.defect? = none ∧ n.closes = false ∧ ∀ old, n.pointer old = old := by
  obtain ⟨id, body⟩ := n
  cases body <;> simp [onward, isKnown, defect?, closes, pointer] at h ⊢
  simp [h]

/-- After a node that leads on, the rest of the path counts from what has come about there. -/
theorem Progress.after_cons {stamp : String} {n : Node} {next : String} (h : n.onward = some next)
    (p : Progress) (ns : List Node) (snag : Option Diagnostic) :
    p.after stamp (n :: ns) snag = (p.after stamp [n] none).after stamp ns snag := by
  obtain ⟨hknown, -, hopen, hpointer⟩ := Node.of_onward h
  have hlast : (n :: ns).getLast? = some (ns.getLast?.getD n) := List.getLast?_cons
  have hpoint : Path.pointer p.state.waiting (n :: ns) =
      Path.pointer (Path.pointer p.state.waiting [n]) ns := by
    cases hl : ns.getLast? <;> simp [Path.pointer, hlast, hl, hpointer]
  have hcloses : Path.closes (n :: ns) = Path.closes ns := by
    cases hl : ns.getLast? <;> simp [Path.closes, hlast, hl, hopen]
  have hqueue : Path.queue p.queue (n :: ns) = Path.queue (Path.queue p.queue [n]) ns := by
    cases ht : n.isTransfer <;> cases hl : (ns.filter Node.isTransfer).getLast? <;>
      simp [Path.queue, List.getLast?_cons, ht, hl]
  have hrest : Path.resting p.resting (n :: ns) =
      Path.resting (Path.resting p.resting [n]) ns := by
    cases hl : (ns.filter Node.isKnown).getLast? <;>
      simp [Path.resting, List.getLast?_cons, hknown, hl]
  have hone : Path.closes [n] = false := by simpa [Path.closes] using hopen
  simp only [Progress.after, hpoint, hcloses, hqueue, hrest, hone]
  cases ho : n.outbound? <;> cases hv : n.visit? stamp <;> simp [ho, hv, Bool.or_assoc]

namespace Graph

variable {g : Graph} {limit : Int} {stamp : String}

theorem path_none (n : Nat) : g.path n none = [] := by cases n <;> rfl

/-- One step of the walk: the node is passed, and the walk goes on if the node leads on. -/
theorem walk_succ {id : String} {n : Node} (h : g.node? id = some n) (left : Nat) (p : Progress) :
    g.walk limit stamp (left + 1) id p =
      match n.onward with
      | some next => g.walk limit stamp left next (p.after stamp [n] none)
      | none => p.after stamp [n] (snag limit (left + 1) (some id) [n]) := by
  obtain ⟨id', body⟩ := n
  rw [walk, h]
  cases body with
  | message content next quickReplies | transfer message queue next =>
    -- the two that may lead on
    cases next <;> simp [Progress.after_one, Progress.emit_eq, Progress.record, Progress.rest,
      Progress.handOver, Progress.complete, Node.onward, Node.visit?, Node.isPassed, Node.pointer,
      Node.closes, Node.isKnown, Node.outbound?, Node.text, Node.isTransfer, Node.defect?,
      Node.queue, snag]
  | question q | input i | ending content | unknown kind source =>
    simp [Progress.after_one, Progress.emit_eq, Progress.record, Progress.rest, Progress.await,
      Progress.complete, Progress.report, Node.onward, Node.visit?, Node.isPassed, Node.pointer,
      Node.closes, Node.isKnown, Node.outbound?, Node.text, Node.isTransfer, Node.defect?, snag]

theorem snag_cons {n : Node} {next : String} (h : n.onward = some next) (most : Nat)
    (start : Option String) (ns : List Node) :
    snag limit (most + 1) start (n :: ns) = snag limit most (some next) ns := by
  obtain ⟨-, hsound, -⟩ := Node.of_onward h
  cases hl : ns.getLast? <;> simp [snag, List.getLast?_cons, hl, hsound, h]

/-- The walk is the image of its path. -/
theorem walk_path (left : Nat) (id : String) (p : Progress) :
    g.walk limit stamp left id p =
      p.after stamp (g.path left (some id))
        (snag limit left (some id) (g.path left (some id))) := by
  induction left generalizing id p with
  | zero => simp [walk, path, Progress.after_nil, snag, Progress.report]
  | succ left ih =>
    cases hn : g.node? id with
    | none => simp [walk, path, hn, Progress.after_nil, snag, Progress.report]
    | some n =>
      rw [walk_succ hn]
      simp only [path, hn]
      cases ho : n.onward with
      | some next => simp only [ih, ← Progress.after_cons ho, snag_cons ho]
      | none => simp only [path_none]

end Graph

end FrontDesk
