/-
Answers that are refused.

A node that waits refuses an answer in its author's words, or else in words of the house, and never
in none at all. Nothing else comes of it: the state is as it was, and the conversation rests on the
node (`Graph.run_rejected`). Where the next answer is taken up does not depend on where the
conversation rests, so it comes to the same after any row of refusals as at once
(`Graph.runAfter_rejected`).
-/
import FrontDesk.Proofs.Conversation.Image
import FrontDesk.Proofs.Graph.Read
import Mathlib.Data.List.TakeWhile

namespace FrontDesk

/-! ## Words for a refusal -/

theorem Text.trim_ne_empty {s : String} {c : Char} (hc : c ∈ s.toList)
    (hblank : isBlank c = false) : trim s ≠ "" := by
  intro hempty
  have hnil : stripBoth isBlank s.toList = [] := String.ofList_inj.1 hempty
  have hall : ∀ x ∈ s.toList.dropWhile isBlank, isBlank x = true := by
    simpa [stripBoth] using hnil
  cases hrest : s.toList.dropWhile isBlank with
  | nil =>
    have hspaces := List.dropWhile_eq_nil_iff.1 hrest c hc
    rw [hblank] at hspaces
    cases hspaces
  | cons x rest =>
    have hx := hall x (by simp [hrest])
    have hnot := List.head_dropWhile_not (p := isBlank) (l := s.toList) (by simp [hrest])
    simp only [hrest, List.head_cons, hx] at hnot
    cases hnot

theorem AnswerRules.Rule.trim_refusal {rule : Rule} {answer : String}
    (h : rule.holds answer = .ok false) : Text.trim rule.refusal ≠ "" := by
  cases rule with
  | required => decide +kernel
  | minLength n | maxLength n =>
    refine Text.trim_ne_empty (c := 'P') ?_ (by decide)
    unfold AnswerRules.Rule.refusal
    simp only [String.toList_append, List.mem_append]
    exact .inl (.inl (by decide +kernel))
  | kind k =>
    cases k with
    | text | freeform => cases h
    | number | email | phone => decide +kernel
  | pattern source =>
    have hne : Text.trim "The value you entered is not valid." ≠ "" := by decide +kernel
    exact hne

theorem AnswerRules.Rule.holds_of_firstFailing {answer : String} {rules : List Rule} {rule : Rule}
    (h : firstFailing answer rules = .ok (some rule)) : rule.holds answer = .ok false := by
  induction rules with
  | nil => cases h
  | cons first rest ih =>
    simp only [firstFailing, bind, Except.bind] at h
    cases hfirst : first.holds answer with
    | error e =>
      rw [hfirst] at h
      cases h
    | ok met =>
      rw [hfirst] at h
      cases met with
      | true => exact ih h
      | false =>
        cases h
        exact hfirst

/-- The words an author has for an answer that is refused. -/
def Node.refusal? (n : Node) : Option String :=
  match n.body with
  | .question q => q.retryMessage
  | .input i => i.rules.bind (·.message)
  | _ => none

namespace Graph

theorem readRules_message {v : Json} {r : AnswerRules} (h : readRules v = .ok (some r)) :
    r.message ≠ some "" := by
  unfold readRules at h
  split at h
  · simp only [bind, Except.bind] at h
    split at h
    · cases h
    split at h
    · cases h
    split at h
    · cases h
    cases h
    exact fun hempty => optionalString_ne_empty hempty rfl
  · cases h

theorem readNode_refusal? {v : Json} {n : Node} (h : readNode v = .ok n) :
    n.refusal? ≠ some "" := by
  unfold Node.refusal?
  obtain ⟨-, hbody⟩ := readNode_body h
  obtain ⟨_, _, hb⟩ | ⟨_, _, hb⟩ | ⟨_, rules, hrules, hb⟩ | ⟨_, _, hb⟩ | ⟨_, hb⟩ | ⟨_, _, hb⟩ :=
    readBody_cases hbody <;> rw [hb]
  case inr.inl => exact fun hempty => optionalString_ne_empty hempty rfl
  case inr.inr.inl =>
    intro hempty
    obtain ⟨r, rfl, hmessage⟩ := Option.bind_eq_some_iff.1 hempty
    exact readRules_message hrules hmessage
  all_goals exact nofun

/-- The author of a graph that was read has no empty words for a refusal. -/
theorem ofJson_refusal? {v : Json} {g : Graph} (h : ofJson v = .ok g) :
    ∀ n ∈ g.nodes, n.refusal? ≠ some "" := by
  intro n hn
  obtain ⟨item, -, hitem⟩ := readNodes_mem (ofJson_eq_ok h).2 hn
  exact readNode_refusal? hitem

/-! ## What comes of a refusal -/

variable {g : Graph} {limit : Int} {stamp text : String} {s : State} {current : Option String}

/-- An answer is refused in the words of the node that waits for it, or else in words that are not
blank, and nothing more comes of it. -/
theorem Refuses.outcome {incoming : Incoming} {o : Outcome} (h : g.Refuses s incoming o) :
    ∃ n kind default, s.waiting = some ⟨n.id, kind⟩ ∧ g.node? n.id = some n ∧
      Text.trim default ≠ "" ∧
      o = { state := s, next := n.id, retries := [⟨n.id, n.refusal?.getD default⟩] } := by
  cases h with
  | @picksNothing text n q hw hn hq hp =>
    exact ⟨n, _, choiceRetry, hw, hn, by decide +kernel, by simp [Node.refusal?, hq]⟩
  | @breaksRule text message n i hw hn hi hc =>
    simp only [Input.check, bind, Except.bind] at hc
    split at hc
    · cases hc
    next verdict hfailing =>
    cases verdict with
    | none => cases hc
    | some rule =>
      cases hc
      exact ⟨n, _, rule.refusal, hw, hn,
        AnswerRules.Rule.trim_refusal (AnswerRules.Rule.holds_of_firstFailing hfailing),
        by simp [Node.refusal?, hi, Input.refusal]⟩

end Graph

/-- An answer is none of the choices of a question, or breaks a rule of an input. -/
def Node.Rejects (n : Node) (text : String) : Prop :=
  match n.body with
  | .question q => q.pick text = none
  | .input i => ∃ message, i.check text = .ok (.rejected message)
  | _ => False

theorem Node.rejects_question {n : Node} {q : Question} {text : String}
    (hq : n.body = .question q) : n.Rejects text ↔ q.pick text = none := by
  rw [Rejects, hq]

theorem Node.rejects_input {n : Node} {i : Input} {text : String} (hi : n.body = .input i) :
    n.Rejects text ↔ ∃ message, i.check text = .ok (.rejected message) := by
  rw [Rejects, hi]

namespace Graph

/-- The node is one of the graph, and an answer to it is awaited. -/
structure AwaitedAt (g : Graph) (s : State) (n : Node) : Prop where
  node : g.node? n.id = some n
  waiting : ∃ kind, n.awaits = some kind ∧ s.waiting = some ⟨n.id, kind⟩

variable {g : Graph} {limit : Int} {stamp text : String} {s : State} {current : Option String}
  {n : Node}

namespace AwaitedAt

theorem cases (h : g.AwaitedAt s n) :
    (∃ q, n.body = .question q ∧ s.waiting = some ⟨n.id, .question⟩) ∨
      ∃ i, n.body = .input i ∧ s.waiting = some ⟨n.id, .input⟩ := by
  obtain ⟨kind, hkind, hw⟩ := h.waiting
  cases hb : n.body <;> simp [Node.awaits, hb] at hkind <;> subst hkind
  · exact .inl ⟨_, rfl, hw⟩
  · exact .inr ⟨_, rfl, hw⟩

theorem refuses (h : g.AwaitedAt s n) (htext : n.Rejects text) :
    ∃ o, g.Refuses s (.answer text) o := by
  obtain ⟨q, hq, hw⟩ | ⟨i, hi, hw⟩ := h.cases
  · exact ⟨_, .picksNothing hw h.node hq ((Node.rejects_question hq).1 htext)⟩
  · obtain ⟨message, hmessage⟩ := (Node.rejects_input hi).1 htext
    exact ⟨_, .breaksRule hw h.node hi hmessage⟩

/-- Who refuses an answer is the node that waits for it. -/
theorem rejects (h : g.AwaitedAt s n) {o : Outcome} (ho : g.Refuses s (.answer text) o) :
    n.Rejects text := by
  obtain ⟨kind, -, hw⟩ := h.waiting
  have hsame {m : Node} {kind' : WaitingKind} (hm : s.waiting = some ⟨m.id, kind'⟩)
      (hnode : g.node? m.id = some m) : m = n := by
    rw [hw, Option.some.injEq, Waiting.mk.injEq] at hm
    rw [← hm.1, h.node] at hnode
    exact (Option.some.inj hnode).symm
  cases ho with
  | @picksNothing _ m q hm hnode hq hp =>
    obtain rfl := hsame hm hnode
    exact (Node.rejects_question hq).2 hp
  | @breaksRule _ message m i hm hnode hi hc =>
    obtain rfl := hsame hm hnode
    exact (Node.rejects_input hi).2 ⟨message, hc⟩

/-- Where the conversation rests is nothing to an answer that is awaited. -/
theorem run_eq (h : g.AwaitedAt s n) (current current' : Option String) :
    g.run limit stamp s current (.answer text) = g.run limit stamp s current' (.answer text) := by
  obtain ⟨q, hq, hw⟩ | ⟨i, hi, hw⟩ := h.cases
  · rw [run_question hw h.node hq, run_question hw h.node hq]
    cases q.pick text <;> rfl
  · rw [run_input hw h.node hi, run_input hw h.node hi]
    refine congrArg (Except.map · _) (funext fun verdict => ?_)
    cases verdict <;> rfl

end AwaitedAt

/-- **A refusal leaves everything as it was**, but for one retry that is not empty. -/
theorem run_rejected {v : Json} (hg : ofJson v = .ok g) (h : g.AwaitedAt s n)
    (htext : n.Rejects text) :
    ∃ message, message ≠ "" ∧ g.run limit stamp s current (.answer text) =
      .ok { state := s, next := n.id, retries := [⟨n.id, message⟩] } := by
  obtain ⟨o, hrefuses⟩ := h.refuses htext
  obtain ⟨m, kind, default, hwaiting, hnode, hdefault, rfl⟩ := hrefuses.outcome
  obtain ⟨kind', -, hwaiting'⟩ := h.waiting
  have hid : m.id = n.id := by
    rw [hwaiting, Option.some.injEq, Waiting.mk.injEq] at hwaiting'
    exact hwaiting'.1
  obtain rfl : m = n := by
    rw [hid, h.node] at hnode
    exact (Option.some.inj hnode).symm
  refine ⟨_, ?_, hrefuses.run⟩
  cases hwords : m.refusal? with
  | none =>
    rintro rfl
    exact hdefault rfl
  | some words =>
    rintro rfl
    exact ofJson_refusal? hg m (node?_mem hnode) hwords

/-! ## Rows of answers -/

/-- Where an answer, given at a time, takes a conversation: its state, and the node it rests on. -/
def proceed (g : Graph) (limit : Int) (place : State × Option String) (answer : String × String) :
    Except PatternFault (State × Option String) := do
  let o ← g.run limit answer.1 place.1 place.2 (.answer answer.2)
  return (o.state, some o.next)

/-- The outcome of an answer after a row of others. -/
def runAfter (g : Graph) (limit : Int) (earlier : List (String × String)) (stamp : String)
    (s : State) (current : Option String) (text : String) : Except PatternFault Outcome := do
  let (s, current) ← earlier.foldlM (g.proceed limit) (s, current)
  g.run limit stamp s current (.answer text)

/-- **Refusals are transparent**: after any row of them an answer has the outcome that it has at
once. -/
theorem runAfter_rejected {v : Json} (hg : ofJson v = .ok g) (h : g.AwaitedAt s n)
    {earlier : List (String × String)} (hall : ∀ e ∈ earlier, n.Rejects e.2) :
    g.runAfter limit earlier stamp s current text = g.run limit stamp s current (.answer text) := by
  induction earlier generalizing current with
  | nil => rfl
  | cons e rest ih =>
    obtain ⟨hfirst, hrest⟩ := List.forall_mem_cons.1 hall
    obtain ⟨message, -, hrun⟩ : ∃ message, message ≠ "" ∧
        g.run limit e.1 s current (.answer e.2) =
          .ok { state := s, next := n.id, retries := [⟨n.id, message⟩] } :=
      run_rejected hg h hfirst
    calc g.runAfter limit (e :: rest) stamp s current text
        = g.runAfter limit rest stamp s (some n.id) text := by
          simp [runAfter, proceed, hrun, bind, Except.bind, pure, Except.pure]
      _ = g.run limit stamp s (some n.id) (.answer text) := ih hrest
      _ = g.run limit stamp s current (.answer text) := h.run_eq _ _

end Graph

end FrontDesk
