/-
A run as the image of its path.

A run that refuses no answer goes on in one of five ways (`Graph.GoesOn`), each of which says where
its path begins and what the answer has left behind before the first step. `image` puts the outcome
together from the way and the path alone. Runs have these outcomes and no others, beside the
refusals, where nothing changes.
-/
import FrontDesk.Proofs.Conversation.Path

namespace FrontDesk

/-- What an accepted answer leaves behind: the node it was given to, what stands in the history,
and what is collected under which key. -/
structure Answered where
  node : String
  input : String
  stored : Option (String × String)

namespace Answered

/-- The item of the history for an answer. -/
def visit (stamp : String) (a : Answered) : Visit := ⟨a.node, some a.input, stamp⟩

/-- What is collected after an answer. -/
def keep (collected : Entries String) (a : Answered) : Entries String :=
  a.stored.elim collected fun (key, value) => collected.put key value

end Answered

/-- How a run goes on that refuses no answer. -/
structure Way where
  /-- The answer it accepted. -/
  answered : Option Answered := none
  /-- The pointer at the start of the path. -/
  waiting : Option Waiting := none
  /-- What was noted before the path. -/
  defect : Option Diagnostic := none
  /-- Where the path begins. -/
  start : Option String

/-- What is noted of a pointer to a node that does not wait for such an answer. -/
def Waiting.lost (w : Waiting) : Diagnostic :=
  { defect := .pendingNodeMissing
    node := w.node
    detail := "waiting for a " ++ w.kind.name ++ " node that is no longer in the flow" }

namespace Graph

/-- The ways in which a run from a state goes on that rests on the given node. -/
inductive GoesOn (g : Graph) (s : State) (current : Option String) : Incoming → Way → Prop
  /-- A message that is no answer. -/
  | opening :
    GoesOn g s current .opening { start := some (g.startOf current), waiting := s.waiting }
  /-- No answer is awaited. -/
  | unasked {text : String} (hw : s.waiting = none) :
    GoesOn g s current (.answer text) { start := some (g.startOf current) }
  /-- The node whose answer is awaited is not there, or does not wait for one of that kind. -/
  | gone {text : String} {w : Waiting} (hw : s.waiting = some w)
    (hn : ∀ n, g.node? w.node = some n → n.awaits ≠ some w.kind) :
    GoesOn g s current (.answer text) { start := some (g.startOf current), defect := some w.lost }
  /-- The answer picks a choice, or is taken as it is. -/
  | picked {text : String} {n : Node} {q : Question} {pick : Pick}
    (hw : s.waiting = some ⟨n.id, .question⟩) (hn : g.node? n.id = some n)
    (hq : n.body = .question q) (hp : q.pick text = some pick) :
    GoesOn g s current (.answer text)
      { answered := some ⟨n.id, pick.captured, do return (← q.storeField, ← pick.stored)⟩
        start := pick.next }
  /-- The answer to an input meets its rules. -/
  | entered {text : String} {n : Node} {i : Input}
    (hw : s.waiting = some ⟨n.id, .input⟩) (hn : g.node? n.id = some n)
    (hi : n.body = .input i) (hc : i.check text = .ok .accepted) :
    GoesOn g s current (.answer text)
      { answered := some ⟨n.id, Text.trim text, some (i.storageKey, Text.trim text)⟩
        start := i.next }

/-- The outcome that a way and its path come to. -/
def image (g : Graph) (limit : Int) (stamp : String) (s : State) (current : Option String)
    (way : Way) : Outcome :=
  let p := g.path limit.toNat way.start
  { state :=
      { history := s.history ++ (way.answered.map (Answered.visit stamp)).toList
          ++ p.filterMap (Node.visit? stamp)
        collected := way.answered.elim s.collected (Answered.keep s.collected)
        waiting := Path.pointer way.waiting p
        completed := if Path.closes p then some true else s.completed }
    next := (Path.resting none p).getD (way.answered.elim (g.startOf current) Answered.node)
    completed := Path.closes p
    transferred := p.any Node.isTransfer
    queue := Path.queue none p
    messages := p.filterMap Node.outbound?
    diagnostics := way.defect.toList ++ (snag limit limit.toNat way.start p).toList }

/-- An answer is refused by the node that waits for it: nothing is changed, and the node says
something in place of going on. -/
inductive Refuses (g : Graph) (s : State) : Incoming → Outcome → Prop
  | picksNothing {text : String} {n : Node} {q : Question}
    (hw : s.waiting = some ⟨n.id, .question⟩) (hn : g.node? n.id = some n)
    (hq : n.body = .question q) (hp : q.pick text = none) :
    Refuses g s (.answer text)
      { state := s, next := n.id, retries := [⟨n.id, q.retryMessage.getD choiceRetry⟩] }
  | breaksRule {text message : String} {n : Node} {i : Input}
    (hw : s.waiting = some ⟨n.id, .input⟩) (hn : g.node? n.id = some n)
    (hi : n.body = .input i) (hc : i.check text = .ok (.rejected message)) :
    Refuses g s (.answer text) { state := s, next := n.id, retries := [⟨n.id, message⟩] }

variable {g : Graph} {limit : Int} {stamp text : String} {s : State} {current : Option String}

theorem walkFrom_path (start : Option String) (p : Progress) :
    g.walkFrom limit stamp start p =
      p.after stamp (g.path limit.toNat start)
        (snag limit limit.toNat start (g.path limit.toNat start)) := by
  cases start with
  | none => simp [walkFrom, path_none, Progress.after_nil, snag]
  | some id => exact walk_path limit.toNat id p

theorem outcome_answered (a : Answered) (start : Option String) :
    (g.walkFrom limit stamp start
        { state := answered stamp s a.node a.input a.stored }).outcome a.node =
      g.image limit stamp s current { answered := some a, start } := by
  have hs : answered stamp s a.node a.input a.stored =
      { history := s.history ++ [a.visit stamp]
        collected := a.keep s.collected
        waiting := none
        completed := s.completed } := by
    cases ha : a.stored <;> simp [answered, Answered.visit, Answered.keep, ha]
  simp [hs, walkFrom_path, Progress.after, Progress.outcome, image]

/-! ## What a run does, by what is awaited -/

theorem run_opening :
    g.run limit stamp s current .opening =
      .ok (g.image limit stamp s current
        { start := some (g.startOf current), waiting := s.waiting }) := by
  simp [run, walkFrom_path, Progress.after, Progress.outcome, image]

theorem run_unasked (hw : s.waiting = none) :
    g.run limit stamp s current (.answer text) =
      .ok (g.image limit stamp s current { start := some (g.startOf current) }) := by
  simp [run, hw, walkFrom_path, Progress.after, Progress.outcome, image]

theorem run_gone {w : Waiting} (hw : s.waiting = some w)
    (hn : ∀ n, g.node? w.node = some n → n.awaits ≠ some w.kind) :
    g.run limit stamp s current (.answer text) =
      .ok (g.image limit stamp s current
        { start := some (g.startOf current), defect := some w.lost }) := by
  have hr : g.resume stamp s w text = .ok (.reset w.lost) := by
    unfold resume
    cases hf : g.node? w.node with
    | none => rfl
    | some n =>
      have := hn n hf
      obtain ⟨id, kind⟩ := w
      obtain ⟨_, body⟩ := n
      cases body <;> cases kind <;> simp_all [Node.awaits, Waiting.lost]
  simp [run, hw, hr, walkFrom_path, Progress.after, Progress.outcome, image, bind, Except.bind,
    pure, Except.pure]

theorem run_question {n : Node} {q : Question} (hw : s.waiting = some ⟨n.id, .question⟩)
    (hn : g.node? n.id = some n) (hq : n.body = .question q) :
    g.run limit stamp s current (.answer text) =
      .ok (match q.pick text with
        | none => { state := s, next := n.id, retries := [⟨n.id, q.retryMessage.getD choiceRetry⟩] }
        | some pick =>
          g.image limit stamp s current
            { answered := some ⟨n.id, pick.captured, do return (← q.storeField, ← pick.stored)⟩
              start := pick.next }) := by
  cases hp : q.pick text with
  | none => simp [run, hw, resume, hn, hq, hp, bind, Except.bind, pure, Except.pure]
  | some pick =>
    simp only [run, hw, resume, hn, hq, hp]
    exact congrArg Except.ok (outcome_answered ⟨n.id, pick.captured, _⟩ pick.next)

theorem run_input {n : Node} {i : Input} (hw : s.waiting = some ⟨n.id, .input⟩)
    (hn : g.node? n.id = some n) (hi : n.body = .input i) :
    g.run limit stamp s current (.answer text) =
      (i.check text).map fun
        | .rejected message => { state := s, next := n.id, retries := [⟨n.id, message⟩] }
        | .accepted =>
          g.image limit stamp s current
            { answered := some ⟨n.id, Text.trim text, some (i.storageKey, Text.trim text)⟩
              start := i.next } := by
  cases hc : i.check text with
  | error e => simp [run, hw, resume, hn, hi, hc, bind, Except.bind, Except.map]
  | ok verdict =>
    cases verdict with
    | rejected message =>
      simp [run, hw, resume, hn, hi, hc, bind, Except.bind, pure, Except.pure, Except.map]
    | accepted =>
      simp only [run, hw, resume, hn, hi, hc]
      exact congrArg Except.ok
        (outcome_answered ⟨n.id, Text.trim text, some (i.storageKey, Text.trim text)⟩ i.next)

/-- What is awaited is no longer there, or it is a question or an input that waits for it. -/
theorem pending_cases (g : Graph) (w : Waiting) :
    (∀ n, g.node? w.node = some n → n.awaits ≠ some w.kind) ∨
    (∃ n q, w = ⟨n.id, .question⟩ ∧ g.node? n.id = some n ∧ n.body = .question q) ∨
    (∃ n i, w = ⟨n.id, .input⟩ ∧ g.node? n.id = some n ∧ n.body = .input i) := by
  cases hn : g.node? w.node with
  | none => simp
  | some n =>
    by_cases ha : n.awaits = some w.kind
    · have hid := node?_id hn
      obtain ⟨id, kind⟩ := w
      simp only at hn ha hid
      subst hid
      refine .inr ?_
      cases hb : n.body <;> simp [Node.awaits, hb] at ha <;> subst ha
      · exact .inl ⟨n, _, rfl, hn, hb⟩
      · exact .inr ⟨n, _, rfl, hn, hb⟩
    · left
      intro m hm
      cases hm
      exact ha

/-- A run that goes on in a way comes to the image of that way. -/
theorem GoesOn.run {incoming : Incoming} {way : Way} (h : g.GoesOn s current incoming way) :
    g.run limit stamp s current incoming = .ok (g.image limit stamp s current way) := by
  cases h with
  | opening => exact run_opening
  | unasked hw => exact run_unasked hw
  | gone hw hn => exact run_gone hw hn
  | picked hw hn hq hp => rw [run_question hw hn hq, hp]
  | entered hw hn hi hc => rw [run_input hw hn hi, hc]; rfl

theorem Refuses.run {incoming : Incoming} {o : Outcome} (h : g.Refuses s incoming o) :
    g.run limit stamp s current incoming = .ok o := by
  cases h with
  | picksNothing hw hn hq hp => rw [run_question hw hn hq, hp]
  | breaksRule hw hn hi hc => rw [run_input hw hn hi, hc]; rfl

/-- A run goes on in a way, or its answer is refused, or a pattern in the rules is at fault. -/
theorem run_cases {incoming : Incoming} {o : Outcome}
    (h : g.run limit stamp s current incoming = .ok o) :
    (∃ way, g.GoesOn s current incoming way ∧ o = g.image limit stamp s current way) ∨
      g.Refuses s incoming o := by
  have goes {way : Way} (hg : g.GoesOn s current incoming way) :
      ∃ way, g.GoesOn s current incoming way ∧ o = g.image limit stamp s current way :=
    ⟨way, hg, by simpa [hg.run] using h.symm⟩
  cases incoming with
  | opening => exact .inl (goes .opening)
  | answer text =>
    cases hw : s.waiting with
    | none => exact .inl (goes (.unasked hw))
    | some w =>
      rcases pending_cases g w with hn | ⟨n, q, rfl, hn, hq⟩ | ⟨n, i, rfl, hn, hi⟩
      · exact .inl (goes (.gone hw hn))
      · cases hp : q.pick text with
        | none =>
          have hr := Refuses.picksNothing hw hn hq hp
          have ho : g.run limit stamp s current (.answer text) = .ok _ := hr.run
          rw [h] at ho
          cases ho
          exact .inr hr
        | some pick => exact .inl (goes (.picked hw hn hq hp))
      · rw [run_input hw hn hi] at h
        cases hc : i.check text with
        | error e => simp [hc, Except.map] at h
        | ok verdict =>
          cases verdict with
          | rejected message =>
            simp only [hc, Except.map, Except.ok.injEq] at h
            subst h
            exact .inr (.breaksRule hw hn hi hc)
          | accepted => exact .inl (goes (.entered hw hn hi hc))

theorem Refuses.retries_ne_nil {incoming : Incoming} {o : Outcome} (h : g.Refuses s incoming o) :
    o.retries ≠ [] := by
  cases h <;> simp

theorem find?_keep (collected : Entries String) (a : Answered) (key : String) :
    (a.keep collected).find? key = collected.find? key ∨
      ∃ value, a.stored = some (key, value) := by
  unfold Answered.keep
  cases hs : a.stored with
  | none => exact .inl rfl
  | some kv =>
    obtain ⟨k, v⟩ := kv
    by_cases hk : key = k
    · exact .inr ⟨v, by rw [hk]⟩
    · exact .inl (by simp [Entries.find?_put, hk])

/-- **A run is the image of its path.** The runs that refuse no answer are those that go on in one
of the ways, and each comes to the image of the path that the way opens; of what was collected, at
most what stands under the key of the accepted answer is changed. -/
theorem run_ok_iff (incoming : Incoming) (o : Outcome) :
    g.run limit stamp s current incoming = .ok o ∧ o.retries = [] ↔
      ∃ way, g.GoesOn s current incoming way ∧ o = g.image limit stamp s current way ∧
        ∀ key, o.state.collected.find? key = s.collected.find? key ∨
          ∃ a value, way.answered = some a ∧ a.stored = some (key, value) := by
  constructor
  · rintro ⟨h, hnone⟩
    rcases run_cases h with ⟨way, hg, rfl⟩ | hr
    · refine ⟨way, hg, rfl, fun key => ?_⟩
      cases ha : way.answered with
      | none => exact .inl (by simp [image, ha])
      | some a =>
        rcases find?_keep s.collected a key with hk | ⟨value, hv⟩
        · exact .inl (by simpa [image, ha] using hk)
        · exact .inr ⟨a, value, rfl, hv⟩
    · exact absurd hnone hr.retries_ne_nil
  · rintro ⟨way, hg, rfl, -⟩
    exact ⟨hg.run, rfl⟩

end Graph

end FrontDesk
