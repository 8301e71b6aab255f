/-
Blanks around answers.

Rules look at what is left of an answer when it is trimmed, and choices at its normal form, in which
the blanks around it are not seen. Only an answer that is taken as it is keeps them. So answers that
differ in these blanks alone lead the same way, and they leave states behind that differ in such
blanks alone (`Graph.run_trimmed`, `Rehearsal.play_trimmed`).
-/
import FrontDesk.Proofs.Answer.Rules
import FrontDesk.Proofs.Conversation.Image
import FrontDesk.Proofs.Text.Margins
import FrontDesk.Service.Rehearsal

namespace FrontDesk

open Text

variable {s t : String}

/-! ## Single answers -/

theorem Input.check_trim (i : Input) (answer : String) :
    i.check (trim answer) = i.check answer := by
  rw [check, check, trim_trim]

theorem Input.check_congr (i : Input) (h : trim s = trim t) : i.check s = i.check t := by
  rw [check, check, h]

/-- The picks of two answers lead the same way. They are the same pick unless the answers are taken
as they are, and then they differ in blanks alone. -/
structure Pick.Alike (p p' : Pick) : Prop where
  next : p.next = p'.next
  isFree : p.isFree = p'.isFree
  choice : p.isFree = false → p = p'
  captured : trim p.captured = trim p'.captured
  stored : p.stored.map trim = p'.stored.map trim

theorem Pick.Alike.refl (p : Pick) : p.Alike p := ⟨rfl, rfl, fun _ => rfl, rfl, rfl⟩

theorem Question.pickFree_alike (q : Question) (h : trim s = trim t) :
    (q.pickFree s).Alike (q.pickFree t) where
  next := rfl
  isFree := rfl
  choice := nofun
  captured := h
  stored := by
    cases hstore : q.storeField.isSome <;> simp [pickFree, hstore, h]

theorem Question.pick_alike (q : Question) (h : trim s = trim t) :
    Option.Rel Pick.Alike (q.pick s) (q.pick t) := by
  simp only [pick, normal_congr h]
  split
  next => exact .none
  next =>
    split
    next c hc => exact .some (.refl _)
    next =>
      split
      next => exact .some (q.pickFree_alike h)
      next => exact .none

/-! ## States up to blanks -/

/-- The entries with their values trimmed. -/
def Entries.trimmed (es : Entries String) : Entries String := es.map fun (k, v) => (k, trim v)

/-- The visit with its answer trimmed. -/
def Visit.trimmed (v : Visit) : Visit := { v with input := v.input.map trim }

/-- The state with the answers in it trimmed. -/
def State.trimmed (s : State) : State :=
  { s with history := s.history.map Visit.trimmed, collected := s.collected.trimmed }

/-- The outcome with the answers in its state trimmed. -/
def Outcome.trimmed (o : Outcome) : Outcome := { o with state := o.state.trimmed }

/-- What the contact says, trimmed. -/
def Line.trimmed : Line → Line
  | ⟨.contact, text⟩ => ⟨.contact, trim text⟩
  | l => l

/-- The rehearsal with what the contact says trimmed. -/
def Rehearsal.trimmed (r : Rehearsal) : Rehearsal :=
  { transcript := r.transcript.map Line.trimmed, state := r.state.trimmed }

/-- What an accepted answer leaves behind, trimmed. -/
def Answered.trimmed (a : Answered) : Answered :=
  { a with input := trim a.input, stored := a.stored.map fun (k, v) => (k, trim v) }

/-- The way with its answer trimmed. -/
def Way.trimmed (way : Way) : Way := { way with answered := way.answered.map Answered.trimmed }

theorem Entries.trimmed_put (es : Entries String) (key value : String) :
    (es.put key value).trimmed = es.trimmed.put key (trim value) := by
  induction es with
  | nil => rfl
  | cons e rest ih =>
    obtain ⟨k, v⟩ := e
    simp only [trimmed, put, List.map_cons] at ih ⊢
    split
    next => rfl
    next => rw [List.map_cons, ih]

theorem Answered.trimmed_keep (collected : Entries String) (a : Answered) :
    (a.keep collected).trimmed = a.trimmed.keep collected.trimmed := by
  unfold keep
  cases hstored : a.stored with
  | none => simp [trimmed, hstored]
  | some stored => simp [trimmed, hstored, Entries.trimmed_put]

theorem Pick.Alike.way {p p' : Pick} (h : p.Alike p') (node : String) (field : Option String) :
    Way.trimmed
        { answered := some ⟨node, p.captured, do return (← field, ← p.stored)⟩, start := p.next } =
      Way.trimmed
        { answered := some ⟨node, p'.captured, do return (← field, ← p'.stored)⟩
          start := p'.next } := by
  have hstored : ∀ stored : Option String,
      (do return (← field, ← stored) : Option (String × String)).map (fun (k, v) => (k, trim v)) =
        (do return (← field, ← stored.map trim)) := by
    intro stored
    cases field <;> cases stored <;> rfl
  simp only [Way.trimmed, Option.map_some, Answered.trimmed, hstored, h.captured, h.stored, h.next]

namespace Graph

variable {g : Graph} {limit : Int} {stamp : String} {st st' : State} {current : Option String}

theorem visits_trimmed (ns : List Node) :
    (ns.filterMap (Node.visit? stamp)).map Visit.trimmed = ns.filterMap (Node.visit? stamp) := by
  rw [List.map_filterMap]
  refine List.filterMap_congr fun n _ => ?_
  unfold Node.visit?
  split <;> rfl

/-- Trimming the answers in an outcome comes to trimming those that it is put together from. -/
theorem image_trimmed (way : Way) :
    (g.image limit stamp st current way).trimmed =
      g.image limit stamp st.trimmed current way.trimmed := by
  obtain ⟨answered, waiting, defect, start⟩ := way
  cases answered with
  | none =>
    simp only [image, Outcome.trimmed, State.trimmed, Way.trimmed, Option.map_none,
      Option.elim_none, Option.toList_none, List.append_nil, List.map_append, visits_trimmed]
    rfl
  | some a =>
    have hvisit : (a.visit stamp).trimmed = a.trimmed.visit stamp := rfl
    have hnode : a.trimmed.node = a.node := rfl
    simp only [image, Outcome.trimmed, State.trimmed, Way.trimmed, Option.map_some,
      Option.elim_some, Option.toList_some, List.map_append, List.map_cons, List.map_nil,
      visits_trimmed, hvisit, Answered.trimmed_keep, hnode]
    rfl

/-- **One answer.** Blanks around it and in the state before it are not seen but in the state after
it. -/
theorem run_trimmed (hst : st.trimmed = st'.trimmed) (h : trim s = trim t) :
    (g.run limit stamp st current (.answer s)).map Outcome.trimmed =
      (g.run limit stamp st' current (.answer t)).map Outcome.trimmed := by
  have himage {way way' : Way} (hway : way.trimmed = way'.trimmed) :
      (g.image limit stamp st current way).trimmed =
        (g.image limit stamp st' current way').trimmed := by
    rw [image_trimmed, image_trimmed, hst, hway]
  have hheld (node : String) (retries : List Outbound) :
      ({ state := st, next := node, retries } : Outcome).trimmed =
        ({ state := st', next := node, retries } : Outcome).trimmed := by
    simp only [Outcome.trimmed, hst]
  -- what is awaited is the same, so both runs are read off the same node
  have hwaiting : st.waiting = st'.waiting := (State.mk.inj hst).2.2.1
  cases hw : st'.waiting with
  | none =>
    rw [run_unasked (hwaiting.trans hw), run_unasked hw]
    exact congrArg Except.ok (himage rfl)
  | some w =>
    have hw₀ : st.waiting = some w := hwaiting.trans hw
    rcases pending_cases g w with hn | ⟨n, q, rfl, hn, hq⟩ | ⟨n, i, rfl, hn, hi⟩
    · rw [run_gone hw₀ hn, run_gone hw hn]
      exact congrArg Except.ok (himage rfl)
    · rw [run_question hw₀ hn hq, run_question hw hn hq]
      have halike := q.pick_alike h
      generalize q.pick s = pick, q.pick t = pick' at halike ⊢
      cases halike with
      | none => exact congrArg Except.ok (hheld _ _)
      | some hpick => exact congrArg Except.ok (himage (hpick.way n.id q.storeField))
    · rw [run_input hw₀ hn hi, run_input hw hn hi, i.check_congr h, h]
      cases i.check t with
      | error e => rfl
      | ok verdict =>
        cases verdict with
        | rejected message => exact congrArg Except.ok (hheld _ _)
        | accepted => exact congrArg Except.ok (himage rfl)

/-- What an input stores of an answer that it accepts is trimmed and not empty, and would be
accepted again. -/
theorem run_stores {n : Node} {i : Input} (hw : st.waiting = some ⟨n.id, .input⟩)
    (hn : g.node? n.id = some n) (hi : n.body = .input i) (hc : i.check s = .ok .accepted) :
    ∃ o v, g.run limit stamp st current (.answer s) = .ok o ∧
      o.state.collected.find? i.storageKey = some v ∧ IsTrimmed v ∧ i.check v = .ok .accepted := by
  have hne : trim s ≠ "" := Input.check_eq_accepted.1 hc .required trivial
  refine ⟨_, trim s, (GoesOn.entered hw hn hi hc).run, ?_, isTrimmed_trim hne, ?_⟩
  · simp [image, Answered.keep, Entries.find?_put]
  · rw [i.check_trim, hc]

end Graph

/-! ## Rehearsals -/

namespace Rehearsal

variable {g : Graph} {limit : Int} {stamp : String}

theorem over_trimmed {o o' : Outcome} (ho : o.trimmed = o'.trimmed) :
    trimmed ⟨linesOf o, o.state⟩ = trimmed ⟨linesOf o', o'.state⟩ := by
  have hlines : linesOf o = linesOf o' := (congrArg linesOf ho :)
  have hstate : o.state.trimmed = o'.state.trimmed := (congrArg Outcome.state ho :)
  simp only [trimmed, hlines, hstate]

theorem further_trimmed (x : Except PatternFault Rehearsal) (o : Outcome) (text : String) :
    (do
      let r ← x
      return { r with transcript := linesOf o ++ ⟨.contact, text⟩ :: r.transcript } :
        Except PatternFault Rehearsal).map trimmed =
      (x.map trimmed).map fun r =>
        { r with transcript :=
            (linesOf o.trimmed).map Line.trimmed ++ ⟨.contact, trim text⟩ :: r.transcript } := by
  cases x with
  | error e => rfl
  | ok r =>
    refine congrArg Except.ok ?_
    simp only [trimmed, List.map_append, List.map_cons]
    rfl

/-- **All the answers.** By induction on them, each run starting where the run before it ended. -/
theorem goOn_trimmed (texts : List String) {texts' : List String} {o o' : Outcome}
    (ho : o.trimmed = o'.trimmed) (h : texts.map trim = texts'.map trim) :
    (goOn g limit stamp o texts).map trimmed = (goOn g limit stamp o' texts').map trimmed := by
  induction texts generalizing texts' o o' with
  | nil =>
    obtain rfl : texts' = [] := by simpa using h.symm
    exact congrArg Except.ok (over_trimmed ho)
  | cons text rest ih =>
    cases texts' with
    | nil => cases h
    | cons text' rest' =>
      obtain ⟨htext, hrest⟩ := List.cons.inj h
      have hdone : o.completed = o'.completed := (congrArg Outcome.completed ho :)
      have hnext : o.next = o'.next := (congrArg Outcome.next ho :)
      have hrun : (g.run limit stamp o.state (some o'.next) (.answer text)).map Outcome.trimmed =
          (g.run limit stamp o'.state (some o'.next) (.answer text')).map Outcome.trimmed :=
        Graph.run_trimmed (congrArg Outcome.state ho :) htext
      simp only [goOn, hdone, hnext]
      split
      next => exact congrArg Except.ok (over_trimmed ho)
      next =>
        generalize g.run limit stamp o.state (some o'.next) (.answer text) = first,
          g.run limit stamp o'.state (some o'.next) (.answer text') = first' at hrun ⊢
        -- both runs are at fault in the same way, or neither is
        match first, first', hrun with
        | .error e, .error _, rfl => rfl
        | .ok next, .ok next', hrun =>
          have hthen := ih (Except.ok.inj hrun) hrest
          refine (further_trimmed _ o text).trans ?_
          rw [hthen, ho, htext]
          exact (further_trimmed _ o' text').symm

/-- A conversation on trimmed messages goes as it does on the messages as they are. -/
theorem play_trimmed (texts : List String) :
    (play g limit stamp (texts.map trim)).map trimmed = (play g limit stamp texts).map trimmed := by
  have hsame : (texts.map trim).map trim = texts.map trim := by
    rw [List.map_map]
    exact List.map_congr_left fun text _ => trim_trim text
  simp only [play, Graph.run_opening]
  exact goOn_trimmed _ rfl hsame

theorem exists_play {texts : List String} {reh : Rehearsal}
    (h : play g limit stamp (texts.map trim) = .ok reh) :
    ∃ reh', play g limit stamp texts = .ok reh' ∧ reh'.trimmed = reh.trimmed := by
  have hsame : (play g limit stamp (texts.map trim)).map trimmed =
      (play g limit stamp texts).map trimmed := play_trimmed texts
  rw [h] at hsame
  cases hplay : play g limit stamp texts with
  | error e => rw [hplay] at hsame; cases hsame
  | ok reh' => rw [hplay] at hsame; exact ⟨reh', rfl, (Except.ok.inj hsame).symm⟩

end Rehearsal

end FrontDesk
