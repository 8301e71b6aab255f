/-
What every record of a conversation is like.

A session that was completed says so twice, in its state and by a time; one that waits is not
completed and rests on the node that it waits for; it always rests somewhere, and nothing in its
history and among its keys is empty (`Session.Sound`). Runs that start from such records end in
such (`run_sound`), and what is made of a session after a run is such a record again
(`advance_sound`).
-/
import FrontDesk.Proofs.Conversation.Storage
import FrontDesk.Service.Reception

namespace FrontDesk

open Calendar

/-- What holds of every session on record. -/
structure Session.Sound (s : Session) : Prop where
  completed : s.completedAt.isSome = true ↔ s.state.completed = some true
  never_false : s.state.completed ≠ some false
  waiting : ∀ w, s.state.waiting = some w → s.completedAt = none ∧ s.currentNode = some w.node
  current : ∃ id, s.currentNode = some id ∧ id ≠ ""
  history : ∀ v ∈ s.state.history, v.Storable
  keys : ∀ e ∈ s.state.collected, e.1 ≠ ""

namespace Session.Sound

variable {s s' : Session}

theorem storable (h : s.Sound) : s.state.Storable := by
  refine ⟨h.history, fun w hw => ?_⟩
  obtain ⟨id, hid, hne⟩ := h.current
  have := (h.waiting w hw).2
  rw [hid, Option.some.injEq] at this
  rw [← this]
  exact hne

/-- Soundness is about the state, the resting node, and whether there is a time of completion. -/
theorem congr (h : s.Sound) (hstate : s'.state = s.state)
    (hcurrent : s'.currentNode = s.currentNode)
    (hat : s'.completedAt.isSome = s.completedAt.isSome) : s'.Sound where
  completed := by rw [hat, hstate]; exact h.completed
  never_false := by rw [hstate]; exact h.never_false
  waiting w hw := by
    obtain ⟨hnone, hnode⟩ := h.waiting w (by rw [← hstate]; exact hw)
    refine ⟨?_, by rw [hcurrent]; exact hnode⟩
    rw [hnone] at hat
    simpa using hat
  current := by rw [hcurrent]; exact h.current
  history := by rw [hstate]; exact h.history
  keys := by rw [hstate]; exact h.keys

theorem completed_eq_none (h : s.Sound) (hopen : s.completedAt = none) :
    s.state.completed = none := by
  have htrue : s.state.completed ≠ some true := by
    rw [Ne, ← h.completed, hopen]
    simp
  cases hc : s.state.completed with
  | none => rfl
  | some b => cases b <;> simp_all [h.never_false]

end Session.Sound

/-! ## Outcomes -/

/-- What holds of the outcome of a run from a state that was not completed. -/
structure Outcome.Sound (o : Outcome) : Prop where
  completed : o.state.completed = if o.completed then some true else none
  waiting : ∀ w, o.state.waiting = some w → o.completed = false ∧ w.node = o.next
  next : o.next ≠ ""
  history : ∀ v ∈ o.state.history, v.Storable
  keys : ∀ e ∈ o.state.collected, e.1 ≠ ""

theorem Entries.mem_put {α : Type} {key : String} {value : α} {es : Entries α} {e : String × α}
    (h : e ∈ es.put key value) : e ∈ es ∨ e = (key, value) := by
  induction es with
  | nil => simpa [put] using h
  | cons d rest ih =>
    obtain ⟨k, v⟩ := d
    rw [put] at h
    split at h
    next hk =>
      rcases List.mem_cons.1 h with rfl | h
      · exact .inr (by simpa using hk)
      · exact .inl (List.mem_cons_of_mem _ h)
    next =>
      rcases List.mem_cons.1 h with rfl | h
      · exact .inl (by simp)
      · exact (ih h).imp_left (List.mem_cons_of_mem _)

theorem Answered.keep_keys {collected : Entries String} {a : Answered}
    (hold : ∀ e ∈ collected, e.1 ≠ "")
    (hkey : ∀ key value, a.stored = some (key, value) → key ≠ "") :
    ∀ e ∈ a.keep collected, e.1 ≠ "" := by
  intro e he
  unfold keep at he
  cases hs : a.stored with
  | none => exact hold e (by simpa [hs] using he)
  | some kv =>
    obtain ⟨key, value⟩ := kv
    rw [hs, Option.elim_some] at he
    rcases Entries.mem_put he with he | rfl
    · exact hold e he
    · exact hkey key value hs

namespace Path

theorem getLast?_filter {f : Node → Bool} {ns : List Node} {n : Node} (hl : ns.getLast? = some n)
    (hf : f n = true) : (ns.filter f).getLast? = some n := by
  obtain ⟨init, rfl⟩ := List.getLast?_eq_some_iff.1 hl
  simp [hf]

theorem of_pointer {ns : List Node} {w : Waiting} (h : pointer none ns = some w) :
    closes ns = false ∧ resting none ns = some w.node := by
  cases hl : ns.getLast? with
  | none => simp [pointer, hl] at h
  | some n =>
    rw [pointer, hl, Option.elim_some] at h
    have hn : n.closes = false ∧ n.isKnown = true ∧ n.id = w.node := by
      obtain ⟨id, body⟩ := n
      cases body <;> simp [Node.pointer, Node.closes, Node.isKnown] at h ⊢ <;> simp [← h]
    simp [closes, resting, hl, getLast?_filter hl hn.2.1, hn.1, hn.2.2]

theorem resting_mem {ns : List Node} {id : String} (h : resting none ns = some id) :
    ∃ n ∈ ns, n.id = id := by
  cases hl : (ns.filter Node.isKnown).getLast? with
  | none => simp [resting, hl] at h
  | some n =>
    refine ⟨n, (List.mem_filter.1 (List.mem_of_getLast? hl)).1, ?_⟩
    simpa [resting, hl] using h

end Path

/-- What a way has to be like for its image to be sound. -/
structure Way.Sound (way : Way) : Prop where
  waiting : way.waiting = none
  node : ∀ a, way.answered = some a → a.node ≠ ""
  key : ∀ a, way.answered = some a → ∀ key value, a.stored = some (key, value) → key ≠ ""

namespace Graph

variable {g : Graph} {limit : Int} {stamp : String} {s : State} {current : Option String}
  {incoming : Incoming}

theorem startOf_ne_empty (hg : g.WellRead) : g.startOf current ≠ "" := by
  unfold startOf
  cases hc : current.bind Text.nonempty? with
  | none => exact hg.entry
  | some id =>
    obtain ⟨s, -, hs⟩ := Option.bind_eq_some_iff.1 hc
    exact (nonempty?_eq_some hs).2

theorem GoesOn.sound (hg : g.WellRead) {way : Way} (h : g.GoesOn s current incoming way)
    (hopen : incoming = .opening → s.waiting = none) : Way.Sound way := by
  cases h with
  | opening => exact ⟨hopen rfl, by simp, by simp⟩
  | unasked hw => exact ⟨rfl, by simp, by simp⟩
  | gone hw hn => exact ⟨rfl, by simp, by simp⟩
  | @picked text n q pick hw hn hq hp =>
    have hread := hg.nodes n (node?_mem hn)
    simp only [Node.WellRead, hq] at hread
    refine ⟨rfl, ?_, ?_⟩
    · rintro a ⟨⟩
      exact node?_ne_empty hn
    · rintro a ⟨⟩ key value hkey
      obtain ⟨field, hfield, hkey⟩ := Option.bind_eq_some_iff.1 hkey
      obtain ⟨stored, -, hkey⟩ := Option.bind_eq_some_iff.1 hkey
      cases hkey
      rintro rfl
      exact hread.2 hfield
  | @entered text n i hw hn hi hc =>
    have hread := hg.nodes n (node?_mem hn)
    simp only [Node.WellRead, hi] at hread
    refine ⟨rfl, ?_, ?_⟩
    · rintro a ⟨⟩
      exact node?_ne_empty hn
    · rintro a ⟨⟩ key value ⟨⟩
      exact hread (node?_ne_empty hn)

theorem image_next_ne_empty (hg : g.WellRead) {way : Way} (hway : Way.Sound way) :
    (g.image limit stamp s current way).next ≠ "" := by
  simp only [image]
  cases hr : Path.resting none (g.path limit.toNat way.start) with
  | some id =>
    obtain ⟨n, hn, rfl⟩ := Path.resting_mem hr
    exact node?_ne_empty (path_mem hn)
  | none =>
    cases ha : way.answered with
    | none => exact startOf_ne_empty hg
    | some a => exact hway.node a ha

/-- **Outcomes are sound.** Only the opening of a conversation may not find it waiting. -/
theorem run_sound (hg : g.WellRead) (hs : s.Storable) (hcompleted : s.completed = none)
    (hkeys : ∀ e ∈ s.collected, e.1 ≠ "") (hstamp : stamp ≠ "")
    (hopen : incoming = .opening → s.waiting = none) {o : Outcome}
    (h : g.run limit stamp s current incoming = .ok o) : o.Sound := by
  have hstorable := run_storable hg hs hstamp h
  rcases run_cases h with ⟨way, hway, rfl⟩ | hr
  · have hsound := hway.sound hg hopen
    refine ⟨?_, fun w hw => ?_, image_next_ne_empty hg hsound, hstorable.history, ?_⟩
    · simp [image, hcompleted]
    · obtain ⟨hcloses, hrest⟩ := Path.of_pointer (by simpa [image, hsound.waiting] using hw)
      simp [image, hcloses, hrest]
    · cases ha : way.answered with
      | none => simpa [image, ha] using hkeys
      | some a =>
        have := Answered.keep_keys hkeys (hsound.key a ha)
        simpa [image, ha] using this
  · cases hr with
    | picksNothing hw hn hq hp =>
      exact ⟨hcompleted, by simp [hw], node?_ne_empty hn, hs.history, hkeys⟩
    | breaksRule hw hn hi hc =>
      exact ⟨hcompleted, by simp [hw], node?_ne_empty hn, hs.history, hkeys⟩

end Graph

/-! ## After a run -/

namespace Reception

variable {g : Graph} {limit : Int} {stamp : String} {now : Moment} {s : Session} {o : Outcome}

/-- When an answer is refused the conversation rests where it did anyway: to go back to the pointer
from before the run changes nothing. -/
theorem advance_waiting {current : Option String} {incoming : Incoming}
    (h : g.run limit stamp s.state current incoming = .ok o) :
    advance now s o s.state.waiting = advance now s o none := by
  rcases Graph.run_cases h with ⟨way, -, rfl⟩ | hr
  · cases hw : s.state.waiting <;> simp [advance, Graph.image]
  · have hself {st : State} {w : Waiting} (hw : st.waiting = some w) :
        { st with waiting := some w } = st := by rw [← hw]
    cases hr with
    | picksNothing hw hn hq hp => rw [hw]; simp [advance, hself hw]
    | breaksRule hw hn hi hc => rw [hw]; simp [advance, hself hw]

theorem advance_sound (ho : o.Sound) (hopen : s.completedAt = none) :
    (advance now s o none).Sound where
  completed := by cases hc : o.completed <;> simp [advance, ho.completed, hc, hopen]
  never_false := by cases hc : o.completed <;> simp [advance, ho.completed, hc]
  waiting w hw := by
    obtain ⟨hc, hnode⟩ := ho.waiting w hw
    simp [advance, hc, hopen, hnode]
  current := ⟨o.next, rfl, ho.next⟩
  history := ho.history
  keys := ho.keys

end Reception

end FrontDesk
