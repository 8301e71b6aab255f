/-
How runs end.

A run that refuses no answer waits for another one, or completes the conversation, or is stopped by
a fault of the graph or for its length, or there is no way on where it came to. It ends in one of
these ways, and in one only (`run_ends`), whatever the graph and the state are like. All is read off
the last node of the path. So is what a run leaves awaited that completes the conversation: nothing,
unless it was no answer and ended with a transfer (`run_completed`, `handOff_waiting`).
-/
import FrontDesk.Proofs.Conversation.Record
import Mathlib.Logic.ExistsUnique

namespace FrontDesk

theorem Question.pick_targets {n : Node} {q : Question} {text id : String} {pick : Pick}
    (hq : n.body = .question q) (h : q.pick text = some pick) (hid : pick.next = some id) :
    id ∈ n.targets := by
  unfold Question.pick at h
  simp only at h
  simp only [Node.targets, hq, List.mem_append, List.mem_filterMap, Option.mem_toList]
  split at h
  · cases h
  split at h
  next c hc =>
    cases h
    simp only [pickChoice, Option.orElse_eq_orElse, Option.orElse_eq_or, Option.or_eq_some_iff]
      at hid
    rcases hid with hnext | ⟨-, hnext⟩
    · exact .inl (.inl ⟨c, findChoice_mem hc, hnext⟩)
    · exact .inl (.inr hnext)
  next =>
    split at h
    · cases h
      simp only [pickFree, Option.orElse_eq_orElse, Option.orElse_eq_or, Option.or_eq_some_iff]
        at hid
      rcases hid with hnext | ⟨-, hnext⟩
      · exact .inr hnext
      · exact .inl (.inr hnext)
    · cases h

theorem Node.onward_targets {n : Node} {id : String} (h : n.onward = some id) : id ∈ n.targets := by
  obtain ⟨id', body⟩ := n
  cases body <;> simp_all [onward, targets]

/-- Whether a defect stops the walk. A pointer that has lost its node does not. -/
def Defect.stops : Defect → Bool
  | danglingReference | unknownNodeType | stepLimitReached => true
  | pendingNodeMissing => false

/-- A way in which runs end. -/
inductive Ending where
  /-- An answer is awaited. -/
  | waits
  /-- The conversation is complete. -/
  | completes
  /-- A defect was met. -/
  | stops
  /-- There is no way on. -/
  | runsOut
  deriving DecidableEq, Repr

/-- What a path can come to at its last node: an answer to await, a completed conversation, a
defect, or none of them. -/
theorem Node.ends_cases (n : Node) :
    (∃ kind, n.awaits = some kind ∧ n.pointer none = some ⟨n.id, kind⟩ ∧ n.closes = false) ∨
      (n.pointer none = none ∧ n.closes = true) ∨
      ((∃ d, n.defect? = some d) ∧ n.pointer none = none ∧ n.closes = false) ∨
      n.defect? = none ∧ n.pointer none = none ∧ n.closes = false := by
  obtain ⟨id, body⟩ := n
  cases body with
  | transfer message queue next => cases next <;> simp [awaits, pointer, closes, defect?]
  | message _ _ _ | question _ | input _ | ending _ | unknown _ _ =>
    simp [awaits, pointer, closes, defect?]

theorem Path.of_leads {ns : List Node} {start : Option String} {id : String}
    (h : ns.getLast?.elim start Node.onward = some id) :
    closes ns = false ∧ ∀ old, pointer old ns = old := by
  cases hl : ns.getLast? with
  | none => simp [closes, pointer, hl]
  | some n =>
    obtain ⟨-, -, hopen, hpointer⟩ := Node.of_onward (n := n) (by simpa [hl] using h)
    simp [closes, pointer, hl, hopen, hpointer]

/-- A path completes the conversation at its last node: an ending, after which nothing is awaited,
or a transfer that leads nowhere, which leaves the pointer alone. -/
theorem Path.of_closes {ns : List Node} (h : Path.closes ns = true) (old : Option Waiting) :
    ∃ n, ns.getLast? = some n ∧ n.closes = true ∧
      Path.pointer old ns = if n.isTransfer then old else none := by
  cases hn : ns.getLast? with
  | none => simp [closes, hn] at h
  | some n =>
  have hcloses : n.closes = true := by simpa [closes, hn] using h
  refine ⟨n, rfl, hcloses, ?_⟩
  rw [Path.pointer, hn, Option.elim_some]
  obtain ⟨id, body⟩ := n
  cases body with
  | transfer | ending => rfl
  | message | question | input | unknown => cases hcloses

namespace Graph

/-- The run from a state ended so, after it walked these nodes on its way. -/
def EndsIn (g : Graph) (s : State) (way : Way) (ns : List Node) (o : Outcome) : Ending → Prop
  | .waits =>
    ∃ n kind, o.state.waiting = some ⟨n.id, kind⟩ ∧ g.node? n.id = some n ∧ n.awaits = some kind ∧
      o.next = n.id ∧ o.completed = false ∧ o.state.completed = s.completed
  | .completes => o.completed = true ∧ o.state.completed = some true ∧ o.state.waiting = none
  | .stops =>
    (∃ d, o.diagnostics.filter (·.defect.stops) = [d]) ∧ o.state.waiting = none ∧
      o.completed = false
  | .runsOut =>
    o.state.waiting = none ∧ o.completed = false ∧ o.diagnostics.filter (·.defect.stops) = [] ∧
      ((∃ n, ns.getLast? = some n ∧ n.onward = none) ∨
        ns = [] ∧ way.answered.isSome = true ∧ way.start = none)

variable {g : Graph} {limit : Int} {stamp : String} {s : State} {current : Option String}
  {incoming : Incoming} {way : Way} {ns : List Node} {o : Outcome}

/-- No run ends in two ways. -/
theorem EndsIn.unique {e e' : Ending} (h : g.EndsIn s way ns o e) (h' : g.EndsIn s way ns o e') :
    e = e' := by
  cases e with
  | waits =>
    obtain ⟨n, kind, hwaiting, -, -, -, -, -⟩ := h
    cases e' <;> simp_all [EndsIn]
  | completes =>
    obtain ⟨hcompleted, -, hwaiting⟩ := h
    cases e' <;> simp_all [EndsIn]
  | stops =>
    obtain ⟨⟨d, hd⟩, hwaiting, hcompleted⟩ := h
    cases e' <;> simp_all [EndsIn]
  | runsOut =>
    obtain ⟨hwaiting, hcompleted, hnone, -⟩ := h
    cases e' with
    | runsOut => rfl
    | stops =>
      obtain ⟨⟨d, hd⟩, -, -⟩ := h'
      rw [hnone] at hd
      cases hd
    | waits | completes => simp_all [EndsIn]

/-! ## Defects -/

/-- What a path can end with: a node of a kind that is not known, or a way on that is not gone. -/
theorem snag_cases {most : Nat} {start : Option String} {d : Diagnostic}
    (h : snag limit most start ns = some d) :
    (∃ n, ns.getLast? = some n ∧ n.isKnown = false ∧ d.defect = .unknownNodeType ∧ d.node = n.id) ∨
      ns.getLast?.elim start Node.onward = some d.node ∧
        (most ≤ ns.length ∧ d.defect = .stepLimitReached ∨
          ns.length < most ∧ d.defect = .danglingReference) := by
  unfold snag at h
  cases hlast : ns.getLast?.bind Node.defect? with
  | some d' =>
    obtain rfl : d' = d := by simpa [hlast] using h
    obtain ⟨n, hn, hd⟩ := Option.bind_eq_some_iff.1 hlast
    unfold Node.defect? at hd
    split at hd
    next kind source hbody =>
      cases hd
      exact .inl ⟨n, hn, by simp [Node.isKnown, hbody], rfl, rfl⟩
    next => cases hd
  | none =>
    rw [hlast] at h
    obtain ⟨id, hid, hd⟩ := Option.map_eq_some_iff.1 h
    split at hd
    next hmost => cases hd; exact .inr ⟨hid, .inl ⟨hmost, rfl⟩⟩
    next hmost => cases hd; exact .inr ⟨hid, .inr ⟨Nat.lt_of_not_le hmost, rfl⟩⟩

theorem exists_snag (limit : Int) (most : Nat) {start : Option String} {id : String}
    (hid : ns.getLast?.elim start Node.onward = some id) :
    ∃ d, snag limit most start ns = some d := by
  cases hlast : ns.getLast?.bind Node.defect? with
  | some d => exact ⟨d, by simp [snag, hlast]⟩
  | none => exact ⟨_, by rw [snag, hlast, hid]; rfl⟩

theorem snag_stops {most : Nat} {start : Option String} {d : Diagnostic}
    (h : snag limit most start ns = some d) : d.defect.stops = true := by
  rcases snag_cases h with ⟨n, -, -, hd, -⟩ | ⟨-, ⟨-, hd⟩ | ⟨-, hd⟩⟩ <;> rw [hd] <;> rfl

theorem GoesOn.defect_stops (h : g.GoesOn s current incoming way) :
    ∀ d ∈ way.defect, d.defect.stops = false := by
  cases h with
  | gone => rintro _ ⟨⟩; rfl
  | opening | unasked | picked | entered => exact fun _ hd => nomatch hd

/-- The defects that stop a run are what its path ends with. -/
theorem GoesOn.filter_stops (limit : Int) (stamp : String) (h : g.GoesOn s current incoming way) :
    (g.image limit stamp s current way).diagnostics.filter (·.defect.stops) =
      (snag limit limit.toNat way.start (g.path limit.toNat way.start)).toList := by
  have hbefore : way.defect.toList.filter (·.defect.stops) = [] :=
    List.filter_eq_nil_iff.2 fun d hd => by
      simp [h.defect_stops d (Option.mem_toList.1 hd)]
  have hafter : (snag limit limit.toNat way.start (g.path limit.toNat way.start)).toList.filter
      (·.defect.stops) = (snag limit limit.toNat way.start (g.path limit.toNat way.start)).toList :=
    List.filter_eq_self.2 fun d hd => snag_stops (Option.mem_toList.1 hd)
  rw [image, List.filter_append, hbefore, hafter, List.nil_append]

theorem onward_cons (n : Node) (ns : List Node) (start : Option String) :
    (n :: ns).getLast?.elim start Node.onward = ns.getLast?.elim n.onward Node.onward := by
  rw [List.getLast?_cons]
  cases ns.getLast? <;> rfl

/-- A path that is not cut short ends where nothing is found. -/
theorem node?_of_path_lt {most : Nat} {start : Option String} {id : String}
    (hlt : (g.path most start).length < most)
    (hid : (g.path most start).getLast?.elim start Node.onward = some id) : g.node? id = none := by
  induction most generalizing start with
  | zero => cases hlt
  | succ most ih =>
    cases start with
    | none => simp [path] at hid
    | some from' =>
      cases hn : g.node? from' with
      | none =>
        simp only [path, hn, List.getLast?_nil, Option.elim_none, Option.some.injEq] at hid
        rw [← hid, hn]
      | some n =>
        simp only [path, hn, List.length_cons, Nat.add_lt_add_iff_right, onward_cons] at hlt hid
        exact ih hlt hid

/-! ## Where paths lead -/

theorem GoesOn.leads {v : Json} (hg : Graph.ofJson v = .ok g)
    (h : g.GoesOn s current incoming way) {most : Nat} {id : String}
    (hid : (g.path most way.start).getLast?.elim way.start Node.onward = some id) : id ≠ "" := by
  have htargets := ofJson_targets hg
  have hstart : way.start ≠ some "" := by
    have hentry : g.startOf current ≠ "" := startOf_ne_empty (ofJson_wellRead hg)
    cases h with
    | opening | unasked _ | gone _ _ => simpa using hentry
    | @picked text n q pick hw hn hq hp =>
      exact fun hnext => htargets n (node?_mem hn) (Question.pick_targets hq hp hnext)
    | @entered text n i hw hn hi hc =>
      exact fun hnext => htargets n (node?_mem hn)
        (by simpa only [Node.targets, hi, Option.mem_toList] using hnext)
  rintro rfl
  cases hl : (g.path most way.start).getLast? with
  | none => exact hstart (by simpa [hl] using hid)
  | some n =>
    have hn := node?_mem (path_mem (List.mem_of_getLast? hl))
    exact htargets n hn (Node.onward_targets (by simpa [hl] using hid))

/-! ## Endings -/

/-- A run that goes on ends in some way, if nothing is awaited when its path begins: where the path
leads on, or ends at a node of a kind that is not known, something is amiss. -/
theorem GoesOn.ends (limit : Int) (stamp : String) (h : g.GoesOn s current incoming way)
    (hway : way.waiting = none) :
    ∃ e, g.EndsIn s way (g.path limit.toNat way.start) (g.image limit stamp s current way) e := by
  have hfilter := h.filter_stops limit stamp
  cases hlead : (g.path limit.toNat way.start).getLast?.elim way.start Node.onward with
  | some id =>
    obtain ⟨d, hd⟩ := exists_snag limit limit.toNat hlead
    obtain ⟨hcloses, hpointer⟩ := Path.of_leads hlead
    refine ⟨.stops, ⟨d, by rw [hfilter, hd]; rfl⟩, ?_, ?_⟩
    · simp [image, hway, hpointer]
    · simpa [image] using hcloses
  | none =>
    cases hl : (g.path limit.toNat way.start).getLast? with
    | none =>
      have hstart : way.start = none := by simpa [hl] using hlead
      have hanswered : way.answered.isSome = true := by
        cases h with
        | opening | unasked _ | gone _ _ => cases hstart
        | picked _ _ _ _ | entered _ _ _ _ => rfl
      refine ⟨.runsOut, ?_, ?_, ?_, .inr ⟨List.getLast?_eq_none_iff.1 hl, hanswered, hstart⟩⟩
      · simp [image, hway, Path.pointer, hl]
      · simp [image, Path.closes, hl]
      · rw [hfilter, snag, hl]
        simp [hstart]
    | some n =>
      have hn := path_mem (List.mem_of_getLast? hl)
      have ho : n.onward = none := by simpa [hl] using hlead
      have hpointer : (g.image limit stamp s current way).state.waiting = n.pointer none := by
        simp [image, hway, Path.pointer, hl]
      have hcloses : (g.image limit stamp s current way).completed = n.closes := by
        simp [image, Path.closes, hl]
      have hstate : (g.image limit stamp s current way).state.completed =
          if n.closes then some true else s.completed := by
        simp [image, Path.closes, hl]
      have hsnag : snag limit limit.toNat way.start (g.path limit.toNat way.start) = n.defect? := by
        simp [snag, hl, ho]
      rw [hsnag] at hfilter
      rcases n.ends_cases with
        ⟨kind, ha, hp, hc⟩ | ⟨hp, hc⟩ | ⟨⟨d, hd⟩, hp, hc⟩ | ⟨hd, hp, hc⟩
      · have hw := hpointer.trans hp
        obtain ⟨-, hrest⟩ := Path.of_pointer (by simpa [image, hway] using hw)
        refine ⟨.waits, n, kind, hw, hn, ha, ?_, hcloses.trans hc, ?_⟩
        · simp [image, hrest]
        · rw [hstate, hc, if_neg Bool.false_ne_true]
      · exact ⟨.completes, hcloses.trans hc, by rw [hstate, hc, if_pos rfl], hpointer.trans hp⟩
      · exact ⟨.stops, ⟨d, by rw [hfilter, hd]; rfl⟩, hpointer.trans hp, hcloses.trans hc⟩
      · exact ⟨.runsOut, hpointer.trans hp, hcloses.trans hc, by rw [hfilter, hd]; rfl,
          .inl ⟨n, hl, ho⟩⟩

/-! ## What is named -/

/-- A reference that leads nowhere names an id that no node has, and a node of a kind that is not
known is one of the graph's. -/
theorem GoesOn.names {v : Json} (hg : Graph.ofJson v = .ok g)
    (h : g.GoesOn s current incoming way) :
    ∀ d ∈ (g.image limit stamp s current way).diagnostics,
      (d.defect = .danglingReference → d.node ≠ "" ∧ ∀ n ∈ g.nodes, n.id ≠ d.node) ∧
      (d.defect = .unknownNodeType → ∃ n, g.node? d.node = some n ∧ n.isKnown = false) := by
  intro d hd
  rcases List.mem_append.1 hd with hd | hd
  · have hstops := h.defect_stops d (Option.mem_toList.1 hd)
    constructor <;> intro hdefect <;> rw [hdefect] at hstops <;> cases hstops
  · rcases snag_cases (Option.mem_toList.1 hd) with
      ⟨n, hn, hknown, hdefect, hnode⟩ | ⟨hlead, ⟨-, hdefect⟩ | ⟨hlt, hdefect⟩⟩
    · refine ⟨fun hd => (by rw [hdefect] at hd; cases hd), fun _ => ⟨n, ?_, hknown⟩⟩
      rw [hnode]
      exact path_mem (List.mem_of_getLast? hn)
    · constructor <;> intro hd <;> rw [hdefect] at hd <;> cases hd
    · refine ⟨fun _ => ?_, fun hd => (by rw [hdefect] at hd; cases hd)⟩
      have hne := h.leads hg hlead
      exact ⟨hne, (node?_eq_none hne).1 (node?_of_path_lt hlt hlead)⟩

/-- A run that walks any node at all rests on one that is there. -/
theorem GoesOn.rests (h : g.GoesOn s current incoming way)
    (hwalked : g.path limit.toNat way.start ≠ []) :
    (g.node? (g.image limit stamp s current way).next).isSome = true := by
  simp only [image]
  cases hr : Path.resting none (g.path limit.toNat way.start) with
  | some id =>
    obtain ⟨n, hn, rfl⟩ := Path.resting_mem hr
    rw [Option.getD_some, path_mem hn, Option.isSome_some]
  | none =>
    have hfirst : ∀ {id}, way.start = some id → (g.node? id).isSome = true := by
      intro id hid
      rw [Option.isSome_iff_ne_none]
      intro hnone
      refine hwalked ?_
      rw [hid]
      cases limit.toNat <;> simp [path, hnone]
    cases h with
    | opening | unasked _ | gone _ _ => exact hfirst rfl
    | picked _ hn _ _ | entered _ hn _ _ => simp [hn]

/-- Only a pattern that the awaited answer has to meet can make a run fail. -/
theorem run_error {fault : PatternFault}
    (h : g.run limit stamp s current incoming = .error fault) :
    ∃ text n i, incoming = .answer text ∧ s.waiting = some ⟨n.id, .input⟩ ∧
      g.node? n.id = some n ∧ n.body = .input i ∧ i.check text = .error fault := by
  cases incoming with
  | opening => rw [run_opening] at h; cases h
  | answer text =>
    cases hw : s.waiting with
    | none => rw [run_unasked hw] at h; cases h
    | some w =>
      rcases pending_cases g w with hn | ⟨n, q, rfl, hn, hq⟩ | ⟨n, i, rfl, hn, hi⟩
      · rw [run_gone hw hn] at h; cases h
      · rw [run_question hw hn hq] at h; cases h
      · refine ⟨text, n, i, rfl, rfl, hn, hi, ?_⟩
        rw [run_input hw hn hi] at h
        cases hc : i.check text with
        | ok verdict => rw [hc] at h; cases h
        | error e => rw [hc] at h; cases h; rfl

/-- **Runs end for a reason.** A run of a graph that was read, which refuses no answer, ends in just
one way, with each defect named as what it is, and rests on a node that is there if it walked any.
It fails only if a pattern that the awaited answer has to meet is at fault. Of the first run of a
conversation it is asked that nothing is awaited yet. -/
theorem run_ends {v : Json} (hg : Graph.ofJson v = .ok g) (limit : Int) (stamp : String) (s : State)
    (current : Option String) (incoming : Incoming)
    (hfit : incoming = .opening → s.waiting = none) :
    match g.run limit stamp s current incoming with
    | .error fault =>
      ∃ text n i, incoming = .answer text ∧ s.waiting = some ⟨n.id, .input⟩ ∧
        g.node? n.id = some n ∧ n.body = .input i ∧ i.check text = .error fault
    | .ok o =>
      o.retries = [] →
        ∃ way, g.GoesOn s current incoming way ∧
          (∃! e, g.EndsIn s way (g.path limit.toNat way.start) o e) ∧
          (∀ d ∈ o.diagnostics,
            (d.defect = .danglingReference → d.node ≠ "" ∧ ∀ n ∈ g.nodes, n.id ≠ d.node) ∧
            (d.defect = .unknownNodeType → ∃ n, g.node? d.node = some n ∧ n.isKnown = false)) ∧
          o.next ≠ "" ∧
          (g.path limit.toNat way.start ≠ [] → (g.node? o.next).isSome = true) := by
  cases hrun : g.run limit stamp s current incoming with
  | ok o =>
    intro hnone
    rcases run_cases hrun with ⟨way, hway, rfl⟩ | hrefuses
    · have hsound := hway.sound (ofJson_wellRead hg) hfit
      obtain ⟨e, he⟩ := hway.ends limit stamp hsound.waiting
      exact ⟨way, hway, ⟨e, he, fun e' he' => he'.unique he⟩, hway.names hg,
        image_next_ne_empty (ofJson_wellRead hg) hsound, hway.rests⟩
    · exact absurd hnone hrefuses.retries_ne_nil
  | error fault => exact run_error hrun

/-- A message that leads to itself. -/
def echo : Json :=
  .object [("entryNodeId", .string "again"), ("nodes", .list [
    .object [("id", .string "again"), ("type", .string "message"), ("content", .string "Again"),
      ("next", .string "again")]])]

/-- A run in circles ends too, since it is stopped. -/
theorem echo_ends :
    ∃ g o way, Graph.ofJson echo = .ok g ∧ g.run 3 "now" {} none .opening = .ok o ∧
      g.GoesOn {} none .opening way ∧ g.EndsIn {} way (g.path 3 way.start) o .stops ∧
      (∃! e, g.EndsIn {} way (g.path 3 way.start) o e) ∧ (g.node? o.next).isSome = true := by
  obtain ⟨way, hway, hends, -, -, hrests⟩ :=
    run_ends (v := echo) rfl 3 "now" {} none .opening (fun _ => rfl) rfl
  refine ⟨_, _, way, rfl, rfl, hway, ⟨⟨_, rfl⟩, rfl, rfl⟩, hends, hrests ?_⟩
  cases hway
  exact List.cons_ne_nil _ _

/-! ## Completed runs -/

theorem GoesOn.waiting_eq (h : g.GoesOn s current incoming way) :
    way.waiting = if incoming = .opening then s.waiting else none := by
  cases h with
  | opening => exact (if_pos rfl).symm
  | unasked | gone | picked | entered => exact (if_neg Incoming.noConfusion).symm

/-- **A run that completes the conversation** marks it so in the state, and nothing is awaited any
more, with one exception: a message that is no answer and ends with a transfer leaves the pointer
that it found. -/
theorem run_completed (h : g.run limit stamp s current incoming = .ok o)
    (hcompleted : o.completed = true) :
    o.state.completed = some true ∧
      ∃ way n, g.GoesOn s current incoming way ∧
        (g.path limit.toNat way.start).getLast? = some n ∧ n.closes = true ∧
        o.state.waiting =
          if incoming = .opening ∧ n.isTransfer = true then s.waiting else none := by
  rcases run_cases h with ⟨way, hway, rfl⟩ | hrefuses
  · obtain ⟨n, hn, hcloses, hpointer⟩ := Path.of_closes hcompleted way.waiting
    refine ⟨if_pos hcompleted, way, n, hway, hn, hcloses, ?_⟩
    have hwaiting : (g.image limit stamp s current way).state.waiting =
        Path.pointer way.waiting (g.path limit.toNat way.start) := rfl
    rw [hwaiting, hpointer, hway.waiting_eq]
    by_cases hopening : incoming = .opening <;> simp [hopening]
  · cases hrefuses <;> cases hcompleted

/-- A transfer with no way on. -/
def handOff : Json :=
  .object [("entryNodeId", .string "people"), ("nodes", .list [
    .object [("id", .string "people"), ("type", .string "transfer")]])]

/-- The graph that is read of it. -/
def handingOff : Graph :=
  { entry := "people"
    nodes := [⟨"people", @NodeBody.transfer {} none none none⟩]
    version := ""
    metadata := none }

/-- The state of a conversation that waits for the answer to a question. -/
def asked : State := { waiting := some ⟨"choice", .question⟩ }

/-- With an answer to what is no longer asked the conversation ends there, and nothing is awaited. -/
theorem handOff_completed :
    Graph.ofJson handOff = .ok handingOff ∧
      ∃ o, handingOff.run 50 "now" asked (some "people") (.answer "Yes") = .ok o ∧
        o.completed = true ∧ o.state.completed = some true ∧ o.state.waiting = none := by
  obtain ⟨o, hrun, hcompleted⟩ :
      ∃ o, handingOff.run 50 "now" asked (some "people") (.answer "Yes") = .ok o ∧
        o.completed = true := ⟨_, rfl, rfl⟩
  obtain ⟨hstate, way, n, -, -, -, hwaiting⟩ := run_completed hrun hcompleted
  exact ⟨rfl, o, hrun, hcompleted, hstate, by simpa using hwaiting⟩

/-- **A run that completes the conversation can leave it waiting**: the pointer that was there before
the transfer is there still. -/
theorem handOff_waiting :
    Graph.ofJson handOff = .ok handingOff ∧
      ∃ o, handingOff.run 50 "now" asked none .opening = .ok o ∧ o.completed = true ∧
        o.state.completed = some true ∧ o.state.waiting = some ⟨"choice", .question⟩ :=
  ⟨rfl, _, rfl, rfl, rfl, rfl⟩

end Graph

end FrontDesk
