/-
What the limit of a run is for.

A run visits at most so many nodes. One that was not cut short by its limit is the same under any
larger one, and one that was cut short has come part of the way that it would go (`run_limit`). For
the path under a limit is the beginning of the path under a larger one, and all of it if it ended
there.
-/
import FrontDesk.Proofs.Conversation.Ending

namespace FrontDesk

/-- Whether the run was stopped for its length. -/
def Outcome.isCut (o : Outcome) : Bool := o.diagnostics.any (·.defect == .stepLimitReached)

theorem Node.isPassed_of_onward {n : Node} {next : String} (h : n.onward = some next) :
    n.isPassed = true := by
  obtain ⟨id, body⟩ := n
  cases body with
  | message | transfer => rfl
  | question | input | ending | unknown => cases h

namespace Graph

variable {g : Graph} {limit : Int} {stamp : String} {s : State} {current : Option String}
  {incoming : Incoming} {way : Way} {ns : List Node} {most more : Nat} {start : Option String}

/-! ## Paths under two limits -/

/-- The path under a limit is the beginning of the path under a larger one. -/
theorem path_take (h : most ≤ more) (start : Option String) :
    (g.path more start).take most = g.path most start := by
  induction most generalizing more start with
  | zero => rfl
  | succ most ih =>
    cases more with
    | zero => exact absurd h (Nat.not_succ_le_zero most)
    | succ more =>
    cases start with
    | none => rw [path_none, path_none, List.take_nil]
    | some id =>
      cases hn : g.node? id with
      | none => simp [path, hn]
      | some n =>
        simp only [path, hn, List.take_succ_cons]
        rw [ih (Nat.le_of_succ_le_succ h)]

theorem path_prefix (h : most ≤ more) (start : Option String) :
    g.path most start <+: g.path more start := by
  rw [← path_take h start]
  exact List.take_prefix _ _

theorem length_path_le (most : Nat) (start : Option String) :
    (g.path most start).length ≤ most := by
  rw [← path_take (Nat.le_refl most) start]
  exact List.length_take_le _ _

/-- A path that does not lead on from its last node is the same under a larger limit. -/
theorem path_of_ended (h : most ≤ more)
    (hend : (g.path most start).getLast?.elim start Node.onward = none) :
    g.path more start = g.path most start := by
  induction most generalizing more start with
  | zero =>
    obtain rfl : start = none := hend
    rw [path_none, path_none]
  | succ most ih =>
    cases more with
    | zero => exact absurd h (Nat.not_succ_le_zero most)
    | succ more =>
    cases start with
    | none => rw [path_none, path_none]
    | some id =>
      cases hn : g.node? id with
      | none => simp [path, hn]
      | some n =>
        simp only [path, hn, onward_cons] at hend ⊢
        rw [ih (Nat.le_of_succ_le_succ h) hend]

theorem path_of_lt (h : most ≤ more) (hlt : (g.path most start).length < most) :
    g.path more start = g.path most start := by
  rw [← path_take h start] at hlt ⊢
  rw [List.length_take] at hlt
  exact (List.take_of_length_le (by omega)).symm

theorem path_passed {id : String}
    (hid : (g.path most start).getLast?.elim start Node.onward = some id) :
    ∀ n ∈ g.path most start, n.isPassed = true := by
  induction most generalizing start with
  | zero => exact fun _ hn => nomatch hn
  | succ most ih =>
    cases start with
    | none => cases hid
    | some from' =>
      cases hn : g.node? from' with
      | none => simp [path, hn]
      | some n =>
        simp only [path, hn, onward_cons, List.forall_mem_cons] at hid ⊢
        refine ⟨?_, ih hid⟩
        cases ho : n.onward with
        | none =>
          rw [ho, path_none] at hid
          cases hid
        | some next => exact Node.isPassed_of_onward ho

theorem length_filterMap_visit? (h : ∀ n ∈ ns, n.isPassed = true) :
    (ns.filterMap (Node.visit? stamp)).length = ns.length := by
  induction ns with
  | nil => rfl
  | cons n rest ih =>
    obtain ⟨hn, hrest⟩ := List.forall_mem_cons.1 h
    simp [Node.visit?, hn, ih hrest]

/-! ## What is cut short -/

/-- A path leads on and is as long as it may be. -/
structure CutShort (most : Nat) (start : Option String) (ns : List Node) : Prop where
  leads : ∃ id, ns.getLast?.elim start Node.onward = some id
  full : most ≤ ns.length

/-- What a path ends with says whether it was cut short. -/
theorem snag_cut (limit : Int) (most : Nat) (start : Option String) (ns : List Node) :
    (∃ d, snag limit most start ns = some d ∧ d.defect = .stepLimitReached) ↔
      CutShort most start ns := by
  constructor
  · rintro ⟨d, hd, hcut⟩
    rcases snag_cases hd with ⟨n, -, -, hdefect, -⟩ | ⟨hlead, ⟨hmost, -⟩ | ⟨-, hdefect⟩⟩
    · rw [hcut] at hdefect
      cases hdefect
    · exact ⟨⟨d.node, hlead⟩, hmost⟩
    · rw [hcut] at hdefect
      cases hdefect
  · rintro ⟨⟨id, hid⟩, hmost⟩
    obtain ⟨d, hd⟩ := exists_snag limit most hid
    refine ⟨d, hd, ?_⟩
    rcases snag_cases hd with ⟨n, hn, hknown, -, -⟩ | ⟨-, ⟨-, hdefect⟩ | ⟨hlt, -⟩⟩
    · rw [hn, Option.elim_some] at hid
      rw [(Node.of_onward hid).1] at hknown
      cases hknown
    · exact hdefect
    · exact absurd hmost (Nat.not_le_of_lt hlt)

/-- A path that was not cut short is the same under a larger limit, and ends with the same. -/
theorem path_of_uncut (h : most ≤ more) (hwhole : ¬ CutShort most start (g.path most start)) :
    g.path more start = g.path most start ∧ ∀ limit limit' : Int,
      snag limit' more start (g.path most start) = snag limit most start (g.path most start) := by
  cases hlead : (g.path most start).getLast?.elim start Node.onward with
  | none => exact ⟨path_of_ended h hlead, fun limit limit' => by rw [snag, snag, hlead]; rfl⟩
  | some id =>
    have hlt : (g.path most start).length < most :=
      Nat.lt_of_not_le fun hmost => hwhole ⟨⟨id, hlead⟩, hmost⟩
    refine ⟨path_of_lt h hlt, fun limit limit' => ?_⟩
    rw [snag, snag, hlead]
    simp [Nat.not_le_of_lt hlt, Nat.not_le_of_lt (Nat.lt_of_lt_of_le hlt h)]

theorem GoesOn.isCut_image (h : g.GoesOn s current incoming way) :
    (g.image limit stamp s current way).isCut = true ↔
      CutShort limit.toNat way.start (g.path limit.toNat way.start) := by
  rw [← snag_cut limit, Outcome.isCut, image, List.any_append, Bool.or_eq_true]
  constructor
  · rintro (hbefore | hafter)
    · obtain ⟨d, hd, hcut⟩ := List.any_eq_true.1 hbefore
      have hstops := h.defect_stops d (Option.mem_toList.1 hd)
      rw [eq_of_beq hcut] at hstops
      cases hstops
    · obtain ⟨d, hd, hcut⟩ := List.any_eq_true.1 hafter
      exact ⟨d, Option.mem_toList.1 hd, eq_of_beq hcut⟩
  · rintro ⟨d, hd, hcut⟩
    exact .inr (List.any_eq_true.2 ⟨d, Option.mem_toList.2 hd, beq_iff_eq.2 hcut⟩)

theorem Refuses.isCut {o : Outcome} (h : g.Refuses s incoming o) : o.isCut = false := by
  cases h <;> rfl

/-! ## Runs under two limits -/

/-- A run that was not cut short comes to the same under a larger limit. -/
theorem GoesOn.image_of_uncut {limit' : Int} (h : g.GoesOn s current incoming way)
    (hle : limit ≤ limit') (hwhole : (g.image limit stamp s current way).isCut = false) :
    g.image limit' stamp s current way = g.image limit stamp s current way := by
  have hpath : ¬ CutShort limit.toNat way.start (g.path limit.toNat way.start) := by
    intro hcut
    have himage : (g.image limit stamp s current way).isCut = true := h.isCut_image.2 hcut
    rw [hwhole] at himage
    cases himage
  obtain ⟨hsame, hsnag⟩ := path_of_uncut (Int.toNat_le_toNat hle) hpath
  simp only [image, hsame, hsnag limit limit']

/-- A run that was cut short has come part of the way: each node on it is passed, and nothing is
completed or awaited on its account. -/
theorem GoesOn.image_cut {limit' : Int} (h : g.GoesOn s current incoming way)
    (hle : limit ≤ limit') {o o' : Outcome} (ho : o = g.image limit stamp s current way)
    (ho' : o' = g.image limit' stamp s current way) (hcut : o.isCut = true) :
    o.messages <+: o'.messages ∧ o.state.history <+: o'.state.history ∧
      (g.path limit.toNat way.start).length = limit.toNat ∧
      o.state.history.length = s.history.length + way.answered.toList.length + limit.toNat ∧
      o.completed = false ∧ o.state.completed = s.completed ∧ o.state.waiting = way.waiting := by
  subst ho ho'
  obtain ⟨⟨id, hlead⟩, hfull⟩ := h.isCut_image.1 hcut
  obtain ⟨hcloses, hpointer⟩ := Path.of_leads hlead
  have hpart : g.path limit.toNat way.start <+: g.path limit'.toNat way.start :=
    path_prefix (Int.toNat_le_toNat hle) way.start
  have hlength : (g.path limit.toNat way.start).length = limit.toNat :=
    Nat.le_antisymm (length_path_le _ _) hfull
  have hvisits : ((g.path limit.toNat way.start).filterMap (Node.visit? stamp)).length =
      limit.toNat := by
    rw [length_filterMap_visit? (path_passed hlead), hlength]
  refine ⟨hpart.filterMap _, ?_, hlength, ?_, hcloses, ?_, hpointer _⟩
  · exact (List.prefix_append_right_inj _).2 (hpart.filterMap _)
  · simp only [image, List.length_append, hvisits]
    cases way.answered <;> rfl
  · simp [image, hcloses]

/-- **The limit only cuts.** A run that was not cut short by its limit comes to the same under a
larger one. What a run has said and recorded that was cut short is the beginning of what it says and
records under the larger limit; it has passed just as many nodes as it may, each of them recorded,
and nothing is completed or awaited on its account. -/
theorem run_limit (hnonneg : 0 ≤ limit) {limit' : Int} (hle : limit ≤ limit') (stamp : String)
    (s : State) (current : Option String) (incoming : Incoming) :
    match g.run limit stamp s current incoming with
    | .error fault => g.run limit' stamp s current incoming = .error fault
    | .ok o =>
      ∃ o', g.run limit' stamp s current incoming = .ok o' ∧
        (o.isCut = false → o' = o) ∧
        (o.isCut = true →
          o.messages <+: o'.messages ∧ o.state.history <+: o'.state.history ∧
          (∃ way, g.GoesOn s current incoming way ∧
            ((g.path limit.toNat way.start).length : Int) = limit ∧
            (o.state.history.length : Int) =
              s.history.length + way.answered.toList.length + limit) ∧
          o.completed = false ∧ o.state.completed = s.completed ∧
          ∀ w, o.state.waiting = some w → incoming = .opening ∧ s.waiting = some w) := by
  cases hrun : g.run limit stamp s current incoming with
  | error fault =>
    obtain ⟨text, n, i, rfl, hw, hn, hi, hc⟩ := run_error hrun
    simp only
    rw [run_input hw hn hi, hc]
    rfl
  | ok o =>
    rcases run_cases hrun with ⟨way, hway, ho⟩ | hrefuses
    · refine ⟨_, hway.run, fun hwhole => ?_, fun hcut => ?_⟩
      · subst ho
        exact hway.image_of_uncut hle hwhole
      · obtain ⟨hmessages, hhistory, hlength, hvisits, hopen, hsame, hwaiting⟩ :=
          hway.image_cut hle ho rfl hcut
        refine ⟨hmessages, hhistory, ⟨way, hway, ?_, ?_⟩, hopen, hsame, fun w hw => ?_⟩
        · rw [hlength, Int.toNat_of_nonneg hnonneg]
        · rw [hvisits]
          omega
        · rw [hwaiting] at hw
          cases hway with
          | opening => exact ⟨rfl, hw⟩
          | unasked | gone | picked | entered => cases hw
    · exact ⟨o, hrefuses.run, fun _ => rfl, fun hcut => by rw [hrefuses.isCut] at hcut; cases hcut⟩

/-- The graph of a message that leads to itself. -/
def echoing : Graph :=
  { entry := "again"
    nodes := [⟨"again", @NodeBody.message {} "Again" (some "again") []⟩]
    version := ""
    metadata := none }

/-- Three rounds in circles are the beginning of five. -/
theorem echo_limit :
    Graph.ofJson echo = .ok echoing ∧ (0 : Int) ≤ 3 ∧ (3 : Int) ≤ 5 ∧
      ∃ o o', echoing.run 3 "now" {} none .opening = .ok o ∧
        echoing.run 5 "now" {} none .opening = .ok o' ∧ o.isCut = true ∧
        o.messages.length = 3 ∧ o'.messages.length = 5 ∧ o.messages <+: o'.messages ∧
        o.state.history <+: o'.state.history ∧ o.completed = false := by
  obtain ⟨o', ho', -, hcut⟩ :=
    run_limit (g := echoing) (show (0 : Int) ≤ 3 by decide) (show (3 : Int) ≤ 5 by decide) "now" {}
      none .opening
  obtain ⟨hmessages, hhistory, -, hopen, -⟩ := hcut (by decide)
  cases ho'
  exact ⟨rfl, by decide, by decide, _, _, rfl, rfl, by decide, by decide, by decide, hmessages,
    hhistory, hopen⟩

end Graph

end FrontDesk
