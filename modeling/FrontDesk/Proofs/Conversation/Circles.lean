/-
Runs in circles.

A run that may visit more nodes than the graph has ids is stopped for its length just when the graph
leads it in circles: when the way on from where it begins comes to some message or transfer twice.
And a run that is led in circles is stopped for its length whatever its limit (`run_cut_iff_circles`).
For a way that goes on for so long comes to some id again, and from there on to all that came after
it before.
-/
import FrontDesk.Proofs.Conversation.Limit
import Mathlib.Data.Finset.Card
import Mathlib.Logic.Function.Iterate

namespace FrontDesk

/-- Whether the way can lead on from a node: it is a message or a transfer. -/
def Node.isWaypoint (n : Node) : Bool :=
  match n.body with
  | .message .. | .transfer .. => true
  | _ => false

theorem Node.isWaypoint_of_onward {n : Node} {next : String} (h : n.onward = some next) :
    n.isWaypoint = true := by
  obtain ⟨id, body⟩ := n
  cases body with
  | message | transfer => rfl
  | question | input | ending | unknown => cases h

namespace Graph

/-- Where the way leads on from the node it has come to. -/
def beyond (g : Graph) (way : Option String) : Option String :=
  way.bind fun id => (g.node? id).bind Node.onward

/-- Where the way has come to after so many nodes. -/
def ahead (g : Graph) (start : Option String) (k : Nat) : Option String := g.beyond^[k] start

/-- The node that the way visits after so many others. -/
def visited (g : Graph) (start : Option String) (k : Nat) : Option Node :=
  (g.ahead start k).bind g.node?

/-- The way visits some message or transfer twice. -/
def Circles (g : Graph) (start : Option String) : Prop :=
  ∃ n i j, n.isWaypoint = true ∧ i < j ∧ g.visited start i = some n ∧ g.visited start j = some n

/-- The ids that nodes have, each once. -/
def ids (g : Graph) : Finset String := (g.nodes.map Node.id).toFinset

variable {g : Graph} {limit : Int} {stamp : String} {s : State} {current : Option String}
  {incoming : Incoming} {start : Option String}

/-! ## The way ahead -/

theorem ahead_succ (start : Option String) (k : Nat) :
    g.ahead start (k + 1) = g.beyond (g.ahead start k) :=
  Function.iterate_succ_apply' _ _ _

theorem ahead_beyond (start : Option String) (k : Nat) :
    g.ahead start (k + 1) = g.ahead (g.beyond start) k :=
  Function.iterate_succ_apply _ _ _

theorem ahead_none (k : Nat) : g.ahead none k = none := Function.iterate_fixed rfl k

/-- Where the way leads on, it has visited a message or a transfer just before. -/
theorem visited_of_ahead {k : Nat} {id : String} (h : g.ahead start (k + 1) = some id) :
    ∃ n, g.visited start k = some n ∧ n.isWaypoint = true := by
  rw [ahead_succ, beyond] at h
  obtain ⟨from', hfrom, hbeyond⟩ := Option.bind_eq_some_iff.1 h
  obtain ⟨n, hn, honward⟩ := Option.bind_eq_some_iff.1 hbeyond
  refine ⟨n, ?_, Node.isWaypoint_of_onward honward⟩
  rw [visited, hfrom, Option.bind_some, hn]

theorem ahead_of_le {i k : Nat} (hle : i ≤ k) (h : ∃ id, g.ahead start k = some id) :
    ∃ id, g.ahead start i = some id := by
  induction k, hle using Nat.le_induction with
  | base => exact h
  | succ k hle ih =>
    obtain ⟨id, hid⟩ := h
    rw [ahead_succ, beyond] at hid
    obtain ⟨from', hfrom, -⟩ := Option.bind_eq_some_iff.1 hid
    exact ih ⟨from', hfrom⟩

theorem ahead_of_visited {k : Nat} {n : Node} (h : g.visited start k = some n) :
    g.ahead start k = some n.id := by
  obtain ⟨id, hid, hn⟩ := Option.bind_eq_some_iff.1 h
  rw [hid, node?_id hn]

theorem visited_mem_ids {k : Nat} {n : Node} (h : g.visited start k = some n) : n.id ∈ g.ids := by
  obtain ⟨id, -, hn⟩ := Option.bind_eq_some_iff.1 h
  exact List.mem_toFinset.2 (List.mem_map_of_mem (node?_mem hn))

/-- A path is cut short where the way would have gone on. -/
theorem cutShort_path_iff (most : Nat) (start : Option String) :
    CutShort most start (g.path most start) ↔ ∃ id, g.ahead start most = some id := by
  induction most generalizing start with
  | zero =>
    constructor
    · rintro ⟨⟨id, hid⟩, -⟩
      exact ⟨id, hid⟩
    · rintro ⟨id, hid⟩
      exact ⟨⟨id, hid⟩, Nat.zero_le _⟩
  | succ most ih =>
    cases start with
    | none =>
      rw [path_none, ahead_none]
      constructor
      · rintro ⟨⟨_, hid⟩, -⟩
        cases hid
      · rintro ⟨_, hid⟩
        cases hid
    | some id =>
    rw [ahead_beyond, beyond, Option.bind_some]
    cases hn : g.node? id with
    | none =>
      rw [Option.bind_none, ahead_none]
      constructor
      · rintro ⟨-, hfull⟩
        simp [path, hn] at hfull
      · rintro ⟨_, hid⟩
        cases hid
    | some n =>
      rw [Option.bind_some, ← ih n.onward]
      have hpath : g.path (most + 1) (some id) = n :: g.path most n.onward := by
        simp only [path, hn]
      -- the first node counts for one, and does not matter to where the path leads on
      constructor
      · rintro ⟨hleads, hfull⟩
        rw [hpath, onward_cons] at hleads
        rw [hpath, List.length_cons] at hfull
        exact ⟨hleads, Nat.le_of_succ_le_succ hfull⟩
      · rintro ⟨hleads, hfull⟩
        refine ⟨?_, ?_⟩
        · rwa [hpath, onward_cons]
        · rw [hpath, List.length_cons]
          exact Nat.succ_le_succ hfull

/-! ## Circles -/

/-- A way in circles never ends. -/
theorem Circles.endless (h : g.Circles start) (k : Nat) : ∃ id, g.ahead start k = some id := by
  obtain ⟨n, i, j, -, hij, hi, hj⟩ := h
  -- from the node that is visited twice on, the way repeats itself
  have hround : g.beyond^[j - i] (some n.id) = some n.id := by
    have hagain : g.ahead start (j - i + i) = some n.id := by
      rw [Nat.sub_add_cancel (Nat.le_of_lt hij)]
      exact ahead_of_visited hj
    rw [ahead, Function.iterate_add_apply] at hagain
    have hfirst : g.beyond^[i] start = some n.id := ahead_of_visited hi
    rwa [hfirst] at hagain
  have hrounds : g.ahead start (k * (j - i) + i) = some n.id := by
    have hfirst : g.beyond^[i] start = some n.id := ahead_of_visited hi
    rw [ahead, Function.iterate_add_apply, hfirst, Nat.mul_comm, Function.iterate_mul]
    exact Function.iterate_fixed hround k
  have hfar : k ≤ k * (j - i) + i := by
    have hone : k * 1 ≤ k * (j - i) := Nat.mul_le_mul_left k (by omega)
    omega
  exact ahead_of_le hfar ⟨n.id, hrounds⟩

/-- A way that is longer than there are ids goes in circles. -/
theorem circles_of_ahead {k : Nat} {id : String} (hk : g.ids.card < k)
    (h : g.ahead start k = some id) : g.Circles start := by
  have hvisits : ∀ i < k, ∃ n, g.visited start i = some n ∧ n.isWaypoint = true := by
    intro i hi
    obtain ⟨id, hid⟩ := ahead_of_le (Nat.succ_le_of_lt hi) ⟨id, h⟩
    exact visited_of_ahead hid
  have hids : ∀ i ∈ Finset.range k, (g.ahead start i).getD "" ∈ g.ids := by
    intro i hi
    obtain ⟨n, hn, -⟩ := hvisits i (Finset.mem_range.1 hi)
    rw [ahead_of_visited hn, Option.getD_some]
    exact visited_mem_ids hn
  obtain ⟨i, hi, j, hj, hne, hsame⟩ :=
    Finset.exists_ne_map_eq_of_card_lt_of_maps_to (by rwa [Finset.card_range]) hids
  obtain ⟨n, hn, hwaypoint⟩ := hvisits i (Finset.mem_range.1 hi)
  obtain ⟨m, hm, -⟩ := hvisits j (Finset.mem_range.1 hj)
  -- both visits are to the one node that is found under the id
  have hnode : g.visited start j = some n := by
    rw [ahead_of_visited hn, ahead_of_visited hm, Option.getD_some, Option.getD_some] at hsame
    rw [visited, ahead_of_visited hm, ← hsame, ← ahead_of_visited hn]
    exact hn
  rcases Nat.lt_or_gt_of_ne hne with hlt | hgt
  · exact ⟨n, i, j, hwaypoint, hlt, hn, hnode⟩
  · exact ⟨n, j, i, hwaypoint, hgt, hnode, hn⟩

/-! ## Runs in circles -/

/-- **Only circles are cut.** A run that refuses no answer goes on in some way. If it may visit more
nodes than the graph has ids, it is stopped for its length just when that way goes in circles, and
one that does is stopped for its length under any limit. -/
theorem run_cut_iff_circles {o : Outcome} (hrun : g.run limit stamp s current incoming = .ok o)
    (htaken : o.retries = []) :
    (∃ way, g.GoesOn s current incoming way) ∧
      ∀ way, g.GoesOn s current incoming way →
        ((g.ids.card : Int) < limit → (o.isCut = true ↔ g.Circles way.start)) ∧
        (g.Circles way.start → ∀ limit' : Int, ∃ o',
          g.run limit' stamp s current incoming = .ok o' ∧ o'.retries = [] ∧ o'.isCut = true) := by
  have hcut : ∀ way, g.GoesOn s current incoming way → ∀ limit : Int,
      ((g.image limit stamp s current way).isCut = true ↔
        ∃ id, g.ahead way.start limit.toNat = some id) :=
    fun way hway limit => hway.isCut_image.trans (cutShort_path_iff limit.toNat way.start)
  refine ⟨?_, fun way hway => ⟨fun hlimit => ?_, fun hcircles limit' => ?_⟩⟩
  · rcases run_cases hrun with ⟨way, hway, -⟩ | hrefuses
    · exact ⟨way, hway⟩
    · exact absurd htaken hrefuses.retries_ne_nil
  · obtain rfl : g.image limit stamp s current way = o := Except.ok.inj (hway.run.symm.trans hrun)
    rw [hcut way hway limit]
    constructor
    · rintro ⟨id, hid⟩
      exact circles_of_ahead (by omega) hid
    · exact fun hcircles => hcircles.endless limit.toNat
  · refine ⟨g.image limit' stamp s current way, hway.run, rfl, ?_⟩
    exact (hcut way hway limit').2 (hcircles.endless limit'.toNat)

/-- A message that leads to itself is passed until the limit is met, and be it none. -/
theorem echo_circles :
    ∃ o, echoing.run 5 "now" {} none .opening = .ok o ∧ o.retries = [] ∧
      (echoing.ids.card : Int) < 5 ∧ echoing.Circles (some "again") ∧ o.isCut = true ∧
      ∃ o', echoing.run (-1) "now" {} none .opening = .ok o' ∧ o'.isCut = true := by
  have hrun : ∃ o, echoing.run 5 "now" {} none .opening = .ok o ∧ o.retries = [] := ⟨_, rfl, rfl⟩
  obtain ⟨o, hrun, htaken⟩ := hrun
  have hids : (echoing.ids.card : Int) < 5 := by decide
  have hcircles : echoing.Circles (some "again") := ⟨_, 0, 1, rfl, Nat.zero_lt_one, rfl, rfl⟩
  obtain ⟨hfew, hany⟩ := (run_cut_iff_circles hrun htaken).2 _ .opening
  obtain ⟨o', hrun', -, hcut'⟩ := hany hcircles (-1)
  exact ⟨o, hrun, htaken, hids, hcircles, (hfew hids).2 hcircles, o', hrun', hcut'⟩

/-- The limit has to be larger than the number of ids: a message that leads nowhere is no circle, and
a run that may visit it alone does not get to see that. -/
example :
    let g : Graph :=
      { echoing with nodes := [⟨"again", @NodeBody.message {} "Again" (some "gone") []⟩] }
    (g.run 1 "now" {} none .opening).toOption.map Outcome.isCut = some true ∧
      (g.run 2 "now" {} none .opening).toOption.map Outcome.isCut = some false := by
  decide

end Graph

end FrontDesk
