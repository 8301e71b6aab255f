/-
The texts that a pattern describes.

The matcher tries one way after the other and gives back what it has taken when the rest of a match
fails. Of a plain pattern (characters, sequences, alternatives, greedy repetitions) none of this is
seen in whether there is a match: it describes certain texts (`Describes`), and the matcher goes on
after each of those with which what is left of the text begins (`run_reads`). So a search for plain
patterns between both ends of a line finds just the texts that they describe (`search_line`).
-/
import FrontDesk.Pattern.Matcher
import Mathlib.Data.List.Infix

namespace FrontDesk.Pattern

/-- Characters, sequences, alternatives and greedy repetitions. -/
def isPlain : Pattern → Bool
  | empty | code _ | notCode _ | any | charSet .. => true
  | seq p q | alt p q => p.isPlain && q.isPlain
  | repeated mode lo hi p => mode == .greedy && hi.all (lo ≤ ·) && p.isPlain
  | _ => false

/-- A text of one kind, and after it one of another. -/
def Joined (first second : List Nat → Prop) (cs : List Nat) : Prop :=
  ∃ before after, cs = before ++ after ∧ first before ∧ second after

/-- Texts of one kind one after the other, as many as allowed. -/
def Times (piece : List Nat → Prop) (lo : Nat) (hi : Option Nat) (cs : List Nat) : Prop :=
  ∃ pieces : List (List Nat), cs = pieces.flatten ∧ (∀ x ∈ pieces, piece x) ∧
    lo ≤ pieces.length ∧ ∀ most ∈ hi, pieces.length ≤ most

/-- The texts that a plain pattern describes. -/
def Describes (f : Flags) : Pattern → List Nat → Prop
  | empty, cs => cs = []
  | seq p q, cs => Joined (p.Describes f) (q.Describes f) cs
  | alt p q, cs => p.Describes f cs ∨ q.Describes f cs
  | repeated _ lo hi p, cs => Times (p.Describes f) lo hi cs
  | p, cs => ∃ c, cs = [c] ∧ takes f p c = true

/-- The place so many characters further on. -/
def Place.skip (here : Place) (n : Nat) : Place := { here with pos := here.pos + n }

@[simp] theorem Place.skip_pos (here : Place) (n : Nat) : (here.skip n).pos = here.pos + n := rfl

@[simp] theorem Place.skip_skip (here : Place) (m n : Nat) :
    (here.skip m).skip n = here.skip (m + n) := by
  simp only [Place.skip, Nat.add_assoc]

/-! ## What is left of a text -/

theorem append_prefix_drop {before after cs : List Nat} {n : Nat} :
    before ++ after <+: cs.drop n ↔
      before <+: cs.drop n ∧ after <+: cs.drop (n + before.length) := by
  constructor
  · intro h
    refine ⟨(List.prefix_append before after).trans h, ?_⟩
    obtain ⟨rest, hrest⟩ := h
    rw [← List.drop_drop, ← hrest, List.append_assoc, List.drop_left]
    exact List.prefix_append after rest
  · rintro ⟨⟨rest, hrest⟩, hafter⟩
    rw [← List.drop_drop, ← hrest, List.drop_left] at hafter
    rw [← hrest]
    exact (List.prefix_append_right_inj before).2 hafter

theorem singleton_prefix_drop {c n : Nat} {cs : List Nat} :
    [c] <+: cs.drop n ↔ cs[n]? = some c := by
  rw [← List.head?_drop]
  cases cs.drop n with
  | nil => simp
  | cons d rest => simp [eq_comm]

theorem length_le_of_prefix_drop {cs : List Nat} {text : Array Nat} {n : Nat}
    (h : cs <+: text.toList.drop n) : cs.length ≤ text.size - n := by
  have hle := h.length_le
  rwa [List.length_drop, Array.length_toList] at hle

theorem length_le_length_flatten {pieces : List (List Nat)} (h : ∀ x ∈ pieces, x ≠ []) :
    pieces.length ≤ pieces.flatten.length := by
  induction pieces with
  | nil => exact Nat.le_refl 0
  | cons x rest ih =>
    obtain ⟨hne, hrest⟩ := List.forall_mem_cons.1 h
    have hpos := List.length_pos_iff.2 hne
    have hle := ih hrest
    rw [List.flatten_cons, List.length_append, List.length_cons]
    omega

/-! ## What the parts of a matcher read -/

/-- The matcher succeeds just if it can go on after a text of the kind, with which what is left
begins. -/
def Reads (text : Array Nat) (matcher : Rest → Rest) (kind : List Nat → Prop) : Prop :=
  ∀ k here, (matcher k here).isSome = true ↔
    ∃ cs, cs <+: text.toList.drop here.pos ∧ kind cs ∧ (k (here.skip cs.length)).isSome = true

namespace Reads

variable {text : Array Nat} {first second body : Rest → Rest} {kind kind' : List Nat → Prop}

theorem congr (h : Reads text body kind) (hkind : ∀ cs, kind cs ↔ kind' cs) :
    Reads text body kind' := by
  obtain rfl : kind = kind' := funext fun cs => propext (hkind cs)
  exact h

theorem seq (hfirst : Reads text first kind) (hsecond : Reads text second kind') :
    Reads text (fun k => first (second k)) (Joined kind kind') := by
  intro k here
  rw [hfirst]
  constructor
  · rintro ⟨before, hbefore, hkind, hgo⟩
    obtain ⟨after, hafter, hkind', hgo⟩ := (hsecond _ _).1 hgo
    refine ⟨before ++ after, append_prefix_drop.2 ⟨hbefore, hafter⟩,
      ⟨before, after, rfl, hkind, hkind'⟩, ?_⟩
    rwa [Place.skip_skip, ← List.length_append] at hgo
  · rintro ⟨_, hhere, ⟨before, after, rfl, hkind, hkind'⟩, hgo⟩
    obtain ⟨hbefore, hafter⟩ := append_prefix_drop.1 hhere
    refine ⟨before, hbefore, hkind, (hsecond _ _).2 ⟨after, hafter, hkind', ?_⟩⟩
    rwa [Place.skip_skip, ← List.length_append]

theorem alt (hfirst : Reads text first kind) (hsecond : Reads text second kind') :
    Reads text (fun k here => match first k here with
      | some r => some r
      | none => second k here) (fun cs => kind cs ∨ kind' cs) := by
  intro k here
  have heither : (match first k here with
      | some r => some r
      | none => second k here).isSome = true ↔
      (first k here).isSome = true ∨ (second k here).isSome = true := by
    cases first k here <;> simp
  rw [heither, hfirst, hsecond]
  constructor
  · rintro (⟨cs, hhere, hkind, hgo⟩ | ⟨cs, hhere, hkind, hgo⟩)
    · exact ⟨cs, hhere, .inl hkind, hgo⟩
    · exact ⟨cs, hhere, .inr hkind, hgo⟩
  · rintro ⟨cs, hhere, hkind | hkind, hgo⟩
    · exact .inl ⟨cs, hhere, hkind, hgo⟩
    · exact .inr ⟨cs, hhere, hkind, hgo⟩

/-! ### Repeating one character -/

theorem le_countTaken {takes : Nat → Bool} {pos limit n : Nat} :
    n ≤ countTaken text takes pos limit ↔
      n ≤ limit ∧ ∃ cs, cs <+: text.toList.drop pos ∧ cs.length = n ∧ ∀ c ∈ cs, takes c = true := by
  induction limit generalizing pos n with
  | zero =>
    rw [countTaken]
    refine ⟨fun h => ⟨h, [], List.nil_prefix, by simp; omega, by simp⟩, fun h => h.1⟩
  | succ limit ih =>
    cases n with
    | zero => exact ⟨fun _ => ⟨by omega, [], List.nil_prefix, rfl, by simp⟩, fun _ => by omega⟩
    | succ n =>
      have hcount : n + 1 ≤ countTaken text takes pos (limit + 1) ↔
          ∃ c, text.toList[pos]? = some c ∧ takes c = true ∧
            n ≤ countTaken text takes (pos + 1) limit := by
        rw [countTaken, Array.getElem?_toList]
        cases text[pos]? with
        | none => simp
        | some c => cases htakes : takes c <;> simp [htakes]
      rw [hcount]
      constructor
      · rintro ⟨c, hc, htakes, hrest⟩
        obtain ⟨hn, cs, hhere, hlength, hall⟩ := ih.1 hrest
        refine ⟨by omega, c :: cs, ?_, by simp [hlength], by simpa [htakes] using hall⟩
        exact append_prefix_drop.2 ⟨singleton_prefix_drop.2 hc, hhere⟩
      · rintro ⟨hn, cs, hhere, hlength, hall⟩
        cases cs with
        | nil => simp at hlength
        | cons c cs =>
          rw [← List.singleton_append] at hhere
          obtain ⟨hfirst, hrest⟩ := append_prefix_drop.1 hhere
          refine ⟨c, singleton_prefix_drop.1 hfirst, hall c List.mem_cons_self, ih.2 ?_⟩
          exact ⟨by omega, cs, hrest, by simpa using hlength,
            fun d hd => hall d (List.mem_cons_of_mem c hd)⟩

theorem fromMost_isSome {k : Rest} {here : Place} {lo n : Nat} :
    (fromMost k here lo n).isSome = true ↔ ∃ i ≤ n, (k (here.skip (lo + i))).isSome = true := by
  induction n with
  | zero => simp [fromMost, Place.skip]
  | succ n ih =>
    have hsplit : (fromMost k here lo (n + 1)).isSome = true ↔
        (k (here.skip (lo + (n + 1)))).isSome = true ∨ (fromMost k here lo n).isSome = true := by
      rw [fromMost, Place.skip, ← Nat.add_assoc here.pos]
      cases k { here with pos := here.pos + lo + (n + 1) } <;> simp
    rw [hsplit, ih]
    constructor
    · rintro (hgo | ⟨i, hi, hgo⟩)
      · exact ⟨n + 1, Nat.le_refl _, hgo⟩
      · exact ⟨i, by omega, hgo⟩
    · rintro ⟨i, hi, hgo⟩
      rcases Nat.lt_or_eq_of_le hi with hlt | rfl
      · exact .inr ⟨i, by omega, hgo⟩
      · exact .inl hgo

theorem times_one {takes : Nat → Bool} {lo : Nat} {hi : Option Nat} {cs : List Nat} :
    Times (fun cs => ∃ c, cs = [c] ∧ takes c = true) lo hi cs ↔
      (∀ c ∈ cs, takes c = true) ∧ lo ≤ cs.length ∧ ∀ most ∈ hi, cs.length ≤ most := by
  constructor
  · rintro ⟨pieces, rfl, hone, hlo, hhi⟩
    have hlength : pieces.flatten.length = pieces.length := by
      rw [List.length_flatten]
      clear hlo hhi
      induction pieces with
      | nil => rfl
      | cons x rest ih =>
        obtain ⟨c, rfl, -⟩ := hone x List.mem_cons_self
        simp [ih fun y hy => hone y (List.mem_cons_of_mem _ hy), Nat.add_comm]
    rw [hlength]
    refine ⟨fun c hc => ?_, hlo, hhi⟩
    obtain ⟨x, hx, hcx⟩ := List.mem_flatten.1 hc
    obtain ⟨d, rfl, htakes⟩ := hone x hx
    rw [List.mem_singleton.1 hcx]
    exact htakes
  · rintro ⟨hall, hlo, hhi⟩
    refine ⟨cs.map ([·]), (List.flatMap_singleton' cs).symm, fun x hx => ?_, by simpa using hlo,
      by simpa using hhi⟩
    obtain ⟨c, hc, rfl⟩ := List.mem_map.1 hx
    exact ⟨c, rfl, hall c hc⟩

theorem times_optional {piece : List Nat → Prop} {cs : List Nat} :
    Times piece 0 (some 1) cs ↔ cs = [] ∨ piece cs := by
  constructor
  · rintro ⟨pieces, rfl, hall, -, hmost⟩
    match pieces, hmost 1 rfl with
    | [], _ => exact .inl rfl
    | [x], _ => exact .inr (by simpa using hall x)
  · rintro (rfl | hpiece)
    · exact ⟨[], rfl, by simp, by simp, by simp⟩
    · exact ⟨[cs], by simp, by simpa using hpiece, by simp, by simp⟩

theorem repeatUnit (takes : Nat → Bool) (lo : Nat) (hi : Option Nat) :
    Reads text (Pattern.repeatUnit text takes .greedy lo hi)
      (Times (fun cs => ∃ c, cs = [c] ∧ takes c = true) lo hi) := by
  suffices h : Reads text (Pattern.repeatUnit text takes .greedy lo hi) fun cs =>
      (∀ c ∈ cs, takes c = true) ∧ lo ≤ cs.length ∧ ∀ most ∈ hi, cs.length ≤ most from
    h.congr fun _ => times_one.symm
  intro k here
  have hlimit : ∀ n, n ≤ countTaken text takes here.pos
      (min (text.size - here.pos) (hi.getD (text.size - here.pos))) ↔
      (∀ most ∈ hi, n ≤ most) ∧
        ∃ cs, cs <+: text.toList.drop here.pos ∧ cs.length = n ∧ ∀ c ∈ cs, takes c = true := by
    intro n
    rw [le_countTaken]
    constructor
    · rintro ⟨hn, htaken⟩
      refine ⟨?_, htaken⟩
      rintro most ⟨⟩
      exact hn.trans (Nat.min_le_right _ _)
    · rintro ⟨hhi, cs, hhere, rfl, hall⟩
      have hleft := length_le_of_prefix_drop hhere
      refine ⟨Nat.le_min.2 ⟨hleft, ?_⟩, cs, hhere, rfl, hall⟩
      cases hi with
      | none => exact hleft
      | some most => exact hhi most rfl
  unfold Pattern.repeatUnit
  dsimp only
  generalize countTaken text takes here.pos _ = count at hlimit
  constructor
  · intro h
    split at h
    next => cases h
    next hlo =>
      obtain ⟨i, hi', hgo⟩ := fromMost_isSome.1 h
      obtain ⟨hhi, cs, hhere, hlength, hall⟩ := (hlimit (lo + i)).1 (by omega)
      rw [← hlength] at hgo hhi
      exact ⟨cs, hhere, ⟨hall, by omega, hhi⟩, hgo⟩
  · rintro ⟨cs, hhere, ⟨hall, hlo, hhi⟩, hgo⟩
    have hcount := (hlimit cs.length).2 ⟨hhi, cs, hhere, rfl, hall⟩
    rw [if_neg (by omega)]
    refine fromMost_isSome.2 ⟨cs.length - lo, by omega, ?_⟩
    rwa [Nat.add_sub_cancel' hlo]

/-! ### Repeating any part -/

theorem repeatExactly (h : Reads text body kind) (n : Nat) :
    Reads text (fun k => Pattern.repeatExactly body k n) (Times kind n (some n)) := by
  induction n with
  | zero =>
    intro k here
    constructor
    · intro hgo
      exact ⟨[], List.nil_prefix, ⟨[], rfl, by simp, by simp, by simp⟩, hgo⟩
    · rintro ⟨_, -, ⟨pieces, rfl, -, -, hmost⟩, hgo⟩
      obtain rfl : pieces = [] := List.eq_nil_of_length_eq_zero (Nat.le_zero.1 (hmost 0 rfl))
      exact hgo
  | succ n ih =>
    refine (h.seq ih).congr fun cs => ?_
    constructor
    · rintro ⟨x, _, rfl, hx, pieces, rfl, hall, hlo, hhi⟩
      have hhi := hhi n rfl
      exact ⟨x :: pieces, rfl, by simpa [hx] using hall, by simpa using hlo,
        by rintro _ ⟨⟩; simpa using hhi⟩
    · rintro ⟨pieces, rfl, hall, hlo, hhi⟩
      have hhi := hhi (n + 1) rfl
      cases pieces with
      | nil => simp at hlo
      | cons x rest =>
        obtain ⟨hx, hrest⟩ := List.forall_mem_cons.1 hall
        exact ⟨x, rest.flatten, rfl, hx, rest, rfl, hrest, by simpa using hlo,
          by rintro _ ⟨⟩; simpa using hhi⟩

theorem repeatMore_succ {k : Rest} {here : Place} {fuel : Nat} {left last : Option Nat} :
    (Pattern.repeatMore body k (fuel + 1) left last here).isSome = true ↔
      (k here).isSome = true ∨ left ≠ some 0 ∧ last ≠ some here.pos ∧
        (body (Pattern.repeatMore body k fuel (left.map (· - 1)) (some here.pos)) here).isSome
          = true := by
  rw [Pattern.repeatMore]
  by_cases hlast : left = some 0 ∨ last = some here.pos
  · rcases hlast with hlast | hlast <;> simp [hlast]
  · rw [not_or] at hlast
    rw [if_neg (by simpa using hlast)]
    cases body _ here <;> simp [hlast]

/-- What more is taken are further repetitions, no more than are left. -/
theorem times_of_repeatMore (h : Reads text body kind) {k : Rest} {fuel : Nat} {here : Place}
    {left last : Option Nat}
    (hgo : (Pattern.repeatMore body k fuel left last here).isSome = true) :
    ∃ cs, cs <+: text.toList.drop here.pos ∧ Times kind 0 left cs ∧
      (k (here.skip cs.length)).isSome = true := by
  have hnone : ∀ {here : Place} {left : Option Nat}, (k here).isSome = true →
      ∃ cs, cs <+: text.toList.drop here.pos ∧ Times kind 0 left cs ∧
        (k (here.skip cs.length)).isSome = true :=
    fun hgo => ⟨[], List.nil_prefix, ⟨[], rfl, by simp, by simp, by simp⟩, hgo⟩
  induction fuel generalizing here left last with
  | zero => exact hnone hgo
  | succ fuel ih =>
    rcases repeatMore_succ.1 hgo with hgo | ⟨hleft, -, hgo⟩
    · exact hnone hgo
    · obtain ⟨x, hx, hkind, hgo⟩ := (h _ _).1 hgo
      obtain ⟨_, hhere, ⟨pieces, rfl, hall, -, hmost⟩, hgo⟩ := ih hgo
      refine ⟨x ++ pieces.flatten, append_prefix_drop.2 ⟨hx, hhere⟩,
        ⟨x :: pieces, rfl, by simpa [hkind] using hall, Nat.zero_le _, ?_⟩, ?_⟩
      · rintro most ⟨⟩
        have hfewer := hmost (most - 1) rfl
        have hpos : most ≠ 0 := fun hzero => hleft (by rw [hzero])
        rw [List.length_cons]
        omega
      · rwa [Place.skip_skip, ← List.length_append] at hgo

/-- Repetitions that take something are found, if the fuel suffices for them. -/
theorem repeatMore_of_pieces (h : Reads text body kind) {k : Rest} {pieces : List (List Nat)}
    {fuel : Nat} {here : Place} {left last : Option Nat} (hfuel : pieces.length ≤ fuel)
    (hleft : ∀ most ∈ left, pieces.length ≤ most) (hlast : ∀ pos ∈ last, pos < here.pos)
    (hall : ∀ x ∈ pieces, kind x ∧ x ≠ []) (hhere : pieces.flatten <+: text.toList.drop here.pos)
    (hgo : (k (here.skip pieces.flatten.length)).isSome = true) :
    (Pattern.repeatMore body k fuel left last here).isSome = true := by
  induction pieces generalizing fuel here left last with
  | nil =>
    cases fuel with
    | zero => exact hgo
    | succ fuel => exact repeatMore_succ.2 (.inl hgo)
  | cons x rest ih =>
    obtain ⟨⟨hkind, hne⟩, hall⟩ := List.forall_mem_cons.1 hall
    obtain ⟨hx, hhere⟩ := append_prefix_drop.1 hhere
    cases fuel with
    | zero => simp at hfuel
    | succ fuel =>
      refine repeatMore_succ.2 (.inr ⟨?_, ?_, (h _ _).2 ⟨x, hx, hkind, ?_⟩⟩)
      · rintro rfl
        have hzero := hleft 0 rfl
        simp at hzero
      · intro hstill
        exact Nat.lt_irrefl _ (hlast _ hstill)
      · -- the place has moved on, for the repetition took something
        have hmoved := List.length_pos_iff.2 hne
        refine ih (by simpa using hfuel) ?_ ?_ hall hhere ?_
        · intro fewer hfewer
          obtain ⟨most, hmost, rfl⟩ := Option.map_eq_some_iff.1 hfewer
          have := hleft most hmost
          rw [List.length_cons] at this
          omega
        · rintro pos ⟨⟩
          rw [Place.skip_pos]
          omega
        · rwa [Place.skip_skip, ← List.length_append]

/-- Repetitions that took nothing can be left out. -/
theorem repeatMore (h : Reads text body kind) (left : Option Nat) :
    Reads text (fun k => Pattern.repeatMore body k (text.size + 2) left none)
      (Times kind 0 left) := by
  intro k here
  constructor
  · exact times_of_repeatMore h
  · rintro ⟨_, hhere, ⟨pieces, rfl, hall, -, hmost⟩, hgo⟩
    let moving := pieces.filter (!·.isEmpty)
    have hsame : moving.flatten = pieces.flatten := List.flatten_filter_not_isEmpty
    have hfewer : moving.length ≤ pieces.length := List.length_filter_le _ _
    have hmoving : ∀ x ∈ moving, kind x ∧ x ≠ [] := fun x hx => by
      obtain ⟨hmem, hne⟩ := List.mem_filter.1 hx
      exact ⟨hall x hmem, by simpa using hne⟩
    have hsize := length_le_length_flatten fun x hx => (hmoving x hx).2
    rw [← hsame] at hhere hgo
    have hfits := length_le_of_prefix_drop hhere
    exact repeatMore_of_pieces h (by omega)
      (fun most hm => hfewer.trans (hmost most hm)) (by simp) hmoving hhere hgo

theorem repeatBody (h : Reads text body kind) {lo : Nat} {hi : Option Nat}
    (hlo : ∀ most ∈ hi, lo ≤ most) :
    Reads text (Pattern.repeatBody text body .greedy lo hi) (Times kind lo hi) := by
  refine ((h.repeatExactly lo).seq (h.repeatMore (hi.map (· - lo)))).congr fun cs => ?_
  constructor
  · rintro ⟨_, _, rfl, ⟨xs, rfl, hxs, hfew, hmany⟩, ys, rfl, hys, -, hmost⟩
    have hmany := hmany lo rfl
    refine ⟨xs ++ ys, by rw [List.flatten_append], ?_, by rw [List.length_append]; omega, ?_⟩
    · intro x hx
      exact (List.mem_append.1 hx).elim (hxs x) (hys x)
    · rintro most ⟨⟩
      have hleft := hmost (most - lo) rfl
      have := hlo most rfl
      rw [List.length_append]
      omega
  · rintro ⟨pieces, rfl, hall, hfew, hmost⟩
    refine ⟨(pieces.take lo).flatten, (pieces.drop lo).flatten, ?_, ⟨_, rfl, ?_, ?_, ?_⟩,
      _, rfl, ?_, Nat.zero_le _, ?_⟩
    · rw [← List.flatten_append, List.take_append_drop]
    · exact fun x hx => hall x (List.mem_of_mem_take hx)
    · rw [List.length_take]
      omega
    · rintro _ ⟨⟩
      exact List.length_take_le lo pieces
    · exact fun x hx => hall x (List.mem_of_mem_drop hx)
    · rintro _ hleft
      obtain ⟨most, hm, rfl⟩ := Option.map_eq_some_iff.1 hleft
      have := hmost most hm
      rw [List.length_drop]
      omega

end Reads

/-! ## Plain patterns -/

variable {text : Array Nat}

theorem takeOne_reads (f : Flags) (p : Pattern) :
    Reads text (run.takeOne text f p) (fun cs => ∃ c, cs = [c] ∧ takes f p c = true) := by
  intro k here
  have htake : (run.takeOne text f p k here).isSome = true ↔
      ∃ c, text.toList[here.pos]? = some c ∧ takes f p c = true ∧
        (k (here.skip 1)).isSome = true := by
    rw [run.takeOne, Array.getElem?_toList]
    cases text[here.pos]? with
    | none => simp
    | some c => cases htakes : takes f p c <;> simp [htakes, Place.skip]
  rw [htake]
  constructor
  · rintro ⟨c, hc, htakes, hgo⟩
    exact ⟨[c], singleton_prefix_drop.2 hc, ⟨c, rfl, htakes⟩, hgo⟩
  · rintro ⟨_, hhere, ⟨c, rfl, htakes⟩, hgo⟩
    exact ⟨c, singleton_prefix_drop.1 hhere, htakes, hgo⟩

/-- One character is described by what takes it. -/
theorem describes_unit {p : Pattern} (h : p.isUnit = true) (f : Flags) :
    p.Describes f = fun cs => ∃ c, cs = [c] ∧ takes f p c = true := by
  cases p <;> first | rfl | cases h

/-- **A plain pattern is matched by the texts that it describes**, in front of any rest of the
match. -/
theorem run_reads {p : Pattern} (h : p.isPlain = true) (f : Flags) :
    Reads text (run text f p) (p.Describes f) := by
  induction p with
  | empty =>
    intro k here
    constructor
    · exact fun hgo => ⟨[], List.nil_prefix, rfl, hgo⟩
    · rintro ⟨_, -, rfl, hgo⟩
      exact hgo
  | code c => exact takeOne_reads f (code c)
  | notCode c => exact takeOne_reads f (notCode c)
  | any => exact takeOne_reads f any
  | charSet negated items => exact takeOne_reads f (charSet negated items)
  | seq p q ihp ihq =>
    rw [isPlain, Bool.and_eq_true] at h
    exact (ihp h.1).seq (ihq h.2)
  | alt p q ihp ihq =>
    rw [isPlain, Bool.and_eq_true] at h
    exact (ihp h.1).alt (ihq h.2)
  | repeated mode lo hi p ih =>
    simp only [isPlain, Bool.and_eq_true, beq_iff_eq, Option.all_eq_true, decide_eq_true_eq] at h
    obtain ⟨⟨rfl, hlo⟩, hp⟩ := h
    by_cases hunit : p.isUnit = true
    · have hrun : run text f (repeated .greedy lo hi p) =
          repeatUnit text (takes f p) .greedy lo hi := by
        funext k here
        rw [run, if_pos hunit]
      rw [hrun]
      change Reads text _ (Times (p.Describes f) lo hi)
      rw [describes_unit hunit]
      exact Reads.repeatUnit (takes f p) lo hi
    · have hrun : run text f (repeated .greedy lo hi p) =
          repeatBody text (run text f p) .greedy lo hi := by
        funext k here
        rw [run, if_neg hunit]
      rw [hrun]
      exact (ih hp).repeatBody hlo
  | _ => cases h

/-! ## Between both ends of a line -/

theorem seqAll_cons {p : Pattern} {ps : List Pattern} (h : ps ≠ []) :
    seqAll (p :: ps) = seq p (seqAll ps) := by
  cases ps with
  | nil => exact absurd rfl h
  | cons q rest => rfl

theorem isPlain_seqAll {ps : List Pattern} (h : ∀ p ∈ ps, p.isPlain = true) :
    (seqAll ps).isPlain = true := by
  induction ps with
  | nil => rfl
  | cons p rest ih =>
    obtain ⟨hp, hrest⟩ := List.forall_mem_cons.1 h
    by_cases hnone : rest = []
    · rw [hnone]
      exact hp
    · rw [seqAll_cons hnone, isPlain, hp, ih hrest]
      rfl

/-- Of patterns in a row, the later ones are the rest of the match of the earlier ones. -/
theorem run_seqAll_append (f : Flags) (ps : List Pattern) {qs : List Pattern} (hqs : qs ≠ [])
    (k : Rest) :
    run text f (seqAll (ps ++ qs)) k = run text f (seqAll ps) (run text f (seqAll qs) k) := by
  induction ps with
  | nil => rfl
  | cons p rest ih =>
    have hwhole : seqAll (p :: rest ++ qs) = seq p (seqAll (rest ++ qs)) :=
      seqAll_cons (List.append_ne_nil_of_right_ne_nil rest hqs)
    have hseq : ∀ q k, run text f (seq p q) k = run text f p (run text f q k) :=
      fun q k => by funext here; rw [run]
    rw [hwhole, hseq, ih]
    by_cases hnone : rest = []
    · rw [hnone]
      rfl
    · rw [seqAll_cons hnone, hseq]

theorem run_anchor (f : Flags) (a : Anchor) (k : Rest) (here : Place) :
    run text f (anchor a) k here = if a.holds text f here.pos then k here else none := by
  rw [run]

theorem holds_lineEnd (hend : text.toList.getLast? ≠ some 0x0A) (pos : Nat) :
    Anchor.lineEnd.holds text {} pos = true ↔ pos = text.size := by
  have hlast : text[pos]? = some 0x0A → pos + 1 ≠ text.size := by
    intro hnewline hsize
    rw [List.getLast?_eq_getElem?, Array.length_toList, Array.getElem?_toList, ← hsize,
      Nat.add_sub_cancel] at hend
    exact hend hnewline
  simp only [Anchor.holds, Bool.false_or, Bool.or_eq_true, beq_iff_eq, Bool.and_eq_true]
  exact ⟨fun h => h.elim id fun ⟨hnewline, hsize⟩ => absurd hsize (hlast hnewline), .inl⟩

/-- **Plain patterns between both ends of a line are found just where they describe the whole
text**, if it does not end in a new line. -/
theorem search_line {ps : List Pattern} (hplain : ∀ p ∈ ps, p.isPlain = true) {s : String}
    (hend : s.toList.getLast? ≠ some '\n') :
    Compiled.search ⟨seqAll (anchor .lineStart :: (ps ++ [anchor .lineEnd])), {}, 0⟩ s = true ↔
      (seqAll ps).Describes {} (s.toList.map Char.toNat) := by
  let text := (s.toList.map Char.toNat).toArray
  have hend' : text.toList.getLast? ≠ some 0x0A := by
    intro hlast
    rw [List.getLast?_map] at hlast
    obtain ⟨c, hc, hcode⟩ := Option.map_eq_some_iff.1 hlast
    exact hend (hc.trans (congrArg some (Char.toNat_inj.1 hcode)))
  have hline : seqAll (anchor .lineStart :: (ps ++ [anchor .lineEnd])) =
      seq (anchor .lineStart) (seqAll (ps ++ [anchor .lineEnd])) :=
    seqAll_cons (List.append_ne_nil_of_right_ne_nil ps (List.cons_ne_nil _ []))
  -- the search has to begin where the text does
  have hsearch : Compiled.search ⟨seqAll (anchor .lineStart :: (ps ++ [anchor .lineEnd])), {}, 0⟩ s
        = true ↔
      (run text {} (seqAll ps) (run text {} (anchor .lineEnd) some) ⟨0, #[]⟩).isSome = true := by
    have hrun : ∀ pos,
        (run text {} (seq (anchor .lineStart) (seqAll (ps ++ [anchor .lineEnd]))) some
          ⟨pos, #[]⟩).isSome = true ↔
        pos = 0 ∧ (run text {} (seqAll ps) (run text {} (anchor .lineEnd) some)
          ⟨0, #[]⟩).isSome = true := by
      intro pos
      have hrow : run text {} (seqAll (ps ++ [anchor .lineEnd])) some =
          run text {} (seqAll ps) (run text {} (anchor .lineEnd) some) :=
        run_seqAll_append {} ps (List.cons_ne_nil _ []) some
      rw [run, hrow, run_anchor]
      cases pos <;> simp [Anchor.holds]
    rw [hline, Compiled.search]
    simp only [Compiled.tries, leadingSet, Bool.true_and, List.any_eq_true, List.mem_range]
    constructor
    · rintro ⟨pos, -, hpos⟩
      exact ((hrun pos).1 hpos).2
    · exact fun h => ⟨0, Nat.succ_pos _, (hrun 0).2 ⟨rfl, h⟩⟩
  have hgo : ∀ here : Place, (run text {} (anchor .lineEnd) some here).isSome = true ↔
      here.pos = text.size := by
    intro here
    rw [← holds_lineEnd hend', run_anchor]
    cases Anchor.lineEnd.holds text {} here.pos <;> simp
  rw [hsearch, run_reads (isPlain_seqAll hplain)]
  simp only [hgo, Place.skip_pos, Nat.zero_add, List.drop_zero]
  constructor
  · rintro ⟨cs, hhere, hkind, hlength⟩
    rwa [hhere.eq_of_length hlength] at hkind
  · exact fun hkind => ⟨_, List.prefix_rfl, hkind, rfl⟩

end FrontDesk.Pattern
