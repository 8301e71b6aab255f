/-
Lines at a counter.

Lines are opened, forgotten and opened again, but all the calls about a ticket that have not left
stand in one line, and nobody else does (`Counter.Lined`). So an event does one of few things to the
calls about a ticket (`Counter.Happens`): one of them comes in behind the others, or the first makes
a request, or the first leaves. Of two of them the later has not begun before the earlier has come
to its end (`Counter.none_overlap`).
-/
import FrontDesk.Service.Counter
import Mathlib.Data.List.Basic

namespace FrontDesk

variable {α : Type}

namespace Counter

/-- The calls in the line of a ticket, the first of them at its head. -/
def queue (c : Counter α) (ticket : String) : List Nat :=
  ((c.lineOf.find? ticket).bind (c.lines[·]?)).getD []

/-- Who stands in a line stands in that of its ticket, in the order of arrival. No two tickets have
the same line. -/
structure Lined (c : Counter α) : Prop where
  lines : ∀ ticket k, c.lineOf.find? ticket = some k → k < c.lines.length
  apart : ∀ ticket ticket' k, c.lineOf.find? ticket = some k → c.lineOf.find? ticket' = some k →
    ticket = ticket'
  stands : ∀ (k : Nat) (l : List Nat) n, c.lines[k]? = some l → n ∈ l →
    ∃ call, c.calls[n]? = some call ∧ call.line = k ∧ c.lineOf.find? call.ticket = some k
  ordered : ∀ (k : Nat) (l : List Nat), c.lines[k]? = some l → l.Pairwise (· < ·)

theorem queue_of_find? {c : Counter α} {ticket : String} {k : Nat} {l : List Nat}
    (hk : c.lineOf.find? ticket = some k) (hl : c.lines[k]? = some l) : c.queue ticket = l := by
  simp [queue, hk, hl]

theorem queue_of_none {c : Counter α} {ticket : String} (hk : c.lineOf.find? ticket = none) :
    c.queue ticket = [] := by
  simp [queue, hk]

theorem lined_nil : ({} : Counter α).Lined := by
  constructor <;> simp

namespace Lined

variable {c : Counter α} {ticket : String} {n : Nat} {call : Call α}

theorem line_of_mem (h : c.Lined) (hn : n ∈ c.queue ticket) :
    ∃ k l, c.lineOf.find? ticket = some k ∧ c.lines[k]? = some l ∧ c.queue ticket = l := by
  cases hk : c.lineOf.find? ticket with
  | none =>
    rw [queue_of_none hk] at hn
    cases hn
  | some k =>
    have hlt := h.lines ticket k hk
    exact ⟨k, c.lines[k], rfl, List.getElem?_eq_getElem hlt,
      queue_of_find? hk (List.getElem?_eq_getElem hlt)⟩

theorem mem_queue (h : c.Lined) (hn : n ∈ c.queue ticket) :
    ∃ call, c.calls[n]? = some call ∧ call.ticket = ticket := by
  obtain ⟨k, l, hk, hl, hqueue⟩ := h.line_of_mem hn
  rw [hqueue] at hn
  obtain ⟨call, hcall, -, hline⟩ := h.stands k l n hl hn
  exact ⟨call, hcall, h.apart _ _ _ hline hk⟩

theorem queue_ordered (h : c.Lined) (ticket : String) : (c.queue ticket).Pairwise (· < ·) := by
  cases hk : c.lineOf.find? ticket with
  | none => simp [queue_of_none hk]
  | some k =>
    have hl := List.getElem?_eq_getElem (h.lines ticket k hk)
    rw [queue_of_find? hk hl]
    exact h.ordered k _ hl

theorem queue_of_first? (h : c.Lined) (hfirst : c.first? n = some call) :
    ∃ rest, c.lineOf.find? call.ticket = some call.line ∧ c.lines[call.line]? = some (n :: rest) ∧
      c.queue call.ticket = n :: rest := by
  rw [first?, Option.filter_eq_some_iff] at hfirst
  obtain ⟨hcall, hhead⟩ := hfirst
  simp only [beq_iff_eq, Option.bind_eq_some_iff] at hhead
  obtain ⟨l, hl, hn⟩ := hhead
  obtain ⟨rest, rfl⟩ := List.head?_eq_some_iff.1 hn
  obtain ⟨call', hcall', -, hline⟩ := h.stands call.line _ n hl (by simp)
  rw [hcall] at hcall'
  cases hcall'
  exact ⟨rest, hline, hl, queue_of_find? hline hl⟩

/-! ## What events do to lines -/

theorem lineFor (h : c.Lined) (ticket : String) :
    (c.lineFor ticket).2.Lined ∧
      (c.lineFor ticket).2.lineOf.find? ticket = some (c.lineFor ticket).1 ∧
      (c.lineFor ticket).2.calls = c.calls ∧
      ∀ other, (c.lineFor ticket).2.queue other = c.queue other := by
  unfold Counter.lineFor
  cases hk : c.lineOf.find? ticket with
  | some k => exact ⟨h, hk, rfl, fun _ => rfl⟩
  | none =>
    -- the line that is opened has the next number
    have hold {other k} (hfind : c.lineOf.find? other = some k) :
        other ≠ ticket ∧ k < c.lines.length := by
      refine ⟨fun heq => ?_, h.lines other k hfind⟩
      rw [heq, hk] at hfind
      cases hfind
    have hfind (other) : (Entries.put ticket c.lines.length c.lineOf).find? other =
        if other = ticket then some c.lines.length else c.lineOf.find? other :=
      Entries.find?_put _ _ _ _
    have hnew {k : Nat} {l : List Nat} (hl : (c.lines ++ [[]])[k]? = some l) :
        c.lines[k]? = some l ∨ l = [] := by
      rw [List.getElem?_append] at hl
      split at hl
      · exact .inl hl
      · right
        have := List.mem_of_getElem? hl
        simpa using this
    refine ⟨⟨?_, ?_, ?_, ?_⟩, ?_, rfl, ?_⟩
    · intro other k hother
      rw [hfind] at hother
      simp only [List.length_append, List.length_singleton]
      split at hother
      · cases hother
        omega
      · have := (hold hother).2
        omega
    · intro other other' k hother hother'
      rw [hfind] at hother hother'
      split at hother <;> split at hother'
      next h₁ h₂ => rw [h₁, h₂]
      next =>
        cases hother
        exact absurd (hold hother').2 (Nat.lt_irrefl _)
      next =>
        cases hother'
        exact absurd (hold hother).2 (Nat.lt_irrefl _)
      next => exact h.apart _ _ _ hother hother'
    · intro k l n hl hn
      rcases hnew hl with hl | rfl
      · obtain ⟨call, hcall, hline, hcallfind⟩ := h.stands k l n hl hn
        refine ⟨call, hcall, hline, ?_⟩
        rw [hfind, if_neg (hold hcallfind).1]
        exact hcallfind
      · cases hn
    · intro k l hl
      rcases hnew hl with hl | rfl
      · exact h.ordered k l hl
      · exact .nil
    · simp only [hfind, if_pos]
    · intro other
      by_cases hother : other = ticket
      · subst hother
        rw [queue_of_none hk]
        exact queue_of_find? (by rw [hfind, if_pos rfl]) (by simp)
      · cases hfind' : c.lineOf.find? other with
        | none =>
          rw [queue_of_none hfind', queue_of_none (by rw [hfind, if_neg hother, hfind'])]
        | some k =>
          have hlt := (hold hfind').2
          have hl : (c.lines ++ [[]])[k]? = c.lines[k]? := List.getElem?_append_left hlt
          rw [queue_of_find? hfind' (List.getElem?_eq_getElem hlt)]
          exact queue_of_find? (by rw [hfind, if_neg hother, hfind'])
            (hl.trans (List.getElem?_eq_getElem hlt))

theorem queue_modify (h : c.Lined) {k : Nat} (hk : c.lineOf.find? ticket = some k)
    (f : List Nat → List Nat) (calls : List (Call α)) (other : String) :
    ({ c with calls, lines := c.lines.modify k f } : Counter α).queue other =
      if other = ticket then f (c.queue other) else c.queue other := by
  cases hother : c.lineOf.find? other with
  | none =>
    have hne : other ≠ ticket := by
      rintro rfl
      rw [hk] at hother
      cases hother
    rw [if_neg hne, queue_of_none hother]
    exact queue_of_none hother
  | some k' =>
    have hl := List.getElem?_eq_getElem (h.lines other k' hother)
    rw [queue_of_find? hother hl]
    split
    next heq =>
      subst heq
      rw [hk] at hother
      cases hother
      exact queue_of_find? hk (by simp [hl])
    next hne =>
      have hkk : k ≠ k' := by
        rintro rfl
        exact hne (h.apart _ _ _ hother hk)
      exact queue_of_find? hother (by simp [hkk, hl])

/-- Lines stay lines when one of them changes and calls go on. -/
theorem modify (h : c.Lined) {k : Nat} (hk : c.lineOf.find? ticket = some k)
    (f : List Nat → List Nat) (calls : List (Call α))
    (hcalls : ∀ (n : Nat) (call : Call α), c.calls[n]? = some call →
      ∃ call' : Call α, calls[n]? = some call' ∧ call'.line = call.line ∧
        call'.ticket = call.ticket)
    (hmem : ∀ l n, c.lines[k]? = some l → n ∈ f l →
      n ∈ l ∨ ∃ call : Call α, calls[n]? = some call ∧ call.line = k ∧ call.ticket = ticket)
    (hordered : ∀ l, c.lines[k]? = some l → (f l).Pairwise (· < ·)) :
    ({ c with calls, lines := c.lines.modify k f } : Counter α).Lined := by
  have hstands {k' : Nat} {l : List Nat} {n : Nat} (hl : c.lines[k']? = some l) (hn : n ∈ l) :
      ∃ call, calls[n]? = some call ∧ call.line = k' ∧
        c.lineOf.find? call.ticket = some k' := by
    obtain ⟨call, hcall, hline, hfind⟩ := h.stands k' l n hl hn
    obtain ⟨call', hcall', hline', hticket⟩ := hcalls n call hcall
    exact ⟨call', hcall', hline'.trans hline, by rw [hticket, hfind]⟩
  have hlines {k' : Nat} {l : List Nat} (hl : (c.lines.modify k f)[k']? = some l) :
      c.lines[k']? = some l ∨ k' = k ∧ ∃ l₀, c.lines[k]? = some l₀ ∧ l = f l₀ := by
    rw [List.getElem?_modify] at hl
    obtain ⟨l₀, hl₀, heq⟩ := Option.map_eq_some_iff.1 hl
    split at heq
    next hkk =>
      subst hkk
      exact .inr ⟨rfl, l₀, hl₀, heq.symm⟩
    next =>
      cases heq
      exact .inl hl₀
  refine ⟨fun other k' hk' => ?_, h.apart, fun k' l n hl hn => ?_, fun k' l hl => ?_⟩
  · simpa using h.lines other k' hk'
  · rcases hlines hl with hl | ⟨rfl, l₀, hl₀, rfl⟩
    · exact hstands hl hn
    · rcases hmem l₀ n hl₀ hn with hn | ⟨call, hcall, hline, rfl⟩
      · exact hstands hl₀ hn
      · exact ⟨call, hcall, hline, hk⟩
  · rcases hlines hl with hl | ⟨rfl, l₀, hl₀, rfl⟩
    · exact h.ordered k' l hl
    · exact hordered l₀ hl₀

theorem arrive (h : c.Lined) (ticket : String) (job : Job α) :
    (c.arrive ticket job).Lined ∧
      (∃ k, (c.arrive ticket job).calls = c.calls ++ [⟨ticket, k, job⟩]) ∧
      ∀ other, (c.arrive ticket job).queue other =
        c.queue other ++ if other = ticket then [c.calls.length] else [] := by
  obtain ⟨h', hk, hcalls, hqueue⟩ := h.lineFor ticket
  unfold Counter.arrive
  generalize c.lineFor ticket = kc at h' hk hcalls hqueue
  obtain ⟨k, c'⟩ := kc
  simp only at h' hk hcalls hqueue ⊢
  rw [← hcalls]
  refine ⟨h'.modify hk _ _ ?_ ?_ ?_, ⟨k, rfl⟩, fun other => ?_⟩
  · intro n call hcall
    have hlt : n < c'.calls.length := (List.getElem?_eq_some_iff.1 hcall).1
    exact ⟨call, by rw [List.getElem?_append_left hlt, hcall], rfl, rfl⟩
  · intro l n hl hn
    rcases List.mem_append.1 hn with hn | hn
    · exact .inl hn
    · rw [List.mem_singleton.1 hn]
      exact .inr ⟨⟨ticket, k, job⟩, by simp, rfl, rfl⟩
  · intro l hl
    -- who came before has a smaller number
    refine List.pairwise_append.2 ⟨h'.ordered k l hl, by simp, fun m hm n hn => ?_⟩
    rw [List.mem_singleton.1 hn]
    obtain ⟨call, hcall, -⟩ := h'.stands k l m hl hm
    exact (List.getElem?_eq_some_iff.1 hcall).1
  · rw [h'.queue_modify hk, hqueue]
    split <;> simp

theorem goOn (h : c.Lined) (hfirst : c.first? n = some call) (job : Job α) :
    (c.goOn n job).Lined := by
  obtain ⟨rest, hk, -⟩ := h.queue_of_first? hfirst
  have hmodify := h.modify hk id (c.calls.modify n ({ · with left := job })) ?_
    (fun l m _ hm => .inl hm) (fun l hl => h.ordered _ l hl)
  · simpa [Counter.goOn] using hmodify
  · intro m call' hcall'
    rw [List.getElem?_modify, hcall']
    split
    · exact ⟨_, rfl, rfl, rfl⟩
    · exact ⟨_, rfl, rfl, rfl⟩

theorem leave (h : c.Lined) (hfirst : c.first? n = some call) :
    (c.leave call.line).Lined ∧
      ∀ other, (c.leave call.line).queue other =
        if other = call.ticket then (c.queue other).tail else c.queue other := by
  obtain ⟨rest, hk, -⟩ := h.queue_of_first? hfirst
  refine ⟨h.modify hk List.tail c.calls (fun m call' hcall' => ?_)
    (fun l m _ hm => .inl (List.mem_of_mem_tail hm)) (fun l hl => ?_), h.queue_modify hk _ _⟩
  · exact ⟨call', hcall', rfl, rfl⟩
  · exact (h.ordered _ l hl).sublist (List.tail_sublist l)

theorem forget (h : c.Lined) (ticket : String) :
    (c.forget ticket).Lined ∧ (c.forget ticket).calls = c.calls ∧
      ∀ other, (c.forget ticket).queue other = c.queue other := by
  unfold Counter.forget
  split
  next hempty =>
    -- nobody stands in the line that is forgotten
    obtain ⟨k, hk, hl⟩ := Option.bind_eq_some_iff.1 hempty
    have hfind (other) : (c.lineOf.remove ticket).find? other =
        if other = ticket then none else c.lineOf.find? other := Entries.find?_remove _ _ _
    have hkept {other k'} (hother : (c.lineOf.remove ticket).find? other = some k') :
        c.lineOf.find? other = some k' := by
      rw [hfind] at hother
      split at hother
      · cases hother
      · exact hother
    refine ⟨⟨fun other k' h' => h.lines other k' (hkept h'),
      fun a b k' ha hb => h.apart a b k' (hkept ha) (hkept hb), fun k' l n hl' hn => ?_,
      h.ordered⟩, rfl, fun other => ?_⟩
    · obtain ⟨call, hcall, hline, hcallfind⟩ := h.stands k' l n hl' hn
      refine ⟨call, hcall, hline, ?_⟩
      rw [hfind, if_neg]
      · exact hcallfind
      · intro heq
        rw [heq, hk] at hcallfind
        cases hcallfind
        rw [hl] at hl'
        cases hl'
        cases hn
    · by_cases hother : other = ticket
      · subst hother
        rw [queue_of_none (by rw [hfind, if_pos rfl]), queue_of_find? hk hl]
      · simp only [queue, hfind, if_neg hother]
  next => exact ⟨h, rfl, fun _ => rfl⟩

end Lined

/-! ## What can happen -/

/-- What an event does to the calls of a counter and to the world. -/
inductive Happens (c : Counter α) (w : World) : Event α → Counter α → World → Prop where
  | arrives {ticket : String} {job : Job α} {c' : Counter α} {k : Nat}
      (calls : c'.calls = c.calls ++ [⟨ticket, k, job⟩])
      (queue : ∀ other, c'.queue other =
        c.queue other ++ if other = ticket then [c.calls.length] else []) :
      Happens c w (.arrive ticket job) c' w
  | asks {n : Nat} {call : Call α} {r : Service.Request}
      {next : Except Service.Failure r.Answer → Job α} {rest : List Nat} {c' : Counter α}
      (first : c.first? n = some call) (left : call.left = .ask r next)
      (head : c.queue call.ticket = n :: rest)
      (calls : c'.calls = c.calls.modify n ({ · with left := next (w.answer r).1 }))
      (queue : ∀ other, c'.queue other = c.queue other) :
      Happens c w (.turn n) c' (w.answer r).2
  | leaves {n : Nat} {call : Call α} {rest : List Nat} {c' : Counter α}
      (first : c.first? n = some call) (left : call.left.result?.isSome = true)
      (head : c.queue call.ticket = n :: rest) (calls : c'.calls = c.calls)
      (queue : ∀ other, c'.queue other = if other = call.ticket then rest else c.queue other) :
      Happens c w (.turn n) c' w
  | waits {n : Nat} (first : c.first? n = none) : Happens c w (.turn n) c w
  | forgets {ticket : String} {c' : Counter α} (calls : c'.calls = c.calls)
      (queue : ∀ other, c'.queue other = c.queue other) : Happens c w (.forget ticket) c' w

/-- **One of these things happens**, and lines stay lines. -/
theorem Lined.after {c : Counter α} (h : c.Lined) (w : World) (e : Event α) :
    (c.after w e).1.Lined ∧ c.Happens w e (c.after w e).1 (c.after w e).2 := by
  cases e with
  | arrive ticket job =>
    obtain ⟨hlined, ⟨k, hcalls⟩, hqueue⟩ := h.arrive ticket job
    exact ⟨hlined, .arrives hcalls hqueue⟩
  | forget ticket =>
    obtain ⟨hlined, hcalls, hqueue⟩ := h.forget ticket
    exact ⟨hlined, .forgets hcalls hqueue⟩
  | turn n =>
    cases hfirst : c.first? n with
    | none =>
      simp only [Counter.after, turn_eq_self hfirst]
      exact ⟨h, .waits hfirst⟩
    | some call =>
      obtain ⟨rest, -, -, hhead⟩ := h.queue_of_first? hfirst
      obtain ⟨hlined, hqueue⟩ := h.leave hfirst
      have hqueue' (other) : (c.leave call.line).queue other =
          if other = call.ticket then rest else c.queue other := by
        rw [hqueue]
        split
        next heq => rw [heq, hhead, List.tail_cons]
        next => rfl
      cases hleft : call.left with
      | ask r next =>
        simp only [Counter.after, turn, hfirst, hleft]
        exact ⟨h.goOn hfirst _, .asks hfirst hleft hhead rfl fun _ => rfl⟩
      | done a =>
        simp only [Counter.after, turn, hfirst, hleft]
        exact ⟨hlined, .leaves hfirst (by simp [hleft, Job.result?]) hhead rfl hqueue'⟩
      | failed e =>
        simp only [Counter.after, turn, hfirst, hleft]
        exact ⟨hlined, .leaves hfirst (by simp [hleft, Job.result?]) hhead rfl hqueue'⟩

/-! ## What is left to do about a ticket -/

/-- What is left to do about a ticket, call by call. -/
def lefts (c : Counter α) (ticket : String) : List (Job α) :=
  (c.queue ticket).filterMap fun n => c.calls[n]?.map (·.left)

theorem lefts_congr {c c' : Counter α} {ticket : String} (hqueue : c'.queue ticket = c.queue ticket)
    (hcalls : ∀ n ∈ c.queue ticket, c'.calls[n]? = c.calls[n]?) :
    c'.lefts ticket = c.lefts ticket := by
  rw [lefts, lefts, hqueue]
  exact List.filterMap_congr fun n hn => by rw [hcalls n hn]

theorem lefts_of_queue {c : Counter α} {n : Nat} {call : Call α} {rest : List Nat} {ticket : String}
    (hcall : c.calls[n]? = some call) (hqueue : c.queue ticket = n :: rest) :
    c.lefts ticket = call.left :: rest.filterMap fun n => c.calls[n]?.map (·.left) := by
  simp [lefts, hqueue, hcall]

namespace Lined

variable {c c' : Counter α} {n : Nat} {call : Call α} {rest : List Nat}

theorem lefts_arrives (h : c.Lined) {ticket : String} {job : Job α} {k : Nat}
    (hcalls : c'.calls = c.calls ++ [⟨ticket, k, job⟩])
    (hqueue : ∀ other, c'.queue other =
      c.queue other ++ if other = ticket then [c.calls.length] else []) (other : String) :
    c'.lefts other = c.lefts other ++ if other = ticket then [job] else [] := by
  have hold : ∀ n ∈ c.queue other, c'.calls[n]? = c.calls[n]? := by
    intro n hn
    obtain ⟨call, hcall, -⟩ := h.mem_queue hn
    rw [hcalls, List.getElem?_append_left (List.getElem?_eq_some_iff.1 hcall).1]
  have hlefts : (c.queue other).filterMap (fun n => c'.calls[n]?.map (·.left)) = c.lefts other :=
    List.filterMap_congr fun n hn => by rw [hold n hn]
  rw [Counter.lefts, hqueue, List.filterMap_append, hlefts]
  split <;> simp [hcalls]

theorem lefts_asks (h : c.Lined) {job : Job α} (hcall : c.calls[n]? = some call)
    (hhead : c.queue call.ticket = n :: rest)
    (hcalls : c'.calls = c.calls.modify n ({ · with left := job }))
    (hqueue : ∀ other, c'.queue other = c.queue other) :
    (∃ js, c.lefts call.ticket = call.left :: js ∧ c'.lefts call.ticket = job :: js) ∧
      ∀ other ≠ call.ticket, c'.lefts other = c.lefts other := by
  have hother {m} (hm : m ≠ n) : c'.calls[m]? = c.calls[m]? := by
    rw [hcalls, List.getElem?_modify]
    simp [hm.symm]
  refine ⟨⟨_, lefts_of_queue hcall hhead, ?_⟩, fun other hne => ?_⟩
  · have hcall' : c'.calls[n]? = some { call with left := job } := by
      rw [hcalls, List.getElem?_modify, hcall]
      simp
    have hnew := lefts_of_queue hcall' ((hqueue _).trans hhead)
    rw [hnew]
    congr 1
    refine List.filterMap_congr fun m hm => ?_
    have hlt : n < m := by
      have hordered := h.queue_ordered call.ticket
      rw [hhead] at hordered
      exact List.rel_of_pairwise_cons hordered hm
    rw [hother (by omega)]
  · refine lefts_congr (hqueue other) fun m hm => hother fun heq => ?_
    obtain ⟨call', hcall', hticket⟩ := h.mem_queue hm
    rw [heq, hcall] at hcall'
    cases hcall'
    exact hne hticket.symm

theorem lefts_leaves (hcall : c.calls[n]? = some call) (hhead : c.queue call.ticket = n :: rest)
    (hcalls : c'.calls = c.calls)
    (hqueue : ∀ other, c'.queue other = if other = call.ticket then rest else c.queue other) :
    c.lefts call.ticket = call.left :: c'.lefts call.ticket ∧
      ∀ other ≠ call.ticket, c'.lefts other = c.lefts other := by
  refine ⟨?_, fun other hne => ?_⟩
  · rw [lefts_of_queue hcall hhead, Counter.lefts, hqueue, if_pos rfl, hcalls]
  · exact lefts_congr (by rw [hqueue, if_neg hne]) fun m _ => by rw [hcalls]

end Lined

/-! ## Calls about one ticket do not overlap -/

/-- The ticket and the job of a call that comes in. -/
def Event.arrival? : Event α → Option (String × Job α)
  | .arrive ticket job => some (ticket, job)
  | _ => none

/-- The calls that come in, each as it comes. -/
def arrivals (es : List (Event α)) : List (String × Job α) := es.filterMap Event.arrival?

theorem arrivals_cons (e : Event α) (es : List (Event α)) :
    arrivals (e :: es) = e.arrival?.toList ++ arrivals es := by
  rw [arrivals, arrivals, List.filterMap_cons]
  cases e.arrival? <;> rfl

/-- Who has left a line has a result and was before all that stand in it. Who is not the first in it
has not begun. -/
structure Served (c : Counter α) (arrived : List (String × Job α)) : Prop where
  length : c.calls.length = arrived.length
  gone : ∀ (n : Nat) (call : Call α), c.calls[n]? = some call → n ∉ c.queue call.ticket →
    call.left.result?.isSome = true ∧ ∀ m ∈ c.queue call.ticket, n < m
  waiting : ∀ (n : Nat) (call : Call α), c.calls[n]? = some call →
    n ∈ (c.queue call.ticket).tail → arrived[n]? = some (call.ticket, call.left)

namespace Served

variable {c c' : Counter α} {arrived : List (String × Job α)} {w w' : World}

theorem congr (h : c.Served arrived) (hcalls : c'.calls = c.calls)
    (hqueue : ∀ ticket, c'.queue ticket = c.queue ticket) : c'.Served arrived where
  length := by rw [hcalls, h.length]
  gone n call hcall := by
    rw [hcalls] at hcall
    rw [hqueue]
    exact h.gone n call hcall
  waiting n call hcall := by
    rw [hcalls] at hcall
    rw [hqueue]
    exact h.waiting n call hcall

theorem happens {e : Event α} (hlined : c.Lined) (h : c.Served arrived)
    (hhappens : c.Happens w e c' w') : c'.Served (arrived ++ e.arrival?.toList) := by
  cases hhappens with
  | waits first => simpa [Event.arrival?] using h
  | forgets calls queue => simpa [Event.arrival?] using h.congr calls queue
  | @arrives ticket job _ k calls queue =>
    have hsplit {n : Nat} {call : Call α} (hcall : c'.calls[n]? = some call) :
        c.calls[n]? = some call ∨ n = c.calls.length ∧ call = ⟨ticket, k, job⟩ := by
      have hlt := (List.getElem?_eq_some_iff.1 hcall).1
      rw [calls, List.length_append, List.length_singleton] at hlt
      by_cases hn : n = c.calls.length
      · subst hn
        rw [calls, List.getElem?_concat_length] at hcall
        exact .inr ⟨rfl, (Option.some.inj hcall).symm⟩
      · rw [calls, List.getElem?_append_left (by omega)] at hcall
        exact .inl hcall
    refine ⟨by simp [calls, Event.arrival?, h.length], fun n call hcall hn => ?_,
      fun n call hcall hn => ?_⟩
    · rw [queue] at hn ⊢
      rcases hsplit hcall with hcall | ⟨rfl, rfl⟩
      · obtain ⟨hresult, hlt⟩ := h.gone n call hcall fun hmem => hn (List.mem_append_left _ hmem)
        refine ⟨hresult, fun m hm => ?_⟩
        rcases List.mem_append.1 hm with hm | hm
        · exact hlt m hm
        · have hlen := (List.getElem?_eq_some_iff.1 hcall).1
          split at hm
          · rwa [List.mem_singleton.1 hm]
          · cases hm
      · simp at hn
    · rw [Event.arrival?, Option.toList_some]
      rcases hsplit hcall with hcall | ⟨rfl, rfl⟩
      · -- who came before stands where it stood
        have hlen := (List.getElem?_eq_some_iff.1 hcall).1
        rw [List.getElem?_append_left (by rw [← h.length]; exact hlen)]
        refine h.waiting n call hcall ?_
        rw [queue] at hn
        cases hqueue : c.queue call.ticket with
        | nil =>
          rw [hqueue] at hn
          split at hn <;> simp at hn
        | cons m rest =>
          rw [hqueue, List.cons_append, List.tail_cons] at hn
          rcases List.mem_append.1 hn with hn | hn
          · exact hn
          · split at hn
            · rw [List.mem_singleton.1 hn] at hlen
              exact absurd hlen (Nat.lt_irrefl _)
            · cases hn
      · rw [h.length, List.getElem?_concat_length]
  | @asks n call r next rest _ first left head calls queue =>
    have hcall := getElem?_of_first? first
    have hsplit {m : Nat} {call' : Call α} (hcall' : c'.calls[m]? = some call') :
        (m ≠ n ∧ c.calls[m]? = some call') ∨ m = n ∧ call'.ticket = call.ticket := by
      rw [calls, List.getElem?_modify] at hcall'
      obtain ⟨call₀, hcall₀, heq⟩ := Option.map_eq_some_iff.1 hcall'
      split at heq
      next hnm =>
        subst hnm
        rw [hcall] at hcall₀
        cases hcall₀
        exact .inr ⟨rfl, by rw [← heq]⟩
      next hnm =>
        cases heq
        exact .inl ⟨Ne.symm hnm, hcall₀⟩
    refine ⟨by simp [calls, Event.arrival?, h.length], fun m call' hcall' hm => ?_,
      fun m call' hcall' hm => ?_⟩
    · rw [queue] at hm ⊢
      rcases hsplit hcall' with ⟨-, hcall'⟩ | ⟨rfl, hticket⟩
      · exact h.gone m call' hcall' hm
      · rw [hticket, head] at hm
        simp at hm
    · rw [queue] at hm
      rw [show (Event.turn n : Event α).arrival? = none from rfl, Option.toList_none,
        List.append_nil]
      rcases hsplit hcall' with ⟨-, hcall'⟩ | ⟨rfl, hticket⟩
      · exact h.waiting m call' hcall' hm
      · rw [hticket, head, List.tail_cons] at hm
        have hordered := hlined.queue_ordered call.ticket
        rw [head] at hordered
        exact absurd (List.rel_of_pairwise_cons hordered hm) (Nat.lt_irrefl _)
  | @leaves n call rest _ first left head calls queue =>
    have hcall := getElem?_of_first? first
    have hordered := hlined.queue_ordered call.ticket
    rw [head] at hordered
    refine ⟨by simp [calls, Event.arrival?, h.length], fun m call' hcall' hm => ?_,
      fun m call' hcall' hm => ?_⟩
    · rw [calls] at hcall'
      rw [queue] at hm ⊢
      split at hm
      next hticket =>
        rw [if_pos hticket]
        by_cases hmn : m = n
        · subst hmn
          rw [hcall] at hcall'
          cases hcall'
          exact ⟨left, fun m' hm' => List.rel_of_pairwise_cons hordered hm'⟩
        · obtain ⟨hresult, hlt⟩ := h.gone m call' hcall' (by simp [hticket, head, hmn, hm])
          exact ⟨hresult, fun m' hm' => hlt m' (by simp [hticket, head, hm'])⟩
      next hticket =>
        rw [if_neg hticket]
        exact h.gone m call' hcall' hm
    · rw [calls] at hcall'
      rw [queue] at hm
      rw [show (Event.turn n : Event α).arrival? = none from rfl, Option.toList_none,
        List.append_nil]
      refine h.waiting m call' hcall' ?_
      split at hm
      next hticket =>
        rw [hticket, head, List.tail_cons]
        exact List.mem_of_mem_tail hm
      next => exact hm

end Served

theorem Lined.afterAll {c : Counter α} (h : c.Lined) (w : World) (es : List (Event α)) :
    (c.afterAll w es).1.Lined := by
  induction es generalizing c w with
  | nil => exact h
  | cons e es ih => exact ih (h.after w e).1 _

theorem Served.afterAll {c : Counter α} {arrived : List (String × Job α)} (hlined : c.Lined)
    (h : c.Served arrived) (w : World) (es : List (Event α)) :
    (c.afterAll w es).1.Served (arrived ++ arrivals es) := by
  induction es generalizing c w arrived with
  | nil => simpa [arrivals, Counter.afterAll] using h
  | cons e es ih =>
    obtain ⟨hlined', hhappens⟩ := hlined.after w e
    have hrest := ih hlined' (h.happens hlined hhappens) (c.after w e).2
    rw [List.append_assoc, ← arrivals_cons] at hrest
    exact hrest

/-- **Calls about one ticket do not overlap.** Of two of them the earlier has come to its end and
has left the line, or the later is as it came. -/
theorem none_overlap (w : World) (es : List (Event α)) {m n : Nat} {a b : Call α} (hlt : m < n)
    (ha : (({} : Counter α).afterAll w es).1.calls[m]? = some a)
    (hb : (({} : Counter α).afterAll w es).1.calls[n]? = some b) (hticket : a.ticket = b.ticket) :
    (a.left.result?.isSome = true ∧ (({} : Counter α).afterAll w es).1.first? m = none) ∨
      (arrivals es)[n]? = some (b.ticket, b.left) := by
  have hlined := (lined_nil (α := α)).afterAll w es
  have hserved : (({} : Counter α).afterAll w es).1.Served (arrivals es) := by
    have hnil : ({} : Counter α).Served [] := by constructor <;> simp
    simpa using hnil.afterAll lined_nil w es
  generalize (({} : Counter α).afterAll w es).1 = c at ha hb hlined hserved ⊢
  by_cases hm : m ∈ c.queue a.ticket
  · right
    refine hserved.waiting n b hb ?_
    -- the later one stands behind the earlier one
    have hn : n ∈ c.queue b.ticket := by
      refine Classical.byContradiction fun hn => ?_
      have hmn := (hserved.gone n b hb hn).2 m (hticket ▸ hm)
      omega
    have hordered := hlined.queue_ordered b.ticket
    rw [hticket] at hm
    cases hqueue : c.queue b.ticket with
    | nil =>
      rw [hqueue] at hn
      cases hn
    | cons k rest =>
      rw [hqueue] at hm hn hordered
      rw [List.tail_cons]
      rcases List.mem_cons.1 hn with rfl | hn
      · rcases List.mem_cons.1 hm with rfl | hm
        · omega
        · have := List.rel_of_pairwise_cons hordered hm
          omega
      · exact hn
  · left
    refine ⟨(hserved.gone m a ha hm).1, ?_⟩
    cases hfirst : c.first? m with
    | none => rfl
    | some call =>
      obtain ⟨rest, -, -, hqueue⟩ := hlined.queue_of_first? hfirst
      rw [getElem?_of_first? hfirst] at ha
      cases ha
      rw [hqueue] at hm
      simp at hm

end Counter

end FrontDesk
