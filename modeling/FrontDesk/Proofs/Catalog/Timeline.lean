/-
Timelines of reports.

To count a session adds it to the point of its day, or makes a point of it (`Report.count_cases`).
That is all there is to a timeline, so its points say of each day on which sessions began how many
did (`Report.Tallies`). Sessions that are in order of time have days in order, so a timeline is told
from the sessions whatever order they come in (`Report.timelineOf_perm`).
-/
import FrontDesk.Catalog.Report
import FrontDesk.Proofs.Calendar.Dates
import FrontDesk.Proofs.Catalog.Choice
import Mathlib.Data.List.Nodup
import Mathlib.Data.List.Perm.Subperm

namespace FrontDesk

open Calendar

/-- The text of the day on which a session began. -/
def Session.dayText (s : Session) : String := s.createdAt.date.isoText

namespace Report

/-! ## Counting a session -/

/-- One for a session that is completed. -/
def completions (s : Session) : Nat := if s.isActive then 0 else 1

/-- The point of a day on which nothing but the session began. -/
def pointOf (s : Session) : TimelinePoint := ⟨s.dayText, 1, completions s⟩

/-- A point with a session more. -/
def addTo (p : TimelinePoint) (s : Session) : TimelinePoint :=
  ⟨p.date, p.started + 1, p.completed + completions s⟩

/-- A session is added to the point of its day, or gets a point if there is none. -/
theorem count_cases (ps : List TimelinePoint) (s : Session) :
    (∃ before p after, ps = before ++ p :: after ∧ p.date = s.dayText ∧
      count ps s = before ++ addTo p s :: after) ∨
    (s.dayText ∉ ps.map (·.date) ∧ count ps s = ps ++ [pointOf s]) := by
  induction ps with
  | nil => exact .inr ⟨List.not_mem_nil, rfl⟩
  | cons p rest ih =>
    by_cases hdate : p.date = s.dayText
    · refine .inl ⟨[], p, rest, rfl, hdate, ?_⟩
      have hcount : count (p :: rest) s =
          ⟨s.dayText, p.started + 1, p.completed + completions s⟩ :: rest :=
        if_pos (beq_iff_eq.2 hdate)
      rw [hcount, ← hdate]
      rfl
    · have hcount : count (p :: rest) s = p :: count rest s := if_neg (mt beq_iff_eq.1 hdate)
      rw [hcount]
      rcases ih with ⟨before, q, after, rfl, hq, hih⟩ | ⟨hnew, hih⟩
      · exact .inl ⟨p :: before, q, after, rfl, hq, by rw [hih]; rfl⟩
      · refine .inr ⟨?_, by rw [hih]; rfl⟩
        rw [List.map_cons, List.mem_cons, not_or]
        exact ⟨fun h => hdate h.symm, hnew⟩

/-! ## Counting them all -/

/-- What is to be said of a day. -/
def tallyOf (ss : List Session) (date : String) : TimelinePoint where
  date := date
  started := ss.countP (·.dayText == date)
  completed := ss.countP fun s => s.dayText == date && !s.isActive

theorem tallyOf_append (ss : List Session) (s : Session) (date : String) :
    tallyOf (ss ++ [s]) date =
      if s.dayText = date then addTo (tallyOf ss date) s else tallyOf ss date := by
  split
  next hdate => cases hactive : s.isActive <;>
    simp [tallyOf, addTo, completions, List.countP_append, hdate, hactive]
  next hdate => simp [tallyOf, List.countP_append, hdate]

theorem tallyOf_new {ss : List Session} {date : String} (h : date ∉ ss.map Session.dayText) :
    tallyOf ss date = ⟨date, 0, 0⟩ := by
  have hnone : ∀ s ∈ ss, s.dayText ≠ date := fun s hs hdate =>
    h (List.mem_map.2 ⟨s, hs, hdate⟩)
  have hstarted : ss.countP (·.dayText == date) = 0 :=
    List.countP_eq_zero.2 fun s hs => by simpa using hnone s hs
  have hcompleted : ss.countP (fun s => s.dayText == date && !s.isActive) = 0 :=
    List.countP_eq_zero.2 fun s hs => by simp [hnone s hs]
  rw [tallyOf, hstarted, hcompleted]

theorem tallyOf_perm {ss ss' : List Session} (h : ss.Perm ss') : tallyOf ss = tallyOf ss' := by
  funext date
  rw [tallyOf, tallyOf, h.countP_eq, h.countP_eq]

/-- The points say what is to be said of the sessions: no day has two, and all days of sessions have
one, in the order in which they first come up. -/
structure Tallies (ps : List TimelinePoint) (ss : List Session) : Prop where
  apart : (ps.map (·.date)).Nodup
  order : (ps.map (·.date)).Sublist (ss.map Session.dayText)
  covers : ∀ s ∈ ss, s.dayText ∈ ps.map (·.date)
  tally : ∀ p ∈ ps, p = tallyOf ss p.date
  started : (ps.map (·.started)).sum = ss.length
  completed : (ps.map (·.completed)).sum = ss.countP (!·.isActive)

namespace Tallies

variable {ps ps' : List TimelinePoint} {ss ss' : List Session}

theorem nil : Tallies [] [] where
  apart := List.nodup_nil
  order := List.Sublist.slnil
  covers _ h := by cases h
  tally _ h := by cases h
  started := rfl
  completed := rfl

theorem countP_completed (ss : List Session) (s : Session) :
    (ss ++ [s]).countP (!·.isActive) = ss.countP (!·.isActive) + completions s := by
  cases hactive : s.isActive <;> simp [List.countP_append, completions, hactive]

theorem add {before after : List TimelinePoint} {p : TimelinePoint} {s : Session}
    (h : Tallies (before ++ p :: after) ss) (hdate : p.date = s.dayText) :
    Tallies (before ++ addTo p s :: after) (ss ++ [s]) := by
  have hdates : (before ++ addTo p s :: after).map (·.date) =
      (before ++ p :: after).map (·.date) := by
    simp only [List.map_append, List.map_cons, addTo]
  -- it says nothing of the other days
  have hothers : ∀ q, q ∈ before ∨ q ∈ after → tallyOf (ss ++ [s]) q.date = tallyOf ss q.date := by
    have hapart := h.apart
    rw [List.map_append, List.map_cons, List.nodup_middle, List.nodup_cons, ← List.map_append,
      hdate] at hapart
    intro q hq
    rw [tallyOf_append, if_neg]
    rintro hsame
    rw [hsame] at hapart
    exact hapart.1 (List.mem_map_of_mem (List.mem_append.2 hq))
  constructor
  case apart =>
    rw [hdates]
    exact h.apart
  case order =>
    rw [hdates]
    exact h.order.trans ((List.sublist_append_left ss [s]).map Session.dayText)
  case covers =>
    rw [hdates]
    intro t ht
    rcases List.mem_append.1 ht with ht | ht
    · exact h.covers t ht
    · obtain rfl := List.mem_singleton.1 ht
      rw [← hdate]
      exact List.mem_map_of_mem (List.mem_append_right _ List.mem_cons_self)
  case tally =>
    intro q hq
    rcases List.mem_append.1 hq with hq | hq
    · rw [hothers q (.inl hq)]
      exact h.tally q (List.mem_append_left _ hq)
    rcases List.mem_cons.1 hq with rfl | hq
    · have hp := h.tally p (List.mem_append_right _ List.mem_cons_self)
      show addTo p s = tallyOf (ss ++ [s]) p.date
      rw [tallyOf_append, if_pos hdate.symm, ← hp]
    · rw [hothers q (.inr hq)]
      exact h.tally q (List.mem_append_right _ (List.mem_cons_of_mem p hq))
  case started =>
    have hsum := h.started
    simp only [List.map_append, List.map_cons, List.sum_append, List.sum_cons, addTo,
      List.length_append, List.length_singleton] at hsum ⊢
    omega
  case completed =>
    have hsum := h.completed
    simp only [List.map_append, List.map_cons, List.sum_append, List.sum_cons, addTo,
      countP_completed] at hsum ⊢
    omega

theorem begin {s : Session} (h : Tallies ps ss) (hnew : s.dayText ∉ ps.map (·.date)) :
    Tallies (ps ++ [pointOf s]) (ss ++ [s]) := by
  have hnone : s.dayText ∉ ss.map Session.dayText := by
    intro hs
    obtain ⟨t, ht, hsame⟩ := List.mem_map.1 hs
    rw [← hsame] at hnew
    exact hnew (h.covers t ht)
  constructor
  case apart =>
    rw [List.map_append, List.map_singleton, List.nodup_append]
    refine ⟨h.apart, List.nodup_singleton _, ?_⟩
    rintro _ hdate date hsame rfl
    rw [List.mem_singleton.1 hsame] at hdate
    exact hnew hdate
  case order =>
    rw [List.map_append, List.map_append]
    exact h.order.append (List.Sublist.refl _)
  case covers =>
    intro t ht
    rw [List.map_append]
    rcases List.mem_append.1 ht with ht | ht
    · exact List.mem_append_left _ (h.covers t ht)
    · obtain rfl := List.mem_singleton.1 ht
      exact List.mem_append_right _ List.mem_cons_self
  case tally =>
    intro p hp
    rcases List.mem_append.1 hp with hp | hp
    · rw [tallyOf_append, if_neg]
      · exact h.tally p hp
      · rintro hsame
        rw [hsame] at hnew
        exact hnew (List.mem_map_of_mem hp)
    · obtain rfl := List.mem_singleton.1 hp
      show pointOf s = tallyOf (ss ++ [s]) s.dayText
      rw [tallyOf_append, if_pos rfl, tallyOf_new hnone, addTo, Nat.zero_add, Nat.zero_add]
      rfl
  case started =>
    rw [List.map_append, List.sum_append, h.started, List.length_append]
    rfl
  case completed =>
    rw [List.map_append, List.sum_append, h.completed, countP_completed]
    rfl

/-- **To count a session keeps the tally.** -/
theorem count (h : Tallies ps ss) (s : Session) : Tallies (count ps s) (ss ++ [s]) := by
  rcases count_cases ps s with ⟨before, p, after, rfl, hdate, hcount⟩ | ⟨hnew, hcount⟩
  · rw [hcount]
    exact h.add hdate
  · rw [hcount]
    exact h.begin hnew

theorem foldl_count (h : Tallies ps ss) (ss' : List Session) :
    Tallies (ss'.foldl Report.count ps) (ss ++ ss') := by
  induction ss' generalizing ps ss with
  | nil => rwa [List.append_nil]
  | cons s rest ih =>
    rw [List.foldl_cons, List.append_cons]
    exact ih (h.count s)

/-- A point is told from its date. -/
theorem eq_map (h : Tallies ps ss) : ps = (ps.map (·.date)).map (tallyOf ss) := by
  rw [List.map_map]
  exact (List.map_id ps).symm.trans (List.map_congr_left h.tally)

theorem mem_dates_iff (h : Tallies ps ss) (date : String) :
    date ∈ ps.map (·.date) ↔ date ∈ ss.map Session.dayText := by
  refine ⟨fun hdate => h.order.subset hdate, fun hdate => ?_⟩
  obtain ⟨s, hs, rfl⟩ := List.mem_map.1 hdate
  exact h.covers s hs

theorem tally_bounds (h : Tallies ps ss) {p : TimelinePoint} (hp : p ∈ ps) :
    1 ≤ p.started ∧ p.completed ≤ p.started := by
  obtain ⟨s, hs, hdate⟩ := List.mem_map.1 ((h.mem_dates_iff p.date).1 (List.mem_map_of_mem hp))
  rw [h.tally p hp]
  refine ⟨List.countP_pos_iff.2 ⟨s, hs, beq_iff_eq.2 hdate⟩, List.countP_mono_left ?_⟩
  intro t _ ht
  exact (Bool.and_eq_true_iff.1 ht).1

/-- Points in order of their dates are told from the sessions in any order. -/
theorem eq_of_perm (h : Tallies ps ss) (h' : Tallies ps' ss') (hperm : ss.Perm ss')
    (hps : ps.Pairwise (·.date < ·.date)) (hps' : ps'.Pairwise (·.date < ·.date)) : ps = ps' := by
  have hsame : (ps.map (·.date)).Perm (ps'.map (·.date)) := by
    refine (List.perm_ext_iff_of_nodup h.apart h'.apart).2 fun date => ?_
    rw [h.mem_dates_iff, h'.mem_dates_iff, (hperm.map Session.dayText).mem_iff]
  have hdates : ps.map (·.date) = ps'.map (·.date) := by
    refine hsame.eq_of_pairwise ?_ (List.pairwise_map.2 hps) (List.pairwise_map.2 hps')
    intro a b _ _ hab hba
    exact absurd hba (String.lt_asymm hab)
  rw [h.eq_map, h'.eq_map, hdates, tallyOf_perm hperm]

end Tallies

/-! ## Timelines -/

/-- Some sessions, the earliest first. -/
def inOrder (ss : List Session) : List Session :=
  ss.mergeSort fun a b => a.createdAt.instant ≤ b.createdAt.instant

theorem inOrder_perm (ss : List Session) : (inOrder ss).Perm ss := List.mergeSort_perm _ _

theorem inOrder_pairwise (ss : List Session) :
    (inOrder ss).Pairwise fun a b => a.createdAt.instant ≤ b.createdAt.instant :=
  mergeSort_inOrder Session.createdAt ss

theorem timelineOf_tallies (ss : List Session) : Tallies (timelineOf ss) (inOrder ss) :=
  Tallies.nil.foldl_count (inOrder ss)

variable {ss ss' : List Session}

/-- **The days of a timeline are in order**, each once. -/
theorem timelineOf_increasing (hutc : ∀ s ∈ ss, s.createdAt.IsUtc) :
    (timelineOf ss).Pairwise (·.date < ·.date) := by
  have htally := timelineOf_tallies ss
  have hdays : ((inOrder ss).map Session.dayText).Pairwise fun d e => d = e ∨ d < e := by
    refine List.pairwise_map.2 ((inOrder_pairwise ss).imp_of_mem fun {a b} ha hb hle => ?_)
    have ha := hutc a ((inOrder_perm ss).mem_iff.1 ha)
    have hb := hutc b ((inOrder_perm ss).mem_iff.1 hb)
    exact ha.isoText_le hb hle
  have hdates := (hdays.sublist htally.order).and htally.apart
  exact List.pairwise_map.1 (hdates.imp fun h => h.1.resolve_left h.2)

/-- **The order in which sessions are listed does not matter.** -/
theorem timelineOf_perm (hperm : ss.Perm ss') (hutc : ∀ s ∈ ss, s.createdAt.IsUtc) :
    timelineOf ss = timelineOf ss' := by
  have hperm' : (inOrder ss).Perm (inOrder ss') :=
    (inOrder_perm ss).trans (hperm.trans (inOrder_perm ss').symm)
  exact (timelineOf_tallies ss).eq_of_perm (timelineOf_tallies ss') hperm'
    (timelineOf_increasing hutc)
    (timelineOf_increasing fun s hs => hutc s (hperm.mem_iff.2 hs))

theorem length_timelineOf_le (first : Nat) {days : Nat}
    (hdays : ∀ s ∈ ss, first ≤ s.createdAt.dayNumber ∧ s.createdAt.dayNumber < first + days) :
    (timelineOf ss).length ≤ days := by
  have htally := timelineOf_tallies ss
  have hsubset : (timelineOf ss).map (·.date) ⊆
      (List.range days).map fun i => (Date.ofDay (first + i)).isoText := by
    intro date hdate
    obtain ⟨s, hs, rfl⟩ := List.mem_map.1 ((htally.mem_dates_iff date).1 hdate)
    obtain ⟨hfrom, hto⟩ := hdays s ((inOrder_perm ss).mem_iff.1 hs)
    refine List.mem_map.2 ⟨s.createdAt.dayNumber - first, List.mem_range.2 (by omega), ?_⟩
    rw [Nat.add_sub_cancel' hfrom]
    rfl
  have hlength := (htally.apart.subperm hsubset).length_le
  rwa [List.length_map, List.length_map, List.length_range] at hlength

end Report

end FrontDesk
