/-
What reports on a flow say of its sessions.

If the sessions are in universal time, a report accounts for them (`Report.Accounts`): its timeline
has all that began in the last two weeks, each once. Its counts are those of a listing
(`Report.Agrees`), and it is the same report but for the mean duration, which is rounded at each
step, whatever order the sessions come in (`Report.usage_perm`).
-/
import FrontDesk.Proofs.Catalog.Timeline
import FrontDesk.Proofs.Number.Rounding

namespace FrontDesk

open Calendar Number

/-- A session that began in universal time, and was completed in it if it was. -/
structure Session.InUtc (s : Session) : Prop where
  created : s.createdAt.IsUtc
  completed : ∀ time, s.completedAt = some time → time.IsUtc

namespace Report

/-- Whether a timeline that is made at the given time goes back to the start of the session. -/
def reaches (now : Moment) (s : Session) : Bool :=
  now.instant - timelineDays * day ≤ s.createdAt.instant

/-- The report accounts for the sessions: its timeline has one point for each day, says of each day
how many sessions of the last two weeks began then, and has all of these, and no others. -/
structure Accounts (r : Report) (ss : List Session) (now : Moment) : Prop where
  increasing : r.timeline.Pairwise (·.date < ·.date)
  length : r.timeline.length ≤ 15
  tally : ∀ p ∈ r.timeline, p = tallyOf (ss.filter (reaches now)) p.date
  bounds : ∀ p ∈ r.timeline, 1 ≤ p.started ∧ p.completed ≤ p.started
  started : (r.timeline.map (·.started)).sum = ss.countP (reaches now)
  completed : (r.timeline.map (·.completed)).sum = ss.countP fun s => reaches now s && !s.isActive
  rate : 0 ≤ r.completionRate ∧ r.completionRate ≤ 100

/-- The report has the counts of a listing, in which each session is either active or completed. -/
structure Agrees (r : Report) (c : Counts) : Prop where
  total : r.total = c.total
  completed : r.completed = c.completed
  transferred : r.transferred = c.transferred
  parts : c.active + c.completed = c.total

variable {ss ss' : List Session} {now start : Moment} {id name : String}

/-- **A rate is one of a hundred.** -/
theorem rate_bounds {part total : Nat} (h : part ≤ total) :
    0 ≤ rate part total ∧ rate part total ≤ 100 := by
  unfold rate
  split
  · decide
  next htotal =>
    have hpositive : 0 < total := Nat.pos_of_ne_zero fun hzero => htotal (beq_iff_eq.2 hzero)
    have hquotient : (Binary64.ofQuotient part total).AtMost 1 := by
      have hpart : part ≤ 1 * total := by rwa [Nat.one_mul]
      exact Binary64.ofRatio_atMost hpositive hpart (by decide)
    exact (hquotient.mulNat 100 (by decide)).round

/-! ## Counters -/

/-- A session is active or completed. -/
theorem countP_active (ss : List Session) :
    ss.countP Session.isActive + ss.countP (!·.isActive) = ss.length := by
  simp [List.length_eq_countP_add_countP Session.isActive]

/-- A report sorts out what is completed, and a listing counts it. -/
theorem length_completed (ss : List Session) :
    (ss.filter (·.completedAt.isSome)).length = ss.countP (!·.isActive) := by
  rw [List.countP_eq_length_filter]
  simp [Session.isActive]

/-! ## Sessions in universal time -/

theorem durations_ok (hutc : ∀ s ∈ ss, s.InUtc) : ∃ xs, durations ss = .ok xs := by
  induction ss with
  | nil => exact ⟨[], rfl⟩
  | cons s rest ih =>
    obtain ⟨xs, hxs⟩ := ih fun t ht => hutc t (List.mem_cons_of_mem s ht)
    have hs := hutc s List.mem_cons_self
    cases hdone : s.completedAt with
    | none => exact ⟨xs, by rw [durations, hdone]; exact hxs⟩
    | some time =>
      have hsince : time.since s.createdAt = .ok (time.instant - s.createdAt.instant) := by
        refine if_pos ?_
        rw [Moment.comparable, (hs.completed time hdone).clock, hs.created.clock]
        rfl
      refine ⟨Binary64.ofQuotient (time.instant - s.createdAt.instant) second.natAbs :: xs, ?_⟩
      simp only [durations, hdone, hsince, hxs, bind, Except.bind, pure, Except.pure]

theorem startedSince_eq (hstart : start.offset.isSome = true) (hutc : ∀ s ∈ ss, s.InUtc) :
    startedSince start ss = .ok (ss.filter fun s => start.instant ≤ s.createdAt.instant) := by
  induction ss with
  | nil => rfl
  | cons s rest ih =>
    have hrest := ih fun t ht => hutc t (List.mem_cons_of_mem s ht)
    have hbefore : s.createdAt.isBefore start =
        .ok (decide (s.createdAt.instant < start.instant)) := by
      refine if_pos ?_
      rw [Moment.comparable, (hutc s List.mem_cons_self).created.clock, hstart]
      rfl
    have hfilter : (s :: rest).filter (fun s => start.instant ≤ s.createdAt.instant) =
        if s.createdAt.instant < start.instant then
          rest.filter fun s => start.instant ≤ s.createdAt.instant
        else s :: rest.filter fun s => start.instant ≤ s.createdAt.instant := by
      by_cases hlt : s.createdAt.instant < start.instant
      · rw [if_pos hlt]
        exact List.filter_cons_of_neg (by simpa using hlt)
      · rw [if_neg hlt]
        exact List.filter_cons_of_pos (by simpa using hlt)
    rw [hfilter]
    simp only [startedSince, hbefore, hrest, bind, Except.bind, pure, Except.pure,
      decide_eq_true_eq]

/-- The report on some sessions that is to be had at a known time, with a mean duration. -/
def usage (id name : String) (ss : List Session) (now : Moment) (average : Int) : Report where
  id := id
  name := name
  total := ss.length
  completed := (ss.filter (·.completedAt.isSome)).length
  transferred := ss.countP (·.transferredAt.isSome)
  averageDuration := average
  completionRate := rate (ss.filter (·.completedAt.isSome)).length ss.length
  timeline := timelineOf (ss.filter (reaches now))

/-- Sessions in universal time are reported on if there was a date two weeks ago. -/
theorem ofSessions_eq (id name : String) (hnow : now.offset.isSome = true)
    (hutc : ∀ s ∈ ss, s.InUtc) :
    ∃ average, ofSessions id name ss now =
      if Moment.inRange (now.ticks - timelineDays * day) then .ok (usage id name ss now average)
      else .error .outOfRange := by
  obtain ⟨xs, hxs⟩ := durations_ok hutc
  refine ⟨average xs, ?_⟩
  have hticks : now.ticks + -timelineDays * day = now.ticks - timelineDays * day := by
    rw [Int.neg_mul, Int.sub_eq_add_neg]
  have hrecent : startedSince ⟨now.ticks - timelineDays * day, now.offset⟩ ss =
      .ok (ss.filter (reaches now)) := by
    have hstart : (⟨now.ticks - timelineDays * day, now.offset⟩ : Moment).offset.isSome = true :=
      hnow
    refine (startedSince_eq hstart hutc).trans (congrArg Except.ok ?_)
    refine List.filter_congr fun s _ => ?_
    have hback : now.ticks - timelineDays * day - now.offset.getD 0 =
        now.ticks - now.offset.getD 0 - timelineDays * day := by omega
    rw [reaches, Moment.instant, Moment.instant, Moment.instant, hback]
  unfold ofSessions Moment.later
  rw [hxs, hticks]
  split
  · simp only [hrecent, bind, Except.bind, pure, Except.pure]
    rfl
  · rfl

theorem dayNumber_of_reaches {s : Session} (hs : s.createdAt.IsUtc)
    (hpast : s.createdAt.instant ≤ now.instant) (hreaches : reaches now s = true) :
    (now.instant / day - 14).toNat ≤ s.createdAt.dayNumber ∧
      s.createdAt.dayNumber < (now.instant / day - 14).toNat + 15 := by
  have hday := hs.dayNumber_eq
  have hfrom := of_decide_eq_true hreaches
  rw [timelineDays, day_eq] at hfrom
  rw [day_eq] at hday ⊢
  omega

/-- **A report accounts for the sessions of the last two weeks**, if none began after it. -/
theorem usage_accounts (hutc : ∀ s ∈ ss, s.InUtc)
    (hpast : ∀ s ∈ ss, s.createdAt.instant ≤ now.instant) (average : Int) :
    (usage id name ss now average).Accounts ss now := by
  have htally := timelineOf_tallies (ss.filter (reaches now))
  have hperm := inOrder_perm (ss.filter (reaches now))
  have hutc' : ∀ s ∈ ss.filter (reaches now), s.createdAt.IsUtc := fun s hs =>
    (hutc s (List.mem_filter.1 hs).1).created
  constructor
  case increasing =>
    exact timelineOf_increasing hutc'
  case length =>
    refine length_timelineOf_le (now.instant / day - 14).toNat fun s hs => ?_
    obtain ⟨hs, hreaches⟩ := List.mem_filter.1 hs
    exact dayNumber_of_reaches (hutc s hs).created (hpast s hs) hreaches
  case tally =>
    rw [← tallyOf_perm hperm]
    exact htally.tally
  case bounds =>
    exact fun p hp => htally.tally_bounds hp
  case started =>
    show ((timelineOf _).map (·.started)).sum = _
    rw [htally.started, hperm.length_eq, List.countP_eq_length_filter]
  case completed =>
    show ((timelineOf _).map (·.completed)).sum = _
    rw [htally.completed, hperm.countP_eq, List.countP_filter]
    refine List.countP_congr fun s _ => ?_
    rw [Bool.and_comm]
  case rate =>
    exact rate_bounds (List.length_filter_le _ ss)

/-- The counters of a report are those that a listing has for the same sessions. -/
theorem usage_agrees (id name : String) (ss : List Session) (now : Moment) (average : Int) :
    (usage id name ss now average).Agrees (Counts.ofSessions ss) where
  total := rfl
  completed := length_completed ss
  transferred := rfl
  parts := countP_active ss

/-- **The order in which sessions are listed does not matter**, but for the mean duration. -/
theorem usage_perm (hperm : ss.Perm ss') (hutc : ∀ s ∈ ss, s.InUtc) (average average' : Int) :
    usage id name ss' now average' =
      { usage id name ss now average with averageDuration := average' } := by
  have htimeline : timelineOf (ss.filter (reaches now)) = timelineOf (ss'.filter (reaches now)) :=
    timelineOf_perm (hperm.filter _) fun s hs => (hutc s (List.mem_filter.1 hs).1).created
  simp only [usage, length_completed, hperm.length_eq, hperm.countP_eq, htimeline]

end Report

end FrontDesk
