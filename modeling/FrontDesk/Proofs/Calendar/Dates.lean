/-
Dates in order.

A later day has a later date, and a later date a later text (`Date.isoText_ofDay_lt`): the parts of
a date are written from the year down, each with as many digits as it can have. So texts of dates
can be compared in the place of the days that they stand for.
-/
import FrontDesk.Proofs.Calendar.Zones
import FrontDesk.Proofs.Number.Padded
import Mathlib.Order.Monotone.Basic

namespace FrontDesk.Calendar

/-! ## Years -/

theorem daysBeforeYear_spans (n400 n100 n4 n1 : Nat) (h100 : n100 ≤ 3) (h4 : n4 ≤ 24)
    (h1 : n1 ≤ 3) :
    daysBeforeYear (400 * n400 + 100 * n100 + 4 * n4 + n1 + 1) =
      146097 * n400 + 36524 * n100 + 1461 * n4 + 365 * n1 := by
  rw [daysBeforeYear, Nat.add_sub_cancel]
  have hfour : (400 * n400 + 100 * n100 + 4 * n4 + n1) / 4 = 100 * n400 + 25 * n100 + n4 := by omega
  have hhundred : (400 * n400 + 100 * n100 + 4 * n4 + n1) / 100 = 4 * n400 + n100 := by omega
  have hfourHundred : (400 * n400 + 100 * n100 + 4 * n4 + n1) / 400 = n400 := by omega
  omega

/-- A day that is left of a year is before the next one. The last year of a span has a day more if
it is a leap year. -/
theorem lt_daysBeforeYear_succ (n400 n100 n4 n1 rest : Nat) (h100 : n100 ≤ 3) (h4 : n4 ≤ 24)
    (h1 : n1 ≤ 3) (hrest : rest < 365 ∨ n1 = 3 ∧ (n4 < 24 ∨ n100 = 3) ∧ rest < 366) :
    146097 * n400 + 36524 * n100 + 1461 * n4 + 365 * n1 + rest <
      daysBeforeYear (400 * n400 + 100 * n100 + 4 * n4 + n1 + 1 + 1) := by
  -- the next year begins a span of 1, 4, 100 or 400 years
  rcases (by omega : n1 < 3 ∨ n1 = 3 ∧ n4 < 24 ∨ n1 = 3 ∧ n4 = 24 ∧ n100 < 3 ∨
    n1 = 3 ∧ n4 = 24 ∧ n100 = 3) with hone | ⟨rfl, hfour⟩ | ⟨rfl, rfl, hhundred⟩ | ⟨rfl, rfl, rfl⟩
  · have hnext := daysBeforeYear_spans n400 n100 n4 (n1 + 1) h100 h4 hone
    rw [show 400 * n400 + 100 * n100 + 4 * n4 + n1 + 1 + 1 =
      400 * n400 + 100 * n100 + 4 * n4 + (n1 + 1) + 1 by omega, hnext]
    omega
  · have hnext := daysBeforeYear_spans n400 n100 (n4 + 1) 0 h100 hfour (by omega)
    rw [show 400 * n400 + 100 * n100 + 4 * n4 + 3 + 1 + 1 =
      400 * n400 + 100 * n100 + 4 * (n4 + 1) + 0 + 1 by omega, hnext]
    omega
  · have hnext := daysBeforeYear_spans n400 (n100 + 1) 0 0 hhundred (by omega) (by omega)
    rw [show 400 * n400 + 100 * n100 + 4 * 24 + 3 + 1 + 1 =
      400 * n400 + 100 * (n100 + 1) + 4 * 0 + 0 + 1 by omega, hnext]
    omega
  · have hnext := daysBeforeYear_spans (n400 + 1) 0 0 0 (by omega) (by omega) (by omega)
    rw [show 400 * n400 + 100 * 3 + 4 * 24 + 3 + 1 + 1 =
      400 * (n400 + 1) + 100 * 0 + 4 * 0 + 0 + 1 by omega, hnext]
    omega

theorem daysBeforeYear_mono : Monotone daysBeforeYear := by
  refine monotone_nat_of_le_succ fun y => ?_
  unfold daysBeforeYear
  omega

namespace Date

/-- The days of its year that passed before a day. -/
def dayOfYear (n : Nat) : Nat := n - daysBeforeYear (ofDay n).year

/-- A day lies in the year of its date, and its month and day are told from what is left. -/
theorem ofDay_inYear (n : Nat) :
    daysBeforeYear (ofDay n).year ≤ n ∧ n < daysBeforeYear ((ofDay n).year + 1) ∧
      dayOfYear n ≤ 365 ∧
      (ofDay n).month =
        (inYear 1 (dayOfYear n) (monthLengths (isLeapYear (ofDay n).year))).1 ∧
      (ofDay n).day =
        (inYear 1 (dayOfYear n) (monthLengths (isLeapYear (ofDay n).year))).2 := by
  obtain ⟨n400, r400, hn400, hr400⟩ : ∃ a b, n / 146097 = a ∧ n % 146097 = b := ⟨_, _, rfl, rfl⟩
  obtain ⟨n100, hn100⟩ : ∃ a, min 3 (r400 / 36524) = a := ⟨_, rfl⟩
  obtain ⟨r100, hr100⟩ : ∃ a, r400 - n100 * 36524 = a := ⟨_, rfl⟩
  obtain ⟨n4, r4, hn4, hr4⟩ : ∃ a b, r100 / 1461 = a ∧ r100 % 1461 = b := ⟨_, _, rfl, rfl⟩
  obtain ⟨n1, hn1⟩ : ∃ a, min 3 (r4 / 365) = a := ⟨_, rfl⟩
  have hyear : (ofDay n).year = 400 * n400 + 100 * n100 + 4 * n4 + n1 + 1 := by
    rw [year_ofDay, hn400, hr400, hn100, hr100, hn4, hr4, hn1]
  -- the last day of a leap span is one more than its years have otherwise
  have h100 : n100 ≤ 3 ∧ (r100 < 36524 ∨ n100 = 3 ∧ r100 < 36525) := by omega
  have h4 : n4 ≤ 24 ∧ (r4 < 1460 ∨ (n4 < 24 ∨ n100 = 3) ∧ r4 < 1461) := by omega
  have h1 : n1 ≤ 3 ∧ (r4 - n1 * 365 < 365 ∨ n1 = 3 ∧ r4 = 1460) := by omega
  have hn : n = 146097 * n400 + 36524 * n100 + 1461 * n4 + 365 * n1 + (r4 - n1 * 365) := by omega
  have hbefore := daysBeforeYear_spans n400 n100 n4 n1 h100.1 h4.1 h1.1
  have hrest : dayOfYear n = r4 - n1 * 365 := by
    rw [dayOfYear, hyear, hbefore]
    omega
  rw [hrest, hyear, hbefore]
  refine ⟨by omega, ?_, by omega, ?_⟩
  · have hnext := lt_daysBeforeYear_succ n400 n100 n4 n1 (r4 - n1 * 365) h100.1 h4.1 h1.1
      (by omega)
    rwa [← hn] at hnext
  · subst hn1 hr4 hn4 hr100 hn100 hr400 hn400
    exact ⟨rfl, rfl⟩

/-! ## Months -/

theorem le_month_inYear (month rest : Nat) (lengths : List Nat) :
    month ≤ (inYear month rest lengths).1 := by
  induction lengths generalizing month rest with
  | nil => exact Nat.le_refl month
  | cons length later ih =>
    rw [inYear]
    split
    · exact Nat.le_refl month
    · exact Nat.le_of_succ_le (ih (month + 1) (rest - length))

theorem inYear_lt {rest rest' : Nat} (h : rest < rest') (month : Nat) (lengths : List Nat) :
    (inYear month rest lengths).1 < (inYear month rest' lengths).1 ∨
      (inYear month rest lengths).1 = (inYear month rest' lengths).1 ∧
        (inYear month rest lengths).2 < (inYear month rest' lengths).2 := by
  induction lengths generalizing month rest rest' with
  | nil => exact .inr ⟨rfl, Nat.succ_lt_succ h⟩
  | cons length later ih =>
    rw [inYear, inYear]
    by_cases hrest' : rest' < length
    · rw [if_pos (Nat.lt_trans h hrest'), if_pos hrest']
      exact .inr ⟨rfl, Nat.succ_lt_succ h⟩
    · rw [if_neg hrest']
      by_cases hrest : rest < length
      · rw [if_pos hrest]
        exact .inl (le_month_inYear (month + 1) (rest' - length) later)
      · rw [if_neg hrest]
        exact ih (by omega) (month + 1)

theorem inYear_le {rest : Nat} {lengths : List Nat} (hlengths : ∀ length ∈ lengths, length ≤ 31)
    (hrest : rest ≤ lengths.sum + 30) (month : Nat) :
    (inYear month rest lengths).1 ≤ month + lengths.length ∧
      (inYear month rest lengths).2 ≤ 31 := by
  induction lengths generalizing month rest with
  | nil => exact ⟨Nat.le_refl month, Nat.succ_le_succ (by simpa using hrest)⟩
  | cons length later ih =>
    have hlength := hlengths length List.mem_cons_self
    rw [inYear]
    by_cases hlt : rest < length
    · rw [if_pos hlt]
      exact ⟨Nat.le_add_right _ _, by omega⟩
    · rw [List.sum_cons] at hrest
      have hrest' : rest - length ≤ later.sum + 30 := by omega
      have hlater := ih (fun l hl => hlengths l (List.mem_cons_of_mem length hl)) hrest' (month + 1)
      rw [if_neg hlt, List.length_cons]
      exact ⟨by omega, hlater.2⟩

theorem monthLengths_le (leap : Bool) :
    (∀ length ∈ monthLengths leap, length ≤ 31) ∧ 365 ≤ (monthLengths leap).sum ∧
      (monthLengths leap).length = 12 := by
  cases leap <;> decide

/-! ## Dates and their texts -/

/-- The parts of the date have no more digits than are written of them. -/
structure Fits (d : Date) : Prop where
  year : d.year < 10 ^ 4
  month : d.month < 10 ^ 2
  day : d.day < 10 ^ 2

/-- One date is before the other. -/
def Before (d e : Date) : Prop :=
  d.year < e.year ∨
    d.year = e.year ∧ (d.month < e.month ∨ d.month = e.month ∧ d.day < e.day)

theorem ofDay_fits {n : Nat} (h : n < allDays) : (ofDay n).Fits := by
  obtain ⟨hbefore, -, hrest, hmonth, hday⟩ := ofDay_inYear n
  obtain ⟨hlengths, hsum, hmonths⟩ := monthLengths_le (isLeapYear (ofDay n).year)
  have hbounds := inYear_le hlengths (Nat.le_trans hrest (Nat.le_add_right_of_le hsum)) 1
  rw [← hmonth, ← hday, hmonths] at hbounds
  refine ⟨?_, Nat.lt_of_le_of_lt hbounds.1 (by decide), Nat.lt_of_le_of_lt hbounds.2 (by decide)⟩
  by_contra hyear
  have hlast : allDays ≤ daysBeforeYear (ofDay n).year :=
    daysBeforeYear_mono (Nat.le_of_not_lt hyear)
  exact absurd h (Nat.not_lt_of_le (Nat.le_trans hlast hbefore))

/-- **A later day has a later date.** -/
theorem ofDay_before {n m : Nat} (h : n < m) : (ofDay n).Before (ofDay m) := by
  obtain ⟨hbefore, -, -, hmonth, hday⟩ := ofDay_inYear n
  obtain ⟨-, hafter', -, hmonth', hday'⟩ := ofDay_inYear m
  rcases Nat.lt_trichotomy (ofDay n).year (ofDay m).year with hlt | heq | hgt
  · exact .inl hlt
  · refine .inr ⟨heq, ?_⟩
    have hrest : dayOfYear n < dayOfYear m := by
      rw [dayOfYear, dayOfYear, ← heq]
      exact Nat.sub_lt_sub_right hbefore h
    rw [hmonth, hday, hmonth', hday', ← heq]
    exact inYear_lt hrest 1 (monthLengths (isLeapYear (ofDay n).year))
  · have hyears := daysBeforeYear_mono (Nat.succ_le_of_lt hgt)
    have hlater : m < n := Nat.lt_of_lt_of_le hafter' (Nat.le_trans hyears hbefore)
    exact absurd h (Nat.lt_asymm hlater)

theorem isoText_lt {d e : Date} (hd : d.Fits) (he : e.Fits) (h : d.Before e) :
    d.isoText < e.isoText := by
  rw [String.lt_iff, isoText, isoText]
  simp only [String.toList_append, List.append_assoc]
  rcases h with hyear | ⟨hyear, hmonth | ⟨hmonth, hday⟩⟩
  · refine Number.append_lt_append ?_ (Number.padZeros_lt hyear he.year) _ _
    rw [Number.length_padZeros (by decide) hd.year, Number.length_padZeros (by decide) he.year]
  · rw [hyear]
    refine List.append_left_lt (List.append_left_lt ?_)
    refine Number.append_lt_append ?_ (Number.padZeros_lt hmonth he.month) _ _
    rw [Number.length_padZeros (by decide) hd.month, Number.length_padZeros (by decide) he.month]
  · rw [hyear, hmonth]
    refine List.append_left_lt (List.append_left_lt (List.append_left_lt (List.append_left_lt ?_)))
    exact Number.padZeros_lt hday he.day

/-- **A later day has a later text.** -/
theorem isoText_ofDay_lt {n m : Nat} (h : n < m) (hm : m < allDays) :
    (ofDay n).isoText < (ofDay m).isoText :=
  isoText_lt (ofDay_fits (Nat.lt_trans h hm)) (ofDay_fits hm) (ofDay_before h)

end Date

/-! ## Moments of universal time -/

namespace Moment

/-- A moment of universal time, in the years that there are. -/
structure IsUtc (m : Moment) : Prop where
  clock : m.offset = some 0
  inRange : inRange m.ticks = true

namespace IsUtc

variable {m m' : Moment}

theorem instant_eq (h : m.IsUtc) : m.instant = m.ticks := by
  rw [instant, h.clock, Option.getD_some, Int.sub_zero]

theorem ticks_bounds (h : m.IsUtc) : 0 ≤ m.ticks ∧ m.ticks < (allDays : Int) * Calendar.day := by
  have hrange := h.inRange
  rwa [Moment.inRange, Bool.and_eq_true, decide_eq_true_eq, decide_eq_true_eq] at hrange

theorem dayNumber_eq (h : m.IsUtc) : (m.dayNumber : Int) = m.instant / Calendar.day := by
  rw [h.instant_eq, dayNumber]
  exact Int.toNat_of_nonneg (Int.ediv_nonneg h.ticks_bounds.1 (by decide))

theorem dayNumber_lt (h : m.IsUtc) : m.dayNumber < allDays := by
  have hday := h.dayNumber_eq
  have hticks := h.ticks_bounds.2
  rw [h.instant_eq] at hday
  rw [day_eq] at hday hticks
  omega

theorem isoText_le (h : m.IsUtc) (h' : m'.IsUtc) (hle : m.instant ≤ m'.instant) :
    m.date.isoText = m'.date.isoText ∨ m.date.isoText < m'.date.isoText := by
  have hday : m.dayNumber ≤ m'.dayNumber := by
    have := Int.ediv_le_ediv (show 0 < Calendar.day by decide) hle
    rw [← h.dayNumber_eq, ← h'.dayNumber_eq] at this
    omega
  rcases Nat.lt_or_eq_of_le hday with hlt | heq
  · exact .inr (Date.isoText_ofDay_lt hlt h'.dayNumber_lt)
  · rw [date, date, heq]
    exact .inl rfl

end IsUtc

end Moment

end FrontDesk.Calendar
