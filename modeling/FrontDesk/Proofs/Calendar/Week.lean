/-
The week of operating hours.

Minutes are counted on the clock of the place from the start of some Sunday. There a window is, for
each of its days, an interval that comes again every week, with both its ends; one that ends before
it starts is a day longer, and so goes on into the day after, from a Saturday into a Sunday too.
Hours are open in the union of these intervals (`isOpenBy_iff_weekly`).
-/
import FrontDesk.Calendar.ZoneTable

namespace FrontDesk

open Calendar

namespace Calendar

/-! ## Units of time in microseconds -/

theorem second_eq : second = 1000000 := rfl

theorem minute_eq : minute = 60000000 := rfl

theorem day_eq : day = 86400000000 := rfl

namespace Moment

/-! ## Minutes from a Sunday on -/

/-- The whole minutes from the start of a day to a moment on the same clock. -/
def minutesSince (m : Moment) (startDay : Nat) : Int :=
  (m.ticks - startDay * Calendar.day) / Calendar.minute

theorem minuteOfDay_bounds (m : Moment) : 0 ≤ m.minuteOfDay ∧ m.minuteOfDay ≤ 1439 := by
  rw [minuteOfDay, timeOfDay, day_eq, minute_eq]
  omega

/-- The minutes since a Sunday are whole weeks, the days of the week and the minutes of the day. -/
theorem minutesSince_sunday {m : Moment} {sunday : Nat} (hticks : 0 ≤ m.ticks)
    (hsunday : weekday sunday = 0) :
    ∃ week : Int, m.minutesSince sunday =
      10080 * week + 1440 * (weekday m.dayNumber : Int) + m.minuteOfDay := by
  have hnumber : (m.dayNumber : Int) = m.ticks / Calendar.day := by
    rw [dayNumber, Int.toNat_of_nonneg]
    rw [day_eq]
    omega
  refine ⟨((m.dayNumber : Int) - sunday - weekday m.dayNumber) / 7, ?_⟩
  -- both days are the same number of days after a Sunday
  have hweeks : ((m.dayNumber : Int) - sunday - weekday m.dayNumber) % 7 = 0 := by
    unfold weekday at hsunday ⊢
    omega
  have hminutes : m.minutesSince sunday = 1440 * ((m.dayNumber : Int) - sunday) + m.minuteOfDay := by
    rw [minutesSince, minuteOfDay, timeOfDay, hnumber, day_eq, minute_eq]
    omega
  omega

end Moment

end Calendar

namespace Window

/-- Both ends are times of a day. -/
structure InDay (w : Window) : Prop where
  opening : 0 ≤ minutes w.opening ∧ minutes w.opening ≤ 1439
  closing : 0 ≤ minutes w.closing ∧ minutes w.closing ≤ 1439

/-- The minutes from the start of a window to its end. -/
def length (w : Window) : Int :=
  if minutes w.opening ≤ minutes w.closing then minutes w.closing - minutes w.opening
  else minutes w.closing - minutes w.opening + 1440

/-- The minute, counted from a Sunday on, lies in the window as it begins on the given day of the
given week. -/
def Spans (w : Window) (week day minute : Int) : Prop :=
  10080 * week + 1440 * day + minutes w.opening ≤ minute ∧
    minute ≤ 10080 * week + 1440 * day + minutes w.opening + w.length

variable {w : Window} {weekday minute week : Int}

/-- A window within a day holds the minutes that it spans. -/
theorem holds_iff_of_le (hw : w.InDay) (hle : minutes w.opening ≤ minutes w.closing)
    (hweekday : 0 ≤ weekday ∧ weekday ≤ 6) (hminute : 0 ≤ minute ∧ minute ≤ 1439) :
    w.holds weekday minute = true ↔ ∃ d ∈ w.days, 0 ≤ d ∧ d ≤ 6 ∧
      ∃ k, w.Spans k d (10080 * week + 1440 * weekday + minute) := by
  obtain ⟨hopening, hclosing⟩ := hw
  have hlength : w.length = minutes w.closing - minutes w.opening := if_pos hle
  have hholds : w.holds weekday minute = true ↔
      weekday ∈ w.days ∧ minutes w.opening ≤ minute ∧ minute ≤ minutes w.closing := by
    simp [holds, hle, and_assoc]
  rw [hholds]
  constructor
  · rintro ⟨hmem, hfirst, hlast⟩
    refine ⟨weekday, hmem, hweekday.1, hweekday.2, week, ?_⟩
    rw [Spans, hlength]
    omega
  · rintro ⟨d, hmem, hd₀, hd₆, k, hspans⟩
    rw [Spans, hlength] at hspans
    obtain rfl : d = weekday := by omega
    exact ⟨hmem, by omega, by omega⟩

/-- So does one over midnight: the evening is that of its day, the morning that of the next one. -/
theorem holds_iff_of_lt (hw : w.InDay) (hlt : minutes w.closing < minutes w.opening)
    (hweekday : 0 ≤ weekday ∧ weekday ≤ 6) (hminute : 0 ≤ minute ∧ minute ≤ 1439) :
    w.holds weekday minute = true ↔ ∃ d ∈ w.days, 0 ≤ d ∧ d ≤ 6 ∧
      ∃ k, w.Spans k d (10080 * week + 1440 * weekday + minute) := by
  obtain ⟨hopening, hclosing⟩ := hw
  have hnot : ¬ minutes w.opening ≤ minutes w.closing := Int.not_le.2 hlt
  have hlength : w.length = minutes w.closing - minutes w.opening + 1440 := if_neg hnot
  have hholds : w.holds weekday minute = true ↔
      (weekday ∈ w.days ∧ minutes w.opening ≤ minute) ∨
        ((weekday - 1) % 7 ∈ w.days ∧ minute ≤ minutes w.closing) := by
    simp [holds, hnot]
  rw [hholds]
  constructor
  · rintro (⟨hmem, hevening⟩ | ⟨hmem, hmorning⟩)
    · refine ⟨weekday, hmem, hweekday.1, hweekday.2, week, ?_⟩
      rw [Spans, hlength]
      omega
    · -- on a Sunday it is the Saturday of the week before
      by_cases hsunday : weekday = 0
      · subst hsunday
        refine ⟨6, hmem, by omega, by omega, week - 1, ?_⟩
        rw [Spans, hlength]
        omega
      · have hbefore : (weekday - 1) % 7 = weekday - 1 := by omega
        rw [hbefore] at hmem
        refine ⟨weekday - 1, hmem, by omega, by omega, week, ?_⟩
        rw [Spans, hlength]
        omega
  · rintro ⟨d, hmem, hd₀, hd₆, k, hspans⟩
    rw [Spans, hlength] at hspans
    by_cases hsame : d = weekday
    · subst hsame
      exact .inl ⟨hmem, by omega⟩
    · obtain rfl : d = (weekday - 1) % 7 := by omega
      exact .inr ⟨hmem, by omega⟩

theorem holds_iff (hw : w.InDay) (hweekday : 0 ≤ weekday ∧ weekday ≤ 6)
    (hminute : 0 ≤ minute ∧ minute ≤ 1439) :
    w.holds weekday minute = true ↔ ∃ d ∈ w.days, 0 ≤ d ∧ d ≤ 6 ∧
      ∃ k, w.Spans k d (10080 * week + 1440 * weekday + minute) := by
  by_cases hle : minutes w.opening ≤ minutes w.closing
  · exact holds_iff_of_le hw hle hweekday hminute
  · exact holds_iff_of_lt hw (Int.not_le.1 hle) hweekday hminute

end Window

namespace Schedule

variable {zones : Zone.Database} {s : Schedule} {z : Zone} {now here : Moment} {sunday : Nat}

theorem ticks_nonneg_of_inZone (h : now.inZone z = .ok here) : 0 ≤ here.ticks := by
  unfold Moment.inZone Moment.onClock at h
  split at h
  next hrange =>
    cases h
    simp only [Moment.inRange, Bool.and_eq_true, decide_eq_true_eq] at hrange
    exact hrange.2.1
  next => cases h

/-- The hours are looked at: they are enabled, and there are windows. -/
structure Binds (s : Schedule) : Prop where
  enabled : s.enabled = true
  windows : s.windows ≠ []

theorem isOpenBy_of_not_binds (h : ¬ s.Binds) : isOpenBy zones (some s) now = .ok true := by
  cases hgate : !s.enabled || s.windows.isEmpty with
  | true => rw [isOpenBy, if_pos hgate]
  | false =>
    rw [Bool.or_eq_false_iff] at hgate
    exact absurd ⟨by simpa using hgate.1, by simpa using hgate.2⟩ h

theorem Binds.isOpenBy (h : s.Binds) :
    isOpenBy zones (some s) now = (zoneOf zones s.zone).bind fun z =>
      match now.inZone z with
      | .ok here => .ok (s.holds here)
      | .error e => .error (.clock e) := by
  have hgate : (!s.enabled || s.windows.isEmpty) = false := by simp [h.enabled, h.windows]
  rw [Schedule.isOpenBy, hgate, if_neg Bool.false_ne_true]
  rfl

theorem holds_iff_weekly (hday : ∀ w ∈ s.windows, w.InDay) (hticks : 0 ≤ here.ticks)
    (hsunday : weekday sunday = 0) :
    s.holds here = true ↔ ∃ w ∈ s.windows, ∃ d ∈ w.days, 0 ≤ d ∧ d ≤ 6 ∧
      ∃ k, w.Spans k d (here.minutesSince sunday) := by
  obtain ⟨week, hweek⟩ := Moment.minutesSince_sunday hticks hsunday
  have hweekday : 0 ≤ (weekday here.dayNumber : Int) ∧ (weekday here.dayNumber : Int) ≤ 6 := by
    unfold weekday
    omega
  rw [hweek, holds, List.any_eq_true]
  constructor
  · rintro ⟨w, hmem, hholds⟩
    exact ⟨w, hmem, (Window.holds_iff (hday w hmem) hweekday here.minuteOfDay_bounds).1 hholds⟩
  · rintro ⟨w, hmem, hspans⟩
    exact ⟨w, hmem, (Window.holds_iff (hday w hmem) hweekday here.minuteOfDay_bounds).2 hspans⟩

/-- **Operating hours are a union of weekly intervals.** Take hours that are enabled, have windows
whose ends are times of a day, and have a zone; count the minutes of the local time from any Sunday
on. They are open just when, in some week and from one of its days on, some window spans the minute.
Wherever there is a local time, they are open or not. -/
theorem isOpenBy_iff_weekly (henabled : s.enabled = true) (hwindows : s.windows ≠ [])
    (hday : ∀ w ∈ s.windows, w.InDay) (hzone : zoneOf zones s.zone = .ok z)
    (hsunday : weekday sunday = 0) :
    (isOpenBy zones (some s) now = .ok true ↔
      ∃ here, now.inZone z = .ok here ∧
        ∃ w ∈ s.windows, ∃ d ∈ w.days, 0 ≤ d ∧ d ≤ 6 ∧ ∃ k : Int,
          10080 * k + 1440 * d + Window.minutes w.opening ≤ here.minutesSince sunday ∧
          here.minutesSince sunday ≤
            10080 * k + 1440 * d + Window.minutes w.opening + w.length) ∧
      ∀ here, now.inZone z = .ok here → ∃ b, isOpenBy zones (some s) now = .ok b := by
  rw [Binds.isOpenBy ⟨henabled, hwindows⟩, hzone, Except.bind]
  cases hhere : now.inZone z with
  | error e =>
    constructor
    · constructor
      · intro h
        cases h
      · rintro ⟨_, h, -⟩
        cases h
    · intro _ h
      cases h
  | ok here =>
    have hweekly := holds_iff_weekly hday (ticks_nonneg_of_inZone hhere) hsunday
    refine ⟨⟨fun h => ⟨here, rfl, hweekly.1 (Except.ok.inj h)⟩, ?_⟩, fun _ _ => ⟨_, rfl⟩⟩
    rintro ⟨_, h, hspans⟩
    cases h
    exact congrArg Except.ok (hweekly.2 hspans)

/-- Hours of the night from Saturday to Sunday in Tokyo. -/
def nightly : Schedule :=
  { zone := "Asia/Tokyo"
    windows := [⟨[6], "22:00", "02:00"⟩]
    enabled := true
    fallback := none }

/-- At two on a Sunday morning there they are open: the end belongs to the window, and the window to
the Saturday of the week before. -/
theorem nightly_open :
    nightly.enabled = true ∧ nightly.windows ≠ [] ∧ (∀ w ∈ nightly.windows, w.InDay) ∧
      (∃ z, zoneOf Zone.lookup nightly.zone = .ok z) ∧
      weekday (Date.toDay ⟨2024, 5, 12⟩) = 0 ∧
      isOpenBy Zone.lookup (some nightly)
        (.utc (Zone.instantOf 2024 5 18 17 0 0 * Calendar.second)) = .ok true := by
  have hday : ∀ w ∈ nightly.windows, w.InDay := by
    intro w hw
    rw [List.mem_singleton.1 hw]
    constructor <;> decide
  obtain ⟨z, hz, here, hhere, hminutes⟩ : ∃ z, zoneOf Zone.lookup nightly.zone = .ok z ∧
      ∃ here, (Moment.utc (Zone.instantOf 2024 5 18 17 0 0 * Calendar.second)).inZone z = .ok here ∧
        here.minutesSince (Date.toDay ⟨2024, 5, 12⟩) = 10080 + 120 := by
    refine ⟨_, rfl, _, rfl, ?_⟩
    decide +kernel
  have hsunday : weekday (Date.toDay ⟨2024, 5, 12⟩) = 0 := by decide
  refine ⟨rfl, by decide, hday, ⟨z, hz⟩, hsunday, ?_⟩
  refine (isOpenBy_iff_weekly rfl (by decide) hday hz hsunday).1.2
    ⟨here, hhere, _, List.mem_singleton_self _, 6, by decide, by decide, by decide, 0, ?_⟩
  rw [hminutes]
  decide

end Schedule

end FrontDesk
