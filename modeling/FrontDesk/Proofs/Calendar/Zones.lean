/-
Operating hours in zones that are not known.

Whatever an author stored for hours, they can be told open or not at every moment of the years 2 to
9998, and a name that no zone has counts as universal time. There is one exception: hours in a region
of zones, which is a name too, cannot be told at all (`isOpenBy_told_iff`, `region_untold`).
-/
import FrontDesk.Proofs.Calendar.Week
import Mathlib.Logic.Basic

namespace FrontDesk

open Calendar

namespace Calendar

namespace Zone

/-- The clocks of the zone are always less than a day ahead of universal time or behind it. -/
def Moderate (z : Zone) : Prop :=
  ∀ instant, -Calendar.day < z.offsetAt instant ∧ z.offsetAt instant < Calendar.day

/-- What can be relied on in a database of zones: all of them are moderate, and universal time has
its name. -/
structure Database.Sound (zones : Database) : Prop where
  moderate : ∀ name z, zones name = .zone z → z.Moderate
  utc : ∃ z, zones "UTC" = .zone z ∧ ∀ instant, z.offsetAt instant = 0

theorem utc_offsetAt (instant : Int) : utc.offsetAt instant = 0 := rfl

theorem utc_moderate : utc.Moderate := by
  intro instant
  rw [utc_offsetAt]
  decide

end Zone

/-! ## The zones of the table -/

/-- All offsets of a rule are less than a day. -/
def OffsetRule.isModerate : OffsetRule → Bool
  | fixed seconds => -86400 < seconds && seconds < 86400
  | yearly standard summer _ _ =>
    -86400 < standard && standard < 86400 && -86400 < summer && summer < 86400

theorem OffsetRule.offsetAt_moderate {rule : OffsetRule} (h : rule.isModerate = true) (t : Int) :
    -86400 < rule.offsetAt t ∧ rule.offsetAt t < 86400 := by
  cases rule with
  | fixed seconds => simpa [isModerate, offsetAt] using h
  | yearly standard summer forward back =>
    simp only [isModerate, Bool.and_eq_true, decide_eq_true_eq] at h
    have hseason : (yearly standard summer forward back).offsetAt t = summer ∨
        (yearly standard summer forward back).offsetAt t = standard := ite_eq_or_eq _ _ _
    rcases hseason with hsummer | hstandard
    · rw [hsummer]
      exact ⟨h.1.2, h.2⟩
    · rw [hstandard]
      exact h.1.1

theorem Zone.ruleAt_mem (z : Zone) (t : Int) : z.ruleAt t ∈ z.first :: z.eras.map Prod.snd := by
  obtain ⟨first, eras⟩ := z
  rw [ruleAt]
  induction eras generalizing first with
  | nil => exact List.mem_singleton_self first
  | cons era later ih =>
    obtain ⟨start, next⟩ := era
    simp only [List.foldl_cons, List.map_cons]
    split
    · exact List.mem_cons_of_mem first (ih next)
    · rcases List.mem_cons.1 (ih first) with hfirst | hlater
      · rw [hfirst]
        exact List.mem_cons_self
      · exact List.mem_cons_of_mem first (List.mem_cons_of_mem next hlater)

/-- A zone is moderate if all its rules are. -/
theorem Zone.moderate_of_rules {z : Zone}
    (h : (z.first :: z.eras.map Prod.snd).all OffsetRule.isModerate = true) : z.Moderate := by
  intro instant
  have hrule := List.all_eq_true.1 h _ (z.ruleAt_mem (instant / second))
  have hoffset := OffsetRule.offsetAt_moderate hrule (instant / second)
  rw [offsetAt, day_eq]
  generalize (z.ruleAt (instant / second)).offsetAt (instant / second) = seconds at hoffset
  rw [second_eq]
  omega

theorem Zone.table_moderate :
    Zone.table.all (fun e => (e.2.first :: e.2.eras.map Prod.snd).all OffsetRule.isModerate) =
      true := by
  decide

theorem Zone.lookup_sound : Zone.Database.Sound Zone.lookup where
  moderate name z h := by
    unfold Zone.lookup at h
    split at h
    next z' hz =>
      cases h
      obtain ⟨_, _, htable, -⟩ := List.lookup_eq_some_iff.1 hz
      have hmem : (name, z) ∈ Zone.table := by
        rw [htable]
        exact List.mem_append_right _ List.mem_cons_self
      exact Zone.moderate_of_rules (List.all_eq_true.1 Zone.table_moderate _ hmem)
    next => split at h <;> cases h
  utc := ⟨Zone.utc, rfl, Zone.utc_offsetAt⟩

/-! ## Moments that have a local time everywhere -/

theorem allDays_eq : allDays = 3652059 := rfl

theorem Date.year_ofDay (n : Nat) :
    (Date.ofDay n).year =
      400 * (n / 146097) + 100 * min 3 (n % 146097 / 36524) +
        4 * ((n % 146097 - min 3 (n % 146097 / 36524) * 36524) / 1461) +
        min 3 ((n % 146097 - min 3 (n % 146097 / 36524) * 36524) % 1461 / 365) + 1 := rfl

/-- A moment of the years 2 to 9998, on a clock that is less than a day from universal time. -/
structure Moment.Ordinary (m : Moment) : Prop where
  years : 2 ≤ m.date.year ∧ m.date.year ≤ 9998
  clock : ∀ offset, m.offset = some offset → -Calendar.day < offset ∧ offset < Calendar.day

theorem Moment.Ordinary.instant_bounds {m : Moment} (h : m.Ordinary) :
    2 * Calendar.day ≤ m.instant ∧ m.instant < ((allDays : Int) - 2) * Calendar.day := by
  obtain ⟨⟨hafter, hbefore⟩, hclock⟩ := h
  rw [Moment.date, Date.year_ofDay] at hafter hbefore
  have hfirst : 365 ≤ m.dayNumber := by omega
  have hlast : m.dayNumber < 3651694 := by omega
  rw [Moment.dayNumber, day_eq] at hfirst hlast
  rw [Moment.instant, allDays_eq, day_eq]
  cases ho : m.offset with
  | none =>
    rw [Option.getD_none]
    omega
  | some offset =>
    have hoffset := hclock offset ho
    rw [day_eq] at hoffset
    rw [Option.getD_some]
    omega

theorem Moment.Ordinary.inZone {m : Moment} {z : Zone} (h : m.Ordinary) (hz : z.Moderate) :
    ∃ here, m.inZone z = .ok here := by
  have hbounds := h.instant_bounds
  have hoffset := hz m.instant
  rw [allDays_eq, day_eq] at hbounds
  rw [day_eq] at hoffset
  have hhere : inRange m.instant = true := by
    rw [inRange, allDays_eq, day_eq, Bool.and_eq_true, decide_eq_true_eq, decide_eq_true_eq]
    omega
  have hthere : inRange (m.instant + z.offsetAt m.instant) = true := by
    rw [inRange, allDays_eq, day_eq, Bool.and_eq_true, decide_eq_true_eq, decide_eq_true_eq]
    omega
  exact ⟨_, if_pos (by rw [hhere, hthere, Bool.and_self])⟩

end Calendar

namespace Schedule

variable {zones : Zone.Database} {s : Schedule} {now : Moment}

/-! ## What becomes of hours -/

theorem isOpenBy_region (h : s.Binds) (hregion : zones s.zone = .region) :
    isOpenBy zones (some s) now = .error .regionAsZone := by
  rw [h.isOpenBy, zoneOf, hregion]
  rfl

theorem zoneOf_moderate (hzones : zones.Sound) {name : String} (h : zones name ≠ .region) :
    ∃ z, zoneOf zones name = .ok z ∧ z.Moderate := by
  unfold zoneOf
  cases hname : zones name with
  | zone z => exact ⟨z, rfl, hzones.moderate name z hname⟩
  | unknown => exact ⟨.utc, rfl, Zone.utc_moderate⟩
  | region => exact absurd hname h

theorem isOpenBy_told (hzones : zones.Sound) (hnow : now.Ordinary)
    (h : s.Binds → zones s.zone ≠ .region) : ∃ b, isOpenBy zones (some s) now = .ok b := by
  by_cases hbinds : s.Binds
  · obtain ⟨z, hz, hmoderate⟩ := zoneOf_moderate hzones (h hbinds)
    obtain ⟨here, hhere⟩ := hnow.inZone hmoderate
    rw [hbinds.isOpenBy, hz, Except.bind, hhere]
    exact ⟨_, rfl⟩
  · exact ⟨true, isOpenBy_of_not_binds hbinds⟩

/-- In a zone that is not known hours are as they are in universal time. -/
theorem isOpenBy_unknown (hzones : zones.Sound) (h : zones s.zone = .unknown) :
    isOpenBy zones (some s) now = isOpenBy zones (some { s with zone := "UTC" }) now := by
  obtain ⟨z, hz, hzero⟩ := hzones.utc
  have hsame : Binds { s with zone := "UTC" } ↔ s.Binds :=
    ⟨fun h => ⟨h.enabled, h.windows⟩, fun h => ⟨h.enabled, h.windows⟩⟩
  by_cases hbinds : s.Binds
  · have hunknown : zoneOf zones s.zone = .ok .utc := by rw [zoneOf, h]
    have hutc : zoneOf zones "UTC" = .ok z := by rw [zoneOf, hz]
    have hhere : now.inZone z = now.inZone .utc := by
      rw [Moment.inZone, Moment.inZone, hzero, Zone.utc_offsetAt]
    rw [hbinds.isOpenBy, (hsame.2 hbinds).isOpenBy, hunknown, hutc, Except.bind, Except.bind, hhere]
    rfl
  · rw [isOpenBy_of_not_binds hbinds, isOpenBy_of_not_binds fun h => hbinds (hsame.1 h)]

/-! ## What an author stored -/

theorem ofJson_put_timezone (ms : Entries Json) (zone : Json) :
    ofJson (.object (ms.put "timezone" zone)) = (ofJson (.object ms)).map fun s =>
      { s with zone := (Graph.optionalString zone).getD "UTC" } := by
  have hother : ∀ key, key ≠ "timezone" →
      (Json.object (ms.put "timezone" zone)).field key = (Json.object ms).field key := by
    intro key hkey
    simp only [Json.field, Json.get?, Entries.find?_put, if_neg hkey]
  have hzone : (Json.object (ms.put "timezone" zone)).field "timezone" = zone := by
    simp only [Json.field, Json.get?, Entries.find?_put, if_true, Option.getD_some]
  simp only [ofJson, Json.isObject, if_true, Option.map_some, hzone,
    hother "windows" (by decide), hother "enabled" (by decide),
    hother "fallbackMessage" (by decide)]

theorem zone_of_ofJson {raw : Json} (h : ofJson raw = some s) :
    s.zone = (Graph.optionalString (raw.field "timezone")).getD "UTC" := by
  unfold ofJson at h
  split at h
  · cases h
    rfl
  · cases h

theorem isOpenBy_stored_unknown (hzones : zones.Sound) {ms : Entries Json} {name : String}
    (hname : ms.find? "timezone" = some (.string name))
    (hunknown : name ≠ "" → zones name = .unknown) :
    isOpenBy zones (ofJson (.object ms)) now =
      isOpenBy zones (ofJson (.object (ms.put "timezone" (.string "UTC")))) now := by
  have hutc : Graph.optionalString (.string "UTC") = some "UTC" := rfl
  rw [ofJson_put_timezone, hutc, Option.getD_some]
  cases hs : ofJson (.object ms) with
  | none => rfl
  | some s =>
    have hzone : s.zone = (Graph.optionalString (.string name)).getD "UTC" := by
      rw [zone_of_ofJson hs, Json.field, Json.get?, hname, Option.getD_some]
    rw [Option.map_some]
    by_cases hempty : name = ""
    · -- an empty name is none
      have hsame : s = { s with zone := "UTC" } := by
        rw [hempty] at hzone
        obtain ⟨zone, windows, enabled, fallback⟩ := s
        cases hzone
        rfl
      rw [← hsame]
    · refine isOpenBy_unknown hzones ?_
      have hnonempty : Graph.optionalString (.string name) = some name := by
        simp [Graph.optionalString, Json.string?, Text.nonempty?, hempty]
      rw [hzone, hnonempty, Option.getD_some]
      exact hunknown hempty

/-- **Only a region of zones keeps hours from being told.** Take any stored hours and an ordinary
moment, on a known clock or not. It can be told whether they are open, unless they are enabled, have
windows, and lie in a region of zones; and then it cannot. If their zone is a text that is no name of
a zone or region, or empty, they are as they would be in universal time. -/
theorem isOpenBy_told_iff (hzones : zones.Sound) (hnow : now.Ordinary) (raw : Json) :
    ((∃ b, isOpenBy zones (ofJson raw) now = .ok b) ↔
      ¬ ∃ s, ofJson raw = some s ∧ s.enabled = true ∧ s.windows ≠ [] ∧
        zones s.zone = .region) ∧
    ((∃ e, isOpenBy zones (ofJson raw) now = .error e) →
      isOpenBy zones (ofJson raw) now = .error .regionAsZone) ∧
    ∀ (ms : Entries Json) (name : String), raw = .object ms →
      ms.find? "timezone" = some (.string name) → (name ≠ "" → zones name = .unknown) →
      isOpenBy zones (ofJson raw) now =
        isOpenBy zones (ofJson (.object (ms.put "timezone" (.string "UTC")))) now := by
  refine ⟨?_, ?_, ?_⟩
  · constructor
    · rintro ⟨b, hb⟩ ⟨s, hs, henabled, hwindows, hregion⟩
      rw [hs, isOpenBy_region ⟨henabled, hwindows⟩ hregion] at hb
      cases hb
    · intro hnone
      cases hs : ofJson raw with
      | none => exact ⟨true, rfl⟩
      | some s =>
        refine isOpenBy_told hzones hnow fun hbinds hregion => hnone ?_
        exact ⟨s, hs, hbinds.enabled, hbinds.windows, hregion⟩
  · rintro ⟨e, he⟩
    cases hs : ofJson raw with
    | none =>
      rw [hs] at he
      cases he
    | some s =>
      by_cases hregion : s.Binds ∧ zones s.zone = .region
      · exact isOpenBy_region hregion.1 hregion.2
      · obtain ⟨b, hb⟩ := isOpenBy_told hzones hnow fun hbinds hzone => hregion ⟨hbinds, hzone⟩
        rw [hs, hb] at he
        cases he
  · rintro ms name rfl hname hunknown
    exact isOpenBy_stored_unknown hzones hname hunknown

/-- Wednesday hours around noon, in a zone of the given name. -/
def wednesday (zone : String) : Entries Json :=
  [("timezone", .string zone),
   ("windows", .list [.object
      [("days", .list [.int 3]), ("start", .string "11:00"), ("end", .string "13:00")]])]

/-- Noon of a Wednesday, on no known clock. -/
def noon : Moment := ⟨Zone.instantOf 2024 5 15 12 0 0 * Calendar.second, none⟩

/-- Olympus is no zone, so the hours there are those of universal time, and it is noon. -/
theorem olympus_told :
    Zone.lookup.Sound ∧ noon.Ordinary ∧ Zone.lookup "Mars/Olympus" = .unknown ∧
      (∃ b, isOpenBy Zone.lookup (ofJson (.object (wednesday "Mars/Olympus"))) noon = .ok b) ∧
      isOpenBy Zone.lookup (ofJson (.object (wednesday "Mars/Olympus"))) noon =
        isOpenBy Zone.lookup (ofJson (.object (wednesday "UTC"))) noon := by
  have hnoon : noon.Ordinary := ⟨by decide, fun _ h => by cases h⟩
  have hunknown : Zone.lookup "Mars/Olympus" = .unknown := by decide
  obtain ⟨htold, -, hutc⟩ :=
    isOpenBy_told_iff Zone.lookup_sound hnoon (.object (wednesday "Mars/Olympus"))
  refine ⟨Zone.lookup_sound, hnoon, hunknown, htold.2 ?_, ?_⟩
  · rintro ⟨s, hs, -, -, hregion⟩
    have hzone : s.zone = "Mars/Olympus" := by
      rw [zone_of_ofJson hs]
      rfl
    rw [hzone, hunknown] at hregion
    cases hregion
  · exact hutc _ "Mars/Olympus" rfl rfl fun _ => hunknown

/-- **A region of zones keeps hours from being told**, at a moment at which those of universal time
are open. -/
theorem region_untold :
    isOpen (ofJson (.object (wednesday "America"))) noon = .error .regionAsZone ∧
      isOpen (ofJson (.object (wednesday "UTC"))) noon = .ok true :=
  ⟨rfl, rfl⟩

end Schedule

end FrontDesk
