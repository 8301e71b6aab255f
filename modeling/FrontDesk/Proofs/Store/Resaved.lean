/-
Sessions saved as they were found.

To save a session as it was found changes its version and the time of its last change, and nothing
else of it. Stores in which nothing but this was done to sessions (`Store.Resaved`) have the same
flows, and give out the same session as the one that goes on under a ticket
(`Store.Resaved.activeSession`).
-/
import FrontDesk.Proofs.Store.Abreast
import FrontDesk.Proofs.Store.Book

namespace FrontDesk

open Calendar Store

/-- The session after it was saved as it was found, however often. -/
def Session.Resaved (s s' : Session) : Prop :=
  ∃ version updatedAt, s.version ≤ version ∧ s' = { s with version, updatedAt }

namespace Session.Resaved

variable {s s' : Session}

theorem refl (s : Session) : s.Resaved s := ⟨s.version, s.updatedAt, Int.le_refl _, rfl⟩

theorem kin (h : s.Resaved s') : s.Kin s' := by
  obtain ⟨version, time, -, rfl⟩ := h
  exact ⟨rfl, rfl, rfl, rfl, rfl⟩

end Session.Resaved

/-- Of two records of a session that were both made by saving it as it was found, what is noted of
the one in the place of the other is made so too. -/
theorem Session.Noted.resaved {s cur u new : Session} (h : cur.Noted u new) (hcur : s.Resaved cur)
    (hu : s.Resaved u) (hopen : s.completedAt = none) : s.Resaved new := by
  obtain ⟨version, time, -, rfl⟩ := hcur
  obtain ⟨version', time', hle, rfl⟩ := hu
  have hcompleted := h.completed
  simp only [hopen, Option.isSome_none, Option.isSome_eq_false_iff,
    Option.isNone_iff_eq_none] at hcompleted
  refine ⟨new.version, new.updatedAt, ?_, ?_⟩
  · rw [h.version]
    exact Int.le_trans hle (Int.le_add_one (Int.le_refl _))
  · obtain ⟨⟨hid, hflow, hticket, hcontact, hcreated⟩, hstate, hnode, -, -, htransferred⟩ := h
    cases new
    simp_all

namespace Entries

variable {α β : Type} {R : α → β → Prop} {es : Entries α} {es' : Entries β} {key : String}

/-- The same keys, in the same order, and under each of them related values. -/
abbrev Both (R : α → β → Prop) (es : Entries α) (es' : Entries β) : Prop :=
  List.Forall₂ (fun e e' => e'.1 = e.1 ∧ R e.2 e'.2) es es'

theorem Both.find? (h : Both R es es') {a : α} (ha : es.find? key = some a) :
    ∃ b, es'.find? key = some b ∧ R a b := by
  induction h with
  | nil => cases ha
  | @cons e e' _ _ he _ ih =>
    rw [find?_cons] at ha ⊢
    rw [he.1]
    split at ha
    next hk =>
      cases ha
      exact ⟨e'.2, if_pos hk, he.2⟩
    next hk =>
      rw [if_neg hk]
      exact ih ha

theorem Both.put (h : Both R es es') {a : α} {b : β} (ha : es.find? key = some a) (hb : R a b) :
    Both R es (es'.put key b) := by
  induction h with
  | nil => cases ha
  | @cons e e' _ _ he hrest ih =>
    rw [find?_cons] at ha
    rw [Entries.put]
    by_cases hk : key = e.1
    · rw [if_pos (beq_iff_eq.2 hk), Option.some.injEq] at ha
      rw [if_pos (beq_iff_eq.2 (he.1.trans hk.symm))]
      exact .cons ⟨he.1, ha ▸ hb⟩ hrest
    · rw [if_neg (mt beq_iff_eq.1 hk)] at ha
      rw [if_neg (mt beq_iff_eq.1 fun hkey => hk (hkey.symm.trans he.1))]
      exact .cons he (ih ha)

theorem Both.find?_right (h : Both R es es') {b : β} (hb : es'.find? key = some b) :
    ∃ a, es.find? key = some a ∧ R a b := by
  have hflip : Both (fun b a => R a b) es' es := h.flip.imp fun _ _ he => ⟨he.1.symm, he.2⟩
  exact hflip.find? hb

theorem Both.values (h : Both R es es') : List.Forall₂ R es.values es'.values :=
  List.forall₂_map_left_iff.2 (List.forall₂_map_right_iff.2 (h.imp fun _ _ he => he.2))

end Entries

namespace Store

/-- A store has become another, and all that was done to its sessions is that some were saved as
they were found. -/
structure Resaved (st st' : Store) : Prop where
  tidy : st'.Tidy
  steady : st'.Steady
  make : st'.isRelational = st.isRelational
  catalog : st'.catalog = st.catalog
  book : Entries.Both Session.Resaved st.book st'.book

/-- What is asked of a store leaves sessions as they are, or is that one be saved as it was found. -/
def Request.Resaves (st : Store) : Request → Prop
  | .flow _ | .activeSession _ | .record _ => True
  | .saveSession u =>
    ∃ s, st.book.find? u.id = some s ∧ s.completedAt = none ∧ s.Resaved u
  | _ => False

variable {st st' : Store} {now : Moment} {id ticketId : String}

theorem storable_of_rows (hrows : st.isRelational = true) {key : String} {s : Session}
    (hfind : st.book.find? key = some s) : s.state.Storable := by
  cases st with
  | memory m => cases hrows
  | relational t =>
    rw [book, table, Entries.find?_mapValues] at hfind
    obtain ⟨row, -, rfl⟩ := Option.map_eq_some_iff.1 hfind
    exact State.ofJson_storable (Moment.utc 0).isoText_ne_empty row.state

namespace Resaved

theorem refl (htidy : st.Tidy) (hsteady : st.Steady) : Resaved st st where
  tidy := htidy
  steady := hsteady
  make := rfl
  catalog := rfl
  book := List.forall₂_same.2 fun e _ => ⟨rfl, .refl e.2⟩

theorem activeSession (h : Resaved st st') (hst : st.Steady) {s : Session}
    (hs : st.activeSession ticketId now = .ok (some s)) (time : Moment) :
    ∃ s', st'.activeSession ticketId time = .ok (some s') ∧ s.Resaved s' := by
  have hactive : List.Forall₂ Session.Resaved (st.book.values.filter (·.isActiveOn ticketId))
      (st'.book.values.filter (·.isActiveOn ticketId)) := by
    refine List.rel_filter ?_ h.book.values
    rintro s _ ⟨version, time, -, rfl⟩
    exact Iff.rfl
  have htime {s s' : Session} (h : s.Resaved s') : s'.createdAt = s.createdAt :=
    h.kin.createdAt.symm
  cases st with
  | memory m =>
    cases st' with
    | relational t' => cases h.make
    | memory m' =>
      rcases Memory.newest_both (fun _ _ => htime) hactive with
        ⟨e, herror, -⟩ | ⟨hnone, -⟩ | ⟨x, x', hx, hx', hsame⟩
      · cases hs.symm.trans herror
      · cases hs.symm.trans hnone
      · cases hs.symm.trans hx
        exact ⟨x', hx', hsame⟩
  | relational t =>
    cases st' with
    | memory m' => cases h.make
    | relational t' =>
      simp only [Store.book, Store.table, Entries.values_mapValues, List.filter_map] at hactive
      have hrows : List.Forall₂
          (fun r r' => (r.session (.utc 0)).Resaved (r'.session (.utc 0)))
          (t.sessions.values.filter (·.isActiveOn ticketId))
          (t'.sessions.values.filter (·.isActiveOn ticketId)) :=
        List.forall₂_map_left_iff.1 (List.forall₂_map_right_iff.1 hactive)
      simp only [Store.activeSession, answer, Relational.answer, Except.ok.injEq] at hs ⊢
      rcases Relational.newest_both (fun _ _ hr => htime hr) hrows with
        ⟨hnone, -⟩ | ⟨r, r', hr, hr', hsame⟩
      · rw [hnone] at hs
        cases hs
      · rw [hr, Option.map_some, Option.some.injEq] at hs
        have hr_mem := (List.mem_filter.1 (Relational.newest_mem hr)).1
        have hr_mem' := (List.mem_filter.1 (Relational.newest_mem hr')).1
        refine ⟨r'.session time, by rw [hr']; rfl, ?_⟩
        rw [← hs, (hst r hr_mem).session now (.utc 0), (h.steady r' hr_mem').session time (.utc 0)]
        exact hsame

theorem found (h : Resaved st st') {u : Session}
    (hu : st'.activeSession ticketId now = .ok (some u)) :
    st'.book.find? u.id = some u ∧ u.completedAt = none := by
  have hanswer : (st'.answer now "" (.activeSession ticketId)).1 = .ok (some u) := hu
  obtain ⟨hmem, hactive⟩ := (activeSession_book h.steady hanswer).1 u rfl
  simp only [Session.isActiveOn, Session.isActive, Bool.and_eq_true,
    Option.isNone_iff_eq_none] at hactive
  exact ⟨(h.tidy.table (.utc 0)).find?_of_mem hmem, hactive.2⟩

theorem resaves (h : Resaved st st') {u : Session}
    (hu : st'.activeSession ticketId now = .ok (some u)) : (Request.saveSession u).Resaves st := by
  obtain ⟨hfind, hopen⟩ := h.found hu
  obtain ⟨s, hs, hsame⟩ := h.book.find?_right hfind
  refine ⟨s, hs, ?_, hsame⟩
  obtain ⟨_, _, -, rfl⟩ := hsame
  exact hopen

theorem saveSession (h : Resaved st st') {s u : Session}
    (hfind : st.book.find? u.id = some s) (hopen : s.completedAt = none) (hu : s.Resaved u)
    (now : Moment) (id : String) : Resaved st (st'.answer now id (.saveSession u)).2 := by
  obtain ⟨cur, hcur, hsame⟩ := h.book.find? hfind
  have hstate (hrows : st'.isRelational = true) : u.state.Storable := by
    have hsame : u.state = s.state := by
      obtain ⟨_, _, -, rfl⟩ := hu
      rfl
    exact hsame ▸ storable_of_rows (h.make.symm.trans hrows) hfind
  have hkin : ∀ old, st'.book.find? u.id = some old → old.Kin u := by
    intro old hold
    obtain rfl : cur = old := Option.some.inj (hcur.symm.trans hold)
    exact hsame.kin.symm.trans hu.kin
  rcases saveSession_book h.steady now id hstate hkin with
    ⟨e, he⟩ | ⟨old, new, st₁, hanswer, hold, -, hnoted, hsteady, hbook, -⟩
  · rw [he]
    exact h
  obtain rfl : cur = old := Option.some.inj (hcur.symm.trans hold)
  refine ⟨h.tidy.answer now id _, ?_, (isRelational_answer ..).trans h.make,
    (catalog_answer rfl).trans h.catalog, ?_⟩
  · rw [hanswer]
    exact hsteady
  · rw [hanswer, hbook]
    exact h.book.put hfind (hnoted.resaved hsame hu hopen)

theorem untouched (h : Resaved st st') {r : Request} (hsessions : r.touchesSessions = false)
    (hflows : r.edits = false) (now : Moment) (id : String) :
    Resaved st (st'.answer now id r).2 := by
  obtain ⟨hbook, hsteady⟩ := book_answer st' now id hsessions
  exact ⟨h.tidy.answer now id r, hsteady h.steady, (isRelational_answer ..).trans h.make,
    (catalog_answer hflows).trans h.catalog, hbook ▸ h.book⟩

/-- **What is asked of a store leaves it so.** -/
theorem answer (h : Resaved st st') {r : Request} (hr : r.Resaves st) (now : Moment)
    (id : String) : Resaved st (st'.answer now id r).2 := by
  cases r with
  | saveSession u =>
    obtain ⟨s, hfind, hopen, hu⟩ := hr
    exact h.saveSession hfind hopen hu now id
  | flow | activeSession | record => exact h.untouched rfl rfl now id
  | _ => cases hr

end Resaved

end Store

end FrontDesk
