/-
Two stores abreast.

Two stores are abreast on a ticket if they match on it whenever they are read, however many of its
sessions go on. The one that is given out is the newest of these. As the times of creation are the
same in both files, it is given out from the same place (`Store.Abreast.activeSession`).
-/
import FrontDesk.Proofs.Store.Lockstep
import Mathlib.Data.List.Forall2

namespace FrontDesk.Store

open Calendar

/-- Two stores match on a ticket at any time, and what is at hand has its place in both. -/
structure Abreast (ticketId : String) (stage : Stage) (st st' : Store) : Prop where
  matched : ∀ time, Matched ticketId time st st'
  atHand : ∀ key key', stage = .holding key key' →
    ∀ time, ∃ n, Places ticketId time n key key' st st'

/-- Two sessions of a ticket stand in one place of its files, and differ in their ids only. -/
structure Twins (ticketId : String) (st st' : Store) (s s' : Session) : Prop where
  ticket : s.ticketId = ticketId
  like : s' = { s with id := s'.id }
  place : ∀ time, ∃ n, Places ticketId time n s.id s'.id st st'

variable {st st' : Store} {now time : Moment} {ticketId key key' : String} {stage : Stage}

/-! ## The newest -/

namespace Memory

variable {R : Session → Session → Prop} {a a' b b' : Session} {l l' : List Session}

theorem newer_both (hR : ∀ s s', R s s' → s'.createdAt = s.createdAt) (ha : R a a')
    (hb : R b b') :
    (∃ e, newer a b = .error e ∧ newer a' b' = .error e) ∨
      ∃ c c', newer a b = .ok c ∧ newer a' b' = .ok c' ∧ R c c' := by
  unfold newer
  rw [hR a a' ha, hR b b' hb]
  cases a.createdAt.isBefore b.createdAt with
  | error e => exact .inl ⟨_, rfl, rfl⟩
  | ok later =>
    cases later with
    | false => exact .inr ⟨a, a', rfl, rfl, ha⟩
    | true => exact .inr ⟨b, b', rfl, rfl, hb⟩

/-- Of sessions that are related one to one and created at the same times, related ones are the
newest. -/
theorem newest_both (hR : ∀ s s', R s s' → s'.createdAt = s.createdAt)
    (h : List.Forall₂ R l l') :
    (∃ e, newest l = .error e ∧ newest l' = .error e) ∨
      (newest l = .ok none ∧ newest l' = .ok none) ∨
      ∃ s s', newest l = .ok (some s) ∧ newest l' = .ok (some s') ∧ R s s' := by
  cases h with
  | nil => exact .inr (.inl ⟨rfl, rfl⟩)
  | @cons a a' l l' ha hl =>
    have hfold : (∃ e, l.foldlM newer a = .error e ∧ l'.foldlM newer a' = .error e) ∨
        ∃ s s', l.foldlM newer a = .ok s ∧ l'.foldlM newer a' = .ok s' ∧ R s s' := by
      induction hl generalizing a a' with
      | nil => exact .inr ⟨a, a', rfl, rfl, ha⟩
      | @cons b b' l l' hb _ ih =>
        rw [List.foldlM_cons, List.foldlM_cons]
        rcases newer_both hR ha hb with ⟨e, herror, herror'⟩ | ⟨c, c', hc, hc', hrelated⟩
        · rw [herror, herror']
          exact .inl ⟨e, rfl, rfl⟩
        · rw [hc, hc']
          exact ih hrelated
    rcases hfold with ⟨e, herror, herror'⟩ | ⟨s, s', hs, hs', hrelated⟩
    · simp only [newest, herror, herror']
      exact .inl ⟨e, rfl, rfl⟩
    · simp only [newest, hs, hs']
      exact .inr (.inr ⟨s, s', rfl, rfl, hrelated⟩)

end Memory

theorem Relational.newest_both {R : SessionRow → SessionRow → Prop}
    (hR : ∀ r r', R r r' → r'.createdAt = r.createdAt) {l l' : List SessionRow}
    (h : List.Forall₂ R l l') :
    (newest l = none ∧ newest l' = none) ∨
      ∃ r r', newest l = some r ∧ newest l' = some r' ∧ R r r' := by
  cases h with
  | nil => exact .inl ⟨rfl, rfl⟩
  | cons ha hl =>
    refine .inr ⟨_, _, rfl, rfl, List.rel_foldl (fun a a' ha b b' hb => ?_) ha hl⟩
    rw [hR a a' ha, hR b b' hb]
    split
    · exact hb
    · exact ha

/-! ## Going on abreast -/

theorem keys_file_eq (ticketId : String) (now time : Moment) (st : Store) :
    (st.file ticketId time).keys = (st.file ticketId now).keys := by
  rw [keys_file, keys_file]
  cases st with
  | memory m => rfl
  | relational t =>
    simp only [table, Entries.mapValues, Entries.keys, List.filter_map, List.map_map,
      Function.comp_def, SessionRow.session]

namespace Abreast

theorem refl (h : st.Tidy) (ticketId : String) : Abreast ticketId .fresh st st :=
  ⟨fun _ => ⟨h, h, rfl, rfl⟩, fun _ _ => nofun⟩

theorem twins (h : Abreast ticketId stage st st') (now : Moment) :
    List.Forall₂ (Twins ticketId st st') ((st.sessions now).filter (·.isActiveOn ticketId))
      ((st'.sessions now).filter (·.isActiveOn ticketId)) := by
  rw [(sessions_active ticketId now st).1, (sessions_active ticketId now st').1]
  have hall : List.Forall₂ (Twins ticketId st st')
      (Entries.values ((st.table now).filter (·.2.ticketId == ticketId)))
      (Entries.values ((st'.table now).filter (·.2.ticketId == ticketId))) := by
    have hmatched := h.matched now
    refine List.forall₂_iff_get.2 ⟨?_, fun n hn hn' => ?_⟩
    · simpa [file, Entries.values] using (congrArg List.length hmatched.values).symm
    obtain ⟨hticket, hkey, trail, hvalue⟩ :=
      hmatched.tidy.file_at (List.getElem?_eq_getElem hn)
    obtain ⟨-, hkey', trail', hvalue'⟩ := hmatched.tidy'.file_at (List.getElem?_eq_getElem hn')
    rw [hmatched.values, hvalue] at hvalue'
    refine ⟨hticket, Session.eq_of_nameless (Folder.mk.inj (Option.some.inj hvalue')).1.symm,
      fun time => ⟨n, ?_, ?_⟩⟩
    · rw [keys_file_eq ticketId now time]
      exact hkey
    · rw [keys_file_eq ticketId now time]
      exact hkey'
  refine List.rel_filter (fun s s' hs => ?_) hall
  rw [hs.like]
  exact Iff.rfl

/-- The newest session of the ticket that goes on has its twin in the other store. -/
theorem activeSession (h : Abreast ticketId stage st st') (now : Moment) :
    (∃ e, st.activeSession ticketId now = .error e ∧ st'.activeSession ticketId now = .error e) ∨
      (st.activeSession ticketId now = .ok none ∧ st'.activeSession ticketId now = .ok none) ∨
      ∃ s s', st.activeSession ticketId now = .ok (some s) ∧
        st'.activeSession ticketId now = .ok (some s') ∧ Twins ticketId st st' s s' := by
  have htwins := h.twins now
  have htime : ∀ s s', Twins ticketId st st' s s' → s'.createdAt = s.createdAt := by
    intro s s' hs
    rw [hs.like]
  rcases bare_cases (h.matched now).bare with ⟨m, m', rfl, rfl, -⟩ | ⟨t, t', rfl, rfl, -⟩
  · exact Memory.newest_both htime htwins
  · simp only [sessions, table, Entries.values_mapValues, List.filter_map] at htwins
    have hrows : List.Forall₂
        (fun r r' => Twins ticketId (relational t) (relational t') (r.session now) (r'.session now))
        (t.sessions.values.filter (·.isActiveOn ticketId))
        (t'.sessions.values.filter (·.isActiveOn ticketId)) :=
      List.forall₂_map_left_iff.1 (List.forall₂_map_right_iff.1 htwins)
    right
    simp only [Store.activeSession, answer, Relational.answer]
    rcases Relational.newest_both (fun r r' hr => htime _ _ hr) hrows with
      ⟨hnone, hnone'⟩ | ⟨r, r', hr, hr', hrelated⟩
    · rw [hnone, hnone']
      exact .inl ⟨rfl, rfl⟩
    · rw [hr, hr']
      exact .inr ⟨r.session now, r'.session now, rfl, rfl, hrelated⟩

/-- What is revised in both stores, in the place of what is at hand or another, leaves them
abreast. -/
theorem revised {st₁ st₁' : Store} {a : Bool → Bool} (h : Abreast ticketId stage st st')
    (hplaces : ∀ time, ∃ n, Places ticketId time n key key' st st')
    (hrevised : ∀ {time : Moment} {n : Nat}, Matched ticketId time st st' →
      Places ticketId time n key key' st st' → Revised ticketId time n a st st' st₁ st₁') :
    Abreast ticketId stage st₁ st₁' := by
  refine ⟨fun time => ?_, fun k k' hstage time => ?_⟩
  · obtain ⟨n, hn⟩ := hplaces time
    exact (hrevised (h.matched time) hn).matched
  · obtain ⟨n, hn⟩ := hplaces time
    obtain ⟨m, hm⟩ := h.atHand k k' hstage time
    exact ⟨m, (hrevised (h.matched time) hn).places hm⟩

theorem saveSession {s : Session} (h : Abreast ticketId (.holding s.id key') st st')
    (hs : s.ticketId = ticketId) (now : Moment) (id id' : String) :
    (st.Declines now id (.saveSession s) ∧
        st'.Declines now id' (.saveSession { s with id := key' })) ∨
      ∃ (x : Session) (st₁ st₁' : Store), x.id = s.id ∧ x.ticketId = ticketId ∧
        st.answer now id (.saveSession s) = (.ok x, st₁) ∧
        st'.answer now id' (.saveSession { s with id := key' }) =
          (.ok { x with id := key' }, st₁') ∧
        Abreast ticketId (.holding s.id key') st₁ st₁' := by
  have hplaces := h.atHand _ _ rfl
  obtain ⟨n, hn⟩ := hplaces now
  rcases (h.matched now).saveSession hn hs id id' with
    hdeclines | ⟨x, st₁, st₁', hid, hx, hanswer, hanswer', hrevised⟩
  · exact .inl hdeclines
  · exact .inr ⟨x, st₁, st₁', hid, hx, hanswer, hanswer', h.revised hplaces hrevised⟩

theorem openSession {o : Opening} (h : Abreast ticketId .vacant st st')
    (ho : o.ticketId = ticketId) {id id' : String} (hid : st.Unused now id)
    (hid' : st'.Unused now id') :
    (st.Declines now id (.openSession o) ∧ st'.Declines now id' (.openSession o)) ∨
      ∃ (s : Session) (st₁ st₁' : Store), s.ticketId = ticketId ∧
        st.answer now id (.openSession o) = (.ok s, st₁) ∧
        st'.answer now id' (.openSession o) = (.ok { s with id := id' }, st₁') ∧
        Abreast ticketId (.holding s.id id') st₁ st₁' := by
  rcases (h.matched now).openSession ho hid hid' with
    hdeclines | ⟨s, st₁, st₁', hs, hticket, hanswer, hanswer', hopened⟩
  · exact .inl hdeclines
  refine .inr ⟨s, st₁, st₁', hticket, hanswer, hanswer', fun time => (hopened (h.matched time)).1,
    fun key key' hstage time => ?_⟩
  cases hstage
  rw [hs]
  exact ⟨_, (hopened (h.matched time)).2.2⟩

theorem record {i : Interaction} (h : Abreast ticketId (.holding i.sessionId key') st st')
    (now : Moment) (id id' : String) :
    (st.Declines now id (.record i) ∧
        st'.Declines now id' (.record { i with sessionId := key' })) ∨
      ∃ st₁ st₁' : Store, st.answer now id (.record i) = (.ok (), st₁) ∧
        st'.answer now id' (.record { i with sessionId := key' }) = (.ok (), st₁') ∧
        Abreast ticketId (.holding i.sessionId key') st₁ st₁' := by
  have hplaces := h.atHand _ _ rfl
  obtain ⟨n, hn⟩ := hplaces now
  rcases (h.matched now).record hn id id' with hdeclines | ⟨st₁, st₁', hanswer, hanswer', hrevised⟩
  · exact .inl hdeclines
  · exact .inr ⟨st₁, st₁', hanswer, hanswer', h.revised hplaces hrevised⟩

theorem rivalled (h : Abreast ticketId stage st st') (now : Moment) (id id' : String) :
    Abreast ticketId stage (st.rivalled now id ticketId) (st'.rivalled now id' ticketId) := by
  rw [Store.rivalled, Store.rivalled]
  rcases h.activeSession now with
    ⟨e, herror, herror'⟩ | ⟨hnone, hnone'⟩ | ⟨s, s', hs, hs', hticket, hlike, hplaces⟩
  · rwa [herror, herror']
  · rwa [hnone, hnone']
  rw [hs, hs']
  obtain ⟨n, hn⟩ := hplaces now
  have hsave := (h.matched now).saveSession hn hticket id id'
  rw [← hlike] at hsave
  rcases hsave with
    ⟨⟨e, herror⟩, e', herror'⟩ | ⟨x, st₁, st₁', -, -, hanswer, hanswer', hrevised⟩
  · simpa only [herror, herror'] using h
  · simp only [hanswer, hanswer']
    exact h.revised hplaces hrevised

end Abreast

end FrontDesk.Store
