/-
Two stores in step.

Two stores match on a ticket of which one session at most goes on. How far the conversation on it is
under way is its stage (`Stage`): nothing is known yet, or that none goes on, or which session is at
hand. Asked alike at a stage, both stores go on to the next stage in step
(`Store.InStep.openSession`, `activeSession`, `saveSession`, `record`).
-/
import FrontDesk.Proofs.Store.Matched

namespace FrontDesk

open Calendar Store

/-! ## At most one -/

/-- One of some truth values at most is true. -/
def AtMostOne (bs : List Bool) : Prop :=
  ∀ m n : Nat, bs[m]? = some true → bs[n]? = some true → m = n

namespace AtMostOne

variable {α : Type} {p : α → Bool} {l : List α}

theorem tail {b : Bool} {bs : List Bool} (h : AtMostOne (b :: bs)) : AtMostOne bs := by
  intro m n hm hn
  have := h (m + 1) (n + 1) (by simpa using hm) (by simpa using hn)
  omega

theorem filter_cases (h : AtMostOne (l.map p)) :
    (l.filter p = [] ∧ ∀ n : Nat, (l.map p)[n]? ≠ some true) ∨
      ∃ (n : Nat) (a : α), l[n]? = some a ∧ p a = true ∧ l.filter p = [a] := by
  induction l with
  | nil => simp
  | cons a rest ih =>
    rw [List.map_cons] at h
    cases ha : p a with
    | true =>
      -- those behind it are not selected
      right
      refine ⟨0, a, rfl, ha, ?_⟩
      rw [List.filter_cons, if_pos ha, List.filter_eq_nil_iff.2]
      intro b hb hpb
      obtain ⟨n, hn⟩ := List.mem_iff_getElem?.1 hb
      have := h 0 (n + 1) (by simp [ha]) (by simp [hn, hpb])
      omega
    | false =>
      rw [List.filter_cons, if_neg (by simp [ha])]
      rcases ih h.tail with ⟨hnil, hnone⟩ | ⟨n, b, hn, hb, hfilter⟩
      · refine .inl ⟨hnil, fun n => ?_⟩
        cases n with
        | zero => simp [ha]
        | succ n => simpa using hnone n
      · exact .inr ⟨n + 1, b, by simpa using hn, hb, hfilter⟩

theorem of_length_filter (h : (l.filter p).length ≤ 1) : AtMostOne (l.map p) := by
  induction l with
  | nil => simp [AtMostOne]
  | cons a rest ih =>
    rw [List.filter_cons] at h
    have hnone (ha : p a = true) (n : Nat) : (rest.map p)[n]? ≠ some true := by
      rw [if_pos ha, List.length_cons] at h
      have hnil : rest.filter p = [] := List.eq_nil_of_length_eq_zero (by omega)
      intro hn
      obtain ⟨b, hb, hpb⟩ := List.mem_map.1 (List.mem_of_getElem? hn)
      exact List.filter_eq_nil_iff.1 hnil b hb hpb
    have hrest : AtMostOne (rest.map p) := by
      refine ih ?_
      split at h
      · exact Nat.le_trans (Nat.le_of_lt (Nat.lt_succ_self _)) h
      · exact h
    intro m n hm hn
    cases m with
    | zero =>
      cases n with
      | zero => rfl
      | succ n => exact absurd (by simpa using hn) (hnone (by simpa using hm) n)
    | succ m =>
      cases n with
      | zero => exact absurd (by simpa using hm) (hnone (by simpa using hn) m)
      | succ n => rw [hrest m n (by simpa using hm) (by simpa using hn)]

end AtMostOne

/-! ## Stages -/

/-- How far the conversation on a ticket is under way, in two stores at once. -/
inductive Stage where
  /-- It is not known whether one goes on. -/
  | fresh
  /-- None goes on. -/
  | vacant
  /-- The session at hand has these ids. -/
  | holding (key key' : String)

namespace Store

/-- What a stage says where one session of the ticket at most goes on. -/
def Fits (ticketId : String) (now : Moment) (st st' : Store) : Stage → Prop
  | .fresh => AtMostOne (st.flags ticketId now)
  | .vacant => ∀ n : Nat, (st.flags ticketId now)[n]? ≠ some true
  | .holding key key' => ∃ n, Places ticketId now n key key' st st' ∧
      ∀ m : Nat, (st.flags ticketId now)[m]? = some true → m = n

/-- Two stores are in step on a ticket. -/
structure InStep (ticketId : String) (now : Moment) (stage : Stage) (st st' : Store) : Prop where
  tidy : st.Tidy
  tidy' : st'.Tidy
  bare : st'.bare = st.bare
  values : (st'.file ticketId now).values = (st.file ticketId now).values
  fits : Fits ticketId now st st' stage

variable {st st' st₁ st₁' : Store} {now : Moment} {ticketId key key' : String} {n : Nat}
  {stage : Stage}

/-- Where one session of a ticket at most goes on, none does, or one that has a place in the
file. -/
theorem Tidy.active_cases (h : st.Tidy) (hone : AtMostOne (st.flags ticketId now)) :
    ((st.sessions now).filter (·.isActiveOn ticketId) = [] ∧
        ∀ n : Nat, (st.flags ticketId now)[n]? ≠ some true) ∨
      ∃ (n : Nat) (s : Session) (trail : List Interaction),
        (st.sessions now).filter (·.isActiveOn ticketId) = [s] ∧ s.ticketId = ticketId ∧
        s.isActive = true ∧ (st.file ticketId now).keys[n]? = some s.id ∧
        (st.file ticketId now).values[n]? = some ⟨s.nameless, trail⟩ := by
  obtain ⟨hsessions, hflags⟩ := sessions_active ticketId now st
  rw [hsessions]
  rw [hflags] at hone ⊢
  rcases hone.filter_cases with hnone | ⟨n, s, hn, hs, hfilter⟩
  · exact .inl hnone
  right
  obtain ⟨hticket, hkey, trail, hvalue⟩ := h.file_at hn
  exact ⟨n, s, trail, hfilter, hticket, hs, hkey, hvalue⟩

/-! ## Going on in step -/

namespace InStep

theorem fresh (h : InStep ticketId now stage st st') : InStep ticketId now .fresh st st' := by
  refine ⟨h.tidy, h.tidy', h.bare, h.values, ?_⟩
  have hfits := h.fits
  cases stage with
  | fresh => exact hfits
  | vacant => exact fun m _ hm _ => absurd hm (hfits m)
  | holding key key' =>
    obtain ⟨n, -, honly⟩ := hfits
    intro m m' hm hm'
    rw [honly m hm, honly m' hm']

theorem matched (h : InStep ticketId now stage st st') : Matched ticketId now st st' :=
  ⟨h.tidy, h.tidy', h.bare, h.values⟩

theorem of_matched (h : Matched ticketId now st st') (hfits : Fits ticketId now st st' stage) :
    InStep ticketId now stage st st' :=
  ⟨h.tidy, h.tidy', h.bare, h.values, hfits⟩

/-- Stores in which the folder in one place was revised are in step still, if the session there is
the one at hand, or goes on as it did. -/
theorem revised (h : InStep ticketId now stage st st') (hn : Places ticketId now n key key' st st')
    {a : Bool → Bool} (hrevised : Revised ticketId now n a st st' st₁ st₁')
    (hstage : stage = .holding key key' ∨
      ∀ b, (st.flags ticketId now)[n]? = some b → a b = b) :
    InStep ticketId now stage st₁ st₁' := by
  obtain ⟨hmatched, hflags, hplaces⟩ := hrevised
  refine .of_matched hmatched ?_
  have hfits := h.fits
  rcases hstage with rfl | hsame
  · -- whether the session at hand goes on does not matter
    obtain ⟨n', hn', honly⟩ := hfits
    refine ⟨n, hplaces hn, fun m hm => ?_⟩
    have hnn : n = n' := by
      have hnodup := h.tidy.keys_file ticketId now
      have hlt := (List.getElem?_eq_some_iff.1 hn.1).1
      exact (List.getElem?_inj hlt hnodup).1 (hn.1.trans hn'.1.symm)
    by_cases hm' : n = m
    · exact hm'.symm
    · rw [hflags, List.getElem?_modify_ne _ _ hm'] at hm
      rw [hnn, honly m hm]
  · have hflags' : st₁.flags ticketId now = st.flags ticketId now := by
      refine List.ext_getElem? fun m => ?_
      rw [hflags, List.getElem?_modify]
      by_cases hm : n = m
      · subst hm
        cases hb : (st.flags ticketId now)[n]? with
        | none => rfl
        | some b => simp [hsame b hb]
      · simp [hm]
    cases stage with
    | fresh | vacant =>
      rw [Fits, hflags']
      exact hfits
    | holding k k' =>
      obtain ⟨m, hm, honly⟩ := hfits
      refine ⟨m, hplaces hm, fun m' hm' => honly m' ?_⟩
      rwa [hflags'] at hm'

theorem activeSession (h : InStep ticketId now .fresh st st') :
    (st.activeSession ticketId now = .ok none ∧ st'.activeSession ticketId now = .ok none ∧
        InStep ticketId now .vacant st st') ∨
      ∃ (s : Session) (key' : String) (n : Nat),
        st.activeSession ticketId now = .ok (some s) ∧
        st'.activeSession ticketId now = .ok (some { s with id := key' }) ∧
        s.ticketId = ticketId ∧ s.isActive = true ∧ (st.flags ticketId now)[n]? = some true ∧
        Places ticketId now n s.id key' st st' ∧
        InStep ticketId now (.holding s.id key') st st' := by
  have hone : AtMostOne (st.flags ticketId now) := h.fits
  have hflags := h.matched.flags_eq
  rcases h.tidy.active_cases hone with ⟨hnil, hnone⟩ | ⟨n, s, trail, hs, hticket, hactive, hkey,
    hvalue⟩
  · left
    have hnil' : (st'.sessions now).filter (·.isActiveOn ticketId) = [] := by
      rcases h.tidy'.active_cases (hflags ▸ hone) with ⟨hnil', -⟩ | ⟨n, s, trail, -, -, hactive, -,
        hvalue⟩
      · exact hnil'
      · have htrue := flags_of_value hvalue
        rw [hflags] at htrue
        exact absurd (htrue.trans (congrArg some hactive)) (hnone n)
    exact ⟨activeSession_eq hnil, activeSession_eq hnil', .of_matched h.matched hnone⟩
  · right
    have htrue : (st.flags ticketId now)[n]? = some true :=
      (flags_of_value hvalue).trans (congrArg some hactive)
    rcases h.tidy'.active_cases (hflags ▸ hone) with ⟨-, hnone⟩ | ⟨n', s', trail', hs', -, hactive',
      hkey', hvalue'⟩
    · exact absurd htrue (hflags ▸ hnone n)
    -- the places are the same, as there is one only
    have hn : n' = n := by
      have htrue' := (flags_of_value hvalue').trans (congrArg some hactive')
      rw [hflags] at htrue'
      exact hone n' n htrue' htrue
    subst hn
    have hlike : s' = { s with id := s'.id } := by
      rw [h.values, hvalue] at hvalue'
      exact Session.eq_of_nameless (Folder.mk.inj (Option.some.inj hvalue')).1.symm
    have hsome' : st'.activeSession ticketId now = .ok (some s') := activeSession_eq hs'
    rw [hlike] at hsome'
    exact ⟨s, s'.id, n', activeSession_eq hs, hsome', hticket, hactive, htrue, ⟨hkey, hkey'⟩,
      .of_matched h.matched ⟨n', ⟨hkey, hkey'⟩, fun m hm => hone m n' hm htrue⟩⟩

theorem saveSession {s : Session} (h : InStep ticketId now (.holding s.id key') st st')
    (hs : s.ticketId = ticketId) (id id' : String) :
    (st.Declines now id (.saveSession s) ∧
        st'.Declines now id' (.saveSession { s with id := key' })) ∨
      ∃ (x : Session) (st₁ st₁' : Store), x.id = s.id ∧ x.ticketId = ticketId ∧
        st.answer now id (.saveSession s) = (.ok x, st₁) ∧
        st'.answer now id' (.saveSession { s with id := key' }) =
          (.ok { x with id := key' }, st₁') ∧
        InStep ticketId now (.holding s.id key') st₁ st₁' := by
  obtain ⟨n, hn, -⟩ := h.fits
  rcases h.matched.saveSession hn hs id id' with
    hdeclines | ⟨x, st₁, st₁', hid, hx, hanswer, hanswer', hrevised⟩
  · exact .inl hdeclines
  · exact .inr ⟨x, st₁, st₁', hid, hx, hanswer, hanswer',
      h.revised hn (hrevised h.matched hn) (.inl rfl)⟩

theorem openSession {o : Opening} (h : InStep ticketId now .vacant st st')
    (ho : o.ticketId = ticketId) {id id' : String} (hid : st.Unused now id)
    (hid' : st'.Unused now id') :
    (st.Declines now id (.openSession o) ∧ st'.Declines now id' (.openSession o)) ∨
      ∃ (s : Session) (st₁ st₁' : Store), s.ticketId = ticketId ∧
        st.answer now id (.openSession o) = (.ok s, st₁) ∧
        st'.answer now id' (.openSession o) = (.ok { s with id := id' }, st₁') ∧
        InStep ticketId now (.holding s.id id') st₁ st₁' := by
  rcases h.matched.openSession ho hid hid' with
    hdeclines | ⟨s, st₁, st₁', hs, hticket, hanswer, hanswer', hopened⟩
  · exact .inl hdeclines
  obtain ⟨hmatched, ⟨b, hflags⟩, hn⟩ := hopened h.matched
  refine .inr ⟨s, st₁, st₁', hticket, hanswer, hanswer', .of_matched hmatched
    ⟨(st.flags ticketId now).length, by rwa [hs], fun m hm => ?_⟩⟩
  -- those before it do not go on
  rw [hflags, List.getElem?_append] at hm
  split at hm
  · exact absurd hm (h.fits m)
  next hlt =>
    have hzero := (List.getElem?_eq_some_iff.1 hm).1
    simp only [List.length_singleton] at hzero
    omega

theorem record {i : Interaction} (h : InStep ticketId now (.holding i.sessionId key') st st')
    (id id' : String) :
    (st.Declines now id (.record i) ∧
        st'.Declines now id' (.record { i with sessionId := key' })) ∨
      ∃ st₁ st₁' : Store, st.answer now id (.record i) = (.ok (), st₁) ∧
        st'.answer now id' (.record { i with sessionId := key' }) = (.ok (), st₁') ∧
        InStep ticketId now (.holding i.sessionId key') st₁ st₁' := by
  obtain ⟨n, hn, -⟩ := h.fits
  rcases h.matched.record hn id id' with hdeclines | ⟨st₁, st₁', hanswer, hanswer', hrevised⟩
  · exact .inl hdeclines
  · exact .inr ⟨st₁, st₁', hanswer, hanswer', h.revised hn (hrevised h.matched hn) (.inl rfl)⟩

/-- Whoever else saves the session of the ticket that goes on does so in both stores. -/
theorem rivalled (h : InStep ticketId now stage st st') (id id' : String) :
    InStep ticketId now stage (st.rivalled now id ticketId) (st'.rivalled now id' ticketId) := by
  rcases h.fresh.activeSession with
    ⟨hnone, hnone', -⟩ | ⟨s, key', n, hsome, hsome', hticket, hactive, htrue, hn, -⟩
  · rwa [Store.rivalled, Store.rivalled, hnone, hnone']
  rw [Store.rivalled, Store.rivalled, hsome, hsome']
  rcases h.matched.saveSession hn hticket id id' with
    ⟨⟨e, herror⟩, e', herror'⟩ | ⟨x, st₁, st₁', -, -, hanswer, hanswer', hrevised⟩
  · simpa only [herror, herror'] using h
  · simp only [hanswer, hanswer']
    refine h.revised hn (hrevised h.matched hn) (.inr fun b hb => ?_)
    rw [hactive]
    exact Option.some.inj (htrue.symm.trans hb)

end InStep

end Store

end FrontDesk
