/-
Two stores that match on a ticket.

Two stores match on a ticket if its file has the same folders in both, under ids of their own. Asked
to save the session in one place of the file, to begin one or to put something on record, both
stores refuse, or they match again (`Store.Matched.saveSession`, `openSession`, `record`), whenever
they are read.
-/
import FrontDesk.Proofs.Store.Frame

namespace FrontDesk.Store

open Calendar

/-- Which of the sessions of a ticket go on. -/
def flags (ticketId : String) (now : Moment) (st : Store) : List Bool :=
  (st.file ticketId now).values.map Folder.isActive

/-- A session has its place in the file of the ticket in either store. -/
def Places (ticketId : String) (now : Moment) (n : Nat) (key key' : String) (st st' : Store) :
    Prop :=
  (st.file ticketId now).keys[n]? = some key ∧ (st'.file ticketId now).keys[n]? = some key'

/-- Two stores have the same flows, and the same on file of a ticket. -/
structure Matched (ticketId : String) (now : Moment) (st st' : Store) : Prop where
  tidy : st.Tidy
  tidy' : st'.Tidy
  bare : st'.bare = st.bare
  values : (st'.file ticketId now).values = (st.file ticketId now).values

/-- Two stores that matched still do, after in both the folder in one place was revised. -/
structure Revised (ticketId : String) (now : Moment) (n : Nat) (a : Bool → Bool)
    (st st' st₁ st₁' : Store) : Prop where
  matched : Matched ticketId now st₁ st₁'
  flags : st₁.flags ticketId now = (st.flags ticketId now).modify n a
  places : ∀ {m : Nat} {key key' : String}, Places ticketId now m key key' st st' →
    Places ticketId now m key key' st₁ st₁'

/-- A request is refused, and nothing is done. -/
def Declines (now : Moment) (id : String) (r : Request) (st : Store) : Prop :=
  ∃ e, st.answer now id r = (.error e, st)

variable {st st' st₁ st₁' : Store} {now time : Moment} {ticketId key key' : String} {n : Nat}

theorem sessions_active (ticketId : String) (now : Moment) (st : Store) :
    (st.sessions now).filter (·.isActiveOn ticketId) =
        (Entries.values ((st.table now).filter (·.2.ticketId == ticketId))).filter
          Session.isActive ∧
      st.flags ticketId now =
        (Entries.values ((st.table now).filter (·.2.ticketId == ticketId))).map
          Session.isActive := by
  constructor
  · simp only [sessions, Entries.values, List.filter_map, List.filter_filter]
    congr 1
    refine List.filter_congr fun e _ => ?_
    simp [Session.isActiveOn, Bool.and_comm]
  · simp only [flags, file, Entries.values, List.map_map]
    rfl

theorem Tidy.file_at (h : st.Tidy) {s : Session}
    (hn : (Entries.values ((st.table now).filter (·.2.ticketId == ticketId)))[n]? = some s) :
    s.ticketId = ticketId ∧ (st.file ticketId now).keys[n]? = some s.id ∧
      ∃ trail, (st.file ticketId now).values[n]? = some ⟨s.nameless, trail⟩ := by
  rw [Entries.values, List.getElem?_map] at hn
  obtain ⟨e, he, rfl⟩ := Option.map_eq_some_iff.1 hn
  obtain ⟨hmem, hticket⟩ := List.mem_filter.1 (List.mem_of_getElem? he)
  refine ⟨by simpa using hticket, ?_,
    (st.interactions.filter (·.sessionId == e.1)).map Interaction.nameless, ?_⟩
  · rw [Store.keys_file, Entries.keys, List.getElem?_map, he, Option.map_some,
      (h.table now).ids e hmem]
  · simp only [file, Entries.values, List.getElem?_map, he, Option.map_some]
    rfl

theorem flags_of_value {f : Folder} (hn : (st.file ticketId now).values[n]? = some f) :
    (st.flags ticketId now)[n]? = some f.isActive := by
  rw [flags, List.getElem?_map, hn, Option.map_some]

theorem flags_modify {f : Folder → Folder} {a : Bool → Bool}
    (hf : ∀ x, (f x).isActive = a x.isActive)
    (hvalues : (st₁.file ticketId now).values = (st.file ticketId now).values.modify n f) :
    st₁.flags ticketId now = (st.flags ticketId now).modify n a := by
  refine List.ext_getElem? fun m => ?_
  rw [flags, flags, hvalues, List.getElem?_map, List.getElem?_modify, List.getElem?_modify,
    List.getElem?_map]
  cases (st.file ticketId now).values[m]? with
  | none => rfl
  | some x =>
    simp only [Option.map_eq_map, Option.map_some]
    split
    · rw [hf]
    · rfl

namespace Matched

theorem flags_eq (h : Matched ticketId now st st') :
    st'.flags ticketId now = st.flags ticketId now := by
  rw [flags, h.values, flags]

/-- What has a place in the files differs in its id only. -/
theorem places (h : Matched ticketId now st st') (hn : Places ticketId now n key key' st st') :
    ∃ old trail, old.id = key ∧ old.ticketId = ticketId ∧
      (st.table now).find? key = some old ∧
      (st'.table now).find? key' = some { old with id := key' } ∧
      (st.file ticketId now).values[n]? = some ⟨old.nameless, trail⟩ := by
  obtain ⟨old, trail, hfind, hid, hticket, hvalue⟩ := h.tidy.find?_of_file hn.1
  obtain ⟨old', trail', hfind', hid', -, hvalue'⟩ := h.tidy'.find?_of_file hn.2
  refine ⟨old, trail, hid, hticket, hfind, ?_, hvalue⟩
  rw [h.values, hvalue] at hvalue'
  obtain ⟨hnameless, -⟩ := Folder.mk.inj (Option.some.inj hvalue')
  rw [hfind', Session.eq_of_nameless hnameless.symm, hid']

/-- In both stores the folder in one place is revised. -/
theorem revised (h : Matched ticketId now st st') (hn : Places ticketId now n key key' st st')
    (htidy : st₁.Tidy) (htidy' : st₁'.Tidy) (hbare : st₁.bare = st.bare)
    (hbare' : st₁'.bare = st'.bare) {f : Folder → Folder} {a : Bool → Bool}
    (hfile : st₁.file ticketId now = (st.file ticketId now).revise key f)
    (hfile' : st₁'.file ticketId now = (st'.file ticketId now).revise key' f)
    (hf : ∀ x, (f x).isActive = a x.isActive) :
    Revised ticketId now n a st st' st₁ st₁' := by
  have hvalues : (st₁.file ticketId now).values = (st.file ticketId now).values.modify n f := by
    rw [hfile]
    exact Entries.values_revise (h.tidy.keys_file ticketId now) hn.1 f
  have hvalues' : (st₁'.file ticketId now).values = (st'.file ticketId now).values.modify n f := by
    rw [hfile']
    exact Entries.values_revise (h.tidy'.keys_file ticketId now) hn.2 f
  refine ⟨⟨htidy, htidy', (hbare'.trans h.bare).trans hbare.symm,
    by rw [hvalues, hvalues', h.values]⟩, flags_modify hf hvalues, fun hplaces => ?_⟩
  rwa [Places, hfile, hfile', Entries.keys_revise, Entries.keys_revise]

theorem saveSession {s : Session} (h : Matched ticketId now st st')
    (hn : Places ticketId now n s.id key' st st') (hs : s.ticketId = ticketId) (id id' : String) :
    (st.Declines now id (.saveSession s) ∧
        st'.Declines now id' (.saveSession { s with id := key' })) ∨
      ∃ (x : Session) (st₁ st₁' : Store), x.id = s.id ∧ x.ticketId = ticketId ∧
        st.answer now id (.saveSession s) = (.ok x, st₁) ∧
        st'.answer now id' (.saveSession { s with id := key' }) =
          (.ok { x with id := key' }, st₁') ∧
        ∀ {time : Moment} {n : Nat}, Matched ticketId time st st' →
          Places ticketId time n s.id key' st st' →
          Revised ticketId time n (fun _ => s.isActive) st st' st₁ st₁' := by
  obtain ⟨old, trail, hid, hticket, hfind, hfind', -⟩ := h.places hn
  rcases saveSession_both h.bare hfind hfind' id id' with
    ⟨e, e', herror, herror'⟩ | ⟨x, st₁, st₁', hx, hxticket, hanswer, hanswer', hst⟩
  · exact .inl ⟨⟨e, herror⟩, e', herror'⟩
  refine .inr ⟨x, st₁, st₁', hx, hxticket.trans hs, hanswer, hanswer', fun {time n} h hn => ?_⟩
  obtain ⟨old, trail, hid, hticket, hfind, hfind', -⟩ := h.places hn
  obtain ⟨new, hnew, hactive, hshifts, hshifts'⟩ := hst time old hfind hfind'
  have hnew := hnew (hs.trans hticket.symm)
  have hnew' : { new with id := key' }.ticketId = { old with id := key' }.ticketId := hnew
  exact h.revised hn (h.tidy.after hanswer) (h.tidy'.after hanswer') hshifts.bare hshifts'.bare
    (hshifts.file_put h.tidy hfind hnew ticketId) (hshifts'.file_put h.tidy' hfind' hnew' ticketId)
    fun _ => hactive

theorem record {i : Interaction} (h : Matched ticketId now st st')
    (hn : Places ticketId now n i.sessionId key' st st') (id id' : String) :
    (st.Declines now id (.record i) ∧
        st'.Declines now id' (.record { i with sessionId := key' })) ∨
      ∃ st₁ st₁' : Store, st.answer now id (.record i) = (.ok (), st₁) ∧
        st'.answer now id' (.record { i with sessionId := key' }) = (.ok (), st₁') ∧
        ∀ {time : Moment} {n : Nat}, Matched ticketId time st st' →
          Places ticketId time n i.sessionId key' st st' →
          Revised ticketId time n (fun b => b) st st' st₁ st₁' := by
  obtain ⟨old, trail, hid, hticket, hfind, hfind', -⟩ := h.places hn
  have hthere : ((st.table now).find? i.sessionId).isSome = true := by rw [hfind]; rfl
  have hthere' : ((st'.table now).find? key').isSome = true := by rw [hfind']; rfl
  rcases record_both h.bare hthere hthere' id id' with
    ⟨e, e', herror, herror'⟩ | ⟨j, st₁, st₁', hj, hanswer, hanswer', hst⟩
  · exact .inl ⟨⟨e, herror⟩, e', herror'⟩
  refine .inr ⟨st₁, st₁', hanswer, hanswer', fun {time n} h hn => ?_⟩
  obtain ⟨hshifts, hshifts'⟩ := hst time
  have hfile := hshifts.file_record ticketId
  rw [hj] at hfile
  exact h.revised hn (h.tidy.after hanswer) (h.tidy'.after hanswer') hshifts.bare hshifts'.bare
    hfile (hshifts'.file_record ticketId) fun _ => rfl

/-- Both stores begin a session, or both refuse to. It comes last. -/
theorem openSession {o : Opening} (h : Matched ticketId now st st') (ho : o.ticketId = ticketId)
    {id id' : String} (hid : st.Unused now id) (hid' : st'.Unused now id') :
    (st.Declines now id (.openSession o) ∧ st'.Declines now id' (.openSession o)) ∨
      ∃ (s : Session) (st₁ st₁' : Store), s.id = id ∧ s.ticketId = ticketId ∧
        st.answer now id (.openSession o) = (.ok s, st₁) ∧
        st'.answer now id' (.openSession o) = (.ok { s with id := id' }, st₁') ∧
        ∀ {time : Moment}, Matched ticketId time st st' →
          Matched ticketId time st₁ st₁' ∧
          (∃ b, st₁.flags ticketId time = st.flags ticketId time ++ [b]) ∧
          Places ticketId time (st.flags ticketId time).length id id' st₁ st₁' := by
  rcases openSession_both h.bare now o id id' with
    ⟨e, e', herror, herror'⟩ | ⟨s, st₁, st₁', hs, hticket, hanswer, hanswer', hst⟩
  · exact .inl ⟨⟨e, herror⟩, e', herror'⟩
  refine .inr ⟨s, st₁, st₁', hs, hticket.trans ho, hanswer, hanswer', fun {time} h => ?_⟩
  obtain ⟨new, hnew, hshifts, hshifts'⟩ := hst time
  have hnew := hnew.trans ho
  have hnew' : { new with id := id' }.ticketId = ticketId := hnew
  have hfile := hshifts.file_new (hid.at time).1 hid.2 ticketId
  have hfile' := hshifts'.file_new (hid'.at time).1 hid'.2 ticketId
  rw [if_pos hnew] at hfile
  rw [if_pos hnew'] at hfile'
  have hvalues : (st₁.file ticketId time).values =
      (st.file ticketId time).values ++ [⟨new.nameless, []⟩] := by
    rw [hfile, Entries.values, List.map_append]
    rfl
  have hvalues' : (st₁'.file ticketId time).values =
      (st'.file ticketId time).values ++ [⟨new.nameless, []⟩] := by
    rw [hfile', Entries.values, List.map_append]
    rfl
  refine ⟨⟨h.tidy.after hanswer, h.tidy'.after hanswer',
    (hshifts'.bare.trans h.bare).trans hshifts.bare.symm, by rw [hvalues, hvalues', h.values]⟩,
    ⟨Folder.isActive ⟨new.nameless, []⟩, by rw [flags, hvalues, List.map_append]; rfl⟩, ?_, ?_⟩
  · simp [hfile, flags, Entries.keys, Entries.values]
  · have hlength := congrArg List.length h.values
    simp only [Entries.values, List.length_map] at hlength
    simp [hfile', flags, Entries.keys, Entries.values, ← hlength]

end Matched

end FrontDesk.Store
