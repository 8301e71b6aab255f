/-
What a request about one ticket leaves alone.

A request about a ticket reads, or it begins, saves or puts on record. What is on file of all other
tickets stays as it is, whenever it is read, and no id is taken but the one that was given
(`Store.answer_turns`). Nor does it matter to them that someone else saves the session of the ticket
(`rivalled_turns`).
-/
import FrontDesk.Proofs.Store.Book
import FrontDesk.Proofs.Store.Twins

namespace FrontDesk.Store

open Calendar

/-- Nothing is kept under an id. -/
def Unused (now : Moment) (id : String) (st : Store) : Prop :=
  (st.table now).find? id = none ∧ ∀ i ∈ st.interactions, i.sessionId ≠ id

/-- What was done to the store concerns one ticket. The id given was used, if any. -/
structure Turns (ticketId : String) (now : Moment) (used : Option String) (st st' : Store) :
    Prop where
  bare : st'.bare = st.bare
  others : ∀ other ≠ ticketId, st'.file other now = st.file other now
  unused : ∀ id, used ≠ some id → st.Unused now id → st'.Unused now id

variable {st st₁ : Store} {now time : Moment} {ticketId key id : String}

namespace Turns

theorem refl (used : Option String) (st : Store) : Turns ticketId now used st st :=
  ⟨rfl, fun _ _ => rfl, fun _ _ h => h⟩

theorem put (htidy : st.Tidy) {old new : Session} (hfind : (st.table now).find? key = some old)
    (hold : old.ticketId = ticketId) (hnew : new.ticketId = old.ticketId)
    (h : st.Shifts now ((st.table now).put key new) st.interactions st₁) :
    Turns ticketId now none st st₁ where
  bare := h.bare
  others other hne := by
    rw [h.file_put htidy hfind hnew]
    exact Entries.revise_of_not_mem (not_mem_keys_file htidy hfind (hold ▸ hne.symm))
  unused id _ hid := by
    refine ⟨?_, by rw [h.interactions]; exact hid.2⟩
    rw [h.table, Entries.find?_put, if_neg]
    · exact hid.1
    · rintro rfl
      rw [hid.1] at hfind
      cases hfind

theorem begin {id : String} {new : Session} (hid : st.Unused now id)
    (hnew : new.ticketId = ticketId)
    (h : st.Shifts now ((st.table now).put id new) st.interactions st₁) :
    Turns ticketId now (some id) st st₁ where
  bare := h.bare
  others other hne := by
    rw [h.file_new hid.1 hid.2, if_neg (hnew ▸ hne.symm), List.append_nil]
  unused id' hne hid' := by
    refine ⟨?_, by rw [h.interactions]; exact hid'.2⟩
    rw [h.table, Entries.find?_put, if_neg fun heq => hne (by rw [heq])]
    exact hid'.1

theorem record (htidy : st.Tidy) {s : Session} {i : Interaction}
    (hfind : (st.table now).find? i.sessionId = some s) (hs : s.ticketId = ticketId)
    (h : st.Shifts now (st.table now) (st.interactions ++ [i]) st₁) :
    Turns ticketId now none st st₁ where
  bare := h.bare
  others other hne := by
    rw [h.file_record]
    exact Entries.revise_of_not_mem (not_mem_keys_file htidy hfind (hs ▸ hne.symm))
  unused id _ hid := by
    refine ⟨by rw [h.table]; exact hid.1, fun j hj => ?_⟩
    rw [h.interactions] at hj
    rcases List.mem_append.1 hj with hj | hj
    · exact hid.2 j hj
    · rw [List.mem_singleton.1 hj]
      rintro rfl
      rw [hid.1] at hfind
      cases hfind
end Turns

/-! ## Readings at two times -/

theorem find?_table {s : Session} (h : (st.table now).find? key = some s) (time : Moment) :
    ∃ s', (st.table time).find? key = some s' ∧ s'.id = s.id ∧ s'.ticketId = s.ticketId := by
  cases st with
  | memory m => exact ⟨s, h, rfl, rfl⟩
  | relational t =>
    rw [table, Entries.find?_mapValues] at h
    obtain ⟨row, hrow, rfl⟩ := Option.map_eq_some_iff.1 h
    exact ⟨row.session time, by rw [table, Entries.find?_mapValues, hrow]; rfl, rfl, rfl⟩

theorem Unused.at (h : st.Unused now id) (time : Moment) : st.Unused time id := by
  refine ⟨?_, h.2⟩
  cases hfind : (st.table time).find? id with
  | none => rfl
  | some s =>
    obtain ⟨s', hs', -⟩ := find?_table hfind now
    rw [h.1] at hs'
    cases hs'

/-! ## Requests about one ticket -/

/-- A session of the ticket stands under the key. -/
def Holds (ticketId : String) (now : Moment) (key : String) (st : Store) : Prop :=
  ∃ s, (st.table now).find? key = some s ∧ s.ticketId = ticketId

/-- A request reads, or concerns a session of one ticket. -/
def Request.Concerns (ticketId : String) (now : Moment) (st : Store) : Request → Prop
  | .activeFlows | .flow _ | .activeSession _ => True
  | .openSession o => o.ticketId = ticketId
  | .saveSession s => s.ticketId = ticketId ∧ st.Holds ticketId now s.id
  | .record i => st.Holds ticketId now i.sessionId
  | _ => False

/-- The id that a request takes, of the one given to it. -/
def Request.takes (id : String) : Request → Option String
  | .openSession _ => some id
  | _ => none

theorem saveSession_turns (htidy : st.Tidy) {s : Session} (hs : s.ticketId = ticketId)
    (hheld : st.Holds ticketId now s.id) (id : String) (time : Moment) :
    Turns ticketId time none st (st.answer now id (.saveSession s)).2 := by
  obtain ⟨old, hfind, hold⟩ := hheld
  have hown {t : Moment} {old : Session} (hfind : (st.table t).find? s.id = some old) :
      (st.table t).find? s.id = some { old with id := s.id } := by
    rw [hfind, ← (htidy.table t).id_of_find? hfind]
  rcases saveSession_both rfl hfind (hown hfind) id id with
    ⟨e, -, herror, -⟩ | ⟨x, st₁, _, -, -, hanswer, -, hst⟩
  · rw [herror]
    exact .refl none st
  · rw [hanswer]
    obtain ⟨old', hfind', -, hold'⟩ := find?_table hfind time
    obtain ⟨new, hnew, -, hshifts, -⟩ := hst time old' hfind' (hown hfind')
    have hticket := hold'.trans hold
    exact .put htidy hfind' hticket (hnew (hs.trans hticket.symm)) hshifts

/-- What is asked about a ticket concerns this ticket only. -/
theorem answer_turns (htidy : st.Tidy) {r : Request} (hr : r.Concerns ticketId now st)
    (hid : r.takes id = some id → st.Unused now id) (time : Moment) :
    Turns ticketId time (r.takes id) st (st.answer now id r).2 := by
  cases r with
  | activeFlows =>
    rw [answer_activeFlows]
    exact .refl _ st
  | flow key =>
    rw [answer_flow]
    exact .refl _ st
  | activeSession other =>
    rw [answer_activeSession_eq]
    exact .refl _ st
  | openSession o =>
    rcases openSession_both rfl now o id id with
      ⟨e, -, herror, -⟩ | ⟨s, st₁, _, -, -, hanswer, -, hst⟩
    · rw [herror]
      exact .refl _ st
    · rw [hanswer]
      obtain ⟨new, hnew, hshifts, -⟩ := hst time
      exact .begin ((hid rfl).at time) (hnew.trans hr) hshifts
  | saveSession s => exact saveSession_turns htidy hr.1 hr.2 id time
  | record i =>
    obtain ⟨s, hfind, hs⟩ := hr
    have hthere : ((st.table now).find? i.sessionId).isSome = true := by rw [hfind]; rfl
    rcases record_both rfl hthere hthere id id with
      ⟨e, -, herror, -⟩ | ⟨j, st₁, _, hj, hanswer, -, hst⟩
    · rw [herror]
      exact .refl _ st
    · rw [hanswer]
      obtain ⟨s', hfind', -, hs'⟩ := find?_table hfind time
      exact .record htidy (hj ▸ hfind') (hs'.trans hs) (hst time).1
  | flows | saveFlow | deleteFlow | demoteOthers | session | sessionsOf | interactions => cases hr

/-! ## Rivals -/

theorem Tidy.rivalled (h : st.Tidy) (now : Moment) (id ticketId : String) :
    (st.rivalled now id ticketId).Tidy := by
  rcases st.rivalled_cases now id ticketId with hsame | ⟨s, -, hsaved⟩
  · rwa [hsame]
  · rw [hsaved]
    exact h.answer now id _

theorem rivalled_turns (htidy : st.Tidy) (now : Moment) (id ticketId : String) (time : Moment) :
    Turns ticketId time none st (st.rivalled now id ticketId) := by
  rcases st.rivalled_cases now id ticketId with hsame | ⟨s, hfound, hsaved⟩
  · rw [hsame]
    exact .refl none st
  · obtain ⟨hmem, hs⟩ := (activeSession_sessions hfound).1 s rfl
    have hticket : s.ticketId = ticketId := by
      simp only [Session.isActiveOn, Bool.and_eq_true, beq_iff_eq] at hs
      exact hs.1
    rw [hsaved]
    exact saveSession_turns htidy hticket ⟨s, (htidy.table now).find?_of_mem hmem, hticket⟩ id time

end FrontDesk.Store
