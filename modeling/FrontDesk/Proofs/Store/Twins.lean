/-
Stores that do alike.

What a store makes of a session does not depend on the id that the session has, nor on what else is
on record. So two stores that are the same but for sessions and interactions do the same when they
are asked the same of sessions that differ in their ids only: both refuse, or both write records
that again differ in nothing else.
-/
import FrontDesk.Proofs.Store.Files
import FrontDesk.Proofs.Store.Record

namespace FrontDesk.Store

open Calendar

variable {st st' : Store} {now time : Moment} {key key' : String}

theorem bare_cases (h : st'.bare = st.bare) :
    (∃ m m', st = memory m ∧ st' = memory m' ∧ m'.flows = m.flows) ∨
      ∃ t t', st = relational t ∧ st' = relational t' ∧ t'.flows = t.flows := by
  cases st with
  | memory m =>
    cases st' with
    | memory m' =>
      simp only [bare, memory.injEq, Memory.mk.injEq] at h
      exact .inl ⟨m, m', rfl, rfl, h.1⟩
    | relational t' => cases h
  | relational t =>
    cases st' with
    | memory m' => cases h
    | relational t' =>
      simp only [bare, relational.injEq, Relational.mk.injEq] at h
      exact .inr ⟨t, t', rfl, rfl, h.1⟩

theorem flow?_eq (h : st'.bare = st.bare) (id : String) : st'.flow? id = st.flow? id := by
  obtain ⟨m, m', rfl, rfl, hflows⟩ | ⟨t, t', rfl, rfl, hflows⟩ := bare_cases h
  · simp only [flow?, hflows]
  · simp only [flow?, hflows]

theorem activeFlows_eq (h : st'.bare = st.bare) : st'.activeFlows = st.activeFlows := by
  obtain ⟨m, m', rfl, rfl, hflows⟩ | ⟨t, t', rfl, rfl, hflows⟩ := bare_cases h
  · simp only [activeFlows, hflows]
  · simp only [activeFlows, hflows]

theorem openSession_both (h : st'.bare = st.bare) (now : Moment) (o : Opening) (id id' : String) :
    (∃ e e', st.answer now id (.openSession o) = (.error e, st) ∧
        st'.answer now id' (.openSession o) = (.error e', st')) ∨
      ∃ (s : Session) (st₁ st₁' : Store), s.id = id ∧ s.ticketId = o.ticketId ∧
        st.answer now id (.openSession o) = (.ok s, st₁) ∧
        st'.answer now id' (.openSession o) = (.ok { s with id := id' }, st₁') ∧
        ∀ time, ∃ new : Session, new.ticketId = o.ticketId ∧
          st.Shifts time ((st.table time).put id new) st.interactions st₁ ∧
          st'.Shifts time ((st'.table time).put id' { new with id := id' }) st'.interactions
            st₁' := by
  obtain ⟨m, m', rfl, rfl, hflows⟩ | ⟨t, t', rfl, rfl, hflows⟩ := bare_cases h
  · exact .inr ⟨Memory.begin o id now, _, _, rfl, rfl, rfl, rfl, fun time =>
      ⟨Memory.begin o id now, rfl, ⟨rfl, rfl, rfl⟩, ⟨rfl, rfl, rfl⟩⟩⟩
  · cases hnow : rowMoment now with
    | error e =>
      exact .inl ⟨e, e, by simp [answer, Relational.answer, Relational.openSession, hnow],
        by simp [answer, Relational.answer, Relational.openSession, hnow]⟩
    | ok time =>
      by_cases hflow : t.flows.has o.flowId = true
      · let row (id : String) : SessionRow :=
          { id, flowId := o.flowId, ticketId := o.ticketId, contactId := o.contactId
            currentNode := o.currentNode, state := o.state.toJson, version := 0, createdAt := time
            updatedAt := time, completedAt := none, transferredAt := none }
        refine .inr ⟨(row id).session now,
          relational { t with sessions := t.sessions.put id (row id) },
          relational { t' with sessions := t'.sessions.put id' (row id') }, rfl, rfl,
          by simp [answer, Relational.answer, Relational.openSession, hnow, hflow, row], ?_,
          fun time => ⟨(row id).session time, rfl, ?_, ?_⟩⟩
        · rw [← hflows] at hflow
          simp [answer, Relational.answer, Relational.openSession, hnow, hflow, row,
            SessionRow.session]
        · exact ⟨table_put t _ _, rfl, rfl⟩
        · exact ⟨table_put t' _ (row id'), rfl, rfl⟩
      · refine .inl ⟨.danglingRow, .danglingRow,
          by simp [answer, Relational.answer, Relational.openSession, hnow, hflow], ?_⟩
        rw [← hflows] at hflow
        simp [answer, Relational.answer, Relational.openSession, hnow, hflow]

/-- What a change makes of two rows that read alike but for their ids reads so, too. It goes by what
is saved whether the conversation goes on. -/
theorem rowChange_both {s : Session} {change : SessionRow → SessionRow}
    (hchange : Relational.rowChange now s = .ok change) (row row' : SessionRow) (id : String)
    (hread : row'.session time = { row.session time with id }) :
    (change row').session time = { (change row).session time with id } ∧
      ((change row).session time).ticketId = (row.session time).ticketId ∧
      ((change row).session time).isActive = s.isActive := by
  simp only [Relational.rowChange, bind, Except.bind, pure, Except.pure] at hchange
  split at hchange
  · cases hchange
  split at hchange
  · cases hchange
  next completedAt hcompleted =>
  split at hchange
  · cases hchange
  cases hchange
  simp only [SessionRow.session, Session.mk.injEq] at hread
  obtain ⟨hid, hflow, hticket, hcontact, -, -, -, hcreated, -⟩ := hread
  refine ⟨by simp [SessionRow.session, hid, hflow, hticket, hcontact, hcreated], rfl, ?_⟩
  have hsome := rowMoment?_isSome hcompleted
  simp only [SessionRow.session, Session.isActive]
  cases completedAt <;> cases hs : s.completedAt <;> simp_all

/-- Two stores in which a session stands alike save it alike, or both refuse to. It stands alike
afterwards whenever it did so before. -/
theorem saveSession_both (h : st'.bare = st.bare) {old s : Session}
    (hfind : (st.table now).find? s.id = some old)
    (hfind' : (st'.table now).find? key' = some { old with id := key' }) (id id' : String) :
    (∃ e e', st.answer now id (.saveSession s) = (.error e, st) ∧
        st'.answer now id' (.saveSession { s with id := key' }) = (.error e', st')) ∨
      ∃ (x : Session) (st₁ st₁' : Store), x.id = s.id ∧ x.ticketId = s.ticketId ∧
        st.answer now id (.saveSession s) = (.ok x, st₁) ∧
        st'.answer now id' (.saveSession { s with id := key' }) =
          (.ok { x with id := key' }, st₁') ∧
        ∀ (time : Moment) (old : Session), (st.table time).find? s.id = some old →
          (st'.table time).find? key' = some { old with id := key' } →
          ∃ new : Session, (s.ticketId = old.ticketId → new.ticketId = old.ticketId) ∧
            new.isActive = s.isActive ∧
            st.Shifts time ((st.table time).put s.id new) st.interactions st₁ ∧
            st'.Shifts time ((st'.table time).put key' { new with id := key' }) st'.interactions
              st₁' := by
  obtain ⟨m, m', rfl, rfl, hflows⟩ | ⟨t, t', rfl, rfl, hflows⟩ := bare_cases h
  · simp only [table] at hfind hfind'
    by_cases hversion : old.version = s.version
    · exact .inr ⟨Memory.saved s now,
        memory { m with sessions := m.sessions.put s.id (Memory.saved s now) },
        memory { m' with
          sessions := m'.sessions.put key' { Memory.saved s now with id := key' } },
        rfl, rfl,
        by simp [answer, Memory.answer, Memory.saveSession, hfind, hversion],
        by simp [answer, Memory.answer, Memory.saveSession, hfind', hversion, Memory.saved],
        fun _ _ _ _ => ⟨Memory.saved s now, fun hticket => hticket, rfl, ⟨rfl, rfl, rfl⟩,
          ⟨rfl, rfl, rfl⟩⟩⟩
    · exact .inl ⟨.stale s.id, .stale key',
        by simp [answer, Memory.answer, Memory.saveSession, hfind, hversion],
        by simp [answer, Memory.answer, Memory.saveSession, hfind', hversion]⟩
  · rw [table, Entries.find?_mapValues] at hfind hfind'
    obtain ⟨row, hrow, rfl⟩ := Option.map_eq_some_iff.1 hfind
    obtain ⟨row', hrow', hread⟩ := Option.map_eq_some_iff.1 hfind'
    have hsame : Relational.rowChange now { s with id := key' } = Relational.rowChange now s := rfl
    cases hchange : Relational.rowChange now s with
    | error e =>
      exact .inl ⟨e, e, by simp [answer, Relational.answer, Relational.saveSession, hchange],
        by simp [answer, Relational.answer, Relational.saveSession, hsame, hchange]⟩
    | ok change =>
      have hversion' : row'.version = row.version := congrArg Session.version hread
      by_cases hversion : row.version = s.version
      · refine .inr ⟨{ s with version := s.version + 1, updatedAt := now },
          relational { t with sessions := t.sessions.put s.id (change row) },
          relational { t' with sessions := t'.sessions.put key' (change row') },
          rfl, rfl,
          by simp [answer, Relational.answer, Relational.saveSession, hchange, hrow, hversion],
          by simp [answer, Relational.answer, Relational.saveSession, hsame, hchange, hrow',
            hversion', hversion], fun time old hold hold' => ?_⟩
        -- the rows are the same at any time, read as they may be
        rw [table, Entries.find?_mapValues, hrow] at hold
        cases hold
        rw [table, Entries.find?_mapValues, hrow'] at hold'
        obtain ⟨hchanged, hticket, hactive⟩ :=
          rowChange_both hchange row row' key' (Option.some.inj hold')
        refine ⟨(change row).session time, fun _ => hticket, hactive, ?_, ?_⟩
        · exact ⟨table_put t _ _, rfl, rfl⟩
        · rw [← hchanged]
          exact ⟨table_put t' _ _, rfl, rfl⟩
      · exact .inl ⟨.stale s.id, .stale key',
          by simp [answer, Relational.answer, Relational.saveSession, hchange, hrow, hversion],
          by simp [answer, Relational.answer, Relational.saveSession, hsame, hchange, hrow',
            hversion', hversion]⟩

theorem record_both (h : st'.bare = st.bare) {i : Interaction}
    (hthere : ((st.table now).find? i.sessionId).isSome = true)
    (hthere' : ((st'.table now).find? key').isSome = true) (id id' : String) :
    (∃ e e', st.answer now id (.record i) = (.error e, st) ∧
        st'.answer now id' (.record { i with sessionId := key' }) = (.error e', st')) ∨
      ∃ (j : Interaction) (st₁ st₁' : Store), j.sessionId = i.sessionId ∧
        st.answer now id (.record i) = (.ok (), st₁) ∧
        st'.answer now id' (.record { i with sessionId := key' }) = (.ok (), st₁') ∧
        ∀ time, st.Shifts time (st.table time) (st.interactions ++ [j]) st₁ ∧
          st'.Shifts time (st'.table time) (st'.interactions ++ [{ j with sessionId := key' }])
            st₁' := by
  obtain ⟨m, m', rfl, rfl, hflows⟩ | ⟨t, t', rfl, rfl, hflows⟩ := bare_cases h
  · exact .inr ⟨i, _, _, rfl, rfl, rfl, fun _ => ⟨⟨rfl, rfl, rfl⟩, ⟨rfl, rfl, rfl⟩⟩⟩
  · rw [table, Entries.find?_mapValues, Option.isSome_map] at hthere hthere'
    cases htime : rowMoment i.createdAt with
    | error e =>
      exact .inl ⟨e, e, by simp [answer, Relational.answer, Relational.record, htime],
        by simp [answer, Relational.answer, Relational.record, htime]⟩
    | ok time =>
      exact .inr ⟨{ i with createdAt := time },
        relational { t with interactions := t.interactions ++ [{ i with createdAt := time }] },
        relational { t' with
          interactions := t'.interactions ++ [{ i with createdAt := time, sessionId := key' }] },
        rfl, by simp [answer, Relational.answer, Relational.record, htime, Entries.has, hthere],
        by simp [answer, Relational.answer, Relational.record, htime, Entries.has, hthere'],
        fun _ => ⟨⟨rfl, rfl, rfl⟩, ⟨rfl, rfl, rfl⟩⟩⟩

end FrontDesk.Store
