/-
The book of a store: its sessions under their ids.

What a row has of a state is what was written of one (`Store.Steady`), so it is read the same at any
time, and one can speak of the sessions on record without saying when they are read. To begin a
session puts it into the book, and to save one puts what is on record of it in the place of
the record that it was made from; what else is asked leaves the book as it is, but that a flow may
take its sessions with it.
-/
import FrontDesk.Proofs.Store.Record
import FrontDesk.Proofs.Store.Saves

namespace FrontDesk

open Calendar Store

/-! ## Records -/

/-- Two records of one conversation. -/
structure Session.Kin (s s' : Session) : Prop where
  id : s.id = s'.id
  flowId : s.flowId = s'.flowId
  ticketId : s.ticketId = s'.ticketId
  contactId : s.contactId = s'.contactId
  createdAt : s.createdAt = s'.createdAt

namespace Session.Kin

variable {s s' s'' : Session}

theorem refl (s : Session) : s.Kin s := ⟨rfl, rfl, rfl, rfl, rfl⟩

theorem symm (h : s.Kin s') : s'.Kin s :=
  ⟨h.id.symm, h.flowId.symm, h.ticketId.symm, h.contactId.symm, h.createdAt.symm⟩

theorem trans (h : s.Kin s') (h' : s'.Kin s'') : s.Kin s'' :=
  ⟨h.id.trans h'.id, h.flowId.trans h'.flowId, h.ticketId.trans h'.ticketId,
    h.contactId.trans h'.contactId, h.createdAt.trans h'.createdAt⟩

end Session.Kin

/-- What is on record of a session after it was saved in the place of the given record. -/
structure Session.Noted (old s new : Session) : Prop where
  kin : s.Kin new
  state : new.state = s.state
  currentNode : new.currentNode = s.currentNode
  version : new.version = s.version + 1
  completed : new.completedAt.isSome = s.completedAt.isSome
  transferred : s.transferredAt = old.transferredAt → new.transferredAt = old.transferredAt

/-- The state of the row was written there, and so was its time of transfer. -/
structure Store.SessionRow.Steady (r : SessionRow) : Prop where
  state : ∃ s : State, s.Storable ∧ r.state = s.toJson
  transferred : rowMoment? r.transferredAt = .ok r.transferredAt

namespace Store

/-- What rows have of states was written there. -/
def Steady : Store → Prop
  | memory _ => True
  | relational t => ∀ row ∈ t.sessions.values, row.Steady

/-- The sessions under their ids. -/
def book (st : Store) : Entries Session := st.table (.utc 0)

/-- The store is one of rows. -/
def isRelational : Store → Bool
  | memory _ => false
  | relational _ => true

/-- The store has a moment as it is given, and not on another clock. -/
def Retains (time : Moment) (st : Store) : Prop := st.isRelational = true → rowMoment time = .ok time

variable {st : Store} {now : Moment} {id : String} {r : Request}

theorem SessionRow.Steady.session {row : SessionRow} (h : row.Steady) (now now' : Moment) :
    row.session now = row.session now' := by
  obtain ⟨s, hs, hstate⟩ := h.state
  simp only [SessionRow.session, hstate, State.ofJson_toJson hs]

theorem Steady.table (h : st.Steady) (now : Moment) : st.table now = st.book := by
  cases st with
  | memory m => rfl
  | relational t =>
    refine List.map_congr_left fun e he => ?_
    exact congrArg (e.1, ·) ((h e.2 (List.mem_map_of_mem he)).session now (.utc 0))

theorem Steady.sessions (h : st.Steady) (now : Moment) : st.sessions now = st.book.values := by
  rw [Store.sessions, h.table]

theorem isRelational_answer (st : Store) (now : Moment) (id : String) (r : Request) :
    (st.answer now id r).2.isRelational = st.isRelational := by
  cases st <;> rfl

/-- A time of transfer that was read can be written back. -/
theorem Steady.retains (h : st.Steady) {s : Session} (hs : s ∈ st.book.values) {time : Moment}
    (htime : s.transferredAt = some time) : st.Retains time := by
  cases st with
  | memory m => rintro ⟨⟩
  | relational t =>
    rintro -
    rw [book, Store.table, Entries.values_mapValues] at hs
    obtain ⟨row, hrow, rfl⟩ := List.mem_map.1 hs
    have hwritten := (h row hrow).transferred
    rw [show row.transferredAt = some time from htime] at hwritten
    cases hmoment : rowMoment time with
    | error e => simp [rowMoment?, hmoment, Functor.map, Except.map] at hwritten
    | ok time' =>
      rw [rowMoment?, hmoment] at hwritten
      cases hwritten
      rfl

/-! ## Reading -/

theorem Relational.sessions_answer (t : Relational) (now : Moment) (id : String)
    (h : r.touchesSessions = false) :
    (t.answer now id r).2.sessions = t.sessions := by
  cases r with
  | openSession | saveSession | deleteFlow => cases h
  | saveFlow f =>
    simp only [answer, saveFlow]
    split <;> rfl
  | record i =>
    simp only [answer, record]
    split
    · rfl
    · split <;> rfl
  | _ => rfl

theorem book_answer (st : Store) (now : Moment) (id : String) (h : r.touchesSessions = false) :
    (st.answer now id r).2.book = st.book ∧ (st.Steady → (st.answer now id r).2.Steady) := by
  cases st with
  | memory m =>
    refine ⟨?_, fun _ => trivial⟩
    cases r with
    | openSession | saveSession | deleteFlow => cases h
    | _ => rfl
  | relational t =>
    have hsame := Relational.sessions_answer t now id h
    simp only [book, Store.table, Steady, answer, hsame]
    exact ⟨trivial, fun h => h⟩

/-- A session that goes on under a ticket is on record, and so is none if none is given out. -/
theorem activeSession_sessions {ticketId : String} {s? : Option Session}
    (hx : (st.answer now id (.activeSession ticketId)).1 = .ok s?) :
    (∀ s, s? = some s → s ∈ st.sessions now ∧ s.isActiveOn ticketId = true) ∧
      (s? = none → ∀ s ∈ st.sessions now, s.isActiveOn ticketId = false) := by
  cases st with
  | memory m =>
    simp only [answer, Memory.answer] at hx
    refine ⟨?_, ?_⟩
    · rintro s rfl
      exact List.mem_filter.1 (Memory.newest_mem hx)
    · rintro rfl s hs
      cases hfound : m.sessions.values.filter (·.isActiveOn ticketId) with
      | nil => simpa using List.filter_eq_nil_iff.1 hfound s hs
      | cons a rest =>
        rw [hfound] at hx
        simp only [Memory.newest, Functor.map, Except.map] at hx
        split at hx <;> cases hx
  | relational t =>
    simp only [answer, Relational.answer, Except.ok.injEq] at hx
    rw [Store.sessions, Store.table, Entries.values_mapValues]
    refine ⟨?_, ?_⟩
    · rintro s rfl
      obtain ⟨row, hrow, rfl⟩ := Option.map_eq_some_iff.1 hx
      obtain ⟨hmem, hactive⟩ := List.mem_filter.1 (Relational.newest_mem hrow)
      exact ⟨List.mem_map_of_mem hmem, hactive⟩
    · rintro rfl s hs
      obtain ⟨row, hrow, rfl⟩ := List.mem_map.1 hs
      cases hfound : t.sessions.values.filter (·.isActiveOn ticketId) with
      | nil => exact eq_false_of_ne_true (List.filter_eq_nil_iff.1 hfound row hrow)
      | cons a rest => simp [hfound, Relational.newest] at hx

theorem activeSession_book (h : st.Steady) {ticketId : String} {s? : Option Session}
    (hx : (st.answer now id (.activeSession ticketId)).1 = .ok s?) :
    (∀ s, s? = some s → s ∈ st.book.values ∧ s.isActiveOn ticketId = true) ∧
      (s? = none → ∀ s ∈ st.book.values, s.isActiveOn ticketId = false) := by
  rw [← h.sessions now]
  exact activeSession_sessions hx

theorem answer_sessionsOf (st : Store) (now : Moment) (id key : String) :
    st.answer now id (.sessionsOf key) =
      (.ok ((st.sessions now).filter (·.flowId == key)), st) := by
  cases st with
  | memory m => rfl
  | relational t =>
    rw [Store.sessions, Store.table, Entries.values_mapValues, List.filter_map]
    rfl

theorem flow?_eq_catalog (st : Store) (key : String) : st.flow? key = st.catalog.find? key := by
  cases st <;> rfl

/-! ## Writing -/

/-- Interactions go with the flow of their sessions; one is added when it is put on record. -/
theorem interactions_answer (st : Store) (now : Moment) (id : String) (r : Request) :
    (st.answer now id r).2.interactions.Sublist st.interactions ∨
      ∃ i j, r = .record i ∧ j.sessionId = i.sessionId ∧
        j.createdAt.instant = i.createdAt.instant ∧
        (st.answer now id r).2.interactions = st.interactions ++ [j] := by
  cases st with
  | memory m =>
    cases r with
    | record i => exact .inr ⟨i, i, rfl, rfl, rfl, rfl⟩
    | saveSession s =>
      left
      simp only [answer, Memory.answer, Memory.saveSession]
      split
      · exact .refl _
      · split <;> exact .refl _
    | _ => exact .inl (.refl _)
  | relational t =>
    cases r with
    | record i =>
      simp only [answer, Relational.answer, Relational.record]
      split
      · exact .inl (.refl _)
      next time htime =>
      split
      · exact .inr ⟨i, { i with createdAt := time }, rfl, rfl, rowMoment_instant htime, rfl⟩
      · exact .inl (.refl _)
    | deleteFlow key =>
      left
      simp only [answer, Relational.answer]
      split
      · exact List.filter_sublist
      · exact .refl _
    | saveFlow f =>
      left
      simp only [answer, Relational.answer, Relational.saveFlow]
      split <;> exact .refl _
    | openSession o =>
      left
      simp only [answer, Relational.answer, Relational.openSession]
      split
      · exact .refl _
      · split <;> exact .refl _
    | saveSession s =>
      left
      simp only [answer, Relational.answer, Relational.saveSession]
      split
      · exact .refl _
      split
      · exact .refl _
      split <;> exact .refl _
    | _ => exact .inl (.refl _)

theorem rowMoment?_row {time? row? : Option Moment} (h : rowMoment? time? = .ok row?) :
    rowMoment? row? = .ok row? := by
  cases time? with
  | none => cases h; rfl
  | some time =>
    cases hrow : rowMoment time with
    | error e => simp [rowMoment?, hrow, Functor.map, Except.map] at h
    | ok row =>
      have hsome : row? = some row := by
        simpa [rowMoment?, hrow, Functor.map, Except.map, eq_comm] using h
      simp [hsome, rowMoment?, rowMoment_row hrow, Functor.map, Except.map]

theorem rowChange_ok {s : Session} {change : SessionRow → SessionRow}
    (h : Relational.rowChange now s = .ok change) :
    ∃ updatedAt completedAt transferredAt, rowMoment? s.completedAt = .ok completedAt ∧
      rowMoment? s.transferredAt = .ok transferredAt ∧
      change = fun r =>
        { r with
          currentNode := s.currentNode
          state := s.state.toJson
          version := s.version + 1
          updatedAt, completedAt, transferredAt } := by
  simp only [Relational.rowChange, bind, Except.bind, pure, Except.pure] at h
  split at h
  · cases h
  next updatedAt _ =>
  split at h
  · cases h
  next completedAt hcompleted =>
  split at h
  · cases h
  next transferredAt htransferred =>
  cases h
  exact ⟨updatedAt, completedAt, transferredAt, hcompleted, htransferred, rfl⟩

theorem Steady.put {t : Relational} (h : (relational t).Steady) {key : String} {row : SessionRow}
    (hrow : row.Steady) : (relational { t with sessions := t.sessions.put key row }).Steady := by
  intro row' hmem
  rcases Entries.mem_values_put hmem with hmem | rfl
  · exact h row' hmem
  · exact hrow

theorem openSession_book (h : st.Steady) (now : Moment) (id : String) {o : Opening}
    (hstate : o.state.Storable) :
    (∃ e, st.answer now id (.openSession o) = (.error e, st)) ∨
      ∃ s st', st.answer now id (.openSession o) = (.ok s, st') ∧ s.Like (Memory.begin o id now) ∧
        s.transferredAt = none ∧ st'.Steady ∧ st'.book = st.book.put id s ∧
        st'.interactions = st.interactions := by
  cases st with
  | memory m =>
    exact .inr ⟨_, _, rfl, ⟨rfl, rfl, rfl, rfl, rfl, rfl, rfl⟩, rfl, trivial, rfl, rfl⟩
  | relational t =>
    cases hnow : rowMoment now with
    | error e =>
      exact .inl ⟨e, by simp [answer, Relational.answer, Relational.openSession, hnow]⟩
    | ok time =>
    by_cases hflow : t.flows.has o.flowId = true
    · let row : SessionRow :=
        { id, flowId := o.flowId, ticketId := o.ticketId, contactId := o.contactId
          currentNode := o.currentNode, state := o.state.toJson, version := 0, createdAt := time
          updatedAt := time, completedAt := none, transferredAt := none }
      have hrow : row.Steady := ⟨⟨o.state, hstate, rfl⟩, rfl⟩
      have hread : (row.session now).state = o.state := State.ofJson_toJson hstate now.isoText
      refine .inr ⟨row.session now, .relational { t with sessions := t.sessions.put id row }, ?_,
        ⟨rfl, rfl, rfl, rfl, hread, rfl, rfl⟩, rfl, h.put hrow, ?_, rfl⟩
      · simp [answer, Relational.answer, Relational.openSession, hnow, hflow, row]
      · rw [hrow.session now (.utc 0)]
        exact table_put t _ row
    · exact .inl ⟨.danglingRow,
        by simp [answer, Relational.answer, Relational.openSession, hnow, hflow]⟩

/-- What is on record of a session takes the place of the record that it was made from, or nothing
is done. -/
theorem saveSession_book (h : st.Steady) (now : Moment) (id : String) {s : Session}
    (hstate : st.isRelational = true → s.state.Storable)
    (hkin : ∀ old, st.book.find? s.id = some old → old.Kin s) :
    (∃ e, st.answer now id (.saveSession s) = (.error e, st)) ∨
      ∃ old new st', st.answer now id (.saveSession s) = (.ok (Memory.saved s now), st') ∧
        st.book.find? s.id = some old ∧ old.version = s.version ∧ old.Noted s new ∧
        st'.Steady ∧ st'.book = st.book.put s.id new ∧ st'.interactions = st.interactions := by
  cases st with
  | memory m =>
    cases hfind : m.sessions.find? s.id with
    | none =>
      exact .inl ⟨.noSession s.id, by simp [answer, Memory.answer, Memory.saveSession, hfind]⟩
    | some old =>
    by_cases hversion : old.version = s.version
    · refine .inr ⟨old, Memory.saved s now,
        .memory { m with sessions := m.sessions.put s.id (Memory.saved s now) },
        by simp [answer, Memory.answer, Memory.saveSession, hfind, hversion], hfind, hversion,
        ⟨⟨rfl, rfl, rfl, rfl, rfl⟩, rfl, rfl, rfl, rfl, fun h => h⟩, trivial, rfl, rfl⟩
    · exact .inl ⟨.stale s.id,
        by simp [answer, Memory.answer, Memory.saveSession, hfind, hversion]⟩
  | relational t =>
    have hstate := hstate rfl
    cases hchange : Relational.rowChange now s with
    | error e =>
      exact .inl ⟨e, by simp [answer, Relational.answer, Relational.saveSession, hchange]⟩
    | ok change =>
    cases hfind : t.sessions.find? s.id with
    | none =>
      exact .inl ⟨.noSessionRow s.id,
        by simp [answer, Relational.answer, Relational.saveSession, hchange, hfind]⟩
    | some row =>
    by_cases hversion : row.version = s.version
    · have hold : (relational t).book.find? s.id = some (row.session (.utc 0)) := by
        rw [book, Store.table, Entries.find?_mapValues, hfind]
        rfl
      have hkin := hkin _ hold
      obtain ⟨updatedAt, completedAt, transferredAt, hcompleted, htransferred, rfl⟩ :=
        rowChange_ok hchange
      have htransferred' :
          s.transferredAt = row.transferredAt → transferredAt = row.transferredAt := by
        intro hsame
        have hsteady := (h row (Entries.mem_values_of_find? hfind)).transferred
        rw [hsame, hsteady] at htransferred
        exact (Except.ok.inj htransferred).symm
      have hrow : SessionRow.Steady
          { row with
            currentNode := s.currentNode, state := s.state.toJson, version := s.version + 1
            updatedAt, completedAt, transferredAt } :=
        ⟨⟨s.state, hstate, rfl⟩, rowMoment?_row htransferred⟩
      refine .inr ⟨_, _, _, ?_, hold, hversion, ?_, h.put hrow, table_put t _ _, rfl⟩
      · simp [answer, Relational.answer, Relational.saveSession, hchange, hfind, hversion,
          Memory.saved]
      · have hread := State.ofJson_toJson hstate (Moment.utc 0).isoText
        exact ⟨⟨hkin.id.symm, hkin.flowId.symm, hkin.ticketId.symm, hkin.contactId.symm,
          hkin.createdAt.symm⟩, hread, rfl, rfl, rowMoment?_isSome hcompleted, htransferred'⟩
    · exact .inl ⟨.stale s.id,
        by simp [answer, Relational.answer, Relational.saveSession, hchange, hfind, hversion]⟩

/-- A flow that is deleted leaves the book as it is, or takes its sessions with it. -/
theorem deleteFlow_book (st : Store) (now : Moment) (id key : String) :
    ((st.answer now id (.deleteFlow key)).2.book = st.book ∨
      (st.answer now id (.deleteFlow key)).2.book = st.book.filter fun e => e.2.flowId != key) ∧
    (st.Steady → (st.answer now id (.deleteFlow key)).2.Steady) := by
  cases st with
  | memory m => exact ⟨.inl rfl, fun _ => trivial⟩
  | relational t =>
    simp only [answer, Relational.answer]
    split
    · refine ⟨.inr ?_, fun h row hrow => ?_⟩
      · simp only [book, Store.table, Relational.deleteFlow, Entries.mapValues, List.filter_map]
        rfl
      · obtain ⟨e, he, rfl⟩ := List.mem_map.1 hrow
        exact h e.2 (List.mem_map_of_mem (List.mem_filter.1 he).1)
    · exact ⟨.inl rfl, fun h => h⟩

end Store

end FrontDesk
