/-
What a save returns, and what is loaded after it.

A save returns the record that it was given, in its next version. In memory that is what is stored.
A row takes of it what a conversation changes and keeps the rest (`Session.laidOver`), so what is loaded
is what was returned just if the record agrees with the stored one in that rest
(`Store.load_saved`).
-/
import FrontDesk.Proofs.Store.Mirror
import FrontDesk.Proofs.Store.Versions

namespace FrontDesk

open Calendar Store

/-- A record over one that is stored: what a conversation never changes stays as it was stored. -/
def Session.laidOver (s old : Session) : Session :=
  { s with
    flowId := old.flowId, ticketId := old.ticketId, contactId := old.contactId
    createdAt := old.createdAt }

theorem Session.laidOver_eq_iff {s old : Session} (hid : old.id = s.id) :
    s.laidOver old = s ↔ old.Kin s := by
  constructor
  · intro h
    rw [← h]
    exact ⟨hid, rfl, rfl, rfl, rfl⟩
  · intro h
    simp [laidOver, h.flowId, h.ticketId, h.contactId, h.createdAt]

namespace Store

/-- What is stored when a record is saved over another one. -/
def stores (st : Store) (s old : Session) : Session := if st.isRelational then s.laidOver old else s

variable {st : Store} {now : Moment}

theorem stores_eq_iff {s old : Session} (hid : old.id = s.id) :
    st.stores s old = s ↔ (st.isRelational = true → old.Kin s) := by
  unfold stores
  split
  next hrows => simp [hrows, Session.laidOver_eq_iff hid]
  next hrows => simp [hrows]

theorem isRelational_afterAll (st : Store) (as : List Asked) :
    (st.afterAll as).isRelational = st.isRelational := by
  induction as generalizing st with
  | nil => rfl
  | cons a as ih => exact (ih (st.after a)).trans (isRelational_answer st a.now a.freshId a.request)

theorem Tidy.id_of_loaded (h : st.Tidy) {id key : String} {old : Session}
    (hold : (st.answer now id (.session key)).1 = .ok (some old)) : old.id = key := by
  rw [answer_session, Except.ok.injEq] at hold
  cases st with
  | memory m => exact Entries.Tidy.id_of_find? h hold
  | relational t =>
    rw [Store.table, Entries.find?_mapValues] at hold
    obtain ⟨row, hrow, rfl⟩ := Option.map_eq_some_iff.1 hold
    exact Entries.Tidy.id_of_find? h hrow

theorem rowMoment?_eq {time? : Option Moment}
    (h : ∀ time, time? = some time → rowMoment time = .ok time) : rowMoment? time? = .ok time? := by
  cases time? with
  | none => rfl
  | some time => rw [rowMoment?, h time rfl]; rfl

/-- A record that can be stored is saved over one of its version, and then it is loaded as it is
stored. What is stored under other ids is as it was. -/
theorem saveSession_over (h : st.Tidy) {s old : Session} {id : String} {loaded : Moment}
    (hold : (st.answer loaded id (.session s.id)).1 = .ok (some old))
    (hversion : s.version = old.version) (hstate : s.state.Storable)
    (htimes : ∀ time, time = now ∨ s.completedAt = some time ∨ s.transferredAt = some time →
      rowMoment time = .ok time) :
    ∃ st', st.answer now id (.saveSession s) = (.ok (Memory.saved s now), st') ∧
      (∀ later id, st'.answer later id (.session s.id) =
        (.ok (some (st.stores (Memory.saved s now) old)), st')) ∧
      ∀ key, key ≠ s.id → st'.stored? key = st.stored? key := by
  have hid := h.id_of_loaded hold
  rw [answer_session, Except.ok.injEq] at hold
  cases st with
  | memory m =>
    simp only [table] at hold
    refine ⟨.memory { m with sessions := m.sessions.put s.id (Memory.saved s now) },
      by simp [answer, Memory.answer, Memory.saveSession, hold, hversion], ?_, ?_⟩
    · intro later id
      simp [answer_session, table, Entries.find?_put, stores, isRelational]
    · intro key hkey
      simp [stored?, Entries.find?_put, hkey]
  | relational t =>
    rw [table, Entries.find?_mapValues] at hold
    obtain ⟨row, hrow, rfl⟩ := Option.map_eq_some_iff.1 hold
    let changed : SessionRow :=
      { row with
        currentNode := s.currentNode, state := s.state.toJson, version := s.version + 1
        updatedAt := now, completedAt := s.completedAt, transferredAt := s.transferredAt }
    have hcompleted := rowMoment?_eq fun time htime => htimes time (.inr (.inl htime))
    have htransferred := rowMoment?_eq fun time htime => htimes time (.inr (.inr htime))
    refine ⟨.relational { t with sessions := t.sessions.put s.id changed }, ?_, ?_, ?_⟩
    · have hsame : row.version = s.version := hversion.symm
      simp [answer, Relational.answer, Relational.saveSession, Relational.rowChange,
        htimes now (.inl rfl), hcompleted, htransferred, bind, Except.bind, pure, Except.pure, hrow,
        hsame, Memory.saved, changed]
    · intro later id
      have hread : changed.session later = (Memory.saved s now).laidOver (row.session loaded) := by
        have hback := State.ofJson_toJson hstate later.isoText
        have hkey : row.id = s.id := hid
        simp [changed, SessionRow.session, Session.laidOver, Memory.saved, hback, hkey]
      rw [answer_session, table_put, Entries.find?_put, if_pos rfl, hread]
      rfl
    · intro key hkey
      simp [stored?, Entries.find?_put, hkey]

/-- **What a save returns is what is stored, but a row keeps what a conversation never changes.**
Let a session be on record in a store that had none at first, whatever it was asked since. Let a
record have its id and version, a state that was read, and times in universal time; its other fields
are as they may be. To save the record succeeds and returns it in the next version. That is loaded
from then on, in memory as it is, and from rows with the flow, the ticket, the contact and the time
of creation that were on record. So what was returned is what is loaded just if the store is one in
memory or the record agrees with the stored one in these. Other sessions are as they were. -/
theorem load_saved {as : List Asked} (hnone : ∀ key, st.stored? key = none)
    {s old : Session} {id : String} {loaded read : Moment} {v : Json}
    (hold : ((st.afterAll as).answer loaded id (.session s.id)).1 = .ok (some old))
    (hversion : s.version = old.version) (hstate : s.state = State.ofJson read.isoText v)
    (hutc : ∀ time, time = now ∨ s.completedAt = some time ∨ s.transferredAt = some time →
      time.offset = some 0 ∧ Moment.inRange time.ticks = true) :
    let saved := { s with version := s.version + 1, updatedAt := now }
    ∃ st', (st.afterAll as).answer now id (.saveSession s) = (.ok saved, st') ∧
      (∀ later id, (st'.answer later id (.session s.id)).1 =
        .ok (some (if st.isRelational then saved.laidOver old else saved))) ∧
      (∀ later id, (st'.answer later id (.session s.id)).1 = .ok (some saved) ↔
        (st.isRelational = true → old.Kin s)) ∧
      ∀ key, key ≠ s.id → st'.stored? key = (st.afterAll as).stored? key := by
  have htidy := (tidy_of_none hnone).afterAll as
  have hstorable : s.state.Storable := by
    rw [hstate]
    exact State.ofJson_storable read.isoText_ne_empty v
  have htimes := fun time htime => rowMoment_utc (hutc time htime).1 (hutc time htime).2
  obtain ⟨st', hsaved, hloaded, hothers⟩ := saveSession_over htidy hold hversion hstorable htimes
  have hmake := isRelational_afterAll st as
  refine ⟨st', hsaved, fun later id => ?_, fun later id => ?_, hothers⟩
  · rw [hloaded, stores, hmake]
    rfl
  · have hkin : old.Kin (Memory.saved s now) ↔ old.Kin s :=
      ⟨fun h => ⟨h.id, h.flowId, h.ticketId, h.contactId, h.createdAt⟩,
        fun h => ⟨h.id, h.flowId, h.ticketId, h.contactId, h.createdAt⟩⟩
    have hid : old.id = (Memory.saved s now).id := htidy.id_of_loaded hold
    rw [hloaded, ← hkin, ← hmake, ← stores_eq_iff hid, Except.ok.injEq, Option.some.injEq]
    rfl

/-- The session that is contested, once it is begun, with another contact. -/
def reassigned : Session := { contested with contactId := some "d" }

/-- A store where the session is begun. -/
def begun (st : Store) : Store := st.afterAll (rivals.take 2)

/-- In memory another contact is loaded after a save, and rows take what a conversation changes. -/
theorem reassigned_loaded :
    ((begun (memory {})).answer (.utc 1) "" (.session "session-1")).1 = .ok (some contested) ∧
    (∃ st', (begun (memory {})).answer (.utc 2) "" (.saveSession reassigned) =
        (.ok { reassigned with version := 1, updatedAt := .utc 2 }, st') ∧
      (st'.answer (.utc 3) "" (.session "session-1")).1 =
        .ok (some { reassigned with version := 1, updatedAt := .utc 2 })) ∧
    ((begun (relational {})).answer (.utc 1) "" (.session "session-1")).1 = .ok (some contested) ∧
    ∃ st', (begun (relational {})).answer (.utc 2) ""
          (.saveSession { contested with completedAt := some (.utc 2) }) =
        (.ok { contested with completedAt := some (.utc 2), version := 1, updatedAt := .utc 2 },
          st') ∧
      (st'.answer (.utc 3) "" (.session "session-1")).1 =
        .ok (some
          { contested with completedAt := some (.utc 2), version := 1, updatedAt := .utc 2 }) := by
  have hutc : ∀ time : Moment, time = .utc 2 ∨ some (.utc 2) = some time ∨ none = some time →
      time.offset = some 0 ∧ Moment.inRange time.ticks = true := by
    intro time htime
    obtain rfl : time = .utc 2 := by simpa [eq_comm] using htime
    decide
  have hread : ({} : State) = State.ofJson (Moment.utc 0).isoText .null := rfl
  have hmemory : ((begun (memory {})).answer (.utc 1) "" (.session "session-1")).1 =
      .ok (some contested) := rfl
  have hrows : ((begun (relational {})).answer (.utc 1) "" (.session "session-1")).1 =
      .ok (some contested) := rfl
  refine ⟨hmemory, ?_, hrows, ?_⟩
  · have hnone : ∀ key, stored? key (memory {}) = none := fun _ => rfl
    obtain ⟨st', hsaved, hloaded, -⟩ := load_saved (s := reassigned) hnone hmemory rfl hread
      (by simpa [reassigned, contested] using hutc)
    exact ⟨st', hsaved, hloaded _ _⟩
  · have hnone : ∀ key, stored? key (relational {}) = none := fun _ => rfl
    obtain ⟨st', hsaved, hloaded, -⟩ := load_saved
      (s := { contested with completedAt := some (.utc 2) }) hnone hrows rfl hread hutc
    exact ⟨st', hsaved, hloaded _ _⟩

/-- Rows drop another contact, though it is returned. -/
theorem reassigned_dropped :
    ((begun (relational {})).answer (.utc 1) "" (.session "session-1")).1 = .ok (some contested) ∧
    reassigned.id = contested.id ∧ reassigned.version = contested.version ∧
    ((begun (relational {})).answer (.utc 2) "" (.saveSession reassigned)).1 =
      .ok { reassigned with version := 1, updatedAt := .utc 2 } ∧
    (((begun (relational {})).answer (.utc 2) "" (.saveSession reassigned)).2.answer (.utc 3) ""
        (.session "session-1")).1 =
      .ok (some { contested with version := 1, updatedAt := .utc 2 }) ∧
    reassigned.contactId ≠ contested.contactId :=
  ⟨rfl, rfl, rfl, rfl, rfl, by decide⟩

end Store

end FrontDesk
