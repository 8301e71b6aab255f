/-
Sessions under their ids, and what becomes of them.

Whatever its make, a store has each session under its id, once. To begin a session puts a record in
version 0 under a new id, and to save one makes the next version of a record of its version
(`Store.saveSession_cases`); what else is asked leaves sessions alone, unless a flow goes and takes
them with it.
-/
import FrontDesk.Proofs.Conversation.Record
import FrontDesk.Proofs.Store.Catalog
import FrontDesk.Proofs.Store.Table

namespace FrontDesk

open Calendar Store

/-! ## Keys -/

namespace Entries

variable {α : Type} {idOf : α → String}

/-- Each value stands under a key of its own, its id. -/
structure Tidy (idOf : α → String) (es : Entries α) : Prop where
  keys : es.keys.Nodup
  ids : ∀ e ∈ es, idOf e.2 = e.1

namespace Tidy

variable {es : Entries α}

theorem put (h : Tidy idOf es) (value : α) : Tidy idOf (es.put (idOf value) value) where
  keys := nodup_keys_put h.keys _ _
  ids e he := by
    rcases mem_put he with he | rfl
    · exact h.ids e he
    · rfl

theorem filter (h : Tidy idOf es) (p : String × α → Bool) : Tidy idOf (es.filter p) where
  keys := nodup_keys_filter h.keys p
  ids e he := h.ids e (List.mem_filter.1 he).1

theorem id_of_find? (h : Tidy idOf es) {key : String} {value : α}
    (hfind : es.find? key = some value) : idOf value = key := by
  induction es with
  | nil => simp at hfind
  | cons e rest ih =>
    rw [find?_cons] at hfind
    split at hfind
    next hk =>
      cases hfind
      rw [h.ids e (by simp), eq_of_beq hk]
    next =>
      refine ih ⟨(List.nodup_cons.1 h.keys).2, fun e he => ?_⟩ hfind
      exact h.ids e (List.mem_cons_of_mem _ he)

theorem find?_of_mem (h : Tidy idOf es) {value : α} (hmem : value ∈ es.values) :
    es.find? (idOf value) = some value := by
  obtain ⟨e, he, rfl⟩ := List.mem_map.1 hmem
  rw [h.ids e he]
  exact find?_of_mem_nodup h.keys he

end Tidy

theorem map_find?_put {β : Type} (f : α → β) {es : Entries α} {key : String} {value : α}
    (k : String) :
    ((es.put key value).find? k).map f =
      if k = key then some (f value) else (es.find? k).map f := by
  rw [find?_put]
  split <;> rfl

theorem eq_nil_of_find? {es : Entries α} (h : ∀ key, es.find? key = none) : es = [] := by
  cases es with
  | nil => rfl
  | cons e rest =>
    have hfirst := h e.1
    rw [find?_cons, if_pos (beq_self_eq_true _)] at hfirst
    cases hfirst

end Entries

namespace Store

/-- Each session stands under its id, once. -/
def Tidy : Store → Prop
  | memory m => m.sessions.Tidy Session.id
  | relational t => t.sessions.Tidy SessionRow.id

/-! ## What is stored of a session -/

/-- What is stored of a session: the session itself, or its row. -/
inductive Stored where
  | session (s : Session)
  | row (r : SessionRow)

namespace Stored

/-- How often it was saved. -/
def version : Stored → Int
  | session s => s.version
  | row r => r.version

/-- The session, read at the given time. -/
def read (now : Moment) : Stored → Session
  | session s => s
  | row r => r.session now

end Stored

/-- What is stored under an id. -/
def stored? (id : String) : Store → Option Stored
  | memory m => (m.sessions.find? id).map .session
  | relational t => (t.sessions.find? id).map .row

variable {st : Store} {now : Moment} {id : String}

/-! ## Saving -/

/-- What a refusal to save a session means. -/
def Refuses (st : Store) (now : Moment) (s : Session) : Fault → Prop
  | .stale id => id = s.id ∧ ∃ rec, st.stored? s.id = some rec ∧ rec.version ≠ s.version
  | .noSession id | .noSessionRow id => id = s.id ∧ st.stored? s.id = none
  | .unstorableMoment => ∃ time, (time = now ∨ s.completedAt = some time ∨
      s.transferredAt = some time) ∧ ¬ st.CanKeep time
  | _ => False

/-- A session was saved: the version on record was its own and is the next one now. -/
structure Accepts (st : Store) (s x : Session) (st' : Store) (rec rec' : Stored) : Prop where
  found : st.stored? s.id = some rec
  version : rec.version = s.version
  next : rec'.version = s.version + 1
  stored : ∀ key, st'.stored? key = if key = s.id then some rec' else st.stored? key
  answer_id : x.id = s.id
  answer_version : x.version = s.version + 1

theorem rowMoment_error {time : Moment} {e : Fault} (h : rowMoment time = .error e) :
    e = .unstorableMoment := by
  unfold rowMoment at h
  split at h
  · cases hclock : time.onClock 0 with
    | ok m =>
      rw [hclock] at h
      cases h
    | error e' =>
      rw [hclock] at h
      cases h
      rfl
  · cases h
    rfl

theorem rowMoment?_error {t : Relational} {time? : Option Moment} {e : Fault}
    (h : rowMoment? time? = .error e) :
    e = .unstorableMoment ∧ ∃ time, time? = some time ∧ ¬ (relational t).CanKeep time := by
  cases time? with
  | none => cases h
  | some time =>
    cases hrow : rowMoment time with
    | ok row => simp [rowMoment?, hrow, Functor.map, Except.map] at h
    | error e' =>
      have he : e' = e := by simpa [rowMoment?, hrow, Functor.map, Except.map] using h
      subst he
      refine ⟨rowMoment_error hrow, time, rfl, ?_⟩
      rintro ⟨row, hrow'⟩
      rw [hrow] at hrow'
      cases hrow'

/-- A change is refused for a time that no row can have, or it makes the next version of the row. -/
theorem rowChange_cases (t : Relational) (now : Moment) (s : Session) :
    (∃ e, Relational.rowChange now s = .error e ∧ (relational t).Refuses now s e) ∨
      ∃ change, Relational.rowChange now s = .ok change ∧
        ∀ row, (change row).id = row.id ∧ (change row).version = s.version + 1 := by
  cases hnow : rowMoment now with
  | error e =>
    refine .inl ⟨e, by simp [Relational.rowChange, hnow, bind, Except.bind], ?_⟩
    rw [rowMoment_error hnow]
    refine ⟨now, .inl rfl, ?_⟩
    rintro ⟨row, hrow⟩
    rw [hnow] at hrow
    cases hrow
  | ok updatedAt =>
    cases hcompleted : rowMoment? s.completedAt with
    | error e =>
      obtain ⟨rfl, time, htime, hnot⟩ := rowMoment?_error (t := t) hcompleted
      exact .inl ⟨.unstorableMoment,
        by simp [Relational.rowChange, hnow, hcompleted, bind, Except.bind],
        time, .inr (.inl htime), hnot⟩
    | ok completedAt =>
      cases htransferred : rowMoment? s.transferredAt with
      | error e =>
        obtain ⟨rfl, time, htime, hnot⟩ := rowMoment?_error (t := t) htransferred
        exact .inl ⟨.unstorableMoment,
          by simp [Relational.rowChange, hnow, hcompleted, htransferred, bind, Except.bind],
          time, .inr (.inr htime), hnot⟩
      | ok transferredAt =>
        let change (r : SessionRow) : SessionRow :=
          { r with
            currentNode := s.currentNode, state := s.state.toJson, version := s.version + 1
            updatedAt, completedAt, transferredAt }
        have hchange : Relational.rowChange now s = .ok change := by
          simp [Relational.rowChange, hnow, hcompleted, htransferred, bind, Except.bind, pure,
            Except.pure, change]
        exact .inr ⟨change, hchange, fun row => ⟨rfl, rfl⟩⟩

/-- **A save is refused, or it makes the next version of what is stored.** -/
theorem saveSession_cases (st : Store) (now : Moment) (id : String) (s : Session) :
    (∃ e, st.answer now id (.saveSession s) = (.error e, st) ∧ st.Refuses now s e) ∨
      ∃ x st' rec rec', st.answer now id (.saveSession s) = (.ok x, st') ∧
        st.Accepts s x st' rec rec' := by
  cases st with
  | memory m =>
    cases hfind : m.sessions.find? s.id with
    | none =>
      exact .inl ⟨.noSession s.id, by simp [answer, Memory.answer, Memory.saveSession, hfind],
        rfl, by simp [stored?, hfind]⟩
    | some current =>
      by_cases hversion : current.version = s.version
      · refine .inr ⟨Memory.saved s now,
          .memory { m with sessions := m.sessions.put s.id (Memory.saved s now) },
          .session current, .session (Memory.saved s now),
          by simp [answer, Memory.answer, Memory.saveSession, hfind, hversion],
          by simp [stored?, hfind], hversion, rfl, fun key => ?_, rfl, rfl⟩
        exact Entries.map_find?_put Stored.session key
      · exact .inl ⟨.stale s.id,
          by simp [answer, Memory.answer, Memory.saveSession, hfind, hversion],
          rfl, .session current, by simp [stored?, hfind], hversion⟩
  | relational t =>
    rcases rowChange_cases t now s with ⟨e, he, hrefuses⟩ | ⟨change, hchange, hrow⟩
    · exact .inl ⟨e, by simp [answer, Relational.answer, Relational.saveSession, he], hrefuses⟩
    cases hfind : t.sessions.find? s.id with
    | none =>
      exact .inl ⟨.noSessionRow s.id,
        by simp [answer, Relational.answer, Relational.saveSession, hchange, hfind],
        rfl, by simp [stored?, hfind]⟩
    | some row =>
      by_cases hversion : row.version = s.version
      · refine .inr ⟨{ s with version := s.version + 1, updatedAt := now },
          .relational { t with sessions := t.sessions.put s.id (change row) },
          .row row, .row (change row),
          by simp [answer, Relational.answer, Relational.saveSession, hchange, hfind, hversion],
          by simp [stored?, hfind], hversion, (hrow row).2, fun key => ?_, rfl, rfl⟩
        exact Entries.map_find?_put Stored.row key
      · exact .inl ⟨.stale s.id,
          by simp [answer, Relational.answer, Relational.saveSession, hchange, hfind, hversion],
          rfl, .row row, by simp [stored?, hfind], hversion⟩

theorem openSession_cases (st : Store) (now : Moment) (id : String) (o : Opening) :
    (∃ e, st.answer now id (.openSession o) = (.error e, st)) ∨
      ∃ x st' rec, st.answer now id (.openSession o) = (.ok x, st') ∧
        x = rec.read now ∧ x.id = id ∧ rec.version = 0 ∧
        ∀ key, st'.stored? key = if key = id then some rec else st.stored? key := by
  cases st with
  | memory m =>
    exact .inr ⟨_, _, .session (Memory.begin o id now), rfl, rfl, rfl, rfl,
      fun key => Entries.map_find?_put Stored.session key⟩
  | relational t =>
    cases hnow : rowMoment now with
    | error e =>
      exact .inl ⟨e, by simp [answer, Relational.answer, Relational.openSession, hnow]⟩
    | ok time =>
      by_cases hflow : t.flows.has o.flowId = true
      · let row : SessionRow :=
          { id, flowId := o.flowId, ticketId := o.ticketId, contactId := o.contactId
            currentNode := o.currentNode, state := o.state.toJson, version := 0, createdAt := time
            updatedAt := time, completedAt := none, transferredAt := none }
        exact .inr ⟨row.session now, .relational { t with sessions := t.sessions.put id row },
          .row row, by simp [answer, Relational.answer, Relational.openSession, hnow, hflow, row],
          rfl, rfl, rfl, fun key => Entries.map_find?_put Stored.row key⟩
      · exact .inl ⟨.danglingRow,
          by simp [answer, Relational.answer, Relational.openSession, hnow, hflow]⟩

/-! ## Other requests -/

/-- Whether a request can change what is stored of sessions. -/
def Request.touchesSessions : Request → Bool
  | .openSession _ | .saveSession _ | .deleteFlow _ => true
  | _ => false

theorem sessions_answer {r : Request} (h : r.touchesSessions = false) (key : String) :
    (st.answer now id r).2.stored? key = st.stored? key := by
  cases st with
  | memory m =>
    cases r with
    | openSession | saveSession | deleteFlow => cases h
    | _ => rfl
  | relational t =>
    cases r with
    | openSession | saveSession | deleteFlow => cases h
    | saveFlow f =>
      simp only [answer, Relational.answer, Relational.saveFlow]
      split <;> rfl
    | record i =>
      simp only [answer, Relational.answer, Relational.record]
      split
      · rfl
      · split <;> rfl
    | _ => rfl

/-! ## Each under its id -/

theorem tidy_of_none (hnone : ∀ key, st.stored? key = none) : st.Tidy := by
  cases st with
  | memory m =>
    have hm : m.sessions = [] := Entries.eq_nil_of_find? fun key => by
      simpa [stored?] using hnone key
    rw [Store.Tidy, hm]
    exact ⟨.nil, by simp⟩
  | relational t =>
    have ht : t.sessions = [] := Entries.eq_nil_of_find? fun key => by
      simpa [stored?] using hnone key
    rw [Store.Tidy, ht]
    exact ⟨.nil, by simp⟩

theorem Tidy.answer (h : st.Tidy) (now : Moment) (id : String) (r : Request) :
    (st.answer now id r).2.Tidy := by
  cases st with
  | memory m =>
    have hm : m.sessions.Tidy Session.id := h
    cases r with
    | openSession o => exact hm.put (Memory.begin o id now)
    | saveSession s =>
      simp only [Store.answer, Memory.answer, Memory.saveSession]
      split
      · exact h
      · split
        · exact h
        · exact hm.put (Memory.saved s now)
    | _ => exact h
  | relational t =>
    have ht : t.sessions.Tidy SessionRow.id := h
    cases r with
    | openSession o =>
      simp only [Store.answer, Relational.answer, Relational.openSession]
      split
      · exact h
      next time htime =>
      split
      · exact ht.put
          { id, flowId := o.flowId, ticketId := o.ticketId, contactId := o.contactId
            currentNode := o.currentNode, state := o.state.toJson, version := 0, createdAt := time
            updatedAt := time, completedAt := none, transferredAt := none }
      · exact h
    | saveSession s =>
      simp only [Store.answer, Relational.answer, Relational.saveSession]
      rcases rowChange_cases t now s with ⟨e, he, -⟩ | ⟨change, hchange, hrow⟩
      · simpa only [he] using h
      rw [hchange]
      cases hfind : t.sessions.find? s.id with
      | none => exact h
      | some row =>
        have hid : (change row).id = s.id := (hrow row).1.trans (ht.id_of_find? hfind)
        simp only
        split
        · exact h
        · have hput := ht.put (change row)
          rw [hid] at hput
          exact hput
    | deleteFlow id =>
      simp only [Store.answer, Relational.answer]
      split
      · exact ht.filter _
      · exact h
    | saveFlow f =>
      simp only [Store.answer, Relational.answer, Relational.saveFlow]
      split <;> exact h
    | record i =>
      simp only [Store.answer, Relational.answer, Relational.record]
      split
      · exact h
      · split <;> exact h
    | _ => exact h

theorem Tidy.after (h : st.Tidy) {st' : Store} {r : Request} {x : Except Fault r.Answer}
    (hanswer : st.answer now id r = (x, st')) : st'.Tidy := by
  have hafter := h.answer now id r
  rwa [hanswer] at hafter

/-- What is found among the sessions on record is stored under its id. -/
theorem Tidy.stored_of_mem (h : st.Tidy) {l : Session}
    (hmem : l ∈ st.sessions now) : ∃ rec, st.stored? l.id = some rec ∧ rec.read now = l := by
  cases st with
  | memory m =>
    have hfind := Entries.Tidy.find?_of_mem h hmem
    exact ⟨.session l, by simp [stored?, hfind], rfl⟩
  | relational t =>
    rw [sessions, table, Entries.values_mapValues] at hmem
    obtain ⟨row, hrow, rfl⟩ := List.mem_map.1 hmem
    have hfind : t.sessions.find? row.id = some row := Entries.Tidy.find?_of_mem h hrow
    exact ⟨.row row, by simp [stored?, SessionRow.session, hfind], rfl⟩

end Store

end FrontDesk
