/-
Stores as tables.

Whatever its make, a store is seen as its sessions under their keys, read at some time, and its
interactions in the order in which they came. Each request is answered from these, and says what
becomes of them. A store of rows does so only for moments it can keep (`Store.CanKeep`); those it
has kept once it can keep again.
-/
import FrontDesk.Proofs.Conversation.Storage
import FrontDesk.Service.World

namespace FrontDesk

open Calendar Store

namespace Entries

variable {α β : Type}

/-- Values replaced by their images, key by key. -/
def mapValues (f : α → β) (es : Entries α) : Entries β := es.map fun e => (e.1, f e.2)

theorem find?_mapValues (f : α → β) (es : Entries α) (key : String) :
    (es.mapValues f).find? key = (es.find? key).map f := by
  induction es with
  | nil => rfl
  | cons e rest ih =>
    simp only [mapValues, List.map_cons, find?_cons] at ih ⊢
    split
    · rfl
    · exact ih

theorem put_mapValues (f : α → β) (es : Entries α) (key : String) (value : α) :
    (es.put key value).mapValues f = (es.mapValues f).put key (f value) := by
  induction es with
  | nil => rfl
  | cons e rest ih =>
    obtain ⟨k, v⟩ := e
    simp only [put, mapValues, List.map_cons] at ih ⊢
    split
    · rfl
    · rw [List.map_cons, ih]

theorem values_mapValues (f : α → β) (es : Entries α) :
    (es.mapValues f).values = es.values.map f := by
  simp [mapValues, values]

theorem put_of_find?_none {es : Entries α} {key : String} (value : α) (h : es.find? key = none) :
    es.put key value = es ++ [(key, value)] := by
  induction es with
  | nil => rfl
  | cons e rest ih =>
    obtain ⟨k, v⟩ := e
    rw [find?_cons] at h
    split at h
    · cases h
    next hk =>
    simp only [beq_iff_eq] at hk
    simp [put, Ne.symm hk, ih h]

theorem mem_values_of_find? {key : String} {v : α} {es : Entries α} (h : es.find? key = some v) :
    v ∈ es.values := by
  induction es with
  | nil => simp at h
  | cons e rest ih =>
    rw [find?_cons] at h
    split at h
    · cases h; simp [values]
    · exact List.mem_cons_of_mem _ (ih h)

/-- If one value at most has a property, and it stands under the key, then so it is for what is put
in its place. -/
theorem filter_put {p : α → Bool} {es : Entries α} {key : String} {old new : α}
    (hfind : es.find? key = some old) (honly : es.values.filter p = if p old then [old] else []) :
    (es.put key new).values.filter p = if p new then [new] else [] := by
  induction es with
  | nil => simp at hfind
  | cons e rest ih =>
    obtain ⟨k, v⟩ := e
    rw [find?_cons] at hfind
    simp only [values, List.map_cons, List.filter_cons] at honly ih
    by_cases hk : k = key
    · subst hk
      simp only [beq_self_eq_true, if_true, Option.some.injEq] at hfind
      subst hfind
      have hrest : (rest.map Prod.snd).filter p = [] := by
        split at honly
        · exact (List.cons.inj honly).2
        · exact honly
      simp [put, values, List.filter_cons, hrest]
    · rw [if_neg (by simpa using Ne.symm hk)] at hfind
      cases hv : p v with
      | true =>
        -- the two of them would have the property
        rw [hv, if_pos rfl] at honly
        split at honly
        next hold =>
          have hmem : old ∈ (rest.map Prod.snd).filter p :=
            List.mem_filter.2 ⟨mem_values_of_find? hfind, hold⟩
          rw [(List.cons.inj honly).2] at hmem
          cases hmem
        next => cases honly
      | false =>
        rw [hv, if_neg Bool.false_ne_true] at honly
        simpa [put, hk, values, List.filter_cons, hv] using ih hfind honly

theorem filter_put_new {p : α → Bool} {es : Entries α} {key : String} {new : α}
    (hnone : es.find? key = none) (hidle : es.values.filter p = []) :
    (es.put key new).values.filter p = if p new then [new] else [] := by
  simp only [values] at hidle
  rw [put_of_find?_none new hnone, values, List.map_append, List.filter_append, hidle,
    List.nil_append, List.map_singleton, List.filter_cons, List.filter_nil]

end Entries

namespace Store

/-! ## What is seen of a store -/

/-- The sessions under their keys, read at the given time. -/
def table (now : Moment) : Store → Entries Session
  | memory m => m.sessions
  | relational t => t.sessions.mapValues (·.session now)

/-- The sessions on record, read at the given time. -/
def sessions (now : Moment) (st : Store) : List Session := (st.table now).values

/-- The interactions on record. -/
def interactions : Store → List Interaction
  | memory m => m.interactions
  | relational t => t.interactions

/-- The session that goes on under a ticket, if one can be told. -/
def activeSession (ticketId : String) (now : Moment) (st : Store) :
    Except Fault (Option Session) :=
  (st.answer now "" (.activeSession ticketId)).1

/-- The flow under an id. -/
def flow? (id : String) : Store → Option Flow
  | memory m => m.flows.find? id
  | relational t => t.flows.find? id

/-- The flows that a new conversation is considered for. -/
def activeFlows : Store → Except Fault (List Flow)
  | memory m => Memory.ordered Flow.considered (m.flows.values.filter Flow.isActive)
  | relational t => .ok (Flow.considered t.flows.values)

/-- Whether the store can keep a moment. -/
def CanKeep (time : Moment) : Store → Prop
  | memory _ => True
  | relational _ => ∃ row, rowMoment time = .ok row

/-- A store has become another, with these sessions and these interactions. Its flows and its make
are as they were. -/
structure Becomes (st : Store) (now : Moment) (es : Entries Session) (is : List Interaction)
    (st' : Store) : Prop where
  table : st'.table now = es
  interactions : st'.interactions = is
  flow : ∀ id, st'.flow? id = st.flow? id
  canKeep : ∀ time, st.CanKeep time → st'.CanKeep time

variable {st : Store} {now : Moment} {id : String}

/-! ## Reading -/

theorem answer_activeFlows : st.answer now id .activeFlows = (st.activeFlows, st) := by
  cases st <;> rfl

theorem answer_flow (key : String) : st.answer now id (.flow key) = (.ok (st.flow? key), st) := by
  cases st <;> rfl

theorem answer_session (key : String) :
    st.answer now id (.session key) = (.ok ((st.table now).find? key), st) := by
  cases st with
  | memory m => rfl
  | relational t => rw [table, Entries.find?_mapValues]; rfl

theorem answer_activeSession_eq (st : Store) (now : Moment) (id ticketId : String) :
    st.answer now id (.activeSession ticketId) = (st.activeSession ticketId now, st) := by
  cases st <;> rfl

theorem answer_activeSession {ticketId : String} {s? : Option Session}
    (h : (st.sessions now).filter (·.isActiveOn ticketId) = s?.toList) :
    st.answer now id (.activeSession ticketId) = (.ok s?, st) := by
  cases st with
  | memory m =>
    have hnewest : Memory.newest s?.toList = .ok s? := by cases s? <;> rfl
    simp only [sessions, table] at h
    simp only [answer, Memory.answer, h, hnewest]
  | relational t =>
    have hrows : ((t.sessions.values.filter (·.isActiveOn ticketId)).map (·.session now)) =
        s?.toList := by
      rw [← h, sessions, table, Entries.values_mapValues, List.filter_map]
      rfl
    have hnewest :
        (Relational.newest (t.sessions.values.filter (·.isActiveOn ticketId))).map (·.session now)
          = s? := by
      cases hf : t.sessions.values.filter (·.isActiveOn ticketId) with
      | nil =>
        rw [hf] at hrows
        cases s? <;> simp_all [Relational.newest]
      | cons row rest =>
        rw [hf] at hrows
        cases s? with
        | none => simp at hrows
        | some s =>
          simp only [List.map_cons, Option.toList_some, List.cons.injEq, List.map_eq_nil_iff]
            at hrows
          simp [Relational.newest, hrows]
    simp only [answer, Relational.answer, hnewest]

theorem activeSession_eq {ticketId : String} {s? : Option Session}
    (h : (st.sessions now).filter (·.isActiveOn ticketId) = s?.toList) :
    st.activeSession ticketId now = .ok s? := congrArg Prod.fst (answer_activeSession h)

theorem answer_interactions (key : String) {time : Moment}
    (h : ∀ i ∈ st.interactions, i.sessionId = key → i.createdAt.instant = time.instant) :
    st.answer now id (.interactions key) =
      (.ok (st.interactions.filter (·.sessionId == key)), st) := by
  cases st with
  | memory m => rfl
  | relational t =>
    have hsorted : t.trail key = t.interactions.filter (·.sessionId == key) := by
      refine List.mergeSort_of_pairwise (List.pairwise_of_forall_mem_list fun a ha b hb => ?_)
      simp only [List.mem_filter, beq_iff_eq] at ha hb
      simp [h a ha.1 ha.2, h b hb.1 hb.2]
    simp only [answer, Relational.answer, hsorted]
    rfl

/-! ## Moments in rows -/

theorem rowMoment_instant {time row : Moment} (h : rowMoment time = .ok row) :
    row.instant = time.instant := by
  unfold rowMoment Moment.onClock at h
  split at h
  · split at h
    · cases h
      simp [Moment.instant]
    · cases h
  · cases h

theorem rowMoment_row {time row : Moment} (h : rowMoment time = .ok row) :
    rowMoment row = .ok row := by
  unfold rowMoment Moment.onClock at h ⊢
  split at h
  · split at h
    next hrange =>
      cases h
      simp only [Moment.instant, Option.getD_some, Int.add_zero, Int.sub_zero, Bool.and_self]
        at hrange ⊢
      rw [if_pos Option.isSome_some, if_pos hrange]
      rfl
    · cases h
  · cases h

theorem rowMoment?_ok {t : Relational} {time? : Option Moment}
    (h : ∀ time, time? = some time → (relational t).CanKeep time) :
    ∃ row?, rowMoment? time? = .ok row? ∧ row?.isSome = time?.isSome ∧
      ∀ row, row? = some row → (relational t).CanKeep row := by
  cases time? with
  | none => exact ⟨none, rfl, rfl, by simp⟩
  | some time =>
    obtain ⟨row, hrow⟩ := h time rfl
    refine ⟨some row, by rw [rowMoment?, hrow]; rfl, rfl, ?_⟩
    rintro _ ⟨⟩
    exact ⟨row, rowMoment_row hrow⟩

/-! ## Rivals -/

/-- The store after someone else saved the session that goes on under a ticket, as it is. -/
def rivalled (now : Moment) (id ticketId : String) (st : Store) : Store :=
  match st.activeSession ticketId now with
  | .ok (some s) => (st.answer now id (.saveSession s)).2
  | _ => st

theorem rivalled_cases (st : Store) (now : Moment) (id ticketId : String) :
    st.rivalled now id ticketId = st ∨
      ∃ s, (st.answer now id (.activeSession ticketId)).1 = .ok (some s) ∧
        st.rivalled now id ticketId = (st.answer now id (.saveSession s)).2 := by
  unfold rivalled
  split
  next s hactive =>
    exact .inr ⟨s, by rw [answer_activeSession_eq, hactive], rfl⟩
  next => exact .inl rfl

/-! ## Writing -/

theorem answer_record {i : Interaction} (htime : st.CanKeep i.createdAt)
    (hthere : ((st.table now).find? i.sessionId).isSome = true) :
    ∃ time st', time.instant = i.createdAt.instant ∧
      (∀ id, st.answer now id (.record i) = (.ok (), st')) ∧
      st.Becomes now (st.table now) (st.interactions ++ [{ i with createdAt := time }]) st' := by
  cases st with
  | memory m =>
    exact ⟨i.createdAt, _, rfl, fun _ => rfl, ⟨rfl, rfl, fun _ => rfl, fun _ h => h⟩⟩
  | relational t =>
    obtain ⟨row, hrow⟩ := htime
    rw [table, Entries.find?_mapValues, Option.isSome_map] at hthere
    refine ⟨row,
      .relational { t with interactions := t.interactions ++ [{ i with createdAt := row }] },
      rowMoment_instant hrow, fun id => ?_, ⟨rfl, rfl, fun _ => rfl, fun _ h => h⟩⟩
    simp [answer, Relational.answer, Relational.record, hrow, Entries.has, hthere]

end Store

/-- Two sessions are alike but for the contact and the times at which things were done. -/
structure Session.Like (s s' : Session) : Prop where
  id : s.id = s'.id
  flowId : s.flowId = s'.flowId
  ticketId : s.ticketId = s'.ticketId
  currentNode : s.currentNode = s'.currentNode
  state : s.state = s'.state
  version : s.version = s'.version
  completed : s.completedAt.isSome = s'.completedAt.isSome

namespace Store

variable {st : Store} {now : Moment}

theorem table_put (t : Relational) (key : String) (row : SessionRow) :
    (relational { t with sessions := t.sessions.put key row }).table now =
      ((relational t).table now).put key (row.session now) :=
  Entries.put_mapValues (fun r : SessionRow => r.session now) t.sessions key row

theorem answer_openSession (id : String) {o : Opening} (hnow : st.CanKeep now)
    (hflow : (st.flow? o.flowId).isSome = true) (hstate : o.state.Storable) :
    ∃ s st', st.answer now id (.openSession o) = (.ok s, st') ∧ s.Like (Memory.begin o id now) ∧
      s.transferredAt = none ∧ st.Becomes now ((st.table now).put id s) st.interactions st' := by
  cases st with
  | memory m =>
    exact ⟨_, _, rfl, ⟨rfl, rfl, rfl, rfl, rfl, rfl, rfl⟩, rfl,
      ⟨rfl, rfl, fun _ => rfl, fun _ h => h⟩⟩
  | relational t =>
    obtain ⟨time, htime⟩ := hnow
    let row : SessionRow :=
      { id, flowId := o.flowId, ticketId := o.ticketId, contactId := o.contactId
        currentNode := o.currentNode, state := o.state.toJson, version := 0, createdAt := time
        updatedAt := time, completedAt := none, transferredAt := none }
    have hread : (row.session now).state = o.state := State.ofJson_toJson hstate now.isoText
    refine ⟨row.session now, .relational { t with sessions := t.sessions.put id row }, ?_,
      ⟨rfl, rfl, rfl, rfl, hread, rfl, rfl⟩, rfl,
      ⟨table_put t _ row, rfl, fun _ => rfl, fun _ h => h⟩⟩
    simp only [flow?] at hflow
    simp [answer, Relational.answer, Relational.openSession, htime, Entries.has, hflow, row]

/-- A session that was loaded is saved. What is on record then is like what is given back. -/
theorem answer_saveSession {s old : Session} (hnow : st.CanKeep now)
    (hcompleted : ∀ time, s.completedAt = some time → st.CanKeep time)
    (htransferred : ∀ time, s.transferredAt = some time → st.CanKeep time)
    (hfind : (st.table now).find? s.id = some old) (hid : old.id = s.id)
    (hflow : old.flowId = s.flowId) (hticket : old.ticketId = s.ticketId)
    (hversion : old.version = s.version) (hstate : s.state.Storable) :
    ∃ s' st', (∀ id, st.answer now id (.saveSession s) = (.ok (Memory.saved s now), st')) ∧
      s'.Like (Memory.saved s now) ∧
      (∀ time, s'.transferredAt = some time → st.CanKeep time) ∧
      st.Becomes now ((st.table now).put s.id s') st.interactions st' := by
  cases st with
  | memory m =>
    simp only [table] at hfind
    refine ⟨Memory.saved s now,
      .memory { m with sessions := m.sessions.put s.id (Memory.saved s now) }, fun id => ?_,
      ⟨rfl, rfl, rfl, rfl, rfl, rfl, rfl⟩, fun _ _ => trivial,
      ⟨rfl, rfl, fun _ => rfl, fun _ h => h⟩⟩
    simp [answer, Memory.answer, Memory.saveSession, hfind, hversion]
  | relational t =>
    rw [table, Entries.find?_mapValues] at hfind
    obtain ⟨row, hrow, rfl⟩ := Option.map_eq_some_iff.1 hfind
    obtain ⟨updatedAt, hupdated⟩ := hnow
    obtain ⟨completedAt, hcompletedAt, hsome, -⟩ := rowMoment?_ok hcompleted
    obtain ⟨transferredAt, htransferredAt, -, hkeep⟩ := rowMoment?_ok htransferred
    let row' : SessionRow :=
      { row with
        currentNode := s.currentNode, state := s.state.toJson, version := s.version + 1
        updatedAt, completedAt, transferredAt }
    have hread : (row'.session now).state = s.state := State.ofJson_toJson hstate now.isoText
    refine ⟨row'.session now, .relational { t with sessions := t.sessions.put s.id row' },
      fun id => ?_, ⟨hid, hflow, hticket, rfl, hread, rfl, hsome⟩, hkeep,
      ⟨table_put t _ row', rfl, fun _ => rfl, fun _ h => h⟩⟩
    simp only [SessionRow.session] at hversion
    simp [answer, Relational.answer, Relational.saveSession, Relational.rowChange, hupdated,
      hcompletedAt, htransferredAt, hrow, hversion, bind, Except.bind, pure, Except.pure,
      Memory.saved, row']

end Store

end FrontDesk
