/-
A store of rows and its mirror in memory.

The mirror of a store has the same flows, the sessions as they are read, and the same interactions. A
request that may be made of a store of rows gets the same answer in its mirror, and the store that it
comes to is mirrored by what it comes to there (`Store.Mirrors`), as long as rows keep moments as
they are (`Store.Retains`). There is one lemma for each request but the one for an audit trail: rows
are put in order of time, and that is all there is between the two (`Store.answer_trail`).
-/
import FrontDesk.Proofs.Catalog.Choice
import FrontDesk.Proofs.Store.Book

namespace FrontDesk

open Calendar Store

/-- Some interactions, the earliest first, those of one time as they came. -/
def Interaction.byTime (is : List Interaction) : List Interaction :=
  is.mergeSort fun a b => a.createdAt.instant ≤ b.createdAt.instant

theorem Interaction.byTime_inOrder (is : List Interaction) :
    ((byTime is).map fun i => i.createdAt.instant).Pairwise (· ≤ ·) :=
  List.pairwise_map.2 (mergeSort_inOrder Interaction.createdAt is)

namespace Store

/-- The same records in memory. -/
def mirror : Store → Store
  | memory m => memory m
  | relational t =>
    memory { flows := t.flows, sessions := (relational t).book, interactions := t.interactions }

/-- In memory the request gets the same answer and comes to the same records. -/
def Mirrors (st : Store) (now : Moment) (id : String) (r : Request) : Prop :=
  st.mirror.answer now id r = ((st.answer now id r).1, (st.answer now id r).2.mirror)

/-- The times of creation of all flows are kept as they are. -/
def Dated (st : Store) : Prop := ∀ f ∈ st.catalog.values, st.Retains f.createdAt

variable {st : Store} {now : Moment} {id : String}

theorem mirror_table (st : Store) (now : Moment) : st.mirror.table now = st.book := by
  cases st <;> rfl

theorem mirrors_of_reads {r : Request} {x : Except Fault r.Answer}
    (h : st.answer now id r = (x, st)) (h' : st.mirror.answer now id r = (x, st.mirror)) :
    st.Mirrors now id r := by
  rw [Mirrors, h, h']

/-! ## Flows -/

theorem mirrors_flow (key : String) : st.Mirrors now id (.flow key) := by
  cases st <;> rfl

theorem rowMoment_utc (hoffset : now.offset = some 0)
    (hrange : Moment.inRange now.ticks = true) : rowMoment now = .ok now := by
  obtain ⟨ticks, offset⟩ := now
  obtain rfl : offset = some 0 := hoffset
  have hclock : Moment.onClock ⟨ticks, some 0⟩ 0 = .ok ⟨ticks, some 0⟩ := by
    simp [Moment.onClock, Moment.instant, hrange]
  simp only [rowMoment, Option.isSome_some, if_true, hclock]
  rfl

theorem offset_of_rowMoment {time row : Moment} (h : rowMoment time = .ok row) :
    time.offset.isSome = true := by
  unfold rowMoment at h
  split at h
  next hoffset => exact hoffset
  next => cases h

theorem areComparable_of_offsets {fs : List Flow}
    (h : ∀ f ∈ fs, f.createdAt.offset.isSome = true) : Flow.areComparable fs = true :=
  Flow.areComparable_of_forall fun f hf g hg => by simp [Moment.comparable, h f hf, h g hg]

theorem ordered_eq {t : Relational} (h : (relational t).Dated) {fs : List Flow}
    (hfs : ∀ f ∈ fs, f ∈ t.flows.values) (order : List Flow → List Flow) :
    Memory.ordered order fs = .ok (order fs) :=
  if_pos (areComparable_of_offsets fun f hf => offset_of_rowMoment (h f (hfs f hf) rfl))

theorem mirrors_flows (h : st.Dated) : st.Mirrors now id .flows := by
  cases st with
  | memory m => rfl
  | relational t =>
    exact congrArg (·, (relational t).mirror) (ordered_eq h (fun _ hf => hf) Flow.listed)

theorem mirrors_activeFlows (h : st.Dated) : st.Mirrors now id .activeFlows := by
  cases st with
  | memory m => rfl
  | relational t =>
    have hordered : Memory.ordered Flow.considered (t.flows.values.filter Flow.isActive) = _ :=
      ordered_eq h (fun _ hf => (List.mem_filter.1 hf).1) Flow.considered
    rw [Flow.considered_filter] at hordered
    exact congrArg (·, (relational t).mirror) hordered

/-- A flow that is new, or made from the one in its place, is saved as it is. -/
theorem mirrors_saveFlow {f : Flow} (hnow : st.Retains now) (hupdated : f.updatedAt = now)
    (hcreated : st.catalog.find? f.id = none ∧ f.createdAt = now ∨
      ∃ old, st.catalog.find? f.id = some old ∧ f.createdAt = old.createdAt) :
    st.Mirrors now id (.saveFlow f) := by
  cases st with
  | memory m => rfl
  | relational t =>
    have hrow : t.flowRow now f = .ok f := by
      have hnow : rowMoment now = .ok now := hnow rfl
      unfold Relational.flowRow
      rw [← hupdated] at hnow ⊢
      rcases hcreated with ⟨hnone, hcreated⟩ | ⟨old, hold, hcreated⟩
      · have hcreated : rowMoment f.createdAt = .ok f.createdAt := by
          rw [hcreated, ← hupdated]
          exact hnow
        rw [show t.flows.find? f.id = none from hnone]
        simp only [hcreated, hnow, bind, Except.bind, pure, Except.pure]
      · rw [show t.flows.find? f.id = some old from hold]
        simp only [hnow, ← hcreated, bind, Except.bind, pure, Except.pure]
    simp only [Mirrors, answer, Relational.answer, Relational.saveFlow, hrow]
    rfl

theorem mirrors_deleteFlow {key : String} (hidle : ∀ s ∈ st.book.values, s.flowId ≠ key) :
    st.Mirrors now id (.deleteFlow key) := by
  cases st with
  | memory m => rfl
  | relational t =>
    have hrows : ∀ e ∈ t.sessions, e.2.flowId ≠ key := by
      intro e he
      refine hidle (e.2.session (.utc 0)) ?_
      rw [book, Store.table, Entries.values_mapValues]
      exact List.mem_map_of_mem (List.mem_map_of_mem he)
    have hrest : t.deleteFlow key = { t with flows := t.flows.remove key } := by
      have hgone : t.sessions.filter (fun e => e.2.flowId == key) = [] :=
        List.filter_eq_nil_iff.2 fun e he => by simpa using hrows e he
      have hstay : t.sessions.filter (fun e => e.2.flowId != key) = t.sessions :=
        List.filter_eq_self.2 fun e he => by simpa using hrows e he
      simp [Relational.deleteFlow, hgone, hstay]
    cases hhas : t.flows.has key with
    | true =>
      simp only [Mirrors, answer, Relational.answer, hhas, if_true, hrest]
      simp [mirror, Memory.answer, hhas, book, Store.table]
    | false =>
      simp only [Mirrors, answer, Relational.answer, hhas, Bool.false_eq_true, if_false]
      simp [mirror, Memory.answer, hhas, Entries.remove_of_has_false hhas]

theorem mirrors_demoteOthers (key : String) : st.Mirrors now id (.demoteOthers key) := by
  cases st <;> rfl

theorem Dated.answer (h : st.Dated) (now : Moment) (id : String) (r : Request) :
    (st.answer now id r).2.Dated := by
  cases st with
  | memory m => exact fun _ _ => nofun
  | relational t =>
    suffices hrows : ∀ f ∈ (t.answer now id r).2.flows.values,
        rowMoment f.createdAt = .ok f.createdAt from fun f hf _ => hrows f hf
    have hold : ∀ f ∈ t.flows.values, rowMoment f.createdAt = .ok f.createdAt :=
      fun f hf => h f hf rfl
    cases hedits : r.edits with
    | false =>
      have hsame : (t.answer now id r).2.flows = t.flows :=
        (catalog_answer hedits : ((relational t).answer now id r).2.catalog = _)
      rw [hsame]
      exact hold
    | true =>
      cases r with
      | deleteFlow key =>
        simp only [Relational.answer]
        split
        · intro f hf
          obtain ⟨e, he, rfl⟩ := List.mem_map.1 hf
          exact hold e.2 (List.mem_map_of_mem (List.mem_filter.1 he).1)
        · exact hold
      | demoteOthers key =>
        intro f hf
        obtain ⟨e, he, rfl⟩ := List.mem_map.1 hf
        obtain ⟨⟨k, f⟩, hmem, rfl⟩ := List.mem_map.1 he
        have hf := hold f (List.mem_map_of_mem hmem)
        simp only
        split <;> exact hf
      | saveFlow f =>
        simp only [Relational.answer, Relational.saveFlow]
        cases hrow : t.flowRow now f with
        | error e => exact hold
        | ok row =>
          intro f' hf'
          rcases Entries.mem_values_put hf' with hf' | rfl
          · exact hold f' hf'
          simp only [Relational.flowRow, bind, Except.bind, pure, Except.pure] at hrow
          split at hrow
          next old hfind =>
            split at hrow
            · cases hrow
            · cases hrow
              exact hold old (Entries.mem_values_of_find? hfind)
          next =>
            split at hrow
            · cases hrow
            next createdAt hcreated =>
            split at hrow
            · cases hrow
            · cases hrow
              exact rowMoment_row hcreated
      | _ => cases hedits

/-! ## Sessions -/

theorem mirrors_session (h : st.Steady) (key : String) : st.Mirrors now id (.session key) := by
  refine mirrors_of_reads (answer_session key) ?_
  rw [answer_session, mirror_table, h.table]

theorem mirrors_sessionsOf (h : st.Steady) (key : String) :
    st.Mirrors now id (.sessionsOf key) := by
  refine mirrors_of_reads (answer_sessionsOf st now id key) ?_
  rw [answer_sessionsOf, Store.sessions, mirror_table, h.sessions]

theorem mirrors_activeSession (h : st.Steady) {ticketId : String} {s? : Option Session}
    (halone : st.book.values.filter (·.isActiveOn ticketId) = s?.toList) :
    st.Mirrors now id (.activeSession ticketId) := by
  have hrows : (st.sessions now).filter (·.isActiveOn ticketId) = s?.toList := by
    rw [h.sessions, halone]
  have hmemory : (st.mirror.sessions now).filter (·.isActiveOn ticketId) = s?.toList := by
    rw [Store.sessions, mirror_table, halone]
  exact mirrors_of_reads (answer_activeSession hrows) (answer_activeSession hmemory)

theorem mirrors_openSession {o : Opening} (hnow : st.Retains now)
    (hflow : st.catalog.has o.flowId = true) (hstate : o.state.Storable) :
    st.Mirrors now id (.openSession o) := by
  cases st with
  | memory m => rfl
  | relational t =>
    have hnow : rowMoment now = .ok now := hnow rfl
    have hflow : t.flows.has o.flowId = true := hflow
    let row : SessionRow :=
      { id, flowId := o.flowId, ticketId := o.ticketId, contactId := o.contactId
        currentNode := o.currentNode, state := o.state.toJson, version := 0, createdAt := now
        updatedAt := now, completedAt := none, transferredAt := none }
    have hread (time : Moment) : row.session time = Memory.begin o id now := by
      simp only [row, SessionRow.session, Memory.begin, State.ofJson_toJson hstate]
    have hanswer : (relational t).answer now id (.openSession o) =
        (.ok (row.session now), relational { t with sessions := t.sessions.put id row }) := by
      simp [answer, Relational.answer, Relational.openSession, hnow, hflow, row]
    have hbook : (relational { t with sessions := t.sessions.put id row }).table (.utc 0) = _ :=
      table_put t id row
    rw [hread] at hbook
    rw [Mirrors, hanswer, hread]
    simp only [mirror, book, hbook]
    rfl

/-- A session is saved that was made from a record. -/
theorem mirrors_saveSession {old s : Session} (hnow : st.Retains now)
    (hfound : st.book.find? s.id = some old) (hkin : old.Kin s) (hstate : s.state.Storable)
    (htimes : ∀ time, s.completedAt = some time ∨ s.transferredAt = some time → st.Retains time) :
    st.Mirrors now id (.saveSession s) := by
  cases st with
  | memory m => rfl
  | relational t =>
    have hnow : rowMoment now = .ok now := hnow rfl
    have hkeep (time? : Option Moment)
        (h : ∀ time, time? = some time → rowMoment time = .ok time) :
        rowMoment? time? = .ok time? := by
      cases time? with
      | none => rfl
      | some time => simp [rowMoment?, h time rfl, Functor.map, Except.map]
    have hcompleted := hkeep s.completedAt fun time h => htimes time (.inl h) rfl
    have htransferred := hkeep s.transferredAt fun time h => htimes time (.inr h) rfl
    have hread := hfound
    rw [book, Store.table, Entries.find?_mapValues] at hread
    obtain ⟨row, hrow, rfl⟩ := Option.map_eq_some_iff.1 hread
    have hfind : ((relational t).table (.utc 0)).find? s.id = some (row.session (.utc 0)) := hfound
    by_cases hversion : row.version = s.version
    · let row' : SessionRow :=
        { row with
          currentNode := s.currentNode, state := s.state.toJson, version := s.version + 1
          updatedAt := now, completedAt := s.completedAt, transferredAt := s.transferredAt }
      have hread : row'.session (.utc 0) = Memory.saved s now := by
        obtain ⟨hid, hflow, hticket, hcontact, hcreated⟩ := hkin
        simp only [SessionRow.session] at hid hflow hticket hcontact hcreated
        simp only [row', SessionRow.session, Memory.saved, State.ofJson_toJson hstate, hid, hflow,
          hticket, hcontact, hcreated]
      have hanswer : (relational t).answer now id (.saveSession s) =
          (.ok (Memory.saved s now),
            relational { t with sessions := t.sessions.put s.id row' }) := by
        simp [answer, Relational.answer, Relational.saveSession, Relational.rowChange, hnow,
          hcompleted, htransferred, hrow, hversion, bind, Except.bind, pure, Except.pure,
          Memory.saved, row']
      have hbook :
          (relational { t with sessions := t.sessions.put s.id row' }).table (.utc 0) = _ :=
        table_put t s.id row'
      rw [hread] at hbook
      rw [Mirrors, hanswer]
      simp only [mirror, book, hbook]
      simp [answer, Memory.answer, Memory.saveSession, hfind, SessionRow.session, hversion]
    · have hanswer : (relational t).answer now id (.saveSession s) =
          (.error (.stale s.id), relational t) := by
        simp [answer, Relational.answer, Relational.saveSession, Relational.rowChange, hnow,
          hcompleted, htransferred, hrow, hversion, bind, Except.bind, pure, Except.pure]
      rw [Mirrors, hanswer]
      simp [mirror, book, answer, Memory.answer, Memory.saveSession, hfind, SessionRow.session,
        hversion]

/-! ## Interactions -/

theorem mirrors_record {i : Interaction} (htime : st.Retains i.createdAt)
    (hthere : st.book.has i.sessionId = true) : st.Mirrors now id (.record i) := by
  cases st with
  | memory m => rfl
  | relational t =>
    have htime : rowMoment i.createdAt = .ok i.createdAt := htime rfl
    rw [Entries.has, book, Store.table, Entries.find?_mapValues, Option.isSome_map] at hthere
    simp only [Mirrors, answer, Relational.answer, Relational.record, htime, Entries.has, hthere,
      if_true]
    rfl

/-- The audit trail that a store of rows gives out is that of its mirror in order of time. -/
theorem answer_trail (hrows : st.isRelational = true) (now : Moment) (id key : String) :
    st.mirror.answer now id (.interactions key) =
        (.ok (st.interactions.filter (·.sessionId == key)), st.mirror) ∧
      st.answer now id (.interactions key) =
        (.ok (Interaction.byTime (st.interactions.filter (·.sessionId == key))), st) := by
  cases st with
  | memory m => cases hrows
  | relational t => exact ⟨rfl, rfl⟩

end Store

end FrontDesk
