/-
Rows that refer to rows.

A session names its flow and an interaction its session. A request that is refused leaves all tables
as they are, and it is refused on grounds that can be told beforehand (`Relational.Grounds`); what is
done writes one row, demotes flows, or deletes a flow with all that refers to it
(`Relational.answer_cases`). So no row ever names one that is not there (`Relational.Intact`).
-/
import FrontDesk.Proofs.Store.Book
import FrontDesk.Proofs.Store.Versions

namespace FrontDesk

open Calendar Store

namespace Entries

variable {α : Type} {es : Entries α}

theorem has_iff_mem_keys {key : String} : es.has key = true ↔ key ∈ es.keys := by
  refine ⟨fun h => ?_, find?_isSome_of_mem_keys⟩
  obtain ⟨v, hv⟩ := Option.isSome_iff_exists.1 h
  exact List.mem_map_of_mem (f := Prod.fst) (mem_of_find? hv)

theorem Tidy.exists_of_mem_keys {idOf : α → String} (h : es.Tidy idOf) {key : String}
    (hkey : key ∈ es.keys) : ∃ v ∈ es.values, idOf v = key := by
  obtain ⟨e, he, rfl⟩ := List.mem_map.1 hkey
  exact ⟨e.2, List.mem_map_of_mem he, h.ids e he⟩

end Entries

namespace Store

/-! ## Moments that no row can have -/

/-- No row can have the moment: it is on no known clock, or cannot be had in universal time. -/
def Unstorable (time : Moment) : Prop := time.offset = none ∨ Moment.inRange time.instant = false

theorem rowMoment_cases (time : Moment) :
    (rowMoment time = .error .unstorableMoment ∧ Unstorable time) ∨
      ∃ row, rowMoment time = .ok row ∧ ¬ Unstorable time := by
  unfold Unstorable rowMoment Moment.onClock
  cases hoffset : time.offset with
  | none => exact .inl ⟨rfl, .inl rfl⟩
  | some offset =>
    cases hrange : Moment.inRange time.instant with
    | false => exact .inl ⟨by simp [hrange]; rfl, .inr rfl⟩
    | true => exact .inr ⟨_, by simp [hrange]; rfl, by simp⟩

theorem rowMoment?_cases (time? : Option Moment) :
    (rowMoment? time? = .error .unstorableMoment ∧ ∃ time ∈ time?, Unstorable time) ∨
      ∃ row?, rowMoment? time? = .ok row? ∧ ∀ time ∈ time?, ¬ Unstorable time := by
  cases time? with
  | none => exact .inr ⟨none, rfl, by simp⟩
  | some time =>
    rcases rowMoment_cases time with ⟨herror, hno⟩ | ⟨row, hrow, hyes⟩
    · exact .inl ⟨by rw [rowMoment?, herror]; rfl, time, rfl, hno⟩
    · exact .inr ⟨some row, by rw [rowMoment?, hrow]; rfl, by simpa using hyes⟩

namespace Relational

/-! ## What a request makes of the tables -/

/-- What is wrong with a request that is refused with a fault. -/
def Grounds (t : Relational) (now : Moment) : Request → Fault → Prop
  | .saveFlow f, .unstorableMoment =>
    if t.flows.has f.id then Unstorable now else Unstorable f.createdAt ∨ Unstorable f.updatedAt
  | .openSession _, .unstorableMoment => Unstorable now
  | .openSession o, .danglingRow => o.flowId ∉ t.flows.keys
  | .saveSession s, .unstorableMoment =>
    Unstorable now ∨ (∃ time ∈ s.completedAt, Unstorable time) ∨
      ∃ time ∈ s.transferredAt, Unstorable time
  | .saveSession s, .noSessionRow id => id = s.id ∧ s.id ∉ t.sessions.keys
  | .saveSession s, .stale id =>
    id = s.id ∧ ∃ row, t.sessions.find? s.id = some row ∧ row.version ≠ s.version
  | .record i, .unstorableMoment => Unstorable i.createdAt
  | .record i, .danglingRow => i.sessionId ∉ t.sessions.keys
  | _, _ => False

/-- What one request can make of the tables. -/
inductive Step (t : Relational) : Relational → Prop where
  | same : Step t t
  | flow (f : Flow) : Step t { t with flows := t.flows.put f.id f }
  | demoted (id : String) : Step t (t.demoteOthers id)
  | deleted (id : String) : Step t (t.deleteFlow id)
  | begun (row : SessionRow) (flow : row.flowId ∈ t.flows.keys) :
    Step t { t with sessions := t.sessions.put row.id row }
  | saved (old new : SessionRow) (found : t.sessions.find? new.id = some old)
      (flow : new.flowId = old.flowId) : Step t { t with sessions := t.sessions.put new.id new }
  | recorded (i : Interaction) (session : i.sessionId ∈ t.sessions.keys) :
    Step t { t with interactions := t.interactions ++ [i] }

variable {t t' : Relational} {now : Moment} {id : String}

/-- The request is refused on some grounds and nothing is done, or there are no grounds to refuse it
and it is done. -/
def Settles (t : Relational) (now : Moment) (r : Request)
    (answer : Except Fault r.Answer × Relational) : Prop :=
  (∃ e, answer = (.error e, t) ∧ t.Grounds now r e) ∨
    ∃ x t', answer = (.ok x, t') ∧ t.Step t' ∧ ∀ e, ¬ t.Grounds now r e

theorem saveFlow_settles (t : Relational) (now : Moment) (f : Flow) :
    t.Settles now (.saveFlow f) (t.saveFlow now f) := by
  cases hfind : t.flows.find? f.id with
  | some old =>
    have hhas : t.flows.has f.id = true := by rw [Entries.has, hfind]; rfl
    rcases rowMoment_cases now with ⟨herror, hno⟩ | ⟨updatedAt, hnow, hyes⟩
    · refine .inl ⟨.unstorableMoment, ?_, by simpa [Grounds, hhas] using hno⟩
      simp [saveFlow, flowRow, hfind, herror, bind, Except.bind]
    · let row : Flow := { f with createdAt := old.createdAt, updatedAt }
      refine .inr ⟨row, _, ?_, .flow row, fun e he => ?_⟩
      · simp [saveFlow, flowRow, hfind, hnow, bind, Except.bind, pure, Except.pure, row]
      · cases e with
        | unstorableMoment =>
          rw [Grounds, if_pos hhas] at he
          exact hyes he
        | _ => exact he
  | none =>
    have hhas : t.flows.has f.id = false := by rw [Entries.has, hfind]; rfl
    rcases rowMoment_cases f.createdAt with ⟨herror, hno⟩ | ⟨createdAt, hcreated, hyes⟩
    · refine .inl ⟨.unstorableMoment, ?_, by simpa [Grounds, hhas] using .inl hno⟩
      simp [saveFlow, flowRow, hfind, herror, bind, Except.bind]
    rcases rowMoment_cases f.updatedAt with ⟨herror, hno⟩ | ⟨updatedAt, hupdated, hyes'⟩
    · refine .inl ⟨.unstorableMoment, ?_, by simpa [Grounds, hhas] using .inr hno⟩
      simp [saveFlow, flowRow, hfind, hcreated, herror, bind, Except.bind]
    · let row : Flow := { f with createdAt, updatedAt }
      refine .inr ⟨row, _, ?_, .flow row, fun e he => ?_⟩
      · simp [saveFlow, flowRow, hfind, hcreated, hupdated, bind, Except.bind, pure, Except.pure,
          row]
      · cases e with
        | unstorableMoment =>
          rw [Grounds, hhas] at he
          exact he.elim hyes hyes'
        | _ => exact he

theorem openSession_settles (t : Relational) (now : Moment) (id : String) (o : Opening) :
    t.Settles now (.openSession o) (t.openSession now id o) := by
  rcases rowMoment_cases now with ⟨herror, hno⟩ | ⟨time, htime, hyes⟩
  · exact .inl ⟨.unstorableMoment, by simp [openSession, herror], hno⟩
  cases hflow : t.flows.has o.flowId with
  | false =>
    refine .inl ⟨.danglingRow, by simp [openSession, htime, hflow], ?_⟩
    rw [Grounds, ← Entries.has_iff_mem_keys, hflow]
    exact Bool.false_ne_true
  | true =>
    have hkey := Entries.has_iff_mem_keys.1 hflow
    let row : SessionRow :=
      { id, flowId := o.flowId, ticketId := o.ticketId, contactId := o.contactId
        currentNode := o.currentNode, state := o.state.toJson, version := 0, createdAt := time
        updatedAt := time, completedAt := none, transferredAt := none }
    refine .inr ⟨row.session now, _, by simp [openSession, htime, hflow, row], .begun row hkey,
      fun e he => ?_⟩
    cases e with
    | danglingRow => exact he hkey
    | unstorableMoment => exact hyes he
    | _ => exact he

theorem saveSession_settles (htidy : t.sessions.Tidy SessionRow.id) (now : Moment) (s : Session) :
    t.Settles now (.saveSession s) (t.saveSession now s) := by
  rcases rowMoment_cases now with ⟨herror, hno⟩ | ⟨updatedAt, hupdated, hyes⟩
  · exact .inl ⟨.unstorableMoment,
      by simp [saveSession, rowChange, herror, bind, Except.bind], .inl hno⟩
  rcases rowMoment?_cases s.completedAt with ⟨herror, hno⟩ | ⟨completedAt, hcompleted, hyes'⟩
  · exact .inl ⟨.unstorableMoment,
      by simp [saveSession, rowChange, hupdated, herror, bind, Except.bind], .inr (.inl hno)⟩
  rcases rowMoment?_cases s.transferredAt with ⟨herror, hno⟩ | ⟨transferredAt, htransferred, hyes''⟩
  · exact .inl ⟨.unstorableMoment,
      by simp [saveSession, rowChange, hupdated, hcompleted, herror, bind, Except.bind],
      .inr (.inr hno)⟩
  let change (row : SessionRow) : SessionRow :=
    { row with
      currentNode := s.currentNode, state := s.state.toJson, version := s.version + 1
      updatedAt, completedAt, transferredAt }
  have hchange : rowChange now s = .ok change := by
    simp [rowChange, hupdated, hcompleted, htransferred, bind, Except.bind, pure, Except.pure,
      change]
  cases hfind : t.sessions.find? s.id with
  | none =>
    refine .inl ⟨.noSessionRow s.id, by simp [saveSession, hchange, hfind], rfl, fun hkey => ?_⟩
    have hhas := Entries.has_iff_mem_keys.2 hkey
    rw [Entries.has, hfind] at hhas
    cases hhas
  | some row =>
    by_cases hversion : row.version = s.version
    · have hid : row.id = s.id := htidy.id_of_find? hfind
      have hid : (change row).id = s.id := hid
      refine .inr ⟨{ s with version := s.version + 1, updatedAt := now },
        { t with sessions := t.sessions.put (change row).id (change row) }, ?_,
        .saved row (change row) (by rw [hid]; exact hfind) rfl, fun e he => ?_⟩
      · rw [hid]
        simp [saveSession, hchange, hfind, hversion]
      · cases e with
        | noSessionRow key =>
          exact he.2 (List.mem_map_of_mem (f := Prod.fst) (Entries.mem_of_find? hfind))
        | stale key =>
          obtain ⟨-, row', hrow', hne⟩ := he
          rw [hfind] at hrow'
          cases hrow'
          exact hne hversion
        | unstorableMoment =>
          rcases he with he | ⟨time, htime, he⟩ | ⟨time, htime, he⟩
          · exact hyes he
          · exact hyes' time htime he
          · exact hyes'' time htime he
        | _ => exact he
    · exact .inl ⟨.stale s.id, by simp [saveSession, hchange, hfind, hversion], rfl, row, hfind,
        hversion⟩

theorem record_settles (t : Relational) (now : Moment) (i : Interaction) :
    t.Settles now (.record i) (t.record i) := by
  rcases rowMoment_cases i.createdAt with ⟨herror, hno⟩ | ⟨createdAt, htime, hyes⟩
  · exact .inl ⟨.unstorableMoment, by simp [record, herror], hno⟩
  cases hsession : t.sessions.has i.sessionId with
  | false =>
    refine .inl ⟨.danglingRow, by simp [record, htime, hsession], ?_⟩
    rw [Grounds, ← Entries.has_iff_mem_keys, hsession]
    exact Bool.false_ne_true
  | true =>
    have hkey := Entries.has_iff_mem_keys.1 hsession
    refine .inr ⟨(), _, by simp [record, htime, hsession], .recorded { i with createdAt } hkey,
      fun e he => ?_⟩
    cases e with
    | danglingRow => exact he hkey
    | unstorableMoment => exact hyes he
    | _ => exact he

/-- **A request is refused on grounds that can be told, and then nothing is done.** -/
theorem answer_settles (htidy : t.sessions.Tidy SessionRow.id) (now : Moment) (id : String)
    (r : Request) : t.Settles now r (t.answer now id r) := by
  have hnone {r : Request} (h : ∀ e, ¬ t.Grounds now r e) (x : r.Answer) {t' : Relational}
      (hstep : t.Step t') : t.Settles now r (.ok x, t') := .inr ⟨x, t', rfl, hstep, h⟩
  cases r with
  | saveFlow f => exact t.saveFlow_settles now f
  | openSession o => exact t.openSession_settles now id o
  | saveSession s => exact saveSession_settles htidy now s
  | record i => exact t.record_settles now i
  | deleteFlow key =>
    rw [answer]
    split
    · exact hnone (fun e he => by cases e <;> exact he) _ (.deleted key)
    · exact hnone (fun e he => by cases e <;> exact he) _ .same
  | demoteOthers key => exact hnone (fun e he => by cases e <;> exact he) _ (.demoted key)
  | flows | activeFlows | flow | session | activeSession | sessionsOf | interactions =>
    exact hnone (fun e he => by cases e <;> exact he) _ .same

/-! ## Rows that are there -/

/-- Rows stand under their ids, each once, and what they name is there. -/
structure Intact (t : Relational) : Prop where
  flows : t.flows.Tidy Flow.id
  sessions : t.sessions.Tidy SessionRow.id
  flow : ∀ row ∈ t.sessions.values, row.flowId ∈ t.flows.keys
  session : ∀ i ∈ t.interactions, i.sessionId ∈ t.sessions.keys

namespace Intact

theorem empty : Intact {} where
  flows := ⟨.nil, by simp⟩
  sessions := ⟨.nil, by simp⟩
  flow row hrow := nomatch hrow
  session i hi := nomatch hi

/-- Nobody misses a flow that is deleted with its sessions and their interactions. -/
theorem deleteFlow (h : t.Intact) (id : String) : (t.deleteFlow id).Intact where
  flows := h.flows.filter _
  sessions := h.sessions.filter _
  flow row hrow := by
    obtain ⟨e, he, rfl⟩ := List.mem_map.1 hrow
    obtain ⟨hmem, hne⟩ := List.mem_filter.1 he
    obtain ⟨f, hf, hflow⟩ := List.mem_map.1 (h.flow e.2 (List.mem_map_of_mem hmem))
    refine List.mem_map.2 ⟨f, List.mem_filter.2 ⟨hf, ?_⟩, hflow⟩
    rw [hflow]
    exact hne
  session i hi := by
    obtain ⟨hmem, hkept⟩ := List.mem_filter.1 hi
    obtain ⟨e, he, hid⟩ := List.mem_map.1 (h.session i hmem)
    refine List.mem_map.2 ⟨e, List.mem_filter.2 ⟨he, ?_⟩, hid⟩
    -- were it of the flow, what was said in it would be gone
    cases hflow : e.2.flowId == id with
    | false => rw [bne, hflow, Bool.not_false]
    | true =>
      have hgone : i.sessionId ∈ (t.sessions.filter fun e => e.2.flowId == id).map Prod.fst :=
        List.mem_map.2 ⟨e, List.mem_filter.2 ⟨he, hflow⟩, hid⟩
      rw [List.contains_iff_mem.2 hgone] at hkept
      cases hkept

/-- **No step leaves a row that names one that is not there.** -/
theorem step (h : t.Intact) (hstep : t.Step t') : t'.Intact := by
  cases hstep with
  | same => exact h
  | flow f =>
    refine ⟨h.flows.put f, h.sessions, fun row hrow => ?_, h.session⟩
    exact Entries.mem_keys_put.2 (.inr (h.flow row hrow))
  | demoted id =>
    have hkeys : (t.demoteOthers id).flows.keys = t.flows.keys :=
      Store.keys_demotedBut id t.flows
    refine ⟨⟨by rw [hkeys]; exact h.flows.keys, fun e' he' => ?_⟩, h.sessions, fun row hrow => ?_,
      h.session⟩
    · obtain ⟨e, he, rfl⟩ := List.mem_map.1 he'
      simp only
      split
      · exact h.flows.ids e he
      · exact h.flows.ids e he
    · rw [hkeys]
      exact h.flow row hrow
  | deleted id => exact h.deleteFlow id
  | begun row hflow =>
    refine ⟨h.flows, h.sessions.put row, fun row' hrow' => ?_, fun i hi => ?_⟩
    · rcases Entries.mem_values_put hrow' with hrow' | rfl
      · exact h.flow row' hrow'
      · exact hflow
    · exact Entries.mem_keys_put.2 (.inr (h.session i hi))
  | saved old new found hflow =>
    refine ⟨h.flows, h.sessions.put new, fun row hrow => ?_, fun i hi => ?_⟩
    · rcases Entries.mem_values_put hrow with hrow | rfl
      · exact h.flow row hrow
      · rw [hflow]
        exact h.flow old (Entries.mem_values_of_find? found)
    · exact Entries.mem_keys_put.2 (.inr (h.session i hi))
  | recorded i hsession =>
    refine ⟨h.flows, h.sessions, h.flow, fun j hj => ?_⟩
    rcases List.mem_append.1 hj with hj | hj
    · exact h.session j hj
    · rw [List.mem_singleton.1 hj]
      exact hsession

theorem answer (h : t.Intact) (now : Moment) (id : String) (r : Request) :
    (t.answer now id r).2.Intact := by
  rcases answer_settles h.sessions now id r with ⟨e, he, -⟩ | ⟨x, t', hx, hstep, -⟩
  · rw [he]
    exact h
  · rw [hx]
    exact h.step hstep

end Intact

/-! ## Whatever is asked -/

/-- What becomes of the tables in the end. -/
def afterAll (t : Relational) (as : List Asked) : Relational :=
  as.foldl (fun t a => (t.answer a.now a.freshId a.request).2) t

theorem Intact.afterAll (h : t.Intact) (as : List Asked) : (t.afterAll as).Intact := by
  unfold Relational.afterAll
  induction as generalizing t with
  | nil => exact h
  | cons a rest ih => exact ih (h.answer a.now a.freshId a.request)

/-- Whether an interaction was recorded in a session of the flow. -/
def isSaidIn (t : Relational) (id : String) (i : Interaction) : Bool :=
  t.sessions.values.any fun row => row.id == i.sessionId && row.flowId == id

/-- The tables without a flow, its sessions and what was said in them. -/
def without (t : Relational) (id : String) : Relational where
  flows := t.flows.filter fun e => e.2.id != id
  sessions := t.sessions.filter fun e => e.2.flowId != id
  interactions := t.interactions.filter fun i => !t.isSaidIn id i

theorem Intact.deleteFlow_eq (h : t.Intact) (id : String) : t.deleteFlow id = t.without id := by
  have hflows : t.flows.remove id = t.flows.filter fun e => e.2.id != id :=
    List.filter_congr fun e he => by rw [h.flows.ids e he]
  have hgone (i : Interaction) :
      ((t.sessions.filter fun e => e.2.flowId == id).map Prod.fst).contains i.sessionId =
        t.isSaidIn id i := by
    rw [Bool.eq_iff_iff]
    simp only [isSaidIn, List.contains_iff_mem, List.mem_map, List.mem_filter, beq_iff_eq,
      List.any_eq_true, Bool.and_eq_true, Entries.values]
    constructor
    · rintro ⟨e, ⟨he, hflow⟩, hid⟩
      exact ⟨e.2, ⟨e, he, rfl⟩, (h.sessions.ids e he).trans hid, hflow⟩
    · rintro ⟨_, ⟨e, he, rfl⟩, hid, hflow⟩
      exact ⟨e, ⟨he, hflow⟩, (h.sessions.ids e he).symm.trans hid⟩
  simp only [Relational.deleteFlow, without, hflows, hgone]

/-- Where the flow is not there, nothing is of it. -/
theorem Intact.without_eq (h : t.Intact) {id : String} (hnone : t.flows.has id = false) :
    t.without id = t := by
  have hkey : id ∉ t.flows.keys := by
    rw [← Entries.has_iff_mem_keys, hnone]
    exact Bool.false_ne_true
  have hsessions : ∀ row ∈ t.sessions.values, row.flowId ≠ id :=
    fun row hrow heq => hkey (heq ▸ h.flow row hrow)
  rw [← h.deleteFlow_eq, Relational.deleteFlow]
  have hgone : t.sessions.filter (fun e => e.2.flowId == id) = [] :=
    List.filter_eq_nil_iff.2 fun e he => by simpa using hsessions e.2 (List.mem_map_of_mem he)
  have hkept : t.sessions.filter (fun e => e.2.flowId != id) = t.sessions :=
    List.filter_eq_self.2 fun e he => by simpa using hsessions e.2 (List.mem_map_of_mem he)
  simp only [hgone, hkept, Entries.remove_of_has_false hnone, List.map_nil, List.contains_nil,
    Bool.not_false]
  rw [List.filter_eq_self.2 fun _ _ => rfl]

/-- **Rows refer to rows that are there**, whatever empty tables were asked since. The flow of each
session is among the flows, and the session of each interaction among the sessions. To delete a flow
is answered by whether it was there, and leaves the tables without it, its sessions and what was said
in them, and otherwise as they were. A request that is refused leaves the tables as they were, and it
is refused if and only if there are grounds: it names a flow or a session that is not there, a moment
that no row can have, or a version that is not the one on record. -/
theorem rows_refer (as : List Asked) :
    let t := ({} : Relational).afterAll as
    (∀ row ∈ t.sessions.values, ∃ f ∈ t.flows.values, f.id = row.flowId) ∧
    (∀ i ∈ t.interactions, ∃ row ∈ t.sessions.values, row.id = i.sessionId) ∧
    (∀ now freshId id, t.answer now freshId (.deleteFlow id) =
      (.ok (t.flows.values.any fun f => f.id == id), t.without id)) ∧
    ∀ now freshId r,
      (∀ e, (t.answer now freshId r).1 = .error e →
        (t.answer now freshId r).2 = t ∧ t.Grounds now r e) ∧
      ∀ e, t.Grounds now r e → ∃ e', (t.answer now freshId r).1 = .error e' := by
  intro t
  have h : t.Intact := Intact.empty.afterAll as
  refine ⟨fun row hrow => h.flows.exists_of_mem_keys (h.flow row hrow),
    fun i hi => h.sessions.exists_of_mem_keys (h.session i hi), fun now freshId id => ?_,
    fun now freshId r => ?_⟩
  · have hany : (t.flows.values.any fun f => f.id == id) = t.flows.has id := by
      rw [Bool.eq_iff_iff, Entries.has_iff_mem_keys]
      simp only [List.any_eq_true, beq_iff_eq]
      constructor
      · rintro ⟨f, hf, rfl⟩
        obtain ⟨e, he, rfl⟩ := List.mem_map.1 hf
        rw [h.flows.ids e he]
        exact List.mem_map_of_mem he
      · exact fun hkey => h.flows.exists_of_mem_keys hkey
    rw [hany, answer]
    cases hhas : t.flows.has id with
    | true => rw [if_pos rfl, h.deleteFlow_eq]
    | false => rw [if_neg Bool.false_ne_true, h.without_eq hhas]
  · rcases answer_settles h.sessions now freshId r with
      ⟨e, he, hgrounds⟩ | ⟨x, t', hx, -, hnone⟩
    · rw [he]
      exact ⟨by rintro _ ⟨⟩; exact ⟨rfl, hgrounds⟩, fun _ _ => ⟨e, rfl⟩⟩
    · rw [hx]
      exact ⟨by rintro _ ⟨⟩, fun e he => absurd he (hnone e)⟩

/-- A flow that does nothing but wait. -/
def bystander (id : String) : Flow where
  id := id
  name := id
  description := none
  isActive := true
  isPrimary := true
  trigger := .default
  keywords := []
  entryNode := "ask"
  definition := []
  schedule := none
  offlineMessage := none
  transferQueue := none
  createdAt := .utc 0
  updatedAt := .utc 0

/-- Two flows, each with a session in which something was said. A session of a third flow is refused,
as there is none, and so is an interaction on no known clock. -/
def crowd : List Asked :=
  let opening (flowId : String) : Opening :=
    { flowId, ticketId := "7", contactId := none, currentNode := some "ask", state := {} }
  let said (sessionId : String) (createdAt : Moment) : Interaction :=
    { sessionId, sender := .contact, message := "Hi", nodeId := none, metadata := [], createdAt }
  [⟨.utc 0, "", .saveFlow (bystander "flow-1")⟩, ⟨.utc 0, "", .saveFlow (bystander "flow-2")⟩,
    ⟨.utc 1, "", .demoteOthers "flow-2"⟩, ⟨.utc 2, "session-1", .openSession (opening "flow-1")⟩,
    ⟨.utc 2, "session-2", .openSession (opening "flow-2")⟩,
    ⟨.utc 2, "session-3", .openSession (opening "flow-3")⟩,
    ⟨.utc 3, "", .record (said "session-1" (.utc 3))⟩,
    ⟨.utc 3, "", .record (said "session-2" (.utc 3))⟩,
    ⟨.utc 3, "", .record (said "session-2" ⟨3, none⟩)⟩]

/-- When one of the flows is deleted the rows of the other one stay, and nothing can be put on record
in a session that was refused. -/
theorem crowd_refers :
    let t := ({} : Relational).afterAll crowd
    let t' := t.without "flow-1"
    let late : Interaction :=
      { sessionId := "session-3", sender := .bot, message := "Hello", nodeId := none
        metadata := [], createdAt := .utc 4 }
    (t.sessions.keys, t.interactions.map Interaction.sessionId) =
        (["session-1", "session-2"], ["session-1", "session-2"]) ∧
      t.answer (.utc 4) "" (.deleteFlow "flow-1") = (.ok true, t') ∧
      (t'.flows.keys, t'.sessions.keys, t'.interactions.map Interaction.sessionId) =
        (["flow-2"], ["session-2"], ["session-2"]) ∧
      t.Grounds (.utc 4) (.record late) .danglingRow ∧
      ∃ e, (t.answer (.utc 4) "" (.record late)).1 = .error e := by
  intro t t' late
  obtain ⟨-, -, hdelete, hrefused⟩ := rows_refer crowd
  have hgrounds : t.Grounds (.utc 4) (.record late) .danglingRow := by
    show late.sessionId ∉ t.sessions.keys
    decide +kernel
  refine ⟨by decide +kernel, ?_, by decide +kernel, hgrounds,
    (hrefused (.utc 4) "" (.record late)).2 _ hgrounds⟩
  rw [hdelete]
  rw [show (t.flows.values.any fun f => f.id == "flow-1") = true by decide +kernel]

end Relational

end Store

end FrontDesk
