/-
Stores with sound sessions.

What a store has on record is what can be read from it: the sessions in memory, or those of the
rows. A store that is asked to begin and to save sound sessions only has no
others, and gives out no others (`Store.answer_sound`).
-/
import FrontDesk.Proofs.Conversation.Record
import FrontDesk.Proofs.Service.Terms
import FrontDesk.Proofs.Store.Table

namespace FrontDesk

open Calendar Store

/-- All sessions on record are sound, whenever they are read. -/
def Store.Sound (st : Store) : Prop := ∀ now, ∀ s ∈ st.sessions now, s.Sound

/-- The terms of a store with sound sessions: sessions that are begun or saved are sound, and so are
those it gives out. The session that goes on under a ticket is not completed. -/
def soundTerms : Terms where
  may
    | .store (.openSession o) => ∀ id now, (Memory.begin o id now).Sound
    | .store (.saveSession s) => s.Sound
    | _ => True
  gives
    | .store (.openSession _), s => s.Sound ∧ s.completedAt = none
    | .store (.activeSession _), s? => ∀ s, s? = some s → s.Sound ∧ s.completedAt = none
    | .store (.saveSession _), s => s.Sound
    | _, _ => True

namespace Entries

variable {α : Type}

theorem mem_values_put {key : String} {value v : α} {es : Entries α}
    (h : v ∈ (es.put key value).values) : v ∈ es.values ∨ v = value := by
  obtain ⟨e, he, rfl⟩ := List.mem_map.1 h
  rcases mem_put he with he | rfl
  · exact .inl (List.mem_map.2 ⟨e, he, rfl⟩)
  · exact .inr rfl

end Entries

/-! ## The newest of some records -/

theorem foldlM_mem_cons {α ε : Type} {f : α → α → Except ε α}
    (hf : ∀ a b c, f a b = .ok c → c = a ∨ c = b) {l : List α} {a c : α}
    (h : l.foldlM f a = .ok c) : c ∈ a :: l := by
  induction l generalizing a with
  | nil => cases h; simp
  | cons b rest ih =>
    simp only [List.foldlM_cons, bind, Except.bind] at h
    split at h
    · cases h
    next d hd =>
    rcases List.mem_cons.1 (ih h) with rfl | hc
    · rcases hf a b c hd with rfl | rfl <;> simp
    · simp [hc]

theorem foldl_mem_cons {α : Type} {f : α → α → α} (hf : ∀ a b, f a b = a ∨ f a b = b)
    (l : List α) (a : α) : l.foldl f a ∈ a :: l := by
  induction l generalizing a with
  | nil => simp
  | cons b rest ih =>
    rw [List.foldl_cons]
    rcases hf a b with h | h
    · rw [h]
      rcases List.mem_cons.1 (ih a) with hc | hc
      · exact List.mem_cons.2 (.inl hc)
      · simp [hc]
    · rw [h]
      exact List.mem_cons_of_mem a (ih b)

/-! ## In memory -/

namespace Store.Memory

theorem newest_mem {ss : List Session} {s : Session} (h : newest ss = .ok (some s)) : s ∈ ss := by
  cases ss with
  | nil => simp [newest] at h
  | cons a rest =>
    simp only [newest, Functor.map, Except.map] at h
    split at h
    · cases h
    next b hb =>
    cases h
    refine foldlM_mem_cons (fun a b c h => ?_) hb
    unfold newer at h
    split at h
    · cases h
      split <;> simp
    · cases h

/-- A session that is begun with nothing in its state and rests somewhere is sound. -/
theorem begin_sound {o : Opening} {entry : String} (hnode : o.currentNode = some entry)
    (hne : entry ≠ "") (hstate : o.state = {}) (id : String) (now : Moment) :
    (begin o id now).Sound := by
  refine ⟨?_, ?_, ?_, ⟨entry, hnode, hne⟩, ?_, ?_⟩ <;> simp [begin, hstate]

variable {m : Memory} {now : Moment} {id : String}

theorem answer_sound (hm : ∀ s ∈ m.sessions.values, s.Sound) (r : Request)
    (hmay : soundTerms.may (.store r)) :
    (∀ s ∈ (m.answer now id r).2.sessions.values, s.Sound) ∧
      ∀ a, (m.answer now id r).1 = .ok a → soundTerms.gives (.store r) a := by
  cases r with
  | flows | activeFlows | flow id | saveFlow f | deleteFlow id | demoteOthers id | session id
  | sessionsOf id | record i | interactions id => exact ⟨hm, fun _ _ => trivial⟩
  | openSession o =>
    refine ⟨fun s hs => ?_, ?_⟩
    · rcases Entries.mem_values_put hs with hs | rfl
      · exact hm s hs
      · exact hmay id now
    · rintro a ⟨⟩
      exact ⟨hmay id now, rfl⟩
  | activeSession ticketId =>
    refine ⟨hm, fun a ha s hs => ?_⟩
    subst hs
    have hmem := newest_mem ha
    simp only [List.mem_filter, Session.isActiveOn, Session.isActive, Bool.and_eq_true,
      Option.isNone_iff_eq_none] at hmem
    exact ⟨hm s hmem.1, hmem.2.2⟩
  | saveSession s =>
    have hsaved : (saved s now).Sound := Session.Sound.congr hmay rfl rfl rfl
    simp only [answer, saveSession]
    split
    · exact ⟨hm, by rintro _ ⟨⟩⟩
    · split
      · exact ⟨hm, by rintro _ ⟨⟩⟩
      · refine ⟨fun u hu => ?_, ?_⟩
        · rcases Entries.mem_values_put hu with hu | rfl
          · exact hm u hu
          · exact hsaved
        · rintro _ ⟨⟩
          exact hsaved

end Store.Memory

/-! ## In rows -/

/-- Whenever the row is read, its session is sound. -/
def Store.SessionRow.Sound (r : SessionRow) : Prop := ∀ now : Moment, (r.session now).Sound

theorem Store.rowMoment?_isSome {m m' : Option Moment} (h : rowMoment? m = .ok m') :
    m'.isSome = m.isSome := by
  cases m with
  | none => cases h; rfl
  | some m =>
    simp only [rowMoment?, Functor.map, Except.map] at h
    split at h
    · cases h
    · cases h; rfl

namespace Store.Relational

theorem newest_mem {rows : List SessionRow} {r : SessionRow} (h : newest rows = some r) :
    r ∈ rows := by
  cases rows with
  | nil => simp [newest] at h
  | cons a rest =>
    cases h
    refine foldl_mem_cons (fun a b => ?_) rest a
    split <;> simp

variable {t : Relational} {now : Moment} {id : String}

theorem openSession_sound (ht : ∀ row ∈ t.sessions.values, row.Sound) {o : Opening}
    (hmay : ∀ id now, (Memory.begin o id now).Sound) :
    (∀ row ∈ (t.openSession now id o).2.sessions.values, row.Sound) ∧
      ∀ s, (t.openSession now id o).1 = .ok s → s.Sound ∧ s.completedAt = none := by
  unfold openSession
  split
  · exact ⟨ht, by rintro _ ⟨⟩⟩
  next time htime =>
  split
  · simp only
    have hrow : SessionRow.Sound
        { id, flowId := o.flowId, ticketId := o.ticketId, contactId := o.contactId
          currentNode := o.currentNode, state := o.state.toJson, version := 0, createdAt := time
          updatedAt := time, completedAt := none, transferredAt := none } := by
      intro at'
      have hread := State.ofJson_toJson (hmay id now).storable at'.isoText
      exact Session.Sound.congr (hmay id now) hread rfl rfl
    refine ⟨fun row hr => ?_, ?_⟩
    · rcases Entries.mem_values_put hr with hr | rfl
      · exact ht row hr
      · exact hrow
    · rintro s ⟨⟩
      exact ⟨hrow now, rfl⟩
  · exact ⟨ht, by rintro _ ⟨⟩⟩

theorem saveSession_sound (ht : ∀ row ∈ t.sessions.values, row.Sound) {s : Session}
    (hs : s.Sound) :
    (∀ row ∈ (t.saveSession now s).2.sessions.values, row.Sound) ∧
      ∀ u, (t.saveSession now s).1 = .ok u → u.Sound := by
  unfold saveSession
  split
  · exact ⟨ht, by rintro _ ⟨⟩⟩
  next change hchange =>
  split
  · exact ⟨ht, by rintro _ ⟨⟩⟩
  next row hrow =>
  split
  · exact ⟨ht, by rintro _ ⟨⟩⟩
  · refine ⟨fun r hr => ?_, ?_⟩
    · rcases Entries.mem_values_put hr with hr | rfl
      · exact ht r hr
      · intro at'
        simp only [rowChange, bind, Except.bind] at hchange
        split at hchange
        · cases hchange
        split at hchange
        · cases hchange
        next completedAt hat =>
        split at hchange
        · cases hchange
        cases hchange
        have hread := State.ofJson_toJson hs.storable at'.isoText
        exact hs.congr hread rfl (rowMoment?_isSome hat)
    · rintro u ⟨⟩
      exact hs.congr rfl rfl rfl

theorem answer_sound (ht : ∀ row ∈ t.sessions.values, row.Sound) (r : Request)
    (hmay : soundTerms.may (.store r)) :
    (∀ row ∈ (t.answer now id r).2.sessions.values, row.Sound) ∧
      ∀ a, (t.answer now id r).1 = .ok a → soundTerms.gives (.store r) a := by
  cases r with
  | flows | activeFlows | flow id | demoteOthers id | session id | sessionsOf id
  | interactions id => exact ⟨ht, fun _ _ => trivial⟩
  | saveFlow f =>
    refine ⟨?_, fun _ _ => trivial⟩
    simp only [answer, saveFlow]
    split <;> exact ht
  | record i =>
    refine ⟨?_, fun _ _ => trivial⟩
    simp only [answer, record]
    split
    · exact ht
    · split <;> exact ht
  | deleteFlow id =>
    refine ⟨?_, fun _ _ => trivial⟩
    simp only [answer]
    split
    · intro row hr
      obtain ⟨e, he, rfl⟩ := List.mem_map.1 hr
      exact ht e.2 (List.mem_map.2 ⟨e, (List.mem_filter.1 he).1, rfl⟩)
    · exact ht
  | openSession o => exact openSession_sound ht hmay
  | activeSession ticketId =>
    refine ⟨ht, ?_⟩
    rintro _ ⟨⟩ s hs
    obtain ⟨row, hrow, rfl⟩ := Option.map_eq_some_iff.1 hs
    have hmem := newest_mem hrow
    simp only [List.mem_filter, SessionRow.isActiveOn, Bool.and_eq_true,
      Option.isNone_iff_eq_none] at hmem
    exact ⟨ht row hmem.1 now, hmem.2.2⟩
  | saveSession s => exact saveSession_sound ht hmay

end Store.Relational

/-- **A store keeps its sessions sound**, of whichever make it is. -/
theorem Store.answer_sound {st : Store} (hst : st.Sound) (now : Moment) (id : String)
    (r : Store.Request) (hmay : soundTerms.may (.store r)) :
    (st.answer now id r).2.Sound ∧
      ∀ a, (st.answer now id r).1 = .ok a → soundTerms.gives (.store r) a := by
  cases st with
  | memory m =>
    obtain ⟨hnext, hgives⟩ := Memory.answer_sound (hst now) r hmay
    exact ⟨fun _ => hnext, hgives⟩
  | relational t =>
    have ht : ∀ row ∈ t.sessions.values, row.Sound :=
      fun row hr at' => hst at' _ (by
        rw [sessions, table, Entries.values_mapValues]; exact List.mem_map_of_mem hr)
    obtain ⟨hrows, hgives⟩ := Relational.answer_sound ht r hmay
    refine ⟨fun at' s hs => ?_, hgives⟩
    rw [answer, sessions, table, Entries.values_mapValues] at hs
    obtain ⟨row, hr, rfl⟩ := List.mem_map.1 hs
    exact hrows row hr at'

end FrontDesk
