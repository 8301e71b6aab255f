/-
Stores as catalogs.

Whatever its make, a store keeps its flows under their ids. Three requests edit the catalog: a flow
is put under its id, one is removed, and all but one are made non-primary. Every other request
leaves it as it is (`World.catalog_answer`), and so does whatever goes wrong.
-/
import FrontDesk.Proofs.Catalog.Choice
import FrontDesk.Proofs.Service.Answers

namespace FrontDesk

open Calendar Service Store

namespace Entries

variable {α : Type}

/-- The keys, in order. -/
def keys (es : Entries α) : List String := es.map Prod.fst

theorem mem_keys_put {es : Entries α} {key k : String} {value : α} :
    k ∈ (es.put key value).keys ↔ k = key ∨ k ∈ es.keys := by
  induction es with
  | nil => simp [put, keys]
  | cons e rest ih =>
    obtain ⟨k', v'⟩ := e
    simp only [keys] at ih
    by_cases hk : k' = key
    · subst hk
      simp [put, keys]
    · simp only [put, beq_iff_eq, hk, if_false, keys, List.map_cons, List.mem_cons, ih]
      exact or_left_comm

/-- Where there is something under a key already, no key is new or moves. -/
theorem keys_put {es : Entries α} {key : String} {old : α} (value : α)
    (h : es.find? key = some old) : (es.put key value).keys = es.keys := by
  induction es with
  | nil => simp at h
  | cons e rest ih =>
    obtain ⟨k, v⟩ := e
    rw [find?_cons] at h
    by_cases hk : k = key
    · subst hk
      simp [put, keys]
    · rw [if_neg (by simpa using Ne.symm hk)] at h
      have hrest := ih h
      simp only [keys] at hrest
      simp [put, hk, keys, hrest]

theorem nodup_keys_put {es : Entries α} (h : es.keys.Nodup) (key : String) (value : α) :
    (es.put key value).keys.Nodup := by
  induction es with
  | nil => simp [put, keys]
  | cons e rest ih =>
    obtain ⟨k', v'⟩ := e
    obtain ⟨hnot, hrest⟩ := List.nodup_cons.1 h
    by_cases hk : k' = key
    · subst hk
      simpa [put, keys] using h
    · have hput := ih hrest
      have hnot' : k' ∉ (put key value rest).keys := by
        rw [mem_keys_put, not_or]
        exact ⟨hk, hnot⟩
      simpa [put, keys, hk] using List.nodup_cons.2 ⟨hnot', hput⟩

theorem mem_put_self (es : Entries α) (key : String) (value : α) :
    (key, value) ∈ es.put key value := by
  induction es with
  | nil => simp [put]
  | cons e rest ih =>
    rw [put]
    split
    next hk => simp [eq_of_beq hk]
    next => exact List.mem_cons_of_mem _ ih

theorem nodup_keys_filter {es : Entries α} (h : es.keys.Nodup) (q : String × α → Bool) :
    (keys (es.filter q)).Nodup := by
  have hsub : (es.filter q).Sublist es := List.filter_sublist
  exact (hsub.map Prod.fst).nodup h

theorem find?_isSome_of_mem_keys {es : Entries α} {key : String} (h : key ∈ es.keys) :
    (es.find? key).isSome = true := by
  induction es with
  | nil => simp [keys] at h
  | cons e rest ih =>
    rw [find?_cons]
    split
    · rfl
    next hk =>
      rcases List.mem_cons.1 h with rfl | h
      · simp at hk
      · exact ih h

theorem remove_of_has_false {es : Entries α} {key : String} (h : es.has key = false) :
    es.remove key = es := by
  refine List.filter_eq_self.2 fun e he => ?_
  have hne : e.1 ≠ key := by
    rintro rfl
    have hfound := find?_isSome_of_mem_keys (List.mem_map.2 ⟨e, he, rfl⟩)
    rw [has] at h
    rw [h] at hfound
    cases hfound
  simpa using hne

theorem find?_of_mem_nodup {es : Entries α} (hkeys : es.keys.Nodup) {key : String} {v : α}
    (h : (key, v) ∈ es) :
    es.find? key = some v := by
  induction es with
  | nil => cases h
  | cons e rest ih =>
    obtain ⟨hnot, hrest⟩ := List.nodup_cons.1 hkeys
    rw [find?_cons]
    rcases List.mem_cons.1 h with rfl | h
    · simp
    · have hne : key ≠ e.1 := by
        rintro rfl
        exact hnot (List.mem_map.2 ⟨_, h, rfl⟩)
      rw [if_neg (by simpa using hne)]
      exact ih hrest h

theorem mem_of_find? {es : Entries α} {key : String} {v : α} (h : es.find? key = some v) :
    (key, v) ∈ es := by
  induction es with
  | nil => simp at h
  | cons e rest ih =>
    rw [find?_cons] at h
    split at h
    next hk =>
      cases h
      rw [eq_of_beq hk]
      exact List.mem_cons_self
    next => exact List.mem_cons_of_mem _ (ih h)

theorem find?_of_filter {es : Entries α} (hkeys : es.keys.Nodup) {q : String × α → Bool}
    {key : String} {v : α} (h : find? (es.filter q) key = some v) : es.find? key = some v :=
  find?_of_mem_nodup hkeys (List.mem_filter.1 (mem_of_find? h)).1

/-- Where each key stands once, one value at most has a property just when all that have it stand
under one key. -/
theorem length_filter_le_one {es : Entries α} (h : es.keys.Nodup) (p : α → Bool) :
    (es.values.filter p).length ≤ 1 ↔
      ∀ e ∈ es, ∀ e' ∈ es, p e.2 = true → p e'.2 = true → e.1 = e'.1 := by
  have hlength : (es.values.filter p).length = (es.filter fun e => p e.2).length := by
    simp only [values, List.filter_map, List.length_map]
    rfl
  have hnodup : (keys (es.filter fun e => p e.2)).Nodup := nodup_keys_filter h _
  have hmem : ∀ e, e ∈ es.filter (fun e => p e.2) ↔ e ∈ es ∧ p e.2 = true := by simp
  rw [hlength]
  generalize es.filter (fun e => p e.2) = found at hnodup hmem
  constructor
  · intro hle e he e' he' hp hp'
    have hfound := (hmem e).2 ⟨he, hp⟩
    have hfound' := (hmem e').2 ⟨he', hp'⟩
    rcases found with _ | ⟨d, _ | ⟨d', rest⟩⟩
    · cases hfound
    · rw [List.mem_singleton.1 hfound, List.mem_singleton.1 hfound']
    · simp at hle
  · intro hsame
    rcases found with _ | ⟨d, _ | ⟨d', rest⟩⟩
    · simp
    · simp
    · obtain ⟨hd, hpd⟩ := (hmem d).1 (by simp)
      obtain ⟨hd', hpd'⟩ := (hmem d').1 (by simp)
      have hkey := hsame d hd d' hd' hpd hpd'
      simp [keys, hkey] at hnodup

end Entries

/-! ## Requests -/

/-- Whether a request edits the catalog. -/
def Store.Request.edits : Store.Request → Bool
  | .saveFlow _ | .deleteFlow _ | .demoteOthers _ => true
  | _ => false

/-- Whether a request edits the catalog. -/
def Service.Request.edits : Service.Request → Bool
  | .store r => r.edits
  | _ => false

namespace Store

/-- The flows under their ids. -/
def catalog : Store → Entries Flow
  | memory m => m.flows
  | relational t => t.flows

variable {st : Store} {now : Moment} {id : String}

theorem catalog_answer {r : Store.Request} (h : r.edits = false) :
    (st.answer now id r).2.catalog = st.catalog := by
  cases st with
  | memory m =>
    cases r with
    | saveFlow | deleteFlow | demoteOthers => cases h
    | saveSession s =>
      simp only [answer, Memory.answer, Memory.saveSession]
      split
      · rfl
      · split <;> rfl
    | _ => rfl
  | relational t =>
    cases r with
    | saveFlow | deleteFlow | demoteOthers => cases h
    | openSession o =>
      simp only [answer, Relational.answer, Relational.openSession]
      split
      · rfl
      · split <;> rfl
    | saveSession s =>
      simp only [answer, Relational.answer, Relational.saveSession]
      split
      · rfl
      split
      · rfl
      split <;> rfl
    | record i =>
      simp only [answer, Relational.answer, Relational.record]
      split
      · rfl
      · split <;> rfl
    | _ => rfl

theorem mem_of_answer_activeFlows {fs : List Flow} {f : Flow}
    (h : (st.answer now id .activeFlows).1 = .ok fs) (hf : f ∈ fs) : f ∈ st.catalog.values := by
  cases st with
  | memory m =>
    simp only [answer, Memory.answer, Memory.ordered] at h
    split at h
    · cases h
      exact (List.mem_filter.1 (Flow.mem_considered.1 hf).1).1
    · cases h
  | relational t =>
    cases h
    exact (Flow.mem_considered.1 hf).1

theorem find?_of_answer_flow {key : String} {f? : Option Flow}
    (h : (st.answer now id (.flow key)).1 = .ok f?) : st.catalog.find? key = f? := by
  cases st <;> exact Except.ok.inj h

/-- A flow is saved under its id, but for its times as it was given, or not at all. -/
theorem answer_saveFlow (st : Store) (now : Moment) (id : String) (f : Flow) :
    (∃ e, st.answer now id (.saveFlow f) = (.error e, st)) ∨
      ∃ createdAt updatedAt st',
        st.answer now id (.saveFlow f) = (.ok { f with createdAt, updatedAt }, st') ∧
        st'.catalog = st.catalog.put f.id { f with createdAt, updatedAt } := by
  cases st with
  | memory m => exact .inr ⟨f.createdAt, f.updatedAt, _, rfl, rfl⟩
  | relational t =>
    cases hrow : t.flowRow now f with
    | error e => exact .inl ⟨e, by simp [answer, Relational.answer, Relational.saveFlow, hrow]⟩
    | ok row =>
      have htimes : ∃ createdAt updatedAt, row = { f with createdAt, updatedAt } := by
        simp only [Relational.flowRow, bind, Except.bind, pure, Except.pure] at hrow
        split at hrow
        · split at hrow
          · cases hrow
          · cases hrow; exact ⟨_, _, rfl⟩
        · split at hrow
          · cases hrow
          split at hrow
          · cases hrow
          · cases hrow; exact ⟨_, _, rfl⟩
      obtain ⟨createdAt, updatedAt, rfl⟩ := htimes
      exact .inr ⟨createdAt, updatedAt,
        .relational { t with flows := t.flows.put f.id { f with createdAt, updatedAt } },
        by simp [answer, Relational.answer, Relational.saveFlow, hrow], rfl⟩

theorem answer_deleteFlow (st : Store) (now : Moment) (id key : String) :
    ∃ st', st.answer now id (.deleteFlow key) = (.ok (st.catalog.has key), st') ∧
      st'.catalog = st.catalog.remove key := by
  cases st with
  | memory m => exact ⟨_, rfl, rfl⟩
  | relational t =>
    cases hhas : t.flows.has key with
    | true => exact ⟨.relational (t.deleteFlow key),
        by simp [answer, Relational.answer, catalog, hhas], rfl⟩
    | false => exact ⟨.relational t, by simp [answer, Relational.answer, catalog, hhas],
        (Entries.remove_of_has_false hhas).symm⟩

theorem catalog_deleteFlow (st : Store) (now : Moment) (id key : String) :
    (st.answer now id (.deleteFlow key)).2.catalog = st.catalog ∨
      (st.answer now id (.deleteFlow key)).2.catalog = st.catalog.remove key := by
  cases st with
  | memory m => exact .inr rfl
  | relational t =>
    simp only [answer, Relational.answer]
    split
    · exact .inr rfl
    · exact .inl rfl

/-- The catalog in which no flow but the one under the key is primary. -/
def demotedBut (key : String) (es : Entries Flow) : Entries Flow :=
  es.map fun (k, f) => (k, if k != key && f.isPrimary then f.demoted else f)

theorem keys_demotedBut (key : String) (es : Entries Flow) :
    (demotedBut key es).keys = es.keys := by
  simp [demotedBut, Entries.keys, Function.comp_def]

theorem find?_demotedBut (key id : String) (es : Entries Flow) :
    (demotedBut key es).find? id =
      (es.find? id).map fun f => if id != key && f.isPrimary then f.demoted else f := by
  induction es with
  | nil => rfl
  | cons e rest ih =>
    obtain ⟨k, f⟩ := e
    simp only [demotedBut, List.map_cons, Entries.find?_cons] at ih ⊢
    by_cases hk : id = k
    · subst hk
      simp
    · simpa [hk] using ih

theorem catalog_demoteOthers (key : String) :
    (st.answer now id (.demoteOthers key)).2.catalog = demotedBut key st.catalog := by
  cases st <;> rfl

end Store

namespace World

variable {w : World}

/-- The flows under their ids. -/
def catalog (w : World) : Entries Flow := w.store.catalog

theorem catalog_askStore {r : Store.Request} (h : r.edits = false) :
    (w.askStore r).2.catalog = w.catalog :=
  Store.catalog_answer h

theorem catalog_interfere (w : World) (r : Helpdesk.Request) :
    (w.interfere r).catalog = w.catalog := by
  obtain ⟨store, hstore, hsame | ⟨_, s, id, -, hsaved⟩⟩ := w.interfere_eq r <;> rw [hstore]
  · exact congrArg Store.catalog hsame
  · rw [catalog, hsaved]
    exact Store.catalog_answer rfl

theorem answer_trouble (w : World) (r : Service.Request) :
    (w.answer r).2.trouble = w.trouble ∧ (w.answer r).2.clock = w.clock := by
  rw [answer_eq]
  split
  · exact ⟨rfl, rfl⟩
  · cases r with
    | desk r =>
      obtain ⟨store, hstore, -⟩ := interfere_eq { w with asked := w.asked + 1 } r
      simp [perform, askDesk, hstore]
    | store r | log level text | newFlowId => exact ⟨rfl, rfl⟩

/-- **What edits nothing leaves the catalog as it is.** -/
theorem catalog_answer {r : Service.Request} (h : r.edits = false) :
    (w.answer r).2.catalog = w.catalog := by
  rw [answer_eq]
  split
  · rfl
  · cases r with
    | store r => exact catalog_askStore (w := { w with asked := w.asked + 1 }) h
    | desk r => exact catalog_interfere { w with asked := w.asked + 1 } r
    | log level text | newFlowId => rfl

/-- A request to the store fails and leaves the store as it is, or is answered by the store. -/
theorem answer_store (w : World) (r : Store.Request) :
    ((w.answer (.store r)).2.store = w.store ∧ (w.answer (.store r)).1 = .error .outage ∧
        w.trouble.outage w.asked (.store r) = true) ∨
      ∃ id, (w.answer (.store r)).1 = (w.store.answer w.clock id r).1.mapError .store ∧
        (w.answer (.store r)).2.store = (w.store.answer w.clock id r).2 := by
  rw [answer_eq]
  split
  next h => exact .inl ⟨rfl, rfl, h⟩
  next => exact .inr ⟨_, rfl, rfl⟩

end World

end FrontDesk
