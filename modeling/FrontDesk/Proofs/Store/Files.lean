/-
Files of tickets.

The file of a ticket has its sessions in the order in which they were begun, each with its audit
trail. Ids are only the keys under which they stand. To begin, to save or to put on record for a
session of the ticket changes its file in one place (`Store.Shifts.file_put`, `file_new`,
`file_record`) and leaves the files of all other tickets alone.
-/
import FrontDesk.Proofs.Store.Saves

namespace FrontDesk

open Calendar Store

namespace Entries

variable {α β : Type} {es : Entries α} {key : String}

/-! ## Revising a value in its place -/

/-- The entries with the value under the key revised. -/
def revise (key : String) (f : α → α) (es : Entries α) : Entries α :=
  es.map fun e => if e.1 = key then (e.1, f e.2) else e

theorem revise_cons (key : String) (f : α → α) (e : String × α) (es : Entries α) :
    revise key f (e :: es) =
      (if e.1 = key then (e.1, f e.2) else e) :: es.revise key f := rfl

theorem keys_revise (key : String) (f : α → α) (es : Entries α) :
    (es.revise key f).keys = es.keys := by
  rw [revise, keys, keys, List.map_map]
  refine List.map_congr_left fun e _ => ?_
  simp only [Function.comp_apply]
  split <;> rfl

theorem revise_of_not_mem {f : α → α} (h : key ∉ es.keys) : es.revise key f = es := by
  rw [revise]
  refine (List.map_congr_left fun e he => ?_).trans (List.map_id es)
  have hne : e.1 ≠ key := fun heq => h (heq ▸ List.mem_map_of_mem he)
  simp [hne]

theorem put_eq_revise (hkeys : es.keys.Nodup) {old : α} (hfind : es.find? key = some old)
    (value : α) : es.put key value = es.revise key fun _ => value := by
  induction es with
  | nil => simp at hfind
  | cons e rest ih =>
    obtain ⟨k, v⟩ := e
    obtain ⟨hnot, hrest⟩ := List.nodup_cons.1 hkeys
    rw [find?_cons] at hfind
    rw [put, revise_cons]
    by_cases hk : k = key
    · subst hk
      rw [revise_of_not_mem hnot]
      simp
    · rw [if_neg (by simpa using Ne.symm hk)] at hfind
      rw [ih hrest hfind]
      simp [hk]

theorem filter_revise {p : α → Bool} {f : α → α}
    (hp : ∀ v, (key, v) ∈ es → p (f v) = p v) :
    List.filter (fun e => p e.2) (es.revise key f) =
      revise key f (es.filter fun e => p e.2) := by
  induction es with
  | nil => rfl
  | cons e rest ih =>
    have hrest := ih fun v hv => hp v (List.mem_cons_of_mem e hv)
    have he : p (if e.1 = key then (e.1, f e.2) else e).2 = p e.2 := by
      split
      next hk => exact hp e.2 (by rw [← hk]; simp)
      next => rfl
    rw [revise_cons, List.filter_cons, List.filter_cons, he, hrest]
    split <;> rfl

theorem values_revise (hkeys : es.keys.Nodup) {n : Nat} (hn : es.keys[n]? = some key)
    (f : α → α) : (es.revise key f).values = es.values.modify n f := by
  induction es generalizing n with
  | nil => simp [keys] at hn
  | cons e rest ih =>
    obtain ⟨hnot, hrest⟩ := List.nodup_cons.1 hkeys
    rw [revise_cons]
    cases n with
    | zero =>
      have hk : e.1 = key := by simpa [keys] using hn
      rw [revise_of_not_mem (hk ▸ hnot)]
      simp [values, hk]
    | succ n =>
      have hn' : (keys rest)[n]? = some key := by simpa [keys] using hn
      have hk : e.1 ≠ key := fun heq => hnot (heq ▸ List.mem_of_getElem? hn')
      have hvalues := ih hrest hn'
      simp only [values] at hvalues
      simp [values, hk, hvalues]

theorem getElem?_of_keys {n : Nat} (hn : es.keys[n]? = some key) :
    ∃ v, es[n]? = some (key, v) ∧ es.values[n]? = some v := by
  rw [keys, List.getElem?_map] at hn
  obtain ⟨e, he, rfl⟩ := Option.map_eq_some_iff.1 hn
  exact ⟨e.2, he, by simp [values, he]⟩

end Entries

/-! ## Files -/

/-- The session without its id. -/
def Session.nameless (s : Session) : Session := { s with id := "" }

/-- The interaction without the session it belongs to. -/
def Interaction.nameless (i : Interaction) : Interaction := { i with sessionId := "" }

/-- A session and its audit trail, without ids. -/
structure Folder where
  session : Session
  trail : List Interaction

/-- Whether the conversation goes on. -/
def Folder.isActive (f : Folder) : Bool := f.session.isActive

theorem Session.eq_of_nameless {s s' : Session} (h : s'.nameless = s.nameless) :
    s' = { s with id := s'.id } := by
  obtain ⟨⟩ := s
  obtain ⟨⟩ := s'
  simp only [nameless, Session.mk.injEq, true_and] at h ⊢
  exact h

namespace Store

/-- The folder of a session that stands under a key. -/
def folder (is : List Interaction) (e : String × Session) : String × Folder :=
  (e.1, ⟨e.2.nameless, (is.filter (·.sessionId == e.1)).map Interaction.nameless⟩)

/-- The folders of the sessions of a ticket, under their ids. -/
def file (ticketId : String) (now : Moment) (st : Store) : Entries Folder :=
  ((st.table now).filter (·.2.ticketId == ticketId)).map (folder st.interactions)

/-- The store without sessions and interactions. -/
def bare : Store → Store
  | memory m => memory { m with sessions := [], interactions := [] }
  | relational t => relational { t with sessions := [], interactions := [] }

/-- A store has become another, with these sessions and these interactions. All else is as it was,
and each session stands under its id. -/
structure Shifts (st : Store) (now : Moment) (es : Entries Session) (is : List Interaction)
    (st' : Store) : Prop where
  table : st'.table now = es
  interactions : st'.interactions = is
  bare : st'.bare = st.bare

variable {st st' : Store} {now : Moment} {ticketId other key : String} {n : Nat}

theorem Tidy.table (h : st.Tidy) (now : Moment) : (st.table now).Tidy Session.id := by
  cases st with
  | memory m => exact h
  | relational t =>
    have ht : t.sessions.Tidy SessionRow.id := h
    refine ⟨?_, fun e he => ?_⟩
    · have hkeys : ((relational t).table now).keys = t.sessions.keys := by
        simp [Store.table, Entries.mapValues, Entries.keys, Function.comp_def]
      rw [hkeys]
      exact ht.keys
    · obtain ⟨row, hrow, rfl⟩ := List.mem_map.1 he
      exact ht.ids row hrow

theorem keys_file (ticketId : String) (now : Moment) (st : Store) :
    (st.file ticketId now).keys =
      Entries.keys ((st.table now).filter (·.2.ticketId == ticketId)) := by
  simp [file, Entries.keys, folder, Function.comp_def]

theorem Tidy.keys_file (h : st.Tidy) (ticketId : String) (now : Moment) :
    (st.file ticketId now).keys.Nodup := by
  rw [Store.keys_file]
  exact Entries.nodup_keys_filter (h.table now).keys _

theorem Tidy.find?_of_file (h : st.Tidy) (hn : (st.file ticketId now).keys[n]? = some key) :
    ∃ s trail, (st.table now).find? key = some s ∧ s.id = key ∧ s.ticketId = ticketId ∧
      (st.file ticketId now).values[n]? = some ⟨s.nameless, trail⟩ := by
  rw [Store.keys_file] at hn
  obtain ⟨s, hs, -⟩ := Entries.getElem?_of_keys hn
  obtain ⟨hmem, hticket⟩ := List.mem_filter.1 (List.mem_of_getElem? hs)
  refine ⟨s, (st.interactions.filter (·.sessionId == key)).map Interaction.nameless,
    Entries.find?_of_mem_nodup (h.table now).keys hmem, (h.table now).ids _ hmem,
    by simpa using hticket, ?_⟩
  simp only [file, Entries.values, List.getElem?_map, hs, Option.map_some]
  rfl

theorem not_mem_keys_file (h : st.Tidy) {s : Session} (hfind : (st.table now).find? key = some s)
    (hticket : s.ticketId ≠ other) : key ∉ (st.file other now).keys := by
  rw [keys_file]
  intro hmem
  obtain ⟨e, he, rfl⟩ := List.mem_map.1 hmem
  obtain ⟨he, hother⟩ := List.mem_filter.1 he
  rw [Entries.find?_of_mem_nodup (h.table now).keys he] at hfind
  cases hfind
  exact hticket (by simpa using hother)

/-! ## What changes in files -/

namespace Shifts

variable {es : Entries Session} {is : List Interaction}

theorem file_eq (h : st.Shifts now es is st') (ticketId : String) :
    st'.file ticketId now = (es.filter (·.2.ticketId == ticketId)).map (folder is) := by
  rw [file, h.table, h.interactions]

/-- A session that is saved is put in its place. -/
theorem file_put (htidy : st.Tidy) {old new : Session}
    (hfind : (st.table now).find? key = some old) (hticket : new.ticketId = old.ticketId)
    (h : st.Shifts now ((st.table now).put key new) st.interactions st') (ticketId : String) :
    st'.file ticketId now =
      (st.file ticketId now).revise key fun f => { f with session := new.nameless } := by
  have hselect : ∀ v, (key, v) ∈ st.table now →
      (new.ticketId == ticketId) = (v.ticketId == ticketId) := by
    intro v hv
    rw [Entries.find?_of_mem_nodup (htidy.table now).keys hv] at hfind
    cases hfind
    rw [hticket]
  have hfilter := Entries.filter_revise (p := fun s : Session => s.ticketId == ticketId)
    (f := fun _ => new) hselect
  rw [h.file_eq, Entries.put_eq_revise (htidy.table now).keys hfind, hfilter, file]
  simp only [Entries.revise, List.map_map]
  refine List.map_congr_left fun e _ => ?_
  by_cases he : e.1 = key
  · simp [folder, he]
  · simp [folder, he]

/-- A session that is begun comes last. -/
theorem file_new {id : String} {new : Session} (hnone : (st.table now).find? id = none)
    (hunused : ∀ i ∈ st.interactions, i.sessionId ≠ id)
    (h : st.Shifts now ((st.table now).put id new) st.interactions st') (ticketId : String) :
    st'.file ticketId now = st.file ticketId now ++
      if new.ticketId = ticketId then [(id, ⟨new.nameless, []⟩)] else [] := by
  have htrail : st.interactions.filter (·.sessionId == id) = [] :=
    List.filter_eq_nil_iff.2 fun i hi => by simpa using hunused i hi
  rw [h.file_eq, Entries.put_of_find?_none new hnone, List.filter_append, List.map_append, file]
  congr 1
  by_cases hticket : new.ticketId = ticketId
  · simp [hticket, folder, htrail]
  · simp [hticket]

theorem file_record {i : Interaction}
    (h : st.Shifts now (st.table now) (st.interactions ++ [i]) st') (ticketId : String) :
    st'.file ticketId now = (st.file ticketId now).revise i.sessionId
      fun f => { f with trail := f.trail ++ [i.nameless] } := by
  rw [h.file_eq, file]
  simp only [Entries.revise, List.map_map]
  refine List.map_congr_left fun e _ => ?_
  simp only [Function.comp_apply, folder, List.filter_append, List.map_append]
  by_cases he : e.1 = i.sessionId
  · simp [he]
  · simp [he, Ne.symm he]

end Shifts

end Store

end FrontDesk
