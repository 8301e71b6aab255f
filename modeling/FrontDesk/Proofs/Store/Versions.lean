/-
Sessions that many clients save.

Clients load sessions and save copies of them, in any order. A record changes only by a save that is
accepted (`Store.step`), and that makes its next version, so of two saves of one version one is
refused, and what a save was made of is what the save before it left on record
(`Store.no_lost_save`). A save that is refused changes nothing.
-/
import FrontDesk.Proofs.Store.Record
import FrontDesk.Proofs.Store.Saves

namespace FrontDesk

open Calendar Store

namespace Store

/-! ## Rows of requests -/

/-- What is asked of a store at some time, and the id a session gets if it is begun. -/
structure Asked where
  now : Moment
  freshId : String
  request : Request

namespace Asked

/-- The id of the session that is to be begun. -/
def begins? (a : Asked) : Option String :=
  match a.request with
  | .openSession _ => some a.freshId
  | _ => none

/-- Whether a session is to be saved. -/
def isSave (a : Asked) : Bool :=
  match a.request with
  | .saveSession _ => true
  | _ => false

/-- Whether a flow is to be deleted, which can take sessions with it. -/
def isDelete (a : Asked) : Bool :=
  match a.request with
  | .deleteFlow _ => true
  | _ => false

end Asked

/-- What becomes of the store. -/
def after (st : Store) (a : Asked) : Store := (st.answer a.now a.freshId a.request).2

/-- What becomes of the store in the end. -/
def afterAll (st : Store) (as : List Asked) : Store := as.foldl after st

/-- The session that is saved, if it is. -/
def accepts? (st : Store) (a : Asked) : Option Session :=
  match a.request with
  | .saveSession s =>
    match (st.answer a.now a.freshId (.saveSession s)).1 with
    | .ok _ => some s
    | .error _ => none
  | _ => none

/-- The sessions that are saved, in order. -/
def accepted (st : Store) : List Asked → List Session
  | [] => []
  | a :: rest => (st.accepts? a).toList ++ (st.after a).accepted rest

/-- How many saves of a session are accepted. -/
def saves (st : Store) (as : List Asked) (key : String) : Nat :=
  (st.accepted as).countP (·.id == key)

/-- The sessions that are given out. -/
def givenOut (st : Store) (a : Asked) : List Session :=
  match a.request with
  | .openSession o => (st.answer a.now a.freshId (.openSession o)).1.toOption.toList
  | .saveSession s => (st.answer a.now a.freshId (.saveSession s)).1.toOption.toList
  | .session id => ((st.answer a.now a.freshId (.session id)).1.toOption.bind fun s? => s?).toList
  | .activeSession id =>
    ((st.answer a.now a.freshId (.activeSession id)).1.toOption.bind fun s? => s?).toList
  | .sessionsOf id => (st.answer a.now a.freshId (.sessionsOf id)).1.toOption.getD []
  | _ => []

/-- What a request does to what is stored under a key. -/
inductive Step (st : Store) (a : Asked) (key : String) : Prop where
  | same (stored : (st.after a).stored? key = st.stored? key)
      (none : ∀ s, st.accepts? a = some s → s.id ≠ key)
  | saved (s : Session) (rec rec' : Stored) (accepts : st.accepts? a = some s) (id : s.id = key)
      (before : st.stored? key = some rec) (version : rec.version = s.version)
      (stored : (st.after a).stored? key = some rec') (next : rec'.version = s.version + 1)
  | begun (rec : Stored) (begins : a.begins? = some key) (none : st.accepts? a = none)
      (stored : (st.after a).stored? key = some rec) (version : rec.version = 0)

/-- **A record changes only by a save that is accepted.** -/
theorem step (st : Store) {a : Asked} (hdelete : a.isDelete = false) (key : String) :
    Step st a key := by
  obtain ⟨now, freshId, r⟩ := a
  cases r with
  | deleteFlow id => cases hdelete
  | openSession o =>
    rcases openSession_cases st now freshId o with
      ⟨e, he⟩ | ⟨x, st', rec, hanswer, -, -, hzero, hst⟩
    · refine .same ?_ (fun s hs => ?_)
      · simp only [after, he]
      · cases hs
    · have hst' : st.after ⟨now, freshId, .openSession o⟩ = st' := by simp only [after, hanswer]
      by_cases hkey : key = freshId
      · subst hkey
        exact .begun rec rfl rfl (by rw [hst', hst, if_pos rfl]) hzero
      · refine .same (by rw [hst', hst, if_neg hkey]) (fun s hs => ?_)
        cases hs
  | saveSession s =>
    rcases saveSession_cases st now freshId s with ⟨e, he, -⟩ | ⟨x, st', rec, rec', hanswer, h⟩
    · refine .same ?_ (fun s hs => ?_)
      · simp only [after, he]
      · simp [accepts?, he] at hs
    · have hst' : st.after ⟨now, freshId, .saveSession s⟩ = st' := by simp only [after, hanswer]
      have haccepts : st.accepts? ⟨now, freshId, .saveSession s⟩ = some s := by
        simp only [accepts?, hanswer]
      by_cases hkey : key = s.id
      · subst hkey
        exact .saved s rec rec' haccepts rfl h.found h.version
          (by rw [hst', h.stored, if_pos rfl]) h.next
      · refine .same (by rw [hst', h.stored, if_neg hkey]) (fun u hu => ?_)
        rw [haccepts] at hu
        cases hu
        exact Ne.symm hkey
  | flows | activeFlows | flow | saveFlow | demoteOthers | session | activeSession | sessionsOf
  | record | interactions =>
    refine .same (sessions_answer rfl key) (fun s hs => ?_)
    cases hs

/-! ## Whole runs -/

/-- The ids of sessions to be begun are fresh, and no flow is deleted. -/
structure Fresh (st : Store) (as : List Asked) : Prop where
  lasting : ∀ a ∈ as, a.isDelete = false
  nodup : (as.filterMap Asked.begins?).Nodup
  unused : ∀ key ∈ as.filterMap Asked.begins?, st.stored? key = none

theorem Fresh.after {st : Store} {a : Asked} {as : List Asked} (h : st.Fresh (a :: as)) :
    (st.after a).Fresh as := by
  have hbegins : ∀ key ∈ as.filterMap Asked.begins?,
      key ∈ (a :: as).filterMap Asked.begins? ∧ a.begins? ≠ some key := by
    intro key hkey
    cases hb : a.begins? with
    | none => exact ⟨by simpa [hb] using hkey, by simp⟩
    | some key' =>
      have hnodup := h.nodup
      rw [List.filterMap_cons_some hb] at hnodup ⊢
      refine ⟨List.mem_cons_of_mem _ hkey, fun heq => ?_⟩
      cases heq
      exact (List.nodup_cons.1 hnodup).1 hkey
  refine ⟨fun b hb => h.lasting b (List.mem_cons_of_mem a hb), ?_, fun key hkey => ?_⟩
  · have hnodup := h.nodup
    cases hb : a.begins? with
    | none => rwa [List.filterMap_cons_none hb] at hnodup
    | some key' =>
      rw [List.filterMap_cons_some hb] at hnodup
      exact (List.nodup_cons.1 hnodup).2
  · obtain ⟨hkey', hne⟩ := hbegins key hkey
    have hnone := h.unused key hkey'
    cases step st (h.lasting a (by simp)) key with
    | same hstored _ => rw [hstored, hnone]
    | saved s rec rec' _ _ hbefore _ _ _ => rw [hnone] at hbefore; cases hbefore
    | begun rec hbegins _ _ _ => exact absurd hbegins hne

theorem Fresh.not_begins {st : Store} {a : Asked} {as : List Asked} {key : String} {rec : Stored}
    (h : st.Fresh (a :: as)) (hstored : st.stored? key = some rec) : a.begins? ≠ some key := by
  intro hb
  have hnone := h.unused key (by rw [List.filterMap_cons_some hb]; simp)
  rw [hstored] at hnone
  cases hnone

theorem accepted_cons (st : Store) (a : Asked) (as : List Asked) :
    st.accepted (a :: as) = (st.accepts? a).toList ++ (st.after a).accepted as := rfl

theorem saves_cons (st : Store) (a : Asked) (as : List Asked) (key : String) :
    st.saves (a :: as) key =
      (st.accepts? a).toList.countP (·.id == key) + (st.after a).saves as key := by
  rw [saves, accepted_cons, List.countP_append]
  rfl

/-- What is stored goes on from version to version, one for each save that is accepted. Without one
it stays as it is. -/
theorem stored_run {st : Store} {as : List Asked} {key : String} {rec : Stored}
    (hfresh : st.Fresh as) (hstored : st.stored? key = some rec) :
    ∃ rec', (st.afterAll as).stored? key = some rec' ∧
      rec'.version = rec.version + st.saves as key ∧ (st.saves as key = 0 → rec' = rec) := by
  induction as generalizing st rec with
  | nil => exact ⟨rec, hstored, by simp [saves, accepted], fun _ => rfl⟩
  | cons a as ih =>
    rw [saves_cons]
    cases step st (hfresh.lasting a (by simp)) key with
    | same hsame hnone =>
      have hzero : (st.accepts? a).toList.countP (·.id == key) = 0 := by
        rw [List.countP_eq_zero]
        intro s hs
        simpa using hnone s (by simpa using hs)
      rw [hzero, Nat.zero_add]
      exact ih hfresh.after (hsame.trans hstored)
    | saved s rec₀ rec₁ haccepts hid hbefore hversion hafter hnext =>
      rw [hstored] at hbefore
      cases hbefore
      obtain ⟨rec', hrec', hversion', -⟩ := ih hfresh.after hafter
      have hone : (st.accepts? a).toList.countP (·.id == key) = 1 := by simp [haccepts, hid]
      refine ⟨rec', hrec', ?_, ?_⟩
      · rw [hone, hversion', hnext]
        omega
      · rw [hone]
        omega
    | begun _ hbegins _ _ _ => exact absurd hbegins (hfresh.not_begins hstored)

theorem version_of_begun {st : Store} {as : List Asked} {key : String} {rec : Stored}
    (hfresh : st.Fresh as) (hnone : st.stored? key = none)
    (hstored : (st.afterAll as).stored? key = some rec) : rec.version = st.saves as key := by
  induction as generalizing st with
  | nil =>
    have h : st.stored? key = some rec := hstored
    rw [hnone] at h
    cases h
  | cons a as ih =>
    rw [saves_cons]
    cases step st (hfresh.lasting a (by simp)) key with
    | same hsame hother =>
      have hzero : (st.accepts? a).toList.countP (·.id == key) = 0 := by
        rw [List.countP_eq_zero]
        intro s hs
        simpa using hother s (by simpa using hs)
      rw [hzero, Nat.zero_add]
      exact ih hfresh.after (hsame.trans hnone) hstored
    | saved s rec₀ rec₁ _ _ hbefore _ _ _ =>
      rw [hnone] at hbefore
      cases hbefore
    | begun rec₀ _ haccepts hafter hzero =>
      obtain ⟨rec', hrec', hversion, -⟩ := stored_run hfresh.after hafter
      have hsame : (st.afterAll (a :: as)).stored? key = some rec' := hrec'
      rw [hstored] at hsame
      cases hsame
      rw [hversion, hzero, haccepts]
      simp

/-- A save that is accepted is of no version before the one on record. -/
theorem version_le_of_mem_accepted {st : Store} {as : List Asked} {s : Session} {rec : Stored}
    (hfresh : st.Fresh as) (hstored : st.stored? s.id = some rec) (hmem : s ∈ st.accepted as) :
    rec.version ≤ s.version := by
  induction as generalizing st rec with
  | nil => cases hmem
  | cons a as ih =>
    rw [accepted_cons, List.mem_append] at hmem
    cases step st (hfresh.lasting a (by simp)) s.id with
    | same hsame hother =>
      rcases hmem with hmem | hmem
      · exact absurd rfl (hother s (by simpa using hmem))
      · exact ih hfresh.after (hsame.trans hstored) hmem
    | saved u rec₀ rec₁ haccepts hid hbefore hversion hafter hnext =>
      rw [hstored] at hbefore
      cases hbefore
      rcases hmem with hmem | hmem
      · rw [haccepts] at hmem
        simp only [Option.toList_some, List.mem_singleton] at hmem
        rw [hmem]
        exact Int.le_of_eq hversion
      · have hle := ih hfresh.after hafter hmem
        omega
    | begun _ hbegins _ _ _ => exact absurd hbegins (hfresh.not_begins hstored)

/-- No two saves of one version of a session are accepted. -/
theorem nodup_accepted {st : Store} {as : List Asked} (hfresh : st.Fresh as) :
    ((st.accepted as).map fun s => (s.id, s.version)).Nodup := by
  induction as generalizing st with
  | nil => simp [accepted]
  | cons a as ih =>
    have hrest := ih hfresh.after
    rw [accepted_cons]
    cases haccepts : st.accepts? a with
    | none => simpa using hrest
    | some s =>
      rw [Option.toList_some, List.singleton_append, List.map_cons, List.nodup_cons]
      refine ⟨fun hmem => ?_, hrest⟩
      obtain ⟨u, hu, heq⟩ := List.mem_map.1 hmem
      obtain ⟨hid, hversion⟩ := Prod.mk.inj heq
      cases step st (hfresh.lasting a (by simp)) s.id with
      | same _ hother => exact hother s haccepts rfl
      | begun _ _ hnone _ _ => rw [haccepts] at hnone; cases hnone
      | saved s' rec rec' hs' _ _ _ hafter hnext =>
        rw [haccepts] at hs'
        cases hs'
        rw [← hid] at hafter
        have hle := version_le_of_mem_accepted hfresh.after hafter hu
        omega

/-! ## Records that are given out -/

theorem Tidy.afterAll {st : Store} (h : st.Tidy) (as : List Asked) : (st.afterAll as).Tidy := by
  induction as generalizing st with
  | nil => exact h
  | cons a as ih => exact ih (h.answer a.now a.freshId a.request)

/-- What a request gives out that writes nothing is on record. -/
theorem mem_sessions_of_givenOut {st : Store} {a : Asked} {l : Session}
    (hreads : a.request.touchesSessions = false) (hl : l ∈ st.givenOut a) :
    l ∈ st.sessions a.now := by
  obtain ⟨now, id, r⟩ := a
  cases st with
  | memory m =>
    cases r with
    | openSession | saveSession | deleteFlow => cases hreads
    | session key =>
      have hfind : m.sessions.find? key = some l := by
        simpa [givenOut, answer, Memory.answer, Except.toOption] using hl
      exact Entries.mem_values_of_find? hfind
    | activeSession ticketId =>
      simp only [givenOut, answer, Memory.answer] at hl
      cases hnewest : Memory.newest (m.sessions.values.filter (·.isActiveOn ticketId)) with
      | error e => simp [hnewest, Except.toOption] at hl
      | ok s? =>
        have hs : s? = some l := by simpa [hnewest, Except.toOption] using hl
        subst hs
        exact (List.mem_filter.1 (Memory.newest_mem hnewest)).1
    | sessionsOf flowId =>
      have hmem : l ∈ m.sessions.values.filter (·.flowId == flowId) := hl
      exact (List.mem_filter.1 hmem).1
    | flows | activeFlows | flow | saveFlow | demoteOthers | record | interactions => cases hl
  | relational t =>
    rw [sessions, table, Entries.values_mapValues]
    cases r with
    | openSession | saveSession | deleteFlow => cases hreads
    | session key =>
      have hfind : (t.sessions.find? key).map (·.session now) = some l := by
        simpa [givenOut, answer, Relational.answer, Except.toOption] using hl
      obtain ⟨row, hrow, rfl⟩ := Option.map_eq_some_iff.1 hfind
      exact List.mem_map_of_mem (Entries.mem_values_of_find? hrow)
    | activeSession ticketId =>
      have hnewest : (Relational.newest (t.sessions.values.filter (·.isActiveOn ticketId))).map
          (·.session now) = some l := by
        simpa [givenOut, answer, Relational.answer, Except.toOption] using hl
      obtain ⟨row, hrow, rfl⟩ := Option.map_eq_some_iff.1 hnewest
      exact List.mem_map_of_mem (List.mem_filter.1 (Relational.newest_mem hrow)).1
    | sessionsOf flowId =>
      have hmem : l ∈ (t.sessions.values.filter (·.flowId == flowId)).map (·.session now) := hl
      obtain ⟨row, hrow, rfl⟩ := List.mem_map.1 hmem
      exact List.mem_map_of_mem (List.mem_filter.1 hrow).1
    | flows | activeFlows | flow | saveFlow | demoteOthers | record | interactions => cases hl

/-- A session that is given out is on record then, in the version that it has. Unless it comes from
a save, it is what can be read. -/
theorem stored_of_givenOut {st : Store} (h : st.Tidy) {a : Asked} {l : Session}
    (hl : l ∈ st.givenOut a) :
    ∃ rec, (st.after a).stored? l.id = some rec ∧ rec.version = l.version ∧
      (a.isSave = false → rec.read a.now = l) := by
  have hread : ∀ {rec : Stored}, rec.read a.now = l → rec.version = l.version := by
    rintro (s | row) rfl <;> rfl
  cases hreads : a.request.touchesSessions with
  | false =>
    obtain ⟨rec, hrec, hl'⟩ := h.stored_of_mem (mem_sessions_of_givenOut hreads hl)
    exact ⟨rec, (sessions_answer hreads _).trans hrec, hread hl', fun _ => hl'⟩
  | true =>
    obtain ⟨now, id, r⟩ := a
    cases r with
    | openSession o =>
      rcases openSession_cases st now id o with ⟨e, he⟩ | ⟨x, st', rec, hanswer, hx, hid, -, hst⟩
      · simp [givenOut, he, Except.toOption] at hl
      · have hlx : l = x := by simpa [givenOut, hanswer, Except.toOption] using hl
        subst hlx
        refine ⟨rec, ?_, hread hx.symm, fun _ => hx.symm⟩
        simp only [after, hanswer]
        rw [hst, if_pos hid]
    | saveSession s =>
      rcases saveSession_cases st now id s with ⟨e, he, -⟩ | ⟨x, st', rec, rec', hanswer, hs⟩
      · simp [givenOut, he, Except.toOption] at hl
      · have hlx : l = x := by simpa [givenOut, hanswer, Except.toOption] using hl
        subst hlx
        refine ⟨rec', ?_, hs.next.trans hs.answer_version.symm, by rintro ⟨⟩⟩
        simp only [after, hanswer]
        rw [hs.stored, if_pos hs.answer_id]
    | deleteFlow => cases hl
    | _ => cases hreads

/-! ## No save is lost -/

theorem saveSession_of_accepts? {st : Store} {a : Asked} {s : Session}
    (h : st.accepts? a = some s) :
    a.request = .saveSession s ∧ ∃ x st' rec rec',
      st.answer a.now a.freshId (.saveSession s) = (.ok x, st') ∧ st.after a = st' ∧
      st.Accepts s x st' rec rec' := by
  obtain ⟨now, id, r⟩ := a
  cases r with
  | saveSession u =>
    rcases saveSession_cases st now id u with ⟨e, he, -⟩ | ⟨x, st', rec, rec', hanswer, hs⟩
    · simp [accepts?, he] at h
    · have hu : u = s := by simpa [accepts?, hanswer] using h
      subst hu
      exact ⟨rfl, x, st', rec, rec', hanswer, by simp only [after, hanswer], hs⟩
  | _ => cases h

theorem version_of_accepts {st : Store} {a : Asked} {s : Session} {rec : Stored}
    (h : st.accepts? a = some s) (hstored : st.stored? s.id = some rec) :
    rec.version = s.version := by
  obtain ⟨-, x, st', rec₀, rec', -, -, hs⟩ := saveSession_of_accepts? h
  have hfound := hs.found
  rw [hstored] at hfound
  cases hfound
  exact hs.version

theorem stored_of_accepts {st : Store} {a : Asked} {s : Session} (h : st.accepts? a = some s) :
    ∃ rec, (st.after a).stored? s.id = some rec := by
  obtain ⟨-, x, st', rec₀, rec', -, rfl, hs⟩ := saveSession_of_accepts? h
  exact ⟨rec', by rw [hs.stored, if_pos rfl]⟩

theorem afterAll_append (st : Store) (as bs : List Asked) :
    st.afterAll (as ++ bs) = (st.afterAll as).afterAll bs :=
  List.foldl_append

theorem Fresh.afterAll {st : Store} {as bs : List Asked} (h : st.Fresh (as ++ bs)) :
    (st.afterAll as).Fresh bs := by
  induction as generalizing st with
  | nil => exact h
  | cons a as ih => exact ih (Fresh.after h)

/-- What holds of the saves that a store was asked for, once it has been asked all that. -/
structure LosesNone (st : Store) (as : List Asked) : Prop where
  /-- Of one version of a session, one save at most is accepted. -/
  once : ((st.accepted as).map fun s => (s.id, s.version)).Nodup
  /-- The version on record is the number of saves that were accepted. -/
  count : ∀ key rec, (st.afterAll as).stored? key = some rec → rec.version = st.saves as key
  /-- Let a session `l` have been given out at some time `a`. If a save of it in that version is
  accepted now, then what is on record is what was so then, and what the last save left. -/
  chain : ∀ before a between, as = before ++ a :: between →
    ∀ l ∈ (st.afterAll before).givenOut a, ∀ b s, (st.afterAll as).accepts? b = some s →
      s.id = l.id → s.version = l.version →
      ∃ rec, (st.afterAll as).stored? s.id = some rec ∧
        (st.afterAll (before ++ [a])).stored? s.id = some rec ∧
        (a.isSave = false → rec.read a.now = l) ∧
        ∀ first c rest s', as = first ++ c :: rest → (st.afterAll first).accepts? c = some s' →
          s'.id = s.id → (st.afterAll (first ++ [c])).saves rest s.id = 0 →
          (st.afterAll (first ++ [c])).stored? s.id = some rec
  /-- A save that is refused changes nothing, and the refusal means what it says. -/
  refused : ∀ b s e, b.request = .saveSession s →
    ((st.afterAll as).answer b.now b.freshId (.saveSession s)).1 = .error e →
    (st.afterAll as).after b = st.afterAll as ∧ (st.afterAll as).Refuses b.now s e

/-- **No save is lost**, whoever loads and saves sessions in whatever order. -/
theorem no_lost_save {st : Store} {as : List Asked} (hnone : ∀ key, st.stored? key = none)
    (hlasting : ∀ a ∈ as, a.isDelete = false) (hids : (as.filterMap Asked.begins?).Nodup) :
    st.LosesNone as := by
  have hfresh : st.Fresh as := ⟨hlasting, hids, fun key _ => hnone key⟩
  refine ⟨nodup_accepted hfresh, fun key rec => version_of_begun hfresh (hnone key), ?_, ?_⟩
  · intro before a between has l hl b s haccepts hid hversion
    subst has
    -- what was given out was on record then
    have htidy := (tidy_of_none hnone).afterAll before
    obtain ⟨rec, hrec, hrecversion, hread⟩ := stored_of_givenOut htidy hl
    rw [← hid] at hrec
    have hsplit : before ++ a :: between = (before ++ [a]) ++ between := by simp
    have hthen : (st.afterAll (before ++ [a])).stored? s.id = some rec := by
      rw [afterAll_append]
      exact hrec
    rw [hsplit] at haccepts hfresh ⊢
    obtain ⟨now, hnow, hnowversion, hsame⟩ := stored_run hfresh.afterAll hthen
    rw [← afterAll_append] at hnow
    -- it was not saved in between, as the save of its version is accepted
    have hunsaved : (st.afterAll (before ++ [a])).saves between s.id = 0 := by
      have := version_of_accepts haccepts hnow
      omega
    rw [hsame hunsaved] at hnow
    refine ⟨rec, hnow, hthen, hread, fun first c rest s' has haccepts' hid' hlast => ?_⟩
    -- nor was it since the last save
    have hsplit' : first ++ c :: rest = (first ++ [c]) ++ rest := by simp
    rw [has, hsplit'] at hfresh hnow
    obtain ⟨left, hleft⟩ := stored_of_accepts haccepts'
    rw [hid', ← show st.afterAll (first ++ [c]) = (st.afterAll first).after c from
      afterAll_append st first [c]] at hleft
    obtain ⟨rec', hrec', -, hsame'⟩ := stored_run hfresh.afterAll hleft
    rw [← afterAll_append, hnow] at hrec'
    cases hrec'
    rw [hleft, hsame' hlast]
  · intro b s e hb he
    rcases saveSession_cases (st.afterAll as) b.now b.freshId s with
      ⟨e', he', hrefuses⟩ | ⟨x, st', rec, rec', hanswer, -⟩
    · rw [he'] at he
      cases he
      refine ⟨?_, hrefuses⟩
      rw [after, hb, he']
    · rw [hanswer] at he
      cases he

/-- A session as two clients load it. -/
def contested : Session where
  id := "session-1"
  flowId := "flow-1"
  ticketId := "7"
  contactId := some "c"
  currentNode := some "ask"
  createdAt := .utc 0
  updatedAt := .utc 0

/-- One of the two saves the session first. The other one is refused, loads it again and saves it
then. -/
def rivals : List Asked :=
  [⟨.utc 0, "", .saveFlow
      { id := "flow-1", name := "Greeter", description := none, isActive := true
        isPrimary := true, trigger := .default, keywords := [], entryNode := "ask"
        definition := [], schedule := none, offlineMessage := none, transferQueue := none
        createdAt := .utc 0, updatedAt := .utc 0 }⟩,
    ⟨.utc 0, "session-1", .openSession
      { flowId := "flow-1", ticketId := "7", contactId := some "c", currentNode := some "ask"
        state := {} }⟩,
    ⟨.utc 1, "", .session "session-1"⟩, ⟨.utc 1, "", .activeSession "7"⟩,
    ⟨.utc 2, "", .saveSession { contested with currentNode := some "left" }⟩,
    ⟨.utc 3, "", .saveSession { contested with currentNode := some "right" }⟩,
    ⟨.utc 4, "", .session "session-1"⟩,
    ⟨.utc 5, "", .saveSession { contested with currentNode := some "right", version := 1 }⟩]

/-- In either make of store two of the three saves are accepted, and none of these is lost. -/
theorem rivals_lose_none :
    (∀ a ∈ rivals, a.isDelete = false) ∧ (rivals.filterMap Asked.begins?).Nodup ∧
      ∀ st ∈ [memory {}, relational {}], (∀ key, st.stored? key = none) ∧
        ((st.accepted rivals).map fun s => (s.currentNode, s.version)) =
          [(some "left", 0), (some "right", 1)] ∧
        st.LosesNone rivals := by
  have hlasting : ∀ a ∈ rivals, a.isDelete = false := by decide
  have hids : (rivals.filterMap Asked.begins?).Nodup := by decide
  refine ⟨hlasting, hids, fun st hst => ?_⟩
  simp only [List.mem_cons, List.not_mem_nil, or_false] at hst
  rcases hst with rfl | rfl
  · have hnone : ∀ key, stored? key (memory {}) = none := fun _ => rfl
    exact ⟨hnone, by decide +kernel, no_lost_save hnone hlasting hids⟩
  · have hnone : ∀ key, stored? key (relational {}) = none := fun _ => rfl
    exact ⟨hnone, by decide +kernel, no_lost_save hnone hlasting hids⟩

end Store

end FrontDesk
