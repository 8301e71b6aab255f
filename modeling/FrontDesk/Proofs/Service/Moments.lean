/-
From one moment to another.

A world passes from moment to moment, one after each request. Of a session that is on record at two
moments, the history at the earlier one is a prefix of that at the later one, and it was not saved
less often by then; once a message has been dealt with and a conversation is completed, nothing
that it came to changes any more (`World.history_grows`).
-/
import FrontDesk.Proofs.Service.Conduct
import FrontDesk.Proofs.Service.Rehearsed

namespace FrontDesk

open Calendar Service Store

/-! ## Moments -/

namespace Job

variable {α : Type}

/-- The worlds that a job leads through, one after each request. -/
def passes : Job α → World → List World
  | ask r next, w => (w.answer r).2 :: (next (w.answer r).1).passes (w.answer r).2
  | done _, _ | failed _, _ => []

/-- What each request keeps, and how worlds are related by it, holds of all worlds that a job leads
through, and of any two of them. -/
theorem Behaves.passes {may : World → Service.Request → Prop} {p : World → Prop}
    {q : World → World → Prop} (hstep : ∀ w r, p w → may w r → p (w.answer r).2 ∧ q w (w.answer r).2)
    (hrefl : ∀ w, q w w) (htrans : ∀ {a b c}, q a b → q b c → q a c) {j : Job α}
    {ok : α → World → Prop} {err : Failure → World → Prop} {w : World}
    (h : j.Behaves may ok err w) (hw : p w) :
    (∀ w' ∈ j.passes w, p w' ∧ q w w' ∧ q w' (j.run w).2) ∧ (j.passes w).Pairwise q ∧
      p (j.run w).2 ∧ q w (j.run w).2 := by
  induction j generalizing w with
  | done a | failed e => exact ⟨by simp [Job.passes], by simp [Job.passes], hw, hrefl w⟩
  | ask r next ih =>
    obtain ⟨hmay, hnext⟩ := h
    obtain ⟨hp, hq⟩ := hstep w r hw hmay
    obtain ⟨hall, hpairs, hend, hlast⟩ := ih _ hnext hp
    refine ⟨fun w' hw' => ?_, ?_, hend, htrans hq hlast⟩
    · rcases List.mem_cons.1 hw' with rfl | hw'
      · exact ⟨hp, hq, hlast⟩
      · obtain ⟨hp', hq', hlast'⟩ := hall w' hw'
        exact ⟨hp', htrans hq hq', hlast'⟩
    · exact List.pairwise_cons.2 ⟨fun w' hw' => (hall w' hw').2.1, hpairs⟩

end Job

namespace World

/-- The worlds that are passed while something happens. -/
def passed (w : World) : Happening → List World
  | .message r now ticketId messageId text => (r.incoming now ticketId messageId text).passes w
  | .created now d => (Editing.create now d).passes w
  | .updated now id d => (Editing.update now id d).passes w
  | .deleted id => (Editing.delete id).passes w
  | .helpdesk _ | .trouble _ | .time _ => []

/-- All moments while one thing happens after another. -/
def moments (w : World) : List Happening → List World
  | [] => [w]
  | h :: rest => w :: (w.passed h ++ (w.after h).moments rest)

variable {w₀ w w' w'' : World} {new : String → Prop}

/-! ## Edits -/

theorem Since.shed (h : w.WellKept) (hread : w'.Readable) (hids : w'.sessionIds = w.sessionIds)
    (hbook : ∀ key s, w'.book.find? key = some s → w.book.find? key = some s) :
    w'.WellKept ∧ Since new w w' := by
  have hmem : ∀ s ∈ w'.book.values, s ∈ w.book.values := by
    intro s hs
    have hfind := (hread.tidy.table (.utc 0)).find?_of_mem hs
    exact Entries.mem_values_of_find? (hbook _ _ hfind)
  refine ⟨{ hread with unused := fun n hn => ?_, alone := ?_ }, ?_⟩
  · cases hfind : w'.book.find? (numbered "session" n) with
    | none => rfl
    | some s =>
      rw [hids] at hn
      rw [← h.unused n hn, hbook _ s hfind]
  · exact fun s hs s' hs' => h.alone s (hmem s hs) s' (hmem s' hs')
  · refine ⟨⟨Nat.le_of_eq hids.symm, fun key s hs => .inl ⟨s, hbook key s hs, .refl s⟩⟩, ?_⟩
    intro key s s' hs _ hs'
    rw [hbook key s' hs'] at hs
    cases hs
    exact ⟨rfl, rfl, rfl, rfl, rfl⟩

theorem Since.trans (h : Since new w₀ w) (h' : Since new w w') (hw₀ : w₀.WellKept) :
    Since new w₀ w' where
  toLater := h.toLater.trans h'.toLater
  closed key s₀ s' hs₀ hdone hs' := by
    rcases h'.grows key s' hs' with ⟨s, hs, -⟩ | ⟨-, n, hn, rfl⟩
    · have hsame := h.closed key s₀ s hs₀ hdone hs
      refine hsame.trans (h'.closed key s s' hs ?_ hs')
      rw [hsame.completedAt]
      exact hdone
    · rw [hw₀.unused n (Nat.lt_of_le_of_lt h.ids hn)] at hs₀
      cases hs₀

theorem Within.trans (h : Within w₀ new w) (h' : Within w new w') (hw₀ : w₀.WellKept) :
    Within w₀ new w' where
  wellKept := h'.wellKept
  since := h.since.trans h'.since hw₀
  make := h'.make.trans h.make

/-- Terms of one who edits the catalog, for which sessions go only with their flows. -/
def editTerms : Terms where
  may
    | .store (.openSession _) | .store (.saveSession _) | .desk _ => False
    | _ => True
  gives _ _ := True

theorem editTerms_letsEdit : editTerms.LetsEdit :=
  ⟨fun _ => trivial, fun _ => trivial, fun _ => trivial, fun _ => trivial, trivial,
    fun _ _ => trivial⟩

theorem edit_step (new : String → Prop) (h : w.WellKept) {r : Service.Request} (hr : editTerms.may r) :
    (w.answer r).2.WellKept ∧ Since new w (w.answer r).2 := by
  cases r with
  | store r =>
    cases htouches : r.touchesSessions with
    | false =>
      obtain ⟨-, hread⟩ : Step w new w _ ∧ _ := step_of_untouched h htouches
      refine Since.shed h hread (sessionIds_answer htouches) fun key s hs => ?_
      rwa [World.book_answer htouches] at hs
    | true =>
      cases r with
      | openSession | saveSession => cases hr
      | deleteFlow id =>
        rcases w.answer_store_cases (.deleteFlow id) with hfails | ⟨ids, hids, hanswer⟩
        · rw [hfails]
          exact Since.shed h (h.toReadable.congr rfl) rfl fun _ _ hs => hs
        · rw [hanswer]
          obtain ⟨hbook, hsteady⟩ := deleteFlow_book w.store w.clock (numbered "session" ids) id
          refine Since.shed h ⟨h.tidy.answer _ _ _, ?_, hsteady h.steady⟩ hids fun key s hs => ?_
          · exact (Store.answer_sound h.sound _ _ (.deleteFlow id) trivial).1
          · simp only [World.book] at hs
            rcases hbook with hbook | hbook
            · rwa [hbook] at hs
            · rw [hbook] at hs
              exact Entries.find?_of_filter (h.tidy.table (.utc 0)).keys hs
      | _ => cases htouches
  | desk r => cases hr
  | log level text | newFlowId => exact Since.shed h (h.toReadable.congr rfl) rfl fun _ _ hs => hs

/-! ## Whatever happens -/

/-- When that happens, conversations are begun on such tickets only. -/
def Admits (w : World) (new : String → Prop) : Happening → Prop
  | .message _ _ ticketId _ _ => ∀ t, w.desk.tickets.find? ticketId = some t → new t.id
  | _ => True

theorem admits_any (w : World) (e : Happening) : w.Admits (fun _ => True) e := by
  cases e with
  | message => exact fun _ _ => trivial
  | _ => trivial

/-- All worlds that are passed meanwhile are on the way from the first to the last one, and each
comes later than those before it. -/
structure Passes (new : String → Prop) (w : World) (ws : List World) (w' : World) : Prop where
  within : ∀ v ∈ ws, Within w new v ∧ Later new v w'
  pairwise : ws.Pairwise (Later new)
  last : Within w new w'

theorem edit_passes {α : Type} {j : Job α} (hj : j.Keeps editTerms fun _ => True)
    (h : w.WellKept) : Passes new w (j.passes w) (j.run w).2 := by
  have hstep : ∀ v r, Within w new v → editTerms.may r →
      Within w new (v.answer r).2 ∧ Later new v (v.answer r).2 := by
    intro v r hv hr
    obtain ⟨hkept, hsince⟩ := edit_step new hv.wellKept hr
    exact ⟨hv.trans ⟨hkept, hsince, v.isRelational_answer r⟩ h, hsince.toLater⟩
  have hbehaves : j.Behaves (fun _ r => editTerms.may r) (fun _ => Within w new)
      (fun _ => Within w new) w :=
    (hj.behaves (p := Within w new) (fun v r hv hr => ⟨hr, (hstep v r hv hr).1, fun _ _ => trivial⟩)
      (.refl h)).mono (fun _ _ h => h) (fun _ _ h => h.2) fun _ _ h => h
  obtain ⟨hall, hpairs, hlast, -⟩ := hbehaves.passes hstep Later.refl Later.trans (.refl h)
  exact ⟨fun v hv => ⟨(hall v hv).1, (hall v hv).2.2⟩, hpairs, hlast⟩

theorem passed_passes (h : w.WellKept) (e : Happening) (hnew : w.Admits new e) :
    Passes new w (w.passed e) (w.after e) := by
  have hself : Within w new w := .refl h
  cases e with
  | message r now ticketId messageId text =>
    have hconducts := r.incoming_conducts new now ticketId messageId text h hnew
    obtain ⟨hall, hpairs, hlast, -⟩ := hconducts.passes
      (fun v q hv hmay =>
        ⟨hv.answer h hmay, (step_of_may hv.wellKept h hv.since hv.make hmay).1.later⟩)
      Later.refl Later.trans hself
    exact ⟨fun v hv => ⟨(hall v hv).1, (hall v hv).2.2⟩, hpairs, hlast⟩
  | created now d => exact edit_passes (Editing.create_edits editTerms_letsEdit) h
  | updated now id d => exact edit_passes (Editing.update_edits editTerms_letsEdit) h
  | deleted id => exact edit_passes (Editing.delete_edits editTerms_letsEdit) h
  | helpdesk d | trouble t | time now =>
    exact ⟨by simp [passed], by simp [passed], hself.congr rfl rfl⟩

/-- From any moment to any later one the book has grown, and what was completed at the beginning is
as it was. -/
theorem moments_within (h : w.WellKept) (hs : List Happening) :
    (∀ v ∈ w.moments hs, Within w (fun _ => True) v) ∧
      (w.moments hs).Pairwise fun v v' => v.WellKept ∧ v'.WellKept ∧ Later (fun _ => True) v v' := by
  induction hs generalizing w with
  | nil => exact ⟨by simpa [moments] using .refl h, by simp [moments]⟩
  | cons e rest ih =>
    obtain ⟨hwithin, hpairs, hlast⟩ := passed_passes h e (w.admits_any e)
    obtain ⟨hrest, hlater⟩ := ih hlast.wellKept
    have hall : ∀ v ∈ w.moments (e :: rest), Within w (fun _ => True) v := by
      intro v hv
      rcases List.mem_cons.1 hv with rfl | hv
      · exact .refl h
      rcases List.mem_append.1 hv with hv | hv
      · exact (hwithin v hv).1
      · exact hlast.trans (hrest v hv) h
    refine ⟨hall, List.pairwise_cons.2 ⟨fun v hv => ?_, List.pairwise_append.2 ⟨?_, hlater, ?_⟩⟩⟩
    · have hv := hall v (List.mem_cons_of_mem _ hv)
      exact ⟨h, hv.wellKept, hv.since.toLater⟩
    · exact hpairs.imp_of_mem fun hv hv' hlate =>
        ⟨(hwithin _ hv).1.wellKept, (hwithin _ hv').1.wellKept, hlate⟩
    · intro v hv v' hv'
      exact ⟨(hwithin v hv).1.wellKept, (hrest v' hv').wellKept,
        (hwithin v hv).2.trans (hrest v' hv').since.toLater⟩

theorem WellKept.after (h : w.WellKept) (e : Happening) : (w.after e).WellKept :=
  (passed_passes h e (w.admits_any e)).last.wellKept

theorem WellKept.afterAll (h : w.WellKept) (hs : List Happening) : (w.afterAll hs).WellKept := by
  unfold World.afterAll
  induction hs generalizing w with
  | nil => exact h
  | cons e rest ih => exact ih (h.after e)

theorem wellKept_of_none (hnone : ∀ now, w.store.sessions now = []) : w.WellKept := by
  have hbook : w.book = [] := by
    have hvalues : w.book.values = [] := hnone (.utc 0)
    exact List.map_eq_nil_iff.1 hvalues
  refine ⟨⟨?_, fun now s hs => by simp [hnone now] at hs, ?_⟩, fun n _ => by rw [hbook]; rfl, ?_⟩
  · refine tidy_of_none fun key => ?_
    cases hst : w.store with
    | memory m =>
      rw [World.book, hst] at hbook
      rw [stored?, show m.sessions = [] from hbook]
      rfl
    | relational t =>
      rw [World.book, hst] at hbook
      rw [stored?, show t.sessions = [] from List.map_eq_nil_iff.1 hbook]
      rfl
  · cases hst : w.store with
    | memory m => trivial
    | relational t =>
      rw [World.book, hst] at hbook
      intro row hrow
      rw [show t.sessions = [] from List.map_eq_nil_iff.1 hbook] at hrow
      cases hrow
  · rw [hbook]
    simp [Entries.values]

/-- **The history of a session is only added to, and a completed conversation stays as it is.** In
whatever happens to a world that had no sessions, of a session that is on record at two moments the
earlier history is a prefix of the later one and the earlier version is no higher; and a session that
is completed when some of it has happened is the same at all moments after that, in its state, where
it rests, its times of completion and transfer, and its version. -/
theorem history_grows (hnone : ∀ now, w.store.sessions now = []) (before after : List Happening) :
    ((w.moments (before ++ after)).Pairwise fun w₁ w₂ => ∀ key now₁ now₂ s₁ s₂,
      (w₁.store.table now₁).find? key = some s₁ → (w₂.store.table now₂).find? key = some s₂ →
        s₁.state.history <+: s₂.state.history ∧ s₁.version ≤ s₂.version) ∧
    ∀ key now s, ((w.afterAll before).store.table now).find? key = some s →
      s.completedAt.isSome = true →
      ∀ w' ∈ (w.afterAll before).moments after, ∀ now' s',
        (w'.store.table now').find? key = some s' → s.Unchanged s' := by
  have h := wellKept_of_none hnone
  refine ⟨(moments_within h _).2.imp ?_, ?_⟩
  · rintro w₁ w₂ ⟨h₁, h₂, hlater⟩ key now₁ now₂ s₁ s₂ hs₁ hs₂
    rw [h₁.steady.table] at hs₁
    rw [h₂.steady.table] at hs₂
    rcases hlater.grows key s₂ hs₂ with ⟨s, hs, hprecedes⟩ | ⟨-, n, hn, rfl⟩
    · obtain rfl : s₁ = s := Option.some.inj (hs₁.symm.trans hs)
      exact ⟨hprecedes.history, hprecedes.version⟩
    · have hunused := h₁.unused n hn
      rw [World.book, hs₁] at hunused
      cases hunused
  · intro key now s hs hdone w' hw' now' s' hs'
    have hbefore := h.afterAll before
    have hwithin := (moments_within hbefore after).1 w' hw'
    rw [hbefore.steady.table] at hs
    rw [hwithin.wellKept.steady.table] at hs'
    exact hwithin.since.closed key s s' hs hdone hs'

end World

/-- A contact is handed over at the end of a conversation. -/
def farewell : List Happening :=
  [.message {} (.utc 1) "ticket" "m1" "Hi", .message {} (.utc 2) "ticket" "m2" "Maybe",
    .message {} (.utc 3) "ticket" "m3" "Yes"]

/-- The contact writes again while someone else saves what is found at each delivery. -/
def comeback : List Happening :=
  [.trouble { rivalSaves := true }, .message {} (.utc 4) "ticket" "m4" "Hi again"]

/-- The conversation that was completed stays as it is while another one is begun, of which only what
the other one saved is on record. -/
theorem farewell_grows :
    (∀ now, office.store.sessions now = []) ∧
      ((office.afterAll (farewell ++ comeback)).store.table (.utc 5)).map
          (fun e => (e.1, e.2.version, e.2.completedAt.isSome, e.2.state.history.length)) =
        [("session-1", 4, true, 3), ("session-2", 2, false, 0)] ∧
      ∃ s, ((office.afterAll farewell).store.table (.utc 4)).find? "session-1" = some s ∧
        s.completedAt.isSome = true ∧
        ∀ w' ∈ (office.afterAll farewell).moments comeback, ∀ now' s',
          (w'.store.table now').find? "session-1" = some s' → s.Unchanged s' := by
  have hnone : ∀ now, office.store.sessions now = [] := fun _ => rfl
  have hdone : (((office.afterAll farewell).store.table (.utc 4)).find? "session-1").map
      (fun s => s.completedAt.isSome) = some true := by decide +kernel
  obtain ⟨s, hs, hsome⟩ := Option.map_eq_some_iff.1 hdone
  refine ⟨hnone, by decide +kernel, s, hs, hsome, ?_⟩
  exact (World.history_grows hnone farewell comeback).2 "session-1" (.utc 4) s hs hsome

end FrontDesk
