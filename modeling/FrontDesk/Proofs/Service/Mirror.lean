/-
A world and its mirror in memory.

The mirror of a world is the same but for its store, which has the same records in memory. As long as
the clock shows universal time, what may be asked by an editor or at a reception gets the same answer
in the mirror, and the two worlds mirror each other again (`World.Served.answer`); so every job that
asks nothing else comes to the same in both (`Job.Behaves.mirror`).
-/
import FrontDesk.Proofs.Service.Curated
import FrontDesk.Proofs.Store.Mirror

namespace FrontDesk

open Calendar Service Store

namespace World

/-- The same world with its records in memory. -/
def mirror (w : World) : World := { w with store := w.store.mirror }

/-- Beside records in memory the request gets the same answer and leads to the same world. -/
def Mirrors (w : World) (r : Service.Request) : Prop :=
  w.mirror.answer r = ((w.answer r).1, (w.answer r).2.mirror)

variable {w w₀ : World} {now : Moment}

/-! ## Requests -/

theorem mirror_askStore {r : Store.Request} (h : ∀ id, w.store.Mirrors w.clock id r) :
    w.mirror.askStore r = ((w.askStore r).1, (w.askStore r).2.mirror) := by
  simp only [askStore, mirror]
  rw [h]

theorem mirrors_store {r : Store.Request} (h : ∀ id, w.store.Mirrors w.clock id r) :
    w.Mirrors (.store r) := by
  have hask := mirror_askStore (w := { w with asked := w.asked + 1 }) h
  simp only [mirror] at hask
  simp only [Mirrors, answer, mirror, isOutside, Bool.true_and]
  split
  · rfl
  · simp only [perform, hask]

theorem mirrors_found (h : w.WellKept) (hclock : w.store.Retains w.clock) {ticketId : String}
    {s : Session} {id : String}
    (hfound : (w.store.answer w.clock id (.activeSession ticketId)).1 = .ok (some s))
    (id' : String) : w.store.Mirrors w.clock id' (.saveSession s) := by
  obtain ⟨hmem, hactive⟩ := (activeSession_book h.steady hfound).1 s rfl
  simp only [Session.isActiveOn, Session.isActive, Bool.and_eq_true, Option.isNone_iff_eq_none]
    at hactive
  refine mirrors_saveSession hclock (h.find?_of_mem hmem) (.refl s) (h.read hmem).storable ?_
  rintro time (hdone | hmoved)
  · rw [hactive.2] at hdone
    cases hdone
  · exact h.steady.retains hmem hmoved

theorem mirrors_active (h : w.WellKept) (ticketId id : String) :
    w.store.Mirrors w.clock id (.activeSession ticketId) := by
  obtain ⟨s?, halone⟩ := h.active (.utc 0) ticketId
  rw [h.steady.sessions] at halone
  exact mirrors_activeSession h.steady halone

theorem mirror_rivalled (h : w.WellKept) (hclock : w.store.Retains w.clock) (id ticketId : String) :
    w.store.mirror.rivalled w.clock id ticketId =
      (w.store.rivalled w.clock id ticketId).mirror := by
  have hmirrors : w.store.Mirrors w.clock "" (.activeSession ticketId) :=
    mirrors_active h ticketId ""
  have hfind : w.store.mirror.activeSession ticketId w.clock =
      w.store.activeSession ticketId w.clock := by
    rw [activeSession, hmirrors, activeSession]
  rw [Store.rivalled, Store.rivalled, hfind]
  rcases hactive : w.store.activeSession ticketId w.clock with e | _ | s
  · rfl
  · rfl
  · exact congrArg Prod.snd (mirrors_found h hclock hactive id)

theorem mirror_interfere (h : w.WellKept) (hclock : w.store.Retains w.clock)
    (r : Helpdesk.Request) : w.mirror.interfere r = (w.interfere r).mirror := by
  cases r with
  | deliver t body =>
    simp only [interfere, show w.mirror.trouble = w.trouble from rfl]
    split
    · simp only [rivalSave_eq, mirror, mirror_rivalled h hclock]
    · rfl
  | ticket id | transfer t queue | persist t body | notify event payload | touch t time => rfl

theorem mirrors_desk (h : w.WellKept) (hclock : w.store.Retains w.clock) (r : Helpdesk.Request) :
    w.Mirrors (.desk r) := by
  have hinterfere :=
    mirror_interfere (w := { w with asked := w.asked + 1 }) (h.congr rfl rfl) hclock r
  simp only [mirror] at hinterfere
  simp only [Mirrors, answer, mirror, isOutside, Bool.true_and]
  split
  · rfl
  · simp only [perform, askDesk, hinterfere]

/-! ## What may be asked -/

/-- What may be asked in the course of a service: at a reception, by an editor, and by one who deletes
a flow without sessions. -/
inductive MayServe (w w₀ : World) (now : Moment) : Service.Request → Prop
  | reception {r : Service.Request} (may : w.May w₀ (fun _ => True) now r) : MayServe w w₀ now r
  | editor {r : Service.Request} (may : w.MayRevise w₀.flowIds now r) : MayServe w w₀ now r
  | deletion {id : String} (idle : ∀ s ∈ w.book.values, s.flowId ≠ id) :
    MayServe w w₀ now (.store (.deleteFlow id))

/-- A world on the way through a service whose clock shows a time that it keeps. -/
structure Served (w₀ : World) (now : Moment) (w : World) : Prop where
  within : Within w₀ (fun _ => True) w
  curated : w.Curated
  dated : w.store.Dated
  clock : w.clock = now
  retains : w.store.Retains now

namespace Served

theorem mirrors_may (h : Served w₀ now w) {r : Service.Request}
    (hmay : w.May w₀ (fun _ => True) now r) : w.Mirrors r := by
  have hkept := h.within.wellKept
  have hclock : w.store.Retains w.clock := h.clock ▸ h.retains
  cases r with
  | store r =>
    refine mirrors_store fun id => ?_
    cases r with
    | flows => exact mirrors_flows h.dated
    | activeFlows => exact mirrors_activeFlows h.dated
    | flow key => exact mirrors_flow key
    | session key => exact mirrors_session hkept.steady key
    | activeSession ticketId => exact mirrors_active hkept ticketId id
    | sessionsOf key => exact mirrors_sessionsOf hkept.steady key
    | openSession o =>
      obtain ⟨f, hf, hid⟩ := hmay.flow
      refine mirrors_openSession hclock ?_ (by rw [hmay.state]; exact State.storable_empty)
      rw [Entries.has, ← hid, show w.store.catalog.find? f.id = some f from h.curated.find?_of_mem hf]
      rfl
    | saveSession s =>
      obtain ⟨hhand, hsound⟩ := hmay
      obtain ⟨old, hold, hkin, -⟩ := hhand.record
      refine mirrors_saveSession hclock hold hkin hsound.storable fun time htime => ?_
      rcases hhand.times time htime with rfl | hretains
      · exact h.retains
      · exact fun hrows => hretains (h.within.make.symm.trans hrows)
    | record i =>
      obtain ⟨htime, hthere⟩ := hmay
      exact mirrors_record (by rw [htime]; exact h.retains) hthere
    | interactions | saveFlow | deleteFlow | demoteOthers => cases hmay
  | desk r => exact mirrors_desk hkept hclock r
  | log level text => rfl
  | newFlowId => cases hmay

theorem mirrors_revise (h : Served w₀ now w) {ids : Nat} {r : Service.Request}
    (hmay : w.MayRevise ids now r) : w.Mirrors r := by
  have hclock : w.store.Retains w.clock := h.clock ▸ h.retains
  cases r with
  | store r =>
    refine mirrors_store fun id => ?_
    cases r with
    | flows => exact mirrors_flows h.dated
    | flow key => exact mirrors_flow key
    | sessionsOf key => exact mirrors_sessionsOf h.within.wellKept.steady key
    | demoteOthers key => exact mirrors_demoteOthers key
    | saveFlow f =>
      obtain ⟨-, hupdated, hplaces⟩ := hmay
      refine mirrors_saveFlow hclock (hupdated.trans h.clock.symm) ?_
      cases hplaces with
      | new fresh issued created => exact .inl ⟨fresh, created.trans h.clock.symm⟩
      | old f' found created => exact .inr ⟨f', found, created⟩
    | _ => cases hmay
  | desk r => cases hmay
  | log level text | newFlowId => rfl

theorem editTerms_may {ids : Nat} {r : Service.Request} (hmay : w.MayRevise ids now r) :
    editTerms.may r := by
  cases r with
  | store r =>
    cases r with
    | openSession | saveSession => cases hmay
    | _ => trivial
  | desk r => cases hmay
  | log level text | newFlowId => trivial

theorem within_edit (h : Served w₀ now w) (hw₀ : w₀.WellKept) {r : Service.Request}
    (hmay : editTerms.may r) : Within w₀ (fun _ => True) (w.answer r).2 := by
  obtain ⟨hkept, hsince⟩ := edit_step (fun _ => True) h.within.wellKept hmay
  exact h.within.trans ⟨hkept, hsince, w.isRelational_answer r⟩ hw₀

/-- **Whatever may be asked is mirrored**, and the world is on the way still. -/
theorem answer (h : Served w₀ now w) (hw₀ : w₀.WellKept) {r : Service.Request}
    (hmay : w.MayServe w₀ now r) : w.Mirrors r ∧ Served w₀ now (w.answer r).2 := by
  have hdated : (w.answer r).2.store.Dated :=
    store_keeps (p := Store.Dated) (fun st now id r h => h.answer now id r) h.dated r
  have hclock : (w.answer r).2.clock = now := (w.answer_trouble r).2.trans h.clock
  have hretains : (w.answer r).2.store.Retains now :=
    fun hrows => h.retains ((w.isRelational_answer r).symm.trans hrows)
  cases hmay with
  | reception may =>
    exact ⟨h.mirrors_may may, h.within.answer hw₀ may, h.curated.spared (May.edits may), hdated,
      hclock, hretains⟩
  | editor may =>
    exact ⟨h.mirrors_revise may, h.within_edit hw₀ (editTerms_may may), h.curated.revised may,
      hdated, hclock, hretains⟩
  | deletion idle =>
    exact ⟨mirrors_store fun id => mirrors_deleteFlow idle, h.within_edit hw₀ trivial,
      h.curated.deleteFlow _, hdated, hclock, hretains⟩

end Served

end World

/-! ## Jobs -/

/-- A job all of whose requests are mirrored comes to the same in the mirror. -/
theorem Job.Behaves.mirror {α : Type} {may : World → Service.Request → Prop} {p : World → Prop}
    (hp : ∀ w r, p w → may w r → w.Mirrors r ∧ p (w.answer r).2) {j : Job α}
    {ok : α → World → Prop} {err : Failure → World → Prop} {w : World} (h : j.Behaves may ok err w)
    (hw : p w) : j.run w.mirror = ((j.run w).1, (j.run w).2.mirror) ∧ p (j.run w).2 := by
  induction j generalizing w with
  | done a | failed e => exact ⟨rfl, hw⟩
  | ask r next ih =>
    obtain ⟨hmirrors, hnext⟩ := hp w r hw h.1
    simp only [Job.run]
    rw [hmirrors]
    exact ih _ h.2 hnext

end FrontDesk
