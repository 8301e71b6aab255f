/-
Two worlds in step.

Two worlds are asked about a ticket, each under its own ids. A relation of their stores that lasts
whatever the stores are asked (`Store.Lasts`) then lasts in the worlds: where neither fails to
answer or both do, they give answers that differ in ids only, and are so related at the next stage
(`World.Paired.answer`). To be in step is such a relation (`World.InStep.answer`).
-/
import FrontDesk.Proofs.Service.Frame

namespace FrontDesk

open Calendar Service

/-! ## Requests and answers -/

/-- What may be asked about a ticket at a stage, of two worlds. -/
inductive Asks (ticketId : String) : Stage → Service.Request → Service.Request → Prop where
  | activeFlows {stage : Stage} :
    Asks ticketId stage (.store .activeFlows) (.store .activeFlows)
  | flow {stage : Stage} (id : String) :
    Asks ticketId stage (.store (.flow id)) (.store (.flow id))
  | activeSession :
    Asks ticketId .fresh (.store (.activeSession ticketId)) (.store (.activeSession ticketId))
  | openSession {o : Store.Opening} (ticket : o.ticketId = ticketId) :
    Asks ticketId .vacant (.store (.openSession o)) (.store (.openSession o))
  | saveSession {s : Session} {key' : String} (ticket : s.ticketId = ticketId) :
    Asks ticketId (.holding s.id key') (.store (.saveSession s))
      (.store (.saveSession { s with id := key' }))
  | record {i : Interaction} {key' : String} :
    Asks ticketId (.holding i.sessionId key') (.store (.record i))
      (.store (.record { i with sessionId := key' }))
  | desk {stage : Stage} {r : Helpdesk.Request} (concerns : r.Concerns ticketId) :
    Asks ticketId stage (.desk r) (.desk r)
  | notify {stage : Stage} {event : String} {payload payload' : Json} :
    Asks ticketId stage (.desk (.notify event payload)) (.desk (.notify event payload'))
  | log {stage : Stage} {level level' : Level} {text text' : String} :
    Asks ticketId stage (.log level text) (.log level' text')

/-- What two worlds answer, and the stage at which they are then. -/
inductive Gives (ticketId : String) : Stage → (r r' : Service.Request) → Stage →
    Except Failure r.Answer → Except Failure r'.Answer → Prop where
  | error {stage : Stage} {r r' : Service.Request} {e e' : Failure} :
    Gives ticketId stage r r' stage (.error e) (.error e')
  | activeFlows {stage : Stage} {fs : List Flow} :
    Gives ticketId stage (.store .activeFlows) (.store .activeFlows) stage (.ok fs) (.ok fs)
  | flow {stage : Stage} {id : String} {f? : Option Flow} :
    Gives ticketId stage (.store (.flow id)) (.store (.flow id)) stage (.ok f?) (.ok f?)
  | vacant :
    Gives ticketId .fresh (.store (.activeSession ticketId)) (.store (.activeSession ticketId))
      .vacant (.ok none) (.ok none)
  | found {s : Session} {key' : String} (ticket : s.ticketId = ticketId) :
    Gives ticketId .fresh (.store (.activeSession ticketId)) (.store (.activeSession ticketId))
      (.holding s.id key') (.ok (some s)) (.ok (some { s with id := key' }))
  | opened {o : Store.Opening} {s : Session} {key' : String} (ticket : s.ticketId = ticketId) :
    Gives ticketId .vacant (.store (.openSession o)) (.store (.openSession o))
      (.holding s.id key') (.ok s) (.ok { s with id := key' })
  | saved {s x : Session} {key' : String} (id : x.id = s.id) (ticket : x.ticketId = ticketId) :
    Gives ticketId (.holding s.id key') (.store (.saveSession s))
      (.store (.saveSession { s with id := key' })) (.holding s.id key') (.ok x)
      (.ok { x with id := key' })
  | recorded {i : Interaction} {key' : String} :
    Gives ticketId (.holding i.sessionId key') (.store (.record i))
      (.store (.record { i with sessionId := key' })) (.holding i.sessionId key') (.ok ()) (.ok ())
  | desk {stage : Stage} {r : Helpdesk.Request} {x x' : r.Answer} (like : r.Like x x') :
    Gives ticketId stage (.desk r) (.desk r) stage (.ok x) (.ok x')
  | notified {stage : Stage} {event : String} {payload payload' : Json} :
    Gives ticketId stage (.desk (.notify event payload)) (.desk (.notify event payload')) stage
      (.ok ()) (.ok ())
  | logged {stage : Stage} {level level' : Level} {text text' : String} :
    Gives ticketId stage (.log level text) (.log level' text') stage (.ok ()) (.ok ())

theorem Gives.both {ticketId : String} {stage stage' : Stage} {r r' : Service.Request}
    {x : Except Failure r.Answer} {x' : Except Failure r'.Answer}
    (h : Gives ticketId stage r r' stage' x x') :
    (∃ e e', stage' = stage ∧ x = .error e ∧ x' = .error e') ∨ ∃ a a', x = .ok a ∧ x' = .ok a' := by
  cases h with
  | error => exact .inl ⟨_, _, rfl, rfl, rfl⟩
  | _ => exact .inr ⟨_, _, rfl, rfl⟩

theorem Gives.of_record {ticketId : String} {stage stage' : Stage} {i i' : Interaction}
    {a a' : Unit}
    (h : Gives ticketId stage (.store (.record i)) (.store (.record i')) stage' (.ok a) (.ok a')) :
    stage' = stage := by
  cases h
  rfl

theorem Gives.of_saveSession {ticketId : String} {stage stage' : Stage} {s s' x x' : Session}
    (h : Gives ticketId stage (.store (.saveSession s)) (.store (.saveSession s')) stage' (.ok x)
      (.ok x')) :
    ∃ key', stage = .holding s.id key' ∧ stage' = .holding s.id key' ∧ x.id = s.id ∧
      x.ticketId = ticketId ∧ x' = { x with id := key' } := by
  cases h with
  | saved hid hticket => exact ⟨_, rfl, rfl, hid, hticket, rfl⟩

theorem Asks.isOutside {ticketId : String} {stage : Stage} {r r' : Service.Request}
    (h : Asks ticketId stage r r') : World.isOutside r' = World.isOutside r := by
  cases h <;> rfl

theorem Asks.concerns {ticketId : String} {stage : Stage} {r r' : Service.Request} {w v : World}
    (h : Asks ticketId stage r r')
    (hheld : ∀ key key', stage = .holding key key' →
      w.store.Holds ticketId w.clock key ∧ v.store.Holds ticketId v.clock key') :
    r.Concerns ticketId w ∧ r'.Concerns ticketId v := by
  cases h with
  | openSession ticket => exact ⟨ticket, ticket⟩
  | saveSession ticket => exact ⟨⟨ticket, (hheld _ _ rfl).1⟩, ticket, (hheld _ _ rfl).2⟩
  | record => exact hheld _ _ rfl
  | desk concerns => exact ⟨concerns, concerns⟩
  | activeFlows | flow | activeSession | notify | log => exact ⟨trivial, trivial⟩

/-! ## Relations of stores that last -/

/-- A relation of two stores that lasts while both are asked alike about a ticket. -/
structure Store.Lasts (ticketId : String) (now : Moment) (ρ : Stage → Store → Store → Prop) :
    Prop where
  bare : ∀ {stage : Stage} {st st' : Store}, ρ stage st st' → st'.bare = st.bare
  holds : ∀ {key key' : String} {st st' : Store}, ρ (.holding key key') st st' →
    st.Holds ticketId now key ∧ st'.Holds ticketId now key'
  activeSession : ∀ {st st' : Store}, ρ .fresh st st' →
    (∃ e e', st.activeSession ticketId now = .error e ∧ st'.activeSession ticketId now = .error e') ∨
      (st.activeSession ticketId now = .ok none ∧ st'.activeSession ticketId now = .ok none ∧
        ρ .vacant st st') ∨
      ∃ (s : Session) (key' : String), st.activeSession ticketId now = .ok (some s) ∧
        st'.activeSession ticketId now = .ok (some { s with id := key' }) ∧
        s.ticketId = ticketId ∧ ρ (.holding s.id key') st st'
  openSession : ∀ {st st' : Store} {o : Store.Opening} {id id' : String}, ρ .vacant st st' →
    o.ticketId = ticketId → st.Unused now id → st'.Unused now id' →
    (st.Declines now id (.openSession o) ∧ st'.Declines now id' (.openSession o)) ∨
      ∃ (s : Session) (st₁ st₁' : Store), s.ticketId = ticketId ∧
        st.answer now id (.openSession o) = (.ok s, st₁) ∧
        st'.answer now id' (.openSession o) = (.ok { s with id := id' }, st₁') ∧
        ρ (.holding s.id id') st₁ st₁'
  saveSession : ∀ {st st' : Store} {s : Session} {key' : String} (id id' : String),
    ρ (.holding s.id key') st st' → s.ticketId = ticketId →
    (st.Declines now id (.saveSession s) ∧
        st'.Declines now id' (.saveSession { s with id := key' })) ∨
      ∃ (x : Session) (st₁ st₁' : Store), x.id = s.id ∧ x.ticketId = ticketId ∧
        st.answer now id (.saveSession s) = (.ok x, st₁) ∧
        st'.answer now id' (.saveSession { s with id := key' }) =
          (.ok { x with id := key' }, st₁') ∧
        ρ (.holding s.id key') st₁ st₁'
  record : ∀ {st st' : Store} {i : Interaction} {key' : String} (id id' : String),
    ρ (.holding i.sessionId key') st st' →
    (st.Declines now id (.record i) ∧
        st'.Declines now id' (.record { i with sessionId := key' })) ∨
      ∃ st₁ st₁' : Store, st.answer now id (.record i) = (.ok (), st₁) ∧
        st'.answer now id' (.record { i with sessionId := key' }) = (.ok (), st₁') ∧
        ρ (.holding i.sessionId key') st₁ st₁'
  rivalled : ∀ {stage : Stage} {st st' : Store} (id id' : String), ρ stage st st' →
    ρ stage (st.rivalled now id ticketId) (st'.rivalled now id' ticketId)

theorem Store.Lasts.answer {ticketId : String} {now : Moment} {ρ : Stage → Store → Store → Prop}
    (hρ : Store.Lasts ticketId now ρ) {stage : Stage} {st st' : Store} (h : ρ stage st st')
    {r r' : Store.Request} (hask : Asks ticketId stage (.store r) (.store r')) {id id' : String}
    (hid : r.takes id = some id → st.Unused now id)
    (hid' : r'.takes id' = some id' → st'.Unused now id') :
    ∃ stage', ρ stage' (st.answer now id r).2 (st'.answer now id' r').2 ∧
      Gives ticketId stage (.store r) (.store r') stage'
        ((st.answer now id r).1.mapError .store) ((st'.answer now id' r').1.mapError .store) := by
  cases hask with
  | activeFlows =>
    rw [Store.answer_activeFlows, Store.answer_activeFlows, Store.activeFlows_eq (hρ.bare h)]
    refine ⟨stage, h, ?_⟩
    cases st.activeFlows with
    | error e => exact .error
    | ok fs => exact .activeFlows
  | flow key =>
    rw [Store.answer_flow, Store.answer_flow, Store.flow?_eq (hρ.bare h)]
    exact ⟨stage, h, .flow⟩
  | activeSession =>
    rw [Store.answer_activeSession_eq, Store.answer_activeSession_eq]
    rcases hρ.activeSession h with
      ⟨e, e', herror, herror'⟩ | ⟨hnone, hnone', hvacant⟩ | ⟨s, key', hs, hs', hticket, hholding⟩
    · rw [herror, herror']
      exact ⟨.fresh, h, .error⟩
    · rw [hnone, hnone']
      exact ⟨.vacant, hvacant, .vacant⟩
    · rw [hs, hs']
      exact ⟨.holding s.id key', hholding, .found hticket⟩
  | openSession hticket =>
    rcases hρ.openSession h hticket (hid rfl) (hid' rfl) with
      ⟨⟨e, herror⟩, e', herror'⟩ | ⟨s, st₁, st₁', hs, hanswer, hanswer', hholding⟩
    · rw [herror, herror']
      exact ⟨.vacant, h, .error⟩
    · rw [hanswer, hanswer']
      exact ⟨_, hholding, .opened hs⟩
  | saveSession hticket =>
    rcases hρ.saveSession id id' h hticket with
      ⟨⟨e, herror⟩, e', herror'⟩ | ⟨x, st₁, st₁', hx, hxticket, hanswer, hanswer', hholding⟩
    · rw [herror, herror']
      exact ⟨_, h, .error⟩
    · rw [hanswer, hanswer']
      exact ⟨_, hholding, .saved hx hxticket⟩
  | record =>
    rcases hρ.record id id' h with
      ⟨⟨e, herror⟩, e', herror'⟩ | ⟨st₁, st₁', hanswer, hanswer', hholding⟩
    · rw [herror, herror']
      exact ⟨_, h, .error⟩
    · rw [hanswer, hanswer']
      exact ⟨_, hholding, .recorded⟩

/-! ## Relations of worlds -/

namespace World

/-- Two worlds whose stores are related have the same done about a ticket, and the same goes wrong
around them, requests that fail apart. -/
structure Paired (ρ : Stage → Store → Store → Prop) (ticketId : String) (stage : Stage)
    (w v : World) : Prop where
  orderly : w.Orderly
  orderly' : v.Orderly
  clock : v.clock = w.clock
  rivals : v.trouble.rivalSaves = w.trouble.rivalSaves
  withheld : v.trouble.recordsWithheld = w.trouble.recordsWithheld
  store : ρ stage w.store v.store
  desk : v.desk.file ticketId = w.desk.file ticketId

namespace Paired

variable {ρ : Stage → Store → Store → Prop} {w v : World} {ticketId : String}
  {stage stage' : Stage}

theorem asked (h : Paired ρ ticketId stage w v) (n n' : Nat) (logs logs' : List (Level × String)) :
    Paired ρ ticketId stage { w with asked := n, logs } { v with asked := n', logs := logs' } :=
  ⟨h.orderly.asked n logs, h.orderly'.asked n' logs', h.clock, h.rivals, h.withheld, h.store, h.desk⟩

theorem held (h : Paired ρ ticketId stage w v) (hρ : Store.Lasts ticketId w.clock ρ)
    (key key' : String) (hstage : stage = .holding key key') :
    w.store.Holds ticketId w.clock key ∧ v.store.Holds ticketId v.clock key' := by
  subst hstage
  rw [h.clock]
  exact hρ.holds h.store

theorem askStore (h : Paired ρ ticketId stage w v) (hρ : Store.Lasts ticketId w.clock ρ)
    {r r' : Store.Request} (hask : Asks ticketId stage (.store r) (.store r')) :
    ∃ stage', Paired ρ ticketId stage' (w.askStore r).2 (v.askStore r').2 ∧
      Gives ticketId stage (.store r) (.store r') stage' ((w.askStore r).1.mapError .store)
        ((v.askStore r').1.mapError .store) := by
  obtain ⟨hconcerns, hconcerns'⟩ := hask.concerns (h.held hρ)
  have horderly := (h.orderly.askStore hconcerns).2
  have horderly' := (h.orderly'.askStore hconcerns').2
  have hfresh' := h.orderly'.fresh (r := r')
  rw [h.clock] at hfresh'
  obtain ⟨stage', hstore, hgives⟩ := hρ.answer h.store hask h.orderly.fresh hfresh'
  have hanswer : v.store.answer w.clock = v.store.answer v.clock := by rw [h.clock]
  rw [hanswer] at hstore hgives
  exact ⟨stage', ⟨horderly, horderly', h.clock, h.rivals, h.withheld, hstore, h.desk⟩, hgives⟩

theorem rivalSave (h : Paired ρ ticketId stage w v) (hρ : Store.Lasts ticketId w.clock ρ) :
    Paired ρ ticketId stage (w.rivalSave ticketId) (v.rivalSave ticketId) := by
  have horderly := (h.orderly.rivalSave ticketId).2
  have horderly' := (h.orderly'.rivalSave ticketId).2
  rw [rivalSave_eq] at horderly horderly' ⊢
  rw [rivalSave_eq]
  refine ⟨horderly, horderly', h.clock, h.rivals, h.withheld, ?_, h.desk⟩
  rw [h.clock]
  exact hρ.rivalled _ _ h.store

theorem interfere (h : Paired ρ ticketId stage w v) (hρ : Store.Lasts ticketId w.clock ρ)
    {r : Helpdesk.Request} (hr : r.Concerns ticketId) :
    Paired ρ ticketId stage (w.interfere r) (v.interfere r) := by
  cases r with
  | deliver t body =>
    cases hr
    simp only [World.interfere, h.rivals]
    split
    · exact h.rivalSave hρ
    · exact h
  | ticket | transfer | persist | notify | touch => exact h

theorem like_withhold {r : Helpdesk.Request} {x x' : r.Answer} (h : r.Like x x') :
    r.Like (withhold r x) (withhold r x') := by
  cases r with
  | persist => exact .inl rfl
  | ticket | transfer | deliver | notify | touch => exact h

theorem askDesk (h : Paired ρ ticketId stage w v) (hρ : Store.Lasts ticketId w.clock ρ)
    {r : Helpdesk.Request} (hr : r.Concerns ticketId) :
    Paired ρ ticketId stage (w.askDesk r).2 (v.askDesk r).2 ∧
      r.Like (w.askDesk r).1 (v.askDesk r).1 := by
  have horderly := (h.orderly.askDesk hr).2
  have horderly' := (h.orderly'.askDesk hr).2
  have hmeanwhile := h.interfere hρ hr
  simp only [World.askDesk] at horderly horderly' ⊢
  generalize w.interfere r = w₁ at hmeanwhile horderly
  generalize v.interfere r = v₁ at hmeanwhile horderly'
  have hlike (id id' : String) : r.Like (w₁.desk.answer id r).1 (v₁.desk.answer id' r).1 :=
    Helpdesk.Desk.like_answer id id' hmeanwhile.orderly.filed hr hmeanwhile.desk
  refine ⟨⟨horderly, horderly', hmeanwhile.clock, hmeanwhile.rivals, hmeanwhile.withheld,
    hmeanwhile.store, Helpdesk.Desk.file_answer hr hmeanwhile.desk⟩, ?_⟩
  rw [hmeanwhile.withheld]
  split
  · exact like_withhold (hlike _ _)
  · exact hlike _ _

/-- **Both worlds are asked**, and both fail to answer or neither does. -/
theorem answer (h : Paired ρ ticketId stage w v) (hρ : Store.Lasts ticketId w.clock ρ)
    {r r' : Service.Request} (hask : Asks ticketId stage r r') (hfails : w.fails r = v.fails r') :
    w.Regards ticketId (w.answer r).2 ∧ ∃ stage',
      Paired ρ ticketId stage' (w.answer r).2 (v.answer r').2 ∧
      Gives ticketId stage r r' stage' (w.answer r).1 (v.answer r').1 := by
  refine ⟨(h.orderly.answer (hask.concerns (h.held hρ)).1).1, ?_⟩
  have hasked := h.asked (w.asked + 1) (v.asked + 1) w.logs v.logs
  rw [answer_eq, answer_eq, ← hfails]
  split
  · exact ⟨stage, hasked, .error⟩
  cases hask with
  | activeFlows => exact hasked.askStore hρ .activeFlows
  | flow id => exact hasked.askStore hρ (.flow id)
  | activeSession => exact hasked.askStore hρ .activeSession
  | openSession hticket => exact hasked.askStore hρ (.openSession hticket)
  | saveSession hticket => exact hasked.askStore hρ (.saveSession hticket)
  | record => exact hasked.askStore hρ .record
  | desk hr =>
    obtain ⟨hthen, hlike⟩ := hasked.askDesk hρ hr
    exact ⟨stage, hthen, .desk hlike⟩
  | notify =>
    -- no file has what listeners are told
    obtain ⟨ho, ho', hclock, hrivals, hwithheld, hst, hdesk⟩ := hasked
    exact ⟨stage, ⟨⟨ho.tidy, ho.unused, ho.filed⟩, ⟨ho'.tidy, ho'.unused, ho'.filed⟩, hclock,
      hrivals, hwithheld, hst, hdesk⟩, by
        simp only [perform, World.askDesk]
        exact .notified⟩
  | log => exact ⟨stage, h.asked _ _ _ _, .logged⟩

end Paired

end World

/-! ## In step -/

theorem Store.InStep.lasts (ticketId : String) (now : Moment) :
    Store.Lasts ticketId now (Store.InStep ticketId now) where
  bare h := h.bare
  holds h := by
    obtain ⟨n, hn, -⟩ := h.fits
    obtain ⟨s, trail, -, hticket, hfind, hfind', -⟩ := h.matched.places hn
    exact ⟨⟨s, hfind, hticket⟩, _, hfind', hticket⟩
  activeSession h := by
    rcases h.activeSession with hnone | ⟨s, key', n, hs, hs', hticket, -, -, -, hstep⟩
    · exact .inr (.inl hnone)
    · exact .inr (.inr ⟨s, key', hs, hs', hticket, hstep⟩)
  openSession h hticket hid hid' := h.openSession hticket hid hid'
  saveSession id id' h hticket := h.saveSession hticket id id'
  record id id' h := h.record id id'
  rivalled id id' h := h.rivalled id id'

/-- **Both worlds are asked**, and both fail to answer or neither does. -/
theorem World.InStep.answer {w v : World} {ticketId : String} {stage : Stage}
    (h : World.InStep ticketId stage w v) {r r' : Service.Request} (hask : Asks ticketId stage r r')
    (hfails : w.fails r = v.fails r') :
    w.Turns ticketId (w.answer r).2 ∧ ∃ stage',
      World.InStep ticketId stage' (w.answer r).2 (v.answer r').2 ∧
      Gives ticketId stage r r' stage' (w.answer r).1 (v.answer r').1 := by
  obtain ⟨orderly, orderly', clock, rivals, withheld, store, desk⟩ := h
  have hpaired : World.Paired (Store.InStep ticketId w.clock) ticketId stage w v :=
    ⟨orderly, orderly', clock, rivals, withheld, store, desk⟩
  obtain ⟨hregards, stage', ⟨orderly, orderly', clock, rivals, withheld, store, desk⟩, hgives⟩ :=
    hpaired.answer (Store.InStep.lasts ticketId w.clock) hask hfails
  rw [← hregards.clock] at store
  exact ⟨hregards.turns, stage', ⟨orderly, orderly', clock, rivals, withheld, store, desk⟩, hgives⟩

end FrontDesk
