/-
Flows that are created at once, and flows that are created in two steps.

A draft is read by two jobs: one creates a flow of it, the other updates a flow with it. Where
nothing fails (`World.Serves`), to create a flow of the bare part of a draft and then update it with
the whole comes to the flow that is created of the draft at once, but for a flag that is null
(`World.created_in_steps`).
-/
import FrontDesk.Proofs.Service.Patch

namespace FrontDesk

open Calendar Service Store

namespace Store

variable {st : Store} {now : Moment} {id : String}

theorem canKeep_answer {time : Moment} (h : st.CanKeep time) (now : Moment) (id : String)
    (r : Store.Request) : (st.answer now id r).2.CanKeep time := by
  cases st with
  | memory m => trivial
  | relational t => exact h

/-- A flow is saved if the times that are written can be kept. -/
theorem saveFlow_ok {f : Flow} (hnow : st.CanKeep now)
    (hnew : st.catalog.find? f.id = none → st.CanKeep f.createdAt ∧ st.CanKeep f.updatedAt) :
    ∃ saved, (st.answer now id (.saveFlow f)).1 = .ok saved := by
  cases st with
  | memory m => exact ⟨f, rfl⟩
  | relational t =>
    have hrow : ∃ row, t.flowRow now f = .ok row := by
      cases hfind : t.flows.find? f.id with
      | some old =>
        obtain ⟨time, htime⟩ := hnow
        exact ⟨{ f with createdAt := old.createdAt, updatedAt := time },
          by simp [Relational.flowRow, hfind, htime, bind, Except.bind, pure, Except.pure]⟩
      | none =>
        obtain ⟨⟨createdAt, hcreated⟩, updatedAt, hupdated⟩ := hnew hfind
        exact ⟨{ f with createdAt, updatedAt },
          by simp [Relational.flowRow, hfind, hcreated, hupdated, bind, Except.bind, pure,
            Except.pure]⟩
    obtain ⟨row, hrow⟩ := hrow
    exact ⟨row, by simp [answer, Relational.answer, Relational.saveFlow, hrow]⟩

end Store

/-! ## Where nothing fails -/

namespace World

variable {w : World}

/-- Nothing fails, and the store can keep its own time. -/
structure Serves (w : World) : Prop where
  calm : w.trouble.Calm
  keeps : w.store.CanKeep w.clock

theorem canKeep_answer {time : Moment} (h : w.store.CanKeep time) (r : Service.Request) :
    (w.answer r).2.store.CanKeep time :=
  store_keeps (p := fun st => st.CanKeep time)
    (fun _ now id r h => Store.canKeep_answer h now id r) h r

theorem canKeep_run {α : Type} {time : Moment} (h : w.store.CanKeep time) (j : Job α) :
    (j.run w).2.store.CanKeep time := by
  induction j generalizing w with
  | done a | failed e => exact h
  | ask r next ih => exact ih _ (canKeep_answer h r)

namespace Serves

theorem answer (h : w.Serves) (r : Service.Request) : (w.answer r).2.Serves := by
  obtain ⟨htrouble, hclock⟩ := w.answer_trouble r
  refine ⟨?_, ?_⟩
  · rw [htrouble]
    exact h.calm
  · rw [hclock]
    exact canKeep_answer h.keeps r

theorem answer_store (h : w.Serves) (r : Store.Request) :
    ∃ id, (w.answer (.store r)).1 = (w.store.answer w.clock id r).1.mapError .store := by
  rcases w.answer_store r with ⟨-, -, hfails⟩ | ⟨id, hx, -⟩
  · rw [h.calm.answers] at hfails
    cases hfails
  · exact ⟨id, hx⟩

theorem answer_flow (h : w.Serves) (id : String) :
    (w.answer (.store (.flow id))).1 = .ok (w.catalog.find? id) := by
  obtain ⟨fresh, hx⟩ := h.answer_store (.flow id)
  rw [hx, Store.answer_flow, flow?_eq_catalog]
  rfl

theorem saveFlow_ok (h : w.Serves) {f : Flow}
    (hnew : w.catalog.find? f.id = none →
      w.store.CanKeep f.createdAt ∧ w.store.CanKeep f.updatedAt) (e : Failure) :
    (w.answer (.store (.saveFlow f))).1 ≠ .error e := by
  obtain ⟨fresh, hx⟩ := h.answer_store (.saveFlow f)
  obtain ⟨saved, hsaved⟩ : ∃ saved, (w.store.answer w.clock fresh (.saveFlow f)).1 = .ok saved :=
    Store.saveFlow_ok h.keeps hnew
  rw [hx, hsaved]
  nofun

end Serves

end World

namespace Editing

variable {w : World} {d : Draft} {f g : Flow} {now : Moment} {make : String → Moment → Flow}

/-- What is returned of a save is what was given, but for the times. -/
theorem save_returns :
    (save f).Behaves anyRequest
      (fun saved _ => ∃ createdAt updatedAt, saved = { f with createdAt, updatedAt })
      (fun _ _ => True) w := by
  unfold save
  refine .bind (m := fun saved _ => ∃ createdAt updatedAt, saved = { f with createdAt, updatedAt })
    (.request trivial (fun _ hsaved => (World.ok_saveFlow hsaved).1) fun _ _ => trivial)
    fun saved w' hsaved => ?_
  split
  · exact .bind (m := fun _ _ => True) (.request trivial (fun _ _ => trivial) fun _ _ => trivial)
      fun _ _ _ => .pure hsaved
  · exact .pure hsaved

theorem create_makes :
    (create now d).Behaves anyRequest
      (fun f _ => ∃ make id createdAt updatedAt, d.create = .ok make ∧
        f = { make id now with createdAt, updatedAt })
      (fun _ _ => True) w := by
  unfold create
  refine .bind (m := fun make _ => d.create = .ok make)
    (.ofExcept (fun _ hmake => hmake) fun _ _ => trivial) fun make w' hmake => ?_
  refine .bind (m := fun _ _ => True) (.request trivial (fun _ _ => trivial) fun _ _ => trivial)
    fun id w' _ => ?_
  refine .bind save_returns fun saved w' hsaved => ?_
  obtain ⟨createdAt, updatedAt, hsaved⟩ := hsaved
  exact .bind (World.log_behaves _ _ _) fun _ _ _ =>
    .pure ⟨make, id, createdAt, updatedAt, hmake, hsaved⟩

theorem log_serves (hw : w.Serves) (level : Level) (text : String) :
    (Job.log level text).Behaves anyRequest
      (fun _ w' => w'.catalog = w.catalog ∧ w'.Serves) (fun _ _ => False) w := by
  refine .request trivial (fun _ _ => ⟨World.catalog_answer rfl, hw.answer _⟩) fun e he => ?_
  rw [World.answer_log] at he
  cases he

/-- A flow that is not primary is saved, and found then. -/
theorem save_serves (hw : w.Serves) (hprimary : f.isPrimary = false)
    (hnew : w.catalog.find? f.id = none →
      w.store.CanKeep f.createdAt ∧ w.store.CanKeep f.updatedAt) :
    (save f).Behaves anyRequest
      (fun saved w' => (∃ createdAt updatedAt, saved = { f with createdAt, updatedAt }) ∧
        w'.catalog.find? saved.id = some saved ∧ w'.Serves)
      (fun _ _ => False) w := by
  unfold save
  refine .bind (m := fun saved w' => (∃ createdAt updatedAt,
      saved = { f with createdAt, updatedAt }) ∧ w'.catalog.find? saved.id = some saved ∧ w'.Serves)
    (.request trivial (fun saved hsaved => ?_) fun e he => hw.saveFlow_ok hnew e he)
    fun saved w' hsaved => ?_
  · obtain ⟨⟨createdAt, updatedAt, rfl⟩, hput, -⟩ := World.ok_saveFlow hsaved
    refine ⟨⟨createdAt, updatedAt, rfl⟩, ?_, hw.answer _⟩
    rw [hput, Entries.find?_put, if_pos rfl]
  · have hsame : saved.isPrimary = false := by
      obtain ⟨⟨createdAt, updatedAt, rfl⟩, -⟩ := hsaved
      exact hprimary
    rw [if_neg (by simp [hsame])]
    exact .pure hsaved

theorem create_serves (hw : w.Serves) (hnow : w.store.CanKeep now) (hmake : d.create = .ok make)
    (hprimary : ∀ id, (make id now).isPrimary = false) :
    (create now d).Behaves anyRequest
      (fun g w' => (∃ id createdAt updatedAt, g = { make id now with createdAt, updatedAt }) ∧
        w'.catalog.find? g.id = some g ∧ w'.Serves)
      (fun _ _ => False) w := by
  have htimes (id : String) : (make id now).createdAt = now ∧ (make id now).updatedAt = now := by
    obtain ⟨name, entryNode, definition, -, -, -, rfl⟩ := Draft.create_eq_ok hmake
    exact ⟨rfl, rfl⟩
  unfold create
  rw [hmake]
  refine .bind (m := fun make' w' => make' = make ∧ w' = w) (.pure ⟨rfl, rfl⟩) fun make' w' h => ?_
  obtain ⟨rfl, rfl⟩ := h
  refine .bind (m := fun _ w'' => w''.Serves ∧ w''.store.CanKeep now)
    (.request trivial (fun _ _ => ⟨hw.answer _, World.canKeep_answer hnow _⟩) fun e he => ?_)
    fun id w'' hserves => ?_
  · rw [World.answer_calm hw.calm] at he
    cases he
  refine .bind (save_serves hserves.1 (hprimary id) fun _ => ?_) fun saved v hsaved => ?_
  · rw [(htimes id).1, (htimes id).2]
    exact ⟨hserves.2, hserves.2⟩
  obtain ⟨⟨createdAt, updatedAt, hsame⟩, hfound, hv⟩ := hsaved
  refine .bind (log_serves hv _ _) fun _ v' hv' =>
    .pure ⟨⟨id, createdAt, updatedAt, hsame⟩, ?_, hv'.2⟩
  rw [hv'.1]
  exact hfound

theorem update_serves (hw : w.Serves) (hfind : w.catalog.find? g.id = some g)
    (hupdate : d.update g now = .ok f) (hprimary : f.isPrimary = false) :
    (update now g.id d).Behaves anyRequest
      (fun f' _ => ∃ createdAt updatedAt, f' = { f with createdAt, updatedAt })
      (fun _ _ => False) w := by
  unfold update
  refine .bind (m := fun f' w' => f' = g ∧ w'.catalog = w.catalog ∧ w'.Serves) ?_
    fun existing w' h => ?_
  · unfold get
    refine .bind (m := fun f? w' => f? = some g ∧ w'.catalog = w.catalog ∧ w'.Serves)
      (.request trivial (fun f? hf? => ?_) fun e he => ?_) fun f? w' h => ?_
    · rw [hw.answer_flow, hfind] at hf?
      exact ⟨(Except.ok.inj hf?).symm, World.catalog_answer rfl, hw.answer _⟩
    · rw [hw.answer_flow] at he
      cases he
    · obtain ⟨rfl, hserves⟩ := h
      exact .pure ⟨rfl, hserves⟩
  obtain ⟨rfl, hcatalog, hserves⟩ := h
  rw [hupdate]
  refine .bind (m := fun f' w'' => f' = f ∧ w'' = w') (.pure ⟨rfl, rfl⟩) fun f' w'' h => ?_
  obtain ⟨rfl, rfl⟩ := h
  refine .bind (save_serves hserves hprimary fun hnone => ?_) fun saved v hsaved => ?_
  · -- it is there
    rw [(Draft.update_rank hupdate).1, hcatalog, hfind] at hnone
    cases hnone
  · exact .bind (log_serves hsaved.2.2 _ _) fun _ _ _ => .pure hsaved.1

end Editing

/-- **To create a flow in two steps comes to the flow that is created at once, but for a flag that
is null.** Let a draft that says nothing of the rank of its flow create one. In a world where
nothing fails, and whose store can keep the times, let a flow be created of the name, the entry node
and the definition of the draft, and then be updated with all of it. Both calls succeed, and what
comes of them is the flow that was created of the draft, with another id and other times. But where
the draft says null of whether the flow is active, it is active if it is created of the draft, and
not active if it is updated with it. -/
theorem World.created_in_steps {w v : World} {d : Draft} {f : Flow}
    {clock now clock₁ now₁ clock₂ : Moment} (now₂ : Moment) (hrank : d.isPrimary = none)
    (hcreated : (w.call { clock, now, call := .created d }).1 = .ok (.flow f))
    (hcalm : v.trouble.Calm) (hkeeps : ∀ time ∈ [clock₁, now₁, clock₂], v.store.CanKeep time) :
    let bare : TimedCall := { clock := clock₁, now := now₁, call := .created d.bare }
    ∃ g f', (v.call bare).1 = .ok (.flow g) ∧
      ((v.call bare).2.call { clock := clock₂, now := now₂, call := .updated g.id d }).1 =
        .ok (.flow f') ∧
      f' =
        { f with
          id := g.id, createdAt := f'.createdAt, updatedAt := f'.updatedAt
          isActive := if d.isActive = some none then false else f.isActive } ∧
      (d.isActive = some none → f.isActive = true) := by
  intro bare
  -- the draft makes the flow that is created of it
  obtain ⟨_, hmade, ⟨⟩⟩ := Job.run_map_ok hcreated
  obtain ⟨make, id, createdAt, updatedAt, hmake, rfl⟩ :=
    Editing.create_makes.run.1 f (congrArg Prod.fst hmade)
  obtain ⟨least, hleast, hflags, hupdates⟩ := Draft.update_bare hmake hrank
  -- the bare part makes a flow
  have hserves : ({ v with clock := clock₁ } : World).Serves := ⟨hcalm, hkeeps clock₁ (by simp)⟩
  obtain ⟨g, hg, hleast', hfound, hserves'⟩ :=
    (Editing.create_serves hserves (hkeeps now₁ (by simp)) hleast
      fun id => (hflags id now₁).1).succeeds
  have hcall : v.call bare = (.ok (.flow g),
      ((Editing.create now₁ d.bare).run { v with clock := clock₁ }).2) := by
    rw [call, Editing.Call.job, Job.run_map, hg]
    rfl
  -- and the draft makes the other one of that
  have hupdate : d.update g now₂ =
      .ok
        { make id now with
          id := g.id, createdAt := g.createdAt, updatedAt := now₂
          isActive := if d.isActive = some none then false else (make id now).isActive } := by
    obtain ⟨id', createdAt', updatedAt', rfl⟩ := hleast'
    exact hupdates id' now₁ createdAt' updatedAt' id now now₂
  have hserves₂ : ({ (v.call bare).2 with clock := clock₂ } : World).Serves := by
    rw [hcall]
    exact ⟨hserves'.calm, canKeep_run (w := { v with clock := clock₁ }) (hkeeps clock₂ (by simp)) _⟩
  obtain ⟨f', hf', createdAt₂, updatedAt₂, hsame⟩ :=
    (Editing.update_serves hserves₂ (by rw [hcall]; exact hfound) hupdate
      (hflags id now).2.1).succeeds
  refine ⟨g, f', by rw [hcall], ?_, by rw [hsame], (hflags id now).2.2⟩
  rw [call, Editing.Call.job, Job.run_map, hf']
  rfl

/-- The flow that is returned. -/
def Reply.flow? : Reply → Option Flow
  | .flow f => some f
  | _ => none

/-- A draft that says more than a flow needs. -/
def Draft.detailed : Draft where
  name := Draft.greeter.name
  entryNode := Draft.greeter.entryNode
  definition := Draft.greeter.definition
  description := some (some " Says hello ")
  isActive := some (some false)
  trigger := some (some .default)
  keywords := some (some [.string " hi ", .null])
  offlineMessage := some none
  transferQueue := some (some " ")

/-- A world with no flows in it, whose store is one of rows. -/
def rowless : World := { flowless with store := .relational {} }

/-- The flow that is created of it in memory is had from rows in two steps. -/
theorem detailed_in_steps :
    Draft.detailed.isPrimary = none ∧ rowless.trouble.Calm ∧
      ∃ f g f',
        (flowless.call { clock := .utc 0, now := .utc 0, call := .created .detailed }).1 =
          .ok (.flow f) ∧
        (rowless.call { clock := .utc 1, now := .utc 1, call := .created Draft.detailed.bare }).1 =
          .ok (.flow g) ∧
        ((rowless.call
            { clock := .utc 1, now := .utc 1, call := .created Draft.detailed.bare }).2.call
            { clock := .utc 2, now := .utc 2, call := .updated g.id .detailed }).1 =
          .ok (.flow f') ∧
        f' = { f with id := g.id, createdAt := f'.createdAt, updatedAt := f'.updatedAt } := by
  have hcalm : rowless.trouble.Calm := ⟨fun _ _ => rfl, rfl⟩
  have hkeeps : ∀ time ∈ [Moment.utc 1, Moment.utc 1, Moment.utc 2],
      rowless.store.CanKeep time := by
    intro time htime
    obtain rfl | rfl : time = .utc 1 ∨ time = .utc 2 := by simpa using htime
    · exact ⟨.utc 1, rfl⟩
    · exact ⟨.utc 2, rfl⟩
  have hmade : ((flowless.call
      { clock := .utc 0, now := .utc 0, call := .created .detailed }).1.toOption.bind
        Reply.flow?).isSome = true := by
    decide +kernel
  refine ⟨rfl, hcalm, ?_⟩
  cases hcreated : (flowless.call
      { clock := .utc 0, now := .utc 0, call := .created .detailed }).1 with
  | error e =>
    rw [hcreated] at hmade
    cases hmade
  | ok reply =>
    cases reply with
    | gone | listing fs | report r =>
      rw [hcreated] at hmade
      cases hmade
    | flow f =>
      obtain ⟨g, f', hg, hf', hsame, -⟩ :=
        World.created_in_steps (v := rowless) (.utc 2) rfl hcreated hcalm hkeeps
      exact ⟨f, g, f', rfl, hg, hf', hsame⟩

/-- A draft with null for whether its flow is active. -/
def Draft.undecided : Draft := { Draft.greeter with isActive := some none }

/-- The flow that is created of it is active, and the one that is created in two steps is not. -/
theorem undecided_in_steps :
    ((flowless.call
        { clock := .utc 0, now := .utc 0, call := .created .undecided }).1.toOption.bind
        Reply.flow?).map (fun f => (f.id, f.isActive)) = some ("flow-1", true) ∧
      ((flowless.call
        { clock := .utc 0, now := .utc 0, call := .created Draft.undecided.bare }).1.toOption.bind
        Reply.flow?).map (fun f => (f.id, f.isActive)) = some ("flow-1", true) ∧
      (((flowless.call
        { clock := .utc 0, now := .utc 0, call := .created Draft.undecided.bare }).2.call
        { clock := .utc 1, now := .utc 1, call := .updated "flow-1" .undecided }).1.toOption.bind
        Reply.flow?).map (fun f => (f.id, f.isActive)) = some ("flow-1", false) := by
  decide +kernel

end FrontDesk
