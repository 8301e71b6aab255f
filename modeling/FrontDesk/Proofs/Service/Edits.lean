/-
What edits make of the catalog.

A property of flows that outlives new times and a demotion holds throughout the catalog if edits
save only flows that have it (`flowTerms`, `World.answer_holds`). So it is with the trigger of
primary flows: a primary flow is started by default, unless an edit made it primary and said
nothing of its trigger (`World.edited_trigger`). Then it keeps the one it had
(`promoted_keyword`).
-/
import FrontDesk.Proofs.Conversation.Record
import FrontDesk.Proofs.Service.Terms
import FrontDesk.Proofs.Store.Catalog
import FrontDesk.Service.Editing

namespace FrontDesk

open Calendar Service Store

/-! ## Calls -/

/-- A call that edits the catalog. -/
inductive Edit where
  | created (now : Moment) (d : Draft)
  | updated (now : Moment) (id : String) (d : Draft)
  | deleted (id : String)

/-- What is done at a call. The result is the flow that was stored, if one was. -/
def Edit.job : Edit → Job (Option Flow)
  | created now d => some <$> Editing.create now d
  | updated now id d => some <$> Editing.update now id d
  | deleted id => (fun _ => none) <$> Editing.delete id

/-- The world after some calls, one after another. -/
def World.edited (w : World) (es : List Edit) : World := es.foldl (fun w e => (e.job.run w).2) w

/-! ## A property of all flows -/

/-- A property of flows that outlives new times and a demotion. -/
structure Flow.Lasting (p : Flow → Prop) : Prop where
  redated : ∀ {f} createdAt updatedAt, p f → p { f with createdAt, updatedAt }
  demoted : ∀ {f}, p f → p f.demoted

/-- The terms under which all flows have a property: those that are saved have it, and so have those
that are looked up. -/
def flowTerms (p : Flow → Prop) : Terms where
  may
    | .store (.saveFlow f) => p f
    | _ => True
  gives
    | .store (.flow id), f? => ∀ f, f? = some f → p f ∧ f.id = id
    | _, _ => True

/-- All flows of a catalog have a property, and stand under their ids. -/
def Entries.Holds (p : Flow → Prop) (es : Entries Flow) : Prop := ∀ e ∈ es, p e.2 ∧ e.2.id = e.1

namespace Entries.Holds

variable {p : Flow → Prop} {es : Entries Flow}

theorem put (h : Holds p es) {f : Flow} (hf : p f) : Holds p (es.put f.id f) := by
  intro e he
  rcases mem_put he with he | rfl
  · exact h e he
  · exact ⟨hf, rfl⟩

theorem demotedBut (hp : Flow.Lasting p) (h : Holds p es) (key : String) :
    Holds p (Store.demotedBut key es) := by
  intro e he
  obtain ⟨⟨k, f⟩, hmem, rfl⟩ := List.mem_map.1 he
  obtain ⟨hf, hid⟩ := h (k, f) hmem
  simp only
  split
  · exact ⟨hp.demoted hf, hid⟩
  · exact ⟨hf, hid⟩

theorem find? (h : Holds p es) {key : String} {f : Flow} (hf : es.find? key = some f) :
    p f ∧ f.id = key := by
  induction es with
  | nil => simp at hf
  | cons e rest ih =>
    rw [find?_cons] at hf
    split at hf
    next hk =>
      cases hf
      obtain ⟨he, hid⟩ := h e (by simp)
      exact ⟨he, hid.trans (eq_of_beq hk).symm⟩
    next => exact ih (fun e he => h e (List.mem_cons_of_mem _ he)) hf

end Entries.Holds

/-- A store whose flows have a property, and which is asked to save no others, has no others. -/
theorem Store.answer_holds {p : Flow → Prop} (hp : Flow.Lasting p) {st : Store}
    (hst : st.catalog.Holds p) (now : Moment) (id : String) (r : Store.Request)
    (hmay : (flowTerms p).may (.store r)) :
    (st.answer now id r).2.catalog.Holds p ∧
      ∀ a, (st.answer now id r).1 = .ok a → (flowTerms p).gives (.store r) a := by
  cases r with
  | saveFlow f =>
    refine ⟨?_, fun _ _ => trivial⟩
    rcases answer_saveFlow st now id f with
      ⟨e, hanswer⟩ | ⟨createdAt, updatedAt, st', hanswer, hcatalog⟩
    · rw [hanswer]
      exact hst
    · rw [hanswer, hcatalog]
      exact hst.put (f := { f with createdAt, updatedAt }) (hp.redated _ _ hmay)
  | deleteFlow key =>
    refine ⟨?_, fun _ _ => trivial⟩
    rcases catalog_deleteFlow st now id key with h | h
    · rw [h]
      exact hst
    · rw [h]
      exact fun e he => hst e (List.mem_filter.1 he).1
  | demoteOthers key =>
    refine ⟨?_, fun _ _ => trivial⟩
    rw [catalog_demoteOthers]
    exact hst.demotedBut hp key
  | flow key =>
    refine ⟨by rw [catalog_answer rfl]; exact hst, fun f? h f hf => ?_⟩
    exact hst.find? ((find?_of_answer_flow h).trans hf)
  | flows | activeFlows | openSession o | session key | activeSession ticketId | saveSession s
  | sessionsOf key | record i | interactions key =>
    exact ⟨by rw [catalog_answer rfl]; exact hst, fun _ _ => trivial⟩

theorem World.answer_holds {p : Flow → Prop} (hp : Flow.Lasting p) (w : World)
    (r : Service.Request) (hw : w.catalog.Holds p) (hmay : (flowTerms p).may r) :
    (w.answer r).2.catalog.Holds p ∧ ∀ a, (w.answer r).1 = .ok a → (flowTerms p).gives r a := by
  cases r with
  | store r =>
    rcases w.answer_store r with ⟨hstore, herror, -⟩ | ⟨id, hanswer, hstore⟩
    · refine ⟨by rw [catalog, hstore]; exact hw, fun a ha => ?_⟩
      rw [herror] at ha
      cases ha
    · obtain ⟨hnext, hgives⟩ := Store.answer_holds hp hw w.clock id r hmay
      refine ⟨by rw [catalog, hstore]; exact hnext, fun a ha => hgives a ?_⟩
      rw [hanswer] at ha
      cases hx : (w.store.answer w.clock id r).1 with
      | ok b =>
        rw [hx] at ha
        exact congrArg Except.ok (Except.ok.inj ha)
      | error e =>
        rw [hx] at ha
        cases ha
  | desk r => exact ⟨by rw [catalog_answer rfl]; exact hw, fun _ _ => trivial⟩
  | log level text => exact ⟨by rw [catalog_answer rfl]; exact hw, fun _ _ => trivial⟩
  | newFlowId => exact ⟨by rw [catalog_answer rfl]; exact hw, fun _ _ => trivial⟩

/-! ## What is edited -/

namespace Editing

variable {p : Flow → Prop} {now : Moment} {d : Draft} {f : Flow} {id : String}

theorem save_keeps (hf : p f) : (save f).Keeps (flowTerms p) fun _ => True := by
  unfold save
  refine Job.Keeps.bind (Job.Keeps.store (.saveFlow f) hf) fun saved _ => ?_
  split
  · refine Job.Keeps.bind (Job.Keeps.store (.demoteOthers _) trivial) fun _ _ => ?_
    exact Job.Keeps.pure trivial
  · exact Job.Keeps.pure trivial

theorem create_keeps (hd : ∀ make, d.create = .ok make → ∀ id, p (make id now)) :
    (create now d).Keeps (flowTerms p) fun _ => True := by
  unfold create
  refine Job.Keeps.bind Job.Keeps.ofExcept fun make hmake => ?_
  refine Job.Keeps.bind (Job.Keeps.request (r := .newFlowId) trivial) fun id _ => ?_
  refine Job.Keeps.bind (save_keeps (hd make hmake id)) fun saved _ => ?_
  exact Job.Keeps.bind (Job.Keeps.log trivial) fun _ _ => Job.Keeps.pure trivial

theorem get_keeps : (get id).Keeps (flowTerms p) fun f => p f ∧ f.id = id := by
  unfold get
  refine Job.Keeps.bind (Job.Keeps.store (.flow id) trivial) fun f? hf => ?_
  split
  next f => exact Job.Keeps.pure (hf f rfl)
  next => exact .failed

theorem update_keeps (hd : ∀ f f', p f → f.id = id → d.update f now = .ok f' → p f') :
    (update now id d).Keeps (flowTerms p) fun _ => True := by
  unfold update
  refine Job.Keeps.bind get_keeps fun f hf => ?_
  refine Job.Keeps.bind Job.Keeps.ofExcept fun f' hf' => ?_
  refine Job.Keeps.bind (save_keeps (hd f f' hf.1 hf.2 hf')) fun saved _ => ?_
  exact Job.Keeps.bind (Job.Keeps.log trivial) fun _ _ => Job.Keeps.pure trivial

theorem delete_keeps : (delete id).Keeps (flowTerms p) fun _ => True := by
  unfold delete
  refine Job.Keeps.bind (Job.Keeps.store (.deleteFlow id) trivial) fun found _ => ?_
  split
  · exact Job.Keeps.log trivial
  · exact .failed

end Editing

/-! ## The trigger of a primary flow -/

namespace Draft

variable {d : Draft} {f f' : Flow} {now : Moment}

/-- What a draft that makes a flow consists of, and the flow it makes. -/
theorem create_eq_ok {make : String → Moment → Flow} (h : d.create = .ok make) :
    ∃ name entryNode definition,
      clean d.name = some name ∧ clean d.entryNode = some entryNode ∧
      ensureDefinition (value? d.definition) entryNode = .ok definition ∧
      make = fun id now =>
        { id, name, entryNode, definition
          isPrimary := (value? d.isPrimary).getD false
          description := clean d.description
          isActive := (value? d.isActive).getD true
          trigger := triggerOf ((value? d.isPrimary).getD false) d.trigger
          keywords := cleanKeywords ((value? d.keywords).getD [])
          schedule := scheduleOf d.schedule
          offlineMessage := clean d.offlineMessage
          transferQueue := clean d.transferQueue
          createdAt := now
          updatedAt := now } := by
  unfold create at h
  cases hname : clean d.name with
  | none =>
    rw [hname] at h
    cases h
  | some name =>
    rw [hname] at h
    cases hentry : clean d.entryNode with
    | none =>
      rw [hentry] at h
      cases h
    | some entryNode =>
      rw [hentry] at h
      simp only [bind, Except.bind, pure, Except.pure] at h
      cases hdef : ensureDefinition (value? d.definition) entryNode with
      | error e =>
        rw [hdef] at h
        cases h
      | ok definition =>
        rw [hdef] at h
        cases h
        exact ⟨name, entryNode, definition, rfl, rfl, hdef, rfl⟩

/-- A draft that makes a flow primary and says nothing of its trigger. -/
def Promotes (d : Draft) : Prop := d.isPrimary = some (some true) ∧ d.trigger = none

theorem create_trigger {make : String → Moment → Flow} (h : d.create = .ok make) (id : String)
    (hp : (make id now).isPrimary = true) : (make id now).trigger = .default := by
  obtain ⟨name, entryNode, definition, -, -, -, rfl⟩ := create_eq_ok h
  simp only at hp
  simp [triggerOf, hp]

/-- What becomes of a flow that an update changes, as far as its rank goes. -/
theorem update_rank (h : d.update f now = .ok f') :
    f'.id = f.id ∧ f'.isPrimary = change d.isPrimary (fun p => (value? p).getD false) f.isPrimary ∧
      f'.trigger =
        if d.trigger.isSome then triggerOf f'.isPrimary d.trigger
        else if f.isPrimary then .default else f.trigger := by
  simp only [update, bind, Except.bind, pure, Except.pure] at h
  split at h
  · cases h
  · cases h
    exact ⟨rfl, rfl, rfl⟩

theorem change_flag {field : Given Bool}
    (h : change field (fun p => (value? p).getD false) false = true) :
    field = some (some true) := by
  rcases field with _ | _ | _ | _ <;> simp [change, value?] at h ⊢

/-- A flow that an update leaves primary is started by default, unless the update promotes it. -/
theorem update_trigger (h : d.update f now = .ok f') (hp : f'.isPrimary = true) :
    f'.trigger = .default ∨ d.Promotes := by
  obtain ⟨-, hprimary, htrigger⟩ := update_rank h
  rw [htrigger]
  cases ht : d.trigger with
  | some trigger => exact .inl (by simp [triggerOf, hp])
  | none =>
    cases hf : f.isPrimary with
    | true => exact .inl (by simp)
    | false =>
      -- the flow was not primary before, so it is the draft that says so
      rw [hp, hf] at hprimary
      exact .inr ⟨change_flag hprimary.symm, ht⟩

end Draft

/-- The flow is started by default if it is primary, unless one of the calls promoted it. -/
def Edit.Explains (es : List Edit) (f : Flow) : Prop :=
  f.isPrimary = true → f.trigger = .default ∨ ∃ now d, .updated now f.id d ∈ es ∧ d.Promotes

theorem Edit.explains_lasting (es : List Edit) : Flow.Lasting (Edit.Explains es) where
  redated _ _ h := h
  demoted _ hp := nomatch hp

theorem Edit.job_keeps {es : List Edit} {e : Edit} (he : e ∈ es) :
    e.job.Keeps (flowTerms (Edit.Explains es)) fun _ => True := by
  cases e with
  | created now d =>
    refine Job.Keeps.map (Editing.create_keeps fun make hmake id hp => ?_)
    exact .inl (Draft.create_trigger hmake id hp)
  | updated now id d =>
    refine Job.Keeps.map (Editing.update_keeps fun f f' _ hid hf' hp => ?_)
    refine (Draft.update_trigger hf' hp).imp_right fun hd => ⟨now, d, ?_, hd⟩
    rw [(Draft.update_rank hf').1, hid]
    exact he
  | deleted id => exact Job.Keeps.map Editing.delete_keeps

theorem World.edited_explains {es es' : List Edit} (hes : ∀ e ∈ es', e ∈ es) {w : World}
    (hw : w.catalog.Holds (Edit.Explains es)) :
    (w.edited es').catalog.Holds (Edit.Explains es) := by
  induction es' generalizing w with
  | nil => exact hw
  | cons e rest ih =>
    refine ih (fun e he => hes e (List.mem_cons_of_mem _ he)) ?_
    exact (Job.Keeps.run (World.answer_holds (Edit.explains_lasting es))
      (Edit.job_keeps (hes e (by simp))) hw).1

/-- **A primary flow is started by default, unless it was promoted without a word on its trigger**,
whatever calls edited a catalog that was empty. -/
theorem World.edited_trigger {w : World} (hempty : w.catalog = []) (es : List Edit) {f : Flow}
    (hf : f ∈ (w.edited es).catalog.values) (hp : f.isPrimary = true) :
    f.trigger = .default ∨ ∃ now d, .updated now f.id d ∈ es ∧ d.Promotes := by
  have hw : w.catalog.Holds (Edit.Explains es) := by
    rw [hempty]
    exact fun _ he => nomatch he
  obtain ⟨e, he, rfl⟩ := List.mem_map.1 hf
  exact (edited_explains (fun _ he => he) hw e he).1 hp

/-- A world with no flows in it. -/
def flowless : World where
  clock := .utc 0
  store := .memory {}

/-- A draft of a flow with one node. -/
def Draft.greeter : Draft where
  name := some (some "Greeter")
  entryNode := some (some "hello")
  definition := some (some (.object [("nodes", .list [
    .object [("id", .string "hello"), ("type", .string "message"),
      ("content", .string "Hello")]])]))

/-- A flow is created as primary and then told to be started by keywords; another is promoted. -/
def ranking : List Edit :=
  [.created (.utc 0) { Draft.greeter with isPrimary := some (some true) },
    .updated (.utc 1) "flow-1" { trigger := some (some .keyword) },
    .created (.utc 2) Draft.greeter, .updated (.utc 3) "flow-2" { isPrimary := some (some true) },
    .updated (.utc 4) "flow-1" { isPrimary := some (some true), trigger := some none }]

/-- It is started by default again after it was made primary again. -/
theorem ranking_trigger :
    flowless.catalog = [] ∧
      ∃ f ∈ (flowless.edited ranking).catalog.values, f.isPrimary = true ∧ f.id = "flow-1" ∧
        (f.trigger = .default ∨ ∃ now d, .updated now f.id d ∈ ranking ∧ d.Promotes) := by
  have hempty : flowless.catalog = [] := rfl
  have hprimary : ∃ f ∈ (flowless.edited ranking).catalog.values,
      f.isPrimary = true ∧ f.id = "flow-1" := by decide +kernel
  obtain ⟨f, hf, hp, hid⟩ := hprimary
  exact ⟨hempty, f, hf, hp, hid, World.edited_trigger hempty ranking hf hp⟩

/-- A flow that is promoted without a word on its trigger goes on being started by keywords. -/
theorem promoted_keyword :
    ((flowless.edited [.created (.utc 0) Draft.greeter,
        .updated (.utc 1) "flow-1" { isPrimary := some (some true) }]).catalog.values.map
      fun f => (f.id, f.isPrimary, f.trigger)) = [("flow-1", true, .keyword)] := by
  decide +kernel

end FrontDesk
