/-
Calls on the catalog.

A call makes a flow, changes one, deletes one, or only looks. All flows that calls ever put into the
catalog are proper, whatever the drafts say, and a call that fails did so before it wrote anything
(`World.called_proper`): what can fail comes before the flow is saved, and what comes after
cannot fail, unless the store itself breaks down between the two.
-/
import FrontDesk.Proofs.Catalog.Proper
import FrontDesk.Proofs.Service.Steps

namespace FrontDesk

open Calendar Service Store

/-! ## Calls -/

/-- A call on the catalog. -/
inductive Editing.Call where
  | created (d : Draft)
  | updated (id : String) (d : Draft)
  | deleted (id : String)
  | got (id : String)
  | listed
  | reported (id : String)

/-- What a call returns. -/
inductive Reply where
  | flow (f : Flow)
  | gone
  | listing (fs : List (Flow × Counts))
  | report (r : Report)

/-- What is done at a call at the given time. -/
def Editing.Call.job (now : Moment) : Editing.Call → Job Reply
  | created d => .flow <$> Editing.create now d
  | updated id d => .flow <$> Editing.update now id d
  | deleted id => (fun _ => .gone) <$> Editing.delete id
  | got id => .flow <$> Editing.get id
  | listed => .listing <$> Editing.list
  | reported id => .report <$> Editing.report now id

/-- A call at a time of the store and a time of the service. -/
structure TimedCall where
  clock : Moment
  now : Moment
  call : Editing.Call

namespace World

/-- What comes of a call, and the world after it. -/
def call (w : World) (c : TimedCall) : Except Failure Reply × World :=
  (c.call.job c.now).run { w with clock := c.clock }

/-- The world after some calls, one after another. -/
def called (w : World) (cs : List TimedCall) : World := cs.foldl (fun w c => (w.call c).2) w

end World

/-! ## Looking only -/

/-- Terms that let one look at the catalog and at what became of its flows. -/
structure Terms.LetsLook (t : Terms) : Prop where
  flows : t.may (.store .flows)
  flow : ∀ id, t.may (.store (.flow id))
  sessionsOf : ∀ id, t.may (.store (.sessionsOf id))

namespace Editing

variable {t : Terms} {now : Moment} {id : String}

theorem get_looks (ht : t.LetsLook) : (get id).Keeps t fun _ => True := by
  unfold get
  refine Job.Keeps.bind (Job.Keeps.store (.flow id) (ht.flow id)) fun f? _ => ?_
  split
  · exact Job.Keeps.pure trivial
  · exact .failed

theorem countAll_looks (ht : t.LetsLook) (fs : List Flow) :
    (countAll fs).Keeps t fun _ => True := by
  induction fs with
  | nil => exact Job.Keeps.pure trivial
  | cons f rest ih =>
    refine Job.Keeps.bind (Job.Keeps.store (.sessionsOf f.id) (ht.sessionsOf _)) fun _ _ => ?_
    exact Job.Keeps.bind ih fun _ _ => Job.Keeps.pure trivial

theorem list_looks (ht : t.LetsLook) : list.Keeps t fun _ => True :=
  Job.Keeps.bind (Job.Keeps.store .flows ht.flows) fun fs _ => countAll_looks ht fs

theorem report_looks (ht : t.LetsLook) : (report now id).Keeps t fun _ => True := by
  unfold report
  refine Job.Keeps.bind (get_looks ht) fun f _ => ?_
  refine Job.Keeps.bind (Job.Keeps.store (.sessionsOf f.id) (ht.sessionsOf _)) fun ss _ => ?_
  exact Job.Keeps.ofExcept.mono fun _ _ => trivial

end Editing

theorem flowTerms_letsLook (p : Flow → Prop) : (flowTerms p).LetsLook :=
  ⟨trivial, fun _ => trivial, fun _ => trivial⟩

theorem Editing.Call.job_proper (c : Editing.Call) (now : Moment) :
    (c.job now).Keeps (flowTerms Flow.Proper) fun _ => True := by
  have hlook := flowTerms_letsLook Flow.Proper
  cases c with
  | created d =>
    exact .map (Editing.create_keeps fun make hmake id => Draft.create_proper hmake id)
  | updated id d =>
    exact .map (Editing.update_keeps fun f f' hf _ hf' => Draft.update_proper hf hf')
  | deleted id => exact .map Editing.delete_keeps
  | got id => exact .map (Editing.get_looks hlook)
  | listed => exact .map (Editing.list_looks hlook)
  | reported id => exact .map (Editing.report_looks hlook)

/-! ## Failing -/

/-- Terms for one who only looks. -/
def lookTerms : Terms where
  may r := r.edits = false
  gives _ _ := True

theorem lookTerms_letsLook : lookTerms.LetsLook := ⟨rfl, fun _ => rfl, fun _ => rfl⟩

/-- Any request may be made in any world. -/
def anyRequest (_ : World) (_ : Service.Request) : Prop := True

namespace World

variable {w w' : World}

/-- No demotion fails. -/
def Demotes (w : World) : Prop := ∀ n id, w.trouble.outage n (.store (.demoteOthers id)) = false

/-- Nothing was done to the catalog. -/
structure Untouched (w w' : World) : Prop where
  catalog : w'.catalog = w.catalog
  trouble : w'.trouble = w.trouble

namespace Untouched

theorem refl (w : World) : w.Untouched w := ⟨rfl, rfl⟩

theorem answer (h : w.Untouched w') {r : Service.Request} (hr : r.edits = false) :
    w.Untouched (w'.answer r).2 where
  catalog := (catalog_answer hr).trans h.catalog
  trouble := (w'.answer_trouble r).1.trans h.trouble

theorem answer_of_catalog (h : w.Untouched w') {r : Service.Request}
    (hcatalog : (w'.answer r).2.store.catalog = w'.store.catalog) :
    w.Untouched (w'.answer r).2 where
  catalog := hcatalog.trans h.catalog
  trouble := (w'.answer_trouble r).1.trans h.trouble

theorem looks {α : Type} {j : Job α} (h : w.Untouched w')
    (hj : j.Keeps lookTerms fun _ => True) :
    j.Behaves anyRequest (fun _ => w.Untouched) (fun _ => w.Untouched) w' :=
  (hj.behaves (fun _ _ h hr => ⟨trivial, h.answer hr, fun _ _ => trivial⟩) h).mono
    (fun _ _ h => h) (fun _ _ h => h.2) fun _ _ h => h

end Untouched

theorem log_behaves (level : Level) (text : String) (err : Failure → World → Prop) :
    (Job.log level text).Behaves anyRequest (fun _ _ => True) err w :=
  .request trivial (fun _ _ => trivial) fun e he => by rw [answer_log] at he; cases he

end World

namespace Editing

variable {w w' : World} {now : Moment} {d : Draft} {f : Flow} {id : String}

theorem saveFlow_backs (h : w.Untouched w') :
    (Job.store (.saveFlow f)).Behaves anyRequest (fun _ w' => w'.trouble = w.trouble)
      (fun _ => w.Untouched) w' := by
  refine .request trivial (fun _ _ => (w'.answer_trouble _).1.trans h.trouble) fun e he => ?_
  refine h.answer_of_catalog ?_
  rcases w'.answer_store (.saveFlow f) with ⟨hstore, -, -⟩ | ⟨fresh, hx, hstore⟩
  · rw [hstore]
  rcases answer_saveFlow w'.store w'.clock fresh f with ⟨e, hanswer⟩ | ⟨_, _, _, hanswer, -⟩
  · rw [hstore, hanswer]
  · rw [hx, hanswer] at he
    cases he

/-- Where no demotion fails, this one does not. -/
theorem demoteOthers_backs (hdemote : w.Demotes) (h : w'.trouble = w.trouble)
    (err : Failure → World → Prop) :
    (Job.store (.demoteOthers id)).Behaves anyRequest (fun _ _ => True) err w' := by
  refine .request trivial (fun _ _ => trivial) fun e he => ?_
  rcases w'.answer_store (.demoteOthers id) with ⟨-, -, hfails⟩ | ⟨fresh, hx, -⟩
  · rw [h, hdemote] at hfails
    cases hfails
  · have hdone : (w'.store.answer w'.clock fresh (.demoteOthers id)).1 = .ok () := by
      cases w'.store <;> rfl
    rw [hx, hdone] at he
    cases he

/-- Once the flow is saved nothing fails any more. -/
theorem save_backs (hdemote : w.Demotes) (h : w.Untouched w') :
    (save f).Behaves anyRequest (fun _ _ => True) (fun _ => w.Untouched) w' := by
  unfold save
  refine .bind (saveFlow_backs h) fun saved w' htrouble => ?_
  split
  · exact .bind (demoteOthers_backs hdemote htrouble _) fun _ _ _ => .pure trivial
  · exact .pure trivial

theorem create_backs (hdemote : w.Demotes) (h : w.Untouched w') :
    (create now d).Behaves anyRequest (fun _ _ => True) (fun _ => w.Untouched) w' := by
  unfold create
  refine .bind (m := fun _ => w.Untouched) (.ofExcept (fun _ _ => h) fun _ _ => h)
    fun make w' h => ?_
  have hnew : w.Untouched (w'.answer .newFlowId).2 := h.answer rfl
  refine .bind (m := fun _ => w.Untouched) (.request trivial (fun _ _ => hnew) fun _ _ => hnew)
    fun id w' h => ?_
  refine .bind (save_backs hdemote h) fun saved w' _ => ?_
  exact .bind (World.log_behaves _ _ _) fun _ _ _ => .pure trivial

theorem update_backs (hdemote : w.Demotes) (h : w.Untouched w') :
    (update now id d).Behaves anyRequest (fun _ _ => True) (fun _ => w.Untouched) w' := by
  unfold update
  refine .bind (h.looks (get_looks lookTerms_letsLook)) fun existing w' h => ?_
  refine .bind (m := fun _ => w.Untouched) (.ofExcept (fun _ _ => h) fun _ _ => h)
    fun flow w' h => ?_
  refine .bind (save_backs hdemote h) fun saved w' _ => ?_
  exact .bind (World.log_behaves _ _ _) fun _ _ _ => .pure trivial

theorem deleteFlow_backs (h : w.Untouched w') :
    (Job.store (.deleteFlow id)).Behaves anyRequest
      (fun found w' => found = false → w.Untouched w') (fun _ => w.Untouched) w' := by
  rcases w'.answer_store (.deleteFlow id) with ⟨hstore, -, -⟩ | ⟨fresh, hx, hstore⟩
  · have hnext := h.answer_of_catalog (congrArg Store.catalog hstore)
    exact .request trivial (fun _ _ _ => hnext) fun _ _ => hnext
  · obtain ⟨st, hdone, hcatalog⟩ := answer_deleteFlow w'.store w'.clock fresh id
    rw [hdone] at hx hstore
    refine .request trivial (fun found hfound hnone => ?_) fun e he => ?_
    · rw [hx] at hfound
      obtain rfl := Except.ok.inj hfound
      refine h.answer_of_catalog ?_
      rw [hstore, hcatalog, Entries.remove_of_has_false hnone]
    · rw [hx] at he
      cases he

theorem delete_backs (h : w.Untouched w') :
    (delete id).Behaves anyRequest (fun _ _ => True) (fun _ => w.Untouched) w' := by
  unfold delete
  refine .bind (deleteFlow_backs h) fun found w' hfound => ?_
  split
  · exact World.log_behaves _ _ _
  next hnone => exact hfound (by simpa using hnone)

end Editing

/-- A call that fails leaves the catalog as it was. -/
theorem Editing.Call.job_backs {w w' : World} (hdemote : w.Demotes) (h : w.Untouched w')
    (c : Editing.Call) (now : Moment) :
    (c.job now).Behaves anyRequest (fun _ _ => True) (fun _ => w.Untouched) w' := by
  have hlook {α : Type} {j : Job α} (hj : j.Keeps lookTerms fun _ => True) :
      j.Behaves anyRequest (fun _ _ => True) (fun _ => w.Untouched) w' :=
    (h.looks hj).mono (fun _ _ h => h) (fun _ _ _ => trivial) fun _ _ h => h
  have hlets := lookTerms_letsLook
  cases c with
  | created d => exact .map (Editing.create_backs hdemote h)
  | updated id d => exact .map (Editing.update_backs hdemote h)
  | deleted id => exact .map (Editing.delete_backs h)
  | got id => exact .map (hlook (Editing.get_looks hlets))
  | listed => exact .map (hlook (Editing.list_looks hlets))
  | reported id => exact .map (hlook (Editing.report_looks hlets))

/-! ## Whatever is called -/

namespace World

variable {w : World}

theorem call_proper (hw : w.catalog.Holds Flow.Proper) (c : TimedCall) :
    (w.call c).2.catalog.Holds Flow.Proper :=
  (Job.Keeps.run (answer_holds Flow.proper_lasting) (c.call.job_proper c.now)
    (w := { w with clock := c.clock }) hw).1

theorem called_holds (hw : w.catalog.Holds Flow.Proper) (cs : List TimedCall) :
    (w.called cs).catalog.Holds Flow.Proper := by
  unfold called
  induction cs generalizing w with
  | nil => exact hw
  | cons c rest ih => exact ih (call_proper hw c)

theorem run_trouble {α : Type} (j : Job α) (w : World) : (j.run w).2.trouble = w.trouble := by
  induction j generalizing w with
  | done a | failed e => rfl
  | ask r next ih => exact (ih _ _).trans (w.answer_trouble r).1

theorem called_trouble (w : World) (cs : List TimedCall) : (w.called cs).trouble = w.trouble := by
  unfold called
  induction cs generalizing w with
  | nil => rfl
  | cons c rest ih => exact (ih _).trans (run_trouble _ _)

/-- **All flows in the catalog are proper**, and stand under their ids, whatever calls were made,
those that failed among them; **and a call that fails leaves the catalog as it was**, unless the
store does not demote when it is told to. -/
theorem called_proper (hempty : w.catalog = []) (cs : List TimedCall) :
    (∀ e ∈ (w.called cs).catalog, e.2.Proper ∧ e.2.id = e.1) ∧
      (w.Demotes → ∀ (c : TimedCall) (e : Failure), ((w.called cs).call c).1 = .error e →
        ((w.called cs).call c).2.catalog = (w.called cs).catalog) := by
  have hw : w.catalog.Holds Flow.Proper := by
    rw [hempty]
    exact fun _ he => nomatch he
  refine ⟨called_holds hw cs, fun hdemote c e he => ?_⟩
  have hdemote' : ({ w.called cs with clock := c.clock } : World).Demotes := by
    intro n id
    rw [show ({ w.called cs with clock := c.clock } : World).trouble = w.trouble from
      called_trouble w cs]
    exact hdemote n id
  exact ((c.call.job_backs hdemote' (.refl _) c.now).run.2 e he).catalog

end World

/-- A flow is created and changed in parts; two of the changes come to no graph, one is for a flow
that is not there. -/
def revisions : List TimedCall :=
  let at' (n : Nat) (c : Editing.Call) : TimedCall := { clock := .utc n, now := .utc n, call := c }
  [at' 0 (.created { Draft.greeter with keywords := some (some [.string " hi ", .string " "]) }),
    at' 1 (.updated "flow-1" { entryNode := some (some " nowhere ") }),
    at' 2 (.updated "flow-1" { definition := some (some (.string "none")) }),
    at' 3 (.updated "flow-1" { name := some (some "  "), description := some (some " Says hello ") }),
    at' 4 (.deleted "flow-2")]

/-- What is left of it is the flow as it was made, with the one text that could be taken up, and a
call with a definition that cannot be read leaves it so. -/
theorem revisions_proper :
    flowless.catalog = [] ∧ flowless.Demotes ∧
      (flowless.called revisions).catalog.values.map
          (fun f => (f.name, f.entryNode, f.keywords, f.description)) =
        [("Greeter", "hello", ["hi"], some "Says hello")] ∧
      (∀ e ∈ (flowless.called revisions).catalog, e.2.Proper ∧ e.2.id = e.1) ∧
      ∃ c e, ((flowless.called revisions).call c).1 = .error e ∧
        ((flowless.called revisions).call c).2.catalog = (flowless.called revisions).catalog := by
  have hempty : flowless.catalog = [] := rfl
  have hdemote : flowless.Demotes := fun _ _ => rfl
  obtain ⟨hproper, hbacks⟩ := World.called_proper hempty revisions
  let c : TimedCall :=
    { clock := .utc 5, now := .utc 5
      call := .updated "flow-1" { definition := some (some (.string "none")) } }
  have hfails : ((flowless.called revisions).call c).1.toOption.isNone = true := by
    decide +kernel
  cases he : ((flowless.called revisions).call c).1 with
  | ok reply => rw [he] at hfails; cases hfails
  | error e =>
  exact ⟨hempty, hdemote, by decide +kernel, hproper, c, e, he, hbacks hdemote c e he⟩

end FrontDesk
