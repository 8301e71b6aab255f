/-
What an update leaves as it was.

A flow that is saved in the place of another keeps its time of creation, whatever the make of the
store. So an update that succeeds puts a flow in the place of one that the draft makes it of
(`Draft.Patches`), and of the others only the ranks can change, when it is primary; an update that
fails changes nothing (`World.updated_patches`).
-/
import FrontDesk.Proofs.Catalog.Patch
import FrontDesk.Proofs.Service.Curated

namespace FrontDesk

open Calendar Service Store

theorem Store.createdAt_of_saveFlow {st : Store} {now : Moment} {id : String} {f old saved : Flow}
    (hfind : st.catalog.find? f.id = some old) (hcreated : f.createdAt = old.createdAt)
    (hsaved : (st.answer now id (.saveFlow f)).1 = .ok saved) : saved.createdAt = f.createdAt := by
  cases st with
  | memory m =>
    cases hsaved
    rfl
  | relational t =>
    have hfind : t.flows.find? f.id = some old := hfind
    have hrow : t.flowRow now f =
        (rowMoment now).map fun updatedAt => { f with createdAt := old.createdAt, updatedAt } := by
      simp only [Relational.flowRow, hfind]
      cases rowMoment now <;> rfl
    cases hnow : rowMoment now with
    | error e =>
      simp [answer, Relational.answer, Relational.saveFlow, hrow, hnow, Except.map] at hsaved
    | ok updatedAt =>
      simp only [answer, Relational.answer, Relational.saveFlow, hrow, hnow, Except.map,
        Except.ok.injEq] at hsaved
      rw [← hsaved, hcreated]

namespace World

variable {w : World}

/-- A flow that is saved stands under its id as it is returned, and that is as it was given but for
the times. -/
theorem ok_saveFlow {f saved : Flow} (hsaved : (w.answer (.store (.saveFlow f))).1 = .ok saved) :
    (∃ createdAt updatedAt, saved = { f with createdAt, updatedAt }) ∧
      (w.answer (.store (.saveFlow f))).2.catalog = w.catalog.put f.id saved ∧
      ∀ old, w.catalog.find? f.id = some old → f.createdAt = old.createdAt →
        saved.createdAt = f.createdAt := by
  rcases w.answer_store (.saveFlow f) with ⟨-, hx, -⟩ | ⟨fresh, hx, hstore⟩
  · rw [hx] at hsaved
    cases hsaved
  rcases answer_saveFlow w.store w.clock fresh f with
    ⟨e, hanswer⟩ | ⟨createdAt, updatedAt, st', hanswer, hcatalog⟩
  · rw [hx, hanswer] at hsaved
    cases hsaved
  · rw [hx, hanswer] at hsaved
    cases hsaved
    refine ⟨⟨createdAt, updatedAt, rfl⟩, ?_, fun old hfind hcreated => ?_⟩
    · rw [catalog, hstore, hanswer, hcatalog]
      rfl
    · exact createdAt_of_saveFlow hfind hcreated (congrArg Prod.fst hanswer)

theorem ok_demoteOthers {id : String} (h : (w.answer (.store (.demoteOthers id))).1 = .ok ()) :
    (w.answer (.store (.demoteOthers id))).2.catalog = demotedBut id w.catalog := by
  rcases w.answer_store (.demoteOthers id) with ⟨-, hx, -⟩ | ⟨fresh, -, hstore⟩
  · rw [hx] at h
    cases h
  · rw [catalog, hstore]
    exact catalog_demoteOthers id

/-- One flow took the place of another in a catalog, and all others are as they were, or as they
are when another becomes primary. -/
structure Replaces (w w' : World) (f' : Flow) : Prop where
  found : w'.catalog.find? f'.id = some f'
  others : ∀ key, key ≠ f'.id → w'.catalog.find? key = (w.catalog.find? key).map fun g =>
    if f'.isPrimary && g.isPrimary then { g with isPrimary := false, trigger := .keyword } else g
  keys : w'.catalog.keys = w.catalog.keys

variable {w' v : World} {f' old : Flow}

theorem Replaces.congr (h : w.Replaces w' f') (hcatalog : v.catalog = w'.catalog) :
    w.Replaces v f' where
  found := hcatalog ▸ h.found
  others key hkey := hcatalog ▸ h.others key hkey
  keys := hcatalog ▸ h.keys

theorem replaces_of_put (hfind : w.catalog.find? f'.id = some old) (hprimary : f'.isPrimary = false)
    (hput : w'.catalog = w.catalog.put f'.id f') : w.Replaces w' f' := by
  refine ⟨?_, fun key hkey => ?_, ?_⟩
  · rw [hput, Entries.find?_put, if_pos rfl]
  · rw [hput, Entries.find?_put, if_neg hkey]
    simp [hprimary]
  · rw [hput, Entries.keys_put f' hfind]

theorem replaces_of_demoted (hfind : w.catalog.find? f'.id = some old)
    (hprimary : f'.isPrimary = true)
    (hdemoted : w'.catalog = demotedBut f'.id (w.catalog.put f'.id f')) : w.Replaces w' f' := by
  refine ⟨?_, fun key hkey => ?_, ?_⟩
  · rw [hdemoted, find?_demotedBut, Entries.find?_put, if_pos rfl]
    simp
  · have hother : (key != f'.id) = true := by simpa using hkey
    rw [hdemoted, find?_demotedBut, Entries.find?_put, if_neg hkey, hother, hprimary]
    rfl
  · rw [hdemoted, keys_demotedBut, Entries.keys_put f' hfind]

end World

namespace Editing

variable {w w' : World} {f old : Flow} {now : Moment} {id : String} {d : Draft}

/-- What is saved in the place of a flow replaces it. -/
theorem save_replaces (hcatalog : w'.catalog = w.catalog) (hfind : w.catalog.find? f.id = some old)
    (hcreated : f.createdAt = old.createdAt) :
    (save f).Behaves anyRequest
      (fun saved w'' => (∃ updatedAt, saved = { f with updatedAt }) ∧ w.Replaces w'' saved)
      (fun _ _ => True) w' := by
  unfold save
  refine .bind (m := fun saved w'' => (∃ updatedAt, saved = { f with updatedAt }) ∧
    w''.catalog = w.catalog.put saved.id saved) ?_ fun saved w'' hsaved => ?_
  · refine .request trivial (fun saved hsaved => ?_) fun _ _ => trivial
    obtain ⟨⟨createdAt, updatedAt, rfl⟩, hput, hkept⟩ := World.ok_saveFlow hsaved
    rw [hcatalog] at hput hkept
    obtain rfl : createdAt = f.createdAt := hkept old hfind hcreated
    exact ⟨⟨updatedAt, rfl⟩, hput⟩
  obtain ⟨hupdated, hput⟩ := hsaved
  have hplace : w.catalog.find? saved.id = some old := by
    obtain ⟨updatedAt, rfl⟩ := hupdated
    exact hfind
  split
  next hprimary =>
    refine .bind (m := fun _ v => v.catalog = demotedBut saved.id w''.catalog)
      (.request trivial (fun _ hdone => World.ok_demoteOthers hdone) fun _ _ => trivial)
      fun _ v hdemoted => .pure ⟨hupdated, ?_⟩
    rw [hput] at hdemoted
    exact World.replaces_of_demoted hplace hprimary hdemoted
  next hprimary =>
    exact .pure ⟨hupdated, World.replaces_of_put hplace (by simpa using hprimary) hput⟩

/-- An update puts a flow in the place of one that the draft makes it of. -/
theorem update_replaces (hw : w.catalog.Holds Flow.Proper) :
    (update now id d).Behaves anyRequest
      (fun f' w' => (∃ f, w.catalog.find? id = some f ∧ f.id = id ∧ d.Patches f f') ∧
        w.Replaces w' f')
      (fun _ _ => True) w := by
  unfold update
  refine .bind (get_finds trivial) fun f w' hf => ?_
  obtain ⟨hsame, hfind⟩ := hf
  refine .bind (m := fun f' w'' => w''.catalog = w.catalog ∧ d.update f now = .ok f')
    (.ofExcept (fun _ hf' => ⟨hsame, hf'⟩) fun _ _ => trivial) fun f' w'' hf' => ?_
  obtain ⟨hsame', hupdate⟩ := hf'
  have hpatches := Draft.update_patches hupdate
  have hid : f.id = id := (hw.find? hfind).2
  have hplace : w.catalog.find? f'.id = some f := by rw [hpatches.id, hid, hfind]
  refine .bind (save_replaces hsame' hplace hpatches.createdAt) fun saved v hsaved => ?_
  obtain ⟨⟨updatedAt, rfl⟩, hreplaces⟩ := hsaved
  refine .bind (m := fun _ v' => v'.catalog = v.catalog)
    (.request trivial (fun _ _ => World.catalog_answer rfl) fun _ _ => trivial)
    fun _ v' hlogged => .pure ?_
  exact ⟨⟨f, hfind, hid, hpatches.redated updatedAt⟩, hreplaces.congr hlogged⟩

end Editing

/-- **An update touches what it is given, and no more.** After any calls on a catalog that was
empty, let a flow be updated with a draft. If that fails, the catalog is as it was, unless the store
does not demote when it is told to. If it succeeds, a flow was there under the id, and what is
returned stands in its place now and is made of it by the draft: its id and its time of creation are
the same; of its other fields each one that the draft leaves out is as it was, and so are the name
and the entry node if they are null or blank; the definition is the draft's, or else the one that
was stored, with nothing changed in it but the entry node. All other flows are as they were, but
when the flow is primary the other primary ones are so no longer, and are started by keywords. -/
theorem World.updated_patches {w : World} (hempty : w.catalog = []) (cs : List TimedCall)
    (clock now : Moment) (id : String) (d : Draft) :
    let before := w.called cs
    let done := before.call { clock, now, call := .updated id d }
    (w.Demotes → ∀ e, done.1 = .error e → done.2.catalog = before.catalog) ∧
      ∀ reply, done.1 = .ok reply → ∃ f f', reply = .flow f' ∧
        before.catalog.find? id = some f ∧ f.id = id ∧ d.Patches f f' ∧
        before.Replaces done.2 f' := by
  have hw : (w.called cs).catalog.Holds Flow.Proper := by
    refine called_holds ?_ cs
    rw [hempty]
    exact fun _ he => nomatch he
  refine ⟨fun hdemote e he => ?_, fun reply hreply => ?_⟩
  · have hdemote' : ({ w.called cs with clock } : World).Demotes := by
      intro n id
      rw [show ({ w.called cs with clock } : World).trouble = w.trouble from called_trouble w cs]
      exact hdemote n id
    have hbacks := Editing.Call.job_backs hdemote' (.refl _) (.updated id d) now
    exact (hbacks.run.2 e he).catalog
  · obtain ⟨f', hf', rfl⟩ := Job.run_map_ok hreply
    have hdone := (Editing.update_replaces (w := { w.called cs with clock }) hw).run.1 f'
      (congrArg Prod.fst hf')
    rw [hf'] at hdone
    obtain ⟨⟨f, hfind, hid, hpatches⟩, hreplaces⟩ := hdone
    exact ⟨f, f', rfl, hfind, hid, hpatches, hreplaces.found, hreplaces.others, hreplaces.keys⟩

/-- A flow is created as primary, and another one after it. -/
def openings : List TimedCall :=
  let at' (n : Nat) (c : Editing.Call) : TimedCall := { clock := .utc n, now := .utc n, call := c }
  [at' 0 (.created { Draft.greeter with isPrimary := some (some true) }),
    at' 1 (.created { Draft.greeter with
      keywords := some (some [.string "hi"]), description := some (some "Says hello") })]

/-- The second flow is promoted, with a blank name and no description. -/
def promotion : Draft where
  name := some (some " ")
  description := some none
  isPrimary := some (some true)

/-- What comes of a change to the second flow. -/
def changed (d : Draft) : Except Failure Reply × World :=
  (flowless.called openings).call { clock := .utc 2, now := .utc 2, call := .updated "flow-2" d }

/-- A promotion takes the place of the second flow, which keeps its name and its keywords, and a
definition that cannot be read comes to nothing. -/
theorem promotion_patches :
    flowless.catalog = [] ∧ flowless.Demotes ∧
      (∃ f f', (changed promotion).1 = .ok (.flow f') ∧ promotion.Patches f f' ∧
        (flowless.called openings).Replaces (changed promotion).2 f' ∧
        ((changed promotion).2.catalog.values.map
            fun f => (f.name, f.keywords, f.description, f.isPrimary, f.trigger)) =
          [("Greeter", [], none, false, .keyword), ("Greeter", ["hi"], none, true, .keyword)]) ∧
      ∃ e, (changed { definition := some (some (.string "none")) }).1 = .error e ∧
        (changed { definition := some (some (.string "none")) }).2.catalog =
          (flowless.called openings).catalog := by
  have hempty : flowless.catalog = [] := rfl
  have hdemote : flowless.Demotes := fun _ _ => rfl
  have hpromoted : (changed promotion).1.toOption.isSome = true := by decide +kernel
  have hunread : (changed { definition := some (some (.string "none")) }).1.toOption.isNone =
      true := by
    decide +kernel
  refine ⟨hempty, hdemote, ?_, ?_⟩
  · cases hreply : (changed promotion).1 with
    | error e =>
      rw [hreply] at hpromoted
      cases hpromoted
    | ok reply =>
      obtain ⟨f, f', rfl, -, -, hpatches, hreplaces⟩ :=
        (World.updated_patches hempty openings (.utc 2) (.utc 2) "flow-2" promotion).2 reply hreply
      exact ⟨f, f', rfl, hpatches, hreplaces, by decide +kernel⟩
  · cases hfails : (changed { definition := some (some (.string "none")) }).1 with
    | ok reply =>
      rw [hfails] at hunread
      cases hunread
    | error e =>
      exact ⟨e, rfl, (World.updated_patches hempty openings (.utc 2) (.utc 2) "flow-2" _).1 hdemote
        e hfails⟩

end FrontDesk
