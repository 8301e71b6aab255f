/-
Catalogs under ids that were given out.

An editor saves a flow as a new one, under the id that it was given, or in the place of the one that
it was made from (`World.MayRevise`). So whatever happens, each flow of the catalog is proper and
stands under an id of its own that was given out before (`World.Curated`): ids of flows that are gone
do not come back.
-/
import FrontDesk.Proofs.Service.Calls
import FrontDesk.Proofs.Service.Moments

namespace FrontDesk

open Calendar Service Store

namespace World

/-- Each flow is proper and stands under its id, once, and the ids were given out before. -/
structure Curated (w : World) : Prop where
  holds : w.catalog.Holds Flow.Proper
  keys : w.catalog.keys.Nodup
  issued : ∀ key ∈ w.catalog.keys, ∃ n, n ≤ w.flowIds ∧ key = numbered "flow" n

/-- A flow is a new one of that time, under an id that was given out after the first so many, or it
was made from the one in the catalog. -/
inductive Places (w : World) (ids : Nat) (now : Moment) (f : Flow) : Prop where
  | new (fresh : w.catalog.find? f.id = none)
      (issued : ∃ n, ids < n ∧ n ≤ w.flowIds ∧ f.id = numbered "flow" n) (created : f.createdAt = now)
  | old (f' : Flow) (found : w.catalog.find? f.id = some f') (created : f.createdAt = f'.createdAt)

/-- What an editor may ask that deletes nothing; so many ids of flows were given out before. -/
def MayRevise (w : World) (ids : Nat) (now : Moment) : Service.Request → Prop
  | .store (.saveFlow f) => f.Proper ∧ f.updatedAt = now ∧ w.Places ids now f
  | .store .flows | .store (.flow _) | .store (.sessionsOf _) | .store (.demoteOthers _)
  | .log .. | .newFlowId => True
  | _ => False

variable {w w' : World} {ids : Nat} {now : Moment}

theorem flowIds_answer (w : World) (r : Service.Request) :
    w.flowIds ≤ (w.answer r).2.flowIds := by
  rw [answer_eq]
  split
  · exact Nat.le_refl _
  · cases r with
    | desk r =>
      obtain ⟨store, hstore, -⟩ := interfere_eq { w with asked := w.asked + 1 } r
      simp [perform, askDesk, hstore]
    | store r | log level text => exact Nat.le_refl _
    | newFlowId => exact Nat.le_succ _

/-- A flow is saved with times of the store, or nothing is done. -/
theorem catalog_saved (w : World) (f : Flow) :
    (w.answer (.store (.saveFlow f))).2.catalog = w.catalog ∨
      ∃ createdAt updatedAt, (w.answer (.store (.saveFlow f))).2.catalog =
        w.catalog.put f.id { f with createdAt, updatedAt } := by
  rcases w.answer_store (.saveFlow f) with ⟨hstore, -⟩ | ⟨fresh, -, hstore⟩
  · exact .inl (congrArg Store.catalog hstore)
  rw [catalog, hstore]
  rcases answer_saveFlow w.store w.clock fresh f with
    ⟨e, hanswer⟩ | ⟨createdAt, updatedAt, st, hanswer, hcatalog⟩
  · rw [hanswer]
    exact .inl rfl
  · rw [hanswer]
    exact .inr ⟨createdAt, updatedAt, hcatalog⟩

theorem catalog_demoted (w : World) (id : String) :
    (w.answer (.store (.demoteOthers id))).2.catalog = w.catalog ∨
      (w.answer (.store (.demoteOthers id))).2.catalog = demotedBut id w.catalog := by
  rcases w.answer_store (.demoteOthers id) with ⟨hstore, -⟩ | ⟨fresh, -, hstore⟩
  · exact .inl (congrArg Store.catalog hstore)
  · rw [catalog, hstore]
    exact .inr (catalog_demoteOthers id)

theorem catalog_deleted (w : World) (id : String) :
    (w.answer (.store (.deleteFlow id))).2.catalog = w.catalog ∨
      (w.answer (.store (.deleteFlow id))).2.catalog = w.catalog.remove id := by
  rcases w.answer_store (.deleteFlow id) with ⟨hstore, -⟩ | ⟨fresh, -, hstore⟩
  · exact .inl (congrArg Store.catalog hstore)
  · obtain ⟨st, hanswer, hcatalog⟩ := answer_deleteFlow w.store w.clock fresh id
    rw [catalog, hstore, hanswer]
    exact .inr hcatalog

namespace Curated

theorem congr (h : w.Curated) (hcatalog : w'.catalog = w.catalog) (hids : w.flowIds ≤ w'.flowIds) :
    w'.Curated where
  holds := hcatalog ▸ h.holds
  keys := hcatalog ▸ h.keys
  issued key hkey := by
    obtain ⟨n, hn, hnumber⟩ := h.issued key (hcatalog ▸ hkey)
    exact ⟨n, Nat.le_trans hn hids, hnumber⟩

/-- A flow of the catalog is found under its id. -/
theorem find?_of_mem (h : w.Curated) {f : Flow} (hf : f ∈ w.catalog.values) :
    w.catalog.find? f.id = some f := by
  obtain ⟨e, he, rfl⟩ := List.mem_map.1 hf
  rw [(h.holds e he).2]
  exact Entries.find?_of_mem_nodup h.keys he

theorem find?_next (h : w.Curated) : w.catalog.find? (numbered "flow" (w.flowIds + 1)) = none := by
  cases hfind : w.catalog.find? (numbered "flow" (w.flowIds + 1)) with
  | none => rfl
  | some f =>
    have hkey := List.mem_map_of_mem (f := Prod.fst) (Entries.mem_of_find? hfind)
    obtain ⟨n, hn, hnumber⟩ := h.issued _ hkey
    have := numbered_inj hnumber
    omega

theorem spared (h : w.Curated) {r : Service.Request} (hr : r.edits = false) :
    (w.answer r).2.Curated :=
  h.congr (catalog_answer hr) (w.flowIds_answer r)

/-- A flow that is saved stands in its place. -/
theorem saveFlow (h : w.Curated) {f : Flow} (hproper : f.Proper) (hplaces : w.Places ids now f) :
    (w.answer (.store (.saveFlow f))).2.Curated := by
  have hids := w.flowIds_answer (.store (.saveFlow f))
  rcases w.catalog_saved f with hsame | ⟨createdAt, updatedAt, hput⟩
  · exact h.congr hsame hids
  refine ⟨?_, ?_, fun key hkey => ?_⟩
  · rw [hput]
    exact h.holds.put (f := { f with createdAt, updatedAt })
      (Flow.proper_lasting.redated _ _ hproper)
  · rw [hput]
    exact Entries.nodup_keys_put h.keys _ _
  · rw [hput, Entries.mem_keys_put] at hkey
    have hissued : ∃ n, n ≤ w.flowIds ∧ key = numbered "flow" n := by
      rcases hkey with rfl | hkey
      · cases hplaces with
        | new fresh issued created =>
          obtain ⟨n, -, hn⟩ := issued
          exact ⟨n, hn⟩
        | old f' found created =>
          exact h.issued _ (List.mem_map_of_mem (f := Prod.fst) (Entries.mem_of_find? found))
      · exact h.issued key hkey
    obtain ⟨n, hn, hnumber⟩ := hissued
    exact ⟨n, Nat.le_trans hn hids, hnumber⟩

theorem demoteOthers (h : w.Curated) (id : String) :
    (w.answer (.store (.demoteOthers id))).2.Curated := by
  have hids := w.flowIds_answer (.store (.demoteOthers id))
  rcases w.catalog_demoted id with hsame | hdemoted
  · exact h.congr hsame hids
  have hkeys := keys_demotedBut id w.catalog
  refine ⟨?_, ?_, fun key hkey => ?_⟩
  · rw [hdemoted]
    exact h.holds.demotedBut Flow.proper_lasting id
  · rw [hdemoted, hkeys]
    exact h.keys
  · rw [hdemoted, hkeys] at hkey
    obtain ⟨n, hn, hnumber⟩ := h.issued key hkey
    exact ⟨n, Nat.le_trans hn hids, hnumber⟩

/-- Of the flows that are left, each stands where it stood. -/
theorem deleteFlow (h : w.Curated) (id : String) :
    (w.answer (.store (.deleteFlow id))).2.Curated := by
  have hids := w.flowIds_answer (.store (.deleteFlow id))
  rcases w.catalog_deleted id with hsame | hrest
  · exact h.congr hsame hids
  refine ⟨fun e he => ?_, ?_, fun key hkey => ?_⟩
  · rw [hrest] at he
    exact h.holds e (List.mem_filter.1 he).1
  · rw [hrest]
    exact Entries.nodup_keys_filter h.keys _
  · rw [hrest] at hkey
    obtain ⟨e, he, rfl⟩ := List.mem_map.1 hkey
    obtain ⟨n, hn, hnumber⟩ := h.issued e.1 (List.mem_map_of_mem (List.mem_filter.1 he).1)
    exact ⟨n, Nat.le_trans hn hids, hnumber⟩

/-- **What an editor asks leaves the catalog curated.** -/
theorem revised (h : w.Curated) {r : Service.Request} (hmay : w.MayRevise ids now r) :
    (w.answer r).2.Curated := by
  cases r with
  | store r =>
    cases r with
    | saveFlow f => exact h.saveFlow hmay.1 hmay.2.2
    | demoteOthers id => exact h.demoteOthers id
    | flows | flow | sessionsOf => exact h.spared rfl
    | _ => cases hmay
  | desk r => cases hmay
  | log level text | newFlowId => exact h.spared rfl

end Curated

end World

/-! ## Editors -/

namespace Editing

variable {w : World} {ids : Nat} {now : Moment} {d : Draft} {f : Flow} {id : String}

/-- From this world on the job asks what an editor may. -/
abbrev Revises {α : Type} (ids : Nat) (now : Moment) (j : Job α) (w : World) : Prop :=
  j.Behaves (fun w r => w.MayRevise ids now r) (fun _ _ => True) (fun _ _ => True) w

theorem log_revises (level : Level) (text : String) : Revises ids now (Job.log level text) w :=
  Job.Behaves.request (r := .log level text) trivial (fun _ _ => trivial) fun _ _ => trivial

theorem save_revises (hf : w.MayRevise ids now (.store (.saveFlow f))) :
    Revises ids now (save f) w := by
  unfold save
  refine .bind (m := fun _ _ => True)
    (Job.Behaves.request (r := .store (.saveFlow f)) hf (fun _ _ => trivial) fun _ _ => trivial)
    fun saved w' _ => ?_
  split
  · refine .bind (m := fun _ _ => True) ?_ fun _ _ _ => .pure trivial
    exact Job.Behaves.request (r := .store (.demoteOthers saved.id)) trivial (fun _ _ => trivial)
      fun _ _ => trivial
  · exact .pure trivial

/-- A flow is created under an id that was not in use. -/
theorem create_revises (h : w.Curated) : Revises w.flowIds now (create now d) w := by
  unfold create
  refine .bind (m := fun make w' => d.create = .ok make ∧ w' = w)
    (.ofExcept (fun _ hmake => ⟨hmake, rfl⟩) fun _ _ => trivial) ?_
  rintro make w ⟨hmake, rfl⟩
  refine .bind (m := fun id w' => w'.MayRevise w.flowIds now (.store (.saveFlow (make id now))))
    ?_ fun id w' hmay => ?_
  · refine Job.Behaves.request (r := .newFlowId) trivial (fun id hid => ?_) fun _ _ => trivial
    obtain rfl : World.numbered "flow" (w.flowIds + 1) = id := Except.ok.inj hid
    have hproper : (make (World.numbered "flow" (w.flowIds + 1)) now).Proper :=
      Draft.create_proper hmake _
    obtain ⟨name, entryNode, definition, -, -, -, rfl⟩ := Draft.create_eq_ok hmake
    exact ⟨hproper, rfl, .new h.find?_next ⟨_, Nat.lt_succ_self _, Nat.le_refl _, rfl⟩ rfl⟩
  refine .bind (save_revises hmay) fun saved _ _ => ?_
  exact .bind (log_revises _ _) fun _ _ _ => .pure trivial

theorem update_times {f' : Flow} (h : d.update f now = .ok f') :
    f'.createdAt = f.createdAt ∧ f'.updatedAt = now := by
  simp only [Draft.update, bind, Except.bind, pure, Except.pure] at h
  split at h
  · cases h
  · cases h
    exact ⟨rfl, rfl⟩

theorem get_finds {may : World → Service.Request → Prop} (hmay : may w (.store (.flow id))) :
    (get id).Behaves may (fun f w' => w'.catalog = w.catalog ∧ w.catalog.find? id = some f)
      (fun _ _ => True) w := by
  unfold get
  refine .bind (m := fun f? w' => w'.catalog = w.catalog ∧ w.catalog.find? id = f?) ?_
    fun f? w' hf => ?_
  · refine Job.Behaves.request (r := .store (.flow id)) hmay (fun f? hf? => ?_) fun _ _ => trivial
    obtain ⟨ids, -, hanswer⟩ := World.answer_of_ok hf?
    exact ⟨World.catalog_answer rfl, find?_of_answer_flow hanswer⟩
  · split
    · exact .pure hf
    · trivial

/-- A flow is changed in the place of the one that it was. -/
theorem update_revises (h : w.Curated) : Revises w.flowIds now (update now id d) w := by
  unfold update
  refine .bind (get_finds trivial) fun f w' hf => ?_
  refine .bind (m := fun f' w'' => w'' = w' ∧ d.update f now = .ok f')
    (.ofExcept (fun _ hf' => ⟨rfl, hf'⟩) fun _ _ => trivial) ?_
  rintro f' _ ⟨rfl, hf'⟩
  obtain ⟨hproper, hid⟩ := h.holds.find? hf.2
  obtain ⟨hcreated, hupdated⟩ := update_times hf'
  refine .bind (save_revises ⟨Draft.update_proper hproper hf', hupdated, .old f ?_ hcreated⟩)
    fun saved _ _ => ?_
  · rw [(Draft.update_rank hf').1, hid, hf.1]
    exact hf.2
  · exact .bind (log_revises _ _) fun _ _ _ => .pure trivial

theorem delete_deletes (id : String) (w : World) :
    (delete id).Behaves
      (fun v r => v = w ∧ r = .store (.deleteFlow id) ∨ ∃ level text, r = .log level text)
      (fun _ _ => True) (fun _ _ => True) w := by
  unfold delete
  refine .bind (m := fun _ _ => True) ?_ fun found _ _ => ?_
  · exact Job.Behaves.request (r := .store (.deleteFlow id)) (.inl ⟨rfl, rfl⟩) (fun _ _ => trivial)
      fun _ _ => trivial
  split
  · exact Job.Behaves.request (r := .log _ _) (.inr ⟨_, _, rfl⟩) (fun _ _ => trivial)
      fun _ _ => trivial
  · trivial

end Editing

/-! ## Whatever happens -/

namespace World

variable {w : World}

theorem Curated.edited {α : Type} {j : Job α} {ids : Nat} {now : Moment} (h : w.Curated)
    (hj : Editing.Revises ids now j w) : (j.run w).2.Curated :=
  Job.Behaves.keeps (fun _ _ h hmay => Curated.revised h hmay) hj h

theorem Curated.delete (h : w.Curated) (id : String) : ((Editing.delete id).run w).2.Curated := by
  refine (Editing.delete_deletes id w).keeps (fun v r hv hr => ?_) h
  rcases hr with ⟨-, rfl⟩ | ⟨level, text, rfl⟩
  · exact hv.deleteFlow id
  · exact hv.spared rfl

theorem May.edits {w₀ : World} {new : String → Prop} {now : Moment} {r : Service.Request}
    (h : w.May w₀ new now r) : r.edits = false := by
  cases r with
  | store r =>
    cases r with
    | saveFlow | deleteFlow | demoteOthers => cases h
    | _ => rfl
  | desk r | log level text => rfl
  | newFlowId => cases h

/-- A catalog stays curated, whatever happens. -/
theorem Curated.after (h : w.Curated) (hkept : w.WellKept) (e : Happening) : (w.after e).Curated := by
  cases e with
  | message r now ticketId messageId text =>
    have hconducts := r.incoming_conducts (fun _ => True) now ticketId messageId text hkept
      fun _ _ => trivial
    exact hconducts.keeps (fun _ _ h hmay => Curated.spared h (May.edits hmay)) h
  | created now d => exact h.edited (Editing.create_revises h)
  | updated now id d => exact h.edited (Editing.update_revises h)
  | deleted id => exact h.delete id
  | helpdesk d | trouble t | time now => exact h.congr rfl (Nat.le_refl _)

theorem curated_of_empty (h : w.catalog = []) : w.Curated := by
  refine ⟨?_, ?_, ?_⟩ <;> simp [h, Entries.Holds, Entries.keys]

end World

end FrontDesk
