/-
The primary flow.

A call that stores a primary flow demotes the others in a request of its own, so in between there
may be several primary flows, and one that was demoted may be stored as primary again by a call that
read it before. But who stores a primary flow owes a demotion (`Job.Settles`), and of the primary
flows for which none is owed there is at most one (`World.Ranked`). When all calls have come to
their ends nothing is owed any more (`World.one_primary`).
-/
import FrontDesk.Proofs.Service.Calm
import FrontDesk.Proofs.Service.Edits
import FrontDesk.Service.Counter

namespace FrontDesk

open Calendar Service Store

variable {α β : Type}

/-! ## Jobs that are under way at the same time -/

namespace Job

/-- The turn of a job: it makes one request, if it has one left to make. -/
def turn : Job α → World → Job α × World
  | ask r next, w => (next (w.answer r).1, (w.answer r).2)
  | j, w => (j, w)

/-- Jobs and the world after some turns, each that of the job of that number. -/
def turns : List Nat → List (Job α) → World → List (Job α) × World
  | [], js, w => (js, w)
  | n :: rest, js, w =>
    match js[n]? with
    | none => turns rest js w
    | some j => turns rest (js.set n (j.turn w).1) (j.turn w).2

/-! ## Debts -/

/-- The job settles its debt: when it saves a primary flow it owes the demotion of the others, and
asks for that next. -/
inductive Settles : Option String → Job α → Prop
  | done {a : α} : Settles none (done a)
  | failed {e : Failure} : Settles none (failed e)
  | save {f : Flow} {next : Except Failure Flow → Job α}
      (hok : ∀ createdAt updatedAt,
        Settles (if f.isPrimary then some f.id else none)
          (next (.ok { f with createdAt, updatedAt })))
      (herr : ∀ e, Settles none (next (.error e))) :
      Settles none (ask (.store (.saveFlow f)) next)
  | demote {id : String} {next : Except Failure Unit → Job α}
      (hok : Settles none (next (.ok ()))) :
      Settles (some id) (ask (.store (.demoteOthers id)) next)
  | delete {id : String} {next : Except Failure Bool → Job α}
      (hnext : ∀ x, Settles none (next x)) :
      Settles none (ask (.store (.deleteFlow id)) next)
  | other {r : Service.Request} {next : Except Failure r.Answer → Job α}
      (hr : r.edits = false) (hnext : ∀ x, Settles none (next x)) : Settles none (ask r next)

namespace Settles

theorem bind {owed : Option String} {j : Job α} {f : α → Job β} (h : j.Settles owed)
    (hf : ∀ a, (f a).Settles none) : (j >>= f).Settles owed := by
  induction h with
  | done => exact hf _
  | failed => exact .failed
  | save _ _ ihok iherr => exact .save ihok iherr
  | demote _ ih => exact .demote ih
  | delete _ ih => exact .delete ih
  | other hr _ ih => exact .other hr ih

theorem map {owed : Option String} {j : Job α} (h : j.Settles owed) (f : α → β) :
    (f <$> j).Settles owed := bind h fun _ => .done

theorem request {r : Service.Request} (hr : r.edits = false) : (request r).Settles none :=
  .other hr fun x => by cases x <;> constructor

theorem ofExcept {ε : Type} {failure : ε → Failure} (x : Except ε α) :
    (ofExcept failure x).Settles none := by
  cases x <;> constructor

theorem owes_none {owed : Option String} {j : Job α} (h : j.Settles owed)
    (hend : j.result?.isSome = true) : owed = none := by
  cases h with
  | done | failed => rfl
  | save | demote | delete | other => cases hend

end Settles

/-- Each job settles the debt of its number. -/
structure AllSettle (debts : List (Option String)) (js : List (Job α)) : Prop where
  length : debts.length = js.length
  each : ∀ (n : Nat) (j : Job α), js[n]? = some j → ∃ owed, debts[n]? = some owed ∧ j.Settles owed

namespace AllSettle

variable {debts : List (Option String)} {js : List (Job α)}

theorem set (h : AllSettle debts js) {n : Nat} {owed : Option String} {j : Job α}
    (hj : j.Settles owed) : AllSettle (debts.set n owed) (js.set n j) where
  length := by simp [h.length]
  each m j' hj' := by
    by_cases hm : n = m
    · subst hm
      rw [List.getElem?_set] at hj' ⊢
      simp only [if_true, h.length] at hj' ⊢
      split at hj'
      next hlt =>
        cases hj'
        exact ⟨owed, by rw [if_pos hlt], hj⟩
      next => cases hj'
    · rw [List.getElem?_set_ne hm] at hj' ⊢
      exact h.each m j' hj'

theorem owe_none (h : AllSettle debts js) (hend : ∀ j ∈ js, j.result?.isSome = true) :
    ∀ owed ∈ debts, owed = none := by
  intro owed howed
  obtain ⟨n, hn⟩ := List.mem_iff_getElem?.1 howed
  have hlt : n < js.length := by
    rw [← h.length]
    exact (List.getElem?_eq_some_iff.1 hn).1
  obtain ⟨owed', hn', hj⟩ := h.each n js[n] (List.getElem?_eq_getElem hlt)
  rw [hn] at hn'
  cases hn'
  exact hj.owes_none (hend _ (List.getElem_mem hlt))

end AllSettle

end Job

namespace Editing

variable {now : Moment} {d : Draft} {f : Flow} {id : String}

theorem save_settles (f : Flow) : (save f).Settles none := by
  refine .save (fun createdAt updatedAt => ?_) fun e => .failed
  cases hf : f.isPrimary with
  | true =>
    simp only [if_true]
    exact .demote .done
  | false => exact .done

theorem get_settles : (get id).Settles none := by
  refine .bind (.request (r := .store (.flow id)) rfl) fun f? => ?_
  cases f? with
  | some f => exact .done
  | none => exact .failed

end Editing

theorem Edit.job_settles (e : Edit) : e.job.Settles none := by
  cases e with
  | created now d =>
    refine .map (.bind (.ofExcept _) fun make => ?_) _
    refine .bind (.request (r := .newFlowId) rfl) fun id => ?_
    refine .bind (Editing.save_settles _) fun saved => ?_
    exact .bind (.request (r := .log _ _) rfl) fun _ => .done
  | updated now id d =>
    refine .map (.bind Editing.get_settles fun f => ?_) _
    refine .bind (.ofExcept _) fun f' => ?_
    refine .bind (Editing.save_settles _) fun saved => ?_
    exact .bind (.request (r := .log _ _) rfl) fun _ => .done
  | deleted id =>
    refine .map (.delete fun x => ?_) _
    cases x with
    | error e => exact .failed
    | ok found =>
      cases found with
      | true => exact .request (r := .log _ _) rfl
      | false => exact .failed

theorem Edit.all_settle (es : List Edit) :
    Job.AllSettle (es.map fun _ => none) (es.map Edit.job) := by
  refine ⟨by simp, fun n j hj => ⟨none, ?_, ?_⟩⟩
  · rw [List.getElem?_map] at hj ⊢
    obtain ⟨e, he, -⟩ := Option.map_eq_some_iff.1 hj
    rw [he]
    rfl
  · obtain ⟨e, -, rfl⟩ := List.mem_map.1 (List.mem_of_getElem? hj)
    exact e.job_settles

/-! ## What is owed -/

namespace World

variable {w : World}

/-- The primary flows of the catalog. -/
def primaries (w : World) : List Flow := w.catalog.values.filter Flow.isPrimary

/-- There is at most one primary flow for which no demotion is owed. Demotions do not fail. -/
structure Ranked (w : World) (debts : List (Option String)) : Prop where
  keys : w.catalog.keys.Nodup
  one : ∀ e ∈ w.catalog, ∀ e' ∈ w.catalog, e.2.isPrimary = true → e'.2.isPrimary = true →
    some e.1 ∉ debts → some e'.1 ∉ debts → e.1 = e'.1
  demotes : ∀ n id, w.trouble.outage n (.store (.demoteOthers id)) = false

theorem Ranked.length_le_one {debts : List (Option String)} (h : w.Ranked debts)
    (hnone : ∀ owed ∈ debts, owed = none) : w.primaries.length ≤ 1 := by
  refine (Entries.length_filter_le_one h.keys Flow.isPrimary).2 fun e he e' he' hp hp' => ?_
  have hfree : ∀ key : String, some key ∉ debts := fun key hkey => nomatch hnone _ hkey
  exact h.one e he e' he' hp hp' (hfree _) (hfree _)

theorem ranked_of_length_le_one (hkeys : w.catalog.keys.Nodup) (hone : w.primaries.length ≤ 1)
    (hdemote : ∀ n id, w.trouble.outage n (.store (.demoteOthers id)) = false)
    (debts : List (Option String)) : w.Ranked debts where
  keys := hkeys
  one e he e' he' hp hp' _ _ :=
    (Entries.length_filter_le_one hkeys Flow.isPrimary).1 hone e he e' he' hp hp'
  demotes := hdemote

namespace Ranked

variable {debts : List (Option String)}

theorem congr (h : w.Ranked debts) {w' : World} (hcatalog : w'.catalog = w.catalog)
    (htrouble : w'.trouble = w.trouble) : w'.Ranked debts where
  keys := by rw [hcatalog]; exact h.keys
  one := by rw [hcatalog]; exact h.one
  demotes := by rw [htrouble]; exact h.demotes

theorem mem_set {debts : List (Option String)} {n : Nat} (hn : debts[n]? = some none)
    {key : String} (h : some key ∈ debts) (owed : Option String) : some key ∈ debts.set n owed := by
  obtain ⟨m, hm⟩ := List.mem_iff_getElem?.1 h
  have hne : n ≠ m := by
    intro heq
    rw [heq, hm] at hn
    cases hn
  exact List.mem_iff_getElem?.2 ⟨m, by rw [List.getElem?_set_ne hne, hm]⟩

/-- A flow is saved. If it is primary, the others are to be demoted. -/
theorem save (h : w.Ranked debts) {w' : World} (htrouble : w'.trouble = w.trouble) {n : Nat}
    (hn : debts[n]? = some none) {f : Flow} (hcatalog : w'.catalog = w.catalog.put f.id f) :
    w'.Ranked (debts.set n (if f.isPrimary then some f.id else none)) where
  keys := by rw [hcatalog]; exact Entries.nodup_keys_put h.keys _ _
  one := by
    have hold : ∀ e ∈ w'.catalog, e.2.isPrimary = true →
        some e.1 ∉ debts.set n (if f.isPrimary then some f.id else none) →
        e ∈ w.catalog ∧ some e.1 ∉ debts := by
      intro e he hp hfree
      rw [hcatalog] at he
      rcases Entries.mem_put he with he | rfl
      · exact ⟨he, fun hmem => hfree (mem_set hn hmem _)⟩
      · -- for the flow itself a demotion is owed now
        simp only at hp hfree
        rw [hp, if_pos rfl] at hfree
        have hlt : n < debts.length := (List.getElem?_eq_some_iff.1 hn).1
        exact absurd (List.mem_set hlt _) hfree
    intro e he e' he' hp hp' hfree hfree'
    obtain ⟨hmem, hfree⟩ := hold e he hp hfree
    obtain ⟨hmem', hfree'⟩ := hold e' he' hp' hfree'
    exact h.one e hmem e' hmem' hp hp' hfree hfree'
  demotes := by rw [htrouble]; exact h.demotes

/-- All flows but one are demoted. -/
theorem demote (h : w.Ranked debts) {w' : World} (htrouble : w'.trouble = w.trouble)
    (id : String) (hcatalog : w'.catalog = demotedBut id w.catalog)
    (debts' : List (Option String)) :
    w'.Ranked debts' where
  keys := by
    have hkeys : w'.catalog.keys = w.catalog.keys := by
      rw [hcatalog, demotedBut, Entries.keys, List.map_map]
      rfl
    rw [hkeys]
    exact h.keys
  one := by
    have hid : ∀ e ∈ w'.catalog, e.2.isPrimary = true → e.1 = id := by
      intro e he hp
      rw [hcatalog] at he
      obtain ⟨⟨k, f⟩, -, rfl⟩ := List.mem_map.1 he
      simp only at hp ⊢
      split at hp
      · cases hp
      next hk => simpa [hp] using hk
    intro e he e' he' hp hp' _ _
    rw [hid e he hp, hid e' he' hp']
  demotes := by rw [htrouble]; exact h.demotes

theorem delete (h : w.Ranked debts) {w' : World} (htrouble : w'.trouble = w.trouble)
    {p : String × Flow → Bool} (hcatalog : w'.catalog = w.catalog.filter p) :
    w'.Ranked debts where
  keys := by rw [hcatalog]; exact Entries.nodup_keys_filter h.keys p
  one := by
    intro e he e' he'
    rw [hcatalog] at he he'
    exact h.one e (List.mem_filter.1 he).1 e' (List.mem_filter.1 he').1
  demotes := by rw [htrouble]; exact h.demotes

/-- **The turn of a job that settles its debts** leaves one primary flow at most for which no
demotion is owed. -/
theorem turn (h : w.Ranked debts) {n : Nat} {j : Job α} {owed : Option String}
    (hj : j.Settles owed) (hn : debts[n]? = some owed) :
    ∃ owed', (j.turn w).1.Settles owed' ∧ (j.turn w).2.Ranked (debts.set n owed') := by
  have hsame : debts.set n owed = debts := by
    obtain ⟨hlt, rfl⟩ := List.getElem?_eq_some_iff.1 hn
    exact List.set_getElem_self hlt
  cases hj with
  | done => exact ⟨none, .done, by rw [hsame]; exact h⟩
  | failed => exact ⟨none, .failed, by rw [hsame]; exact h⟩
  | @other r next hr hnext =>
    refine ⟨none, hnext _, ?_⟩
    rw [hsame]
    exact h.congr (catalog_answer hr) (w.answer_trouble r).1
  | @save f next hok herr =>
    have htrouble := (w.answer_trouble (.store (.saveFlow f))).1
    simp only [Job.turn]
    rcases w.answer_store (.saveFlow f) with ⟨hstore, hx, -⟩ | ⟨id, hx, hstore⟩
    · refine ⟨none, by rw [hx]; exact herr _, ?_⟩
      rw [hsame]
      exact h.congr (congrArg Store.catalog hstore) htrouble
    · rcases answer_saveFlow w.store w.clock id f with
        ⟨e, hanswer⟩ | ⟨createdAt, updatedAt, st', hanswer, hcatalog⟩
      · rw [hanswer] at hx hstore
        refine ⟨none, by rw [hx]; exact herr _, ?_⟩
        rw [hsame]
        exact h.congr (congrArg Store.catalog hstore) htrouble
      · rw [hanswer] at hx hstore
        refine ⟨_, by rw [hx]; exact hok createdAt updatedAt, ?_⟩
        refine h.save (f := { f with createdAt, updatedAt }) htrouble hn ?_
        rw [catalog, hstore]
        exact hcatalog
  | @demote id next hok =>
    have htrouble := (w.answer_trouble (.store (.demoteOthers id))).1
    simp only [Job.turn]
    rcases w.answer_store (.demoteOthers id) with ⟨-, -, hfails⟩ | ⟨id', hx, hstore⟩
    · rw [h.demotes] at hfails
      cases hfails
    · have hanswer : (w.store.answer w.clock id' (.demoteOthers id)).1 = .ok () := by
        cases w.store <;> rfl
      refine ⟨none, by rw [hx, hanswer]; exact hok, h.demote htrouble id ?_ _⟩
      rw [catalog, hstore]
      exact catalog_demoteOthers id
  | @delete id next hnext =>
    have htrouble := (w.answer_trouble (.store (.deleteFlow id))).1
    refine ⟨none, hnext _, ?_⟩
    rw [hsame]
    simp only [Job.turn]
    rcases w.answer_store (.deleteFlow id) with ⟨hstore, -, -⟩ | ⟨id', -, hstore⟩
    · exact h.congr (congrArg Store.catalog hstore) htrouble
    · rcases catalog_deleteFlow w.store w.clock id' id with hc | hc
      · exact h.congr (by rw [catalog, hstore]; exact hc) htrouble
      · exact h.delete htrouble (by rw [catalog, hstore]; exact hc)

/-- Whatever turns are taken, jobs that settle their debts go on doing so. -/
theorem turns (h : w.Ranked debts) {js : List (Job α)} (hjs : Job.AllSettle debts js)
    (ns : List Nat) :
    ∃ debts', Job.AllSettle debts' (Job.turns ns js w).1 ∧ (Job.turns ns js w).2.Ranked debts' := by
  induction ns generalizing js w debts with
  | nil => exact ⟨debts, hjs, h⟩
  | cons n rest ih =>
    simp only [Job.turns]
    split
    · exact ih h hjs
    next j hj =>
    obtain ⟨owed, hn, hsettles⟩ := hjs.each n j hj
    obtain ⟨owed', hsettles', h'⟩ := h.turn hsettles hn
    exact ih h' (hjs.set hsettles')

theorem run {j : Job α} {owed : Option String} (hj : j.Settles owed) (h : w.Ranked [owed]) :
    (j.run w).2.Ranked [none] := by
  induction j generalizing w owed with
  | done a =>
    cases hj
    exact h
  | failed e =>
    cases hj
    exact h
  | ask r next ih =>
    obtain ⟨owed', hsettles, h'⟩ := h.turn hj (n := 0) rfl
    exact ih _ hsettles h'

theorem edited (h : w.Ranked [none]) (es : List Edit) : (w.edited es).Ranked [none] := by
  induction es generalizing w with
  | nil => exact h
  | cons e rest ih => exact ih (h.run e.job_settles)

end Ranked

end World

/-! ## What a call leaves behind -/

namespace Job

/-- If the job, run in this world, returns something, then it is as wanted, and so is the world. -/
def Leads (j : Job α) (w : World) (wanted : α → World → Prop) : Prop :=
  ∀ a, (j.run w).1 = .ok a → wanted a (j.run w).2

namespace Leads

variable {w : World} {j : Job α}

theorem any : j.Leads w fun _ _ => True := fun _ _ => trivial

theorem pure {wanted : α → World → Prop} {a : α} (h : wanted a w) :
    (Pure.pure a : Job α).Leads w wanted := by
  rintro _ ⟨⟩
  exact h

theorem bind {mid : α → World → Prop} {wanted : β → World → Prop} {f : α → Job β}
    (h : j.Leads w mid) (hf : ∀ a w', mid a w' → (f a).Leads w' wanted) :
    (j >>= f).Leads w wanted := by
  intro b hb
  rw [run_bind] at hb ⊢
  cases hj : (j.run w).1 with
  | error e =>
    rw [hj] at hb
    cases hb
  | ok a =>
    rw [hj] at hb
    exact hf a _ (h a hj) b hb

theorem map {wanted : β → World → Prop} {f : α → β} (h : j.Leads w fun a w' => wanted (f a) w') :
    (f <$> j).Leads w wanted := bind h fun _ _ ha => pure ha

theorem request {r : Service.Request} {wanted : r.Answer → World → Prop}
    (h : ∀ a, (w.answer r).1 = .ok a → wanted a (w.answer r).2) :
    (Job.request r).Leads w wanted := by
  intro a ha
  rw [run_request] at ha ⊢
  exact h a ha

end Leads

end Job

namespace Editing

variable {now : Moment} {d : Draft} {f : Flow} {id : String} {w : World}

/-- The flow that was stored is in the catalog. -/
def Kept (f : Flow) (w : World) : Prop := (f.id, f) ∈ w.catalog

theorem saveFlow_kept : (Job.store (.saveFlow f)).Leads w Kept := by
  refine Job.Leads.request fun saved hsaved => ?_
  rcases w.answer_store (.saveFlow f) with ⟨-, hx, -⟩ | ⟨id, hx, hstore⟩
  · rw [hx] at hsaved
    cases hsaved
  rcases answer_saveFlow w.store w.clock id f with
    ⟨e, hanswer⟩ | ⟨createdAt, updatedAt, st', hanswer, hcatalog⟩
  · rw [hx, hanswer] at hsaved
    cases hsaved
  · rw [hx, hanswer] at hsaved
    cases hsaved
    rw [Kept, World.catalog, hstore, hanswer, hcatalog]
    exact Entries.mem_put_self _ _ _

theorem demoteOthers_kept (h : Kept f w) :
    (Job.store (.demoteOthers f.id)).Leads w fun _ w' => Kept f w' := by
  refine Job.Leads.request fun _ hx => ?_
  rcases w.answer_store (.demoteOthers f.id) with ⟨-, hfails, -⟩ | ⟨id, -, hstore⟩
  · rw [hfails] at hx
    cases hx
  · rw [Kept, World.catalog, hstore, catalog_demoteOthers]
    exact List.mem_map.2 ⟨(f.id, f), h, by simp⟩

theorem save_kept : (save f).Leads w Kept := by
  unfold save
  refine Job.Leads.bind saveFlow_kept fun saved w' h => ?_
  split
  · exact Job.Leads.bind (demoteOthers_kept h) fun _ _ h => Job.Leads.pure h
  · exact Job.Leads.pure h

theorem log_kept (h : Kept f w) {level : Level} {text : String} :
    (Job.log level text).Leads w fun _ w' => Kept f w' :=
  Job.Leads.request fun _ _ => by
    rw [Kept, World.catalog_answer rfl]
    exact h

theorem create_kept : (create now d).Leads w Kept := by
  unfold create
  refine Job.Leads.bind Job.Leads.any fun make _ _ => ?_
  refine Job.Leads.bind Job.Leads.any fun id _ _ => ?_
  refine Job.Leads.bind save_kept fun saved _ h => ?_
  exact Job.Leads.bind (log_kept h) fun _ _ h => Job.Leads.pure h

theorem update_kept : (update now id d).Leads w Kept := by
  unfold update
  refine Job.Leads.bind Job.Leads.any fun old _ _ => ?_
  refine Job.Leads.bind Job.Leads.any fun new _ _ => ?_
  refine Job.Leads.bind save_kept fun saved _ h => ?_
  exact Job.Leads.bind (log_kept h) fun _ _ h => Job.Leads.pure h

end Editing

/-- The flow that a call stored is in the catalog. -/
theorem Edit.job_kept (e : Edit) (w : World) :
    e.job.Leads w fun f? w' => ∀ f, f? = some f → Editing.Kept f w' := by
  cases e with
  | created now d =>
    refine Job.Leads.map fun f hf => ?_
    rintro _ ⟨⟩
    exact Editing.create_kept f hf
  | updated now id d =>
    refine Job.Leads.map fun f hf => ?_
    rintro _ ⟨⟩
    exact Editing.update_kept f hf
  | deleted id => exact Job.Leads.map fun _ _ _ hf => nomatch hf

/-! ## One primary flow -/

namespace World

variable {w : World}

/-- **There is one primary flow at most** when all calls have come to their ends, in whatever turns
they were dealt with. So it is after calls that follow one upon another, and a flow that the last
of these stored as primary is the only one. -/
theorem one_primary (hkeys : w.catalog.keys.Nodup) (hone : w.primaries.length ≤ 1)
    (hdemote : ∀ n id, w.trouble.outage n (.store (.demoteOthers id)) = false) (es : List Edit) :
    (∀ ns : List Nat, (∀ j ∈ (Job.turns ns (es.map Edit.job) w).1, j.result?.isSome = true) →
      (Job.turns ns (es.map Edit.job) w).2.primaries.length ≤ 1) ∧
    (w.edited es).primaries.length ≤ 1 ∧
    ∀ (e : Edit) (f : Flow), (e.job.run (w.edited es)).1 = .ok (some f) → f.isPrimary = true →
      (w.edited (es ++ [e])).primaries = [f] := by
  have hranked (debts : List (Option String)) : w.Ranked debts :=
    ranked_of_length_le_one hkeys hone hdemote debts
  have hedited (es : List Edit) : (w.edited es).primaries.length ≤ 1 :=
    ((hranked [none]).edited es).length_le_one (by simp)
  refine ⟨fun ns hend => ?_, hedited es, fun e f hf hp => ?_⟩
  · obtain ⟨debts, hsettle, h⟩ := (hranked _).turns (Edit.all_settle es) ns
    exact h.length_le_one (hsettle.owe_none hend)
  · have hrun : w.edited (es ++ [e]) = (e.job.run (w.edited es)).2 := by
      simp [World.edited, List.foldl_append]
    have hmem : f ∈ (w.edited (es ++ [e])).primaries := by
      rw [hrun]
      have hkept := e.job_kept _ _ hf f rfl
      exact List.mem_filter.2 ⟨List.mem_map.2 ⟨_, hkept, rfl⟩, hp⟩
    have hlength := hedited (es ++ [e])
    rcases hall : (w.edited (es ++ [e])).primaries with _ | ⟨g, _ | ⟨g', rest⟩⟩
    · rw [hall] at hmem
      cases hmem
    · rw [hall] at hmem
      rw [List.mem_singleton.1 hmem]
    · rw [hall] at hlength
      simp at hlength

end World

/-- A world with one flow in it, a primary one. -/
def led : World :=
  flowless.edited [.created (.utc 0) { Draft.greeter with isPrimary := some (some true) }]

/-- That flow gets another name, while a second primary flow is created. -/
def rivalry : List Edit :=
  [.updated (.utc 1) "flow-1" { name := some (some "Host") },
    .created (.utc 1) { Draft.greeter with isPrimary := some (some true) }]

/-- The flow to be renamed is read before the second one is stored, and stored as primary again
after it was demoted. -/
theorem rivalry_one_primary :
    led.catalog.keys.Nodup ∧ led.primaries.length ≤ 1 ∧
      (∀ n id, led.trouble.outage n (.store (.demoteOthers id)) = false) ∧
      let ended := Job.turns [0, 1, 1, 1, 1, 0, 0, 0] (rivalry.map Edit.job) led
      (Job.turns [0, 1, 1] (rivalry.map Edit.job) led).2.primaries.length = 2 ∧
        (∀ j ∈ ended.1, j.result?.isSome = true) ∧ ended.2.primaries.length ≤ 1 := by
  have hkeys : led.catalog.keys.Nodup := by decide +kernel
  have hone : led.primaries.length ≤ 1 := by decide +kernel
  have hend : ∀ j ∈ (Job.turns [0, 1, 1, 1, 1, 0, 0, 0] (rivalry.map Edit.job) led).1,
      j.result?.isSome = true := by decide +kernel
  have hdemote : ∀ n id, led.trouble.outage n (.store (.demoteOthers id)) = false := by
    intro n id
    rw [show led.trouble = {} by rfl]
  exact ⟨hkeys, hone, hdemote, by decide +kernel, hend,
    (World.one_primary hkeys hone hdemote rivalry).1 _ hend⟩

end FrontDesk
