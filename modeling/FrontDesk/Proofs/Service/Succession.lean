/-
How one primary flow succeeds another.

A call stores its flow as primary first and demotes the others after that, in a request of its own.
So two calls can lose the primary flow between them: each demotes the flow of the other
(`rivals_demoted`). So does an update that stores, not as primary, a flow that was promoted after it
was read.

There are no other ways. Where no call demotes the others while another call is about to do so for
a flow of its own (`Job.orderly`), and no primary flow is deleted or stored as another one, there is
a primary flow in the end if there ever was one (`World.one_primary_left`). Calls that follow one
upon another lose it only on purpose (`World.Curated.edited_led`).
-/
import FrontDesk.Proofs.Service.Curated
import FrontDesk.Proofs.Service.Primary

namespace FrontDesk

open Calendar Service Store

variable {α β : Type}

/-! ## Ranks -/

/-- What takes no rank from the flow under an id. -/
def Service.Request.KeepsRank (id : String) : Service.Request → Prop
  | .store (.saveFlow f) => f.isPrimary = true ∨ f.id ≠ id
  | .store (.deleteFlow key) => key ≠ id
  | .store (.demoteOthers key) => key = id
  | _ => True

namespace World

variable {w : World} {id : String}

/-- Whether the flow under an id is primary. -/
def leads (w : World) (id : String) : Bool := (w.catalog.find? id).any Flow.isPrimary

theorem primaries_ne_nil (hkeys : w.catalog.keys.Nodup) :
    w.primaries ≠ [] ↔ ∃ id, w.leads id = true := by
  constructor
  · intro hne
    obtain ⟨f, hf⟩ := List.exists_mem_of_ne_nil _ hne
    obtain ⟨hmem, hp⟩ := List.mem_filter.1 hf
    obtain ⟨⟨key, f⟩, he, rfl⟩ := List.mem_map.1 hmem
    exact ⟨key, by rw [leads, Entries.find?_of_mem_nodup hkeys he]; exact hp⟩
  · rintro ⟨id, hid⟩
    obtain ⟨f, hf, hp⟩ := (Option.any_eq_true _ _).1 hid
    have hmem : f ∈ w.catalog.values := List.mem_map.2 ⟨(id, f), Entries.mem_of_find? hf, rfl⟩
    exact List.ne_nil_of_mem (List.mem_filter.2 ⟨hmem, hp⟩)

/-- A flow keeps its rank where a request takes none from it. -/
theorem leads_answer {r : Service.Request} (h : w.leads id = true) (hr : r.KeepsRank id) :
    (w.answer r).2.leads id = true := by
  have hsame {w' : World} (hcatalog : w'.catalog = w.catalog) : w'.leads id = true := by
    rw [leads, hcatalog]
    exact h
  cases r with
  | store r =>
    cases r with
    | saveFlow f =>
      rcases w.catalog_saved f with hc | ⟨createdAt, updatedAt, hput⟩
      · exact hsame hc
      rw [leads, hput, Entries.find?_put]
      split
      next hid =>
        rcases hr with hp | hne
        · exact hp
        · exact absurd hid.symm hne
      next => exact h
    | deleteFlow key =>
      rcases w.catalog_deleted key with hc | hrest
      · exact hsame hc
      rw [leads, hrest, Entries.find?_remove, if_neg (by simpa using Ne.symm hr)]
      exact h
    | demoteOthers key =>
      rcases w.catalog_demoted key with hc | hdemoted
      · exact hsame hc
      obtain rfl : key = id := hr
      rw [leads, hdemoted, find?_demotedBut]
      simpa [leads] using h
    | _ => exact hsame (catalog_answer rfl)
  | desk r | log level text | newFlowId => exact hsame (catalog_answer rfl)

theorem answer_saved (w : World) (f : Flow) :
    (∃ e, (w.answer (.store (.saveFlow f))).1 = .error e) ∨
      ∃ createdAt updatedAt,
        (w.answer (.store (.saveFlow f))).1 = .ok { f with createdAt, updatedAt } ∧
        (f.isPrimary = true → (w.answer (.store (.saveFlow f))).2.leads f.id = true) := by
  rcases w.answer_store (.saveFlow f) with ⟨-, hx, -⟩ | ⟨fresh, hx, hstore⟩
  · exact .inl ⟨_, hx⟩
  rcases answer_saveFlow w.store w.clock fresh f with
    ⟨e, hanswer⟩ | ⟨createdAt, updatedAt, st, hanswer, hcatalog⟩
  · exact .inl ⟨_, by rw [hx, hanswer]; rfl⟩
  · refine .inr ⟨createdAt, updatedAt, by rw [hx, hanswer]; rfl, fun hp => ?_⟩
    rw [leads, catalog, hstore, hanswer, hcatalog, Entries.find?_put, if_pos (by simp)]
    exact hp

end World

/-! ## Calls that promote -/

namespace Job

/-- The flow but for which the job is about to demote all. -/
def promotes : Job α → Option String
  | ask (.store (.demoteOthers id)) _ => some id
  | _ => none

/-- Who owes a demotion is about to make it, and nobody else is. -/
theorem Settles.promotes_eq {owed : Option String} {j : Job α} (h : j.Settles owed) :
    j.promotes = owed := by
  cases h with
  | done | failed | save | demote | delete => rfl
  | @other r next hr _ =>
    cases r with
    | store r =>
      cases r with
      | demoteOthers => cases hr
      | _ => rfl
    | desk | log | newFlowId => rfl

theorem Settles.leads_turn {owed : Option String} {j : Job α} {w : World} (h : j.Settles owed)
    (hdemote : ∀ n id, w.trouble.outage n (.store (.demoteOthers id)) = false) {id : String}
    (hid : (j.turn w).1.promotes = some id) : (j.turn w).2.leads id = true := by
  have nothing {j' : Job α} (hj : j'.Settles none) : j'.promotes ≠ some id := by
    rw [hj.promotes_eq]
    exact fun h => nomatch h
  cases h with
  | done => exact absurd hid (nothing .done)
  | failed => exact absurd hid (nothing .failed)
  | delete hnext => exact absurd hid (nothing (hnext _))
  | other hr hnext => exact absurd hid (nothing (hnext _))
  | @demote key next hok =>
    rcases w.answer_store (.demoteOthers key) with ⟨-, -, hfails⟩ | ⟨fresh, hx, -⟩
    · rw [hdemote] at hfails
      cases hfails
    · have hanswer : (w.store.answer w.clock fresh (.demoteOthers key)).1 = .ok () := by
        cases w.store <;> rfl
      rw [hanswer] at hx
      simp only [turn, hx] at hid
      exact absurd hid (nothing hok)
  | @save f next hok herr =>
    simp only [turn] at hid ⊢
    rcases w.answer_saved f with ⟨e, hx⟩ | ⟨createdAt, updatedAt, hx, hleads⟩
    · rw [hx] at hid
      exact absurd hid (nothing (herr e))
    · rw [hx, (hok createdAt updatedAt).promotes_eq] at hid
      split at hid
      next hp =>
        cases hid
        exact hleads hp
      next => cases hid

/-- What the job returns is so, unless it saved a primary flow before. -/
inductive Unless (plain : α → Prop) : Job α → Prop
  | done {a : α} (h : plain a) : Unless plain (done a)
  | failed {e : Failure} : Unless plain (failed e)
  | save {f : Flow} {next : Except Failure Flow → Job α}
      (hok : f.isPrimary = false →
        ∀ createdAt updatedAt, Unless plain (next (.ok { f with createdAt, updatedAt })))
      (herr : ∀ e, Unless plain (next (.error e))) :
      Unless plain (ask (.store (.saveFlow f)) next)
  | other {r : Service.Request} {next : Except Failure r.Answer → Job α}
      (hnext : ∀ x, Unless plain (next x)) : Unless plain (ask r next)

namespace Unless

variable {plain : α → Prop} {plain' : β → Prop}

theorem mono {plain' : α → Prop} {j : Job α} (h : j.Unless plain)
    (hplain : ∀ a, plain a → plain' a) : j.Unless plain' := by
  induction h with
  | done h => exact .done (hplain _ h)
  | failed => exact .failed
  | save _ _ ihok iherr => exact .save ihok iherr
  | other _ ih => exact .other ih

theorem bind {j : Job α} {f : α → Job β} (h : j.Unless plain)
    (hf : ∀ a, plain a → (f a).Unless plain') : (j >>= f).Unless plain' := by
  induction h with
  | done h => exact hf _ h
  | failed => exact .failed
  | save _ _ ihok iherr => exact .save ihok iherr
  | other _ ih => exact .other ih

theorem map {f : α → β} {j : Job α} (h : j.Unless fun a => plain' (f a)) :
    (f <$> j).Unless plain' := bind h fun _ ha => .done ha

theorem request (r : Service.Request) : (Job.request r).Unless fun _ => True :=
  .other fun x => by
    cases x with
    | ok a => exact .done trivial
    | error e => exact .failed

theorem ofExcept {ε : Type} {failure : ε → Failure} (x : Except ε α) :
    (Job.ofExcept failure x).Unless fun _ => True := by
  cases x with
  | ok a => exact .done trivial
  | error e => exact .failed

theorem turn {j : Job α} {w : World} (h : j.Unless plain) :
    (∃ id, (j.turn w).2.leads id = true) ∨ (j.turn w).1.Unless plain := by
  cases h with
  | done h => exact .inr (.done h)
  | failed => exact .inr .failed
  | other hnext => exact .inr (hnext _)
  | @save f next hok herr =>
    simp only [Job.turn]
    rcases w.answer_saved f with ⟨e, hx⟩ | ⟨createdAt, updatedAt, hx, hleads⟩
    · rw [hx]
      exact .inr (herr e)
    · cases hp : f.isPrimary with
      | true => exact .inl ⟨f.id, hleads hp⟩
      | false =>
        rw [hx]
        exact .inr (hok hp createdAt updatedAt)

end Unless

end Job

/-- No primary flow was stored by a call with this result. -/
def Edit.Plain (f? : Option Flow) : Prop := ∀ f, f? = some f → f.isPrimary = false

namespace Editing

theorem save_plain (f : Flow) : (save f).Unless fun saved => saved.isPrimary = false := by
  refine .save (fun hp createdAt updatedAt => ?_) fun e => .failed
  simp only [hp]
  exact .done rfl

theorem create_plain (now : Moment) (d : Draft) :
    (create now d).Unless fun saved => saved.isPrimary = false := by
  refine .bind (.ofExcept _) fun make _ => ?_
  refine .bind (.request .newFlowId) fun id _ => ?_
  refine .bind (save_plain _) fun saved hsaved => ?_
  exact .bind (.request (.log _ _)) fun _ _ => .done hsaved

theorem get_plain (id : String) : (get id).Unless fun _ => True := by
  refine .bind (.request (.store (.flow id))) fun f? _ => ?_
  cases f? with
  | some f => exact .done trivial
  | none => exact .failed

theorem update_plain (now : Moment) (id : String) (d : Draft) :
    (update now id d).Unless fun saved => saved.isPrimary = false := by
  refine .bind (get_plain id) fun f _ => ?_
  refine .bind (.ofExcept _) fun f' _ => ?_
  refine .bind (save_plain _) fun saved hsaved => ?_
  exact .bind (.request (.log _ _)) fun _ _ => .done hsaved

theorem delete_plain (id : String) : (delete id).Unless fun _ => True := by
  refine .bind (.request (.store (.deleteFlow id))) fun found _ => ?_
  cases found with
  | true => exact .request (.log _ _)
  | false => exact .failed

end Editing

theorem Edit.job_plain (e : Edit) : e.job.Unless Edit.Plain := by
  cases e with
  | created now d =>
    exact .map ((Editing.create_plain now d).mono fun saved h => by rintro _ ⟨⟩; exact h)
  | updated now id d =>
    exact .map ((Editing.update_plain now id d).mono fun saved h => by rintro _ ⟨⟩; exact h)
  | deleted id => exact .map ((Editing.delete_plain id).mono fun _ _ _ h => nomatch h)

/-! ## Turns -/

namespace Job

/-- Whether the turn of a job takes no rank that is to be kept: it saves no flow over a primary one
unless as primary, deletes none that is primary, and demotes the others only where no job is about
to do so for another flow. -/
def respects (js : List (Job α)) (w : World) : Job α → Bool
  | ask (.store (.saveFlow f)) _ => f.isPrimary || !w.leads f.id
  | ask (.store (.deleteFlow id)) _ => !w.leads id
  | ask (.store (.demoteOthers id)) _ => js.all fun j => j.promotes.all (· == id)
  | _ => true

/-- Whether all turns are of that kind. -/
def orderly : List Nat → List (Job α) → World → Bool
  | [], _, _ => true
  | n :: rest, js, w =>
    match js[n]? with
    | none => orderly rest js w
    | some j => j.respects js w && orderly rest (js.set n (j.turn w).1) (j.turn w).2

variable {js : List (Job α)} {w : World}

/-- A primary flow is still primary after such a turn, unless another one is promoted by it. -/
theorem leads_turn {j : Job α} (hj : j.respects js w = true) {id : String} (h : w.leads id = true)
    (hpromotes : ∀ key, j.promotes = some key → key = id) : (j.turn w).2.leads id = true := by
  cases j with
  | done | failed => exact h
  | ask r next =>
    refine World.leads_answer h ?_
    cases r with
    | store r =>
      cases r with
      | saveFlow f =>
        rcases Bool.or_eq_true_iff.1 hj with hp | hfree
        · exact .inl hp
        · refine .inr ?_
          rintro rfl
          rw [h] at hfree
          cases hfree
      | deleteFlow key =>
        rintro rfl
        simp only [respects, h] at hj
        cases hj
      | demoteOthers key => exact hpromotes key rfl
      | _ => trivial
    | desk r | log level text | newFlowId => trivial

/-- Where a job demotes the others, no other job is about to do so for another flow. -/
theorem promotes_of_respects {j j' : Job α} (hj : j.respects js w = true) {key id : String}
    (hkey : j.promotes = some key) (hj' : j' ∈ js) (hid : j'.promotes = some id) : id = key := by
  unfold promotes at hkey
  split at hkey
  next key' next =>
    cases hkey
    have hsame := List.all_eq_true.1 hj j' hj'
    rw [hid] at hsame
    exact eq_of_beq hsame
  next => cases hkey

end Job

namespace World

variable {w : World} {debts : List (Option String)} {js : List (Job α)}

/-- Calls are under way: the flows that are about to be promoted are primary already. -/
structure Led (w : World) (debts : List (Option String)) (js : List (Job α)) : Prop where
  ranked : w.Ranked debts
  settle : Job.AllSettle debts js
  promoted : ∀ j ∈ js, ∀ id, j.promotes = some id → w.leads id = true

namespace Led

/-- **A turn that takes no rank which is to be kept**: some flow is primary after it if one was
before, or if a call may have stored one. -/
theorem turn {plain : α → Prop} (h : w.Led debts js) {n : Nat} {j : Job α} (hn : js[n]? = some j)
    (hj : j.respects js w = true) :
    (∃ debts', (j.turn w).2.Led debts' (js.set n (j.turn w).1)) ∧
      ((∃ id, w.leads id = true) → ∃ id, (j.turn w).2.leads id = true) ∧
      ((∀ j ∈ js, j.Unless plain) →
        (∃ id, (j.turn w).2.leads id = true) ∨ ∀ j' ∈ js.set n (j.turn w).1, j'.Unless plain) := by
  have hmem := List.mem_of_getElem? hn
  obtain ⟨owed, hn', hsettles⟩ := h.settle.each n j hn
  obtain ⟨owed', hsettles', hranked⟩ := h.ranked.turn hsettles hn'
  refine ⟨⟨debts.set n owed', hranked, h.settle.set hsettles', fun j' hj' id hid => ?_⟩,
    fun ⟨id, hid⟩ => ?_, fun hplain => ?_⟩
  · rcases List.mem_or_eq_of_mem_set hj' with hold | rfl
    · exact Job.leads_turn hj (h.promoted j' hold id hid) fun key hkey =>
        (Job.promotes_of_respects hj hkey hold hid).symm
    · exact hsettles.leads_turn h.ranked.demotes hid
  · cases hp : j.promotes with
    | none => exact ⟨id, Job.leads_turn hj hid fun key hkey => by rw [hp] at hkey; cases hkey⟩
    | some key =>
      refine ⟨key, Job.leads_turn hj (h.promoted j hmem key hp) fun key' hkey => ?_⟩
      rw [hp] at hkey
      exact (Option.some.inj hkey).symm
  · refine (hplain j hmem).turn.imp_right fun hnext j' hj' => ?_
    rcases List.mem_or_eq_of_mem_set hj' with hold | rfl
    · exact hplain j' hold
    · exact hnext

theorem turns (plain : α → Prop) (h : w.Led debts js) {ns : List Nat}
    (horderly : Job.orderly ns js w = true) :
    (∃ debts', (Job.turns ns js w).2.Led debts' (Job.turns ns js w).1) ∧
      ((∃ id, w.leads id = true) → ∃ id, (Job.turns ns js w).2.leads id = true) ∧
      ((∀ j ∈ js, j.Unless plain) → (∃ id, (Job.turns ns js w).2.leads id = true) ∨
        ∀ j ∈ (Job.turns ns js w).1, j.Unless plain) := by
  induction ns generalizing js w debts with
  | nil => exact ⟨⟨debts, h⟩, fun hled => hled, .inr⟩
  | cons n rest ih =>
    cases hj : js[n]? with
    | none =>
      simp only [Job.orderly, Job.turns, hj] at horderly ⊢
      exact ih h horderly
    | some j =>
      simp only [Job.orderly, Job.turns, hj] at horderly ⊢
      obtain ⟨hrespects, hrest⟩ := Bool.and_eq_true_iff.1 horderly
      obtain ⟨⟨debts', h'⟩, hled, hplain⟩ := h.turn hj hrespects
      obtain ⟨h'', hled', hplain'⟩ := ih h' hrest
      refine ⟨h'', fun hbefore => hled' (hled hbefore), fun hbefore => ?_⟩
      rcases hplain hbefore with hnow | hnow
      · exact .inl (hled' hnow)
      · exact hplain' hnow

end Led

/-! ## Calls that follow one upon another -/

/-- Requests that leave some flow primary, if one was. -/
def LeavesLed (w : World) (r : Service.Request) : Prop :=
  ∀ id, w.leads id = true → ∃ id, w.leads id = true ∧ r.KeepsRank id

end World

/-- Whether a call takes no rank on purpose. -/
def Edit.Upholds : Edit → Prop
  | created _ _ => True
  | updated _ _ d => d.isPrimary ≠ some none ∧ d.isPrimary ≠ some (some false)
  | deleted _ => False

theorem Draft.update_upholds {d : Draft} {f f' : Flow} {now : Moment} (h : d.update f now = .ok f')
    (hd : d.isPrimary ≠ some none ∧ d.isPrimary ≠ some (some false)) (hp : f.isPrimary = true) :
    f'.isPrimary = true := by
  rw [(Draft.update_rank h).2.1, hp]
  rcases hfield : d.isPrimary with _ | _ | _ | _
  · rfl
  · exact absurd hfield hd.1
  · exact absurd hfield hd.2
  · rfl

namespace Editing

variable {w : World} {now : Moment} {d : Draft} {f : Flow} {id : String}

/-- From this world on the job leaves some flow primary, if one was. -/
abbrev Upholds {α : Type} (j : Job α) (w : World) : Prop :=
  j.Behaves World.LeavesLed (fun _ _ => True) (fun _ _ => True) w

theorem log_upholds (level : Level) (text : String) : Upholds (Job.log level text) w :=
  Job.Behaves.request (r := .log level text) (fun id h => ⟨id, h, trivial⟩) (fun _ _ => trivial)
    fun _ _ => trivial

/-- A flow is saved as primary, or over one that is not. -/
theorem save_upholds (hf : f.isPrimary = true ∨ w.leads f.id = false) : Upholds (save f) w := by
  unfold save
  refine .bind (m := fun saved w' => saved.isPrimary = true → w'.leads saved.id = true) ?_
    fun saved w' hsaved => ?_
  · refine Job.Behaves.request (r := .store (.saveFlow f)) (fun id h => ⟨id, h, ?_⟩)
      (fun saved hok => ?_) fun _ _ => trivial
    · refine hf.imp_right fun hfree => ?_
      rintro rfl
      rw [h] at hfree
      cases hfree
    · rcases w.answer_saved f with ⟨e, hx⟩ | ⟨createdAt, updatedAt, hx, hleads⟩
      · rw [hx] at hok
        cases hok
      · rw [hx] at hok
        cases hok
        exact hleads
  split
  next hp =>
    refine .bind (m := fun _ _ => True) ?_ fun _ _ _ => .pure trivial
    exact Job.Behaves.request (r := .store (.demoteOthers saved.id))
      (fun _ _ => ⟨saved.id, hsaved hp, rfl⟩) (fun _ _ => trivial) fun _ _ => trivial
  next => exact .pure trivial

theorem create_upholds (h : w.Curated) : Upholds (create now d) w := by
  unfold create
  refine .bind (m := fun make w' => d.create = .ok make ∧ w' = w)
    (.ofExcept (fun _ hmake => ⟨hmake, rfl⟩) fun _ _ => trivial) ?_
  rintro make w ⟨hmake, rfl⟩
  refine .bind (m := fun id w' => w'.leads (make id now).id = false) ?_ fun id w' hfree => ?_
  · refine Job.Behaves.request (r := .newFlowId) (fun id h => ⟨id, h, trivial⟩) (fun id hid => ?_)
      fun _ _ => trivial
    obtain rfl : World.numbered "flow" (w.flowIds + 1) = id := Except.ok.inj hid
    obtain ⟨name, entryNode, definition, -, -, -, rfl⟩ := Draft.create_eq_ok hmake
    rw [World.leads, World.catalog_answer rfl, h.find?_next]
    rfl
  refine .bind (save_upholds (.inr hfree)) fun saved _ _ => ?_
  exact .bind (log_upholds _ _) fun _ _ _ => .pure trivial

theorem update_upholds (h : w.Curated)
    (hd : d.isPrimary ≠ some none ∧ d.isPrimary ≠ some (some false)) :
    Upholds (update now id d) w := by
  unfold update
  refine .bind (get_finds fun id h => ⟨id, h, trivial⟩) fun f w' hf => ?_
  refine .bind (m := fun f' w'' => w'' = w' ∧ d.update f now = .ok f')
    (.ofExcept (fun _ hf' => ⟨rfl, hf'⟩) fun _ _ => trivial) ?_
  rintro f' w' ⟨rfl, hf'⟩
  have hfree : f'.isPrimary = true ∨ w'.leads f'.id = false := by
    rw [World.leads, (Draft.update_rank hf').1, (h.holds.find? hf.2).2, hf.1, hf.2]
    cases hp : f.isPrimary with
    | true => exact .inl (Draft.update_upholds hf' hd hp)
    | false => exact .inr hp
  refine .bind (save_upholds hfree) fun saved _ _ => ?_
  exact .bind (log_upholds _ _) fun _ _ _ => .pure trivial

end Editing

namespace World

variable {w : World}

theorem Curated.upheld (h : w.Curated) {e : Edit} (he : e.Upholds) :
    (e.job.run w).2.Curated ∧
      ((∃ id, w.leads id = true) → ∃ id, (e.job.run w).2.leads id = true) := by
  have keeps {j : Job Flow} (hj : Editing.Upholds j w) (hled : ∃ id, w.leads id = true) :
      ∃ id, (j.run w).2.leads id = true := by
    refine Job.Behaves.keeps (p := fun w => ∃ id, w.leads id = true) ?_ hj hled
    rintro w r ⟨id, hid⟩ hr
    obtain ⟨key, hkey, hrank⟩ := hr id hid
    exact ⟨key, leads_answer hkey hrank⟩
  cases e with
  | created now d =>
    rw [Edit.job, Job.run_map]
    exact ⟨h.edited (Editing.create_revises h), keeps (Editing.create_upholds h)⟩
  | updated now id d =>
    rw [Edit.job, Job.run_map]
    exact ⟨h.edited (Editing.update_revises h), keeps (Editing.update_upholds h he)⟩
  | deleted id => cases he

theorem Curated.edited_led (h : w.Curated) {es : List Edit} (hes : ∀ e ∈ es, e.Upholds) :
    (w.edited es).Curated ∧
      ((∃ id, w.leads id = true) → ∃ id, (w.edited es).leads id = true) := by
  induction es generalizing w with
  | nil => exact ⟨h, fun hled => hled⟩
  | cons e rest ih =>
    obtain ⟨hcurated, hkeeps⟩ := h.upheld (hes e (by simp))
    obtain ⟨hcurated', hkeeps'⟩ := ih hcurated fun e he => hes e (List.mem_cons_of_mem _ he)
    exact ⟨hcurated', fun hled => hkeeps' (hkeeps hled)⟩

/-! ## One primary flow is left -/

/-- **There is one primary flow in the end**, if there was one before or a call returns one that it
stored, in whatever orderly turns the calls were dealt with. So it is after calls that follow one
upon another, if none takes rank on purpose. -/
theorem one_primary_left (hkeys : w.catalog.keys.Nodup) (hone : w.primaries.length ≤ 1)
    (hdemote : ∀ n id, w.trouble.outage n (.store (.demoteOthers id)) = false) (es : List Edit) :
    (∀ ns : List Nat, (∀ j ∈ (Job.turns ns (es.map Edit.job) w).1, j.result?.isSome = true) →
      Job.orderly ns (es.map Edit.job) w = true →
      (w.primaries ≠ [] ∨ ∃ j ∈ (Job.turns ns (es.map Edit.job) w).1, ∃ f,
        j.result? = some (.ok (some f)) ∧ f.isPrimary = true) →
      ∃ f, (Job.turns ns (es.map Edit.job) w).2.primaries = [f]) ∧
    (w.Curated → (∀ e ∈ es, e.Upholds) →
      (w.primaries ≠ [] ∨ ∃ before e after f, es = before ++ e :: after ∧
        (e.job.run (w.edited before)).1 = .ok (some f) ∧ f.isPrimary = true) →
      ∃ f, (w.edited es).primaries = [f]) := by
  have hranked (debts : List (Option String)) : w.Ranked debts :=
    ranked_of_length_le_one hkeys hone hdemote debts
  have alone {w' : World} (hle : w'.primaries.length ≤ 1) (hne : w'.primaries ≠ []) :
      ∃ f, w'.primaries = [f] :=
    List.length_eq_one_iff.1 (Nat.le_antisymm hle (List.length_pos_iff.2 hne))
  constructor
  · intro ns hend horderly hled
    have hstart : w.Led (es.map fun _ => none) (es.map Edit.job) := by
      refine ⟨hranked _, Edit.all_settle es, fun j hj id hid => ?_⟩
      obtain ⟨e, -, rfl⟩ := List.mem_map.1 hj
      rw [e.job_settles.promotes_eq] at hid
      cases hid
    have hplain : ∀ j ∈ es.map Edit.job, j.Unless Edit.Plain := by
      intro j hj
      obtain ⟨e, -, rfl⟩ := List.mem_map.1 hj
      exact e.job_plain
    obtain ⟨⟨debts, h⟩, hkeeps, hstores⟩ := hstart.turns Edit.Plain horderly
    refine alone (h.ranked.length_le_one (h.settle.owe_none hend))
      ((primaries_ne_nil h.ranked.keys).2 ?_)
    rcases hled with hbefore | ⟨j, hj, f, hresult, hp⟩
    · exact hkeeps ((primaries_ne_nil hkeys).1 hbefore)
    · refine (hstores hplain).resolve_right fun hnone => ?_
      cases hnone j hj with
      | done h =>
        cases hresult
        rw [h f rfl] at hp
        cases hp
      | failed | save | other => cases hresult
  · intro hcurated hes hled
    refine alone (((hranked [none]).edited es).length_le_one (by simp)) ?_
    obtain ⟨hafter, hkeeps⟩ := hcurated.edited_led hes
    refine (primaries_ne_nil hafter.keys).2 ?_
    rcases hled with hbefore | ⟨before, e, after, f, rfl, hf, hp⟩
    · exact hkeeps ((primaries_ne_nil hkeys).1 hbefore)
    · have hbefore := (hcurated.edited_led fun e he => hes e (List.mem_append_left _ he)).1
      have hnow := (hbefore.upheld (hes e (by simp))).1
      have hkept : Editing.Kept f (e.job.run (w.edited before)).2 := e.job_kept _ _ hf f rfl
      have hes' : ∀ e ∈ after, e.Upholds := fun e he => hes e (by simp [he])
      have hrest := (hnow.edited_led hes').2
        ⟨f.id, by rw [leads, Entries.find?_of_mem_nodup hnow.keys hkept]; exact hp⟩
      simpa [World.edited, List.foldl_append] using hrest

end World

/-- Of the calls that rival for one catalog, the last one that demotes the others leaves its flow
primary, though it had read that flow before the other call stored its own. -/
theorem rivalry_one_left :
    led.catalog.keys.Nodup ∧ led.primaries.length ≤ 1 ∧
      (∀ n id, led.trouble.outage n (.store (.demoteOthers id)) = false) ∧
      (∃ f, (Job.turns [0, 1, 1, 1, 1, 0, 0, 0] (rivalry.map Edit.job) led).2.primaries = [f]) ∧
      ∃ f, (led.edited rivalry).primaries = [f] := by
  have hkeys : led.catalog.keys.Nodup := by decide +kernel
  have hone : led.primaries.length ≤ 1 := by decide +kernel
  have hsome : led.primaries ≠ [] := List.ne_nil_of_length_pos (by decide +kernel)
  have hdemote : ∀ n id, led.trouble.outage n (.store (.demoteOthers id)) = false := by
    intro n id
    rw [show led.trouble = {} by rfl]
  have hend : ∀ j ∈ (Job.turns [0, 1, 1, 1, 1, 0, 0, 0] (rivalry.map Edit.job) led).1,
      j.result?.isSome = true := by decide +kernel
  have horderly : Job.orderly [0, 1, 1, 1, 1, 0, 0, 0] (rivalry.map Edit.job) led = true := by
    decide +kernel
  have hcurated : led.Curated :=
    ((World.curated_of_empty (w := flowless) rfl).edited_led (by simp [Edit.Upholds])).1
  have hupholds : ∀ e ∈ rivalry, e.Upholds := by simp [rivalry, Edit.Upholds]
  obtain ⟨hturns, hrow⟩ := World.one_primary_left hkeys hone hdemote rivalry
  exact ⟨hkeys, hone, hdemote, hturns _ hend horderly (.inl hsome),
    hrow hcurated hupholds (.inl hsome)⟩

/-! ## Lost ranks -/

/-- Two primary flows are created at the same time. -/
def rivals : List Edit :=
  [.created (.utc 0) { Draft.greeter with isPrimary := some (some true) },
    .created (.utc 1) { Draft.greeter with isPrimary := some (some true) }]

/-- Each of the two calls returns a flow that it stored as primary. Both flows are stored before
either call demotes the other, and none is left primary. -/
theorem rivals_demoted :
    let ended := Job.turns [0, 0, 1, 1, 0, 1, 0, 1] (rivals.map Edit.job) flowless
    (ended.1.map fun j => j.result?.map fun x =>
        x.toOption.map fun f? => f?.map fun f => (f.id, f.isPrimary)) =
        [some (some (some ("flow-1", true))), some (some (some ("flow-2", true)))] ∧
      ended.2.catalog.values.map (fun f => (f.id, f.isPrimary)) =
        [("flow-1", false), ("flow-2", false)] := by
  decide +kernel

/-- An update that was made from a flow before another call promoted it takes the rank from it, and
no other flow has it any more. -/
example :
    let w := flowless.edited [
      .created (.utc 0) { Draft.greeter with isPrimary := some (some true) },
      .created (.utc 0) Draft.greeter]
    let late : List Edit :=
      [.updated (.utc 1) "flow-2" { name := some (some "Host") },
        .updated (.utc 1) "flow-2" { isPrimary := some (some true) }]
    w.primaries.length = 1 ∧
      (Job.turns [0, 1, 1, 1, 1, 0, 0, 0] (late.map Edit.job) w).2.primaries.length = 0 := by
  decide +kernel

end FrontDesk
