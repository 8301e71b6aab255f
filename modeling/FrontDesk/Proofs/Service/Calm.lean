/-
Jobs in a calm world.

Where no request fails and nobody interferes, what a job does can be followed on what is seen of
the world: its sessions, its tickets and the messages sent (`World.view`). `Job.Comes` says that
the job comes to a result, and to what the view is then; there is one rule for each way of putting
jobs together, and one for each request.
-/
import FrontDesk.Service.World

namespace FrontDesk

open Calendar Service

/-- Nothing fails and nobody interferes. Records of stored messages may be withheld. -/
structure Trouble.Calm (t : Trouble) : Prop where
  answers : ∀ n r, t.outage n r = false
  alone : t.rivalSaves = false

/-- What is seen of a world. -/
structure View where
  clock : Moment
  store : Store
  tickets : Entries Ticket
  /-- Messages sent, each with its ticket. -/
  delivered : List (String × String)
  /-- How many sessions were begun. -/
  sessionIds : Nat
  trouble : Trouble

theorem World.answer_calm {w : World} (hw : w.trouble.Calm) (r : Request) :
    w.answer r = World.perform { w with asked := w.asked + 1 } r := by
  simp [answer, hw.answers]

/-- What is seen of the world. -/
def World.view (w : World) : View where
  clock := w.clock
  store := w.store
  tickets := w.desk.tickets
  delivered := w.desk.delivered
  sessionIds := w.sessionIds
  trouble := w.trouble

namespace View

/-- The id of the next session. -/
def freshId (v : View) : String := World.numbered "session" (v.sessionIds + 1)

/-- What is seen after the helpdesk did what it was asked. -/
def does (v : View) : Helpdesk.Request → View
  | .transfer t queue => { v with tickets := v.tickets.put t.id (t.moved queue) }
  | .deliver t body => { v with delivered := v.delivered ++ [(t.id, body)] }
  | _ => v

/-- What the helpdesk is sure to answer. -/
def Answers (v : View) : (r : Helpdesk.Request) → r.Answer → Prop
  | .ticket id, x => x = v.tickets.find? id
  | .transfer t queue, x => x = t.moved queue
  | _, _ => True

end View

namespace Job

variable {α β : Type} {v : View}

/-- Wherever this is seen, the job comes to a result, and to a view, as wanted. -/
def Comes (j : Job α) (v : View) (wanted : α → View → Prop) : Prop :=
  ∀ w : World, w.view = v → ∃ a, (j.run w).1 = .ok a ∧ wanted a (j.run w).2.view

/-! ## Putting jobs together -/

theorem run_bind (j : Job α) (f : α → Job β) (w : World) :
    (j >>= f).run w =
      match (j.run w).1 with
      | .ok a => (f a).run (j.run w).2
      | .error e => (.error e, (j.run w).2) := by
  induction j generalizing w with
  | done a => rfl
  | failed e => rfl
  | ask r next ih => exact ih _ _

theorem run_map (f : α → β) (j : Job α) (w : World) :
    (f <$> j).run w = ((j.run w).1.map f, (j.run w).2) := by
  refine (run_bind j _ w).trans ?_
  cases (j.run w).1 <;> rfl

/-- A job that is mapped comes to a result if the job does, and to the same world. -/
theorem run_map_ok {f : α → β} {j : Job α} {w : World} {b : β}
    (h : ((f <$> j).run w).1 = .ok b) :
    ∃ a, j.run w = (.ok a, ((f <$> j).run w).2) ∧ b = f a := by
  rw [run_map] at h ⊢
  cases hresult : (j.run w).1 with
  | error e =>
    rw [hresult] at h
    cases h
  | ok a =>
    rw [hresult] at h
    cases h
    exact ⟨a, Prod.ext hresult rfl, rfl⟩

theorem run_attempt (j : Job α) (w : World) :
    j.attempt.run w = (.ok (j.run w).1, (j.run w).2) := by
  induction j generalizing w with
  | done a => rfl
  | failed e => rfl
  | ask r next ih => exact ih _ _

namespace Comes

variable {wanted wanted' : α → View → Prop} {j : Job α}

theorem mono (h : j.Comes v wanted) (hw : ∀ a v', wanted a v' → wanted' a v') :
    j.Comes v wanted' := fun w hv =>
  let ⟨a, ha, hwanted⟩ := h w hv
  ⟨a, ha, hw a _ hwanted⟩

theorem pure {a : α} (h : wanted a v) : (Pure.pure a : Job α).Comes v wanted :=
  fun _ hv => ⟨a, rfl, by rw [← hv] at h; exact h⟩

theorem bind {mid : α → View → Prop} {wanted : β → View → Prop} {f : α → Job β}
    (h : j.Comes v mid) (hf : ∀ a v', mid a v' → (f a).Comes v' wanted) :
    (j >>= f).Comes v wanted := by
  intro w hv
  obtain ⟨a, ha, hmid⟩ := h w hv
  obtain ⟨b, hb, hwanted⟩ := hf a _ hmid _ rfl
  exact ⟨b, by rw [run_bind, ha]; exact hb, by rw [run_bind, ha]; exact hwanted⟩

theorem after {wanted : β → View → Prop} {f : α → Job β} (h : j.Comes v fun _ v' => v' = v)
    (hf : ∀ a, (f a).Comes v wanted) : (j >>= f).Comes v wanted :=
  bind h fun a v' hv => by rw [hv]; exact hf a

theorem known {wanted : β → View → Prop} {f : α → Job β} {a : α}
    (h : j.Comes v fun x v' => x = a ∧ v' = v) (hf : (f a).Comes v wanted) :
    (j >>= f).Comes v wanted :=
  bind h fun x v' hx => by rw [hx.1, hx.2]; exact hf

theorem map {wanted : β → View → Prop} {f : α → β} (h : j.Comes v fun a v' => wanted (f a) v') :
    (f <$> j).Comes v wanted := bind h fun _ _ ha => pure ha

theorem ofExcept {ε : Type} {failure : ε → Failure} {x : Except ε α} {a : α} (hx : x = .ok a) :
    (Job.ofExcept failure x).Comes v fun y v' => y = a ∧ v' = v := by
  rw [hx]; exact pure ⟨rfl, rfl⟩

theorem orLog {text : String} {value : α} (h : j.Comes v wanted) :
    (j.orLog text value).Comes v wanted := by
  intro w hv
  obtain ⟨a, ha, hwanted⟩ := h w hv
  have hrun : (j.orLog text value).run w = (.ok a, (j.run w).2) := by
    rw [Job.orLog, run_bind, run_attempt]
    simp only [ha]
    rfl
  exact ⟨a, by rw [hrun], by rw [hrun]; exact hwanted⟩

end Comes

/-! ## Requests -/

theorem run_request (r : Request) (w : World) : (request r).run w = w.answer r := by
  simp only [request, Job.run]
  rcases w.answer r with ⟨x, w'⟩
  cases x <;> rfl

theorem Comes.log {level : Level} {text : String} :
    (Job.log level text).Comes v fun _ v' => v' = v := by
  intro w hv
  refine ⟨(), ?_⟩
  rw [Job.log, run_request]
  exact ⟨rfl, hv⟩

theorem Comes.desk (hv : v.trouble.Calm) (r : Helpdesk.Request) :
    (Job.desk r).Comes v fun x v' => v.Answers r x ∧ v' = v.does r := by
  rintro w rfl
  rw [Job.desk, run_request, World.answer_calm hv]
  have halone : w.trouble.rivalSaves = false := hv.alone
  refine ⟨_, rfl, ?_⟩
  cases r with
  | ticket id | transfer t queue => exact ⟨ite_self _, rfl⟩
  | deliver t body => exact ⟨trivial, by simp [World.perform, World.askDesk, World.interfere,
      World.storesMessage, Helpdesk.Desk.answer, View.does, World.view, halone]⟩
  | persist t body | notify event payload | touch t time => exact ⟨trivial, rfl⟩

theorem Comes.ticket (hv : v.trouble.Calm) (id : String) :
    (Job.desk (.ticket id)).Comes v fun x v' => x = v.tickets.find? id ∧ v' = v :=
  Comes.desk hv (.ticket id)

theorem Comes.store (hv : v.trouble.Calm) {r : Store.Request} (hr : World.opensSession r = false)
    {a : r.Answer} {st : Store} (h : ∀ id, v.store.answer v.clock id r = (.ok a, st)) :
    (Job.store r).Comes v fun x v' => x = a ∧ v' = { v with store := st } := by
  rintro w rfl
  rw [Job.store, run_request, World.answer_calm hv]
  have hanswer := h (World.numbered "session" w.sessionIds)
  simp only [World.view] at hanswer
  simp only [World.perform, World.askStore, hr, Bool.false_eq_true, if_false, hanswer]
  exact ⟨a, rfl, rfl, rfl⟩

theorem Comes.openSession (hv : v.trouble.Calm) {o : Store.Opening} {s : Session} {st : Store}
    (h : v.store.answer v.clock v.freshId (.openSession o) = (.ok s, st)) :
    (Job.store (.openSession o)).Comes v fun x v' =>
      x = s ∧ v' = { v with store := st, sessionIds := v.sessionIds + 1 } := by
  rintro w rfl
  rw [Job.store, run_request, World.answer_calm hv]
  simp only [World.view, View.freshId] at h
  simp only [World.perform, World.askStore, World.opensSession, if_true, h]
  exact ⟨s, rfl, rfl, rfl⟩

end Job

end FrontDesk
