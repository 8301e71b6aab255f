/-
Terms between a job and the world it runs in.

A job keeps to terms if it asks only for what it may, given that all answers it got are as promised;
any request may fail instead (`Job.Keeps`). That is said of the job alone. In a world that keeps an
invariant and its promises as long as nothing else is asked of it, the job keeps the invariant
(`Job.Keeps.run`), whatever fails on the way.
-/
import FrontDesk.Service.World

namespace FrontDesk

open Service

/-- What may be asked, and what is promised of the answers. -/
structure Terms where
  may : Request → Prop
  gives : (r : Request) → r.Answer → Prop

namespace Job

variable {α β : Type} {t : Terms}

/-- The job keeps to the terms, and what it returns is as wanted. -/
inductive Keeps (t : Terms) (wanted : α → Prop) : Job α → Prop
  | done {a : α} (h : wanted a) : Keeps t wanted (done a)
  | failed {e : Failure} : Keeps t wanted (failed e)
  | ask {r : Request} {next : Except Failure r.Answer → Job α} (hmay : t.may r)
    (hok : ∀ a, t.gives r a → Keeps t wanted (next (.ok a)))
    (herr : ∀ e, Keeps t wanted (next (.error e))) : Keeps t wanted (ask r next)

theorem Keeps.mono {wanted wanted' : α → Prop} {j : Job α} (h : j.Keeps t wanted)
    (hw : ∀ a, wanted a → wanted' a) : j.Keeps t wanted' := by
  induction h with
  | done h => exact .done (hw _ h)
  | failed => exact .failed
  | ask hmay _ _ ihok iherr => exact .ask hmay ihok iherr

theorem Keeps.bind {wanted : α → Prop} {wanted' : β → Prop} {j : Job α} {f : α → Job β}
    (h : j.Keeps t wanted) (hf : ∀ a, wanted a → (f a).Keeps t wanted') :
    (j >>= f).Keeps t wanted' := by
  induction h with
  | done h => exact hf _ h
  | failed => exact .failed
  | ask hmay _ _ ihok iherr => exact .ask hmay ihok iherr

theorem Keeps.map {wanted : β → Prop} {j : Job α} {f : α → β}
    (h : j.Keeps t fun a => wanted (f a)) : (f <$> j).Keeps t wanted :=
  Keeps.bind h fun _ ha => .done ha

theorem Keeps.pure {wanted : α → Prop} {a : α} (h : wanted a) :
    (Pure.pure a : Job α).Keeps t wanted := .done h

theorem Keeps.attempt {wanted : α → Prop} {j : Job α} (h : j.Keeps t wanted) :
    j.attempt.Keeps t fun x => ∀ a, x = .ok a → wanted a := by
  induction h with
  | done h => exact .done (by rintro _ ⟨⟩; exact h)
  | failed => exact .done (by rintro _ ⟨⟩)
  | ask hmay _ _ ihok iherr => exact .ask hmay ihok iherr

theorem Keeps.request {r : Request} (h : t.may r) : (request r).Keeps t (t.gives r) :=
  .ask h (fun _ ha => .done ha) fun _ => .failed

theorem Keeps.store (r : Store.Request) (h : t.may (.store r)) :
    (store r).Keeps t (t.gives (.store r)) := Keeps.request h

theorem Keeps.desk (r : Helpdesk.Request) (h : t.may (.desk r)) :
    (desk r).Keeps t (t.gives (.desk r)) := Keeps.request h

theorem Keeps.log {level : Level} {text : String} (h : t.may (.log level text)) :
    (log level text).Keeps t fun _ => True :=
  (Keeps.request h).mono fun _ _ => trivial

theorem Keeps.ofExcept {ε : Type} {failure : ε → Failure} {x : Except ε α} :
    (ofExcept failure x).Keeps t fun a => x = .ok a := by
  cases x with
  | ok a => exact .done rfl
  | error e => exact .failed

theorem Keeps.orLog {wanted : α → Prop} {j : Job α} {text : String} {value : α}
    (hlog : t.may (.log .error text)) (h : j.Keeps t wanted) (hv : wanted value) :
    (j.orLog text value).Keeps t wanted := by
  refine Keeps.bind (Keeps.attempt h) fun x hx => ?_
  cases x with
  | ok a => exact Keeps.pure (hx a rfl)
  | error e => exact Keeps.bind (Keeps.request hlog) fun _ _ => Keeps.pure hv

/-- **A job that keeps to the terms keeps the world's invariant**, if the world answers within the
terms. -/
theorem Keeps.run {inv : World → Prop} (hinv : ∀ w r, inv w → t.may r →
      inv (w.answer r).2 ∧ ∀ a, (w.answer r).1 = .ok a → t.gives r a)
    {wanted : α → Prop} {j : Job α} (h : j.Keeps t wanted) {w : World} (hw : inv w) :
    inv (j.run w).2 ∧ ∀ a, (j.run w).1 = .ok a → wanted a := by
  induction h generalizing w with
  | done h => exact ⟨hw, by rintro _ ⟨⟩; exact h⟩
  | failed => exact ⟨hw, by rintro _ ⟨⟩⟩
  | @ask r next hmay _ _ ihok iherr =>
    obtain ⟨hnext, hgives⟩ := hinv w r hw hmay
    simp only [Job.run]
    cases hx : (w.answer r).1 with
    | ok a => exact ihok a (hgives a hx) hnext
    | error e => exact iherr e hnext

end Job

end FrontDesk
