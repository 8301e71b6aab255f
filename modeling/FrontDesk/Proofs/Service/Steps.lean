/-
Jobs, step by step.

What a job does depends on the world in which it asks. `Job.Behaves` follows it from one world to
the next: each request is one that may be made in the world in which it is made, and in the end the
result and the world are as wanted, or the failure and the world are. There is one rule for each way
of putting jobs together. What a job keeps to whatever it is told (`Job.Keeps`) it keeps to
step by step (`Job.Keeps.behaves`).
-/
import FrontDesk.Proofs.Service.Calm
import FrontDesk.Proofs.Service.Terms

namespace FrontDesk

open Service

theorem World.answer_log (w : World) (level : Level) (text : String) :
    (w.answer (.log level text)).1 = .ok () := by
  simp [World.answer, isOutside, perform]

namespace Job

variable {α β : Type} {may : World → Request → Prop}

/-- From this world on the job asks what it may, and it ends as wanted. -/
def Behaves (may : World → Request → Prop) (ok : α → World → Prop)
    (err : Failure → World → Prop) : Job α → World → Prop
  | done a, w => ok a w
  | failed e, w => err e w
  | ask r next, w => may w r ∧ (next (w.answer r).1).Behaves may ok err (w.answer r).2

/-- What is said of the end of an attempt, whether it failed or not. -/
def Tried (ok : α → World → Prop) (lost : World → Prop) : Except Failure α → World → Prop
  | .ok a, w => ok a w
  | .error _, w => lost w

namespace Behaves

variable {ok : α → World → Prop} {err : Failure → World → Prop} {j : Job α} {w : World}

theorem mono {may' : World → Request → Prop} {ok' : α → World → Prop}
    {err' : Failure → World → Prop} (h : j.Behaves may ok err w)
    (hmay : ∀ w r, may w r → may' w r) (hok : ∀ a w, ok a w → ok' a w)
    (herr : ∀ e w, err e w → err' e w) : j.Behaves may' ok' err' w := by
  induction j generalizing w with
  | done a => exact hok a w h
  | failed e => exact herr e w h
  | ask r next ih => exact ⟨hmay w r h.1, ih _ h.2⟩

theorem pure {a : α} (h : ok a w) : (Pure.pure a : Job α).Behaves may ok err w := h

theorem bind {m : β → World → Prop} {j : Job β} {f : β → Job α} (h : j.Behaves may m err w)
    (hf : ∀ b w', m b w' → (f b).Behaves may ok err w') : (j >>= f).Behaves may ok err w := by
  induction j generalizing w with
  | done b => exact hf b w h
  | failed e => exact h
  | ask r next ih => exact ⟨h.1, ih _ h.2⟩

theorem map {ok : β → World → Prop} {f : α → β}
    (h : j.Behaves may (fun a w' => ok (f a) w') err w) : (f <$> j).Behaves may ok err w :=
  bind h fun _ _ ha => pure ha

theorem ofExcept {ε : Type} {failure : ε → Failure} {x : Except ε α}
    (hok : ∀ a, x = .ok a → ok a w) (herr : ∀ e, x = .error e → err (failure e) w) :
    (Job.ofExcept failure x).Behaves may ok err w := by
  cases x with
  | ok a => exact hok a rfl
  | error e => exact herr e rfl

theorem request {r : Request} {ok : r.Answer → World → Prop} (hmay : may w r)
    (hok : ∀ a, (w.answer r).1 = .ok a → ok a (w.answer r).2)
    (herr : ∀ e, (w.answer r).1 = .error e → err e (w.answer r).2) :
    (Job.request r).Behaves may ok err w := by
  refine ⟨hmay, ?_⟩
  cases hx : (w.answer r).1 with
  | ok a => exact hok a hx
  | error e => exact herr e hx

/-- A job that is given up for a value ends as it would have, or with the value. -/
theorem orLog {text : String} {value : α} {lost : World → Prop}
    (h : j.Behaves may ok (fun _ => lost) w)
    (hlog : ∀ w', lost w' → (Job.log .error text).Behaves may (fun _ => ok value) err w') :
    (j.orLog text value).Behaves may ok err w := by
  refine bind (m := Tried ok lost) ?_ fun x w' hx => ?_
  · -- the attempt takes the same steps and ends with either result
    induction j generalizing w with
    | done a => exact h
    | failed e => exact h
    | ask r next ih => exact ⟨h.1, ih _ h.2⟩
  · cases x with
    | ok a => exact pure hx
    | error e => exact bind (hlog w' hx) fun _ _ h => pure h

theorem run (h : j.Behaves may ok err w) :
    (∀ a, (j.run w).1 = .ok a → ok a (j.run w).2) ∧
      ∀ e, (j.run w).1 = .error e → err e (j.run w).2 := by
  induction j generalizing w with
  | done a => exact ⟨by rintro _ ⟨⟩; exact h, by rintro _ ⟨⟩⟩
  | failed e => exact ⟨by rintro _ ⟨⟩, by rintro _ ⟨⟩; exact h⟩
  | ask r next ih => exact ih _ h.2

theorem succeeds (h : j.Behaves may ok (fun _ _ => False) w) :
    ∃ a, (j.run w).1 = .ok a ∧ ok a (j.run w).2 := by
  obtain ⟨hok, herror⟩ := h.run
  cases hresult : (j.run w).1 with
  | ok a => exact ⟨a, rfl, hok a hresult⟩
  | error e => exact (herror e hresult).elim

theorem keeps {p : World → Prop} (hp : ∀ w r, p w → may w r → p (w.answer r).2)
    (h : j.Behaves may ok err w) (hw : p w) : p (j.run w).2 := by
  induction j generalizing w with
  | done a | failed e => exact hw
  | ask r next ih => exact ih _ h.2 (hp w r hw h.1)

end Behaves

theorem Keeps.behaves {t : Terms} {p : World → Prop}
    (hp : ∀ w r, p w → t.may r →
      may w r ∧ p (w.answer r).2 ∧ ∀ a, (w.answer r).1 = .ok a → t.gives r a)
    {wanted : α → Prop} {j : Job α} (h : j.Keeps t wanted) {w : World} (hw : p w) :
    j.Behaves may (fun a w' => wanted a ∧ p w') (fun _ => p) w := by
  induction h generalizing w with
  | done h => exact ⟨h, hw⟩
  | failed => exact hw
  | @ask r next hask _ _ ihok iherr =>
    obtain ⟨hmay, hnext, hgives⟩ := hp w r hw hask
    refine ⟨hmay, ?_⟩
    cases hx : (w.answer r).1 with
    | ok a => exact ihok a (hgives a hx) hnext
    | error e => exact iherr e hnext

end Job

end FrontDesk
