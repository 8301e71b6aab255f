/-
What a job asks on its way, and what it is told.

The transcript of a run has its requests in the order in which they were made, each with its answer.
`Job.Recounts` says something of all that comes of a run at once: its transcript, its result, and
the world in which it ends. There is one rule for each way of putting jobs together.
-/
import FrontDesk.Proofs.Service.Steps

namespace FrontDesk

open Calendar Service

/-- A request and its answer. -/
structure Service.Exchange where
  request : Request
  answer : Except Failure request.Answer

/-- Whether a request was dealt with. -/
def Service.Exchange.isGranted (x : Exchange) : Bool :=
  match x.answer with
  | .ok _ => true
  | .error _ => false

namespace Job

variable {α β : Type}

/-- What a job asks on its way, and what it is told. -/
def transcript : Job α → World → List Exchange
  | done _, _ | failed _, _ => []
  | ask r next, w =>
    ⟨r, (w.answer r).1⟩ :: (next (w.answer r).1).transcript (w.answer r).2

theorem bind_assoc {γ : Type} (j : Job α) (f : α → Job β) (g : β → Job γ) :
    j >>= f >>= g = j >>= fun a => f a >>= g := by
  induction j with
  | done a | failed e => rfl
  | ask r next ih => exact congrArg (ask r) (funext ih)

theorem transcript_request (r : Request) (w : World) :
    (request r).transcript w = [⟨r, (w.answer r).1⟩] := by
  simp only [request, transcript]
  cases (w.answer r).1 <;> rfl

theorem transcript_bind (j : Job α) (f : α → Job β) (w : World) :
    (j >>= f).transcript w = j.transcript w ++
      match (j.run w).1 with
      | .ok a => (f a).transcript (j.run w).2
      | .error _ => [] := by
  induction j generalizing w with
  | done a | failed e => rfl
  | ask r next ih => exact congrArg (_ :: ·) (ih _ _)

theorem transcript_attempt (j : Job α) (w : World) :
    j.attempt.transcript w = j.transcript w := by
  induction j generalizing w with
  | done a | failed e => rfl
  | ask r next ih => exact congrArg (_ :: ·) (ih _ _)

/-- What a job that keeps to terms asks is what it may, if answers are as promised. -/
theorem Keeps.transcript {t : Terms}
    (hgives : ∀ (w : World) r a, (w.answer r).1 = .ok a → t.gives r a) {wanted : α → Prop}
    {j : Job α} (h : j.Keeps t wanted) (w : World) : ∀ x ∈ j.transcript w, t.may x.request := by
  induction h generalizing w with
  | done | failed => exact fun _ hx => nomatch hx
  | @ask r next hmay _ _ ihok iherr =>
    intro x hx
    rcases List.mem_cons.1 hx with rfl | hx
    · exact hmay
    · cases hanswer : (w.answer r).1 with
      | ok a => rw [hanswer] at hx; exact ihok a (hgives w r a hanswer) _ x hx
      | error e => rw [hanswer] at hx; exact iherr e _ x hx

theorem run_of_transcript (may : Request → Prop) {p : World → Prop}
    (hp : ∀ w r, p w → may r → p (w.answer r).2) {j : Job α} {w : World}
    (h : ∀ x ∈ j.transcript w, may x.request) (hw : p w) : p (j.run w).2 := by
  induction j generalizing w with
  | done a | failed e => exact hw
  | ask r next ih =>
    obtain ⟨hr, hrest⟩ := List.forall_mem_cons.1 h
    exact ih _ hrest (hp w r hw hr)

/-- So it is with the transcript, the result and the world after the job. -/
def Recounts (j : Job α) (w : World) (p : List Exchange → Except Failure α → World → Prop) : Prop :=
  p (j.transcript w) (j.run w).1 (j.run w).2

namespace Recounts

variable {j : Job α} {w : World} {p q : List Exchange → Except Failure α → World → Prop}

theorem mono (h : j.Recounts w p) (hpq : ∀ xs a w', p xs a w' → q xs a w') : j.Recounts w q :=
  hpq _ _ _ h

theorem pure {a : α} (h : p [] (.ok a) w) : (Pure.pure a : Job α).Recounts w p := h

theorem request {r : Request} {p : List Exchange → Except Failure r.Answer → World → Prop}
    (h : p [⟨r, (w.answer r).1⟩] (w.answer r).1 (w.answer r).2) :
    (Job.request r).Recounts w p := by
  rw [Recounts, transcript_request, run_request]
  exact h

theorem bind {m : List Exchange → Except Failure β → World → Prop} {j : Job β} {f : β → Job α}
    (h : j.Recounts w m)
    (hok : ∀ xs b w', m xs (.ok b) w' → (f b).Recounts w' fun ys => p (xs ++ ys))
    (herr : ∀ xs e w', m xs (.error e) w' → p xs (.error e) w') : (j >>= f).Recounts w p := by
  rw [Recounts, transcript_bind, run_bind]
  unfold Recounts at h
  cases hx : (j.run w).1 with
  | ok b => rw [hx] at h; exact hok _ b _ h
  | error e => rw [hx] at h; rw [List.append_nil]; exact herr _ e _ h

theorem map {j : Job β} {f : β → α} (h : j.Recounts w fun xs x w' => p xs (x.map f) w') :
    (f <$> j).Recounts w p := by
  refine bind h (fun xs b w' hb => pure ?_) fun _ _ _ he => he
  rw [List.append_nil]
  exact hb

theorem asked {r : Request} {f : r.Answer → Job α}
    (hok : ∀ a, (w.answer r).1 = .ok a →
      (f a).Recounts (w.answer r).2 fun ys => p (⟨r, .ok a⟩ :: ys))
    (herr : ∀ e, (w.answer r).1 = .error e → p [⟨r, .error e⟩] (.error e) (w.answer r).2) :
    (Job.request r >>= f).Recounts w p := by
  have hasked : (Job.request r).Recounts w fun xs x w' =>
      xs = [⟨r, x⟩] ∧ x = (w.answer r).1 ∧ w' = (w.answer r).2 := request ⟨rfl, rfl, rfl⟩
  refine bind hasked ?_ ?_
  · rintro _ a _ ⟨rfl, ha, rfl⟩
    exact hok a ha.symm
  · rintro _ e _ ⟨rfl, he, rfl⟩
    exact herr e he.symm

theorem log {level : Level} {text : String} {f : Unit → Job α}
    (h : (f ()).Recounts (w.answer (.log level text)).2 fun xs =>
      p (⟨.log level text, .ok ()⟩ :: xs)) : (Job.log level text >>= f).Recounts w p := by
  have hwritten := World.answer_log w level text
  refine asked (fun _ _ => h) fun e he => ?_
  rw [hwritten] at he
  cases he

theorem orLog {m : List Exchange → Except Failure α → World → Prop} {text : String} {value : α}
    (h : j.Recounts w m) (hok : ∀ xs a w', m xs (.ok a) w' → p xs (.ok a) w')
    (hlost : ∀ xs e w', m xs (.error e) w' →
      p (xs ++ [⟨.log .error text, .ok ()⟩]) (.ok value) (w'.answer (.log .error text)).2) :
    (j.orLog text value).Recounts w p := by
  have htried : j.attempt.Recounts w fun xs x w' => ∃ y, x = .ok y ∧ m xs y w' := by
    rw [Recounts, transcript_attempt, run_attempt]
    exact ⟨_, rfl, h⟩
  refine bind htried (fun xs x w' hx => ?_) fun _ _ _ he => by
    obtain ⟨_, he, -⟩ := he
    cases he
  obtain ⟨y, hy, hm⟩ := hx
  cases hy
  cases x with
  | ok a => exact pure (by rw [List.append_nil]; exact hok xs a w' hm)
  | error e => exact log (pure (hlost xs e w' hm))

end Recounts

end Job

end FrontDesk
