/-
What a request about one ticket leaves alone in a world.

Whatever is asked about a ticket, and whether or not it fails, what is known of all other tickets
stays as it is, and ids that are still to be given stay unused (`World.Orderly.answer`).
-/
import FrontDesk.Proofs.Service.Answers
import FrontDesk.Proofs.Service.Files

namespace FrontDesk

open Calendar Service

/-- A request concerns one ticket, if any. -/
def Service.Request.Concerns (ticketId : String) (w : World) : Service.Request → Prop
  | .store r => r.Concerns ticketId w.clock w.store
  | .desk r => r.Concerns ticketId
  | .log .. | .newFlowId => True

namespace World

variable {w : World} {ticketId : String}

theorem takes_idsAfter {r : Store.Request}
    (h : r.takes (numbered "session" (w.idsAfter r)) = some (numbered "session" (w.idsAfter r))) :
    w.sessionIds < w.idsAfter r := by
  cases r with
  | openSession o => exact Nat.lt_succ_self _
  | _ => cases h

namespace Orderly

theorem asked (h : w.Orderly) (n : Nat) (logs : List (Level × String)) :
    Orderly { w with asked := n, logs } := ⟨h.tidy, h.unused, h.filed⟩

theorem fresh (h : w.Orderly) {r : Store.Request}
    (htakes : r.takes (numbered "session" (w.idsAfter r)) =
      some (numbered "session" (w.idsAfter r))) :
    w.store.Unused w.clock (numbered "session" (w.idsAfter r)) :=
  h.unused _ (takes_idsAfter htakes)

/-- What is done to the store concerns the ticket, and takes no id that is still to be given. -/
theorem store (h : w.Orderly) {st : Store} {used : Option String} {ids : Nat}
    (hst : ∀ time, Store.Turns ticketId time used w.store st) (htidy : st.Tidy)
    (hids : w.sessionIds ≤ ids) (hused : ∀ n, ids < n → used ≠ some (numbered "session" n)) :
    w.Regards ticketId { w with store := st, sessionIds := ids } ∧
      Orderly { w with store := st, sessionIds := ids } :=
  ⟨⟨rfl, rfl, (hst w.clock).bare, fun other hne time => (hst time).others other hne,
      fun _ _ => rfl⟩,
    htidy, fun n hn => (hst w.clock).unused _ (hused n hn) (h.unused n (Nat.lt_of_le_of_lt hids hn)),
    h.filed⟩

theorem askStore (h : w.Orderly) {r : Store.Request} (hr : r.Concerns ticketId w.clock w.store) :
    w.Regards ticketId (w.askStore r).2 ∧ (w.askStore r).2.Orderly := by
  rw [askStore_eq]
  refine h.store (Store.answer_turns h.tidy hr h.fresh) (h.tidy.answer w.clock _ r) ?_ ?_
  · unfold idsAfter
    split
    · exact Nat.le_succ _
    · exact Nat.le_refl _
  · intro n hn hused
    cases r with
    | openSession o => exact absurd (numbered_inj (Option.some.inj hused)) (Nat.ne_of_lt hn)
    | _ => cases hused

theorem rivalSave (h : w.Orderly) (ticketId : String) :
    w.Regards ticketId (w.rivalSave ticketId) ∧ (w.rivalSave ticketId).Orderly := by
  rw [rivalSave_eq]
  refine h.store (Store.rivalled_turns h.tidy w.clock _ ticketId) ?_ (Nat.le_refl _)
    fun _ _ => nofun
  exact h.tidy.rivalled w.clock _ ticketId

theorem askDesk (h : w.Orderly) {r : Helpdesk.Request} (hr : r.Concerns ticketId) :
    w.Regards ticketId (w.askDesk r).2 ∧ (w.askDesk r).2.Orderly := by
  have hmeanwhile : w.Regards ticketId (w.interfere r) ∧ (w.interfere r).Orderly := by
    cases r with
    | deliver t body =>
      cases hr
      simp only [interfere]
      split
      · exact h.rivalSave t.id
      · exact ⟨.refl _ _, h⟩
    | ticket | transfer | persist | notify | touch => exact ⟨.refl _ _, h⟩
  simp only [World.askDesk]
  generalize w.interfere r = w₁ at hmeanwhile
  obtain ⟨hregards, horderly⟩ := hmeanwhile
  exact ⟨hregards.trans ⟨rfl, rfl, rfl, fun _ _ _ => rfl,
      fun other hne => Helpdesk.Desk.file_answer_other hr hne⟩,
    horderly.tidy, horderly.unused, Helpdesk.Desk.filed_answer horderly.filed _ r⟩

/-- **What is asked about a ticket concerns no other one**, and the world stays orderly. -/
theorem answer (h : w.Orderly) {r : Service.Request} (hr : r.Concerns ticketId w) :
    w.Regards ticketId (w.answer r).2 ∧ (w.answer r).2.Orderly := by
  have hasked : w.Regards ticketId { w with asked := w.asked + 1 } :=
    ⟨rfl, rfl, rfl, fun _ _ _ => rfl, fun _ _ => rfl⟩
  have horderly := h.asked (w.asked + 1) w.logs
  rw [answer_eq]
  split
  · exact ⟨hasked, horderly⟩
  cases r with
  | store r =>
    obtain ⟨hregards, hthen⟩ := horderly.askStore hr
    exact ⟨hasked.trans hregards, hthen⟩
  | desk r =>
    obtain ⟨hregards, hthen⟩ := horderly.askDesk hr
    exact ⟨hasked.trans hregards, hthen⟩
  | log | newFlowId =>
    exact ⟨⟨rfl, rfl, rfl, fun _ _ _ => rfl, fun _ _ => rfl⟩, h.tidy, h.unused, h.filed⟩

end Orderly

end World

end FrontDesk
