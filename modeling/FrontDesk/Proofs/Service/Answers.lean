/-
How a world answers.

A request fails before anything is done, or it is dealt with by the store or the helpdesk
(`World.answer_eq`). All that the helpdesk does to a store is what others may do meanwhile: to save a
session that goes on, as it was found (`World.interfere_eq`).
-/
import FrontDesk.Proofs.Store.Table

namespace FrontDesk

open Calendar Service

namespace World

/-- Whether a request fails for reasons of its own. -/
def fails (w : World) (r : Service.Request) : Bool := isOutside r && w.trouble.outage w.asked r

theorem answer_eq (w : World) (r : Service.Request) :
    w.answer r =
      if w.fails r then (.error .outage, { w with asked := w.asked + 1 })
      else perform { w with asked := w.asked + 1 } r := rfl

/-- How many sessions were begun when a request has been answered. -/
def idsAfter (w : World) (r : Store.Request) : Nat :=
  if opensSession r then w.sessionIds + 1 else w.sessionIds

theorem askStore_eq (w : World) (r : Store.Request) :
    w.askStore r =
      ((w.store.answer w.clock (numbered "session" (w.idsAfter r)) r).1,
        { w with
          store := (w.store.answer w.clock (numbered "session" (w.idsAfter r)) r).2
          sessionIds := w.idsAfter r }) := rfl

theorem rivalSave_eq (w : World) (ticketId : String) :
    w.rivalSave ticketId =
      { w with
        store := w.store.rivalled w.clock (numbered "session" w.sessionIds) ticketId } := by
  rw [rivalSave, askStore_eq, Store.answer_activeSession_eq, Store.rivalled]
  rcases w.store.activeSession ticketId w.clock with e | _ | s
  · rfl
  · rfl
  · rfl

/-- Who interferes does nothing to the store, or saves a session as it was found. -/
theorem interfere_eq (w : World) (r : Helpdesk.Request) :
    ∃ store, w.interfere r = { w with store } ∧
      (store = w.store ∨
        ∃ ticketId s id, (w.store.answer w.clock id (.activeSession ticketId)).1 = .ok (some s) ∧
          store = (w.store.answer w.clock id (.saveSession s)).2) := by
  cases r with
  | deliver t body =>
    simp only [interfere]
    split
    · rw [rivalSave_eq]
      refine ⟨_, rfl, ?_⟩
      rcases w.store.rivalled_cases w.clock (numbered "session" w.sessionIds) t.id with
        hsame | ⟨s, hfound, hsaved⟩
      · exact .inl hsame
      · exact .inr ⟨t.id, s, _, hfound, hsaved⟩
    · exact ⟨w.store, rfl, .inl rfl⟩
  | ticket | transfer | persist | notify | touch => exact ⟨w.store, rfl, .inl rfl⟩

theorem answer_store_desk (w : World) (r : Store.Request) :
    (w.answer (.store r)).2.desk = w.desk := by
  rw [answer_eq]
  split <;> rfl

/-- What is asked of the helpdesk is lost, or it does that. -/
theorem answer_desk (w : World) (r : Helpdesk.Request) :
    w.answer (.desk r) = (.error .outage, { w with asked := w.asked + 1 }) ∨
      ∃ x id, (w.answer (.desk r)).1 = .ok x ∧
        (w.answer (.desk r)).2.desk = (w.desk.answer id r).2 := by
  rw [answer_eq]
  split
  · exact .inl rfl
  · obtain ⟨store, hstore, -⟩ := interfere_eq { w with asked := w.asked + 1 } r
    refine .inr ⟨_, numbered "msg"
      (if storesMessage r then w.messageIds + 1 else w.messageIds), rfl, ?_⟩
    simp only [perform, askDesk, hstore]

end World

end FrontDesk
