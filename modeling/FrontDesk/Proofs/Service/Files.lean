/-
Files of tickets in a world.

What a world knows of a ticket is what the store has on file of it and what was done about it at the
helpdesk. A request to the helpdesk that concerns one ticket does nothing about the others
(`Helpdesk.Desk.file_answer_other`), and what it does goes by what was done about this one before
(`file_answer`).
-/
import FrontDesk.Proofs.Store.Lockstep

namespace FrontDesk

open Calendar Service

namespace Helpdesk

/-- What was done about a ticket. -/
structure Desk.File where
  ticket : Option Ticket
  stored : List String
  delivered : List String
  transfers : List (Option String)
  lastActivity : Option Moment

/-- What was done about a ticket at a desk. -/
def Desk.file (ticketId : String) (d : Desk) : Desk.File where
  ticket := d.tickets.find? ticketId
  stored := (d.persisted.filter (·.1 == ticketId)).map Prod.snd
  delivered := d.deliveredTo ticketId
  transfers := (d.transfers.filter (·.1 == ticketId)).map Prod.snd
  lastActivity := d.lastActivity.find? ticketId

/-- A request concerns no ticket but this one. -/
def Request.Concerns (ticketId : String) : Request → Prop
  | .ticket id => id = ticketId
  | .transfer t _ | .persist t _ | .deliver t _ | .touch t _ => t.id = ticketId
  | .notify .. => True

/-- Two answers are alike. Records of stored messages may differ but for their kind, and a ticket
that is looked up is the one that was meant. -/
def Request.Like : (r : Request) → r.Answer → r.Answer → Prop
  | .ticket id, x, x' => x' = x ∧ ∀ t, x = some t → t.id = id
  | .persist .., x, x' =>
    x' = x ∨ ∃ m ms m' ms', x = .object (m :: ms) ∧ x' = .object (m' :: ms')
  | .transfer .., x, x' | .deliver .., x, x' | .notify .., x, x' | .touch .., x, x' => x' = x

/-- Tickets are on the desk under their own ids. -/
def Desk.Filed (d : Desk) : Prop := ∀ key t, d.tickets.find? key = some t → t.id = key

namespace Desk

variable {d d' : Desk} {ticketId other messageId messageId' : String} {r : Request}

theorem filed_answer (h : d.Filed) (messageId : String) (r : Request) :
    (d.answer messageId r).2.Filed := by
  cases r with
  | transfer t queue =>
    intro key t' hfind
    rw [answer, Entries.find?_put] at hfind
    split at hfind
    next hkey =>
      cases hfind
      exact hkey.symm
    next => exact h key t' hfind
  | ticket | persist | deliver | notify | touch => exact h

theorem file_answer_other (hr : r.Concerns ticketId) (hother : other ≠ ticketId) :
    (d.answer messageId r).2.file other = d.file other := by
  cases r with
  | ticket | notify => rfl
  | transfer t queue | persist t body | deliver t body | touch t time =>
    cases hr
    simp [answer, file, deliveredTo, Entries.find?_put, hother, hother.symm]

theorem file_answer (hr : r.Concerns ticketId) (h : d'.file ticketId = d.file ticketId) :
    (d'.answer messageId' r).2.file ticketId = (d.answer messageId r).2.file ticketId := by
  simp only [file, File.mk.injEq] at h
  obtain ⟨hticket, hstored, hdelivered, htransfers, hactivity⟩ := h
  simp only [deliveredTo] at hdelivered
  cases r with
  | ticket | notify =>
    simp [answer, file, deliveredTo, hticket, hstored, hdelivered, htransfers, hactivity]
  | transfer t queue | persist t body | deliver t body | touch t time =>
    cases hr
    simp [answer, file, deliveredTo, Entries.find?_put, hticket, hstored, hdelivered, htransfers,
      hactivity]

theorem like_answer (messageId messageId' : String) (hfiled : d.Filed) (hr : r.Concerns ticketId)
    (h : d'.file ticketId = d.file ticketId) :
    r.Like (d.answer messageId r).1 (d'.answer messageId' r).1 := by
  cases r with
  | ticket id =>
    cases hr
    exact ⟨congrArg File.ticket h, fun t ht => hfiled _ t ht⟩
  | persist t body => exact .inr ⟨_, _, _, _, rfl, rfl⟩
  | transfer | deliver | notify | touch => rfl

end Desk

end Helpdesk

/-! ## Worlds -/

/-- What a world knows of a ticket. -/
structure World.File where
  folders : List Folder
  desk : Helpdesk.Desk.File

namespace World

/-- What is on file of a ticket. -/
def file (ticketId : String) (w : World) : World.File where
  folders := (w.store.file ticketId w.clock).values
  desk := w.desk.file ticketId

/-- The sessions of a ticket that go on. -/
def goingOn (ticketId : String) (w : World) : List Session :=
  (w.store.sessions w.clock).filter (·.isActiveOn ticketId)

theorem numbered_inj {kind : String} {n m : Nat} (h : numbered kind n = numbered kind m) :
    n = m := by
  have hdigits : (toString n).toList = (toString m).toList :=
    congrArg String.toList ((String.append_right_inj _).1 h)
  rw [Nat.toString_eq_repr, Nat.toString_eq_repr, Nat.toList_repr, Nat.toList_repr] at hdigits
  have hvalue := Nat.ofDigitChars_ten_toDigits (n := n)
  rw [hdigits, Nat.ofDigitChars_ten_toDigits] at hvalue
  exact hvalue.symm

/-- Sessions and tickets are under their own ids, and ids that are still to be given to sessions are
not in use. -/
structure Orderly (w : World) : Prop where
  tidy : w.store.Tidy
  unused : ∀ n, w.sessionIds < n → w.store.Unused w.clock (numbered "session" n)
  filed : w.desk.Filed

/-- What became of a world concerns one ticket. -/
structure Turns (ticketId : String) (w w' : World) : Prop where
  clock : w'.clock = w.clock
  trouble : w'.trouble = w.trouble
  bare : w'.store.bare = w.store.bare
  store : ∀ other ≠ ticketId, w'.store.file other w.clock = w.store.file other w.clock
  desk : ∀ other ≠ ticketId, w'.desk.file other = w.desk.file other

/-- The same, whenever what is on file is read. -/
structure Regards (ticketId : String) (w w' : World) : Prop where
  clock : w'.clock = w.clock
  trouble : w'.trouble = w.trouble
  bare : w'.store.bare = w.store.bare
  store : ∀ other ≠ ticketId, ∀ time, w'.store.file other time = w.store.file other time
  desk : ∀ other ≠ ticketId, w'.desk.file other = w.desk.file other

/-- Two worlds are in step on a ticket: they have the same on file of it, and the same goes wrong
around them, requests that fail apart. -/
structure InStep (ticketId : String) (stage : Stage) (w v : World) : Prop where
  orderly : w.Orderly
  orderly' : v.Orderly
  clock : v.clock = w.clock
  rivals : v.trouble.rivalSaves = w.trouble.rivalSaves
  withheld : v.trouble.recordsWithheld = w.trouble.recordsWithheld
  store : Store.InStep ticketId w.clock stage w.store v.store
  desk : v.desk.file ticketId = w.desk.file ticketId

variable {w w' v : World} {ticketId other : String} {stage : Stage}

namespace Regards

theorem refl (ticketId : String) (w : World) : Regards ticketId w w :=
  ⟨rfl, rfl, rfl, fun _ _ _ => rfl, fun _ _ => rfl⟩

theorem trans {w'' : World} (h : w.Regards ticketId w') (h' : w'.Regards ticketId w'') :
    w.Regards ticketId w'' where
  clock := h'.clock.trans h.clock
  trouble := h'.trouble.trans h.trouble
  bare := h'.bare.trans h.bare
  store other hne time := (h'.store other hne time).trans (h.store other hne time)
  desk other hne := (h'.desk other hne).trans (h.desk other hne)

theorem turns (h : w.Regards ticketId w') : w.Turns ticketId w' :=
  ⟨h.clock, h.trouble, h.bare, fun other hne => h.store other hne w.clock, h.desk⟩

end Regards

namespace InStep

theorem file_eq (h : InStep ticketId stage w v) : v.file ticketId = w.file ticketId := by
  rw [file, file, h.clock, h.store.values, h.desk]

theorem fresh (h : InStep ticketId stage w v) : InStep ticketId .fresh w v :=
  { h with store := h.store.fresh }

theorem spared (h : InStep ticketId stage w v) (hturns : w.Turns other w') (hne : ticketId ≠ other)
    (horderly : w'.Orderly) : InStep ticketId stage w' v := by
  have hfile := hturns.store ticketId hne
  obtain ⟨-, tidy', bare, values, fits⟩ := h.store
  refine ⟨horderly, h.orderly', h.clock.trans hturns.clock.symm, ?_, ?_, ?_,
    h.desk.trans (hturns.desk ticketId hne).symm⟩
  · rw [hturns.trouble, h.rivals]
  · rw [hturns.trouble, h.withheld]
  · rw [hturns.clock]
    refine ⟨horderly.tidy, tidy', bare.trans hturns.bare.symm, by rw [values, hfile], ?_⟩
    cases stage with
    | fresh | vacant => simpa only [Store.Fits, Store.flags, hfile] using fits
    | holding key key' => simpa only [Store.Fits, Store.Places, Store.flags, hfile] using fits

end InStep

end World

end FrontDesk
