/-
Tickets are isolated from each other.

A message on a ticket changes nothing that is known of any other ticket, whatever fails meanwhile
and however many sessions go on (`Reception.incoming_regards`). What it does about its own goes by
what is on file of this one alone: two worlds that have the same on file of it and the same flows
stay abreast while the message is dealt with (`Job.Alike.abreast`). So of messages on two tickets
either may be dealt with first (`World.isolated`).
-/
import FrontDesk.Proofs.Service.Serial
import FrontDesk.Proofs.Store.Abreast

namespace FrontDesk

open Calendar Service

/-! ## Worlds abreast -/

theorem Store.Abreast.lasts (ticketId : String) (now : Moment) :
    Store.Lasts ticketId now (Store.Abreast ticketId) where
  bare h := (h.matched now).bare
  holds h := by
    obtain ⟨n, hn⟩ := h.atHand _ _ rfl now
    obtain ⟨s, trail, -, hticket, hfind, hfind', -⟩ := (h.matched now).places hn
    exact ⟨⟨s, hfind, hticket⟩, _, hfind', hticket⟩
  activeSession h := by
    rcases h.activeSession now with ⟨e, herror⟩ | hnone | ⟨s, s', hs, hs', htwins⟩
    · exact .inl ⟨e, e, herror⟩
    · exact .inr (.inl ⟨hnone.1, hnone.2, h.matched, fun _ _ => nofun⟩)
    · rw [htwins.like] at hs'
      refine .inr (.inr ⟨s, s'.id, hs, hs', htwins.ticket, h.matched, fun key key' hstage => ?_⟩)
      cases hstage
      exact htwins.place
  openSession h hticket hid hid' := h.openSession hticket hid hid'
  saveSession id id' h hticket := h.saveSession hticket now id id'
  record id id' h := h.record now id id'
  rivalled id id' h := h.rivalled now id id'

namespace World

/-- Two worlds are abreast on a ticket. -/
def Abreast (ticketId : String) (stage : Stage) (w v : World) : Prop :=
  Paired (Store.Abreast ticketId) ticketId stage w v

/-- What is on file of a ticket, read at some time. -/
def fileAt (ticketId : String) (time : Moment) (w : World) : World.File where
  folders := (w.store.file ticketId time).values
  desk := w.desk.file ticketId

/-- Two worlds have the same flows and the same on file of a ticket, and the same goes wrong around
them, requests that fail apart. -/
structure SameOn (ticketId : String) (w v : World) : Prop where
  flows : v.store.bare = w.store.bare
  rivals : v.trouble.rivalSaves = w.trouble.rivalSaves
  withheld : v.trouble.recordsWithheld = w.trouble.recordsWithheld
  file : ∀ time, v.fileAt ticketId time = w.fileAt ticketId time

variable {w v w' : World} {ticketId other : String} {stage : Stage}

theorem Orderly.at (h : w.Orderly) (time : Moment) : Orderly { w with clock := time } :=
  ⟨h.tidy, fun n hn => (h.unused n hn).at time, h.filed⟩

theorem Orderly.facing (h : w.Orderly) (failures : List Bool) : (w.facing failures).Orderly :=
  ⟨h.tidy, h.unused, h.filed⟩

theorem Regards.same (h : w.Regards other w') (hne : ticketId ≠ other) : w.SameOn ticketId w' where
  flows := h.bare
  rivals := by rw [h.trouble]
  withheld := by rw [h.trouble]
  file time := by rw [fileAt, fileAt, h.store ticketId hne, h.desk ticketId hne]

theorem SameOn.abreast (h : w.SameOn ticketId v) (hw : w.Orderly) (hv : v.Orderly)
    (hclock : v.clock = w.clock) : Abreast ticketId .fresh w v where
  orderly := hw
  orderly' := hv
  clock := hclock
  rivals := h.rivals
  withheld := h.withheld
  store := ⟨fun time => ⟨hw.tidy, hv.tidy, h.flows, congrArg File.folders (h.file time)⟩,
    fun _ _ => nofun⟩
  desk := congrArg File.desk (h.file w.clock)

namespace Abreast

theorem self (h : w.Orderly) (ticketId : String) : Abreast ticketId .fresh w w :=
  ⟨h, h, rfl, rfl, rfl, .refl h.tidy ticketId, rfl⟩

theorem facing (h : Abreast ticketId stage w v) (failures : List Bool) :
    Abreast ticketId stage w (v.facing failures) :=
  ⟨h.orderly, h.orderly'.facing failures, h.clock, h.rivals, h.withheld, h.store, h.desk⟩

theorem fileAt_eq (h : Abreast ticketId stage w v) (time : Moment) :
    v.fileAt ticketId time = w.fileAt ticketId time := by
  rw [fileAt, fileAt, (h.store.matched time).values, h.desk]

/-- **Both worlds are asked**, and both fail to answer or neither does. -/
theorem answer (h : Abreast ticketId stage w v) {r r' : Service.Request}
    (hask : Asks ticketId stage r r') (hfails : w.fails r = v.fails r') :
    w.Regards ticketId (w.answer r).2 ∧ ∃ stage',
      Abreast ticketId stage' (w.answer r).2 (v.answer r').2 ∧
      Gives ticketId stage r r' stage' (w.answer r).1 (v.answer r').1 :=
  Paired.answer h (Store.Abreast.lasts ticketId w.clock) hask hfails

end Abreast

end World

/-! ## Running abreast -/

namespace Job.Alike

variable {α β : Type} {ticketId : String} {R : Stage → α → β → Prop} {stage : Stage} {j : Job α}
  {j' : Job β} {w v : World}

theorem regards (hj : Alike ticketId R stage j j') (h : w.Abreast ticketId stage v) :
    w.Regards ticketId (j.run w).2 ∧ (j.run w).2.Orderly := by
  induction hj generalizing w v with
  | done | failed => exact ⟨.refl ticketId w, h.orderly⟩
  | @ask _ r r' _ _ asks _ ih =>
    -- the other world may fail where this one does
    obtain ⟨hregards, stage', hthen, hgives⟩ := (h.facing [w.fails r]).answer asks
      (asks.fails_eq (World.facing_outage v [w.fails r] 0 r'))
    obtain ⟨hrest, horderly⟩ := ih stage' _ _ hgives hthen
    exact ⟨hregards.trans hrest, horderly⟩

/-- Jobs that are alike leave worlds abreast, if their requests fail alike. -/
theorem abreast (hj : Alike ticketId R stage j j') (h : w.Abreast ticketId stage v)
    (hfails : ∀ n r r', v.trouble.outage (v.asked + n) r' = w.trouble.outage (w.asked + n) r) :
    ∃ stage', (j.run w).2.Abreast ticketId stage' (j'.run v).2 := by
  induction hj generalizing w v with
  | done | failed => exact ⟨_, h⟩
  | @ask _ r r' _ _ asks _ ih =>
    have hnow : w.fails r = v.fails r' := by
      rw [World.fails, World.fails, asks.isOutside, ← Nat.add_zero w.asked, ← hfails 0 r r',
        Nat.add_zero]
    obtain ⟨hregards, stage', hthen, hgives⟩ := h.answer asks hnow
    have hlater (n : Nat) (q q' : Service.Request) :
        (v.answer r').2.trouble.outage ((v.answer r').2.asked + n) q' =
          (w.answer r).2.trouble.outage ((w.answer r).2.asked + n) q := by
      rw [(World.answer_trouble w r).1, (World.answer_trouble v r').1, World.answer_asked,
        World.answer_asked, Nat.add_right_comm, Nat.add_right_comm w.asked]
      exact hfails (n + 1) q q'
    exact ih stage' _ _ hgives hthen hlater

end Job.Alike

/-! ## Messages on two tickets -/

namespace Reception

/-- A message that comes in, what the clocks of the store and of the reception say then, and which
of the requests about it fail. -/
structure Arrival where
  clock : Moment
  now : Moment
  ticketId : String
  messageId : String
  text : String
  failures : List Bool := []

/-- **A message on a ticket changes nothing about the others.** -/
theorem incoming_regards (r : Reception) (now : Moment) (ticketId messageId text : String)
    {w : World} (hw : w.Orderly) :
    w.Regards ticketId ((r.incoming now ticketId messageId text).run w).2 ∧
      ((r.incoming now ticketId messageId text).run w).2.Orderly :=
  (r.incoming_alike now ticketId messageId text).regards (.self hw ticketId)

end Reception

namespace World

variable {w v : World} {ticketId : String}

/-- The world when a message comes in. -/
def met (w : World) (a : Reception.Arrival) : World :=
  ({ w with clock := a.clock } : World).facing a.failures

/-- The world after a message was dealt with. -/
def dealt (r : Reception) (w : World) (a : Reception.Arrival) : World :=
  ((r.incoming a.now a.ticketId a.messageId a.text).run (w.met a)).2

theorem Orderly.met (h : w.Orderly) (a : Reception.Arrival) : (w.met a).Orderly :=
  (h.at a.clock).facing a.failures

theorem Orderly.dealt (h : w.Orderly) (r : Reception) (a : Reception.Arrival) :
    (w.dealt r a).Orderly :=
  (r.incoming_regards a.now a.ticketId a.messageId a.text (h.met a)).2

/-- To another ticket the world is the same afterwards. -/
theorem Orderly.same_dealt (h : w.Orderly) (r : Reception) (a : Reception.Arrival)
    (hne : ticketId ≠ a.ticketId) : w.SameOn ticketId (w.dealt r a) := by
  have hregards := (r.incoming_regards a.now a.ticketId a.messageId a.text (h.met a)).1
  obtain ⟨flows, rivals, withheld, file⟩ := hregards.same hne
  exact ⟨flows, rivals, withheld, file⟩

/-- What is done about a message goes by what is on file of its ticket. -/
theorem SameOn.dealt (h : w.SameOn ticketId v) (hw : w.Orderly) (hv : v.Orderly) (r : Reception)
    {a : Reception.Arrival} (ha : a.ticketId = ticketId) (time : Moment) :
    (v.dealt r a).fileAt ticketId time = (w.dealt r a).fileAt ticketId time := by
  subst ha
  obtain ⟨flows, rivals, withheld, file⟩ := h
  have hmet : (w.met a).SameOn a.ticketId (v.met a) := ⟨flows, rivals, withheld, file⟩
  obtain ⟨stage', habreast⟩ :=
    (r.incoming_alike a.now a.ticketId a.messageId a.text).abreast
      (hmet.abreast (hw.met a) (hv.met a) rfl) fun n _ _ => by
        simp [World.met, World.facing]
  exact habreast.fileAt_eq time

/-- **Tickets are isolated.** A message on a ticket leaves what is on file of every other one as it
is. What it does about its own is the same in any world that has the same on file of this one, and
the same flows. So what is on file of tickets in the end is the same whichever of two messages on
two tickets is dealt with first, ids apart. -/
theorem isolated (r : Reception) {w : World} (hw : w.Orderly) :
    (∀ (now : Moment) (ticketId messageId text : String),
      let w' := ((r.incoming now ticketId messageId text).run w).2
      ∀ other ≠ ticketId, (∀ time, w'.store.file other time = w.store.file other time) ∧
        w'.desk.file other = w.desk.file other) ∧
    (∀ (a : Reception.Arrival) (v : World), v.Orderly → w.SameOn a.ticketId v →
      ∀ time, (v.dealt r a).fileAt a.ticketId time = (w.dealt r a).fileAt a.ticketId time) ∧
    (∀ a b : Reception.Arrival, a.ticketId ≠ b.ticketId → ∀ ticketId time,
      ((w.dealt r a).dealt r b).fileAt ticketId time =
        ((w.dealt r b).dealt r a).fileAt ticketId time) := by
  refine ⟨?_, fun a v hv hsame => hsame.dealt hw hv r rfl, fun a b hne ticketId time => ?_⟩
  · intro now ticketId messageId text w' other hne
    have hregards := (r.incoming_regards now ticketId messageId text hw).1
    exact ⟨hregards.store other hne, hregards.desk other hne⟩
  -- each order, as seen from one of the tickets or from another
  have hside (a b : Reception.Arrival) (hne : a.ticketId ≠ b.ticketId) (hb : ticketId = b.ticketId) :
      ((w.dealt r a).dealt r b).fileAt ticketId time =
        ((w.dealt r b).dealt r a).fileAt ticketId time := by
    subst hb
    rw [((hw.dealt r b).same_dealt r a hne.symm).file time]
    exact (hw.same_dealt r a hne.symm).dealt hw (hw.dealt r a) r rfl time
  by_cases ha : ticketId = a.ticketId
  · exact (hside b a hne.symm ha).symm
  by_cases hb : ticketId = b.ticketId
  · exact hside a b hne hb
  · rw [((hw.dealt r a).same_dealt r b hb).file, (hw.same_dealt r a ha).file,
      ((hw.dealt r b).same_dealt r a ha).file, (hw.same_dealt r b hb).file]

end World

/-- A message on the one ticket of the busy office. -/
def knock : Reception.Arrival :=
  { clock := .utc 1, now := .utc 1, ticketId := "a", messageId := "m1", text := "Hi" }

/-- A message on the other. The first of what is said to it cannot be stored. -/
def ring : Reception.Arrival :=
  { clock := .utc 2, now := .utc 2, ticketId := "b", messageId := "m2", text := "Hi"
    failures := List.replicate 6 false ++ [true] }

/-- The sessions get their ids in the order in which they are begun, but are the same. -/
theorem busyOffice_isolated :
    busyOffice.Orderly ∧ knock.ticketId ≠ ring.ticketId ∧
      busyOffice.SameOn "a" (busyOffice.dealt {} ring) ∧
      let rung := busyOffice.dealt {} ring
      let knocked := busyOffice.dealt {} knock
      let ids (w : World) := (w.store.sessions (.utc 5)).map fun s => (s.id, s.ticketId)
      ids (knocked.dealt {} ring) = [("session-1", "a"), ("session-2", "b")] ∧
        ids (rung.dealt {} knock) = [("session-1", "b"), ("session-2", "a")] ∧
        (rung.dealt {} knock).desk.persisted =
          [("b", "Done?\n1. Yes"), ("a", "Hello"), ("a", "Done?\n1. Yes")] ∧
        ((({} : Reception).incoming (.utc 1) "a" "m1" "Hi").run rung).2.desk.file "b" =
          rung.desk.file "b" ∧
        (∀ time, (rung.dealt {} knock).fileAt "a" time = knocked.fileAt "a" time) ∧
        ∀ ticketId time, (knocked.dealt {} ring).fileAt ticketId time =
          (rung.dealt {} knock).fileAt ticketId time := by
  have hsame : busyOffice.SameOn "a" (busyOffice.dealt {} ring) :=
    busyOffice_orderly.same_dealt {} ring (by decide)
  have hrung : (busyOffice.dealt {} ring).Orderly := busyOffice_orderly.dealt {} ring
  obtain ⟨-, halone, heither⟩ := World.isolated {} busyOffice_orderly
  obtain ⟨hothers, -⟩ := World.isolated {} hrung
  exact ⟨busyOffice_orderly, by decide, hsame, by decide +kernel, by decide +kernel,
    by decide +kernel, (hothers (.utc 1) "a" "m1" "Hi" "b" (by decide)).2,
    halone knock _ hrung hsame, heither knock ring (by decide)⟩

end FrontDesk
