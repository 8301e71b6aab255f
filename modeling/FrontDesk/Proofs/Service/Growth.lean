/-
How the book of a world grows.

Of the sessions on record one at most goes on under a ticket, and the ids of sessions to come are not
in use (`World.WellKept`). A request that may be made at a reception (`World.May`) leaves the book as
it is, puts a session into it that is new on a vacant ticket, or makes the next version of a record
(`World.Step`); someone else who saves a session meanwhile does no other. So every record grows out
of the one before it (`World.Later`), and a conversation that was completed when a message came in is
not touched (`World.Since`).
-/
import FrontDesk.Proofs.Service.Files
import FrontDesk.Proofs.Service.Steps
import FrontDesk.Proofs.Store.Book

namespace FrontDesk

open Calendar Service Store

/-! ## Records -/

namespace Session

/-- A record comes before another one of the same conversation. -/
structure Precedes (s s' : Session) : Prop where
  kin : s.Kin s'
  history : s.state.history <+: s'.state.history
  version : s.version ≤ s'.version
  completed : s.completedAt.isSome = true → s'.completedAt.isSome = true

/-- Nothing that a conversation comes to is different. -/
structure Unchanged (s s' : Session) : Prop where
  state : s'.state = s.state
  currentNode : s'.currentNode = s.currentNode
  completedAt : s'.completedAt = s.completedAt
  transferredAt : s'.transferredAt = s.transferredAt
  version : s'.version = s.version

/-- A session is what a message at the given time can make of a record. -/
structure Continues (now : Moment) (old s : Session) : Prop where
  history : old.state.history <+: s.state.history
  completed : s.completedAt = some now ∨ s.completedAt = none ∧ old.completedAt = none
  transferred : s.transferredAt = some now ∨ s.transferredAt = old.transferredAt

namespace Precedes

variable {s s' s'' : Session}

theorem refl (s : Session) : s.Precedes s := ⟨.refl s, List.prefix_rfl, Int.le_refl _, fun h => h⟩

theorem trans (h : s.Precedes s') (h' : s'.Precedes s'') : s.Precedes s'' where
  kin := h.kin.trans h'.kin
  history := h.history.trans h'.history
  version := Int.le_trans h.version h'.version
  completed hs := h'.completed (h.completed hs)

theorem ongoing (h : s.Precedes s') (hs' : s'.completedAt = none) : s.completedAt = none := by
  cases hs : s.completedAt with
  | none => rfl
  | some time =>
    have hdone := h.completed (by rw [hs]; rfl)
    rw [hs'] at hdone
    cases hdone

end Precedes

theorem Unchanged.trans {s s' s'' : Session} (h : s.Unchanged s') (h' : s'.Unchanged s'') :
    s.Unchanged s'' where
  state := h'.state.trans h.state
  currentNode := h'.currentNode.trans h.currentNode
  completedAt := h'.completedAt.trans h.completedAt
  transferredAt := h'.transferredAt.trans h.transferredAt
  version := h'.version.trans h.version

end Session

namespace World

/-- The sessions under their ids. -/
def book (w : World) : Entries Session := w.store.book

/-- Records are sound and read as they were written, each under its id. -/
structure Readable (w : World) : Prop where
  tidy : w.store.Tidy
  sound : w.store.Sound
  steady : w.store.Steady

/-- Moreover, ids that are still to be given are not in use, and one session at most goes on under a
ticket. -/
structure WellKept (w : World) : Prop extends Readable w where
  unused : ∀ n, w.sessionIds < n → w.book.find? (numbered "session" n) = none
  alone : ∀ s ∈ w.book.values, ∀ s' ∈ w.book.values, s.ticketId = s'.ticketId →
    s.completedAt = none → s'.completedAt = none → s.id = s'.id

/-- No session goes on under the ticket. -/
def Vacant (w : World) (ticketId : String) : Prop :=
  ∀ s ∈ w.book.values, s.isActiveOn ticketId = false

variable {w₀ w w' w'' : World} {new : String → Prop} {now : Moment}

theorem Readable.congr (h : w.Readable) (hstore : w'.store = w.store) : w'.Readable := by
  obtain ⟨tidy, sound, steady⟩ := h
  rw [← hstore] at tidy sound steady
  exact ⟨tidy, sound, steady⟩

theorem WellKept.congr (h : w.WellKept) (hstore : w'.store = w.store)
    (hids : w'.sessionIds = w.sessionIds) : w'.WellKept := by
  have hbook : w'.book = w.book := congrArg Store.book hstore
  refine ⟨h.toReadable.congr hstore, fun n hn => ?_, ?_⟩
  · rw [hbook]
    exact h.unused n (hids ▸ hn)
  · rw [hbook]
    exact h.alone

theorem WellKept.read (h : w.WellKept) {s : Session} (hs : s ∈ w.book.values) : s.Sound := by
  refine h.sound (.utc 0) s ?_
  rw [h.steady.sessions]
  exact hs

theorem WellKept.find?_of_mem (h : w.WellKept) {s : Session} (hs : s ∈ w.book.values) :
    w.book.find? s.id = some s :=
  (h.tidy.table (.utc 0)).find?_of_mem hs

/-! ## What may be asked -/

/-- What a conversation may begin with: nothing in its state, somewhere to rest, a ticket on which
none goes on, and a flow of the catalog. -/
structure MayOpen (w : World) (new : String → Prop) (o : Opening) : Prop where
  state : o.state = {}
  node : ∃ entry, o.currentNode = some entry ∧ entry ≠ ""
  ticket : new o.ticketId
  vacant : w.Vacant o.ticketId
  flow : ∃ f ∈ w.catalog.values, f.id = o.flowId

/-- A session at hand: it was made from the record under its id, if that has its version still, the
conversation was not completed at the beginning, and its times are of now or were read. -/
structure InHand (w w₀ : World) (now : Moment) (s : Session) : Prop where
  record : ∃ old, w.book.find? s.id = some old ∧ old.Kin s ∧ s.version ≤ old.version ∧
    (old.version = s.version → old.Continues now s)
  ongoing : ∀ s', w₀.book.find? s.id = some s' → s'.completedAt = none
  times : ∀ time, s.completedAt = some time ∨ s.transferredAt = some time →
    time = now ∨ w₀.store.Retains time

/-- What a reception may ask that deals with a message: `w₀` is the world in which the message
came in, and sessions are begun on such tickets only. -/
def May (w w₀ : World) (new : String → Prop) (now : Moment) : Service.Request → Prop
  | .store (.openSession o) => w.MayOpen new o
  | .store (.saveSession s) => w.InHand w₀ now s ∧ s.Sound
  | .store (.record i) => i.createdAt = now ∧ w.book.has i.sessionId = true
  | .store (.interactions _) => False
  | .store r => r.edits = false
  | .desk _ | .log .. => True
  | .newFlowId => False

/-! ## What becomes of the book -/

/-- What one request makes of the book. -/
inductive Step (w₀ : World) (new : String → Prop) (w w' : World) : Prop where
  | same (ids : w.sessionIds ≤ w'.sessionIds) (book : w'.book = w.book)
  | begun (s : Session) (id : s.id = numbered "session" (w.sessionIds + 1))
      (ids : w'.sessionIds = w.sessionIds + 1) (ticket : new s.ticketId)
      (vacant : w.Vacant s.ticketId) (flow : ∃ f ∈ w.catalog.values, f.id = s.flowId)
      (book : w'.book = w.book.put s.id s)
  | saved (old s : Session) (ids : w'.sessionIds = w.sessionIds)
      (found : w.book.find? s.id = some old) (precedes : old.Precedes s)
      (next : s.version = old.version + 1)
      (ongoing : old.completedAt = none ∨
        ∀ s', w₀.book.find? s.id = some s' → s'.completedAt = none)
      (book : w'.book = w.book.put s.id s)

/-- The book of a world has grown into that of a later one: each record comes from an earlier one,
or it is of a conversation that was begun since, on such a ticket. -/
structure Later (new : String → Prop) (w w' : World) : Prop where
  ids : w.sessionIds ≤ w'.sessionIds
  grows : ∀ key s', w'.book.find? key = some s' →
    (∃ s, w.book.find? key = some s ∧ s.Precedes s') ∨
      new s'.ticketId ∧ ∃ n, w.sessionIds < n ∧ key = numbered "session" n

/-- Moreover, conversations that were completed are as they were. -/
structure Since (new : String → Prop) (w₀ w : World) : Prop extends Later new w₀ w where
  closed : ∀ key s s', w₀.book.find? key = some s → s.completedAt.isSome = true →
    w.book.find? key = some s' → s.Unchanged s'

/-! ## Step by step -/

theorem Later.refl (w : World) : Later new w w :=
  ⟨Nat.le_refl _, fun _ s hs => .inl ⟨s, hs, .refl s⟩⟩

theorem Later.trans (h : Later new w w') (h' : Later new w' w'') : Later new w w'' where
  ids := Nat.le_trans h.ids h'.ids
  grows key s'' hs'' := by
    rcases h'.grows key s'' hs'' with ⟨s', hs', hlate⟩ | ⟨hnew, n, hn, hkey⟩
    · rcases h.grows key s' hs' with ⟨s, hs, hearly⟩ | ⟨hnew, hid⟩
      · exact .inl ⟨s, hs, hearly.trans hlate⟩
      · exact .inr ⟨hlate.kin.ticketId ▸ hnew, hid⟩
    · exact .inr ⟨hnew, n, Nat.lt_of_le_of_lt h.ids hn, hkey⟩

namespace Step

theorem later (hstep : Step w₀ new w w') : Later new w w' := by
  cases hstep with
  | same ids book => exact ⟨ids, fun _ s hs => .inl ⟨s, by rw [← book]; exact hs, .refl s⟩⟩
  | begun s id ids ticket vacant flow book =>
    refine ⟨by omega, fun key s' hs' => ?_⟩
    rw [book, Entries.find?_put] at hs'
    split at hs'
    next hkey =>
      cases hs'
      exact .inr ⟨ticket, _, Nat.lt_succ_self _, hkey.trans id⟩
    next => exact .inl ⟨s', hs', .refl s'⟩
  | saved old s ids found precedes next ongoing book =>
    refine ⟨by omega, fun key s' hs' => ?_⟩
    rw [book, Entries.find?_put] at hs'
    split at hs'
    next hkey =>
      cases hs'
      exact .inl ⟨old, by rw [hkey]; exact found, precedes⟩
    next => exact .inl ⟨s', hs', .refl s'⟩

theorem wellKept (hstep : Step w₀ new w w') (h : w.WellKept) (hread : w'.Readable) :
    w'.WellKept := by
  refine { hread with unused := fun n hn => ?_, alone := ?_ }
  · have hunused := h.unused n (Nat.lt_of_le_of_lt hstep.later.ids hn)
    cases hstep with
    | same ids book => rw [book]; exact hunused
    | begun s id ids ticket vacant flow book =>
      rw [book, Entries.find?_put, if_neg, hunused]
      intro hkey
      have := numbered_inj (hkey.trans id)
      omega
    | saved old s ids found precedes next ongoing book =>
      rw [book, Entries.find?_put, if_neg, hunused]
      rintro hkey
      rw [← hkey, hunused] at found
      cases found
  · cases hstep with
    | same ids book => rw [book]; exact h.alone
    | begun s id ids ticket vacant flow book =>
      -- on the ticket of the new session there was none that goes on
      have hnone : ∀ s' ∈ w.book.values, s'.ticketId = s.ticketId → s'.completedAt ≠ none := by
        intro s' hs' hticket hopen
        have hactive := vacant s' hs'
        simp [Session.isActiveOn, Session.isActive, hticket, hopen] at hactive
      intro a ha b hb hticket hopen hopen'
      rw [book] at ha hb
      rcases Entries.mem_values_put ha with hmem | heq
      · rcases Entries.mem_values_put hb with hmem' | heq'
        · exact h.alone a hmem b hmem' hticket hopen hopen'
        · exact absurd hopen (hnone a hmem (heq' ▸ hticket))
      · rcases Entries.mem_values_put hb with hmem' | heq'
        · exact absurd hopen' (hnone b hmem' (heq ▸ hticket.symm))
        · rw [heq, heq']
    | saved old s ids found precedes next ongoing book =>
      -- a record that goes on came from one that went on
      have hbefore : ∀ a ∈ w'.book.values, a.completedAt = none →
          ∃ a' ∈ w.book.values, a'.id = a.id ∧ a'.ticketId = a.ticketId ∧
            a'.completedAt = none := by
        intro a ha hopen
        rw [book] at ha
        rcases Entries.mem_values_put ha with ha | rfl
        · exact ⟨a, ha, rfl, rfl, hopen⟩
        · exact ⟨old, Entries.mem_values_of_find? found, precedes.kin.id, precedes.kin.ticketId,
            precedes.ongoing hopen⟩
      intro a ha b hb hticket hopen hopen'
      obtain ⟨a', ha', hid, htick, hopen⟩ := hbefore a ha hopen
      obtain ⟨b', hb', hid', htick', hopen'⟩ := hbefore b hb hopen'
      rw [← hid, ← hid']
      exact h.alone a' ha' b' hb' (htick.trans (hticket.trans htick'.symm)) hopen hopen'

/-- A session stays at hand: if someone else saved it meanwhile, its version is another one. -/
theorem inHand (hstep : Step w₀ new w w') (h : w.WellKept) {s : Session}
    (hs : w.InHand w₀ now s) : w'.InHand w₀ now s := by
  refine ⟨?_, hs.ongoing, hs.times⟩
  obtain ⟨old, hold, hkin, hversion, hcontinues⟩ := hs.record
  cases hstep with
  | same ids book => rw [book]; exact ⟨old, hold, hkin, hversion, hcontinues⟩
  | begun s' id ids ticket vacant flow book =>
    refine ⟨old, ?_, hkin, hversion, hcontinues⟩
    rw [book, Entries.find?_put, if_neg, hold]
    intro hkey
    rw [hkey, id, h.unused _ (Nat.lt_succ_self _)] at hold
    cases hold
  | saved old' s' ids found precedes next ongoing book =>
    rw [book]
    by_cases hkey : s.id = s'.id
    · rw [hkey, found] at hold
      cases hold
      refine ⟨s', by rw [Entries.find?_put, if_pos hkey], precedes.kin.symm.trans hkin, ?_, ?_⟩
      · omega
      · omega
    · exact ⟨old, by rw [Entries.find?_put, if_neg hkey, hold], hkin, hversion, hcontinues⟩

end Step

theorem Since.refl (w : World) : Since new w w where
  toLater := .refl w
  closed key s s' hs _ hs' := by
    rw [hs] at hs'
    cases hs'
    exact ⟨rfl, rfl, rfl, rfl, rfl⟩

theorem Since.step (h : Since new w₀ w) (hw₀ : w₀.WellKept) (hstep : Step w₀ new w w') :
    Since new w₀ w' where
  toLater := h.toLater.trans hstep.later
  closed key s₀ s' hs₀ hdone hs' := by
    cases hstep with
    | same ids book => rw [book] at hs'; exact h.closed key s₀ s' hs₀ hdone hs'
    | begun s id ids ticket vacant flow book =>
      rw [book, Entries.find?_put] at hs'
      split at hs'
      next hkey =>
        rw [hkey, id, hw₀.unused _ (Nat.lt_succ_of_le h.ids)] at hs₀
        cases hs₀
      next => exact h.closed key s₀ s' hs₀ hdone hs'
    | saved old s ids found precedes next ongoing book =>
      rw [book, Entries.find?_put] at hs'
      split at hs'
      next hkey =>
        subst hkey
        rcases ongoing with hopen | hopen
        · have hsame := (h.closed _ s₀ old hs₀ hdone found).completedAt
          rw [← hsame, hopen] at hdone
          cases hdone
        · rw [hopen s₀ hs₀] at hdone
          cases hdone
      next => exact h.closed key s₀ s' hs₀ hdone hs'

end World

end FrontDesk
