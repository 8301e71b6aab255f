/-
Patience with answers that are refused.

When a session waits on a node, and rests there, a message that the node rejects leaves it as it
was: what is saved is the session as it was found. So does any number of such messages, whatever
fails on the way and whoever else saves it meanwhile (`World.Awaits.dealtAll`); only its version and
the time of its last change tell that they came.
-/
import FrontDesk.Proofs.Conversation.Record
import FrontDesk.Proofs.Conversation.Refusal
import FrontDesk.Proofs.Service.Isolation
import FrontDesk.Proofs.Service.Silence
import FrontDesk.Proofs.Store.Resaved

namespace FrontDesk

open Calendar Service

/-! ## Worlds -/

namespace World

/-- A world has become another, and all that was done to its sessions is that some were saved as
they were found. -/
structure Resaved (w₀ w : World) : Prop where
  store : w₀.store.Resaved w.store
  filed : w.desk.Filed

end World

/-- Terms for one who saves sessions as they were found, and begins none. -/
def resaveTerms (st : Store) : Terms where
  may
    | .store r => r.Resaves st
    | .desk _ | .log .. => True
    | .newFlowId => False
  gives
    | .desk (.ticket id), t? => ∀ t, t? = some t → t.id = id
    | .store (.flow id), f? => f? = st.flow? id
    | .store (.activeSession id), u? =>
      (∀ u, u? = some u → (Store.Request.saveSession u).Resaves st) ∧
        ∀ s now, st.activeSession id now = .ok (some s) → ∃ u, u? = some u ∧ s.Resaved u
    | _, _ => True

theorem resaveTerms_letsSend (st : Store) (now : Moment) (sessionId : Option String) :
    (resaveTerms st).LetsSend now sessionId :=
  ⟨⟨fun _ => trivial, fun _ _ => trivial⟩, fun _ _ _ => trivial⟩

namespace World.Resaved

variable {w₀ w : World}

theorem gives_store (h : w₀.Resaved w) (hsteady : w₀.store.Steady) {r : Store.Request}
    {a : r.Answer} (ha : (w.answer (.store r)).1 = .ok a) :
    (resaveTerms w₀.store).gives (.store r) a := by
  obtain ⟨ids, -, hanswer⟩ := answer_of_ok ha
  cases r with
  | flow id =>
    rw [Store.answer_flow, Store.flow?_eq_catalog, h.store.catalog,
      ← Store.flow?_eq_catalog] at hanswer
    exact (Except.ok.inj hanswer).symm
  | activeSession id =>
    rw [Store.answer_activeSession_eq] at hanswer
    refine ⟨?_, fun s now hs => ?_⟩
    · rintro u rfl
      exact h.store.resaves hanswer
    · obtain ⟨u, hu, hsame⟩ := h.store.activeSession hsteady hs w.clock
      exact ⟨u, Except.ok.inj (hanswer.symm.trans hu), hsame⟩
  | _ => trivial

/-- **While nothing else is asked**, the world answers as was promised, and stays so. -/
theorem answer (hsteady : w₀.store.Steady) (w : World) (r : Service.Request) (h : w₀.Resaved w)
    (hr : (resaveTerms w₀.store).may r) :
    w₀.Resaved (w.answer r).2 ∧
      ∀ a, (w.answer r).1 = .ok a → (resaveTerms w₀.store).gives r a := by
  cases r with
  | store r =>
    refine ⟨⟨?_, (w.answer_store_desk r).symm ▸ h.filed⟩, fun a => h.gives_store hsteady⟩
    rcases w.answer_store_cases r with hfails | ⟨ids, -, hanswer⟩
    · rw [hfails]
      exact h.store
    · rw [hanswer]
      exact h.store.answer hr _ _
  | desk r =>
    refine ⟨⟨?_, ?_⟩, fun a ha => ?_⟩
    · obtain ⟨-, hsame | ⟨ticketId, u, id, hfound, hsaved⟩⟩ := w.answer_desk_store r
      · rw [hsame]
        exact h.store
      · rw [Store.answer_activeSession_eq] at hfound
        rw [hsaved]
        exact h.store.answer (h.store.resaves hfound) _ _
    · rcases w.answer_desk r with hlost | ⟨x, id, -, hdesk⟩
      · rw [hlost]
        exact h.filed
      · rw [hdesk]
        exact Helpdesk.Desk.filed_answer h.filed id r
    · cases r with
      | ticket id =>
        rintro t rfl
        exact h.filed id t (ticket_of_answer ha)
      | _ => trivial
  | log level text => exact ⟨⟨h.store, h.filed⟩, fun _ _ => trivial⟩
  | newFlowId => cases hr

end World.Resaved

/-! ## The reception -/

namespace Reception

variable {r : Reception} {now : Moment} {tk : Ticket} {f : Flow} {s : Session} {g : Graph}
  {n : Node} {st : Store} {messageId text ticketId : String}

/-- What a run makes of a session is its state, and where it rests, also when its answer was refused
and the session is put back to the node that it waited on. -/
theorem advance_rests {limit : Int} {stamp : String} {current : Option String}
    {incoming : Incoming} {o : Outcome}
    (h : g.run limit stamp s.state current incoming = .ok o) :
    (advance now s o s.state.waiting).state = o.state ∧
      (advance now s o s.state.waiting).currentNode = some o.next := by
  rw [advance_waiting h]
  exact ⟨rfl, rfl⟩

/-- After a refusal a session that rests on the node it waits on is as it was. -/
theorem advance_refused (hresting : s.currentNode = some n.id) (m : Outbound) :
    advance now s { state := s.state, next := n.id, retries := [m] } none = s := by
  simp only [advance, Bool.false_eq_true, if_false, ← hresting]

theorem apply_resaves (hs : (Store.Request.saveSession s).Resaves st) {o : Outcome}
    {waited : Option Waiting} (hadvance : advance now s o waited = s)
    (hstays : o.transferred = false) :
    (Reception.apply now tk f s o waited).Keeps (resaveTerms st) fun _ => True := by
  have hsend := resaveTerms_letsSend st now (some s.id)
  unfold Reception.apply
  refine Job.Keeps.bind (logDefects_keeps hsend.toLetsTell _) fun _ _ => ?_
  refine Job.Keeps.bind (dispatch_keeps hsend _) fun _ _ => ?_
  refine Job.Keeps.bind (dispatch_keeps hsend _) fun _ _ => ?_
  rw [hadvance, hstays]
  exact Job.Keeps.bind (Job.Keeps.store (.saveSession s) hs) fun _ _ => Job.Keeps.pure trivial

/-- An answer that is rejected has the session saved as it was found. -/
theorem goOn_resaves (hs : (Store.Request.saveSession s).Resaves st)
    (hflow : st.flow? s.flowId = some f) (hg : Graph.ofJson (.object f.definition) = .ok g)
    (hawaited : g.AwaitedAt s.state n) (hresting : s.currentNode = some n.id)
    (htext : n.Rejects text) :
    (r.goOn now tk s messageId text).Keeps (resaveTerms st) fun _ => True := by
  have htell := (resaveTerms_letsSend st now none).toLetsTell
  unfold goOn
  refine Job.Keeps.bind (Job.Keeps.store (.flow _) trivial) fun f? hf => ?_
  obtain rfl : f? = some f := hf.trans hflow
  refine Job.Keeps.bind (graphOf_keeps htell.log) fun g? hg' => ?_
  split
  · exact Job.Keeps.pure trivial
  next g' =>
  obtain rfl : g = g' := Except.ok.inj (hg.symm.trans (hg' g' rfl))
  refine Job.Keeps.bind (Job.Keeps.store (.record _) trivial) fun _ _ => ?_
  refine Job.Keeps.bind Job.Keeps.ofExcept fun o ho => ?_
  have hadvance : advance now s o s.state.waiting = advance now s o none := advance_waiting ho
  obtain ⟨message, -, hrun⟩ := Graph.run_rejected hg hawaited htext
  obtain rfl := Except.ok.inj (hrun.symm.trans ho)
  exact Job.Keeps.map ((apply_resaves hs (hadvance.trans (advance_refused hresting _)) rfl).mono
    fun _ _ => trivial)

end Reception

/-- A session waits on a node of its flow, and rests there; it is the one that goes on under its
ticket. Records and tickets stand under their own ids, and what rows have of states was written
there. -/
structure World.Awaits (w : World) (s : Session) (g : Graph) (n : Node) : Prop where
  tidy : w.store.Tidy
  steady : w.store.Steady
  filed : w.desk.Filed
  active : w.store.activeSession s.ticketId w.clock = .ok (some s)
  flow : ∃ f, w.store.flow? s.flowId = some f ∧ Graph.ofJson (.object f.definition) = .ok g
  awaited : g.AwaitedAt s.state n
  resting : s.currentNode = some n.id

namespace World

variable {w₀ w : World} {s : Session} {g : Graph} {n : Node}

namespace Awaits

theorem incoming_resaves (h : w₀.Awaits s g n) {text : String} (htext : n.Rejects text)
    (r : Reception) (now : Moment) (messageId : String) :
    (r.incoming now s.ticketId messageId text).Keeps (resaveTerms w₀.store) fun _ => True := by
  refine Job.Keeps.orLog trivial ?_ trivial
  unfold Reception.process
  refine Job.Keeps.bind (Job.Keeps.desk (.ticket _) trivial) fun tk? htk => ?_
  split
  · exact Job.Keeps.bind (Job.Keeps.log trivial) fun _ _ => Job.Keeps.pure trivial
  next tk =>
  split
  · exact Job.Keeps.pure trivial
  refine Job.Keeps.bind (Job.Keeps.store (.activeSession tk.id) trivial) fun u? hu => ?_
  obtain ⟨hsaves, hactive⟩ := hu
  rw [htk tk rfl] at hactive
  obtain ⟨u, rfl, version, updatedAt, -, rfl⟩ := hactive s w₀.clock h.active
  obtain ⟨f, hflow, hg⟩ := h.flow
  exact Reception.goOn_resaves (hsaves _ rfl) hflow hg h.awaited h.resting htext

theorem dealt (h : w₀.Awaits s g n) (hw : w₀.Resaved w) (r : Reception) {a : Reception.Arrival}
    (hticket : a.ticketId = s.ticketId) (htext : n.Rejects a.text) :
    w₀.Resaved (w.dealt r a) := by
  have hmet : w₀.Resaved (w.met a) := ⟨hw.store, hw.filed⟩
  have hkeeps := h.incoming_resaves htext r a.now a.messageId
  rw [← hticket] at hkeeps
  exact (Job.Keeps.run (Resaved.answer h.steady) hkeeps hmet).1

/-- **Any number of messages that are rejected.** -/
theorem dealtAll (h : w₀.Awaits s g n) (hw : w₀.Resaved w) (r : Reception)
    {arrivals : List Reception.Arrival}
    (hall : ∀ a ∈ arrivals, a.ticketId = s.ticketId ∧ n.Rejects a.text) :
    w₀.Resaved (arrivals.foldl (World.dealt r) w) := by
  induction arrivals generalizing w with
  | nil => exact hw
  | cons a rest ih =>
    obtain ⟨⟨hticket, htext⟩, hrest⟩ := List.forall_mem_cons.1 hall
    exact ih (h.dealt hw r hticket htext) hrest

theorem refl (h : w₀.Awaits s g n) : w₀.Resaved w₀ := ⟨.refl h.tidy h.steady, h.filed⟩

theorem resaved (h : w₀.Awaits s g n) (hw : w₀.Resaved w) :
    ∃ s', s.Resaved s' ∧ (∀ time, (w.store.table time).find? s.id = some s') ∧
      w.Awaits s' g n := by
  obtain ⟨s', hactive, hsame⟩ := hw.store.activeSession h.steady h.active w.clock
  obtain ⟨hfind, -⟩ := hw.store.found hactive
  obtain ⟨f, hflow, hg⟩ := h.flow
  rw [Store.flow?_eq_catalog, ← hw.store.catalog, ← Store.flow?_eq_catalog] at hflow
  refine ⟨s', hsame, fun time => ?_, ?_⟩
  · rw [hw.store.steady.table, hsame.kin.id]
    exact hfind
  · obtain ⟨version, updatedAt, -, rfl⟩ := hsame
    exact ⟨hw.store.tidy, hw.store.steady, hw.filed, hactive, ⟨f, hflow, hg⟩, h.awaited, h.resting⟩

end Awaits

end World

/-- **Answers that are rejected are transparent.** An answer is rejected by the node that waits for
it just when the run changes nothing and comes to one retry that is not empty; after any row of such
answers another has the outcome that it has at once. What is made of a session that waits, which
goes back to its node by itself, is what the run came to anyway. So any number of such messages
changes a session that rests on the node in its version and the time of its last change alone,
whatever fails on the way. -/
theorem Reception.rejected_transparent {v : Json} {g : Graph} (hg : Graph.ofJson v = .ok g)
    (n : Node) :
    (∀ s : State, g.AwaitedAt s n →
      ∀ (limit : Int) (stamp : String) (current : Option String) (text : String),
        (n.Rejects text ↔ ∃ message, message ≠ "" ∧
          g.run limit stamp s current (.answer text) =
            .ok { state := s, next := n.id, retries := [⟨n.id, message⟩] }) ∧
        ∀ earlier : List (String × String), (∀ e ∈ earlier, n.Rejects e.2) →
          g.runAfter limit earlier stamp s current text =
            g.run limit stamp s current (.answer text)) ∧
    (∀ (now : Moment) (s : Session) (o : Outcome) (limit : Int) (stamp : String)
      (current : Option String) (incoming : Incoming),
      g.run limit stamp s.state current incoming = .ok o →
        (advance now s o s.state.waiting).state = o.state ∧
          (advance now s o s.state.waiting).currentNode = some o.next) ∧
    ∀ (r : Reception) (w : World) (s : Session), w.Awaits s g n → ∀ arrivals : List Arrival,
      (∀ a ∈ arrivals, a.ticketId = s.ticketId ∧ n.Rejects a.text) →
        let w' := arrivals.foldl (World.dealt r) w
        w.store.Resaved w'.store ∧ ∃ s', s.Resaved s' ∧
          (∀ time, (w'.store.table time).find? s.id = some s') ∧ w'.Awaits s' g n := by
  refine ⟨fun s hs limit stamp current text => ⟨⟨Graph.run_rejected hg hs, ?_⟩, fun earlier hall =>
    Graph.runAfter_rejected hg hs hall⟩, fun now s o limit stamp current incoming h =>
    advance_rests h, fun r w s h arrivals hall => ?_⟩
  · rintro ⟨message, -, hrun⟩
    rcases Graph.run_cases hrun with ⟨way, -, himage⟩ | hrefuses
    · cases congrArg Outcome.retries himage
    · exact hs.rejects hrefuses
  · have hresaved := h.dealtAll h.refl r hall
    exact ⟨hresaved.store, h.resaved hresaved⟩

/-- The question whether one is done. -/
def confirmation : Node where
  id := "ask"
  body := .question
    { content := "Done?", next := none, defaultNext := none, storeField := none
      choices := [{ value := "yes", label := some "Yes", keywords := [], next := none
                    storeValue := none }]
      allowFreeText := false, retryMessage := some "Yes or no?" }

/-- The graph of the flow that asks it. -/
def confirming : Graph where
  entry := "ask"
  nodes := [confirmation]
  version := ""
  metadata := none

/-- An office where that is asked, and someone else saves the session at each delivery. -/
def crowdedOffice : World :=
  { thursday "Back on Monday." "Yes or no?" with trouble := { rivalSaves := true } }

theorem crowdedOffice_awaits : crowdedOffice.Awaits doubtful confirming confirmation where
  tidy := ⟨by decide, by simp [doubtful]⟩
  steady := trivial
  filed key t h := by
    simp only [crowdedOffice, thursday, Entries.find?_cons, Entries.find?_nil] at h
    grind [visit]
  active := rfl
  flow := ⟨_, rfl, rfl⟩
  awaited := ⟨rfl, .question, rfl, rfl⟩
  resting := rfl

/-- An answer that is none of the choices, and an empty one, which cannot be put on record. -/
def hesitation : List Reception.Arrival :=
  [{ clock := .utc 6, now := .utc 6, ticketId := "ticket", messageId := "m1", text := "Maybe" },
   { clock := .utc 7, now := .utc 7, ticketId := "ticket", messageId := "m2", text := ""
     failures := List.replicate 3 false ++ [true] }]

/-- The session of the crowded office waits as before, but for a version. -/
theorem hesitation_transparent :
    Graph.ofJson (.object (mondays "Back on Monday." "Yes or no?").definition) = .ok confirming ∧
      crowdedOffice.Awaits doubtful confirming confirmation ∧
      (∀ a ∈ hesitation, a.ticketId = "ticket" ∧ confirmation.Rejects a.text) ∧
      confirming.runAfter 50 [("t1", "Maybe"), ("t2", "")] "t3" doubtful.state none "yes" =
        confirming.run 50 "t3" doubtful.state none (.answer "yes") ∧
      let w' := hesitation.foldl (World.dealt {}) crowdedOffice
      ∃ s', doubtful.Resaved s' ∧ s'.version = 1 ∧
        ∀ time, (w'.store.table time).find? doubtful.id = some s' := by
  have hread : Graph.ofJson (.object (mondays "Back on Monday." "Yes or no?").definition) =
      .ok confirming := rfl
  have hmaybe : confirmation.Rejects "Maybe" := (Node.rejects_question rfl).2 (by decide +kernel)
  have hempty : confirmation.Rejects "" := (Node.rejects_question rfl).2 (by decide +kernel)
  have hall : ∀ a ∈ hesitation, a.ticketId = "ticket" ∧ confirmation.Rejects a.text := by
    simp [hesitation, hmaybe, hempty]
  obtain ⟨hruns, -, hmessages⟩ := Reception.rejected_transparent hread confirmation
  obtain ⟨-, s', hsame, hfind, -⟩ := hmessages {} crowdedOffice doubtful crowdedOffice_awaits _ hall
  refine ⟨hread, crowdedOffice_awaits, hall, ?_, s', hsame, ?_, hfind⟩
  · exact (hruns _ crowdedOffice_awaits.awaited 50 "t3" none "yes").2 _
      (by simp [hmaybe, hempty])
  · have hversion : (((hesitation.foldl (World.dealt {}) crowdedOffice).store.table
        (.utc 9)).find? doubtful.id).map (·.version) = some 1 := by decide +kernel
    rw [hfind (.utc 9)] at hversion
    exact Option.some.inj hversion

end FrontDesk
