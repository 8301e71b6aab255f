/-
Rehearsals and what they are rehearsals of.

A message that opens a conversation, and the messages after it until the conversation is completed,
leave at a reception what a rehearsal of the flow foretells of them: the state, whether it was
completed, the audit trail, and what was sent.
-/
import FrontDesk.Proofs.Service.Live
import FrontDesk.Proofs.Store.Record

namespace FrontDesk

open Calendar Service Store Line

/-! ## Opening a conversation -/

/-- The message makes the reception open a conversation of the flow on the ticket. -/
structure View.Opens (v : View) (r : Reception) (now : Moment) (key text : String) (t : Ticket)
    (f : Flow) : Prop where
  ticket : v.tickets.find? key = some t
  unattended : t.hasAgent = false
  idle : ∀ s ∈ v.store.sessions v.clock, s.isActiveOn t.id = false
  selected : ∃ fs, v.store.activeFlows = .ok fs ∧ selectFlow fs text = some f
  /-- The flow is the one in the catalog under its id. -/
  flow : v.store.flow? f.id = some f
  isOpen : Schedule.isOpenBy r.zones (Schedule.ofJson f.scheduleJson) now = .ok true
  /-- The id of the next session is not in use. -/
  fresh : (v.store.table v.clock).find? v.freshId = none
  unused : ∀ i ∈ v.store.interactions, i.sessionId ≠ v.freshId

/-- The scene of a conversation that is about to be opened. -/
def View.scene (v : View) (now : Moment) (key : String) (t : Ticket) (f : Flow) : Scene where
  now := now
  key := key
  ticketId := t.id
  flow := f
  sent := v.deliveredTo t.id

/-- What a conversation of the flow on the ticket begins with. -/
def Ticket.opening (t : Ticket) (f : Flow) (g : Graph) : Opening where
  flowId := f.id
  ticketId := t.id
  contactId := some t.contactId
  currentNode := some g.entry
  state := {}

namespace View.Opens

variable {v : View} {now : Moment} {key text messageId : String} {t : Ticket} {f : Flow}
  {r : Reception} {g : Graph} {o : Outcome}

theorem openSession (h : v.Opens r now key text t f) (hv : v.Fine now)
    (hg : Graph.ofJson (.object f.definition) = .ok g) :
    (Job.store (.openSession (t.opening f g))).Comes v fun s v' =>
      v'.Live (v.scene now key t f) s [] [] ∧ s.id = v.freshId ∧ s.completedAt = none := by
  obtain ⟨s, st, hanswer, hlike, htransferred, hst⟩ :=
    answer_openSession v.freshId (o := t.opening f g) hv.keepsClock
      (by simp [Ticket.opening, h.flow]) State.storable_empty
  refine (Job.Comes.openSession hv.calm hanswer).mono ?_
  rintro s' _ ⟨rfl, rfl⟩
  have hid : s'.id = v.freshId := hlike.id
  have hopen : s'.completedAt = none := by simpa [Memory.begin] using hlike.completed
  have hunused : v.store.interactions.filter (·.sessionId == s'.id) = [] :=
    List.filter_eq_nil_iff.2 fun i hi => by simpa [hid] using h.unused i hi
  have hbegun : (Memory.begin (t.opening f g) v.freshId v.clock).Sound :=
    Memory.begin_sound rfl (Graph.ofJson_wellRead hg).entry rfl _ _
  have hready : v.Ready (v.scene now key t f) :=
    { hv with ticket := ⟨t, h.ticket, rfl, h.unattended⟩, flow := h.flow }
  refine ⟨?_, hid, hopen⟩
  exact {
    toReady := hready.becomes hst _
    found := by simp [hst.table, Entries.find?_put, hid]
    alone := by
      rw [Store.sessions, hst.table]
      exact Entries.filter_put_new h.fresh
        (List.filter_eq_nil_iff.2 fun s hs => by simp [View.scene, h.idle s hs])
    ticketId := hlike.ticketId
    flowId := hlike.flowId
    transferred := by simp [htransferred]
    sound := hbegun.congr hlike.state hlike.currentNode hlike.completed
    trail := by rw [hst.interactions, hunused]; rfl
    time := by
      intro i hi hid'
      rw [hst.interactions] at hi
      exact absurd (hid'.trans hid) (h.unused i hi)
    said := by simp [View.scene, View.deliveredTo] }

/-- The message is put on record, and the conversation starts at the entry of the flow. -/
theorem begin (h : v.Opens r now key text t f) (hv : v.Fine now)
    (hg : Graph.ofJson (.object f.definition) = .ok g) (messageId : String)
    (hrun : g.run r.limit now.isoText {} (some g.entry) .opening = .ok o) :
    (r.begin now t f g messageId text).Comes v fun x v' =>
      ∃ s : Session, v'.Live (v.scene now key t f) s
          (⟨.contact, text⟩ :: heard (Rehearsal.linesOf o))
          (spoken (heard (Rehearsal.linesOf o))) ∧
        s.id = v.freshId ∧ s.At o ∧ x.At o := by
  unfold Reception.begin
  refine Job.Comes.after Job.Comes.log fun _ => ?_
  refine Job.Comes.bind (h.openSession hv hg) ?_
  rintro s v₁ ⟨h₁, hid, hopen⟩
  refine Job.Comes.bind (h₁.record rfl rfl) fun _ v₂ h₂ => ?_
  refine Job.Comes.known (Job.Comes.ofExcept hrun) ?_
  have hsound : o.Sound := Graph.run_sound (Graph.ofJson_wellRead hg) State.storable_empty rfl
    (by simp) now.isoText_ne_empty (fun _ => rfl) hrun
  refine (h₂.apply hopen hsound rfl).mono ?_
  rintro x v₃ ⟨s', h₃, hid', hs', hx⟩
  exact ⟨s', h₃, hid'.trans hid, hs', hx⟩

theorem incoming (h : v.Opens r now key text t f) (hv : v.Fine now)
    (hg : Graph.ofJson (.object f.definition) = .ok g) (messageId : String)
    (hrun : g.run r.limit now.isoText {} (some g.entry) .opening = .ok o) :
    (r.incoming now key messageId text).Comes v
      (View.Dealt (v.scene now key t f) v.freshId o
        (⟨.contact, text⟩ :: heard (Rehearsal.linesOf o))
        (spoken (heard (Rehearsal.linesOf o)))) := by
  refine Job.Comes.orLog ?_
  unfold Reception.process
  refine Job.Comes.known (Job.Comes.ticket hv.calm key) ?_
  simp only [h.ticket, h.unattended, Bool.false_eq_true, if_false]
  have hnone : (v.store.sessions v.clock).filter (·.isActiveOn t.id) =
      (none : Option Session).toList :=
    List.filter_eq_nil_iff.2 fun s hs => by simp [h.idle s hs]
  refine Job.Comes.known (Job.Comes.store hv.calm rfl fun _ => answer_activeSession hnone) ?_
  obtain ⟨fs, hfs, hselect⟩ := h.selected
  unfold Reception.openWith
  refine Job.Comes.known
    (Job.Comes.store hv.calm rfl fun _ => by rw [answer_activeFlows, hfs]) ?_
  have hne : fs.isEmpty = false := by
    cases fs with
    | nil => simp [selectFlow] at hselect
    | cons => rfl
  simp only [hne, Bool.false_eq_true, if_false, hselect]
  refine Job.Comes.known (View.Live.graphOf hg) ?_
  refine Job.Comes.known (Job.Comes.ofExcept h.isOpen) ?_
  refine Job.Comes.map ((h.begin hv hg messageId hrun).mono ?_)
  rintro x v' ⟨s, hlive, hid, hs, hx⟩
  exact ⟨s, x, rfl, hlive, hid, hs, hx⟩

end View.Opens

/-! ## Message by message -/

/-- Whether a message completed its conversation. -/
def World.closes : Except Failure (Option Session) → Bool
  | .ok (some s) => s.completedAt.isSome
  | _ => false

/-- Messages come in on a ticket, each with its id, until one completes the conversation. -/
def World.talk (r : Reception) (now : Moment) (key : String) :
    List (String × String) → World → World
  | [], w => w
  | (messageId, text) :: rest, w =>
    let (x, w) := (r.incoming now key messageId text).run w
    if closes x then w else talk r now key rest w

theorem World.talk_cons {r : Reception} {now : Moment} {key messageId text : String} {w : World}
    {x : Session} {o : Outcome} (hx : ((r.incoming now key messageId text).run w).1 = .ok (some x))
    (hat : x.At o) (rest : List (String × String)) :
    w.talk r now key ((messageId, text) :: rest) =
      if o.completed then ((r.incoming now key messageId text).run w).2
      else ((r.incoming now key messageId text).run w).2.talk r now key rest := by
  simp [talk, hx, closes, hat.completed]

/-- From where a session stands, a conversation ends as its rehearsal does. -/
theorem View.Live.talk {c : Scene} {g : Graph} {r : Reception}
    (hg : Graph.ofJson (.object c.flow.definition) = .ok g) (ms : List (String × String))
    {w : World} {s : Session} {lines : List Line} {o : Outcome} {reh : Rehearsal}
    (h : w.view.Live c s lines (spoken lines)) (hs : s.At o)
    (hreh : Rehearsal.goOn g r.limit c.now.isoText o (ms.map Prod.snd) = .ok reh) :
    ∃ (s' : Session) (more : List Line), reh.transcript = Rehearsal.linesOf o ++ more ∧
      (if o.completed then w else w.talk r c.now c.key ms).view.Live c s' (lines ++ heard more)
        (spoken (lines ++ heard more)) ∧
      s'.id = s.id ∧ s'.state = reh.state := by
  -- by induction on the messages: after each the session stands where its run left it
  induction ms generalizing w s lines o reh with
  | nil =>
    cases hreh
    exact ⟨s, [], by simp, by simpa [heard, World.talk] using h, rfl, hs.state⟩
  | cons m rest ih =>
    obtain ⟨messageId, text⟩ := m
    cases hdone : o.completed with
    | true =>
      simp only [List.map_cons, Rehearsal.goOn, hdone, if_true] at hreh
      cases hreh
      exact ⟨s, [], by simp, by simpa [heard] using h, rfl, hs.state⟩
    | false =>
      simp only [List.map_cons, Rehearsal.goOn, hdone, Bool.false_eq_true, if_false, bind,
        Except.bind] at hreh
      split at hreh
      · cases hreh
      next o' hrun =>
      split at hreh
      · cases hreh
      next reh' hreh' =>
      cases hreh
      have hopen : s.completedAt = none := by
        simpa [hdone] using hs.completed
      obtain ⟨_, hx, s₁, x, rfl, hlive, hid, hs₁, hat⟩ :=
        h.incoming hopen hg messageId text (by rw [hs.state, hs.node]; exact hrun) w rfl
      rw [← spoken_contact text (heard _), ← spoken_append] at hlive
      obtain ⟨s', more, hmore, hend, hid', hstate⟩ := ih hlive hs₁ hreh'
      refine ⟨s', ⟨.contact, text⟩ :: reh'.transcript, rfl, ?_, hid'.trans hid, hstate⟩
      rw [World.talk_cons hx hat rest]
      simpa [hmore] using hend

/-- A session that goes on is found in the store with its trail, and what was sent is at the
helpdesk. -/
theorem View.Live.found_and_sent {c : Scene} {w : World} {s : Session} {lines : List Line}
    (h : w.view.Live c s lines (spoken lines)) :
    ((Job.store (.session s.id)).run w).1 = .ok (some s) ∧
      ∃ trail, ((Job.store (.interactions s.id)).run w).1 = .ok trail ∧
        trail.map Interaction.line = lines ∧
        w.desk.deliveredTo c.ticketId = c.sent ++ spoken (trail.map Interaction.line) := by
  obtain ⟨_, hsession, rfl, -⟩ := Job.Comes.store h.calm rfl (fun _ => answer_session s.id) w rfl
  obtain ⟨_, htrail, rfl, -⟩ :=
    Job.Comes.store h.calm rfl (fun _ => answer_interactions s.id h.time) w rfl
  refine ⟨by rw [hsession, h.found], _, htrail, h.trail, ?_⟩
  rw [h.trail]
  exact h.said

/-- A conversation from its first message on ends as its graph was played. -/
theorem View.Opens.talk {w : World} {r : Reception} {now : Moment} {key text : String} {t : Ticket}
    {f : Flow} {g : Graph} (h : w.view.Opens r now key text t f) (hw : w.view.Fine now)
    (hg : Graph.ofJson (.object f.definition) = .ok g) (messageId : String)
    (ms : List (String × String)) {reh : Rehearsal}
    (hplay : Rehearsal.play g r.limit now.isoText (ms.map Prod.snd) = .ok reh) :
    ∃ s : Session,
      (w.talk r now key ((messageId, text) :: ms)).view.Live (w.view.scene now key t f) s
        (⟨.contact, text⟩ :: heard reh.transcript)
        (spoken (⟨.contact, text⟩ :: heard reh.transcript)) ∧
      s.id = w.view.freshId ∧ s.state = reh.state ∧ s.completedAt.isSome = reh.completed := by
  simp only [Rehearsal.play, bind, Except.bind] at hplay
  split at hplay
  · cases hplay
  next o hrun =>
  obtain ⟨_, hx, s₁, x, rfl, hlive, hid, hs₁, hat⟩ :=
    h.incoming (r := r) hw hg messageId hrun w rfl
  rw [← spoken_contact text] at hlive
  obtain ⟨s, more, hmore, hend, hid', hstate⟩ := hlive.talk (r := r) hg ms hs₁ hplay
  have hlines : (⟨.contact, text⟩ :: heard (Rehearsal.linesOf o)) ++ heard more =
      ⟨.contact, text⟩ :: heard reh.transcript := by
    rw [hmore, heard_append, List.cons_append]
  refine ⟨s, ?_, hid'.trans hid, hstate, ?_⟩
  · rw [← hlines, World.talk_cons hx hat ms]
    exact hend
  · have hcompleted := hend.sound.completed
    rw [hstate] at hcompleted
    rw [Rehearsal.completed, Bool.eq_iff_iff, hcompleted, beq_iff_eq]

theorem Rehearsal.ofFlow_run {w : World} {limit : Int} {now : Moment} {f : Flow}
    {texts : List String} {reh : Rehearsal} (hw : w.trouble.Calm)
    (hf : w.store.flow? f.id = some f)
    (h : ((Rehearsal.ofFlow limit now f.id texts).run w).1 = .ok reh) :
    ∃ g, Graph.ofJson (.object f.definition) = .ok g ∧
      Rehearsal.play g limit now.isoText texts = .ok reh := by
  obtain ⟨_, hrun, rfl, -⟩ :=
    Job.Comes.store (v := w.view) hw rfl (fun _ => answer_flow f.id) w rfl
  simp only [ofFlow, Job.run_bind, hrun] at h
  rw [show w.view.store.flow? f.id = some f from hf] at h
  simp only [Job.run_bind] at h
  cases hg : Graph.ofJson (.object f.definition) with
  | error e => simp [hg, Job.ofExcept, Job.run] at h
  | ok g =>
    refine ⟨g, rfl, ?_⟩
    cases hplay : play g limit now.isoText texts with
    | error e => simp [hg, hplay, Job.ofExcept, Job.run] at h
    | ok reh' => simpa [hg, hplay, Job.ofExcept, Job.run] using h

/-- **A conversation ends as it was rehearsed**, if nothing fails and nobody changes the catalog or
the ticket meanwhile: in the state foretold, completed if that was foretold, with the transcript on
record as far as it can be sent, and with what the bot said sent to the contact. -/
theorem World.talk_rehearsed {w : World} {r : Reception} {now : Moment} {key text : String}
    {t : Ticket} {f : Flow} (hw : w.view.Fine now) (hopens : w.view.Opens r now key text t f)
    (messageId : String) (ms : List (String × String)) {reh : Rehearsal}
    (hreh : ((Rehearsal.ofFlow r.limit now f.id (ms.map Prod.snd)).run w).1 = .ok reh) :
    let after := w.talk r now key ((messageId, text) :: ms)
    ∃ (s : Session) (trail : List Interaction),
      ((Job.store (.session w.view.freshId)).run after).1 = .ok (some s) ∧
      ((Job.store (.interactions w.view.freshId)).run after).1 = .ok trail ∧
      s.ticketId = t.id ∧ s.flowId = f.id ∧ s.state = reh.state ∧
      s.completedAt.isSome = reh.completed ∧
      trail.map Interaction.line = ⟨.contact, text⟩ :: heard reh.transcript ∧
      after.desk.deliveredTo t.id =
        w.desk.deliveredTo t.id ++ spoken (trail.map Interaction.line) := by
  intro after
  obtain ⟨g, hg, hplay⟩ := Rehearsal.ofFlow_run hw.calm hopens.flow hreh
  obtain ⟨s, hlive, hid, hstate, hcompleted⟩ := hopens.talk hw hg messageId ms hplay
  obtain ⟨hsession, trail, htrail, hlines, hsent⟩ := hlive.found_and_sent
  rw [hid] at hsession htrail
  exact ⟨s, trail, hsession, htrail, hlive.ticketId, hlive.flowId, hstate, hcompleted, hlines,
    hsent⟩

/-- A flow that greets, asks, and hands the contact over after the answer. -/
def parting : Flow where
  id := "flow"
  name := "Parting"
  description := none
  isActive := true
  isPrimary := false
  trigger := .default
  keywords := []
  entryNode := "hello"
  definition := [("entryNodeId", .string "hello"), ("nodes", .list [
    .object [("id", .string "hello"), ("type", .string "message"), ("content", .string " Hello "),
      ("next", .string "ask")],
    .object [("id", .string "ask"), ("type", .string "question"), ("content", .string "Done?"),
      ("retryMessage", .string "Well?"), ("options", .list [
        .object [("value", .string "yes"), ("label", .string "Yes"), ("next", .string "bye")]])],
    .object [("id", .string "bye"), ("type", .string "transfer"), ("message", .string " ")]])]
  schedule := none
  offlineMessage := none
  transferQueue := some "people"
  createdAt := .utc 0
  updatedAt := .utc 0

/-- A helpdesk with one ticket, beside a store of rows with that flow. -/
def office : World where
  clock := .utc 5
  store := .relational { flows := [("flow", parting)] }
  desk := { tickets := [("ticket", { id := "ticket", contactId := "contact" })] }

theorem office_fine : office.view.Fine (.utc 1) :=
  ⟨⟨fun _ _ => rfl, rfl⟩, ⟨.utc 5, rfl⟩, ⟨.utc 1, rfl⟩⟩

theorem office_opens :
    office.view.Opens {} (.utc 1) "ticket" "Hi" { id := "ticket", contactId := "contact" }
      parting where
  ticket := rfl
  unattended := by decide
  idle := fun _ hs => nomatch hs
  selected := ⟨[parting],
    by simp [World.view, office, Store.activeFlows, Flow.considered, Flow.newestFirst,
      Flow.leading, Entries.values, parting],
    by simp [selectFlow, Flow.isCalledBy, parting]⟩
  flow := rfl
  isOpen := rfl
  fresh := rfl
  unused := fun _ hi => nomatch hi

/-- A conversation of that flow, and a message after its end. -/
theorem parting_rehearsed :
    let after := office.talk {} (.utc 1) "ticket"
      [("m1", "Hi"), ("m2", "Maybe"), ("m3", "Yes"), ("m4", "One more thing")]
    ∃ (s : Session) (trail : List Interaction),
      ((Job.store (.session office.view.freshId)).run after).1 = .ok (some s) ∧
      ((Job.store (.interactions office.view.freshId)).run after).1 = .ok trail ∧
      s.completedAt.isSome = true ∧
      trail.map Interaction.line =
        [⟨.contact, "Hi"⟩, ⟨.bot, "Hello"⟩, ⟨.bot, "Done?\n1. Yes"⟩, ⟨.contact, "Maybe"⟩,
          ⟨.bot, "Well?"⟩, ⟨.contact, "Yes"⟩] ∧
      after.desk.deliveredTo "ticket" = ["Hello", "Done?\n1. Yes", "Well?"] := by
  have hplays : (((Rehearsal.ofFlow 50 (.utc 1) "flow" ["Maybe", "Yes", "One more thing"]).run
      office).1.toOption.map fun reh => (heard reh.transcript, reh.completed)) =
      some ([⟨.bot, "Hello"⟩, ⟨.bot, "Done?\n1. Yes"⟩, ⟨.contact, "Maybe"⟩, ⟨.bot, "Well?"⟩,
        ⟨.contact, "Yes"⟩], true) := by decide +kernel
  obtain ⟨reh, hreh, hheard⟩ := Option.map_eq_some_iff.1 hplays
  cases hrun : ((Rehearsal.ofFlow 50 (.utc 1) "flow" ["Maybe", "Yes", "One more thing"]).run
      office).1 with
  | error e => rw [hrun] at hreh; cases hreh
  | ok reh' =>
    rw [hrun] at hreh
    cases hreh
    obtain ⟨hlines, hcompleted⟩ := Prod.ext_iff.1 hheard
    obtain ⟨s, trail, hs, htrail, -, -, -, hdone, hsame, hsent⟩ :=
      World.talk_rehearsed (r := {}) office_fine office_opens "m1"
        [("m2", "Maybe"), ("m3", "Yes"), ("m4", "One more thing")] hrun
    rw [show heard reh.transcript = _ from hlines] at hsame
    refine ⟨s, trail, hs, htrail, hdone.trans hcompleted, hsame, ?_⟩
    rw [hsame] at hsent
    exact hsent

end FrontDesk
