/-
A conversation that goes on at the reception.

`View.Live` says all that is known between two messages: which session is on record and that no
other goes on under its ticket, what stands in its audit trail, and what was sent. Each thing a
reception does is shown to lead from one such view to another, so that what a message does can be
read off the outcome of its run alone (`Live.goOn`, `Opens.begin`).
-/
import FrontDesk.Proofs.Conversation.Record
import FrontDesk.Proofs.Service.Calm
import FrontDesk.Proofs.Store.Table
import FrontDesk.Service.Rehearsal

namespace FrontDesk

open Calendar Service Store

/-! ## Lines -/

/-- An interaction as a line. -/
def Interaction.line (i : Interaction) : Line := ⟨i.sender, i.message⟩

namespace Line

/-- A line as it is put on record: what the bot says is trimmed, if anything is left of it. -/
def onRecord : Line → Option Line
  | ⟨.bot, text⟩ => (Text.trimmed? text).map (⟨.bot, ·⟩)
  | l => some l

/-- Lines as they are put on record. -/
def heard (ls : List Line) : List Line := ls.filterMap onRecord

/-- What the bot says in some lines. -/
def spoken (ls : List Line) : List String := (ls.filter (·.sender == .bot)).map text

@[simp] theorem heard_append (ls ls' : List Line) : heard (ls ++ ls') = heard ls ++ heard ls' :=
  List.filterMap_append

@[simp] theorem spoken_append (ls ls' : List Line) :
    spoken (ls ++ ls') = spoken ls ++ spoken ls' := by
  simp [spoken]

@[simp] theorem heard_contact (text : String) (ls : List Line) :
    heard (⟨.contact, text⟩ :: ls) = ⟨.contact, text⟩ :: heard ls := rfl

@[simp] theorem spoken_contact (text : String) (ls : List Line) :
    spoken (⟨.contact, text⟩ :: ls) = spoken ls := rfl

end Line

open Line

/-! ## What is known between two messages -/

/-- What stays the same throughout a conversation. -/
structure Scene where
  now : Moment
  /-- What the ticket is asked for by. -/
  key : String
  ticketId : String
  flow : Flow
  /-- What was sent on the ticket before. -/
  sent : List String

/-- What was sent for a ticket. -/
def View.deliveredTo (v : View) (ticketId : String) : List String :=
  (v.delivered.filter (·.1 == ticketId)).map Prod.snd

/-- Nothing fails, and the moments of both clocks can be kept. -/
structure View.Fine (v : View) (now : Moment) : Prop where
  calm : v.trouble.Calm
  keepsClock : v.store.CanKeep v.clock
  keepsNow : v.store.CanKeep now

/-- Nothing stands in the way of the conversation: the bot is in charge of the ticket, and the flow
is in the catalog. -/
structure View.Ready (v : View) (c : Scene) : Prop extends View.Fine v c.now where
  ticket : ∃ t, v.tickets.find? c.key = some t ∧ t.id = c.ticketId ∧ t.hasAgent = false
  flow : v.store.flow? c.flow.id = some c.flow

/-- The session is on record, with these lines as its trail and these texts sent. -/
structure View.Live (v : View) (c : Scene) (s : Session) (lines : List Line) (said : List String) :
    Prop extends View.Ready v c where
  found : (v.store.table v.clock).find? s.id = some s
  alone : (v.store.sessions v.clock).filter (·.isActiveOn c.ticketId) =
    if s.isActiveOn c.ticketId then [s] else []
  ticketId : s.ticketId = c.ticketId
  flowId : s.flowId = c.flow.id
  transferred : ∀ time, s.transferredAt = some time → v.store.CanKeep time
  sound : s.Sound
  trail : (v.store.interactions.filter (·.sessionId == s.id)).map Interaction.line = lines
  time : ∀ i ∈ v.store.interactions, i.sessionId = s.id → i.createdAt.instant = c.now.instant
  said : v.deliveredTo c.ticketId = c.sent ++ said

/-- The session stands where a run left it. -/
structure Session.At (s : Session) (o : Outcome) : Prop where
  state : s.state = o.state
  node : s.currentNode = some o.next
  completed : s.completedAt.isSome = o.completed

/-- A message was dealt with: its session is live, and it stands where the run left it, as does the
one given back. -/
def View.Dealt (c : Scene) (id : String) (o : Outcome) (lines : List Line) (said : List String)
    (x? : Option Session) (v : View) : Prop :=
  ∃ s x : Session, x? = some x ∧ v.Live c s lines said ∧ s.id = id ∧ s.At o ∧ x.At o

theorem View.Ready.becomes {v : View} {c : Scene} (h : v.Ready c) {es : Entries Session}
    {is : List Interaction} {st : Store} (hst : v.store.Becomes v.clock es is st) (n : Nat) :
    View.Ready { v with store := st, sessionIds := n } c where
  calm := h.calm
  keepsClock := hst.canKeep _ h.keepsClock
  keepsNow := hst.canKeep _ h.keepsNow
  ticket := h.ticket
  flow := (hst.flow _).trans h.flow

namespace View.Live

variable {v : View} {c : Scene} {s : Session} {lines : List Line} {said : List String}
  {t : Ticket}

/-! ## Requests -/

/-- What the helpdesk does without its being seen. -/
theorem quiet (h : v.Live c s lines said) (r : Helpdesk.Request) (hr : v.does r = v) :
    (Job.desk r).Comes v fun _ v' => v' = v :=
  (Job.Comes.desk h.calm r).mono fun _ _ hv => hv.2.trans hr

theorem deliver (h : v.Live c s lines said) (ht : t.id = c.ticketId) (body : String) :
    (Job.desk (.deliver t body)).Comes v fun _ v' => v'.Live c s lines (said ++ [body]) := by
  refine (Job.Comes.desk h.calm _).mono ?_
  rintro _ _ ⟨-, rfl⟩
  refine { h with said := ?_ }
  have hsaid := h.said
  simp only [deliveredTo] at hsaid
  simp [deliveredTo, does, ht, hsaid]

/-- A ticket that is handed over is left to the conversation: nobody is in charge of it yet. -/
theorem transfer (h : v.Live c s lines said) (ht : t.id = c.ticketId) (queue : Option String) :
    (Job.desk (.transfer t queue)).Comes v fun _ v' => v'.Live c s lines said := by
  refine (Job.Comes.desk h.calm _).mono ?_
  rintro _ _ ⟨-, rfl⟩
  refine { h with ticket := ?_ }
  obtain ⟨t', hfind, hid, hagent⟩ := h.ticket
  by_cases hkey : c.key = t.id
  · exact ⟨t.moved queue, by simp [does, Entries.find?_put, hkey], ht, rfl⟩
  · exact ⟨t', by simp [does, Entries.find?_put, hkey, hfind], hid, hagent⟩

theorem record (h : v.Live c s lines said) {i : Interaction} (hid : i.sessionId = s.id)
    (hnow : i.createdAt = c.now) :
    (Job.store (.record i)).Comes v fun _ v' => v'.Live c s (lines ++ [i.line]) said := by
  have hkeep : v.store.CanKeep i.createdAt := by rw [hnow]; exact h.keepsNow
  have hthere : ((v.store.table v.clock).find? i.sessionId).isSome = true := by
    rw [hid, h.found]; rfl
  obtain ⟨time, st, htime, hanswer, hst⟩ := answer_record hkeep hthere
  refine (Job.Comes.store h.calm rfl hanswer).mono ?_
  rintro _ _ ⟨-, rfl⟩
  exact {
    h with
    toReady := h.becomes hst _
    found := by rw [hst.table]; exact h.found
    alone := by rw [Store.sessions, hst.table]; exact h.alone
    transferred := fun time ht => hst.canKeep _ (h.transferred time ht)
    trail := by simp [hst.interactions, hid, h.trail, Interaction.line]
    time := by
      intro i' hi' hid'
      rw [hst.interactions] at hi'
      rcases List.mem_append.1 hi' with hi' | hi'
      · exact h.time i' hi' hid'
      · rw [List.mem_singleton.1 hi']
        exact htime.trans (by rw [hnow]) }

/-- The session is saved, changed in what a conversation changes. -/
theorem save (h : v.Live c s lines said) {u : Session} (hid : s.id = u.id)
    (hflow : s.flowId = u.flowId) (hticket : s.ticketId = u.ticketId)
    (hversion : s.version = u.version) (hsound : u.Sound)
    (hcompleted : ∀ time, u.completedAt = some time → time = c.now)
    (htransferred : ∀ time, u.transferredAt = some time → v.store.CanKeep time) :
    (Job.store (.saveSession u)).Comes v fun x v' =>
      x = Memory.saved u v.clock ∧ ∃ s' : Session, s'.Like x ∧ v'.Live c s' lines said := by
  have hfind : (v.store.table v.clock).find? u.id = some s := by rw [← hid]; exact h.found
  obtain ⟨s', st, hanswer, hlike, hkeep, hst⟩ :=
    answer_saveSession h.keepsClock
      (fun time ht => by rw [hcompleted time ht]; exact h.keepsNow) htransferred hfind hid hflow
      hticket hversion hsound.storable
  refine (Job.Comes.store h.calm rfl hanswer).mono ?_
  rintro _ _ ⟨rfl, rfl⟩
  refine ⟨rfl, s', hlike, ?_⟩
  have hid' : s'.id = s.id := hlike.id.trans hid.symm
  exact {
    toReady := h.becomes hst _
    found := by simp [hst.table, Entries.find?_put, hlike.id, Memory.saved]
    alone := by
      rw [Store.sessions, hst.table]
      exact Entries.filter_put hfind h.alone
    ticketId := hlike.ticketId.trans (hticket.symm.trans h.ticketId)
    flowId := hlike.flowId.trans (hflow.symm.trans h.flowId)
    transferred := fun time ht => hst.canKeep _ (hkeep time ht)
    sound := hsound.congr hlike.state hlike.currentNode hlike.completed
    trail := by rw [hst.interactions, hid']; exact h.trail
    time := by rw [hst.interactions, hid']; exact h.time
    said := h.said }

/-! ## Sending -/

theorem tryQuiet (h : v.Live c s lines said) (r : Helpdesk.Request) (hr : v.does r = v)
    (text : String) (a : r.Answer) : ((Job.desk r).orLog text a).Comes v fun _ v' => v' = v :=
  Job.Comes.orLog (h.quiet r hr)

theorem announceStored (h : v.Live c s lines said) (stored : Json) :
    (Reception.announceStored t stored).Comes v fun _ v' => v' = v := by
  unfold Reception.announceStored
  split
  · exact h.tryQuiet (.notify _ _) rfl _ _
  · exact Job.Comes.pure rfl

theorem recordBot (h : v.Live c s lines said) (m : Outbound) (content : String) :
    (Reception.recordBot c.now (some s.id) m content).Comes v fun _ v' =>
      v'.Live c s (lines ++ [⟨.bot, content⟩]) said :=
  Job.Comes.orLog (h.record rfl rfl)

/-- A message that is sent is on record as it was sent. -/
theorem send (h : v.Live c s lines said) (ht : t.id = c.ticketId) (m : Outbound) :
    (Reception.send c.now t (some s.id) m).Comes v fun _ v' =>
      v'.Live c s (lines ++ heard [⟨.bot, m.message⟩])
        (said ++ spoken (heard [⟨.bot, m.message⟩])) := by
  unfold Reception.send
  cases hcontent : Text.trimmed? m.message with
  | none =>
    have hheard : heard [⟨.bot, m.message⟩] = [] := by simp [heard, onRecord, hcontent]
    refine Job.Comes.pure ?_
    simpa [hheard, spoken] using h
  | some content =>
    have hheard : heard [⟨.bot, m.message⟩] = [⟨.bot, content⟩] := by
      simp [heard, onRecord, hcontent]
    have hspoken : spoken [⟨.bot, content⟩] = [content] := rfl
    rw [hheard, hspoken]
    refine Job.Comes.after (h.tryQuiet (.persist t content) rfl _ _) fun stored => ?_
    refine Job.Comes.bind (h.recordBot m content) fun _ v₁ h₁ => ?_
    refine Job.Comes.bind (Job.Comes.orLog (h₁.deliver ht content)) fun _ v₂ h₂ => ?_
    exact (h₂.announceStored stored).mono fun _ _ hv => by rw [hv]; exact h₂

theorem sendAll (ht : t.id = c.ticketId) (ms : List Outbound) {v : View} {lines : List Line}
    {said : List String} (h : v.Live c s lines said) :
    (Reception.sendAll c.now t (some s.id) ms).Comes v fun _ v' =>
      v'.Live c s (lines ++ heard (Rehearsal.botLines ms))
        (said ++ spoken (heard (Rehearsal.botLines ms))) := by
  induction ms generalizing v lines said with
  | nil => exact Job.Comes.pure (by simpa [Rehearsal.botLines, heard, spoken] using h)
  | cons m rest ih =>
    have hlines : heard (Rehearsal.botLines (m :: rest)) =
        heard [⟨.bot, m.message⟩] ++ heard (Rehearsal.botLines rest) := by
      rw [← heard_append]; rfl
    rw [hlines, spoken_append, ← List.append_assoc, ← List.append_assoc]
    exact Job.Comes.bind (h.send ht m) fun _ _ h₁ => ih h₁

theorem dispatch (h : v.Live c s lines said) (ht : t.id = c.ticketId) (ms : List Outbound) :
    (Reception.dispatch c.now t (some s.id) ms).Comes v fun _ v' =>
      v'.Live c s (lines ++ heard (Rehearsal.botLines ms))
        (said ++ spoken (heard (Rehearsal.botLines ms))) := by
  unfold Reception.dispatch
  cases ms with
  | nil => exact Job.Comes.pure (by simpa [Rehearsal.botLines, heard, spoken] using h)
  | cons m rest =>
    refine Job.Comes.bind (sendAll ht (m :: rest) h) fun _ v₁ h₁ => ?_
    exact (h₁.tryQuiet (.touch t c.now) rfl _ _).mono fun _ _ hv => by rw [hv]; exact h₁

/-! ## After a run -/

theorem logDefects_quiet {f : Flow} (ds : List Diagnostic) :
    (Reception.logDefects f s ds).Comes v fun _ v' => v' = v := by
  induction ds with
  | nil => exact Job.Comes.pure rfl
  | cons d rest ih => exact Job.Comes.after Job.Comes.log fun _ => ih

theorem handOver (h : v.Live c s lines said) {u : Session} (hu : s.Like u)
    (hcompleted : ∀ time, u.completedAt = some time → time = c.now) (ht : t.id = c.ticketId)
    (node : Option String) :
    (Reception.handOver c.now t c.flow u node).Comes v fun x v' =>
      ∃ s' : Session, v'.Live c s' lines said ∧ s'.Like x ∧ x.id = u.id ∧ x.state = u.state ∧
        x.currentNode = u.currentNode ∧ x.completedAt = u.completedAt := by
  unfold Reception.handOver
  refine Job.Comes.after Job.Comes.log fun _ => ?_
  refine Job.Comes.bind (h.transfer ht _) fun moved v₁ h₁ => ?_
  have hsound : u.Sound := h.sound.congr hu.state.symm hu.currentNode.symm hu.completed.symm
  refine Job.Comes.bind (h₁.save (u := { u with transferredAt := some c.now }) hu.id hu.flowId
    hu.ticketId hu.version (hsound.congr rfl rfl rfl) hcompleted ?_) ?_
  · rintro _ ⟨⟩
    exact h₁.keepsNow
  rintro _ v₂ ⟨rfl, s', hlike, h₂⟩
  refine Job.Comes.after (h₂.tryQuiet (.notify _ _) rfl _ _) fun _ => ?_
  exact Job.Comes.pure ⟨s', h₂, hlike, rfl, rfl, rfl, rfl⟩

/-- What a run comes to: it is said, and the session stands where the run left it. -/
theorem apply (h : v.Live c s lines said) (hopen : s.completedAt = none) {o : Outcome}
    (ho : o.Sound) (ht : t.id = c.ticketId) :
    (Reception.apply c.now t c.flow s o none).Comes v fun x v' =>
      ∃ s' : Session, v'.Live c s' (lines ++ heard (Rehearsal.linesOf o))
        (said ++ spoken (heard (Rehearsal.linesOf o))) ∧ s'.id = s.id ∧ s'.At o ∧ x.At o := by
  unfold Reception.apply
  refine Job.Comes.after (logDefects_quiet _) fun _ => ?_
  refine Job.Comes.bind (h.dispatch ht o.messages) fun _ v₁ h₁ => ?_
  refine Job.Comes.bind (h₁.dispatch ht o.retries) fun _ v₂ h₂ => ?_
  rw [List.append_assoc, List.append_assoc, ← spoken_append, ← heard_append] at h₂
  let u := Reception.advance c.now s o none
  have hat : u.At o := by
    refine ⟨rfl, rfl, ?_⟩
    cases hc : o.completed <;> simp [u, Reception.advance, hc, hopen]
  have hcompleted : ∀ time, u.completedAt = some time → time = c.now := by
    intro time hu
    cases hc : o.completed <;> simp_all [u, Reception.advance]
  refine Job.Comes.bind (h₂.save (u := u) rfl rfl rfl rfl (Reception.advance_sound ho hopen)
    hcompleted h₂.transferred) ?_
  rintro _ v₃ ⟨rfl, s', hlike, h₃⟩
  have hsaved : (Memory.saved u v₂.clock).At o := ⟨hat.state, hat.node, hat.completed⟩
  have hlikeAt {s₁ x : Session} (hl : s₁.Like x) (hx : x.At o) : s₁.At o :=
    ⟨hl.state.trans hx.state, hl.currentNode.trans hx.node, hl.completed.trans hx.completed⟩
  split
  · refine (h₃.handOver hlike hcompleted ht o.queue).mono ?_
    rintro x v₄ ⟨s₄, h₄, hlike₄, hid, hstate, hnode, hdone⟩
    have hx : x.At o :=
      ⟨hstate.trans hsaved.state, hnode.trans hsaved.node, by rw [hdone]; exact hsaved.completed⟩
    exact ⟨s₄, h₄, hlike₄.id.trans hid, hlikeAt hlike₄ hx, hx⟩
  · exact Job.Comes.pure ⟨s', h₃, hlike.id, hlikeAt hlike hsaved, hsaved⟩

/-! ## A message comes in -/

variable {r : Reception} {g : Graph} {o : Outcome}

theorem graphOf {f : Flow} (hg : Graph.ofJson (.object f.definition) = .ok g) :
    (Reception.graphOf f).Comes v fun g? v' => g? = some g ∧ v' = v := by
  unfold Reception.graphOf
  rw [hg]
  exact Job.Comes.pure ⟨rfl, rfl⟩

theorem goOn (h : v.Live c s lines said) (hopen : s.completedAt = none) (ht : t.id = c.ticketId)
    (hg : Graph.ofJson (.object c.flow.definition) = .ok g) (messageId text : String)
    (hrun : g.run r.limit c.now.isoText s.state s.currentNode (.answer text) = .ok o) :
    (r.goOn c.now t s messageId text).Comes v
      (View.Dealt c s.id o (lines ++ ⟨.contact, text⟩ :: heard (Rehearsal.linesOf o))
        (said ++ spoken (heard (Rehearsal.linesOf o)))) := by
  unfold Reception.goOn
  refine Job.Comes.known (Job.Comes.store h.calm rfl fun _ => answer_flow s.flowId) ?_
  rw [h.flowId, h.flow]
  refine Job.Comes.known (graphOf hg) ?_
  refine Job.Comes.bind (h.record rfl rfl) fun _ v₁ h₁ => ?_
  refine Job.Comes.known (Job.Comes.ofExcept hrun) ?_
  have hsound : o.Sound := Graph.run_sound (Graph.ofJson_wellRead hg) h.sound.storable
    (h.sound.completed_eq_none hopen) h.sound.keys c.now.isoText_ne_empty (by simp) hrun
  refine Job.Comes.map ?_
  -- what was waited for before the run is where a refused answer leaves the conversation anyway
  rw [Reception.apply, Reception.advance_waiting hrun, ← Reception.apply]
  refine (h₁.apply hopen hsound ht).mono ?_
  rintro x v₂ ⟨s', h₂, hid, hs', hx⟩
  rw [List.append_assoc] at h₂
  exact ⟨s', x, rfl, h₂, hid, hs', hx⟩

theorem incoming (h : v.Live c s lines said) (hopen : s.completedAt = none)
    (hg : Graph.ofJson (.object c.flow.definition) = .ok g) (messageId text : String)
    (hrun : g.run r.limit c.now.isoText s.state s.currentNode (.answer text) = .ok o) :
    (r.incoming c.now c.key messageId text).Comes v
      (View.Dealt c s.id o (lines ++ ⟨.contact, text⟩ :: heard (Rehearsal.linesOf o))
        (said ++ spoken (heard (Rehearsal.linesOf o)))) := by
  refine Job.Comes.orLog ?_
  unfold Reception.process
  obtain ⟨t, hfind, hid, hagent⟩ := h.ticket
  refine Job.Comes.known (Job.Comes.ticket h.calm c.key) ?_
  simp only [hfind, hagent, Bool.false_eq_true, if_false]
  have hactive : (v.store.sessions v.clock).filter (·.isActiveOn t.id) = (some s).toList := by
    rw [hid, h.alone]
    simp [Session.isActiveOn, Session.isActive, h.ticketId, hopen]
  refine Job.Comes.known (Job.Comes.store h.calm rfl fun _ => answer_activeSession hactive) ?_
  exact h.goOn hopen hid hg messageId text hrun

end View.Live

end FrontDesk
