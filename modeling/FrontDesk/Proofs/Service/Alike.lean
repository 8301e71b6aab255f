/-
Jobs that are alike.

Two jobs are alike on a ticket if, in two worlds in step, they ask alike for as long as the answers
are alike (`Job.Alike`). What a reception does about messages on a ticket is like itself under any
ids (`Reception.incoming_alike`): ids of sessions go from answers into requests and decide nothing.
In particular it concerns no other ticket.
-/
import FrontDesk.Proofs.Service.Lockstep

namespace FrontDesk

open Calendar Service

/-- Two jobs ask alike about a ticket at a stage; when both are done, their results are related at
the stage that is reached. -/
inductive Job.Alike (ticketId : String) {α β : Type} (R : Stage → α → β → Prop) :
    Stage → Job α → Job β → Prop where
  | done {stage : Stage} {a : α} {b : β} (related : R stage a b) :
    Alike ticketId R stage (.done a) (.done b)
  | failed {stage : Stage} {e e' : Failure} : Alike ticketId R stage (.failed e) (.failed e')
  | ask {stage : Stage} {r r' : Service.Request} {next : Except Failure r.Answer → Job α}
      {next' : Except Failure r'.Answer → Job β} (asks : Asks ticketId stage r r')
      (goesOn : ∀ stage' x x', Gives ticketId stage r r' stage' x x' →
        Alike ticketId R stage' (next x) (next' x')) :
    Alike ticketId R stage (.ask r next) (.ask r' next')

/-- The stage is as it was. -/
def Stage.Stays (stage : Stage) {α β : Type} (stage' : Stage) (_ : α) (_ : β) : Prop :=
  stage' = stage

/-- The session at hand, under both of its ids. -/
def Stage.AtHand (ticketId : String) (stage : Stage) (s s' : Session) : Prop :=
  ∃ key', stage = .holding s.id key' ∧ s' = { s with id := key' } ∧ s.ticketId = ticketId

namespace Job.Alike

variable {ticketId : String} {α β γ δ : Type} {R : Stage → α → β → Prop}
  {S : Stage → γ → δ → Prop} {stage : Stage} {j : Job α} {j' : Job β}

theorem pure {a : α} {b : β} (h : R stage a b) :
    Alike ticketId R stage (Pure.pure a) (Pure.pure b) := .done h

theorem bind {f : α → Job γ} {f' : β → Job δ} (h : Alike ticketId R stage j j')
    (hf : ∀ stage a b, R stage a b → Alike ticketId S stage (f a) (f' b)) :
    Alike ticketId S stage (j >>= f) (j' >>= f') := by
  induction h with
  | done related => exact hf _ _ _ related
  | failed => exact .failed
  | ask asks _ ih => exact .ask asks ih

theorem mono {R' : Stage → α → β → Prop} (h : Alike ticketId R stage j j')
    (hR : ∀ stage a b, R stage a b → R' stage a b) : Alike ticketId R' stage j j' := by
  induction h with
  | done related => exact .done (hR _ _ _ related)
  | failed => exact .failed
  | ask asks _ ih => exact .ask asks ih

theorem orLog {text text' : String} {a : α} {b : β} (h : Alike ticketId R stage j j')
    (hfailed : ∀ stage, R stage a b) :
    Alike ticketId R stage (j.orLog text a) (j'.orLog text' b) := by
  induction h with
  | done related => exact .done related
  | failed =>
    refine .ask .log fun stage' x x' hx => ?_
    cases hx with
    | error => exact .failed
    | logged => exact .done (hfailed _)
  | ask asks _ ih => exact .ask asks ih

theorem request {r r' : Service.Request} {R : Stage → r.Answer → r'.Answer → Prop}
    (asks : Asks ticketId stage r r')
    (hR : ∀ stage' a a', Gives ticketId stage r r' stage' (.ok a) (.ok a') → R stage' a a') :
    Alike ticketId R stage (Job.request r) (Job.request r') := by
  refine .ask asks fun stage' x x' hx => ?_
  rcases hx.both with ⟨e, e', -, rfl, rfl⟩ | ⟨a, a', rfl, rfl⟩
  · exact .failed
  · exact .done (hR _ _ _ hx)

theorem tried {r r' : Service.Request} {R : Stage → r.Answer → r'.Answer → Prop}
    {text text' : String} {a : r.Answer} {a' : r'.Answer} (asks : Asks ticketId stage r r')
    (hR : ∀ stage' a a', Gives ticketId stage r r' stage' (.ok a) (.ok a') → R stage' a a')
    (hfailed : R stage a a') :
    Alike ticketId R stage ((Job.request r).orLog text a) ((Job.request r').orLog text' a') := by
  refine .ask asks fun stage' x x' hx => ?_
  rcases hx.both with ⟨e, e', rfl, rfl, rfl⟩ | ⟨b, b', rfl, rfl⟩
  · refine .ask .log fun stage' x x' hx => ?_
    cases hx with
    | error => exact .failed
    | logged => exact .done hfailed
  · exact .done (hR _ _ _ hx)

end Job.Alike

/-! ## Sending -/

namespace Reception

open Job

variable {ticketId : String} {stage : Stage} {t : Ticket} {now : Moment}

/-- The session in which something is said, if it is said in one. -/
def Within (stage : Stage) : Option String → Option String → Prop
  | none, none => True
  | some key, some key' => stage = .holding key key'
  | _, _ => False

theorem log_alike (level level' : Level) (text text' : String) :
    Alike ticketId stage.Stays stage (Job.log level text) (Job.log level' text') := by
  refine .request .log fun stage' _ _ hx => ?_
  cases hx
  rfl

theorem desk_alike (r : Helpdesk.Request) (hr : r.Concerns ticketId) :
    Alike ticketId (fun stage' x x' => stage' = stage ∧ r.Like x x') stage (Job.desk r)
      (Job.desk r) := by
  refine .request (.desk hr) fun stage' x x' hx => ?_
  cases hx with
  | desk like => exact ⟨rfl, like⟩
  | notified => exact ⟨rfl, rfl⟩

theorem tryDesk_alike (r : Helpdesk.Request) (hr : r.Concerns ticketId) (text : String)
    {x : r.Answer} (hx : r.Like x x) :
    Alike ticketId (fun stage' x x' => stage' = stage ∧ r.Like x x') stage
      ((Job.desk r).orLog text x) ((Job.desk r).orLog text x) := by
  refine .tried (.desk hr) (fun stage' x x' hx => ?_) ⟨rfl, hx⟩
  cases hx with
  | desk like => exact ⟨rfl, like⟩
  | notified => exact ⟨rfl, rfl⟩

theorem announce_alike (event : String) (payload payload' : Json) :
    Alike ticketId stage.Stays stage (announce event payload) (announce event payload') := by
  refine .tried .notify (fun stage' _ _ hx => ?_) rfl
  cases hx with
  | desk => rfl
  | notified => rfl

theorem announceStored_alike {body : String} {x x' : Json}
    (h : (Helpdesk.Request.persist t body).Like x x') :
    Alike ticketId stage.Stays stage (announceStored t x) (announceStored t x') := by
  rcases h with rfl | ⟨m, ms, m', ms', rfl, rfl⟩
  · unfold announceStored
    split
    · exact announce_alike _ _ _
    · exact .pure rfl
  · exact announce_alike _ _ _

theorem recordBot_alike {sessionId sessionId' : Option String}
    (h : Within stage sessionId sessionId') (m : Outbound) (content : String) :
    Alike ticketId stage.Stays stage (recordBot now sessionId m content)
      (recordBot now sessionId' m content) := by
  match sessionId, sessionId', h with
  | none, none, _ => exact .pure rfl
  | some key, some key', h =>
    cases h
    exact .tried (.record (i := botInteraction now key m content)) (fun _ _ _ hx => hx.of_record)
      rfl

theorem send_alike (ht : t.id = ticketId) {sessionId sessionId' : Option String}
    (h : Within stage sessionId sessionId') (m : Outbound) :
    Alike ticketId stage.Stays stage (send now t sessionId m) (send now t sessionId' m) := by
  unfold send
  split
  · exact .pure rfl
  next content _ =>
  refine (tryDesk_alike (.persist t content) ht _ (.inl rfl)).bind ?_
  rintro _ stored stored' ⟨rfl, hstored⟩
  refine (recordBot_alike h m content).bind ?_
  rintro _ _ _ rfl
  refine (tryDesk_alike (.deliver t content) ht _ rfl).bind ?_
  rintro _ _ _ ⟨rfl, -⟩
  exact announceStored_alike hstored

theorem sendAll_alike (ht : t.id = ticketId) {sessionId sessionId' : Option String}
    (h : Within stage sessionId sessionId') (ms : List Outbound) :
    Alike ticketId stage.Stays stage (sendAll now t sessionId ms)
      (sendAll now t sessionId' ms) := by
  induction ms with
  | nil => exact .pure rfl
  | cons m rest ih =>
    refine (send_alike ht h m).bind ?_
    rintro _ _ _ rfl
    exact ih

theorem dispatch_alike (ht : t.id = ticketId) {sessionId sessionId' : Option String}
    (h : Within stage sessionId sessionId') (ms : List Outbound) :
    Alike ticketId stage.Stays stage (dispatch now t sessionId ms)
      (dispatch now t sessionId' ms) := by
  unfold dispatch
  split
  · exact .pure rfl
  · refine (sendAll_alike ht h ms).bind ?_
    rintro _ _ _ rfl
    exact (tryDesk_alike (.touch t now) ht _ rfl).mono fun _ _ _ h => h.1

/-! ## After a run -/

variable {f : Flow} {s s' : Session}

theorem save_alike {ticketId : String} (h : Stage.AtHand ticketId stage s s') :
    Alike ticketId (Stage.AtHand ticketId) stage (Job.store (.saveSession s))
      (Job.store (.saveSession s')) := by
  obtain ⟨key', rfl, rfl, hticket⟩ := h
  refine .request (.saveSession hticket) fun stage' x x' hx => ?_
  obtain ⟨key', -, rfl, hid, hticket, rfl⟩ := hx.of_saveSession
  exact ⟨key', by rw [hid], rfl, hticket⟩

theorem handOver_alike (ht : t.id = ticketId) (h : Stage.AtHand ticketId stage s s')
    (node : Option String) :
    Alike ticketId (Stage.AtHand ticketId) stage (handOver now t f s node)
      (handOver now t f s' node) := by
  have hsave : Stage.AtHand ticketId stage { s with transferredAt := some now }
      { s' with transferredAt := some now } := by
    obtain ⟨key', hstage, rfl, hticket⟩ := h
    exact ⟨key', hstage, rfl, hticket⟩
  refine (log_alike _ _ _ _).bind ?_
  rintro _ _ _ rfl
  refine (desk_alike (.transfer t (targetQueue node f t)) ht).bind ?_
  rintro _ moved _ ⟨rfl, rfl⟩
  refine (save_alike hsave).bind ?_
  intro stage' saved saved' hsaved
  refine (announce_alike _ _ _).bind ?_
  rintro _ _ _ rfl
  exact .pure hsaved

theorem logDefects_alike (ds : List Diagnostic) :
    Alike ticketId stage.Stays stage (logDefects f s ds) (logDefects f s' ds) := by
  induction ds with
  | nil => exact .pure rfl
  | cons d rest ih =>
    refine (log_alike _ _ _ _).bind ?_
    rintro _ _ _ rfl
    exact ih

theorem advance_atHand (h : Stage.AtHand ticketId stage s s') (o : Outcome)
    (waited : Option Waiting) :
    Stage.AtHand ticketId stage (advance now s o waited) (advance now s' o waited) := by
  obtain ⟨key', rfl, rfl, hticket⟩ := h
  cases waited with
  | none => exact ⟨key', rfl, rfl, hticket⟩
  | some w =>
    unfold advance
    cases o.retries.isEmpty with
    | true => exact ⟨key', rfl, rfl, hticket⟩
    | false => exact ⟨key', rfl, rfl, hticket⟩

theorem within_atHand (h : Stage.AtHand ticketId stage s s') :
    Within stage (some s.id) (some s'.id) := by
  obtain ⟨key', rfl, rfl, -⟩ := h
  rfl

theorem apply_alike (ht : t.id = ticketId) (h : Stage.AtHand ticketId stage s s') (o : Outcome)
    (waited : Option Waiting) :
    Alike ticketId (Stage.AtHand ticketId) stage (apply now t f s o waited)
      (apply now t f s' o waited) := by
  refine (logDefects_alike _).bind ?_
  rintro _ _ _ rfl
  refine (dispatch_alike ht (within_atHand h) _).bind ?_
  rintro _ _ _ rfl
  refine (dispatch_alike ht (within_atHand h) _).bind ?_
  rintro _ _ _ rfl
  refine (save_alike (advance_atHand h o waited)).bind ?_
  intro stage' saved saved' hsaved
  split
  · exact handOver_alike ht hsaved _
  · exact .pure hsaved

/-! ## A message comes in -/

theorem ofExcept_alike {α ε : Type} (failure : ε → Failure) (x : Except ε α) :
    Alike ticketId (fun stage' a a' => stage' = stage ∧ a = a') stage (Job.ofExcept failure x)
      (Job.ofExcept failure x) := by
  cases x with
  | error e => exact .failed
  | ok a => exact .done ⟨rfl, rfl⟩

theorem graphOf_alike (f : Flow) :
    Alike ticketId (fun stage' g g' => stage' = stage ∧ g = g') stage (graphOf f) (graphOf f) := by
  unfold graphOf
  split
  · exact .pure ⟨rfl, rfl⟩
  · split
    · refine (log_alike _ _ _ _).bind ?_
      rintro _ _ _ rfl
      exact .pure ⟨rfl, rfl⟩
    · exact .failed

theorem recordContact_alike (h : Stage.AtHand ticketId stage s s') (messageId text : String) :
    Alike ticketId stage.Stays stage (recordContact now s messageId text)
      (recordContact now s' messageId text) := by
  obtain ⟨key', rfl, rfl, -⟩ := h
  let i : Interaction :=
    { sessionId := s.id, sender := .contact, message := text, nodeId := none
      metadata := [("messageId", .string messageId)], createdAt := now }
  exact .request (.record (i := i)) fun _ _ _ hx => hx.of_record

variable {r : Reception} {g : Graph} {messageId text : String}

theorem begin_alike (ht : t.id = ticketId) :
    Alike ticketId (Stage.AtHand ticketId) .vacant (begin r now t f g messageId text)
      (begin r now t f g messageId text) := by
  refine (log_alike _ _ _ _).bind ?_
  rintro _ _ _ rfl
  have hopen : Alike ticketId (Stage.AtHand ticketId) .vacant
      (Job.store (.openSession
        { flowId := f.id, ticketId := t.id, contactId := some t.contactId
          currentNode := some g.entry, state := {} }))
      (Job.store (.openSession
        { flowId := f.id, ticketId := t.id, contactId := some t.contactId
          currentNode := some g.entry, state := {} })) := by
    refine .request (.openSession ht) fun stage' x x' hx => ?_
    cases hx with
    | opened hticket => exact ⟨_, rfl, rfl, hticket⟩
  refine hopen.bind ?_
  intro stage s s' h
  refine (recordContact_alike h _ _).bind ?_
  rintro _ _ _ rfl
  refine (ofExcept_alike _ _).bind ?_
  rintro _ o _ ⟨rfl, rfl⟩
  exact apply_alike ht h _ _

/-- Whatever the result. -/
def Ends {α β : Type} (_ : Stage) (_ : α) (_ : β) : Prop := True

theorem openWith_alike (ht : t.id = ticketId) :
    Alike ticketId Ends .vacant (openWith r now t messageId text)
      (openWith r now t messageId text) := by
  have hflows : Alike ticketId (fun stage' fs fs' => stage' = Stage.vacant ∧ fs = fs') .vacant
      (Job.store .activeFlows) (Job.store .activeFlows) := by
    refine .request .activeFlows fun stage' x x' hx => ?_
    cases hx
    exact ⟨rfl, rfl⟩
  refine hflows.bind ?_
  rintro _ flows _ ⟨rfl, rfl⟩
  split
  · exact .pure trivial
  split
  · exact (log_alike _ _ _ _).bind fun _ _ _ _ => .pure trivial
  next f _ =>
  refine (graphOf_alike f).bind ?_
  rintro _ g _ ⟨rfl, rfl⟩
  split
  · exact .pure trivial
  next g =>
  refine (ofExcept_alike _ _).bind ?_
  rintro _ b _ ⟨rfl, rfl⟩
  split
  · exact (begin_alike ht).bind fun _ _ _ _ => .pure trivial
  · have hnone : Within .vacant none none := trivial
    refine (log_alike _ _ _ _).bind ?_
    rintro _ _ _ rfl
    exact (dispatch_alike ht hnone _).bind fun _ _ _ _ => .pure trivial

theorem goOn_alike (ht : t.id = ticketId) (h : Stage.AtHand ticketId stage s s') :
    Alike ticketId Ends stage (goOn r now t s messageId text) (goOn r now t s' messageId text) := by
  have hsame : s'.flowId = s.flowId ∧ s'.state = s.state ∧ s'.currentNode = s.currentNode := by
    obtain ⟨key', -, rfl, -⟩ := h
    exact ⟨rfl, rfl, rfl⟩
  obtain ⟨hflow, hstate, hnode⟩ := hsame
  unfold goOn
  rw [hflow, hstate, hnode]
  have hlook : Alike ticketId (fun stage' f? f?' => stage' = stage ∧ f? = f?') stage
      (Job.store (.flow s.flowId)) (Job.store (.flow s.flowId)) := by
    refine .request (.flow _) fun stage' x x' hx => ?_
    cases hx
    exact ⟨rfl, rfl⟩
  refine hlook.bind ?_
  rintro _ f? _ ⟨rfl, rfl⟩
  split
  · exact (log_alike _ _ _ _).bind fun _ _ _ _ => .pure trivial
  next f =>
  refine (graphOf_alike f).bind ?_
  rintro _ g _ ⟨rfl, rfl⟩
  split
  · exact .pure trivial
  next g =>
  refine (recordContact_alike h _ _).bind ?_
  rintro _ _ _ rfl
  refine (ofExcept_alike _ _).bind ?_
  rintro _ o _ ⟨rfl, rfl⟩
  exact (apply_alike ht h _ _).bind fun _ _ _ _ => .pure trivial

theorem process_alike (ticketId : String) :
    Alike ticketId Ends .fresh (process r now ticketId messageId text)
      (process r now ticketId messageId text) := by
  refine (desk_alike (.ticket ticketId) rfl).bind ?_
  rintro _ t? _ ⟨rfl, rfl, hid⟩
  split
  · exact (log_alike _ _ _ _).bind fun _ _ _ _ => .pure trivial
  next t =>
  have ht : t.id = ticketId := hid t rfl
  split
  · exact .pure trivial
  rw [ht]
  have hactive : Alike ticketId (fun stage' s? s?' =>
      (stage' = Stage.vacant ∧ s? = none ∧ s?' = none) ∨
        ∃ s s', s? = some s ∧ s?' = some s' ∧ Stage.AtHand ticketId stage' s s') .fresh
      (Job.store (.activeSession ticketId)) (Job.store (.activeSession ticketId)) := by
    refine .request .activeSession fun stage' x x' hx => ?_
    cases hx with
    | vacant => exact .inl ⟨rfl, rfl, rfl⟩
    | found hticket => exact .inr ⟨_, _, rfl, rfl, _, rfl, rfl, hticket⟩
  refine hactive.bind ?_
  rintro stage s? s?' (⟨rfl, rfl, rfl⟩ | ⟨s, s', rfl, rfl, h⟩)
  · exact openWith_alike ht
  · exact goOn_alike ht h

/-- **What is done about a message on a ticket goes by what is on file of the ticket alone**, and
ids decide nothing. -/
theorem incoming_alike (r : Reception) (now : Moment) (ticketId messageId text : String) :
    Alike ticketId Ends .fresh (incoming r now ticketId messageId text)
      (incoming r now ticketId messageId text) :=
  (process_alike ticketId).orLog fun _ => trivial

end Reception

end FrontDesk
