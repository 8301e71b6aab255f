/-
What is said about a message.

What a reception attempts to send follows from the records, the tickets and the message
(`Reception.utterance`): each message of a run, trimmed, is to be stored and to be delivered, those
that go on first and then those that ask again. It is attempted in full, or not at all, and not at
all only if something was refused that the conversation depends on; that a sending fails stops none
of the others and changes nothing of what becomes of the conversation.
-/
import FrontDesk.Proofs.Service.Conduct
import FrontDesk.Proofs.Service.Rehearsed
import FrontDesk.Proofs.Service.Sending

namespace FrontDesk

open Calendar Service Service.Exchange

/-! ## What is to be said -/

/-- What a run says: what goes on first, then what is asked again. -/
def Outcome.said (o : Outcome) : List Outbound := o.messages ++ o.retries

namespace Reception

/-- The requests by which messages are sent on a ticket. -/
def postsOf (t : Ticket) (ms : List Outbound) : List Request :=
  (ms.filterMap fun m => Text.trimmed? m.message).flatMap fun content =>
    [.desk (.persist t content), .desk (.deliver t content)]

variable (r : Reception) (now : Moment) (st : Store) (text : String)

/-- The run that takes up a message in a session, if there is one. -/
def reply? (s : Session) : Option Outcome := do
  let f ← st.flow? s.flowId
  let g ← (Graph.ofJson (.object f.definition)).toOption
  (g.run r.limit now.isoText s.state s.currentNode (.answer text)).toOption

/-- What is said about a message that no session takes up. -/
def welcome? : Option (List Outbound) := do
  let fs ← st.activeFlows.toOption
  let f ← selectFlow fs text
  let g ← (Graph.ofJson (.object f.definition)).toOption
  let schedule := Schedule.ofJson f.scheduleJson
  if ← (Schedule.isOpenBy r.zones schedule now).toOption then
    let o ← (g.run r.limit now.isoText {} (some g.entry) .opening).toOption
    return o.said
  else return [⟨"", r.offlineText f schedule⟩]

/-- What is said about a message on a ticket. -/
def saidOn? (t : Ticket) (clock : Moment) : Option (List Outbound) := do
  if t.hasAgent then none
  else
    match ← (st.activeSession t.id clock).toOption with
    | some s => (reply? r now st text s).map Outcome.said
    | none => welcome? r now st text

/-- What is to be sent about a message. -/
def utterance (w : World) (ticketId : String) : List Request :=
  match w.desk.tickets.find? ticketId with
  | some t => ((saidOn? r now w.store text t w.clock).map (postsOf t)).getD []
  | none => []

theorem postsOf_append (t : Ticket) (ms ns : List Outbound) :
    postsOf t (ms ++ ns) = postsOf t ms ++ postsOf t ns := by
  simp [postsOf, List.filterMap_append]

end Reception

/-! ## What is attempted -/

/-- Something was refused that the conversation depends on. -/
def Service.Exchange.Thwarted (xs : List Exchange) : Prop :=
  ∃ x ∈ xs, x.isEssential = true ∧ x.isGranted = false

/-- This is attempted, or nothing is since something was refused that the rest depends on. -/
def Service.Exchange.Says (ps : List Request) (xs : List Exchange) : Prop :=
  posts xs = ps ∨ posts xs = [] ∧ Thwarted xs

namespace Service.Exchange

variable {ps : List Request} {xs : List Exchange}

theorem Thwarted.here {r : Request} (h : World.isOutside r && !r.isSending) (e : Failure)
    (xs : List Exchange) : Thwarted (⟨r, .error e⟩ :: xs) :=
  ⟨_, List.mem_cons_self, h, rfl⟩

theorem Thwarted.later (h : Thwarted xs) (x : Exchange) : Thwarted (x :: xs) :=
  let ⟨y, hy, hrefused⟩ := h
  ⟨y, List.mem_cons_of_mem _ hy, hrefused⟩

theorem Thwarted.append (h : Thwarted xs) (ys : List Exchange) : Thwarted (xs ++ ys) :=
  let ⟨y, hy, hrefused⟩ := h
  ⟨y, List.mem_append_left _ hy, hrefused⟩

theorem Says.cons {x : Exchange} (h : Says ps xs) (hx : x.request.isPost = false) :
    Says ps (x :: xs) := by
  have hsame : posts (x :: xs) = posts xs := by simp [posts_cons, hx]
  rcases h with h | ⟨h, hrefused⟩
  · exact .inl (hsame.trans h)
  · exact .inr ⟨hsame.trans h, hrefused.later x⟩

end Service.Exchange

theorem World.store_lookup {w : World} {r : Store.Request} {x : Except Store.Fault r.Answer}
    (h : ∀ id, w.store.answer w.clock id r = (x, w.store)) :
    (w.answer (.store r)).2.store = w.store := by
  rcases w.answer_store_cases r with hanswer | ⟨ids, -, hanswer⟩
  · rw [hanswer]
  · rw [hanswer, h]

theorem World.store_ticket (w : World) (id : String) :
    (w.answer (.desk (.ticket id))).2.store = w.store := by
  rcases w.answer_cases (.desk (.ticket id)) with ⟨-, hanswer⟩ | ⟨-, hanswer⟩ <;> rw [hanswer]
  rfl

namespace Job

variable {α : Type} {w : World} {ps : List Request}

/-- This is attempted, or nothing is. -/
abbrev Voices (j : Job α) (w : World) (ps : List Request) : Prop :=
  j.Recounts w fun xs _ _ => Says ps xs

theorem Voices.lookup {r : Store.Request} {x : Except Store.Fault r.Answer}
    (h : ∀ id, w.store.answer w.clock id r = (x, w.store)) {f : r.Answer → Job α}
    (hok : ∀ a w', x = .ok a → w'.store = w.store → w'.clock = w.clock → (f a).Voices w' ps) :
    (Job.store r >>= f).Voices w ps := by
  refine .asked (fun a ha => ?_) fun e _ => .inr ⟨rfl, .here rfl e []⟩
  obtain ⟨ids, -, hx⟩ := World.answer_of_ok ha
  rw [h] at hx
  exact (hok a _ hx (World.store_lookup h) (w.answer_trouble _).2).mono fun _ _ _ hys =>
    hys.cons rfl

theorem Voices.ticket {id : String} {f : Option Ticket → Job α}
    (h : ∀ w', w'.store = w.store → w'.clock = w.clock →
      (f (w.desk.tickets.find? id)).Voices w' ps) :
    (Job.desk (.ticket id) >>= f).Voices w ps := by
  refine .asked (fun t? ht => ?_) fun e _ => .inr ⟨rfl, .here rfl e []⟩
  rw [← World.ticket_of_answer ht]
  exact (h _ (w.store_ticket id) (w.answer_trouble _).2).mono fun _ _ _ hys => hys.cons rfl

theorem Voices.silent {a : α} : (return a : Job α).Voices w [] := .pure (.inl rfl)

theorem Voices.log {level : Level} {text : String} {f : Unit → Job α}
    (h : ∀ w', w'.store = w.store → (f ()).Voices w' ps) :
    (Job.log level text >>= f).Voices w ps :=
  Recounts.log <| (h (w.answer (.log level text)).2 rfl).mono fun _ _ _ hxs => hxs.cons rfl

theorem Voices.essential {r : Request} {f : r.Answer → Job α} (hr : World.isOutside r = true)
    (hkind : r.isSending = false) (hpost : r.isPost = false)
    (hok : ∀ a w', (f a).Voices w' ps) : (Job.request r >>= f).Voices w ps := by
  refine .asked (fun a _ => ?_) fun e _ =>
    .inr ⟨by simp [posts, hpost], .here (by simp [hr, hkind]) e []⟩
  exact (hok a _).mono fun _ _ _ hys => hys.cons hpost

theorem Voices.ofExcept {β ε : Type} {failure : ε → Failure} {x : Except ε β} {f : β → Job α}
    (herr : ∀ e, x = .error e → ps = []) (hok : ∀ b, x = .ok b → (f b).Voices w ps) :
    (Job.ofExcept failure x >>= f).Voices w ps := by
  cases x with
  | ok b => exact hok b rfl
  | error e => exact .inl (herr e rfl).symm

theorem Voices.graphOf {f : Flow} {next : Option Graph → Job α}
    (hok : ∀ g, Graph.ofJson (.object f.definition) = .ok g → (next (some g)).Voices w ps)
    (herr : ∀ e, Graph.ofJson (.object f.definition) = .error e →
      ps = [] ∧ ∀ w', (next none).Voices w' []) :
    (Reception.graphOf f >>= next).Voices w ps := by
  unfold Reception.graphOf
  cases hg : Graph.ofJson (.object f.definition) with
  | ok g => exact hok g hg
  | error e =>
    obtain ⟨rfl, hnone⟩ := herr e hg
    simp only
    split
    · exact Voices.log (f := fun _ => next none) fun w' _ => hnone w'
    · exact .inl rfl

/-- Terms for one who stores and delivers nothing. -/
def unpostedTerms : Terms where
  may r := r.isPost = false
  gives _ _ := True

/-- One who stores and delivers nothing says nothing. -/
theorem posts_of_keeps {wanted : α → Prop} {j : Job α} (h : j.Keeps unpostedTerms wanted)
    (w : World) : posts (j.transcript w) = [] := by
  refine List.filter_eq_nil_iff.2 fun r hr => ?_
  obtain ⟨x, hx, rfl⟩ := List.mem_map.1 hr
  rw [show x.request.isPost = false from h.transcript (fun _ _ _ _ => trivial) w x hx]
  exact Bool.false_ne_true

/-- So much is attempted by a job that only says something and that comes to an end. -/
structure Sent (ps : List Request) (xs : List Exchange) (x : Except Failure α) : Prop where
  posts : posts xs = ps
  speech : ∀ y ∈ xs, y.request.isSpeech = true
  ends : ∃ a, x = .ok a

/-- The job only says something. -/
abbrev Sends (j : Job α) (w : World) (ps : List Request) : Prop :=
  j.Recounts w fun xs x _ => Sent ps xs x

theorem Sends.pure {a : α} : (Pure.pure a : Job α).Sends w [] :=
  ⟨rfl, List.forall_mem_nil _, a, rfl⟩

theorem Sends.tried {r : Request} (hr : r.isSpeech = true) (text : String) (a : r.Answer) :
    ((Job.request r).orLog text a).Sends w (if r.isPost then [r] else []) := by
  refine .orLog (m := fun xs x _ => xs = [⟨r, x⟩]) (.request rfl) ?_ ?_
  · rintro _ b _ rfl
    exact ⟨posts_cons _ _, by simpa using hr, b, rfl⟩
  · rintro _ e _ rfl
    exact ⟨posts_cons _ _, by simpa using ⟨hr, rfl⟩, a, rfl⟩

theorem Sends.then {β : Type} {j : Job β} {f : β → Job α} {qs : List Request}
    {p : List Exchange → Except Failure α → World → Prop} (h : j.Sends w qs)
    (hf : ∀ b, Sent qs (j.transcript w) (.ok b : Except Failure β) →
      (f b).Recounts (j.run w).2 fun ys => p (j.transcript w ++ ys)) :
    (j >>= f).Recounts w p := by
  have hall : j.Recounts w fun xs x w' =>
      Sent qs xs x ∧ xs = j.transcript w ∧ w' = (j.run w).2 := ⟨h, rfl, rfl⟩
  refine .bind hall ?_ ?_
  · rintro _ b _ ⟨hxs, rfl, rfl⟩
    exact hf b hxs
  · rintro _ _ _ ⟨hxs, -, -⟩
    obtain ⟨_, he⟩ := hxs.ends
    cases he

theorem Sends.bind {β : Type} {j : Job β} {f : β → Job α} {qs : List Request} (h : j.Sends w qs)
    (hf : ∀ b w', (f b).Sends w' ps) : (j >>= f).Sends w (qs ++ ps) :=
  h.then fun b hxs => (hf b _).mono fun ys _ _ hys =>
    ⟨by rw [posts_append, hxs.posts, hys.posts],
      fun y hy => (List.mem_append.1 hy).elim (hxs.speech y) (hys.speech y), hys.ends⟩

theorem Sends.log {level : Level} {text : String} {f : Unit → Job α}
    (h : ∀ w', (f ()).Sends w' ps) : (Job.log level text >>= f).Sends w ps :=
  Recounts.log <| (h (w.answer (.log level text)).2).mono fun _ _ _ hxs =>
    ⟨(posts_cons _ _).trans hxs.posts, List.forall_mem_cons.2 ⟨rfl, hxs.speech⟩, hxs.ends⟩

end Job

namespace Reception

open Job

variable {w : World} {now : Moment} {t : Ticket} {sessionId : Option String}

theorem announce_sends (event : String) (payload : Json) (w : World) :
    (announce event payload).Sends w [] :=
  .tried (r := .desk (.notify event payload)) rfl _ ()

theorem recordBot_sends (now : Moment) (sessionId : Option String) (m : Outbound)
    (content : String) (w : World) : (recordBot now sessionId m content).Sends w [] := by
  unfold recordBot
  split
  · exact .tried (r := .store (.record _)) rfl _ ()
  · exact .pure

theorem announceStored_sends (t : Ticket) (stored : Json) (w : World) :
    (announceStored t stored).Sends w [] := by
  unfold announceStored
  split
  · exact announce_sends _ _ w
  · exact .pure

theorem send_sends (now : Moment) (t : Ticket) (sessionId : Option String) (m : Outbound)
    (w : World) : (send now t sessionId m).Sends w (postsOf t [m]) := by
  unfold send
  cases hm : Text.trimmed? m.message with
  | none =>
    rw [show postsOf t [m] = [] by simp [postsOf, hm]]
    exact .pure
  | some content =>
    have hposts : postsOf t [m] =
        [.desk (.persist t content)] ++ ([] ++ ([.desk (.deliver t content)] ++ [])) := by
      simp [postsOf, hm]
    rw [hposts]
    refine .bind (.tried (r := .desk (.persist t content)) rfl _ _) fun stored w₁ => ?_
    refine .bind (recordBot_sends now sessionId m content w₁) fun _ w₂ => ?_
    refine .bind (.tried (r := .desk (.deliver t content)) rfl _ _) fun _ w₃ => ?_
    exact announceStored_sends t stored w₃

theorem sendAll_sends (now : Moment) (t : Ticket) (sessionId : Option String) (ms : List Outbound)
    (w : World) : (sendAll now t sessionId ms).Sends w (postsOf t ms) := by
  induction ms generalizing w with
  | nil => exact .pure
  | cons m rest ih =>
    rw [← List.singleton_append, postsOf_append]
    exact .bind (send_sends now t sessionId m w) fun _ w' => ih w'

theorem dispatch_sends (now : Moment) (t : Ticket) (sessionId : Option String)
    (ms : List Outbound) (w : World) : (dispatch now t sessionId ms).Sends w (postsOf t ms) := by
  unfold dispatch
  cases ms with
  | nil => exact .pure
  | cons m rest =>
    rw [← List.append_nil (postsOf t (m :: rest))]
    exact .bind (sendAll_sends now t sessionId _ w) fun _ w' =>
      .tried (r := .desk (.touch t now)) rfl _ ()

theorem logDefects_sends (f : Flow) (s : Session) (ds : List Diagnostic) (w : World) :
    (logDefects f s ds).Sends w [] := by
  induction ds generalizing w with
  | nil => exact .pure
  | cons d rest ih => exact .log fun w' => ih w'

/-- All that a run says. -/
def sayAll (now : Moment) (t : Ticket) (f : Flow) (s : Session) (o : Outcome) : Job Unit := do
  logDefects f s o.diagnostics
  dispatch now t (some s.id) o.messages
  dispatch now t (some s.id) o.retries

/-- What is done about a session when all was said. -/
def settle (now : Moment) (t : Ticket) (f : Flow) (s : Session) (o : Outcome)
    (waited : Option Waiting) : Job Session := do
  let saved ← Job.store (.saveSession (advance now s o waited))
  if o.transferred then handOver now t f saved o.queue else return saved

theorem apply_eq (f : Flow) (s : Session) (o : Outcome) (waited : Option Waiting) :
    Reception.apply now t f s o waited =
      sayAll now t f s o >>= fun _ => settle now t f s o waited := by
  simp only [sayAll, bind_assoc]
  rfl

theorem sayAll_sends (now : Moment) (t : Ticket) (f : Flow) (s : Session) (o : Outcome)
    (w : World) : (sayAll now t f s o).Sends w (postsOf t o.said) := by
  rw [Outcome.said, postsOf_append, ← List.nil_append (_ ++ _)]
  refine .bind (logDefects_sends f s _ w) fun _ w₁ => ?_
  exact .bind (dispatch_sends now t _ _ w₁) fun _ w₂ => dispatch_sends now t _ _ w₂

theorem handOver_unposted (f : Flow) (s : Session) (queue : Option String) :
    (handOver now t f s queue).Keeps unpostedTerms fun _ => True := by
  refine .bind (Keeps.log rfl) fun _ _ => ?_
  refine .bind (Keeps.desk (.transfer _ _) rfl) fun moved _ => ?_
  refine .bind (Keeps.store (.saveSession _) rfl) fun saved _ => ?_
  refine .bind (Keeps.orLog rfl (Keeps.desk (.notify _ _) rfl) trivial) fun _ _ => ?_
  exact .pure trivial

theorem settle_unposted (f : Flow) (s : Session) (o : Outcome) (waited : Option Waiting) :
    (settle now t f s o waited).Keeps unpostedTerms fun _ => True := by
  refine .bind (Keeps.store (.saveSession _) rfl) fun saved _ => ?_
  split
  · exact handOver_unposted f saved _
  · exact .pure trivial

/-- All that a run says is attempted, and no more. -/
theorem apply_voices (f : Flow) (s : Session) (o : Outcome) (waited : Option Waiting) (w : World) :
    (Reception.apply now t f s o waited).Recounts w fun xs _ _ => posts xs = postsOf t o.said := by
  rw [apply_eq]
  refine (sayAll_sends now t f s o w).then fun _ hxs => ?_
  refine (posts_append _ _).trans ?_
  rw [hxs.posts, posts_of_keeps (settle_unposted f s o waited), List.append_nil]

variable (r : Reception) (now : Moment) (messageId text : String)

theorem goOn_voices (t : Ticket) (s : Session) (w : World) :
    (r.goOn now t s messageId text).Voices w
      (((reply? r now w.store text s).map fun o => postsOf t o.said).getD []) := by
  unfold goOn reply?
  refine .lookup (fun id => Store.answer_flow s.flowId) ?_
  rintro f? w₁ ⟨rfl⟩ hstore hclock
  cases w.store.flow? s.flowId with
  | none => exact .log fun _ _ => .silent
  | some f =>
    refine .graphOf (fun g hg => ?_) fun e he => ⟨by simp [he, Except.toOption], fun _ => .silent⟩
    refine .essential rfl rfl rfl fun _ w₂ => ?_
    refine .ofExcept (fun e he => by simp [hg, he, Except.toOption]) fun o ho => ?_
    refine .map ((apply_voices f s o _ w₂).mono fun xs _ _ hxs => .inl ?_)
    simpa [hg, ho, Except.toOption] using hxs

theorem begin_voices (t : Ticket) (f : Flow) (g : Graph) (w : World) :
    (r.begin now t f g messageId text).Voices w
      (((g.run r.limit now.isoText {} (some g.entry) .opening).toOption.map fun o =>
        postsOf t o.said).getD []) := by
  unfold begin
  refine .log fun w₁ _ => ?_
  refine .essential rfl rfl rfl fun s w₂ => ?_
  refine .essential rfl rfl rfl fun _ w₃ => ?_
  refine .ofExcept (fun e he => by simp [he, Except.toOption]) fun o ho => ?_
  refine (apply_voices f s o none w₃).mono fun xs _ _ hxs => .inl ?_
  simpa [ho, Except.toOption] using hxs

theorem openWith_voices (t : Ticket) (w : World) :
    (r.openWith now t messageId text).Voices w
      (((welcome? r now w.store text).map (postsOf t)).getD []) := by
  unfold openWith welcome?
  refine .lookup (fun id => Store.answer_activeFlows) ?_
  intro flows w₁ hflows _ _
  simp only [hflows, Except.toOption, Option.bind_eq_bind, Option.bind_some]
  cases hselect : selectFlow flows text with
  | none =>
    split
    · exact .silent
    · exact .log fun _ _ => .silent
  | some f =>
    have hne : flows.isEmpty = false := by
      cases flows with
      | nil => simp [selectFlow] at hselect
      | cons => rfl
    simp only [hne, Bool.false_eq_true, if_false, Option.bind_some]
    refine .graphOf (fun g hg => ?_) fun e he => ⟨by simp [he], fun _ => .silent⟩
    refine .ofExcept (fun e he => by simp [hg, he]) fun isOpen hopen => ?_
    cases isOpen with
    | true =>
      refine .map ((begin_voices r now messageId text t f g w₁).mono fun xs _ _ hxs => ?_)
      cases hrun : g.run r.limit now.isoText {} (some g.entry) .opening <;>
        simpa [hg, hopen, hrun, Except.toOption] using hxs
    | false =>
      refine .log fun w₂ _ => (dispatch_sends now t none _ w₂).then fun _ hxs => ?_
      refine .pure (.inl ?_)
      simpa [hg, hopen] using hxs.posts

theorem process_voices (ticketId : String) (w : World) :
    (r.process now ticketId messageId text).Voices w (r.utterance now text w ticketId) := by
  unfold process utterance
  refine .ticket ?_
  intro w₁ hstore hclock
  cases w.desk.tickets.find? ticketId with
  | none => exact .log fun _ _ => .silent
  | some t =>
    unfold saidOn?
    cases hagent : t.hasAgent with
    | true =>
      simp only [hagent, if_true]
      exact .silent
    | false =>
      simp only [hagent, Bool.false_eq_true, if_false]
      refine .lookup (fun id => Store.answer_activeSession_eq _ _ id t.id) ?_
      intro s? w₂ hs hstore' _
      rw [hstore, hclock] at hs
      have hsame : w₂.store = w.store := hstore'.trans hstore
      cases s? with
      | none =>
        have hrest := openWith_voices r now messageId text t w₂
        rw [hsame] at hrest
        simpa [hs, Except.toOption] using hrest
      | some s =>
        have hrest := goOn_voices r now messageId text t s w₂
        rw [hsame] at hrest
        simpa [hs, Except.toOption, Option.map_map, Function.comp_def] using hrest

/-- **What is to be said about a message is attempted**, or nothing is, since something was refused
that the rest depends on. -/
theorem incoming_voices (ticketId : String) (w : World) :
    (r.incoming now ticketId messageId text).Voices w (r.utterance now text w ticketId) := by
  refine .orLog (process_voices r now messageId text ticketId w) (fun _ _ _ h => h) fun xs e w' h => ?_
  rcases h with h | ⟨h, hrefused⟩
  · exact .inl (by rw [posts_append, h]; exact List.append_nil _)
  · exact .inr ⟨by rw [posts_append, h]; rfl, hrefused.append _⟩

/-- A reception comes to an end, whatever fails. -/
theorem incoming_ends (ticketId : String) (w : World) :
    ∃ s?, ((r.incoming now ticketId messageId text).run w).1 = .ok s? := by
  refine Recounts.orLog (p := fun _ x _ => ∃ s?, x = .ok s?) (m := fun _ _ _ => True) trivial ?_ ?_
  · exact fun _ s? _ _ => ⟨s?, rfl⟩
  · exact fun _ _ _ _ => ⟨none, rfl⟩

/-- **Whether messages get through does not influence the conversation.** A message comes in on a
ticket in two worlds that differ in what fails, where nobody else is at work on the session. If
other requests fail alike, so far as both come to them, then the session that is given back is the
same, and so are all records, tickets and transfers afterwards; the same messages were to be stored
and delivered in the same order, and these are the ones to be said about it, unless something else
was refused before. -/
theorem incoming_heedless (ticketId : String) {w : World} (halone : w.trouble.rivalSaves = false)
    (outage : Nat → Request → Bool) :
    let v := { w with trouble := { w.trouble with outage } }
    let j := r.incoming now ticketId messageId text
    (∀ p ∈ (setbacks (j.transcript w)).zip (setbacks (j.transcript v)), p.1 = p.2) →
      (j.run v).1 = (j.run w).1 ∧ (j.run v).2.store = (j.run w).2.store ∧
      (j.run v).2.desk.tickets = (j.run w).2.desk.tickets ∧
      (j.run v).2.desk.transfers = (j.run w).2.desk.transfers ∧
      posts (j.transcript v) = posts (j.transcript w) ∧
      Says (r.utterance now text w ticketId) (j.transcript w) := by
  intro v j hlost
  have hscene : w.SameScene v := ⟨rfl, rfl, rfl, rfl, rfl, rfl, halone, halone⟩
  obtain ⟨hresult, hend, hposts⟩ :=
    (incoming_tallies r messageId text now ticketId).run hscene hlost
  obtain ⟨s?, hs⟩ := r.incoming_ends now messageId text ticketId w
  obtain ⟨s?', hs'⟩ := r.incoming_ends now messageId text ticketId v
  rw [hs, hs'] at hresult
  refine ⟨?_, hend.store, hend.tickets, hend.transfers, hposts, ?_⟩
  · exact hs'.trans ((congrArg Except.ok hresult.symm).trans hs.symm)
  · exact r.incoming_voices now messageId text ticketId w

end Reception

/-- Where nothing fails but sendings there are no setbacks. -/
theorem Service.Exchange.setbacks_eq_false {α : Type} (j : Job α) {w : World}
    (h : ∀ n r, r.isSending = false → w.trouble.outage n r = false) :
    ∀ b ∈ setbacks (j.transcript w), b = false := by
  induction j generalizing w with
  | done a | failed e => exact fun _ hb => nomatch hb
  | ask r next ih =>
    have hrest := ih (w.answer r).1 (w := (w.answer r).2) (by rwa [(w.answer_trouble r).1])
    rw [Job.transcript, setbacks_cons]
    split
    next hessential =>
      have hkind : r.isSending = false := by simpa using (Bool.and_eq_true_iff.1 hessential).2
      refine List.forall_mem_cons.2 ⟨?_, hrest⟩
      rw [World.isLost_answer, World.fails, h _ _ hkind, Bool.and_false]
    next => exact hrest

theorem Service.Exchange.setbacks_agree {α : Type} (j : Job α) {w v : World}
    (h : ∀ n r, r.isSending = false → w.trouble.outage n r = false)
    (h' : ∀ n r, r.isSending = false → v.trouble.outage n r = false) :
    ∀ p ∈ (setbacks (j.transcript w)).zip (setbacks (j.transcript v)), p.1 = p.2 := by
  intro p hp
  obtain ⟨hp₁, hp₂⟩ := List.of_mem_zip hp
  rw [setbacks_eq_false j h _ hp₁, setbacks_eq_false j h' _ hp₂]

/-- An office from which nothing gets out. -/
def muteOffice : World :=
  { office with trouble := { outage := fun _ r => r.isSending } }

/-- A conversation is opened there as it is where messages get through. -/
theorem muteOffice_heedless :
    let j := ({} : Reception).incoming (.utc 1) "ticket" "m1" "Hi"
    (∀ p ∈ (setbacks (j.transcript office)).zip (setbacks (j.transcript muteOffice)),
        p.1 = p.2) ∧
      (j.run muteOffice).1 = (j.run office).1 ∧
      (j.run muteOffice).2.store = (j.run office).2.store ∧
      posts (j.transcript muteOffice) = posts (j.transcript office) ∧
      (posts (j.transcript office)).length = 4 ∧
      (j.run office).2.desk.delivered = [("ticket", "Hello"), ("ticket", "Done?\n1. Yes")] ∧
      (j.run muteOffice).2.desk.delivered = [] := by
  intro j
  have hsame : ∀ p ∈ (setbacks (j.transcript office)).zip (setbacks (j.transcript muteOffice)),
      p.1 = p.2 :=
    setbacks_agree j (fun _ _ _ => rfl) fun _ _ h => h
  obtain ⟨hresult, hstore, -, -, hposts, -⟩ := Reception.incoming_heedless {} (.utc 1) "m1"
    "Hi" "ticket" (w := office) rfl (fun _ r => r.isSending) hsame
  exact ⟨hsame, hresult, hstore, hposts, by decide +kernel, by decide +kernel, by decide +kernel⟩

end FrontDesk
