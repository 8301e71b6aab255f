/-
When a contact meets with silence.

There is always something to say: outside operating hours the words of the flow or of the house,
and to an answer that is refused the words of the node or of the rule that failed. They are chosen
for not being empty, but sent only for what is left of them when they are trimmed. So an author who
wrote nothing but blanks has the contact hear nothing (`Reception.hushed_unheard`); whatever else
was written, or left to the house, the contact hears one thing (`Reception.incoming_heard`).
-/
import FrontDesk.Proofs.Catalog.Proper
import FrontDesk.Proofs.Conversation.Refusal
import FrontDesk.Proofs.Service.Turnout

namespace FrontDesk

open Calendar Service Service.Exchange

/-! ## What is delivered -/

/-- The message that a request is to deliver, with its ticket. -/
def Service.Request.delivers? : Service.Request → Option (String × String)
  | .desk (.deliver t body) => some (t.id, body)
  | _ => none

theorem World.delivered_answer (w : World) {r : Service.Request} {a : r.Answer}
    (h : (w.answer r).1 = .ok a) :
    (w.answer r).2.desk.delivered = w.desk.delivered ++ r.delivers?.toList := by
  cases r with
  | log level text | newFlowId => exact (List.append_nil _).symm
  | store r =>
    rw [w.answer_store_desk r]
    exact (List.append_nil _).symm
  | desk r =>
    rcases w.answer_desk r with hlost | ⟨x, id, -, hdesk⟩
    · rw [hlost] at h
      cases h
    · rw [hdesk]
      cases r <;> simp [Helpdesk.Desk.answer, Request.delivers?]

/-- Where all requests are granted, what they were to deliver is delivered. -/
theorem Job.delivered_run {α : Type} {j : Job α} {w : World}
    (h : ∀ x ∈ j.transcript w, x.isGranted = true) :
    (j.run w).2.desk.delivered =
      w.desk.delivered ++ (posts (j.transcript w)).filterMap Service.Request.delivers? := by
  induction j generalizing w with
  | done a | failed e => exact (List.append_nil _).symm
  | ask r next ih =>
    obtain ⟨hr, hrest⟩ := List.forall_mem_cons.1 h
    have hfirst : (w.answer r).2.desk.delivered = w.desk.delivered ++ r.delivers?.toList := by
      cases hx : (w.answer r).1 with
      | ok a => exact w.delivered_answer hx
      | error e =>
        rw [isGranted, hx] at hr
        cases hr
    have hposts : (posts ((ask r next).transcript w)).filterMap Request.delivers? =
        r.delivers?.toList ++
          (posts ((next (w.answer r).1).transcript (w.answer r).2)).filterMap
            Request.delivers? := by
      rw [transcript, posts_cons]
      split
      next => cases hd : r.delivers? <;> simp [hd]
      next hpost =>
        have hd : r.delivers? = none := by
          cases r with
          | store | log | newFlowId => rfl
          | desk r =>
            cases r with
            | deliver t body => exact absurd rfl hpost
            | _ => rfl
        rw [hd]
        rfl
    rw [hposts, ← List.append_assoc, ← hfirst]
    exact ih _ hrest

/-! ## What is said when an answer is refused -/

/-- An answer is refused in the words of the node that waits for it, or else in words that are not
blank, and nothing more is said. -/
theorem Graph.Refuses.said {g : Graph} {s : State} {incoming : Incoming} {o : Outcome}
    (h : g.Refuses s incoming o) :
    ∃ n kind default, s.waiting = some ⟨n.id, kind⟩ ∧ g.node? n.id = some n ∧
      Text.trim default ≠ "" ∧ o.said = [⟨n.id, n.refusal?.getD default⟩] := by
  obtain ⟨n, kind, default, hw, hn, hdefault, rfl⟩ := h.outcome
  exact ⟨n, kind, default, hw, hn, hdefault, rfl⟩

/-! ## What the contact is told -/

theorem ok_of_toOption {ε α : Type} {x : Except ε α} {a : α} (h : x.toOption = some a) :
    x = .ok a := by
  cases x with
  | error e => cases h
  | ok b => exact congrArg Except.ok (Option.some.inj h)

/-- The words an author has for those who write outside operating hours. -/
def Flow.awayWords? (f : Flow) : Option String :=
  ((Schedule.ofJson f.scheduleJson).bind (·.fallback)) <|> (f.offlineMessage.bind Text.nonempty?)

/-- A contact was to be told one thing, for which the author may have given the words: one message
that is not blank has been delivered, or none if these words were. -/
structure World.Told (w w' : World) (t : Ticket) (words : Option String) : Prop where
  heard : (∀ said, words = some said → Text.trim said ≠ "") →
    ∃ body, Text.trim body ≠ "" ∧ w'.desk.delivered = w.desk.delivered ++ [(t.id, body)]
  unheard : ∀ said, words = some said → Text.trim said = "" →
    w'.desk.delivered = w.desk.delivered

namespace Reception

open Job

/-- A message that opens a conversation is one for a flow outside its operating hours. -/
structure OutOfHours (r : Reception) (now : Moment) (st : Store) (text : String) (f : Flow) :
    Prop where
  selected : ∃ fs, st.activeFlows = .ok fs ∧ selectFlow fs text = some f
  graph : ∃ g, Graph.ofJson (.object f.definition) = .ok g
  closed : Schedule.isOpenBy r.zones (Schedule.ofJson f.scheduleJson) now = .ok false

/-- A message on a ticket is an answer that is refused in the session that goes on there. -/
structure Refused (r : Reception) (now : Moment) (w : World) (text : String) (t : Ticket)
    (s : Session) (o : Outcome) : Prop where
  active : w.store.activeSession t.id w.clock = .ok (some s)
  reply : r.reply? now w.store text s = some o
  retries : o.retries ≠ []

variable (r : Reception) (now : Moment) (messageId text ticketId : String) {w : World} {t : Ticket}

theorem reply?_eq_some {st : Store} {s : Session} {o : Outcome}
    (h : r.reply? now st text s = some o) :
    ∃ f g, st.flow? s.flowId = some f ∧ Graph.ofJson (.object f.definition) = .ok g ∧
      g.run r.limit now.isoText s.state s.currentNode (.answer text) = .ok o := by
  obtain ⟨f, hf, h⟩ := Option.bind_eq_some_iff.1 h
  obtain ⟨g, hg, h⟩ := Option.bind_eq_some_iff.1 h
  exact ⟨f, g, hf, ok_of_toOption hg, ok_of_toOption h⟩

theorem filterMap_postsOf (t : Ticket) (m : Outbound) :
    (postsOf t [m]).filterMap Service.Request.delivers? =
      ((Text.trimmed? m.message).map (t.id, ·)).toList := by
  cases hm : Text.trimmed? m.message with
  | none => simp [postsOf, hm]
  | some content =>
    simp only [postsOf, List.filterMap_cons, hm]
    rfl

/-- Where all requests are granted, what is to be said about a message is delivered. -/
theorem incoming_delivers (ht : w.desk.tickets.find? ticketId = some t) {ms : List Outbound}
    (hsaid : r.saidOn? now w.store text t w.clock = some ms)
    (hgranted : ∀ x ∈ (r.incoming now ticketId messageId text).transcript w, x.isGranted = true) :
    ((r.incoming now ticketId messageId text).run w).2.desk.delivered =
      w.desk.delivered ++ (postsOf t ms).filterMap Service.Request.delivers? := by
  rw [Job.delivered_run hgranted]
  have hutterance : r.utterance now text w ticketId = postsOf t ms := by
    simp [utterance, ht, hsaid]
  rcases r.incoming_voices now messageId text ticketId w with hposts | ⟨-, x, hx, -, hrefused⟩
  · rw [hposts, hutterance]
  · rw [hgranted x hx] at hrefused
    cases hrefused

theorem incoming_tells (ht : w.desk.tickets.find? ticketId = some t) {node : String}
    {words : Option String} {default : String} (hdefault : words = none → Text.trim default ≠ "")
    (hsaid : r.saidOn? now w.store text t w.clock = some [⟨node, words.getD default⟩])
    (hgranted : ∀ x ∈ (r.incoming now ticketId messageId text).transcript w, x.isGranted = true) :
    w.Told ((r.incoming now ticketId messageId text).run w).2 t words := by
  have hdelivered := r.incoming_delivers now messageId text ticketId ht hsaid hgranted
  rw [filterMap_postsOf] at hdelivered
  constructor
  · intro hwords
    have hne : Text.trim (words.getD default) ≠ "" := by
      cases words with
      | none => exact hdefault rfl
      | some said => exact hwords said rfl
    refine ⟨Text.trim (words.getD default), by rwa [Text.trim_trim], ?_⟩
    rw [hdelivered, Text.trimmed?_of_ne hne]
    rfl
  · rintro said rfl hblank
    rw [hdelivered, Option.getD_some, Text.trimmed?_eq_none.2 hblank]
    exact List.append_nil _

end Reception

/-! ## Outside operating hours -/

/-- Terms for one who asks nothing of the store. -/
def unstoredTerms : Terms where
  may
    | .store _ => False
    | _ => True
  gives _ _ := True

theorem unstoredTerms_letsSend (now : Moment) : unstoredTerms.LetsSend now none where
  log _ _ := trivial
  desk _ := trivial
  record _ _ h := nomatch h

theorem Job.pure_bind {α β : Type} (a : α) (f : α → Job β) : (pure a >>= f) = f a := rfl

/-- The job comes to nothing, and leaves the store so. -/
structure Job.Lapses (st : Store) (j : Job (Option Session)) (w : World) : Prop where
  behaves : j.Behaves (fun _ _ => True) (fun s? w' => s? = none ∧ w'.store = st)
    (fun _ w' => w'.store = st) w

namespace Job.Lapses

variable {w : World} {st : Store}

theorem lookup (hst : w.store = st) {r : Store.Request} {x : Except Store.Fault r.Answer}
    (h : ∀ id, w.store.answer w.clock id r = (x, w.store)) {f : r.Answer → Job (Option Session)}
    (hok : ∀ a w', x = .ok a → w'.store = st → w'.trouble = w.trouble → (f a).Lapses st w') :
    (Job.store r >>= f).Lapses st w := by
  have hkept : (w.answer (.store r)).2.store = st := (World.store_lookup h).trans hst
  refine ⟨.bind (m := fun a w' => x = .ok a ∧ w'.store = st ∧ w'.trouble = w.trouble)
    (Behaves.request (r := .store r) trivial (fun a ha => ?_) fun _ _ => hkept)
    fun a w' ha => (hok a w' ha.1 ha.2.1 ha.2.2).behaves⟩
  obtain ⟨ids, -, hx⟩ := World.answer_of_ok ha
  rw [h] at hx
  exact ⟨hx, hkept, (w.answer_trouble _).1⟩

theorem ticket (hst : w.store = st) {id : String} {f : Option Ticket → Job (Option Session)}
    (h : ∀ w', w'.store = st → w'.clock = w.clock → w'.trouble = w.trouble →
      (f (w.desk.tickets.find? id)).Lapses st w') :
    (Job.desk (.ticket id) >>= f).Lapses st w := by
  have hkept : (w.answer (.desk (.ticket id))).2.store = st := (w.store_ticket id).trans hst
  refine ⟨.bind (m := fun t? w' => t? = w.desk.tickets.find? id ∧ w'.store = st ∧
      w'.clock = w.clock ∧ w'.trouble = w.trouble)
    (Behaves.request (r := .desk (.ticket id)) trivial (fun t? ht => ?_) fun _ _ => hkept) ?_⟩
  · exact ⟨(World.ticket_of_answer ht).symm, hkept, (w.answer_trouble _).2,
      (w.answer_trouble _).1⟩
  · rintro _ w' ⟨rfl, hstore, hclock, htrouble⟩
    exact (h w' hstore hclock htrouble).behaves

theorem log (hst : w.store = st) {level : Level} {text : String}
    {f : Unit → Job (Option Session)}
    (h : ∀ w', w'.store = st → w'.trouble = w.trouble → (f ()).Lapses st w') :
    (Job.log level text >>= f).Lapses st w :=
  ⟨.bind (m := fun _ w' => w'.store = st ∧ w'.trouble = w.trouble)
    (Behaves.request (r := .log level text) trivial (fun _ _ => ⟨hst, rfl⟩) fun _ _ => hst)
    fun _ w' hw' => (h w' hw'.1 hw'.2).behaves⟩

theorem unstored {α : Type} {wanted : α → Prop} {j : Job α} (hst : w.store = st)
    (halone : w.trouble.rivalSaves = false) (h : j.Keeps unstoredTerms wanted) :
    (j >>= fun _ => return none).Lapses st w := by
  have hkept : w.store = st ∧ w.trouble.rivalSaves = false := ⟨hst, halone⟩
  refine ⟨.bind (h.behaves (p := fun w' => w'.store = st ∧ w'.trouble.rivalSaves = false)
    (fun w' r hw' hr => ⟨trivial, ⟨?_, ?_⟩, fun _ _ => trivial⟩) hkept |>.mono
    (fun _ _ h => h) (fun _ _ h => h) fun _ _ h => h.1) fun _ _ h => .pure ⟨rfl, h.2.1⟩⟩
  · cases r with
    | store r => cases hr
    | desk r => exact (World.store_desk hw'.2 r).trans hw'.1
    | log | newFlowId => exact hw'.1
  · rw [(w'.answer_trouble r).1]
    exact hw'.2

end Job.Lapses

namespace Reception

open Job

variable (r : Reception) (now : Moment) (messageId text ticketId : String) {w : World} {t : Ticket}
  {f : Flow}

/-- A message is told of the hours in which nobody is there, and comes to nothing. -/
theorem openWith_lapses (halone : w.trouble.rivalSaves = false)
    (h : r.OutOfHours now w.store text f) : (r.openWith now t messageId text).Lapses w.store w := by
  obtain ⟨fs, hfs, hf⟩ := h.selected
  have hne : fs.isEmpty = false := by
    cases fs with
    | nil => simp [selectFlow] at hf
    | cons => rfl
  obtain ⟨g, hg⟩ := h.graph
  have hgraph : graphOf f = pure (some g) := by
    unfold graphOf
    rw [hg]
  have hnobody : Job.ofExcept .schedule
      (Schedule.isOpenBy r.zones (Schedule.ofJson f.scheduleJson) now) = pure false := by
    rw [h.closed]
    rfl
  unfold openWith
  refine .lookup rfl (fun id => Store.answer_activeFlows) fun fs' w₁ hfs' hstore htrouble => ?_
  obtain rfl : fs = fs' := by
    rw [hfs] at hfs'
    exact Except.ok.inj hfs'
  simp only [hne, hf, hgraph, hnobody, Job.pure_bind, Bool.false_eq_true, if_false]
  refine .log hstore fun w₂ hstore htrouble₂ => ?_
  exact .unstored hstore (by rw [htrouble₂, htrouble, halone])
    (dispatch_keeps (unstoredTerms_letsSend now) _)

theorem incoming_lapses (halone : w.trouble.rivalSaves = false)
    (ht : w.desk.tickets.find? ticketId = some t) (hagent : t.hasAgent = false)
    (hidle : w.store.activeSession t.id w.clock = .ok none) (h : r.OutOfHours now w.store text f) :
    (r.incoming now ticketId messageId text).Lapses w.store w := by
  have hprocess : (r.process now ticketId messageId text).Lapses w.store w := by
    unfold process
    refine .ticket rfl fun w₁ hstore hclock htrouble => ?_
    simp only [ht, hagent, Bool.false_eq_true, if_false]
    refine .lookup hstore (fun id => Store.answer_activeSession_eq _ _ id t.id) ?_
    intro s? w₂ hs hstore₂ htrouble₂
    rw [hstore, hclock, hidle] at hs
    cases hs
    rw [← hstore₂] at h ⊢
    exact r.openWith_lapses now messageId text (by rw [htrouble₂, htrouble, halone]) h
  exact ⟨.orLog hprocess.behaves fun w' hw' => Behaves.request (r := .log _ _) trivial
    (fun _ _ => ⟨rfl, hw'⟩) fun _ _ => hw'⟩

theorem saidOn?_outOfHours (hagent : t.hasAgent = false)
    (hidle : w.store.activeSession t.id w.clock = .ok none) (h : r.OutOfHours now w.store text f) :
    r.saidOn? now w.store text t w.clock =
      some [⟨"", f.awayWords?.getD r.offlineMessage⟩] := by
  obtain ⟨fs, hfs, hf⟩ := h.selected
  obtain ⟨g, hg⟩ := h.graph
  simp [saidOn?, hagent, hidle, welcome?, hfs, hf, hg, h.closed, Except.toOption]
  rfl

/-- **The contact is told one thing**, where no agent is in charge of the ticket, all requests are
granted, nobody else is at work and the house has something to say: outside operating hours, and
then no session comes of it and nothing is put on record; and when the answer that a session waits
for is refused. The words are those of the author if there are any, and if these are not blank they
are heard; if they are nothing is, though others would have been at hand. -/
theorem incoming_heard (halone : w.trouble.rivalSaves = false)
    (hhouse : Text.trim r.offlineMessage ≠ "")
    (ht : w.desk.tickets.find? ticketId = some t) (hagent : t.hasAgent = false)
    (hgranted : ∀ x ∈ (r.incoming now ticketId messageId text).transcript w, x.isGranted = true) :
    let after := (r.incoming now ticketId messageId text).run w
    (∀ f, w.store.activeSession t.id w.clock = .ok none → r.OutOfHours now w.store text f →
      after.1 = .ok none ∧ after.2.store = w.store ∧ w.Told after.2 t f.awayWords?) ∧
      ∀ s o, r.Refused now w text t s o →
        ∃ f g n kind, w.store.flow? s.flowId = some f ∧
          Graph.ofJson (.object f.definition) = .ok g ∧
          s.state.waiting = some ⟨n.id, kind⟩ ∧ g.node? n.id = some n ∧
          w.Told after.2 t n.refusal? := by
  intro after
  constructor
  · intro f hidle h
    obtain ⟨s?, hs⟩ := r.incoming_ends now messageId text ticketId w
    obtain ⟨rfl, hstore⟩ :=
      (r.incoming_lapses now messageId text ticketId halone ht hagent hidle
        h).behaves.run.1 s? hs
    exact ⟨hs, hstore, r.incoming_tells now messageId text ticketId ht (fun _ => hhouse)
      (r.saidOn?_outOfHours now text hagent hidle h) hgranted⟩
  · intro s o h
    have hsaid : r.saidOn? now w.store text t w.clock = some o.said := by
      simp [saidOn?, hagent, h.active, h.reply, Except.toOption]
    obtain ⟨f, g, hf, hg, hrun⟩ := r.reply?_eq_some now text h.reply
    rcases Graph.run_cases hrun with ⟨way, -, rfl⟩ | hrefuses
    · exact absurd rfl h.retries
    obtain ⟨n, kind, default, hw, hn, hdefault, hwords⟩ := hrefuses.said
    rw [hwords] at hsaid
    exact ⟨f, g, n, kind, hf, hg, hw, hn,
      r.incoming_tells now messageId text ticketId ht (fun _ => hdefault) hsaid hgranted⟩

end Reception

/-- A flow that asks one question and keeps hours on Mondays, with the words for who writes outside
them and for who answers something else. -/
def mondays (away again : String) : Flow :=
  { parting with
    definition := [("entryNodeId", .string "ask"), ("nodes", .list [
      .object [("id", .string "ask"), ("type", .string "question"), ("content", .string "Done?"),
        ("retryMessage", .string again), ("options", .list [
          .object [("value", .string "yes"), ("label", .string "Yes")]])]])]
    schedule := some [("fallbackMessage", .string away), ("windows", .list [
      .object [("days", .list [.int 1]), ("start", .string "08:00"), ("end", .string "18:00")]])] }

/-- A ticket of a contact. -/
def visit (id : String) : Ticket := { id, contactId := "contact" }

/-- An office with that flow, on a Thursday, and two tickets; on one of them the question is out. -/
def thursday (away again : String) : World where
  clock := .utc 5
  store := .memory { flows := [("flow", mondays away again)], sessions := [("s", doubtful)] }
  desk := { tickets := [("ticket", visit "ticket"), ("other", visit "other")] }

namespace Reception

theorem house_speaks : Text.trim ({} : Reception).offlineMessage ≠ "" := by decide +kernel

theorem thursday_outOfHours (away again : String) :
    ({} : Reception).OutOfHours (.utc 1) (thursday away again).store "Hi"
      (mondays away again) where
  selected := ⟨[mondays away again],
    by simp [thursday, Store.activeFlows, Store.Memory.ordered, Flow.areComparable,
      Flow.considered, Flow.newestFirst, Flow.leading, Entries.values, parting, mondays],
    by simp [selectFlow, Flow.isCalledBy, parting, mondays]⟩
  graph := ⟨_, rfl⟩
  closed := rfl

theorem thursday_refused (away again : String)
    (h : ((({} : Reception).reply? (.utc 1) (thursday away again).store "Maybe" doubtful).map
      (·.retries.isEmpty)) = some false) :
    ∃ o, ({} : Reception).Refused (.utc 1) (thursday away again) "Maybe" (visit "ticket") doubtful
      o := by
  obtain ⟨o, ho, hretries⟩ := Option.map_eq_some_iff.1 h
  exact ⟨o, rfl, ho, by simpa using hretries⟩

/-- Each contact is told there what the author has for it. -/
theorem thursday_heard :
    let w := thursday "Back on Monday." " Yes or no? "
    let r : Reception := {}
    let away := r.incoming (.utc 1) "other" "m1" "Hi"
    let refused := r.incoming (.utc 1) "ticket" "m2" "Maybe"
    w.trouble.rivalSaves = false ∧ Text.trim r.offlineMessage ≠ "" ∧
      (∀ x ∈ away.transcript w, x.isGranted = true) ∧
      (∀ x ∈ refused.transcript w, x.isGranted = true) ∧
      (away.run w).2.store = w.store ∧
      w.Told (away.run w).2 (visit "other") (some "Back on Monday.") ∧
      (away.run w).2.desk.delivered = [("other", "Back on Monday.")] ∧
      (∃ n : Node, w.Told (refused.run w).2 (visit "ticket") n.refusal?) ∧
      (refused.run w).2.desk.delivered = [("ticket", "Yes or no?")] := by
  intro w r away refused
  have hhouse : Text.trim r.offlineMessage ≠ "" := house_speaks
  have haway : ∀ x ∈ away.transcript w, x.isGranted = true := by decide +kernel
  have hrefused : ∀ x ∈ refused.transcript w, x.isGranted = true := by decide +kernel
  obtain ⟨-, hstore, htold⟩ :=
    (r.incoming_heard (.utc 1) "m1" "Hi" "other" (w := w) rfl hhouse rfl rfl haway).1 _ rfl
      (thursday_outOfHours "Back on Monday." " Yes or no? ")
  obtain ⟨o, ho⟩ := thursday_refused "Back on Monday." " Yes or no? " (by decide +kernel)
  obtain ⟨f, g, n, kind, -, -, -, -, htold'⟩ :=
    (r.incoming_heard (.utc 1) "m2" "Maybe" "ticket" (w := w) rfl hhouse rfl rfl hrefused).2 _ o ho
  exact ⟨rfl, hhouse, haway, hrefused, hstore, htold, by decide +kernel, ⟨n, htold'⟩,
    by decide +kernel⟩

/-- **Where the author wrote blanks the contacts are met with silence**: nothing fails there, the
house has something to say, it is out of hours for the one, and the answer of the other is
refused. -/
theorem hushed_unheard :
    let w := thursday " " "\t"
    let r : Reception := {}
    let away := r.incoming (.utc 1) "other" "m1" "Hi"
    let refused := r.incoming (.utc 1) "ticket" "m2" "Maybe"
    w.trouble.rivalSaves = false ∧ Text.trim r.offlineMessage ≠ "" ∧
      (∀ x ∈ away.transcript w, x.isGranted = true) ∧
      (∀ x ∈ refused.transcript w, x.isGranted = true) ∧
      w.store.activeSession "other" w.clock = .ok none ∧
      r.OutOfHours (.utc 1) w.store "Hi" (mondays " " "\t") ∧
      (away.run w).2.desk.delivered = [] ∧
      (∃ o, r.Refused (.utc 1) w "Maybe" (visit "ticket") doubtful o) ∧
      (refused.run w).2.desk.delivered = [] :=
  ⟨rfl, house_speaks, by decide +kernel, by decide +kernel, rfl,
    thursday_outOfHours " " "\t", by decide +kernel, thursday_refused " " "\t" (by decide +kernel),
    by decide +kernel⟩

end Reception

end FrontDesk
