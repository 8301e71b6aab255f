/-
Sending, which decides nothing.

Messages are stored and delivered, listeners are told, and the activity on a ticket is noted; whether
any of it works out makes no difference to the conversation. Two runs in which other requests fail
alike tally (`Job.Tallies`): they ask the same of the store and of the tickets, they attempt to send
the same messages, and they come to the same end, whichever sendings fail in either of them.
-/
import FrontDesk.Proofs.Service.Record
import FrontDesk.Proofs.Service.Transcript

namespace FrontDesk

open Calendar Service

/-! ## Kinds of requests -/

namespace Service.Request

/-- Whether a request only passes something on, to the contact or to others. -/
def isSending : Request → Bool
  | .desk (.persist ..) | .desk (.deliver ..) | .desk (.notify ..) | .desk (.touch ..) => true
  | _ => false

/-- Whether a request is for a message to be stored or delivered. -/
def isPost : Request → Bool
  | .desk (.persist ..) | .desk (.deliver ..) => true
  | _ => false

/-- Whether a request tells those who have no say: listeners, or readers of the log. -/
def isAside : Request → Bool
  | .desk (.notify ..) | .log .. => true
  | _ => false

/-- Whether a request says something, to the contact, to others, for the record or for the log. -/
def isSpeech : Request → Bool
  | .store (.record i) => i.sender == .bot
  | .log .. => true
  | r => r.isSending

end Service.Request

/-- Whether a request was lost, with nothing done about it. -/
def Service.isLost {α : Type} : Except Failure α → Bool
  | .error .outage => true
  | _ => false

namespace Service.Exchange

/-- Whether the conversation depends on the answer. -/
def isEssential (x : Exchange) : Bool := World.isOutside x.request && !x.request.isSending

/-- The messages to be stored and delivered, whether they were or not. -/
def posts (xs : List Exchange) : List Request := (xs.map request).filter Request.isPost

/-- Which of the essential requests were lost. -/
def setbacks (xs : List Exchange) : List Bool :=
  (xs.filter isEssential).map fun x => isLost x.answer

theorem posts_append (xs ys : List Exchange) : posts (xs ++ ys) = posts xs ++ posts ys := by
  simp [posts]

theorem posts_cons (x : Exchange) (xs : List Exchange) :
    posts (x :: xs) = if x.request.isPost then x.request :: posts xs else posts xs := by
  simp [posts, List.filter_cons]

theorem setbacks_cons (x : Exchange) (xs : List Exchange) :
    setbacks (x :: xs) = if x.isEssential then isLost x.answer :: setbacks xs else setbacks xs := by
  rw [setbacks, List.filter_cons]
  split <;> rfl

end Service.Exchange

open Service.Exchange

/-! ## Scenes -/

/-- Two worlds with the same records and tickets, in which nobody else is at work. -/
structure World.SameScene (w v : World) : Prop where
  clock : v.clock = w.clock
  store : v.store = w.store
  tickets : v.desk.tickets = w.desk.tickets
  transfers : v.desk.transfers = w.desk.transfers
  sessionIds : v.sessionIds = w.sessionIds
  flowIds : v.flowIds = w.flowIds
  alone : w.trouble.rivalSaves = false
  alone' : v.trouble.rivalSaves = false

namespace World

variable {w v : World} {r : Request}

theorem isLost_perform (w : World) (r : Request) : isLost (w.perform r).1 = false := by
  cases r with
  | store r =>
    simp only [perform]
    cases (w.askStore r).1 <;> rfl
  | desk | log | newFlowId => rfl

theorem isLost_answer (w : World) (r : Request) :
    isLost (w.answer r).1 = w.fails r := by
  rw [answer_eq]
  split
  next hfails => exact hfails.symm
  next hkept => rw [isLost_perform, eq_false_of_ne_true hkept]

/-- A request is lost, or it is dealt with as if nothing could be. -/
theorem answer_cases (w : World) (r : Request) :
    (isLost (w.answer r).1 = true ∧
        w.answer r = (.error .outage, { w with asked := w.asked + 1 })) ∨
      (isLost (w.answer r).1 = false ∧ w.answer r = perform { w with asked := w.asked + 1 } r) := by
  rw [answer_eq]
  split
  · exact .inl ⟨rfl, rfl⟩
  · exact .inr ⟨isLost_perform _ r, rfl⟩

namespace SameScene

theorem symm (h : SameScene w v) : SameScene v w :=
  ⟨h.clock.symm, h.store.symm, h.tickets.symm, h.transfers.symm, h.sessionIds.symm,
    h.flowIds.symm, h.alone', h.alone⟩

theorem asked (h : SameScene w v) (n n' : Nat) :
    SameScene { w with asked := n } { v with asked := n' } := { h with }

theorem left (h : SameScene w v) (hr : r.isSending = true ∨ r.isAside = true) :
    SameScene (w.answer r).2 v := by
  have halone := h.alone
  rcases w.answer_cases r with ⟨-, hanswer⟩ | ⟨-, hanswer⟩
  · rw [hanswer]
    exact { h with }
  · rw [hanswer]
    cases r with
    | store | newFlowId => simp [Request.isSending, Request.isAside] at hr
    | log level text => exact { h with }
    | desk r =>
      cases r with
      | ticket | transfer => simp [Request.isSending, Request.isAside] at hr
      | deliver t body =>
        simp only [perform, askDesk, interfere, halone, Bool.false_eq_true, if_false]
        exact { h with }
      | persist | notify | touch => exact { h with }

theorem right (h : SameScene w v) (hr : r.isSending = true ∨ r.isAside = true) :
    SameScene w (v.answer r).2 :=
  (h.symm.left hr).symm

theorem perform (h : SameScene w v) (hr : r.isSending = false) :
    (v.perform r).1 = (w.perform r).1 ∧ SameScene (w.perform r).2 (v.perform r).2 := by
  cases r with
  | store r =>
    simp only [World.perform, askStore, h.clock, h.store, h.sessionIds]
    exact ⟨trivial, { h with clock := rfl, store := rfl, sessionIds := rfl }⟩
  | log | newFlowId => exact ⟨by simp [World.perform, h.flowIds], { h with flowIds := by simp [World.perform, h.flowIds] }⟩
  | desk r =>
    cases r with
    | persist | deliver | notify | touch => cases hr
    | ticket id =>
      refine ⟨?_, { h with }⟩
      simp only [World.perform, askDesk, interfere, withhold, Helpdesk.Desk.answer, h.tickets]
      exact congrArg Except.ok ((ite_self _).trans (ite_self _).symm)
    | transfer t queue =>
      refine ⟨congrArg Except.ok ((ite_self _).trans (ite_self _).symm), { h with
        tickets := ?_
        transfers := ?_ }⟩
      · simp [World.perform, askDesk, interfere, Helpdesk.Desk.answer, h.tickets]
      · simp [World.perform, askDesk, interfere, Helpdesk.Desk.answer, h.transfers]

/-- What is asked of both is answered alike, if both of them lose it or neither does. -/
theorem answer (h : SameScene w v) (hr : r.isSending = false)
    (hlost : isLost (w.answer r).1 = isLost (v.answer r).1) :
    (v.answer r).1 = (w.answer r).1 ∧ SameScene (w.answer r).2 (v.answer r).2 := by
  have hasked := h.asked (w.asked + 1) (v.asked + 1)
  rcases w.answer_cases r with ⟨hw, hanswer⟩ | ⟨hw, hanswer⟩ <;>
    rcases v.answer_cases r with ⟨hv, hanswer'⟩ | ⟨hv, hanswer'⟩
  · rw [hanswer, hanswer']
    exact ⟨rfl, hasked⟩
  · rw [hw, hv] at hlost
    cases hlost
  · rw [hw, hv] at hlost
    cases hlost
  · rw [hanswer, hanswer']
    exact hasked.perform hr

end SameScene

theorem isLost_inside (w : World) (h : isOutside r = false) : isLost (w.answer r).1 = false := by
  rw [isLost_answer, fails, h, Bool.false_and]

theorem answer_inside (w : World) (h : isOutside r = false) : ∃ a, (w.answer r).1 = .ok a := by
  cases r with
  | store | desk => cases h
  | log | newFlowId => exact ⟨_, rfl⟩

end World

/-! ## Runs that tally -/

namespace Job

/-- Two jobs that ask alike, but that what is passed on may work out in one and not in the other. -/
inductive Tallies {α β : Type} (R : α → β → Prop) : Job α → Job β → Prop where
  | done {a : α} {b : β} (related : R a b) : Tallies R (.done a) (.done b)
  | failed {e e' : Failure} : Tallies R (.failed e) (.failed e')
  | ask {r : Request} {next : Except Failure r.Answer → Job α}
      {next' : Except Failure r.Answer → Job β} (asks : r.isSending = false)
      (goesOn : ∀ x, Tallies R (next x) (next' x)) : Tallies R (.ask r next) (.ask r next')
  | send {r : Request} {next : Except Failure r.Answer → Job α}
      {next' : Except Failure r.Answer → Job β} (sends : r.isSending = true)
      (goesOn : ∀ x x', Tallies R (next x) (next' x')) : Tallies R (.ask r next) (.ask r next')
  | left {r : Request} {next : Except Failure r.Answer → Job α} {j' : Job β}
      (aside : r.isAside = true)
      (goesOn : ∀ x, (World.isOutside r = false → ∃ a, x = .ok a) → Tallies R (next x) j') :
      Tallies R (.ask r next) j'
  | right {r : Request} {j : Job α} {next' : Except Failure r.Answer → Job β}
      (aside : r.isAside = true)
      (goesOn : ∀ x, (World.isOutside r = false → ∃ a, x = .ok a) → Tallies R j (next' x)) :
      Tallies R j (.ask r next')

/-- Both succeed, with related results, or neither does. -/
def Agree {α β : Type} (R : α → β → Prop) : Except Failure α → Except Failure β → Prop
  | .ok a, .ok b => R a b
  | .error _, .error _ => True
  | _, _ => False

/-- Two runs come to the same, and they attempted to send the same messages. -/
structure Tallied {α β : Type} (R : α → β → Prop) (j : Job α) (j' : Job β) (w v : World) :
    Prop where
  result : Agree R (j.run w).1 (j'.run v).1
  scene : World.SameScene (j.run w).2 (j'.run v).2
  posts : posts (j'.transcript v) = posts (j.transcript w)

namespace Tallies

variable {α β γ δ : Type} {R : α → β → Prop} {S : γ → δ → Prop} {j : Job α} {j' : Job β}
  {w v : World}

theorem isEssential_aside {r : Request} (h : r.isAside = true) (x : Except Failure r.Answer) :
    Exchange.isEssential ⟨r, x⟩ = false ∧ r.isPost = false := by
  cases r with
  | log => exact ⟨rfl, rfl⟩
  | store | newFlowId => cases h
  | desk r =>
    cases r with
    | notify => exact ⟨rfl, rfl⟩
    | ticket | transfer | persist | deliver | touch => cases h

/-- **Runs tally if they have the same setbacks**, as far as both have any. -/
theorem run (h : Tallies R j j') (hscene : w.SameScene v)
    (hlost : ∀ p ∈ (setbacks (j.transcript w)).zip (setbacks (j'.transcript v)), p.1 = p.2) :
    Tallied R j j' w v := by
  -- by induction on how the jobs go on: what is asked of both is answered alike
  induction h generalizing w v with
  | done related => exact ⟨related, hscene, rfl⟩
  | failed => exact ⟨trivial, hscene, rfl⟩
  | @ask r next next' asks _ ih =>
    have hboth : isLost (w.answer r).1 = isLost (v.answer r).1 ∧
        ∀ p ∈ (setbacks ((next (w.answer r).1).transcript (w.answer r).2)).zip
          (setbacks ((next' (v.answer r).1).transcript (v.answer r).2)), p.1 = p.2 := by
      simp only [transcript, setbacks_cons, Exchange.isEssential, asks, Bool.not_false,
        Bool.and_true] at hlost
      cases hout : World.isOutside r with
      | true =>
        simp only [hout, if_true, List.zip_cons_cons, List.forall_mem_cons] at hlost
        exact hlost
      | false =>
        simp only [hout, Bool.false_eq_true, if_false] at hlost
        exact ⟨(w.isLost_inside hout).trans (v.isLost_inside hout).symm, hlost⟩
    obtain ⟨hanswer, hnext⟩ := hscene.answer asks hboth.1
    have hrest := hboth.2
    rw [hanswer] at hrest
    obtain ⟨hresult, hend, hposts⟩ := ih _ hnext hrest
    refine ⟨?_, ?_, ?_⟩
    · simpa only [Job.run, hanswer] using hresult
    · simpa only [Job.run, hanswer] using hend
    · simp only [transcript, hanswer, posts_cons, hposts]
  | @send r next next' sends _ ih =>
    have hscene' := (hscene.left (.inl sends)).right (.inl sends)
    have hrest : ∀ p ∈ (setbacks ((next (w.answer r).1).transcript (w.answer r).2)).zip
        (setbacks ((next' (v.answer r).1).transcript (v.answer r).2)), p.1 = p.2 := by
      simpa [transcript, setbacks_cons, Exchange.isEssential, sends] using hlost
    obtain ⟨hresult, hend, hposts⟩ := ih _ _ hscene' hrest
    refine ⟨hresult, hend, ?_⟩
    simp only [transcript, posts_cons, hposts]
  | @left r next j' aside _ ih =>
    obtain ⟨hessential, hpost⟩ := isEssential_aside aside (w.answer r).1
    obtain ⟨hresult, hend, hposts⟩ := ih _ (w.answer_inside ·) (hscene.left (.inr aside)) (by
      simpa [transcript, setbacks_cons, hessential] using hlost)
    refine ⟨hresult, hend, ?_⟩
    simp [transcript, posts_cons, hpost, hposts]
  | @right r j next' aside _ ih =>
    obtain ⟨hessential, hpost⟩ := isEssential_aside aside (v.answer r).1
    obtain ⟨hresult, hend, hposts⟩ := ih _ (v.answer_inside ·) (hscene.right (.inr aside)) (by
      simpa [transcript, setbacks_cons, hessential] using hlost)
    refine ⟨hresult, hend, ?_⟩
    simp [transcript, posts_cons, hpost, hposts]

theorem pure {a : α} {b : β} (h : R a b) : Tallies R (Pure.pure a) (Pure.pure b) := .done h

theorem bind {f : α → Job γ} {f' : β → Job δ} (h : Tallies R j j')
    (hf : ∀ a b, R a b → Tallies S (f a) (f' b)) : Tallies S (j >>= f) (j' >>= f') := by
  induction h with
  | done related => exact hf _ _ related
  | failed => exact .failed
  | ask asks _ ih => exact .ask asks ih
  | send sends _ ih => exact .send sends ih
  | left aside _ ih => exact .left aside ih
  | right aside _ ih => exact .right aside ih

theorem mono {R' : α → β → Prop} (h : Tallies R j j') (hR : ∀ a b, R a b → R' a b) :
    Tallies R' j j' := by
  induction h with
  | done related => exact .done (hR _ _ related)
  | failed => exact .failed
  | ask asks _ ih => exact .ask asks ih
  | send sends _ ih => exact .send sends ih
  | left aside _ ih => exact .left aside ih
  | right aside _ ih => exact .right aside ih

theorem givenUp {a : α} (text : String) (h : Tallies R (.done a) j') :
    Tallies R (Job.log .error text >>= fun _ => Pure.pure a) j' :=
  .left rfl fun x hx => by
    obtain ⟨_, rfl⟩ := hx rfl
    exact h

theorem givenUp_right {b : β} (text : String) (h : Tallies R j (.done b)) :
    Tallies R j (Job.log .error text >>= fun _ => Pure.pure b) :=
  .right rfl fun x hx => by
    obtain ⟨_, rfl⟩ := hx rfl
    exact h

theorem orLog {text text' : String} {a : α} {b : β} (h : Tallies R j j') (hab : R a b) :
    Tallies R (j.orLog text a) (j'.orLog text' b) := by
  induction h with
  | done related => exact .done related
  | failed => exact givenUp text (givenUp_right text' (.done hab))
  | ask asks _ ih => exact .ask asks ih
  | send sends _ ih => exact .send sends ih
  | left aside _ ih => exact .left aside ih
  | right aside _ ih => exact .right aside ih

theorem tried {r : Helpdesk.Request} (hr : (Request.desk r).isSending = true) (text : String)
    (a : r.Answer) :
    Tallies (fun _ _ => True) ((Job.desk r).orLog text a) ((Job.desk r).orLog text a) := by
  refine .send hr fun x x' => ?_
  cases x with
  | ok =>
    cases x' with
    | ok => exact .done trivial
    | error => exact givenUp_right text (.done trivial)
  | error =>
    refine givenUp text ?_
    cases x' with
    | ok => exact .done trivial
    | error => exact givenUp_right text (.done trivial)

/-- News for listeners, whether or not the other job has any. -/
theorem announce {event : String} {payload : Json} {R : Unit → β → Prop}
    (h : Tallies R (.done ()) j') : Tallies R (Reception.announce event payload) j' :=
  .left rfl fun x _ => by
    cases x with
    | ok => exact h
    | error e => exact givenUp _ h

theorem announce_right {event : String} {payload : Json} {R : α → Unit → Prop}
    (h : Tallies R j (.done ())) : Tallies R j (Reception.announce event payload) :=
  .right rfl fun x _ => by
    cases x with
    | ok => exact h
    | error e => exact givenUp_right _ h

/-- Terms for one who sends nothing. -/
def muteTerms : Terms where
  may r := r.isSending = false
  gives _ _ := True

theorem of_keeps {wanted : α → Prop} (h : j.Keeps muteTerms wanted) : Tallies Eq j j := by
  induction h with
  | done => exact .done rfl
  | failed => exact .failed
  | ask hmay _ _ ihok iherr =>
    refine .ask hmay fun x => ?_
    cases x with
    | ok a => exact ihok a trivial
    | error e => exact iherr e

end Tallies

end Job

/-! ## A message comes in -/

namespace Reception

open Job

variable {now : Moment} {t : Ticket} {f : Flow} {s : Session}

theorem announceStored_tallies (t : Ticket) (stored stored' : Json) :
    Tallies Eq (announceStored t stored) (announceStored t stored') := by
  have hright : Tallies Eq (.done ()) (announceStored t stored') := by
    unfold announceStored
    split
    · exact .announce_right (.done rfl)
    · exact .done rfl
  unfold announceStored at hright ⊢
  split
  · exact .announce hright
  · exact hright

theorem recordBot_tallies (now : Moment) (sessionId : Option String) (m : Outbound)
    (content : String) :
    Tallies Eq (recordBot now sessionId m content) (recordBot now sessionId m content) := by
  unfold recordBot
  split
  · exact .orLog (.of_keeps (Keeps.store (.record _) rfl)) rfl
  · exact .pure rfl

theorem send_tallies (now : Moment) (t : Ticket) (sessionId : Option String) (m : Outbound) :
    Tallies Eq (send now t sessionId m) (send now t sessionId m) := by
  unfold send
  split
  · exact .pure rfl
  next content _ =>
  refine .bind (.tried (r := .persist t content) rfl _ _) fun stored stored' _ => ?_
  refine .bind (recordBot_tallies now sessionId m content) fun _ _ _ => ?_
  refine .bind (.tried (r := .deliver t content) rfl _ _) fun _ _ _ => ?_
  exact announceStored_tallies t stored stored'

theorem sendAll_tallies (now : Moment) (t : Ticket) (sessionId : Option String)
    (ms : List Outbound) :
    Tallies Eq (sendAll now t sessionId ms) (sendAll now t sessionId ms) := by
  induction ms with
  | nil => exact .pure rfl
  | cons m rest ih => exact .bind (send_tallies now t sessionId m) fun _ _ _ => ih

theorem dispatch_tallies (now : Moment) (t : Ticket) (sessionId : Option String)
    (ms : List Outbound) :
    Tallies Eq (dispatch now t sessionId ms) (dispatch now t sessionId ms) := by
  unfold dispatch
  split
  · exact .pure rfl
  · refine .bind (sendAll_tallies now t sessionId ms) fun _ _ _ => ?_
    exact (Tallies.tried (r := .touch t now) rfl _ _).mono fun _ _ _ => rfl

theorem logDefects_tallies (f : Flow) (s : Session) (ds : List Diagnostic) :
    Tallies Eq (logDefects f s ds) (logDefects f s ds) := by
  induction ds with
  | nil => exact .pure rfl
  | cons d rest ih => exact .bind (.of_keeps (Keeps.log rfl)) fun _ _ _ => ih

theorem handOver_tallies (now : Moment) (t : Ticket) (f : Flow) (s : Session)
    (queue : Option String) :
    Tallies Eq (handOver now t f s queue) (handOver now t f s queue) := by
  refine .bind (.of_keeps (Keeps.log rfl)) ?_
  rintro _ _ rfl
  refine .bind (.of_keeps (Keeps.desk (.transfer _ _) rfl)) ?_
  rintro moved _ rfl
  refine .bind (.of_keeps (Keeps.store (.saveSession _) rfl)) ?_
  rintro saved _ rfl
  exact .bind (.announce (R := Eq) (.announce_right (.done rfl))) fun _ _ _ => .pure rfl

theorem apply_tallies (now : Moment) (t : Ticket) (f : Flow) (s : Session) (o : Outcome)
    (waited : Option Waiting) :
    Tallies Eq (Reception.apply now t f s o waited) (Reception.apply now t f s o waited) := by
  refine .bind (logDefects_tallies f s _) fun _ _ _ => ?_
  refine .bind (dispatch_tallies now t _ _) fun _ _ _ => ?_
  refine .bind (dispatch_tallies now t _ _) fun _ _ _ => ?_
  refine .bind (.of_keeps (Keeps.store (.saveSession _) rfl)) ?_
  rintro saved _ rfl
  split
  · exact handOver_tallies now t f saved _
  · exact .pure rfl

variable (r : Reception) (messageId text : String)

theorem begin_tallies (g : Graph) :
    Tallies Eq (r.begin now t f g messageId text) (r.begin now t f g messageId text) := by
  refine .bind (.of_keeps (Keeps.log rfl)) fun _ _ _ => ?_
  refine .bind (.of_keeps (Keeps.store (.openSession _) rfl)) ?_
  rintro s _ rfl
  refine .bind (.of_keeps (Keeps.store (.record _) rfl)) fun _ _ _ => ?_
  refine .bind (.of_keeps Keeps.ofExcept) ?_
  rintro o _ rfl
  exact apply_tallies now t f s o none

theorem openWith_tallies :
    Tallies Eq (r.openWith now t messageId text) (r.openWith now t messageId text) := by
  refine .bind (.of_keeps (Keeps.store .activeFlows rfl)) ?_
  rintro flows _ rfl
  split
  · exact .pure rfl
  split
  · exact .bind (.of_keeps (Keeps.log rfl)) fun _ _ _ => .pure rfl
  next f _ =>
  refine .bind (.of_keeps (graphOf_keeps fun _ _ => rfl)) ?_
  rintro g? _ rfl
  split
  · exact .pure rfl
  next g =>
  refine .bind (.of_keeps Keeps.ofExcept) ?_
  rintro isOpen _ rfl
  split
  · exact .bind (begin_tallies r messageId text g) fun _ _ h => .pure (congrArg some h)
  · refine .bind (.of_keeps (Keeps.log rfl)) fun _ _ _ => ?_
    exact .bind (dispatch_tallies now t none _) fun _ _ _ => .pure rfl

theorem goOn_tallies :
    Tallies Eq (r.goOn now t s messageId text) (r.goOn now t s messageId text) := by
  refine .bind (.of_keeps (Keeps.store (.flow _) rfl)) ?_
  rintro f? _ rfl
  split
  · exact .bind (.of_keeps (Keeps.log rfl)) fun _ _ _ => .pure rfl
  next f =>
  refine .bind (.of_keeps (graphOf_keeps fun _ _ => rfl)) ?_
  rintro g? _ rfl
  split
  · exact .pure rfl
  next g =>
  refine .bind (.of_keeps (Keeps.store (.record _) rfl)) fun _ _ _ => ?_
  refine .bind (.of_keeps Keeps.ofExcept) ?_
  rintro o _ rfl
  exact .bind (apply_tallies now t f s o _) fun _ _ h => .pure (congrArg some h)

/-- **What a reception does about a message tallies with itself**, however the sending goes. -/
theorem incoming_tallies (now : Moment) (ticketId : String) :
    Tallies Eq (r.incoming now ticketId messageId text)
      (r.incoming now ticketId messageId text) := by
  refine .orLog ?_ rfl
  refine .bind (.of_keeps (Keeps.desk (.ticket ticketId) rfl)) ?_
  rintro t? _ rfl
  split
  · exact .bind (.of_keeps (Keeps.log rfl)) fun _ _ _ => .pure rfl
  next t =>
  split
  · exact .pure rfl
  refine .bind (.of_keeps (Keeps.store (.activeSession t.id) rfl)) ?_
  rintro s? _ rfl
  split
  · exact openWith_tallies r messageId text
  · exact goOn_tallies r messageId text

end Reception

end FrontDesk
