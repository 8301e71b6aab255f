/-
Handing tickets over.

A message moves a ticket at most once, and only after the run that wants it is on record. What is
done to tickets and to sessions on record can be told from the requests that were made and how they
went (`Job.handedAt_run`, `Job.tickets_run`), whoever else saves sessions meanwhile; and of these
requests a message makes few (`Reception.Settlement`). Together they say when a ticket is handed
over, to which queue, and what is noted of it (`Reception.incoming_transfers`).
-/
import FrontDesk.Proofs.Service.Turnout

namespace FrontDesk

open Calendar Service Service.Exchange

/-! ## The time of a hand-over on record -/

/-- The instant at which a session was handed over, as it is stored. -/
def Store.Stored.handed : Stored → Option Int
  | .session s => s.transferredAt.map Moment.instant
  | .row r => r.transferredAt.map Moment.instant

namespace Store

variable {st : Store} {now : Moment} {id : String}

/-- The same of the session under an id. -/
def handedAt (key : String) (st : Store) : Option (Option Int) := (st.stored? key).map Stored.handed

theorem Stored.handed_read (rec : Stored) (now : Moment) :
    rec.handed = (rec.read now).transferredAt.map Moment.instant := by
  cases rec <;> rfl

/-- To save a session fails and changes nothing, or its hand-over is as the session says. -/
theorem saveSession_handed (st : Store) (now : Moment) (id : String) (s : Session) :
    (∃ e, st.answer now id (.saveSession s) = (.error e, st)) ∨
      ∃ st', st.answer now id (.saveSession s) = (.ok (Memory.saved s now), st') ∧
        ∀ key, st'.handedAt key =
          if key = s.id then some (s.transferredAt.map Moment.instant) else st.handedAt key := by
  cases st with
  | memory m =>
    simp only [answer, Memory.answer, Memory.saveSession]
    split
    · exact .inl ⟨_, rfl⟩
    split
    · exact .inl ⟨_, rfl⟩
    refine .inr ⟨_, rfl, fun key => ?_⟩
    simp only [handedAt, stored?, Entries.find?_put]
    split <;> rfl
  | relational t =>
    simp only [answer, Relational.answer, Relational.saveSession]
    cases hchange : Relational.rowChange now s with
    | error e => exact .inl ⟨e, rfl⟩
    | ok change =>
    obtain ⟨updatedAt, completedAt, transferredAt, -, htransferred, rfl⟩ := rowChange_ok hchange
    cases t.sessions.find? s.id with
    | none => exact .inl ⟨_, rfl⟩
    | some row =>
    simp only
    split
    · exact .inl ⟨_, rfl⟩
    refine .inr ⟨_, rfl, fun key => ?_⟩
    simp only [handedAt, stored?, Entries.find?_put]
    split
    · exact congrArg some (rowMoment?_instant htransferred)
    · rfl

theorem openSession_handed (st : Store) (now : Moment) (id : String) (o : Opening) :
    (∃ e, st.answer now id (.openSession o) = (.error e, st)) ∨
      ∃ s st', st.answer now id (.openSession o) = (.ok s, st') ∧ s.transferredAt = none ∧
        ∀ key, st'.handedAt key = if key = s.id then some none else st.handedAt key := by
  cases st with
  | memory m =>
    refine .inr ⟨_, _, rfl, rfl, fun key => ?_⟩
    simp only [handedAt, stored?, Entries.find?_put]
    split <;> rfl
  | relational t =>
    simp only [answer, Relational.answer, Relational.openSession]
    split
    · exact .inl ⟨_, rfl⟩
    split
    · refine .inr ⟨_, _, rfl, rfl, fun key => ?_⟩
      by_cases hkey : key = id <;>
        simp [handedAt, stored?, Entries.find?_put, SessionRow.session, Stored.handed, hkey]
    · exact .inl ⟨_, rfl⟩

/-- A session on record is handed over at the time that is read. -/
theorem Tidy.handedAt (h : st.Tidy) {s : Session} (hs : s ∈ st.sessions now) :
    st.handedAt s.id = some (s.transferredAt.map Moment.instant) := by
  obtain ⟨rec, hrec, rfl⟩ := h.stored_of_mem hs
  rw [Store.handedAt, hrec, Option.map_some, rec.handed_read now]

end Store

/-! ## What requests do to it -/

namespace Service.Exchange

/-- The time of a hand-over that is put on record of a session, if one is. -/
def handing? (key : String) : Exchange → Option (Option Int)
  | ⟨.store (.saveSession s), .ok _⟩ =>
    if key = s.id then some (s.transferredAt.map Moment.instant) else none
  | ⟨.store (.openSession _), .ok s⟩ => if key = s.id then some none else none
  | _ => none

/-- The ticket that is moved, if one is, and the queue it is to go to. -/
def move? : Exchange → Option (Ticket × Option String)
  | ⟨.desk (.transfer t queue), .ok _⟩ => some (t, queue)
  | _ => none

end Service.Exchange

namespace World

variable {w : World} {key : String}

theorem tidy_answer (h : w.store.Tidy) (r : Request) : (w.answer r).2.store.Tidy := by
  cases r with
  | log | newFlowId => exact h
  | store r =>
    rcases w.answer_store_cases r with hanswer | ⟨ids, -, hanswer⟩ <;> rw [hanswer]
    · exact h
    · exact h.answer _ _ r
  | desk r =>
    rcases (w.answer_desk_store r).2 with hsame | ⟨ticketId, s, id, -, hsaved⟩
    · rw [hsame]
      exact h
    · rw [hsaved]
      exact h.answer _ _ _

/-- Whoever else saves a session as it was found, no time of a hand-over is changed. -/
theorem handedAt_desk (h : w.store.Tidy) (r : Helpdesk.Request) :
    (w.answer (.desk r)).2.store.handedAt key = w.store.handedAt key := by
  rcases (w.answer_desk_store r).2 with hsame | ⟨ticketId, s, id, hfound, hsaved⟩
  · rw [hsame]
  rw [hsaved]
  have hs := h.handedAt ((Store.activeSession_sessions hfound).1 s rfl).1
  rcases w.store.saveSession_handed w.clock id s with ⟨e, he⟩ | ⟨st', hok, hhanded⟩
  · rw [he]
  · rw [hok, hhanded]
    split
    next hkey => rw [hkey, hs]
    next => rfl

/-- What is on record of a hand-over after a request is what was put there, or else what was. -/
theorem handedAt_answer (h : w.store.Tidy) {r : Request}
    (hkeeps : ∀ id, r ≠ .store (.deleteFlow id)) :
    (w.answer r).2.store.handedAt key =
      (handing? key ⟨r, (w.answer r).1⟩ <|> w.store.handedAt key) := by
  cases r with
  | log | newFlowId => rfl
  | desk r => exact handedAt_desk h r
  | store r =>
    rcases w.answer_store_cases r with hanswer | ⟨ids, -, hanswer⟩
    · rw [hanswer]
      cases r <;> rfl
    rw [hanswer]
    by_cases htouches : r.touchesSessions = false
    · have hsame : (w.store.answer w.clock (numbered "session" ids) r).2.handedAt key =
          w.store.handedAt key :=
        congrArg (Option.map Store.Stored.handed) (Store.sessions_answer htouches key)
      cases r with
      | openSession | saveSession | deleteFlow => cases htouches
      | _ => exact hsame
    cases r with
    | saveSession s =>
      rcases w.store.saveSession_handed w.clock (numbered "session" ids) s with
        ⟨e, he⟩ | ⟨st', hok, hhanded⟩
      · rw [he]
        rfl
      · rw [hok]
        refine (hhanded key).trans ?_
        show _ = ((if key = s.id then some (s.transferredAt.map Moment.instant) else none) <|>
          w.store.handedAt key)
        split <;> rfl
    | openSession o =>
      rcases w.store.openSession_handed w.clock (numbered "session" ids) o with
        ⟨e, he⟩ | ⟨s, st', hok, -, hhanded⟩
      · rw [he]
        rfl
      · rw [hok]
        refine (hhanded key).trans ?_
        show _ = ((if key = s.id then some none else none) <|> w.store.handedAt key)
        split <;> rfl
    | deleteFlow id => exact absurd rfl (hkeeps id)
    | _ => exact absurd rfl htouches

theorem id_of_saved {s saved : Session} (h : (w.answer (.store (.saveSession s))).1 = .ok saved) :
    saved.id = s.id := by
  obtain ⟨ids, -, hx⟩ := World.answer_of_ok h
  rcases w.store.saveSession_handed w.clock (numbered "session" ids) s with
    ⟨e, he⟩ | ⟨st', hok, -⟩
  · rw [he] at hx
    cases hx
  · rw [hok] at hx
    cases hx
    rfl

theorem transferredAt_of_begun {o : Store.Opening} {s : Session}
    (h : (w.answer (.store (.openSession o))).1 = .ok s) : s.transferredAt = none := by
  obtain ⟨ids, -, hx⟩ := World.answer_of_ok h
  rcases w.store.openSession_handed w.clock (numbered "session" ids) o with
    ⟨e, he⟩ | ⟨s', st', hok, hfresh, -⟩
  · rw [he] at hx
    cases hx
  · rw [hok] at hx
    cases hx
    exact hfresh

theorem tickets_answer (w : World) (r : Request) :
    (w.answer r).2.desk.tickets =
      (move? ⟨r, (w.answer r).1⟩).elim w.desk.tickets fun (t, queue) =>
        w.desk.tickets.put t.id (t.moved queue) := by
  cases r with
  | log level text | newFlowId => rfl
  | store r =>
    rw [w.answer_store_desk r]
    rfl
  | desk r =>
    rcases w.answer_desk r with hlost | ⟨x, id, hx, hdesk⟩
    · rw [hlost]
      cases r <;> rfl
    · rw [hdesk, hx]
      cases r <;> rfl

end World

/-! ## What a row of requests does -/

namespace Job

variable {α : Type} {j : Job α} {w : World}

/-- What is on record of a hand-over after a job is what was put there last, or else what was. -/
theorem handedAt_run (htidy : w.store.Tidy)
    (hkeeps : ∀ x ∈ j.transcript w, ∀ id, x.request ≠ .store (.deleteFlow id)) (key : String) :
    (j.run w).2.store.handedAt key =
      (((j.transcript w).filterMap (handing? key)).getLast? <|> w.store.handedAt key) := by
  induction j generalizing w with
  | done a | failed e => rfl
  | ask r next ih =>
    obtain ⟨hr, hrest⟩ := List.forall_mem_cons.1 hkeeps
    refine (ih _ (World.tidy_answer htidy r) hrest).trans ?_
    rw [World.handedAt_answer htidy hr, transcript, List.filterMap_cons]
    cases handing? key ⟨r, (w.answer r).1⟩ with
    | none => rfl
    | some time =>
      rw [List.getLast?_cons]
      cases (((next (w.answer r).1).transcript (w.answer r).2).filterMap (handing? key)).getLast?
        <;> rfl

theorem tickets_run (j : Job α) (w : World) :
    (j.run w).2.desk.tickets =
      ((j.transcript w).filterMap move?).foldl
        (fun tickets (t, queue) => tickets.put t.id (t.moved queue)) w.desk.tickets := by
  induction j generalizing w with
  | done a | failed e => rfl
  | ask r next ih =>
    refine (ih (w.answer r).1 (w.answer r).2).trans ?_
    rw [w.tickets_answer r, transcript, List.filterMap_cons]
    cases move? ⟨r, (w.answer r).1⟩ <;> rfl

end Job

/-! ## Deeds -/

/-- Whether a request can move a ticket or change what is stored of any session. -/
def Service.Request.isDeed (r : Request) : Bool := r.touches || r.moves

theorem Service.Request.isDeed_of_isSpeech {r : Request} (h : r.isSpeech = true) :
    r.isDeed = false := by
  cases r with
  | log | newFlowId => rfl
  | desk r => cases r <;> first | rfl | cases h
  | store r => cases r <;> first | rfl | cases h

theorem Service.Request.isDeed_of_saves {r : Request} {key : String}
    (h : r.saves key = true) : r.isDeed = true := by
  cases r with
  | desk | log | newFlowId => cases h
  | store r => cases r <;> first | rfl | cases h

theorem Service.Request.isDeed_of_moves {r : Request} (h : r.moves = true) :
    r.isDeed = true := by
  rw [isDeed, h, Bool.or_true]

/-- The requests of that kind, and how they went. -/
def Service.Exchange.deeds (xs : List Exchange) : List Exchange := xs.filter (·.request.isDeed)

namespace Service.Exchange

variable {xs ys : List Exchange}

theorem deeds_append (xs ys : List Exchange) : deeds (xs ++ ys) = deeds xs ++ deeds ys :=
  List.filter_append ..

theorem deeds_cons_of_not {x : Exchange} (hx : x.request.isDeed = false) (xs : List Exchange) :
    deeds (x :: xs) = deeds xs := by
  simp [deeds, hx]

theorem handing?_of_not (key : String) (x : Exchange) (hx : x.request.isDeed = false) :
    x.handing? key = none := by
  obtain ⟨r, a⟩ := x
  cases r with
  | desk | log | newFlowId => rfl
  | store r =>
    cases r with
    | openSession | saveSession | deleteFlow => cases hx
    | _ => rfl

theorem move?_of_not (x : Exchange) (hx : x.request.isDeed = false) : x.move? = none := by
  obtain ⟨r, a⟩ := x
  cases r with
  | store | log | newFlowId => rfl
  | desk r =>
    cases r with
    | transfer => cases hx
    | _ => rfl

theorem filterMap_deeds {β : Type} {f : Exchange → Option β}
    (hf : ∀ x, x.request.isDeed = false → f x = none) (xs : List Exchange) :
    (deeds xs).filterMap f = xs.filterMap f := by
  induction xs with
  | nil => rfl
  | cons x rest ih =>
    cases hx : x.request.isDeed with
    | true => simp only [deeds, List.filter_cons, hx, if_true, List.filterMap_cons] at ih ⊢; rw [ih]
    | false => rw [deeds_cons_of_not hx, ih, List.filterMap_cons_none (hf x hx)]

theorem filter_deeds {p : Request → Bool} (hp : ∀ r, p r = true → r.isDeed = true)
    (xs : List Exchange) :
    (deeds xs).filter (fun x => p x.request) = xs.filter fun x => p x.request := by
  rw [deeds, List.filter_filter]
  refine List.filter_congr fun x _ => ?_
  cases hx : p x.request with
  | true => simp [hp _ hx]
  | false => rfl

end Service.Exchange

namespace Job

variable {α : Type} {j : Job α} {w : World}

theorem handedAt_deeds (htidy : w.store.Tidy)
    (hkeeps : ∀ x ∈ deeds (j.transcript w), ∀ id, x.request ≠ .store (.deleteFlow id))
    (key : String) :
    (j.run w).2.store.handedAt key =
      (((deeds (j.transcript w)).filterMap (handing? key)).getLast? <|> w.store.handedAt key) := by
  rw [filterMap_deeds (handing?_of_not key)]
  refine handedAt_run htidy (fun x hx id hid => ?_) key
  exact hkeeps x (List.mem_filter.2 ⟨hx, by rw [hid]; rfl⟩) id hid

theorem tickets_deeds (j : Job α) (w : World) :
    (j.run w).2.desk.tickets =
      ((deeds (j.transcript w)).filterMap move?).foldl
        (fun tickets (t, queue) => tickets.put t.id (t.moved queue)) w.desk.tickets := by
  rw [filterMap_deeds move?_of_not]
  exact tickets_run j w

end Job

/-- Each of the jobs that follow is told by its deeds. -/
abbrev Job.Does {α : Type} (j : Job α) (w : World) (q : List Exchange → Prop) : Prop :=
  j.Recounts w fun xs _ _ => q (deeds xs)

namespace Job.Does

variable {α β : Type} {w : World} {q : List Exchange → Prop}

theorem pure {a : α} (h : q []) : (Pure.pure a : Job α).Does w q := Recounts.pure h

theorem deed {r : Request} {f : r.Answer → Job α} (hr : r.isDeed = true)
    (hok : ∀ a, (w.answer r).1 = .ok a →
      (f a).Does (w.answer r).2 fun ds => q (⟨r, .ok a⟩ :: ds))
    (herr : ∀ e, q [⟨r, .error e⟩]) : (Job.request r >>= f).Does w q := by
  refine Recounts.asked (fun a ha => (hok a ha).mono fun xs _ _ hxs => ?_) fun e _ => ?_
  · rw [deeds, List.filter_cons_of_pos (by exact hr)]
    exact hxs
  · rw [deeds, List.filter_cons_of_pos (by exact hr)]
    exact herr e

theorem asked {r : Request} {f : r.Answer → Job α} (hr : r.isDeed = false) (herr : q [])
    (hok : ∀ a, (w.answer r).1 = .ok a → (f a).Does (w.answer r).2 q) :
    (Job.request r >>= f).Does w q := by
  refine Recounts.asked (fun a ha => (hok a ha).mono fun xs _ _ hxs => ?_) fun e _ => ?_
  · rw [deeds_cons_of_not hr]
    exact hxs
  · rw [deeds_cons_of_not hr]
    exact herr

theorem lookup {r : Store.Request} {x : Except Store.Fault r.Answer}
    (h : ∀ id, w.store.answer w.clock id r = (x, w.store)) {f : r.Answer → Job α}
    (hr : r.touchesSessions = false) (herr : q [])
    (hok : ∀ a w', x = .ok a → w'.store = w.store → w'.clock = w.clock → (f a).Does w' q) :
    (Job.store r >>= f).Does w q := by
  refine asked (by simp [Request.isDeed, Request.touches, Request.moves, hr]) herr fun a ha => ?_
  obtain ⟨ids, -, hx⟩ := World.answer_of_ok ha
  rw [h] at hx
  exact hok a _ hx (World.store_lookup h) (w.answer_trouble _).2

theorem log {level : Level} {text : String} {f : Unit → Job α}
    (h : ∀ w', w'.store = w.store → (f ()).Does w' q) : (Job.log level text >>= f).Does w q :=
  Recounts.log <| (h (w.answer (.log level text)).2 rfl).mono fun xs _ _ hxs => by
    rw [deeds_cons_of_not (by rfl)]
    exact hxs

theorem ofExcept {ε : Type} {failure : ε → Failure} {x : Except ε β} {f : β → Job α}
    (herr : q []) (hok : ∀ b, x = .ok b → (f b).Does w q) :
    (Job.ofExcept failure x >>= f).Does w q := by
  cases x with
  | ok b => exact hok b rfl
  | error e => exact herr

theorem said {ps : List Request} {j : Job β} {f : β → Job α} (h : j.Sends w ps)
    (hf : ∀ b w', (f b).Does w' q) : (j >>= f).Does w q := by
  refine h.then fun b hxs => (hf b _).mono fun ys _ _ hys => ?_
  have hnone : deeds (j.transcript w) = [] :=
    List.filter_eq_nil_iff.2 fun x hx => by
      simp [Request.isDeed_of_isSpeech (hxs.speech x hx)]
  rw [deeds_append, hnone]
  exact hys

theorem graphOf {f : Flow} {next : Option Graph → Job α} (herr : q [])
    (hnone : ∀ w', (next none).Does w' q)
    (hok : ∀ g, Graph.ofJson (.object f.definition) = .ok g → (next (some g)).Does w q) :
    (Reception.graphOf f >>= next).Does w q := by
  unfold Reception.graphOf
  cases hg : Graph.ofJson (.object f.definition) with
  | ok g => exact hok g hg
  | error e =>
    simp only
    split
    · exact log (f := fun _ => next none) fun w' _ => hnone w'
    · exact herr

end Job.Does

/-! ## The nodes a run walks -/

namespace Graph

/-- The nodes that a run walks. It walks none if it refuses the answer. -/
inductive Walks (g : Graph) (limit : Int) (s : State) (current : Option String)
    (incoming : Incoming) : List Node → Prop
  | goesOn {way : Way} (h : g.GoesOn s current incoming way) :
    Walks g limit s current incoming (g.path limit.toNat way.start)
  | refuses {o : Outcome} (h : g.Refuses s incoming o) : Walks g limit s current incoming []

/-- A run hands over if it walks a transfer, and the last one of them names the queue. -/
theorem walks_of_run {g : Graph} {limit : Int} {stamp : String} {s : State}
    {current : Option String} {incoming : Incoming} {o : Outcome}
    (h : g.run limit stamp s current incoming = .ok o) :
    ∃ ns, g.Walks limit s current incoming ns ∧ o.transferred = ns.any Node.isTransfer ∧
      o.queue = (ns.filter Node.isTransfer).getLast?.bind Node.queue := by
  rcases run_cases h with ⟨way, hway, rfl⟩ | hrefuses
  · refine ⟨_, .goesOn hway, rfl, ?_⟩
    simp only [image, Path.queue]
    cases ((g.path limit.toNat way.start).filter Node.isTransfer).getLast? <;> rfl
  · exact ⟨[], .refuses hrefuses, by cases hrefuses <;> exact ⟨rfl, rfl⟩⟩

end Graph

/-! ## What a message does -/

namespace Reception

open Job

variable {w : World} {now : Moment} {t : Ticket} {f : Flow}

/-- What is done to hand a ticket over whose session was saved: the time is noted once the ticket
is moved. -/
inductive Removal (now : Moment) (t : Ticket) (queue : Option String) (saved : Session) :
    List Exchange → Prop where
  | refused (e : Failure) : Removal now t queue saved [⟨.desk (.transfer t queue), .error e⟩]
  | granted (moved : Ticket) (x : Except Failure Session) :
    Removal now t queue saved [⟨.desk (.transfer t queue), .ok moved⟩,
      ⟨.store (.saveSession { saved with transferredAt := some now }), x⟩]

/-- What is done after a run: it is saved, and then the ticket is handed over if the run wants
it. -/
inductive Settlement (now : Moment) (t : Ticket) (f : Flow) (s : Session) (o : Outcome)
    (waited : Option Waiting) : List Exchange → Prop where
  | unsaved (e : Failure) :
    Settlement now t f s o waited [⟨.store (.saveSession (advance now s o waited)), .error e⟩]
  | stays (saved : Session) (htransferred : o.transferred = false) :
    Settlement now t f s o waited [⟨.store (.saveSession (advance now s o waited)), .ok saved⟩]
  | leaves {saved : Session} {ds : List Exchange} (htransferred : o.transferred = true)
    (hid : saved.id = s.id) (removal : Removal now t (targetQueue o.queue f t) saved ds) :
    Settlement now t f s o waited
      (⟨.store (.saveSession (advance now s o waited)), .ok saved⟩ :: ds)

theorem advance_kept (now : Moment) (s : Session) (o : Outcome) (waited : Option Waiting) :
    (advance now s o waited).id = s.id ∧
      (advance now s o waited).transferredAt = s.transferredAt := by
  cases waited with
  | none => exact ⟨rfl, rfl⟩
  | some _ =>
    simp only [advance]
    split <;> exact ⟨rfl, rfl⟩

theorem handOver_does (saved : Session) (node : Option String) :
    (handOver now t f saved node).Does w (Removal now t (targetQueue node f t) saved) := by
  unfold handOver
  refine .log fun w₁ _ => ?_
  refine .deed rfl (fun moved _ => ?_) fun e => .refused e
  refine .deed rfl (fun noted _ => ?_) fun e => .granted moved (.error e)
  exact .said (announce_sends _ _ _) fun _ _ => .pure (.granted moved (.ok noted))

theorem settle_does (s : Session) (o : Outcome) (waited : Option Waiting) :
    (settle now t f s o waited).Does w (Settlement now t f s o waited) := by
  unfold settle
  refine .deed rfl (fun saved hsaved => ?_) fun e => .unsaved e
  have hid : saved.id = s.id :=
    (World.id_of_saved hsaved).trans (advance_kept now s o waited).1
  split
  next htransferred =>
    exact (handOver_does saved o.queue).mono fun xs _ _ hxs => .leaves htransferred hid hxs
  next hstays => exact .pure (.stays saved (eq_false_of_ne_true hstays))

theorem apply_does (s : Session) (o : Outcome) (waited : Option Waiting) :
    (Reception.apply now t f s o waited).Does w (Settlement now t f s o waited) := by
  rw [apply_eq]
  exact .said (sayAll_sends now t f s o w) fun _ _ => settle_does s o waited

/-- A run that a message starts. -/
structure Turn where
  /-- The ticket as it was found. -/
  ticket : Ticket
  flow : Flow
  /-- The session, found or begun. -/
  session : Session
  waited : Option Waiting
  outcome : Outcome
  /-- The nodes that are walked. -/
  walked : List Node
  transferred : outcome.transferred = walked.any Node.isTransfer
  queue : outcome.queue = (walked.filter Node.isTransfer).getLast?.bind Node.queue

namespace Turn

/-- What is done about the turn when it has come to its outcome. -/
def Settled (n : Turn) (now : Moment) (ds : List Exchange) : Prop :=
  Settlement now n.ticket n.flow n.session n.outcome n.waited ds

/-- The turn takes a message as the answer in its session. -/
structure Answers (r : Reception) (now : Moment) (st : Store) (text : String) (n : Turn) :
    Prop where
  flow : st.flow? n.session.flowId = some n.flow
  waited : n.waited = n.session.state.waiting
  run : ∃ g, Graph.ofJson (.object n.flow.definition) = .ok g ∧
    g.run r.limit now.isoText n.session.state n.session.currentNode (.answer text) =
      .ok n.outcome ∧
    g.Walks r.limit n.session.state n.session.currentNode (.answer text) n.walked

/-- The turn opens a session with a message. -/
structure Opens (r : Reception) (now : Moment) (st : Store) (text : String) (n : Turn)
    (begun : Exchange) : Prop where
  selected : ∃ fs, st.activeFlows = .ok fs ∧ selectFlow fs text = some n.flow
  isOpen : Schedule.isOpenBy r.zones (Schedule.ofJson n.flow.scheduleJson) now = .ok true
  waited : n.waited = none
  fresh : n.session.transferredAt = none
  begun : ∃ o, begun = ⟨.store (.openSession o), .ok n.session⟩
  run : ∃ g, Graph.ofJson (.object n.flow.definition) = .ok g ∧
    g.run r.limit now.isoText {} (some g.entry) .opening = .ok n.outcome ∧
    g.Walks r.limit {} (some g.entry) .opening n.walked

end Turn

/-- At most a session is begun. -/
def Idle (ds : List Exchange) : Prop := ∀ x ∈ ds, ∃ o, x.request = .store (.openSession o)

namespace Idle

theorem nil : Idle [] := fun _ hx => nomatch hx

theorem begun (o : Store.Opening) (x : Except Failure Session) :
    Idle [⟨.store (.openSession o), x⟩] := by
  intro y hy
  obtain rfl := List.mem_singleton.1 hy
  exact ⟨o, rfl⟩

theorem lacks {ds : List Exchange} (h : Idle ds) {p : Request → Bool}
    (hopen : ∀ o, p (.store (.openSession o)) = false) {x : Exchange} (hx : x ∈ ds) :
    p x.request = false := by
  obtain ⟨o, ho⟩ := h x hx
  rw [ho, hopen]

theorem keeps {ds : List Exchange} (h : Idle ds) {x : Exchange} (hx : x ∈ ds) (id : String) :
    x.request ≠ .store (.deleteFlow id) := by
  intro hid
  obtain ⟨o, ho⟩ := h x hx
  rw [hid] at ho
  cases ho

theorem move_nil {ds : List Exchange} (h : Idle ds) : ds.filterMap move? = [] := by
  refine List.filterMap_eq_nil_iff.2 fun x hx => ?_
  obtain ⟨o, ho⟩ := h x hx
  obtain ⟨r, a⟩ := x
  cases ho
  rfl

end Idle

variable (r : Reception) (messageId text : String)

theorem goOn_does (s : Session) :
    (r.goOn now t s messageId text).Does w fun ds =>
      Idle ds ∨ ∃ n : Turn, n.ticket = t ∧ n.session = s ∧
        n.Answers r now w.store text ∧ n.Settled now ds := by
  unfold goOn
  refine .lookup (fun id => Store.answer_flow s.flowId) rfl (.inl .nil) ?_
  rintro f? w₁ ⟨rfl⟩ hstore hclock
  cases hf : w.store.flow? s.flowId with
  | none => exact .log fun _ _ => .pure (.inl .nil)
  | some f =>
    refine .graphOf (.inl .nil) (fun _ => .pure (.inl .nil)) fun g hg => ?_
    refine .asked rfl (.inl .nil) fun _ _ => ?_
    refine .ofExcept (.inl .nil) fun o ho => ?_
    obtain ⟨ns, hwalks, htransferred, hqueue⟩ := Graph.walks_of_run ho
    refine .map ((apply_does s o _).mono fun xs _ _ hxs => .inr ?_)
    exact ⟨⟨t, f, s, _, o, ns, htransferred, hqueue⟩, rfl, rfl, ⟨hf, rfl, g, hg, ho, hwalks⟩, hxs⟩

theorem begin_does {st : Store} {g : Graph}
    (hselected : ∃ fs, st.activeFlows = .ok fs ∧ selectFlow fs text = some f)
    (hg : Graph.ofJson (.object f.definition) = .ok g)
    (hopen : Schedule.isOpenBy r.zones (Schedule.ofJson f.scheduleJson) now = .ok true) :
    (r.begin now t f g messageId text).Does w fun ds =>
      Idle ds ∨ ∃ (n : Turn) (begun : Exchange) (rest : List Exchange), n.ticket = t ∧
        n.Opens r now st text begun ∧ n.Settled now rest ∧ ds = begun :: rest := by
  unfold begin
  refine .log fun w₁ _ => ?_
  refine .deed rfl (fun s hs => ?_) fun e => .inl (.begun _ _)
  have hfresh := World.transferredAt_of_begun hs
  refine .asked rfl (.inl (.begun _ _)) fun _ _ => ?_
  refine .ofExcept (.inl (.begun _ _)) fun o ho => ?_
  obtain ⟨ns, hwalks, htransferred, hqueue⟩ := Graph.walks_of_run ho
  refine (apply_does s o none).mono fun xs _ _ hxs => .inr ?_
  exact ⟨⟨t, f, s, none, o, ns, htransferred, hqueue⟩, _, _, rfl,
    ⟨hselected, hopen, rfl, hfresh, ⟨_, rfl⟩, g, hg, ho, hwalks⟩, hxs, rfl⟩

theorem openWith_does :
    (r.openWith now t messageId text).Does w fun ds =>
      Idle ds ∨ ∃ (n : Turn) (begun : Exchange) (rest : List Exchange), n.ticket = t ∧
        n.Opens r now w.store text begun ∧ n.Settled now rest ∧ ds = begun :: rest := by
  unfold openWith
  refine .lookup (fun id => Store.answer_activeFlows) rfl (.inl .nil) ?_
  intro flows w₁ hflows _ _
  split
  · exact .pure (.inl .nil)
  split
  · exact .log fun _ _ => .pure (.inl .nil)
  next f hf =>
  refine .graphOf (.inl .nil) (fun _ => .pure (.inl .nil)) fun g hg => ?_
  refine .ofExcept (.inl .nil) fun isOpen hopen => ?_
  cases isOpen with
  | true => exact .map (begin_does r messageId text ⟨flows, hflows, hf⟩ hg hopen)
  | false =>
    refine .log fun w₂ _ => ?_
    exact .said (dispatch_sends now t none _ w₂) fun _ _ => .pure (.inl .nil)

/-- What comes of a message on a ticket: nothing, or a turn. -/
inductive Course (r : Reception) (now : Moment) (w : World) (ticketId text : String) :
    List Exchange → Prop where
  | idle {ds : List Exchange} (h : Idle ds) : Course r now w ticketId text ds
  | answered {n : Turn} {ds : List Exchange}
    (ticket : w.desk.tickets.find? ticketId = some n.ticket)
    (active : w.store.activeSession n.ticket.id w.clock = .ok (some n.session))
    (turn : n.Answers r now w.store text) (settled : n.Settled now ds) :
    Course r now w ticketId text ds
  | opened {n : Turn} {begun : Exchange} {rest : List Exchange}
    (ticket : w.desk.tickets.find? ticketId = some n.ticket)
    (inactive : w.store.activeSession n.ticket.id w.clock = .ok none)
    (turn : n.Opens r now w.store text begun) (settled : n.Settled now rest) :
    Course r now w ticketId text (begun :: rest)

theorem process_does (ticketId : String) :
    (r.process now ticketId messageId text).Does w (Course r now w ticketId text) := by
  unfold process
  refine .asked rfl (.idle .nil) fun t? ht => ?_
  obtain rfl := World.ticket_of_answer ht
  have hstore := w.store_ticket ticketId
  have hclock := (w.answer_trouble (.desk (.ticket ticketId))).2
  generalize (w.answer (.desk (.ticket ticketId))).2 = w₁ at hstore hclock
  cases ht : w.desk.tickets.find? ticketId with
  | none => exact .log fun _ _ => .pure (.idle .nil)
  | some t =>
    simp only
    split
    · exact .pure (.idle .nil)
    refine .lookup (fun id => Store.answer_activeSession_eq _ _ id t.id) rfl (.idle .nil) ?_
    intro s? w₂ hs hstore' _
    rw [hstore, hclock] at hs
    have hsame : w₂.store = w.store := hstore'.trans hstore
    cases s? with
    | none =>
      refine (openWith_does r messageId text).mono fun xs _ _ hxs => ?_
      rw [hsame] at hxs
      rcases hxs with hidle | ⟨n, begun, rest, rfl, hturn, hsettled, hds⟩
      · exact .idle hidle
      · rw [hds]
        exact .opened ht hs hturn hsettled
    | some s =>
      refine (goOn_does r messageId text s).mono fun xs _ _ hxs => ?_
      rw [hsame] at hxs
      rcases hxs with hidle | ⟨n, rfl, rfl, hturn, hsettled⟩
      · exact .idle hidle
      · exact .answered ht hs hturn hsettled

theorem incoming_does (ticketId : String) :
    (r.incoming now ticketId messageId text).Does w (Course r now w ticketId text) := by
  refine .orLog (process_does r messageId text ticketId) (fun _ _ _ h => h) fun xs e w' h => ?_
  rw [deeds_append]
  exact (List.append_nil (deeds xs)).symm ▸ h

/-! ## What that comes to -/

namespace Settlement

variable {s : Session} {o : Outcome} {waited : Option Waiting} {ds : List Exchange}

/-- The run is saved, then the ticket is moved, and then that is noted. -/
theorem order (h : Settlement now t f s o waited ds) :
    ∃ saved : Session,
      (ds.filter fun x => x.request.saves s.id || x.request.moves).map Exchange.request <+:
        [.store (.saveSession (advance now s o waited)),
          .desk (.transfer t (targetQueue o.queue f t)),
          .store (.saveSession { saved with transferredAt := some now })] := by
  have hid := (advance_kept now s o waited).1
  cases h with
  | unsaved e => exact ⟨s, by simp [Request.saves, hid]⟩
  | stays saved _ => exact ⟨saved, by simp [Request.saves, hid]⟩
  | @leaves saved _ _ hsaved removal =>
    refine ⟨saved, ?_⟩
    cases removal <;> simp [Request.saves, Request.moves, hid, hsaved]

/-- Nothing else is done. -/
theorem kinds (h : Settlement now t f s o waited ds) :
    ∀ x ∈ ds, (x.request.saves s.id || x.request.moves) = true := by
  have hid := (advance_kept now s o waited).1
  cases h with
  | unsaved e | stays saved _ => simp [Request.saves, hid]
  | leaves _ hsaved removal =>
    cases removal <;> simp [Request.saves, Request.moves, hid, hsaved]

/-- There is a transfer if the run was saved and wants one, and then there is no other. -/
theorem moves (h : Settlement now t f s o waited ds) :
    ds.filter (fun x => x.request.moves) = [] ∧
        ¬ (o.transferred = true ∧ (results (Request.saves s.id) ds).head? = some true) ∨
      ∃ x, ds.filter (fun x => x.request.moves) =
          [⟨.desk (.transfer t (targetQueue o.queue f t)), x⟩] ∧
        o.transferred = true ∧ (results (Request.saves s.id) ds).head? = some true := by
  have hid := (advance_kept now s o waited).1
  cases h with
  | unsaved e => simp [Request.moves, results, Request.saves, hid, isGranted]
  | stays saved hstays => simp [Request.moves, hstays]
  | leaves htransferred _ removal =>
    refine .inr ?_
    cases removal <;>
      simp [Request.moves, results, Request.saves, hid, isGranted, htransferred]

theorem handing (h : Settlement now t f s o waited ds) (key : String) :
    (ds.filterMap (handing? key)).getLast? =
      if key = s.id then
        if results Request.moves ds = [true] ∧ results (Request.saves s.id) ds = [true, true] then
          some (some now.instant)
        else if (results (Request.saves s.id) ds).head? = some true then
          some (s.transferredAt.map Moment.instant)
        else none
      else none := by
  obtain ⟨hid, htime⟩ := advance_kept now s o waited
  by_cases hkey : key = s.id
  · subst hkey
    cases h with
    | unsaved e =>
      simp [handing?, results, Request.moves, Request.saves, isGranted, hid]
    | stays saved hstays =>
      simp [handing?, results, Request.moves, Request.saves, isGranted, hid, htime]
    | leaves htransferred hsaved removal =>
      cases removal with
      | refused e =>
        simp [handing?, results, Request.moves, Request.saves, isGranted, hid,
          htime, List.filterMap_cons]
      | granted moved x =>
        cases x <;>
          simp [handing?, results, Request.moves, Request.saves, isGranted, hid,
            hsaved, htime, List.filterMap_cons]
  · cases h with
    | unsaved e => simp [handing?, hkey]
    | stays saved hstays => simp [handing?, hid, hkey]
    | leaves htransferred hsaved removal =>
      cases removal with
      | refused e => simp [handing?, hid, hkey]
      | granted moved x => cases x <;> simp [handing?, hid, hsaved, hkey]

theorem move (h : Settlement now t f s o waited ds) :
    ds.filterMap move? =
      if results Request.moves ds = [true] then [(t, targetQueue o.queue f t)] else [] := by
  cases h with
  | unsaved e => rfl
  | stays saved hstays => rfl
  | leaves htransferred hsaved removal => cases removal <;> rfl

end Settlement

namespace Turn

variable {n : Turn}

/-- The queue of the last transfer that is walked, else that of the flow, else that of the ticket:
the first one that has a name. -/
def target (n : Turn) : Option String :=
  ((n.walked.filter Node.isTransfer).getLast?.bind Node.queue).bind Text.nonempty? <|>
    n.flow.transferQueue.bind Text.nonempty? <|> n.ticket.queueId

/-- What comes of a turn for its ticket, and what is noted of that in its session. -/
structure HandsOver (n : Turn) (now : Moment) (xs : List Exchange) (w w' : World) : Prop where
  /-- The run is saved, then the ticket is moved, then that is noted, and nothing more is saved or
  moved. -/
  order : ∃ saved : Session,
    (xs.filter fun x => x.request.saves n.session.id || x.request.moves).map Exchange.request <+:
      [.store (.saveSession (advance now n.session n.outcome n.waited)),
        .desk (.transfer n.ticket n.target),
        .store (.saveSession { saved with transferredAt := some now })]
  once : (xs.filter fun x => x.request.moves).length ≤ 1
  /-- The ticket is to be moved if the run walked a transfer and was saved. -/
  wanted : (∃ x ∈ xs, x.request.moves = true) ↔
    n.walked.any Node.isTransfer = true ∧
      (results (Request.saves n.session.id) xs).head? = some true
  queue : ∀ x ∈ xs, x.request.moves = true → x.request = .desk (.transfer n.ticket n.target)
  /-- The time is on record if both that and the save after it were granted. -/
  noted : w'.store.handedAt n.session.id =
    if results Request.moves xs = [true] ∧
        results (Request.saves n.session.id) xs = [true, true] then
      some (some now.instant)
    else some (n.session.transferredAt.map Moment.instant)
  others : ∀ key ≠ n.session.id, w'.store.handedAt key = w.store.handedAt key
  /-- The ticket is moved if that was granted. -/
  tickets : w'.desk.tickets =
    if results Request.moves xs = [true] then
      w.desk.tickets.put n.ticket.id
        { n.ticket with
          queueId := n.target <|> n.ticket.queueId
          agentId := none
          status := if n.ticket.status = "CLOSED" then "OPEN" else n.ticket.status }
    else w.desk.tickets

theorem target_eq (n : Turn) : targetQueue n.outcome.queue n.flow n.ticket = n.target := by
  rw [n.queue]
  rfl

/-- What is done before the run of a turn: nothing in a session that was found, else one is
begun. -/
def Begins (n : Turn) (w : World) (before : List Exchange) : Prop :=
  before = [] ∧ w.store.handedAt n.session.id = some (n.session.transferredAt.map Moment.instant) ∨
    ∃ o, before = [⟨.store (.openSession o), .ok n.session⟩] ∧ n.session.transferredAt = none

theorem Begins.idle {before : List Exchange} (h : n.Begins w before) : Idle before := by
  rcases h with ⟨rfl, -⟩ | ⟨o, rfl, -⟩
  · exact .nil
  · exact .begun o _

theorem Begins.handing {before : List Exchange} (h : n.Begins w before) (key : String) :
    ((before.filterMap (handing? key)).getLast? <|> w.store.handedAt key) =
      if key = n.session.id then some (n.session.transferredAt.map Moment.instant)
      else w.store.handedAt key := by
  rcases h with ⟨rfl, htime⟩ | ⟨o, rfl, htime⟩ <;> by_cases hkey : key = n.session.id
  · simpa [hkey] using htime
  · simp [hkey]
  · simp [handing?, hkey, htime]
  · simp [handing?, hkey]

theorem Settled.handsOver {α : Type} {j : Job α} {before rest : List Exchange}
    (htidy : w.store.Tidy) (hbefore : n.Begins w before)
    (hdeeds : deeds (j.transcript w) = before ++ rest) (h : n.Settled now rest) :
    n.HandsOver now (j.transcript w) w (j.run w).2 := by
  have hrest {p : Request → Bool} (hp : ∀ r, p r = true → r.isDeed = true)
      (hopen : ∀ o, p (.store (.openSession o)) = false) :
      (j.transcript w).filter (fun x => p x.request) = rest.filter fun x => p x.request := by
    have hnone : before.filter (fun x => p x.request) = [] :=
      List.filter_eq_nil_iff.2 fun x hx => ne_true_of_eq_false (hbefore.idle.lacks hopen hx)
    rw [← filter_deeds hp, hdeeds, List.filter_append, hnone, List.nil_append]
  have hmoves := hrest (fun _ => Request.isDeed_of_moves) fun _ => rfl
  have hsaves := hrest (p := Request.saves n.session.id)
    (fun _ => Request.isDeed_of_saves) fun _ => rfl
  have hboth := hrest (p := fun r => r.saves n.session.id || r.moves)
    (fun r hr => (Bool.or_eq_true_iff.1 hr).elim Request.isDeed_of_saves
      Request.isDeed_of_moves) fun _ => rfl
  have hgranted : results Request.moves (j.transcript w) = results Request.moves rest := by
    rw [results, hmoves, results]
  have hsaved : results (Request.saves n.session.id) (j.transcript w) =
      results (Request.saves n.session.id) rest := by
    rw [results, hsaves, results]
  have hwants := h.moves
  rw [n.transferred, n.target_eq, ← hmoves, ← hsaved] at hwants
  have hkeeps : ∀ x ∈ deeds (j.transcript w), ∀ id, x.request ≠ .store (.deleteFlow id) := by
    intro x hx id
    rw [hdeeds] at hx
    rcases List.mem_append.1 hx with hx | hx
    · exact hbefore.idle.keeps hx id
    · intro hid
      have hkind := h.kinds x hx
      rw [hid] at hkind
      cases hkind
  have hhanded (key : String) : (j.run w).2.store.handedAt key =
      ((rest.filterMap (handing? key)).getLast? <|>
        if key = n.session.id then some (n.session.transferredAt.map Moment.instant)
        else w.store.handedAt key) := by
    rw [Job.handedAt_deeds htidy hkeeps, hdeeds, List.filterMap_append, List.getLast?_append,
      ← hbefore.handing key]
    cases (rest.filterMap (handing? key)).getLast? <;> rfl
  constructor
  case order =>
    rw [hboth, ← n.target_eq]
    exact h.order
  case once =>
    rcases hwants with ⟨hnone, -⟩ | ⟨x, hone, -⟩
    · rw [hnone]
      exact Nat.zero_le 1
    · rw [hone]
      exact Nat.le_refl 1
  case wanted =>
    rcases hwants with ⟨hnone, hnot⟩ | ⟨x, hone, hwants⟩
    · refine ⟨?_, fun h => absurd h hnot⟩
      rintro ⟨x, hx, hmove⟩
      exact absurd hmove (List.filter_eq_nil_iff.1 hnone x hx)
    · have hx : _ ∈ (j.transcript w).filter fun x => x.request.moves :=
        hone ▸ List.mem_singleton_self _
      exact ⟨fun _ => hwants, fun _ => ⟨_, List.mem_filter.1 hx⟩⟩
  case queue =>
    intro x hx hmove
    have hmem : x ∈ (j.transcript w).filter fun x => x.request.moves :=
      List.mem_filter.2 ⟨hx, hmove⟩
    rcases hwants with ⟨hnone, -⟩ | ⟨y, hone, -⟩
    · rw [hnone] at hmem
      cases hmem
    · rw [hone] at hmem
      rw [List.mem_singleton.1 hmem]
  case noted =>
    rw [hhanded, h.handing, hgranted, hsaved, if_pos rfl, if_pos rfl]
    split
    · rfl
    split <;> rfl
  case others =>
    intro key hkey
    rw [hhanded, h.handing, if_neg hkey, if_neg hkey]
    rfl
  case tickets =>
    rw [Job.tickets_deeds, hdeeds, List.filterMap_append, hbefore.idle.move_nil, List.nil_append,
      h.move, hgranted, n.target_eq]
    split
    · simp [Ticket.moved]
    · rfl

end Turn

theorem Idle.spares {α : Type} {j : Job α} (htidy : w.store.Tidy)
    (h : Idle (deeds (j.transcript w))) :
    (∀ x ∈ j.transcript w, x.request.moves = false ∧ ∀ key, x.request.saves key = false) ∧
      (j.run w).2.desk.tickets = w.desk.tickets ∧
      ∀ key, (j.run w).2.store.handedAt key = w.store.handedAt key ∨
        ∃ o s, ⟨.store (.openSession o), .ok s⟩ ∈ j.transcript w ∧ s.id = key := by
  have hnever {p : Request → Bool} (hp : ∀ r, p r = true → r.isDeed = true)
      (hopen : ∀ o, p (.store (.openSession o)) = false) {x : Exchange}
      (hx : x ∈ j.transcript w) : p x.request = false := by
    refine eq_false_of_ne_true fun hpx => ?_
    rw [h.lacks hopen (List.mem_filter.2 ⟨hx, hp _ hpx⟩)] at hpx
    cases hpx
  refine ⟨fun x hx => ⟨?_, fun key => ?_⟩, ?_, fun key => ?_⟩
  · exact hnever (fun _ => Request.isDeed_of_moves) (fun _ => rfl) hx
  · exact hnever (p := Request.saves key) (fun _ => Request.isDeed_of_saves) (fun _ => rfl) hx
  · rw [Job.tickets_deeds, h.move_nil]
    rfl
  · rw [Job.handedAt_deeds htidy fun x hx => h.keeps hx]
    cases hlast : ((deeds (j.transcript w)).filterMap (handing? key)).getLast? with
    | none => exact .inl rfl
    | some time =>
      obtain ⟨x, hx, htime⟩ := List.mem_filterMap.1 (List.mem_of_getLast? hlast)
      obtain ⟨o, ho⟩ := h x hx
      obtain ⟨r, a⟩ := x
      cases ho
      cases a with
      | error e => cases htime
      | ok s =>
        refine .inr ⟨o, s, (List.mem_filter.1 hx).1, ?_⟩
        simp only [handing?] at htime
        split at htime
        next hkey => exact hkey.symm
        next => cases htime

/-- **Tickets are handed over once, after the save, to the right queue**, whatever fails and whoever
else saves sessions meanwhile. Either a message comes to no run that is to be saved; then it moves
no ticket, and of sessions at most one is begun. Or it comes to a turn, in the session that was
found under the ticket or in one that is begun; then the ticket is moved, and noted to be so, as
the nodes say that the run walked (`Turn.HandsOver`). -/
theorem incoming_transfers (ticketId : String) (htidy : w.store.Tidy) :
    let j := r.incoming now ticketId messageId text
    let xs := j.transcript w
    let w' := (j.run w).2
    ((∀ x ∈ xs, x.request.moves = false ∧ ∀ key, x.request.saves key = false) ∧
        w'.desk.tickets = w.desk.tickets ∧
        ∀ key, w'.store.handedAt key = w.store.handedAt key ∨
          ∃ o s, ⟨.store (.openSession o), .ok s⟩ ∈ xs ∧ s.id = key) ∨
      ∃ n : Turn, w.desk.tickets.find? ticketId = some n.ticket ∧ n.HandsOver now xs w w' ∧
        (w.store.activeSession n.ticket.id w.clock = .ok (some n.session) ∧
            n.Answers r now w.store text ∧
            w.store.handedAt n.session.id = some (n.session.transferredAt.map Moment.instant) ∨
          w.store.activeSession n.ticket.id w.clock = .ok none ∧
            ∃ begun ∈ xs, n.Opens r now w.store text begun) := by
  intro j xs w'
  have hcourse : Course r now w ticketId text (deeds xs) :=
    incoming_does r messageId text ticketId
  generalize hds : deeds xs = ds at hcourse
  cases hcourse with
  | idle hidle =>
    rw [← hds] at hidle
    exact .inl (hidle.spares htidy)
  | @answered n _ ht hactive hanswers hsettled =>
    have hfound : (w.store.answer w.clock "" (.activeSession n.ticket.id)).1 =
        .ok (some n.session) := by
      rw [Store.answer_activeSession_eq, hactive]
    have hrecord := htidy.handedAt ((Store.activeSession_sessions hfound).1 _ rfl).1
    have hbegins : n.Begins w [] := .inl ⟨rfl, hrecord⟩
    exact .inr ⟨n, ht, hsettled.handsOver htidy hbegins hds, .inl ⟨hactive, hanswers, hrecord⟩⟩
  | @opened n begun rest ht hinactive hopens hsettled =>
    obtain ⟨o, ho⟩ := hopens.begun
    have hmem : begun ∈ deeds xs := hds ▸ List.mem_cons_self
    have hbegins : n.Begins w [begun] := .inr ⟨o, by rw [ho], hopens.fresh⟩
    exact .inr ⟨n, ht, hsettled.handsOver htidy hbegins hds,
      .inr ⟨hinactive, begun, (List.mem_filter.1 hmem).1, hopens⟩⟩

end Reception

/-- An office with the session that was asked whether it is done, where a closed ticket is opened by
its answer and nothing fails. -/
def soundOffice : World :=
  { tornOffice with
    desk := {
      tickets := [("ticket", { id := "ticket", contactId := "contact", status := "CLOSED" })] }
    trouble := {} }

/-- The ticket is handed over there, and that is noted. -/
theorem soundOffice_transfers :
    let j := ({} : Reception).incoming (.utc 1) "ticket" "m1" "Yes"
    let xs := j.transcript soundOffice
    let w' := (j.run soundOffice).2
    soundOffice.store.Tidy ∧ results Request.moves xs = [true] ∧
      results (Request.saves "s") xs = [true, true] ∧
      w'.desk.tickets =
        [("ticket", { id := "ticket", contactId := "contact", queueId := some "people" })] ∧
      w'.store.handedAt "s" = some (some (Moment.utc 1).instant) ∧
      ∃ n : Reception.Turn, n.HandsOver (.utc 1) xs soundOffice w' := by
  intro j xs w'
  have htidy : soundOffice.store.Tidy := tornOffice_tidy
  have hwent : (results Request.moves xs, results (Request.saves "s") xs) =
      ([true], [true, true]) := by
    decide +kernel
  obtain ⟨hmoves, hsaves⟩ := Prod.mk.inj hwent
  refine ⟨htidy, hmoves, hsaves, by decide +kernel, by decide +kernel, ?_⟩
  rcases Reception.incoming_transfers {} "m1" "Yes" "ticket" htidy with
    ⟨hnone, -⟩ | ⟨n, -, hands, -⟩
  · have hfalse : results Request.moves xs = [] :=
      results_eq_nil fun x hx => (hnone x hx).1
    rw [hmoves] at hfalse
    cases hfalse
  · exact ⟨n, hands⟩

end FrontDesk
