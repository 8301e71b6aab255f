/-
What a message makes of its session, all or nothing.

Much can go wrong between looking up a session and handing its ticket over. Whatever does, what is
stored of the session afterwards is the record from before, or that record with the run in it, or the
latter with the time of the hand-over; which of them it is follows from how two saves and a transfer
went (`Reception.Turnout`), and nothing else counts once the run is saved.
-/
import FrontDesk.Proofs.Service.Utterance

namespace FrontDesk

open Calendar Service Service.Exchange Store

/-! ## Records of a session -/

/-- Two records that say the same, but for the clocks on which times are given and for the time of
the last save. -/
structure Session.Agrees (s s' : Session) : Prop where
  kin : s.Kin s'
  currentNode : s'.currentNode = s.currentNode
  state : s'.state = s.state
  version : s'.version = s.version
  completedAt : s'.completedAt.map Moment.instant = s.completedAt.map Moment.instant
  transferredAt : s'.transferredAt.map Moment.instant = s.transferredAt.map Moment.instant

namespace Session

theorem Agrees.trans {s s' s'' : Session} (h : s.Agrees s') (h' : s'.Agrees s'') : s.Agrees s'' :=
  ⟨h.kin.trans h'.kin, h'.currentNode.trans h.currentNode, h'.state.trans h.state,
    h'.version.trans h.version, h'.completedAt.trans h.completedAt,
    h'.transferredAt.trans h.transferredAt⟩

/-- A session with a run in it. -/
def advanced (s : Session) (now : Moment) (o : Outcome) : Session :=
  { s with
    state := o.state
    currentNode := some o.next
    completedAt := if o.completed then some now else s.completedAt
    version := s.version + 1 }

/-- A session with a run in it that was handed over. -/
def handedOver (s : Session) (now : Moment) (o : Outcome) : Session :=
  { s.advanced now o with transferredAt := some now, version := s.version + 2 }

theorem handedOver_agrees {s u : Session} {now : Moment} {o : Outcome}
    (h : (s.advanced now o).Agrees u) (time : Moment) :
    (s.handedOver now o).Agrees (Memory.saved { u with transferredAt := some now } time) where
  kin := ⟨h.kin.id, h.kin.flowId, h.kin.ticketId, h.kin.contactId, h.kin.createdAt⟩
  currentNode := h.currentNode
  state := h.state
  version := by
    have hversion : u.version = s.version + 1 := h.version
    simp only [Memory.saved, handedOver, hversion]
    omega
  completedAt := h.completedAt
  transferredAt := rfl

end Session

namespace Store

variable {st : Store} {now : Moment} {id : String}

theorem rowMoment?_instant {time? row? : Option Moment} (h : rowMoment? time? = .ok row?) :
    row?.map Moment.instant = time?.map Moment.instant := by
  cases time? with
  | none => cases h; rfl
  | some time =>
    cases hrow : rowMoment time with
    | error e => simp [rowMoment?, hrow, Functor.map, Except.map] at h
    | ok row =>
      have hsome : row? = some row := by
        simpa [rowMoment?, hrow, Functor.map, Except.map, eq_comm] using h
      simp [hsome, rowMoment_instant hrow]

theorem read_mem {rec : Stored} (hrec : st.stored? id = some rec) (now : Moment) :
    rec.read now ∈ st.sessions now := by
  cases st with
  | memory m =>
    obtain ⟨s, hs, rfl⟩ := Option.map_eq_some_iff.1 hrec
    exact Entries.mem_values_of_find? hs
  | relational t =>
    obtain ⟨row, hrow, rfl⟩ := Option.map_eq_some_iff.1 hrec
    rw [sessions, table, Entries.values_mapValues]
    exact List.mem_map_of_mem (Entries.mem_values_of_find? hrow)

theorem Tidy.read_id (h : st.Tidy) {rec : Stored} (hrec : st.stored? id = some rec)
    (now : Moment) : (rec.read now).id = id := by
  cases st with
  | memory m =>
    obtain ⟨s, hs, rfl⟩ := Option.map_eq_some_iff.1 hrec
    exact Entries.Tidy.id_of_find? h hs
  | relational t =>
    obtain ⟨row, hrow, rfl⟩ := Option.map_eq_some_iff.1 hrec
    exact Entries.Tidy.id_of_find? h hrow

theorem storable_read {rec : Stored} (hrec : st.stored? id = some rec) (now : Moment)
    (hmake : st.isRelational = true) : (rec.read now).state.Storable := by
  cases st with
  | memory m => cases hmake
  | relational t =>
    obtain ⟨row, -, rfl⟩ := Option.map_eq_some_iff.1 hrec
    exact State.ofJson_storable now.isoText_ne_empty row.state

/-- To save a session fails and changes nothing, or what is stored says what the session does, in
its next version. -/
theorem saveSession_agrees (st : Store) (now : Moment) (id : String) {u : Session}
    (hkin : ∀ rec, st.stored? u.id = some rec → (rec.read now).Kin u)
    (hstate : st.isRelational = true → u.state.Storable) :
    (∃ e, st.answer now id (.saveSession u) = (.error e, st)) ∨
      ∃ st' rec, st.answer now id (.saveSession u) = (.ok (Memory.saved u now), st') ∧
        st'.stored? u.id = some rec ∧ ∀ time, (Memory.saved u now).Agrees (rec.read time) := by
  cases st with
  | memory m =>
    simp only [answer, Memory.answer, Memory.saveSession]
    split
    · exact .inl ⟨_, rfl⟩
    split
    · exact .inl ⟨_, rfl⟩
    · exact .inr ⟨_, .session (Memory.saved u now), rfl,
        by simp [stored?, Entries.find?_put], fun _ => ⟨.refl _, rfl, rfl, rfl, rfl, rfl⟩⟩
  | relational t =>
    simp only [answer, Relational.answer, Relational.saveSession]
    cases hchange : Relational.rowChange now u with
    | error e => exact .inl ⟨e, rfl⟩
    | ok change =>
    obtain ⟨updatedAt, completedAt, transferredAt, hcompleted, htransferred, rfl⟩ :=
      rowChange_ok hchange
    cases hfind : t.sessions.find? u.id with
    | none => exact .inl ⟨_, rfl⟩
    | some row =>
    simp only
    split
    · exact .inl ⟨_, rfl⟩
    refine .inr ⟨_, .row _, rfl, by simp only [stored?, Entries.find?_put]; rfl, fun time => ?_⟩
    have hkin := (hkin (.row row) (by simp [stored?, hfind])).symm
    exact ⟨⟨hkin.id, hkin.flowId, hkin.ticketId, hkin.contactId, hkin.createdAt⟩, rfl,
      State.ofJson_toJson (hstate rfl) _, rfl, rowMoment?_instant hcompleted,
      rowMoment?_instant htransferred⟩

end Store

/-! ## How requests went -/

namespace Service.Request

/-- Whether a request looks up the flow. -/
def looksUp (flowId : String) : Request → Bool
  | .store (.flow id) => id == flowId
  | _ => false

/-- Whether a request puts what the contact said in the session on record. -/
def hears (key : String) : Request → Bool
  | .store (.record i) => i.sender == .contact && i.sessionId == key
  | _ => false

/-- Whether a request saves the session. -/
def saves (key : String) : Request → Bool
  | .store (.saveSession s) => s.id == key
  | _ => false

/-- Whether a request moves a ticket. -/
def moves : Request → Bool
  | .desk (.transfer ..) => true
  | _ => false

/-- Whether a request leaves what is stored of the session as it is. -/
def leaves (key : String) : Request → Bool
  | .store (.saveSession s) => s.id != key
  | .store r => !r.touchesSessions
  | _ => true

end Service.Request

/-- Whether a request can change what is stored of any session. -/
def Service.Request.touches : Service.Request → Bool
  | .store r => r.touchesSessions
  | _ => false

/-- How the requests of a kind went. -/
def Service.Exchange.results (p : Service.Request → Bool) (xs : List Exchange) : List Bool :=
  (xs.filter fun x => p x.request).map isGranted

namespace Service.Exchange

variable {p : Service.Request → Bool} {xs ys : List Exchange}

theorem results_append (p : Service.Request → Bool) (xs ys : List Exchange) :
    results p (xs ++ ys) = results p xs ++ results p ys := by
  simp [results]

theorem results_cons (p : Request → Bool) (x : Exchange) (xs : List Exchange) :
    results p (x :: xs) = if p x.request then x.isGranted :: results p xs else results p xs := by
  rw [results, List.filter_cons]
  split <;> rfl

theorem results_eq_nil (h : ∀ x ∈ xs, p x.request = false) : results p xs = [] := by
  rw [results, List.filter_eq_nil_iff.2 fun x hx => by simp [h x hx], List.map_nil]

end Service.Exchange

theorem Service.Request.of_touches {r : Service.Request} (h : r.touches = false) (key : String) :
    r.saves key = false ∧ r.leaves key = true := by
  cases r with
  | desk | log | newFlowId => exact ⟨rfl, rfl⟩
  | store r =>
    cases r with
    | openSession | saveSession | deleteFlow => cases h
    | _ => exact ⟨rfl, rfl⟩

theorem Service.Request.saves_of_leaves {r : Request} {key : String} (h : r.leaves key = true) :
    r.saves key = false := by
  cases r with
  | desk | log | newFlowId => rfl
  | store r =>
    cases r with
    | saveSession u => simpa [leaves, saves] using h
    | _ => rfl

theorem Service.Request.of_isSpeech {r : Request} (h : r.isSpeech = true) (key : String) :
    r.looksUp key = false ∧ r.hears key = false ∧ r.saves key = false ∧ r.moves = false ∧
      r.leaves key = true := by
  cases r with
  | log => exact ⟨rfl, rfl, rfl, rfl, rfl⟩
  | newFlowId => cases h
  | desk r =>
    cases r with
    | ticket | transfer => cases h
    | persist | deliver | notify | touch => exact ⟨rfl, rfl, rfl, rfl, rfl⟩
  | store r =>
    cases r with
    | record i =>
      have hbot : i.sender = .bot := by simpa [isSpeech] using h
      exact ⟨rfl, by simp [hears, hbot], rfl, rfl, rfl⟩
    | _ => cases h

/-! ## What is left alone -/

/-- What is stored of the session is as it was, in a world like before. -/
structure World.Leaves (key : String) (w w' : World) : Prop where
  stored : w'.store.stored? key = w.store.stored? key
  make : w'.store.isRelational = w.store.isRelational
  trouble : w'.trouble = w.trouble
  clock : w'.clock = w.clock

namespace World

variable {key : String} {w w' w'' : World}

theorem Leaves.refl (key : String) (w : World) : Leaves key w w := ⟨rfl, rfl, rfl, rfl⟩

theorem Leaves.trans (h : Leaves key w w') (h' : Leaves key w' w'') : Leaves key w w'' :=
  ⟨h'.stored.trans h.stored, h'.make.trans h.make, h'.trouble.trans h.trouble,
    h'.clock.trans h.clock⟩

theorem store_desk (halone : w.trouble.rivalSaves = false) (r : Helpdesk.Request) :
    (w.answer (.desk r)).2.store = w.store := by
  rcases w.answer_cases (.desk r) with ⟨-, hanswer⟩ | ⟨-, hanswer⟩ <;> rw [hanswer]
  cases r with
  | deliver t body => simp [perform, askDesk, interfere, halone]
  | ticket | transfer | persist | notify | touch => rfl

theorem Leaves.answer (halone : w.trouble.rivalSaves = false) {r : Service.Request}
    (hr : r.leaves key = true) : Leaves key w (w.answer r).2 := by
  refine ⟨?_, w.isRelational_answer r, (w.answer_trouble r).1, (w.answer_trouble r).2⟩
  cases r with
  | log | newFlowId => rfl
  | desk r => rw [store_desk halone]
  | store r =>
    rcases w.answer_store_cases r with hanswer | ⟨ids, -, hanswer⟩
    · rw [hanswer]
    rw [hanswer]
    by_cases htouches : r.touchesSessions = false
    · exact sessions_answer htouches key
    cases r with
    | saveSession s =>
      have hne : s.id ≠ key := by simpa [Request.leaves] using hr
      rcases w.store.saveSession_cases w.clock (numbered "session" ids) s with
        ⟨e, he, -⟩ | ⟨x, st', old, new, hx, haccepts⟩
      · rw [he]
      · rw [hx, haccepts.stored key, if_neg (Ne.symm hne)]
    | _ => simp_all [Request.leaves]

end World

/-- What a job leaves alone with each request it leaves alone. -/
theorem Job.leaves {α : Type} {key : String} {j : Job α} {w : World}
    (halone : w.trouble.rivalSaves = false)
    (h : ∀ x ∈ j.transcript w, x.request.leaves key = true) : World.Leaves key w (j.run w).2 :=
  run_of_transcript (fun r => r.leaves key = true)
    (fun _ _ hw hr => hw.trans (.answer (by rw [hw.trouble, halone]) hr)) h (.refl key w)

namespace Job.Sent

variable {α : Type} {ps : List Service.Request} {xs : List Exchange} {x : Except Failure α}

theorem results_saves (h : Sent ps xs x) (key : String) :
    results (Service.Request.saves key) xs = [] :=
  results_eq_nil fun y hy => (Service.Request.of_isSpeech (h.speech y hy) key).2.2.1

theorem results_moves (h : Sent ps xs x) : results Service.Request.moves xs = [] :=
  results_eq_nil fun y hy => (Service.Request.of_isSpeech (h.speech y hy) "").2.2.2.1

theorem leaves (h : Sent ps xs x) (key : String) : ∀ y ∈ xs, y.request.leaves key = true :=
  fun y hy => (Service.Request.of_isSpeech (h.speech y hy) key).2.2.2.2

end Job.Sent

/-! ## Saving and handing over -/

namespace Reception

open Job

/-- What a run comes to for its session, by how the saves of the session and the transfer of its
ticket went. -/
inductive Turnout (now : Moment) (rec : Stored) (s : Session) (o : Outcome) :
    (saves moves : List Bool) → Option Stored → Prop where
  /-- The run was not saved. -/
  | refused : Turnout now rec s o [false] [] (some rec)
  /-- The run was saved, and the ticket is not to be handed over. -/
  | stays {rec' : Stored} (transferred : o.transferred = false)
    (record : ∀ time, (s.advanced now o).Agrees (rec'.read time)) :
    Turnout now rec s o [true] [] (some rec')
  /-- The run was saved, but the ticket was not handed over. -/
  | unmoved {rec' : Stored} (transferred : o.transferred = true)
    (record : ∀ time, (s.advanced now o).Agrees (rec'.read time)) :
    Turnout now rec s o [true] [false] (some rec')
  /-- The run was saved and the ticket handed over, but that was not noted. -/
  | unnoted {rec' : Stored} (transferred : o.transferred = true)
    (record : ∀ time, (s.advanced now o).Agrees (rec'.read time)) :
    Turnout now rec s o [true, false] [true] (some rec')
  /-- The run was saved, the ticket was handed over, and that was noted. -/
  | noted {rec' : Stored} (transferred : o.transferred = true)
    (record : ∀ time, (s.handedOver now o).Agrees (rec'.read time)) :
    Turnout now rec s o [true, true] [true] (some rec')

variable {w : World} {now : Moment} {t : Ticket} {f : Flow} {s : Session} {o : Outcome}
  {rec : Stored}

/-- A session is saved, or it stays as it is. -/
theorem answer_save {u : Session} {key : String} (hid : u.id = key)
    (hrec : w.store.stored? key = some rec) (hkin : (rec.read w.clock).Kin u)
    (hstate : w.store.isRelational = true → u.state.Storable) :
    ((∃ e, (w.answer (.store (.saveSession u))).1 = .error e) ∧
        (w.answer (.store (.saveSession u))).2.store.stored? key = some rec) ∨
      (w.answer (.store (.saveSession u))).1 = .ok (Memory.saved u w.clock) ∧
        ∃ rec', (w.answer (.store (.saveSession u))).2.store.stored? key = some rec' ∧
          ∀ time, (Memory.saved u w.clock).Agrees (rec'.read time) := by
  subst hid
  rcases w.answer_store_cases (.saveSession u) with hanswer | ⟨ids, -, hanswer⟩
  · rw [hanswer]
    exact .inl ⟨⟨_, rfl⟩, hrec⟩
  · rcases saveSession_agrees w.store w.clock (World.numbered "session" ids) (u := u)
      (fun rec' hrec' => by rw [hrec] at hrec'; cases hrec'; exact hkin) hstate with
      ⟨e, he⟩ | ⟨st', rec', hx, hfound, hagrees⟩
    · rw [hanswer, he]
      exact .inl ⟨⟨_, rfl⟩, hrec⟩
    · rw [hanswer, hx]
      exact .inr ⟨rfl, rec', hfound, hagrees⟩

/-- What is asked while a session is settled. -/
def settles (key : String) (r : Service.Request) : Bool :=
  r.saves key || r.moves || r.isSpeech

theorem of_settles {key : String} {r : Service.Request} (h : settles key r = true) (other : String) :
    r.looksUp other = false ∧ r.hears other = false ∧
      (other ≠ key → r.leaves other = true) := by
  rw [settles, Bool.or_eq_true, Bool.or_eq_true] at h
  rcases h with (h | h) | h
  · cases r with
    | store r =>
      cases r with
      | saveSession u =>
        have hid : u.id = key := by simpa [Request.saves] using h
        exact ⟨rfl, rfl, fun hne => by simpa [Request.leaves, hid] using Ne.symm hne⟩
      | _ => cases h
    | desk | log | newFlowId => cases h
  · cases r with
    | desk r => exact ⟨rfl, rfl, fun _ => rfl⟩
    | store | log | newFlowId => cases h
  · obtain ⟨hlooks, hhears, -, -, hleaves⟩ := Request.of_isSpeech h other
    exact ⟨hlooks, hhears, fun _ => hleaves⟩

theorem handOver_turnout (rec : Stored) {u : Session} {rec₁ : Stored} (halone : w.trouble.rivalSaves = false)
    (hrec : w.store.stored? s.id = some rec₁)
    (hagrees : ∀ time, (s.advanced now o).Agrees (rec₁.read time))
    (hstate : w.store.isRelational = true → o.state.Storable)
    (hu : (s.advanced now o).Agrees u) (htransferred : o.transferred = true)
    (queue : Option String) :
    (handOver now t f u queue).Recounts w fun xs _ w' =>
      (∀ x ∈ xs, settles s.id x.request = true) ∧
        Turnout now rec s o (true :: results (Request.saves s.id) xs) (results Request.moves xs)
          (w'.store.stored? s.id) := by
  have hid : u.id = s.id := hu.kin.id.symm
  unfold handOver
  refine .log ?_
  generalize hw₁ : (w.answer _).2 = w₁
  have h₁ : World.Leaves s.id w w₁ := hw₁ ▸ World.Leaves.answer halone rfl
  have hmove (q : Option String) : World.Leaves s.id w (w₁.answer (.desk (.transfer t q))).2 :=
    h₁.trans (.answer (by rw [h₁.trouble, halone]) rfl)
  refine .asked (fun moved _ => ?_) fun e _ => ?_
  · generalize hw₂ : (w₁.answer _).2 = w₂
    have h₂ : World.Leaves s.id w w₂ := hw₂ ▸ hmove _
    have hkin : (rec₁.read w₂.clock).Kin { u with transferredAt := some now } :=
      (hagrees w₂.clock).kin.symm.trans ⟨hu.kin.id, hu.kin.flowId, hu.kin.ticketId,
        hu.kin.contactId, hu.kin.createdAt⟩
    have hcases := answer_save (w := w₂) (u := { u with transferredAt := some now }) hid
      (by rw [h₂.stored, hrec]) hkin fun hmake => by
        rw [hu.state]
        exact hstate (h₂.make ▸ hmake)
    refine .asked (fun x hx => ?_) fun e he => ?_
    · rcases hcases with ⟨⟨e, he⟩, -⟩ | ⟨-, rec₂, hfound, hrec₂⟩
      · rw [he] at hx
        cases hx
      have halone₃ : (w₂.answer (.store (.saveSession { u with
          transferredAt := some now }))).2.trouble.rivalSaves = false := by
        rw [(w₂.answer_trouble _).1, h₂.trouble, halone]
      refine (announce_sends _ _ _).then fun _ hxs => .pure ?_
      rw [List.append_nil, (Job.leaves halone₃ (hxs.leaves s.id)).stored, hfound]
      refine ⟨?_, ?_⟩
      · simp only [List.forall_mem_cons]
        exact ⟨rfl, rfl, by simp [settles, Request.saves, hid], fun y hy => by
          simp [settles, hxs.speech y hy]⟩
      · simp only [results_cons, hxs.results_saves, hxs.results_moves]
        simp [Request.saves, Request.moves, isGranted, hid]
        exact .noted htransferred fun time => (Session.handedOver_agrees hu _).trans (hrec₂ time)
    · rcases hcases with ⟨-, hkept⟩ | ⟨hok, -⟩
      · refine ⟨by simp [settles, Request.saves, Request.isSpeech, Request.moves, hid], ?_⟩
        simp [results, Request.saves, Request.moves, isGranted, hid, hkept]
        exact .unnoted htransferred hagrees
      · rw [hok] at he
        cases he
  · refine ⟨by simp [settles, Request.isSpeech, Request.moves], ?_⟩
    rw [(hmove _).stored, hrec]
    exact .unmoved htransferred hagrees

/-- The session is saved, and its ticket is handed over if the run wants it. -/
theorem settle_turnout {waited : Option Waiting} (halone : w.trouble.rivalSaves = false)
    (hrec : w.store.stored? s.id = some rec) (hkin : (rec.read w.clock).Kin s)
    (hstate : w.store.isRelational = true → o.state.Storable)
    (hwaited : advance now s o waited = advance now s o none) :
    (settle now t f s o waited).Recounts w fun xs _ w' =>
      (∀ x ∈ xs, settles s.id x.request = true) ∧
        Turnout now rec s o (results (Request.saves s.id) xs) (results Request.moves xs)
          (w'.store.stored? s.id) := by
  unfold settle
  rw [hwaited]
  have hagrees : (s.advanced now o).Agrees (Memory.saved (advance now s o none) w.clock) :=
    ⟨⟨rfl, rfl, rfl, rfl, rfl⟩, rfl, rfl, rfl, rfl, rfl⟩
  have hid : (advance now s o none).id = s.id := rfl
  have hcases := answer_save (w := w) (u := advance now s o none) hid hrec
    (hkin.trans ⟨rfl, rfl, rfl, rfl, rfl⟩) hstate
  have hsaves : Request.saves s.id (.store (.saveSession (advance now s o none))) = true := by
    simp [Request.saves, advance]
  have hsettles : settles s.id (.store (.saveSession (advance now s o none))) = true := by
    simp [settles, hsaves]
  have hmoves : Request.moves (.store (.saveSession (advance now s o none))) = false := rfl
  refine .asked (fun x hx => ?_) fun e he => ?_
  · rcases hcases with ⟨⟨e, he⟩, -⟩ | ⟨hsaved, rec', hfound, hrec'⟩
    · rw [he] at hx
      cases hx
    obtain rfl : Memory.saved (advance now s o none) w.clock = x := Except.ok.inj (hsaved ▸ hx)
    have hrecord (time : Moment) : (s.advanced now o).Agrees (rec'.read time) :=
      hagrees.trans (hrec' time)
    split
    next htransferred =>
      refine (handOver_turnout rec ?_ hfound hrecord ?_ hagrees htransferred o.queue).mono
        fun xs _ w' hxs => ⟨List.forall_mem_cons.2 ⟨hsettles, hxs.1⟩, ?_⟩
      · rw [(w.answer_trouble _).1, halone]
      · rw [w.isRelational_answer]
        exact hstate
      · simp only [results_cons, hsaves, hmoves, if_true, Bool.false_eq_true, if_false]
        exact hxs.2
    next hstays =>
      refine .pure ⟨by simpa using hsettles, ?_⟩
      simp only [results_cons, hsaves, hmoves, if_true, Bool.false_eq_true, if_false, hfound]
      exact .stays (eq_false_of_ne_true hstays) hrecord
  · rcases hcases with ⟨-, hkept⟩ | ⟨hsaved, -⟩
    · refine ⟨by simpa using hsettles, ?_⟩
      simp only [results_cons, hsaves, hmoves, if_true, Bool.false_eq_true, if_false, hkept]
      exact .refused
    · rw [hsaved] at he
      cases he

/-- What a run says goes before that, and makes no difference. -/
theorem apply_turnout {waited : Option Waiting} (halone : w.trouble.rivalSaves = false)
    (hrec : w.store.stored? s.id = some rec) (hkin : (rec.read w.clock).Kin s)
    (hstate : w.store.isRelational = true → o.state.Storable)
    (hwaited : advance now s o waited = advance now s o none) :
    (Reception.apply now t f s o waited).Recounts w fun xs _ w' =>
      (∀ x ∈ xs, settles s.id x.request = true) ∧
        Turnout now rec s o (results (Request.saves s.id) xs) (results Request.moves xs)
          (w'.store.stored? s.id) := by
  rw [apply_eq]
  refine (sayAll_sends now t f s o w).then fun _ hxs => ?_
  have hleaves := Job.leaves halone (hxs.leaves s.id)
  refine (settle_turnout (by rw [hleaves.trouble, halone]) (by rw [hleaves.stored, hrec])
    (by rw [hleaves.clock]; exact hkin) (by rw [hleaves.make]; exact hstate) hwaited).mono
    fun ys _ w' hys => ⟨fun y hy => ?_, ?_⟩
  · rcases List.mem_append.1 hy with hy | hy
    · simp [settles, hxs.speech y hy]
    · exact hys.1 y hy
  · rw [results_append, results_append, hxs.results_saves, hxs.results_moves]
    exact hys.2

/-! ## A message comes in -/

/-- The run that answers a message was made, with all that it depends on, and came to a turnout. -/
def Taken (now : Moment) (rec : Stored) (s : Session) (o : Outcome) (xs : List Exchange)
    (after : Option Stored) : Prop :=
  results (Request.looksUp s.flowId) xs = [true] ∧ results (Request.hears s.id) xs = [true] ∧
    Turnout now rec s o (results (Request.saves s.id) xs) (results Request.moves xs) after

/-- Nothing was asked but such requests, for a reason: something was refused, or there was no run to
be made. -/
def Untaken (p : Service.Request → Prop) (xs : List Exchange) (idle : Prop) : Prop :=
  (∀ x ∈ xs, p x.request) ∧ (Thwarted xs ∨ idle)

namespace Untaken

variable {p q : Service.Request → Prop} {xs : List Exchange} {idle idle' : Prop}

theorem nil (h : idle) : Untaken p [] idle := ⟨List.forall_mem_nil _, .inr h⟩

theorem here {r : Service.Request} (hr : World.isOutside r && !r.isSending) (hp : p r)
    (e : Failure) : Untaken p [⟨r, .error e⟩] idle :=
  ⟨List.forall_mem_cons.2 ⟨hp, List.forall_mem_nil _⟩, .inl (.here hr e [])⟩

theorem later {x : Exchange} (h : Untaken p xs idle) (hp : p x.request) :
    Untaken p (x :: xs) idle :=
  ⟨List.forall_mem_cons.2 ⟨hp, h.1⟩, h.2.imp_left (·.later x)⟩

theorem imp (h : Untaken p xs idle) (hp : ∀ r, p r → q r) (hidle : idle → idle') :
    Untaken q xs idle' :=
  ⟨fun x hx => hp _ (h.1 x hx), h.2.imp_right hidle⟩

end Untaken

/-- Nothing is touched that is stored of any session. -/
def Shy (r : Service.Request) : Prop := r.touches = false

/-- The message is put on record and answered by a run of the graph. -/
theorem answer_taken (r : Reception) (now : Moment) (t : Ticket) (g : Graph)
    (messageId text : String) (halone : w.trouble.rivalSaves = false)
    (hrec : w.store.stored? s.id = some rec) (hkin : (rec.read w.clock).Kin s)
    (hstate : ∀ o, g.run r.limit now.isoText s.state s.currentNode (.answer text) = .ok o →
      w.store.isRelational = true → o.state.Storable) :
    (do
      recordContact now s messageId text
      let o ← Job.ofExcept .pattern
        (g.run r.limit now.isoText s.state s.currentNode (.answer text))
      some <$> Reception.apply now t f s o s.state.waiting : Job (Option Session)).Recounts w
      fun xs _ w' =>
        Untaken Shy xs
          (∃ e, g.run r.limit now.isoText s.state s.currentNode (.answer text) = .error e) ∨
        ∃ o, g.run r.limit now.isoText s.state s.currentNode (.answer text) = .ok o ∧
          Taken now rec s o (⟨.store (.flow s.flowId), .ok (some f)⟩ :: xs)
            (w'.store.stored? s.id) ∧
          ∀ key ≠ s.id, ∀ x ∈ xs, x.request.leaves key = true := by
  refine .asked (fun _ _ => ?_) fun e _ => .inl (.here rfl (by rfl) e)
  generalize hw₁ : (w.answer _).2 = w₁
  have h₁ : World.Leaves s.id w w₁ := hw₁ ▸ .answer halone rfl
  cases ho : g.run r.limit now.isoText s.state s.currentNode (.answer text) with
  | error e => exact .inl (.later (.nil ⟨e, rfl⟩) (by rfl))
  | ok o =>
  have hrec₁ : w₁.store.stored? s.id = some rec := h₁.stored.trans hrec
  have hkin₁ : (rec.read w₁.clock).Kin s := h₁.clock ▸ hkin
  refine .map ((apply_turnout (h₁.trouble ▸ halone) hrec₁ hkin₁ (h₁.make ▸ hstate o ho)
    (advance_waiting ho)).mono fun xs _ w' hxs => .inr ⟨o, rfl, ⟨?_, ?_, ?_⟩, fun key hne => ?_⟩)
  · have hlooks : results (Request.looksUp s.flowId) xs = [] :=
      results_eq_nil fun x hx => (of_settles (hxs.1 x hx) _).1
    simp [results_cons, hlooks, Request.looksUp, isGranted]
  · have hhears : results (Request.hears s.id) xs = [] :=
      results_eq_nil fun x hx => (of_settles (hxs.1 x hx) _).2.1
    simp [results_cons, hhears, Request.hears, isGranted]
  · simpa [results_cons, Request.saves, Request.moves] using hxs.2
  · exact List.forall_mem_cons.2 ⟨rfl, fun x hx => (of_settles (hxs.1 x hx) key).2.2 hne⟩

theorem goOn_taken (r : Reception) (now : Moment) (t : Ticket) (messageId text : String)
    (halone : w.trouble.rivalSaves = false) (hrec : w.store.stored? s.id = some rec)
    (hread : rec.read w.clock = s) :
    (r.goOn now t s messageId text).Recounts w fun xs _ w' =>
      Untaken Shy xs (r.reply? now w.store text s = none) ∨
      ∃ o, r.reply? now w.store text s = some o ∧
        Taken now rec s o xs (w'.store.stored? s.id) ∧
        ∀ key ≠ s.id, ∀ x ∈ xs, x.request.leaves key = true := by
  unfold goOn
  refine .asked (fun f? hf => ?_) fun e _ => .inl (.here rfl (by rfl) e)
  obtain ⟨ids, -, hfound⟩ := World.answer_of_ok hf
  rw [Store.answer_flow] at hfound
  obtain rfl := Except.ok.inj hfound
  have h₁ : World.Leaves s.id w (w.answer (.store (.flow s.flowId))).2 := .answer halone rfl
  generalize (w.answer (.store (.flow s.flowId))).2 = w₁ at h₁
  cases hflow : w.store.flow? s.flowId with
  | none => exact .log (.pure (.inl (.later (.later (.nil (by simp [reply?, hflow])) (by rfl)) (by rfl))))
  | some f =>
  simp only
  unfold graphOf
  cases hg : Graph.ofJson (.object f.definition) with
  | error e =>
    have hidle : r.reply? now w.store text s = none := by
      simp [reply?, hflow, hg, Except.toOption]
    simp only
    split
    · rw [bind_assoc]
      exact .log (.pure (.inl (.later (.later (.nil hidle) (by rfl)) (by rfl))))
    · exact .inl (.later (.nil hidle) (by rfl))
  | ok g =>
  have hrec₁ : w₁.store.stored? s.id = some rec := h₁.stored.trans hrec
  have hkin₁ : (rec.read w₁.clock).Kin s := by
    rw [h₁.clock, hread]
    exact .refl s
  have hstate (o : Outcome)
      (ho : g.run r.limit now.isoText s.state s.currentNode (.answer text) = .ok o)
      (hmake : w₁.store.isRelational = true) : o.state.Storable := by
    have hstorable := storable_read hrec w.clock (h₁.make ▸ hmake)
    rw [hread] at hstorable
    exact Graph.run_storable (Graph.ofJson_wellRead hg) hstorable now.isoText_ne_empty ho
  have hreply : r.reply? now w.store text s =
      (g.run r.limit now.isoText s.state s.currentNode (.answer text)).toOption := by
    simp [reply?, hflow, hg, Except.toOption]
  refine (answer_taken r now t g messageId text (h₁.trouble ▸ halone) hrec₁ hkin₁
    hstate).mono fun xs _ w' hxs => ?_
  rw [hreply]
  rcases hxs with huntaken | ⟨o, ho, htaken, hleaves⟩
  · refine .inl ((huntaken.imp (fun _ h => h) ?_).later (by rfl))
    rintro ⟨e, he⟩
    rw [he]
    rfl
  · refine .inr ⟨o, by rw [ho]; rfl, htaken, fun key hne => ?_⟩
    exact List.forall_mem_cons.2 ⟨rfl, hleaves key hne⟩

theorem found_active {ticketId : String} {s? : Option Session} (htidy : w.store.Tidy)
    (hrec : w.store.stored? s.id = some rec) (hread : rec.read w.clock = s)
    (hactive : s.isActiveOn ticketId = true)
    (hs : w.store.activeSession ticketId w.clock = .ok s?) :
    ∃ s' rec', s? = some s' ∧ w.store.stored? s'.id = some rec' ∧ rec'.read w.clock = s' := by
  obtain ⟨hsome, hnone⟩ := activeSession_sessions hs
  cases s? with
  | none =>
    have hidle := hnone rfl s (hread ▸ read_mem hrec w.clock)
    rw [hactive] at hidle
    cases hidle
  | some s' =>
    obtain ⟨rec', hrec', hread'⟩ := htidy.stored_of_mem (hsome s' rfl).1
    exact ⟨s', rec', rfl, hrec', hread'⟩

/-- A message on the ticket of a session is one for the session: no agent is in charge of the ticket,
and it is this session that goes on there. -/
def Reaches (w : World) (s : Session) : Prop :=
  ∃ t, w.desk.tickets.find? s.ticketId = some t ∧ t.hasAgent = false ∧
    w.store.activeSession t.id w.clock = .ok (some s)

theorem process_taken (r : Reception) (now : Moment) (messageId text : String)
    (htidy : w.store.Tidy) (halone : w.trouble.rivalSaves = false)
    (hrec : w.store.stored? s.id = some rec) (hread : rec.read w.clock = s)
    (hactive : s.completedAt = none)
    (hticket : ∀ t, w.desk.tickets.find? s.ticketId = some t → t.id = s.ticketId) :
    (r.process now s.ticketId messageId text).Recounts w fun xs _ w' =>
      Untaken (fun q => q.leaves s.id = true) xs
          (r.reply? now w.store text s = none ∨ ¬ Reaches w s) ∨
        ∃ o, r.reply? now w.store text s = some o ∧
          Taken now rec s o xs (w'.store.stored? s.id) := by
  unfold process
  refine .asked (fun t? ht => ?_) fun e _ => .inl (.here rfl (by rfl) e)
  obtain rfl := World.ticket_of_answer ht
  have hstore₁ := w.store_ticket s.ticketId
  obtain ⟨htrouble₁, hclock₁⟩ := w.answer_trouble (.desk (.ticket s.ticketId))
  generalize (w.answer (.desk (.ticket s.ticketId))).2 = w₁ at hstore₁ htrouble₁ hclock₁
  cases hfind : w.desk.tickets.find? s.ticketId with
  | none =>
    have hidle : ¬ Reaches w s := by simp [Reaches, hfind]
    exact .log (.pure (.inl (.later (.later (.nil (.inr hidle)) (by rfl)) (by rfl))))
  | some t =>
  simp only
  split
  next hagent =>
    have hidle : ¬ Reaches w s := by simp [Reaches, hfind, hagent]
    exact .pure (.inl (.later (.nil (.inr hidle)) (by rfl)))
  refine .asked (fun s? hs => ?_) fun e _ => .inl (.later (.here rfl (by rfl) e) (by rfl))
  obtain ⟨ids, -, hfound⟩ := World.answer_of_ok hs
  rw [Store.answer_activeSession_eq, hstore₁, hclock₁] at hfound
  have hon : s.isActiveOn t.id = true := by
    simp [Session.isActiveOn, Session.isActive, hactive, hticket t hfind]
  obtain ⟨s', rec', rfl, hrec', hread'⟩ := found_active htidy hrec hread hon hfound
  have hstore₂ := World.store_lookup (w := w₁)
    fun id => Store.answer_activeSession_eq w₁.store w₁.clock id t.id
  obtain ⟨htrouble₂, hclock₂⟩ := w₁.answer_trouble (.store (.activeSession t.id))
  generalize (w₁.answer (.store (.activeSession t.id))).2 = w₂ at hstore₂ htrouble₂ hclock₂
  refine (goOn_taken r now t messageId text (by rw [htrouble₂, htrouble₁, halone])
    (by rw [hstore₂, hstore₁, hrec']) (by rw [hclock₂, hclock₁, hread'])).mono
    fun xs _ w' hxs => ?_
  rw [hstore₂, hstore₁] at hxs
  by_cases hid : s.id = s'.id
  · -- it is the session itself that was found
    obtain rfl : rec' = rec := by
      rw [← hid, hrec] at hrec'
      exact (Option.some.inj hrec').symm
    obtain rfl : s' = s := hread'.symm.trans hread
    rcases hxs with huntaken | ⟨o, hreply, ⟨hlooks, hhears, hturnout⟩, -⟩
    · exact .inl (((huntaken.imp (fun q hq => (Request.of_touches hq s'.id).2) .inl).later
        (by rfl)).later (by rfl))
    · refine .inr ⟨o, hreply, ?_, ?_, ?_⟩
      · simpa [results_cons, Request.looksUp] using hlooks
      · simpa [results_cons, Request.hears] using hhears
      · simpa [results_cons, Request.saves, Request.moves] using hturnout
  · have hidle : ¬ Reaches w s := by
      rintro ⟨t', ht', -, hs'⟩
      rw [hfind] at ht'
      cases ht'
      have hsame : some s = some s' := Except.ok.inj (hs'.symm.trans hfound)
      exact hid (congrArg Session.id (Option.some.inj hsame))
    have hleaves : ∀ x ∈ xs, x.request.leaves s.id = true := by
      rcases hxs with huntaken | ⟨o, -, -, hleaves⟩
      · exact fun x hx => (Request.of_touches (huntaken.1 x hx) s.id).2
      · exact hleaves s.id hid
    exact .inl (Untaken.later (Untaken.later ⟨hleaves, .inr (.inr hidle)⟩ (by rfl)) (by rfl))

/-- **A message updates its session all or nothing**, whatever fails while nobody else is at work on
the session. Either it is stored as before and none of its saves was so much as attempted, and then
something was refused, or there is no run to be made, or the message is not one for the session; or
the flow was looked up, the message was put on record and answered by a run, and what is stored
follows from how the saves of the session and the transfer of its ticket went. -/
theorem incoming_all_or_nothing (r : Reception) (now : Moment) (messageId text : String)
    {key : String} (htidy : w.store.Tidy) (halone : w.trouble.rivalSaves = false)
    (hrec : w.store.stored? key = some rec) (hactive : (rec.read w.clock).completedAt = none)
    (hticket : ∀ t, w.desk.tickets.find? (rec.read w.clock).ticketId = some t →
      t.id = (rec.read w.clock).ticketId) :
    let s := rec.read w.clock
    let j := r.incoming now s.ticketId messageId text
    let xs := j.transcript w
    let after := (j.run w).2.store.stored? key
    (after = some rec ∧ results (Request.saves key) xs = [] ∧
        (Thwarted xs ∨ r.reply? now w.store text s = none ∨ ¬ Reaches w s)) ∨
      ∃ o, r.reply? now w.store text s = some o ∧
        results (Request.looksUp s.flowId) xs = [true] ∧
        results (Request.hears key) xs = [true] ∧
        Turnout now rec s o (results (Request.saves key) xs) (results Request.moves xs) after := by
  intro s j xs after
  obtain rfl : s.id = key := htidy.read_id hrec w.clock
  have hprocess := process_taken r now messageId text htidy halone hrec rfl hactive hticket
  have hincoming : j.Recounts w fun xs _ w' =>
      Untaken (fun q => q.leaves s.id = true) xs
          (r.reply? now w.store text s = none ∨ ¬ Reaches w s) ∨
        ∃ o, r.reply? now w.store text s = some o ∧
          Taken now rec s o xs (w'.store.stored? s.id) := by
    refine .orLog hprocess (fun _ _ _ h => h) fun xs e w' h => ?_
    rcases h with ⟨hleaves, hwhy⟩ | ⟨o, hreply, hlooks, hhears, hturnout⟩
    · refine .inl ⟨fun x hx => ?_, hwhy.imp_left (·.append _)⟩
      rcases List.mem_append.1 hx with hx | hx
      · exact hleaves x hx
      · rw [List.mem_singleton.1 hx]
        rfl
    · refine .inr ⟨o, hreply, ?_, ?_, ?_⟩
      · rw [results_append, hlooks]
        rfl
      · rw [results_append, hhears]
        rfl
      · rw [← List.append_nil (results (Request.saves s.id) xs),
          ← List.append_nil (results Request.moves xs)] at hturnout
        rw [results_append, results_append]
        exact hturnout
  rcases hincoming with ⟨hleaves, hwhy⟩ | htaken
  · refine .inl ⟨(Job.leaves halone hleaves).stored.trans hrec, results_eq_nil fun x hx => ?_, hwhy⟩
    exact Request.saves_of_leaves (hleaves x hx)
  · exact .inr htaken

end Reception

/-- A session that was asked whether it is done. -/
def doubtful : Session where
  id := "s"
  flowId := "flow"
  ticketId := "ticket"
  contactId := some "contact"
  currentNode := some "ask"
  state := { waiting := some ⟨"ask", .question⟩ }
  createdAt := .utc 0
  updatedAt := .utc 0

/-- An office with that session, where the second save of it fails. -/
def tornOffice : World where
  clock := .utc 5
  store := .memory { flows := [("flow", parting)], sessions := [("s", doubtful)] }
  desk := { tickets := [("ticket", { id := "ticket", contactId := "contact" })] }
  trouble :=
    { outage := fun _ r => match r with
        | .store (.saveSession s) => s.version == 1
        | _ => false }

theorem tornOffice_tidy : tornOffice.store.Tidy :=
  ⟨by decide, by simp [doubtful]⟩

/-- The ticket is handed over there, and the session has the run in it but not the hand-over. -/
theorem tornOffice_unnoted :
    let j := ({} : Reception).incoming (.utc 1) "ticket" "m1" "Yes"
    tornOffice.store.Tidy ∧ tornOffice.store.stored? "s" = some (.session doubtful) ∧
      doubtful.completedAt = none ∧
      (∀ t, tornOffice.desk.tickets.find? "ticket" = some t → t.id = "ticket") ∧
      results (Service.Request.saves "s") (j.transcript tornOffice) = [true, false] ∧
      results Service.Request.moves (j.transcript tornOffice) = [true] ∧
      ∃ o rec, o.transferred = true ∧ (j.run tornOffice).2.store.stored? "s" = some rec ∧
        ∀ time, (doubtful.advanced (.utc 1) o).Agrees (rec.read time) := by
  intro j
  have hticket (t : Ticket) (ht : tornOffice.desk.tickets.find? "ticket" = some t) :
      t.id = "ticket" := by
    cases ht
    rfl
  have hwent : (results (Service.Request.saves "s") (j.transcript tornOffice),
      results Service.Request.moves (j.transcript tornOffice)) = ([true, false], [true]) := by
    decide +kernel
  obtain ⟨hsaves, hmoves⟩ := Prod.mk.inj hwent
  have hread : Stored.read tornOffice.clock (.session doubtful) = doubtful := rfl
  have hon : doubtful.ticketId = "ticket" := rfl
  have hall := Reception.incoming_all_or_nothing {} (.utc 1) "m1" "Yes" tornOffice_tidy rfl
    (show tornOffice.store.stored? "s" = some (.session doubtful) from rfl) rfl hticket
  simp only [hread, hon] at hall
  refine ⟨tornOffice_tidy, rfl, rfl, hticket, hsaves, hmoves, ?_⟩
  rcases hall with ⟨-, hnone, -⟩ | ⟨o, -, -, -, hturnout⟩
  · rw [hsaves] at hnone
    cases hnone
  · rw [hsaves, hmoves] at hturnout
    generalize (j.run tornOffice).2.store.stored? "s" = after at hturnout ⊢
    cases hturnout with
    | unnoted htransferred hrecord => exact ⟨o, _, htransferred, rfl, hrecord⟩

end FrontDesk
