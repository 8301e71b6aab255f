/-
How a reception conducts itself.

While it deals with a message a reception asks for nothing but what it may (`World.May`): it begins a
session only where none goes on, what it saves was made from what it found, and what it puts on
record belongs to a session that is there. This is followed from request to request with what is
known of the world by then; that requests fail, or that someone else saves the session meanwhile,
does not change it (`Reception.incoming_conducts`).
-/
import FrontDesk.Proofs.Service.Bookkeeping
import FrontDesk.Proofs.Service.Record

namespace FrontDesk

open Calendar Service Store

/-! ## Worlds on the way -/

/-- A world on the way from the one in which a message came in. -/
structure World.Within (w₀ : World) (new : String → Prop) (w : World) : Prop where
  wellKept : w.WellKept
  since : World.Since new w₀ w
  make : w.store.isRelational = w₀.store.isRelational

/-- From this world on the job asks what it may, and comes to a world on the way; if it does not
fail, the result and the world are as wanted. -/
abbrev Job.Conducts {α : Type} (w₀ : World) (new : String → Prop) (now : Moment) (j : Job α)
    (w : World) (ok : α → World → Prop) : Prop :=
  j.Behaves (fun w r => w.May w₀ new now r) ok (fun _ => World.Within w₀ new) w

variable {w₀ w : World} {new : String → Prop} {now : Moment}

namespace World

theorem Within.refl (h : w₀.WellKept) : Within w₀ new w₀ := ⟨h, .refl w₀, rfl⟩

theorem Within.answer (h : Within w₀ new w) (hw₀ : w₀.WellKept) {r : Service.Request}
    (hmay : w.May w₀ new now r) : Within w₀ new (w.answer r).2 := by
  obtain ⟨hstep, hread⟩ := step_of_may h.wellKept hw₀ h.since h.make hmay
  exact ⟨hstep.wellKept h.wellKept hread, h.since.step hw₀ hstep,
    (w.isRelational_answer r).trans h.make⟩

theorem Within.inHand (h : Within w₀ new w) (hw₀ : w₀.WellKept) {r : Service.Request}
    (hmay : w.May w₀ new now r) {s : Session} (hs : w.InHand w₀ now s) :
    (w.answer r).2.InHand w₀ now s :=
  (step_of_may h.wellKept hw₀ h.since h.make hmay).1.inHand h.wellKept hs

theorem InHand.revise {s u : Session} (hs : w.InHand w₀ now s) (hkin : s.Kin u)
    (hversion : u.version = s.version) (hhistory : s.state.history <+: u.state.history)
    (hcompleted : u.completedAt = some now ∨ u.completedAt = s.completedAt)
    (htransferred : u.transferredAt = some now ∨ u.transferredAt = s.transferredAt) :
    w.InHand w₀ now u := by
  obtain ⟨old, hold, hkin', hle, hcontinues⟩ := hs.record
  refine ⟨⟨old, hkin.id ▸ hold, hkin'.trans hkin, hversion ▸ hle, fun hsame => ?_⟩,
    hkin.id ▸ hs.ongoing, fun time htime => ?_⟩
  · obtain ⟨hbefore, hdone, hmoved⟩ := hcontinues (hsame.trans hversion)
    refine ⟨hbefore.trans hhistory, ?_, ?_⟩
    · rcases hcompleted with hnow | hsame
      · exact .inl hnow
      · rw [hsame]
        exact hdone
    · rcases htransferred with hnow | hsame
      · exact .inl hnow
      · rw [hsame]
        exact hmoved
  · rcases htime with htime | htime
    · rcases hcompleted with hnow | hsame
      · exact .inl (Option.some.inj (htime.symm.trans hnow))
      · exact hs.times time (.inl (hsame ▸ htime))
    · rcases htransferred with hnow | hsame
      · exact .inl (Option.some.inj (htime.symm.trans hnow))
      · exact hs.times time (.inr (hsame ▸ htime))

theorem Within.congr (h : Within w₀ new w) {w' : World} (hstore : w'.store = w.store)
    (hids : w'.sessionIds = w.sessionIds) : Within w₀ new w' := by
  have hbook : w'.book = w.book := congrArg Store.book hstore
  refine ⟨h.wellKept.congr hstore hids, ⟨⟨hids ▸ h.since.ids, ?_⟩, ?_⟩, hstore ▸ h.make⟩
  · rw [hbook]
    exact h.since.grows
  · rw [hbook]
    exact h.since.closed

/-- The ticket that the helpdesk gives out is the one on its desk. -/
theorem ticket_of_answer {id : String} {tk? : Option Ticket}
    (h : (w.answer (.desk (.ticket id))).1 = .ok tk?) : w.desk.tickets.find? id = tk? := by
  unfold World.answer at h
  simp only at h
  split at h
  · cases h
  · obtain rfl := Except.ok.inj h
    exact (ite_self _).symm

theorem InHand.congr {s : Session} (hs : w.InHand w₀ now s) {w' : World}
    (hstore : w'.store = w.store) : w'.InHand w₀ now s := by
  have hbook : w'.book = w.book := congrArg Store.book hstore
  exact ⟨hbook ▸ hs.record, hs.ongoing, hs.times⟩

theorem Vacant.congr {ticketId : String} (h : w.Vacant ticketId) {w' : World}
    (hstore : w'.store = w.store) : w'.Vacant ticketId := by
  have hbook : w'.book = w.book := congrArg Store.book hstore
  rw [Vacant, hbook]
  exact h

theorem InHand.has {s : Session} (hs : w.InHand w₀ now s) : w.book.has s.id = true := by
  obtain ⟨old, hold, -⟩ := hs.record
  rw [Entries.has, hold]
  rfl

end World

open World

/-! ## Single requests -/

namespace Job

variable {α : Type}

theorem Conducts.log (p : World → Prop) {level : Level} {text : String}
    (h : ∀ w' : World, w'.store = w.store → w'.sessionIds = w.sessionIds → p w') :
    (Job.log level text).Conducts w₀ new now w fun _ => p :=
  Behaves.request trivial (fun _ _ => h _ rfl rfl) fun e he => by
    cases (answer_log _ _ _).symm.trans he

theorem Conducts.logged (h : Within w₀ new w) {level : Level} {text : String} :
    (Job.log level text).Conducts w₀ new now w fun _ => Within w₀ new :=
  Conducts.log (Within w₀ new) fun _ => h.congr

theorem Conducts.holding (h : Within w₀ new w) (hw₀ : w₀.WellKept) {r : Service.Request}
    (hmay : w.May w₀ new now r) {s : Session} (hs : w.InHand w₀ now s) :
    (Job.request r).Conducts w₀ new now w fun _ w' => Within w₀ new w' ∧ w'.InHand w₀ now s :=
  Behaves.request hmay (fun _ _ => ⟨h.answer hw₀ hmay, h.inHand hw₀ hmay hs⟩)
    fun _ _ => h.answer hw₀ hmay

theorem Conducts.ofExcept (h : Within w₀ new w) {ε : Type} {failure : ε → Failure}
    {x : Except ε α} : (Job.ofExcept failure x).Conducts w₀ new now w fun a w' =>
      x = .ok a ∧ w' = w :=
  Behaves.ofExcept (fun _ ha => ⟨ha, rfl⟩) fun _ _ => h

end Job

theorem mem_of_selectFlow {fs : List Flow} {f : Flow} {text : String}
    (h : selectFlow fs text = some f) : f ∈ fs := by
  unfold selectFlow at h
  simp only [Option.orElse_eq_orElse, Option.orElse_eq_or, Option.or_eq_some_iff] at h
  rcases h with h | ⟨-, h⟩
  · exact List.mem_of_find?_eq_some h
  · exact List.mem_of_find?_eq_some h

theorem Graph.run_history {g : Graph} {limit : Int} {stamp : String} {s : State}
    {current : Option String} {incoming : Incoming} {o : Outcome}
    (h : g.run limit stamp s current incoming = .ok o) : s.history <+: o.state.history := by
  rcases run_cases h with ⟨way, -, rfl⟩ | hr
  · simp only [image, List.append_assoc]
    exact List.prefix_append _ _
  · cases hr with
    | picksNothing | breaksRule => exact List.prefix_rfl

namespace Reception

variable {tk : Ticket} {f : Flow} {s : Session}

/-! ## Sending -/

/-- Terms for one who sends messages of a session, if there is one, and does nothing else. -/
def sendTerms (now : Moment) (sessionId : Option String) : Terms where
  may
    | .desk _ | .log .. => True
    | .store (.record i) => i.createdAt = now ∧ sessionId = some i.sessionId
    | _ => False
  gives _ _ := True

theorem sendTerms_letsSend (now : Moment) (sessionId : Option String) :
    (sendTerms now sessionId).LetsSend now sessionId :=
  ⟨⟨fun _ => trivial, fun _ _ => trivial⟩, fun _ htime hid => ⟨htime, hid⟩⟩

/-- A session stays at hand while its messages are sent. -/
theorem holding_conducts {α : Type} {j : Job α} (hw₀ : w₀.WellKept) (h : Within w₀ new w)
    (hs : w.InHand w₀ now s) {wanted : α → Prop} (hj : j.Keeps (sendTerms now (some s.id)) wanted) :
    j.Conducts w₀ new now w fun _ w' => Within w₀ new w' ∧ w'.InHand w₀ now s := by
  refine (hj.behaves (p := fun w' => Within w₀ new w' ∧ w'.InHand w₀ now s)
    (fun w r hw hr => ?_) ⟨h, hs⟩).mono (fun _ _ h => h) (fun _ _ h => h.2) fun _ _ h => h.1
  have hmay : w.May w₀ new now r := by
    cases r with
    | store r =>
      cases r with
      | record i => exact ⟨hr.1, by rw [← Option.some.inj hr.2]; exact hw.2.has⟩
      | _ => cases hr
    | desk r | log level text => trivial
    | newFlowId => cases hr
  exact ⟨hmay, ⟨hw.1.answer hw₀ hmay, hw.1.inHand hw₀ hmay hw.2⟩, fun _ _ => trivial⟩

/-- Messages are sent outside of any session. -/
theorem outside_conducts {α : Type} {j : Job α} (hw₀ : w₀.WellKept) (h : Within w₀ new w)
    {wanted : α → Prop} (hj : j.Keeps (sendTerms now none) wanted) :
    j.Conducts w₀ new now w fun a w' => wanted a ∧ Within w₀ new w' := by
  refine hj.behaves (p := Within w₀ new) (fun w r hw hr => ?_) h
  have hmay : w.May w₀ new now r := by
    cases r with
    | store r =>
      cases r with
      | record i => cases hr.2
      | _ => cases hr
    | desk r | log level text => trivial
    | newFlowId => cases hr
  exact ⟨hmay, hw.answer hw₀ hmay, fun _ _ => trivial⟩

/-- Nothing of what is said outside of a session is put on record. -/
theorem dispatch_conducts (hw₀ : w₀.WellKept) (h : Within w₀ new w) (ms : List Outbound) :
    (dispatch now tk none ms).Conducts w₀ new now w fun _ => Within w₀ new :=
  (outside_conducts hw₀ h (dispatch_keeps (sendTerms_letsSend now none) ms)).mono
    (fun _ _ h => h) (fun _ _ h => h.2) fun _ _ h => h

/-! ## After a run -/

theorem advance_history (now : Moment) (s : Session) (o : Outcome) (waited : Option Waiting) :
    (advance now s o waited).state.history = o.state.history := by
  unfold advance
  simp only
  split
  · split <;> rfl
  · rfl

theorem advance_inHand (hs : w.InHand w₀ now s) {o : Outcome} {waited : Option Waiting}
    (hhistory : s.state.history <+: o.state.history) :
    w.InHand w₀ now (advance now s o waited) := by
  have hcompleted : (advance now s o waited).completedAt =
      if o.completed then some now else s.completedAt := by
    unfold advance
    simp only
    split
    · split <;> rfl
    · rfl
  have hsame : s.Kin (advance now s o waited) ∧
      (advance now s o waited).version = s.version ∧
      (advance now s o waited).transferredAt = s.transferredAt := by
    unfold advance
    simp only
    split
    · split <;> exact ⟨⟨rfl, rfl, rfl, rfl, rfl⟩, rfl, rfl⟩
    · exact ⟨⟨rfl, rfl, rfl, rfl, rfl⟩, rfl, rfl⟩
  obtain ⟨hkin, hversion, htransferred⟩ := hsame
  refine hs.revise hkin hversion ?_ ?_ (.inr htransferred)
  · rw [advance_history]
    exact hhistory
  · rw [hcompleted]
    split
    · exact .inl rfl
    · exact .inr rfl

/-- What is given back of a session that was saved is at hand. -/
theorem saveSession_conducts (hw₀ : w₀.WellKept) (h : Within w₀ new w) (hs : w.InHand w₀ now s)
    (hsound : s.Sound) :
    (Job.store (.saveSession s)).Conducts w₀ new now w fun x w' =>
      Within w₀ new w' ∧ w'.InHand w₀ now x ∧ x.Sound := by
  have hmay : w.May w₀ new now (.store (.saveSession s)) := ⟨hs, hsound⟩
  refine Job.Behaves.request hmay (fun x hx => ⟨h.answer hw₀ hmay, ?_⟩) fun _ _ => h.answer hw₀ hmay
  obtain ⟨ids, hids, hsaved⟩ := answer_of_ok hx
  rcases w.answer_store_cases (.saveSession s) with hfails | ⟨ids', hids', hanswer⟩
  · rw [hfails] at hx
    cases hx
  · obtain ⟨-, -, hknown⟩ := saveSession_step new (w.answer (.store (.saveSession s))).2
      h.wellKept hs hsound (by rw [hanswer]) (by rw [hanswer, hids']; rfl)
    rw [hids'.trans hids.symm] at hknown
    obtain ⟨rfl, hhand⟩ := hknown x hsaved
    exact ⟨hhand, hsound.congr rfl rfl rfl⟩

theorem handOver_conducts (hw₀ : w₀.WellKept) (h : Within w₀ new w) (hs : w.InHand w₀ now s)
    (hsound : s.Sound) (queue : Option String) :
    (handOver now tk f s queue).Conducts w₀ new now w fun _ => Within w₀ new := by
  unfold handOver
  refine .bind (Job.Conducts.holding h hw₀ (r := .log _ _) trivial hs) fun _ w₁ h₁ => ?_
  refine .bind (Job.Conducts.holding h₁.1 hw₀ (r := .desk (.transfer _ _)) trivial h₁.2)
    fun moved w₂ h₂ => ?_
  have hhand : w₂.InHand w₀ now { s with transferredAt := some now } :=
    h₂.2.revise ⟨rfl, rfl, rfl, rfl, rfl⟩ rfl List.prefix_rfl (.inr rfl) (.inl rfl)
  refine .bind (saveSession_conducts hw₀ h₂.1 hhand (hsound.congr rfl rfl rfl))
    fun saved w₃ h₃ => ?_
  have htell := (sendTerms_letsSend now none).toLetsTell
  refine .bind (outside_conducts hw₀ h₃.1 (announce_keeps htell _ _)) fun _ w₄ h₄ => ?_
  exact .pure h₄.2

theorem apply_conducts (hw₀ : w₀.WellKept) (h : Within w₀ new w) (hs : w.InHand w₀ now s)
    {o : Outcome} {waited : Option Waiting} (ho : (advance now s o waited).Sound)
    (hhistory : s.state.history <+: o.state.history) :
    (Reception.apply now tk f s o waited).Conducts w₀ new now w fun _ => Within w₀ new := by
  have hsend := sendTerms_letsSend now (some s.id)
  unfold Reception.apply
  refine .bind (holding_conducts hw₀ h hs (logDefects_keeps hsend.toLetsTell _))
    fun _ w₁ h₁ => ?_
  refine .bind (holding_conducts hw₀ h₁.1 h₁.2 (dispatch_keeps hsend _)) fun _ w₂ h₂ => ?_
  refine .bind (holding_conducts hw₀ h₂.1 h₂.2 (dispatch_keeps hsend _)) fun _ w₃ h₃ => ?_
  refine .bind (saveSession_conducts hw₀ h₃.1 (advance_inHand h₃.2 hhistory) ho)
    fun saved w₄ h₄ => ?_
  split
  · exact handOver_conducts hw₀ h₄.1 h₄.2.1 h₄.2.2 _
  · exact .pure h₄.1

/-! ## A message comes in -/

/-- Terms for one who only writes to the log. -/
def logTerms : Terms where
  may
    | .log .. => True
    | _ => False
  gives _ _ := True

theorem graphOf_conducts (h : Within w₀ new w) :
    (graphOf f).Conducts w₀ new now w fun g? w' =>
      (∀ g, g? = some g → Graph.ofJson (.object f.definition) = .ok g) ∧
        w'.store = w.store ∧ w'.sessionIds = w.sessionIds := by
  have hkeeps := graphOf_keeps (t := logTerms) (f := f) fun _ _ => trivial
  refine (hkeeps.behaves (p := fun w' => w'.store = w.store ∧ w'.sessionIds = w.sessionIds)
    (fun w' r hsame hr => ?_) ⟨rfl, rfl⟩).mono (fun _ _ h => h) (fun _ _ h => h)
    fun _ _ hsame => h.congr hsame.1 hsame.2
  cases r with
  | log level text => exact ⟨trivial, hsame, fun _ _ => trivial⟩
  | store r | desk r | newFlowId => cases hr

theorem openSession_conducts (hw₀ : w₀.WellKept) (h : Within w₀ new w) {o : Opening}
    (ho : w.MayOpen new o) :
    (Job.store (.openSession o)).Conducts w₀ new now w fun s w' =>
      Within w₀ new w' ∧ w'.InHand w₀ now s ∧ s.Sound ∧ s.completedAt = none ∧ s.state = {} := by
  have hmay : w.May w₀ new now (.store (.openSession o)) := ho
  refine Job.Behaves.request hmay (fun s hs => ⟨h.answer hw₀ hmay, ?_⟩)
    fun _ _ => h.answer hw₀ hmay
  obtain ⟨ids, hids, hbegun⟩ := answer_of_ok hs
  rcases w.answer_store_cases (.openSession o) with hfails | ⟨ids', hids', hanswer⟩
  · rw [hfails] at hs
    cases hs
  · obtain rfl : ids = w.sessionIds + 1 := hids
    obtain rfl : ids' = w.sessionIds + 1 := hids'
    exact (openSession_step now (w.answer (.store (.openSession o))).2 h.wellKept hw₀ h.since ho
      (by rw [hanswer]) (by rw [hanswer])).2.2 s hbegun

variable {r : Reception} {g : Graph} {messageId text : String}

theorem recordContact_conducts (hw₀ : w₀.WellKept) (h : Within w₀ new w)
    (hs : w.InHand w₀ now s) :
    (recordContact now s messageId text).Conducts w₀ new now w fun _ w' =>
      Within w₀ new w' ∧ w'.InHand w₀ now s := by
  have hmay : w.May w₀ new now (.store (.record
      { sessionId := s.id, sender := .contact, message := text, nodeId := none
        metadata := [("messageId", .string messageId)], createdAt := now })) := ⟨rfl, hs.has⟩
  exact Job.Conducts.holding h hw₀ hmay hs

theorem begin_conducts (hw₀ : w₀.WellKept) (h : Within w₀ new w)
    (hg : Graph.ofJson (.object f.definition) = .ok g) (hflow : f ∈ w.catalog.values)
    (hvacant : w.Vacant tk.id) (hnew : new tk.id) :
    (r.begin now tk f g messageId text).Conducts w₀ new now w fun _ => Within w₀ new := by
  have hread := Graph.ofJson_wellRead hg
  unfold Reception.begin
  refine .bind (Job.Conducts.log (fun w' => w'.store = w.store ∧
    w'.sessionIds = w.sessionIds) fun _ hstore hids => ⟨hstore, hids⟩) fun _ w₁ hsame => ?_
  have h₁ := h.congr hsame.1 hsame.2
  have ho : w₁.MayOpen new
      { flowId := f.id, ticketId := tk.id, contactId := some tk.contactId
        currentNode := some g.entry, state := {} } := by
    refine ⟨rfl, ⟨g.entry, rfl, hread.entry⟩, hnew, ?_, ⟨f, ?_, rfl⟩⟩
    · exact hvacant.congr hsame.1
    · rw [World.catalog, hsame.1]
      exact hflow
  refine .bind (openSession_conducts hw₀ h₁ ho) fun s w₂ h₂ => ?_
  obtain ⟨h₂, hs, -, hopen, hstate⟩ := h₂
  refine .bind (recordContact_conducts hw₀ h₂ hs) fun _ w₃ h₃ => ?_
  refine .bind (Job.Conducts.ofExcept h₃.1) ?_
  rintro o _ ⟨ho, rfl⟩
  have hsound := g.run_sound hread State.storable_empty rfl (by simp) now.isoText_ne_empty
    (fun _ => rfl) ho
  refine apply_conducts hw₀ h₃.1 h₃.2 (advance_sound hsound hopen) ?_
  rw [hstate]
  exact Graph.run_history ho

theorem openWith_conducts (hw₀ : w₀.WellKept) (h : Within w₀ new w) (hvacant : w.Vacant tk.id)
    (hnew : new tk.id) :
    (r.openWith now tk messageId text).Conducts w₀ new now w fun _ => Within w₀ new := by
  unfold openWith
  have hmay : w.May w₀ new now (.store .activeFlows) := rfl
  refine .bind (m := fun flows w' => Within w₀ new w' ∧ w'.Vacant tk.id ∧
    ∀ f ∈ flows, f ∈ w'.catalog.values) ?_ fun flows w₁ h₁ => ?_
  · refine Job.Behaves.request hmay (fun flows hflows => ?_) fun _ _ => h.answer hw₀ hmay
    refine ⟨h.answer hw₀ hmay, ?_, fun f hf => ?_⟩
    · rw [Vacant, World.book_answer rfl]
      exact hvacant
    · rw [World.catalog_answer rfl]
      obtain ⟨ids, -, hanswer⟩ := answer_of_ok hflows
      exact mem_of_answer_activeFlows hanswer hf
  obtain ⟨h₁, hvacant, hflows⟩ := h₁
  split
  · exact .pure h₁
  split
  · exact .bind (Job.Conducts.logged h₁) fun _ _ h => .pure h
  next f hf =>
  refine .bind (graphOf_conducts h₁) fun g? w₂ h₂ => ?_
  obtain ⟨hg, hsame⟩ := h₂
  have h₂ := h₁.congr hsame.1 hsame.2
  split
  · exact .pure h₂
  next g =>
  refine .bind (Job.Conducts.ofExcept h₂) ?_
  rintro isOpen _ ⟨-, rfl⟩
  split
  · refine .map (begin_conducts hw₀ h₂ (hg g rfl) ?_ ?_ hnew)
    · rw [World.catalog, hsame.1]
      exact hflows f (mem_of_selectFlow hf)
    · exact hvacant.congr hsame.1
  · refine .bind (Job.Conducts.logged h₂) fun _ w₃ h₃ => ?_
    generalize [(⟨"", r.offlineText f (Schedule.ofJson f.scheduleJson)⟩ : Outbound)] = ms
    exact .bind (dispatch_conducts hw₀ h₃ ms) fun _ _ h => .pure h

theorem goOn_conducts (hw₀ : w₀.WellKept) (h : Within w₀ new w) (hs : w.InHand w₀ now s)
    (hsound : s.Sound) (hopen : s.completedAt = none) :
    (r.goOn now tk s messageId text).Conducts w₀ new now w fun _ => Within w₀ new := by
  unfold goOn
  refine .bind (Job.Conducts.holding h hw₀ (r := .store (.flow _)) rfl hs) fun f? w₁ h₁ => ?_
  split
  · exact .bind (Job.Conducts.logged h₁.1) fun _ _ h => .pure h
  next f =>
  refine .bind (graphOf_conducts h₁.1) fun g? w₂ h₂ => ?_
  obtain ⟨hg, hsame⟩ := h₂
  have h₂ := h₁.1.congr hsame.1 hsame.2
  split
  · exact .pure h₂
  next g =>
  have hread := Graph.ofJson_wellRead (hg g rfl)
  refine .bind (recordContact_conducts hw₀ h₂ (h₁.2.congr hsame.1)) fun _ w₃ h₃ => ?_
  refine .bind (Job.Conducts.ofExcept h₃.1) ?_
  rintro o _ ⟨ho, rfl⟩
  have hsound' := g.run_sound hread hsound.storable (hsound.completed_eq_none hopen) hsound.keys
    now.isoText_ne_empty (by simp) ho
  refine .map (apply_conducts hw₀ h₃.1 h₃.2 ?_ (Graph.run_history ho))
  rw [advance_waiting ho]
  exact advance_sound hsound' hopen

theorem activeSession_conducts (hw₀ : w₀.WellKept) (h : Within w₀ new w) (ticketId : String) :
    (Job.store (.activeSession ticketId)).Conducts w₀ new now w fun s? w' => Within w₀ new w' ∧
      (∀ s, s? = some s → w'.InHand w₀ now s ∧ s.Sound ∧ s.completedAt = none) ∧
      (s? = none → w'.Vacant ticketId) := by
  have hmay : w.May w₀ new now (.store (.activeSession ticketId)) := rfl
  refine Job.Behaves.request hmay (fun s? hs => ⟨h.answer hw₀ hmay, ?_, ?_⟩)
    fun _ _ => h.answer hw₀ hmay
  · intro s hsome
    obtain ⟨ids, -, hanswer⟩ := answer_of_ok hs
    obtain ⟨hhand, hsound, hopen, -⟩ :=
      (activeSession_known now h.wellKept h.since h.make hanswer).1 s hsome
    exact ⟨h.inHand hw₀ hmay hhand, hsound, hopen⟩
  · intro hnone
    obtain ⟨ids, -, hanswer⟩ := answer_of_ok hs
    rw [Vacant, World.book_answer rfl]
    exact (activeSession_known now h.wellKept h.since h.make hanswer).2 hnone

/-- **While a reception deals with a message it asks for nothing but what it may.** -/
theorem incoming_conducts (new : String → Prop) (now : Moment) (ticketId messageId text : String)
    (hw₀ : w₀.WellKept) (hnew : ∀ t, w₀.desk.tickets.find? ticketId = some t → new t.id) :
    (r.incoming now ticketId messageId text).Conducts w₀ new now w₀ fun _ => Within w₀ new := by
  have h : Within w₀ new w₀ := .refl hw₀
  refine .orLog ?_ fun w' h' => Job.Conducts.logged h'
  unfold process
  have hmay : w₀.May w₀ new now (.desk (.ticket ticketId)) := trivial
  refine .bind (m := fun tk? w' => Within w₀ new w' ∧ ∀ tk, tk? = some tk → new tk.id) ?_
    fun tk? w₁ h₁ => ?_
  · refine Job.Behaves.request hmay (fun tk? htk => ⟨h.answer hw₀ hmay, fun tk hsome => ?_⟩)
      fun _ _ => h.answer hw₀ hmay
    exact hnew tk ((ticket_of_answer htk).trans hsome)
  obtain ⟨h₁, hnew⟩ := h₁
  split
  · exact .bind (Job.Conducts.logged h₁) fun _ _ h => .pure h
  next tk =>
  split
  · exact .pure h₁
  refine .bind (activeSession_conducts hw₀ h₁ tk.id) fun s? w₂ h₂ => ?_
  obtain ⟨h₂, hfound, hnone⟩ := h₂
  split
  · exact openWith_conducts hw₀ h₂ (hnone rfl) (hnew tk rfl)
  next s =>
    obtain ⟨hs, hsound, hopen⟩ := hfound s rfl
    exact goOn_conducts hw₀ h₂ hs hsound hopen

end Reception

end FrontDesk
