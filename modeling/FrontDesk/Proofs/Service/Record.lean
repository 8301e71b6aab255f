/-
Sessions on record, whatever a service goes through.

A reception asks its store for sound sessions only, and editing flows asks for none. So in every
world that messages, edits, failures and changes at the helpdesk lead to, from one that had no
sessions, all sessions on record are sound.
-/
import FrontDesk.Proofs.Service.Answers
import FrontDesk.Proofs.Store.Record
import FrontDesk.Service.Editing

namespace FrontDesk

open Calendar Service

/-! ## Worlds -/

namespace World

variable {w : World}

theorem askStore_sound (hw : w.store.Sound) (r : Store.Request)
    (hmay : soundTerms.may (.store r)) :
    (w.askStore r).2.store.Sound ∧
      ∀ a, (w.askStore r).1 = .ok a → soundTerms.gives (.store r) a :=
  Store.answer_sound hw w.clock _ r hmay

/-- What someone else does meanwhile keeps sessions sound: the session is saved as it was found. -/
theorem interfere_sound (hw : w.store.Sound) (r : Helpdesk.Request) :
    (w.interfere r).store.Sound := by
  obtain ⟨store, hstore, rfl | ⟨ticketId, s, id, hfound, rfl⟩⟩ := w.interfere_eq r <;> rw [hstore]
  · exact hw
  · obtain ⟨-, hgives⟩ := Store.answer_sound hw w.clock id (.activeSession ticketId) trivial
    exact (Store.answer_sound hw w.clock id (.saveSession s) (hgives _ hfound s rfl).1).1

theorem answer_sound (w : World) (r : Request) (hw : w.store.Sound) (hmay : soundTerms.may r) :
    (w.answer r).2.store.Sound ∧ ∀ a, (w.answer r).1 = .ok a → soundTerms.gives r a := by
  rw [answer_eq]
  split
  · exact ⟨hw, by rintro _ ⟨⟩⟩
  · cases r with
    | store r =>
      obtain ⟨hnext, hgives⟩ :=
        askStore_sound (w := { w with asked := w.asked + 1 }) hw r hmay
      refine ⟨hnext, fun a ha => hgives a ?_⟩
      simp only [perform] at ha
      cases hx : (askStore { w with asked := w.asked + 1 } r).1 with
      | ok b =>
        rw [hx] at ha
        exact congrArg Except.ok (Except.ok.inj ha)
      | error e =>
        rw [hx] at ha
        cases ha
    | desk r =>
      exact ⟨interfere_sound (w := { w with asked := w.asked + 1 }) hw r, fun _ _ => trivial⟩
    | log level text => exact ⟨hw, fun _ _ => trivial⟩
    | newFlowId => exact ⟨hw, fun _ _ => trivial⟩

end World

/-! ## Sending -/

/-- Terms that let one use the helpdesk and write to the log. -/
structure Terms.LetsTell (t : Terms) : Prop where
  desk : ∀ r, t.may (.desk r)
  log : ∀ level text, t.may (.log level text)

/-- Moreover, they let one put messages of that time on record in that session, if there is one. -/
structure Terms.LetsSend (t : Terms) (now : Moment) (sessionId : Option String) : Prop
    extends Terms.LetsTell t where
  record : ∀ i : Interaction, i.createdAt = now → sessionId = some i.sessionId →
    t.may (.store (.record i))

theorem soundTerms_letsTell : soundTerms.LetsTell := ⟨fun _ => trivial, fun _ _ => trivial⟩

theorem soundTerms_letsSend {now : Moment} {sessionId : Option String} :
    soundTerms.LetsSend now sessionId := ⟨soundTerms_letsTell, fun _ _ _ => trivial⟩

namespace Reception

variable {t : Terms} {now : Moment} {tk : Ticket} {f : Flow} {s : Session}
  {sessionId : Option String}

theorem tryDesk_keeps (ht : t.LetsTell) (r : Helpdesk.Request) (text : String) (a : r.Answer) :
    ((Job.desk r).orLog text a).Keeps t fun _ => True :=
  Job.Keeps.orLog (ht.log _ _) ((Job.Keeps.desk r (ht.desk r)).mono fun _ _ => trivial) trivial

theorem announce_keeps (ht : t.LetsTell) (event : String) (payload : Json) :
    (announce event payload).Keeps t fun _ => True :=
  tryDesk_keeps ht (.notify event payload) _ _

theorem recordBot_keeps (ht : t.LetsSend now sessionId) (m : Outbound) (content : String) :
    (recordBot now sessionId m content).Keeps t fun _ => True := by
  unfold recordBot
  split
  · exact Job.Keeps.orLog (ht.log _ _)
      ((Job.Keeps.store (.record _) (ht.record _ rfl rfl)).mono fun _ _ => trivial) trivial
  · exact Job.Keeps.pure trivial

theorem announceStored_keeps (ht : t.LetsTell) (stored : Json) :
    (announceStored tk stored).Keeps t fun _ => True := by
  unfold announceStored
  split
  · exact announce_keeps ht _ _
  · exact Job.Keeps.pure trivial

theorem send_keeps (ht : t.LetsSend now sessionId) (m : Outbound) :
    (send now tk sessionId m).Keeps t fun _ => True := by
  have htell := ht.toLetsTell
  unfold send
  split
  · exact Job.Keeps.pure trivial
  next content hcontent =>
  refine Job.Keeps.bind (tryDesk_keeps htell (.persist tk content) _ _) fun stored _ => ?_
  refine Job.Keeps.bind (recordBot_keeps ht m content) fun _ _ => ?_
  refine Job.Keeps.bind (tryDesk_keeps htell (.deliver tk content) _ _) fun _ _ => ?_
  exact announceStored_keeps htell stored

theorem sendAll_keeps (ht : t.LetsSend now sessionId) (ms : List Outbound) :
    (sendAll now tk sessionId ms).Keeps t fun _ => True := by
  induction ms with
  | nil => exact Job.Keeps.pure trivial
  | cons m rest ih => exact Job.Keeps.bind (send_keeps ht m) fun _ _ => ih

theorem dispatch_keeps (ht : t.LetsSend now sessionId) (ms : List Outbound) :
    (dispatch now tk sessionId ms).Keeps t fun _ => True := by
  unfold dispatch
  split
  · exact Job.Keeps.pure trivial
  · refine Job.Keeps.bind (sendAll_keeps ht ms) fun _ _ => ?_
    exact tryDesk_keeps ht.toLetsTell (.touch tk now) _ _

theorem logDefects_keeps (ht : t.LetsTell) (ds : List Diagnostic) :
    (logDefects f s ds).Keeps t fun _ => True := by
  induction ds with
  | nil => exact Job.Keeps.pure trivial
  | cons d rest ih => exact Job.Keeps.bind (Job.Keeps.log (ht.log _ _)) fun _ _ => ih

/-! ## What is saved -/

theorem handOver_sound (hs : s.Sound) (queue : Option String) :
    (handOver now tk f s queue).Keeps soundTerms fun _ => True := by
  unfold handOver
  refine Job.Keeps.bind (Job.Keeps.log trivial) fun _ _ => ?_
  refine Job.Keeps.bind (Job.Keeps.desk (.transfer _ _) trivial) fun moved _ => ?_
  have hsaved : Session.Sound { s with transferredAt := some now } := hs.congr rfl rfl rfl
  refine Job.Keeps.bind (Job.Keeps.store (.saveSession _) hsaved) fun saved _ => ?_
  refine Job.Keeps.bind (announce_keeps soundTerms_letsTell _ _) fun _ _ => ?_
  exact Job.Keeps.pure trivial

theorem apply_sound {o : Outcome} {waited : Option Waiting} (ho : (advance now s o waited).Sound) :
    (Reception.apply now tk f s o waited).Keeps soundTerms fun _ => True := by
  unfold Reception.apply
  refine Job.Keeps.bind (logDefects_keeps soundTerms_letsTell _) fun _ _ => ?_
  refine Job.Keeps.bind (dispatch_keeps soundTerms_letsSend _) fun _ _ => ?_
  refine Job.Keeps.bind (dispatch_keeps soundTerms_letsSend _) fun _ _ => ?_
  refine Job.Keeps.bind (Job.Keeps.store (.saveSession _) ho) fun saved hsaved => ?_
  split
  · exact handOver_sound hsaved _
  · exact Job.Keeps.pure trivial

theorem graphOf_keeps (hlog : ∀ level text, t.may (.log level text)) :
    (graphOf f).Keeps t fun g? =>
      ∀ g, g? = some g → Graph.ofJson (.object f.definition) = .ok g := by
  unfold graphOf
  split
  next g hg => exact Job.Keeps.pure (by rintro _ ⟨⟩; exact hg)
  next e he =>
    split
    · refine Job.Keeps.bind (Job.Keeps.log (hlog _ _)) fun _ _ => ?_
      exact Job.Keeps.pure (by rintro _ ⟨⟩)
    · exact .failed

variable {r : Reception} {g : Graph} {messageId text : String}

theorem begin_sound (hg : g.WellRead) :
    (r.begin now tk f g messageId text).Keeps soundTerms fun _ => True := by
  unfold Reception.begin
  refine Job.Keeps.bind (Job.Keeps.log trivial) fun _ _ => ?_
  refine Job.Keeps.bind (Job.Keeps.store (.openSession _) ?_) fun s hs => ?_
  · exact Store.Memory.begin_sound rfl hg.entry rfl
  refine Job.Keeps.bind (Job.Keeps.store (.record _) trivial) fun _ _ => ?_
  refine Job.Keeps.bind Job.Keeps.ofExcept fun o ho => ?_
  have hsound := g.run_sound hg State.storable_empty rfl (by simp) now.isoText_ne_empty
    (fun _ => rfl) ho
  exact apply_sound (advance_sound hsound hs.2)

theorem openWith_sound :
    (r.openWith now tk messageId text).Keeps soundTerms fun _ => True := by
  unfold openWith
  refine Job.Keeps.bind (Job.Keeps.store .activeFlows trivial) fun flows _ => ?_
  split
  · exact Job.Keeps.pure trivial
  split
  · exact Job.Keeps.bind (Job.Keeps.log trivial) fun _ _ => Job.Keeps.pure trivial
  next f hf =>
  refine Job.Keeps.bind (graphOf_keeps soundTerms_letsTell.log) fun g? hg => ?_
  split
  · exact Job.Keeps.pure trivial
  next g =>
  refine Job.Keeps.bind Job.Keeps.ofExcept fun isOpen _ => ?_
  split
  · exact Job.Keeps.map ((begin_sound (Graph.ofJson_wellRead (hg g rfl))).mono fun _ _ => trivial)
  · refine Job.Keeps.bind (Job.Keeps.log trivial) fun _ _ => ?_
    refine Job.Keeps.bind (dispatch_keeps soundTerms_letsSend _) fun _ _ => ?_
    exact Job.Keeps.pure trivial

theorem goOn_sound (hs : s.Sound) (hopen : s.completedAt = none) :
    (r.goOn now tk s messageId text).Keeps soundTerms fun _ => True := by
  unfold goOn
  refine Job.Keeps.bind (Job.Keeps.store (.flow _) trivial) fun f? _ => ?_
  split
  · exact Job.Keeps.bind (Job.Keeps.log trivial) fun _ _ => Job.Keeps.pure trivial
  next f =>
  refine Job.Keeps.bind (graphOf_keeps soundTerms_letsTell.log) fun g? hg => ?_
  split
  · exact Job.Keeps.pure trivial
  next g =>
  have hread := Graph.ofJson_wellRead (hg g rfl)
  refine Job.Keeps.bind (Job.Keeps.store (.record _) trivial) fun _ _ => ?_
  refine Job.Keeps.bind Job.Keeps.ofExcept fun o ho => ?_
  have hsound := g.run_sound hread hs.storable (hs.completed_eq_none hopen) hs.keys
    now.isoText_ne_empty (by simp) ho
  refine Job.Keeps.map ((apply_sound ?_).mono fun _ _ => trivial)
  rw [advance_waiting ho]
  exact advance_sound hsound hopen

theorem process_sound (ticketId : String) :
    (r.process now ticketId messageId text).Keeps soundTerms fun _ => True := by
  unfold process
  refine Job.Keeps.bind (Job.Keeps.desk (.ticket _) trivial) fun tk? _ => ?_
  split
  · exact Job.Keeps.bind (Job.Keeps.log trivial) fun _ _ => Job.Keeps.pure trivial
  next tk =>
  split
  · exact Job.Keeps.pure trivial
  · refine Job.Keeps.bind (Job.Keeps.store (.activeSession _) trivial) fun s? hs => ?_
    split
    · exact openWith_sound
    next s =>
      obtain ⟨hsound, hopen⟩ := hs s rfl
      exact goOn_sound hsound hopen

theorem incoming_sound (ticketId : String) :
    (r.incoming now ticketId messageId text).Keeps soundTerms fun _ => True :=
  Job.Keeps.orLog trivial (process_sound ticketId) trivial

end Reception

/-! ## What is edited -/

/-- Terms that let one edit the catalog. -/
structure Terms.LetsEdit (t : Terms) : Prop where
  flow : ∀ id, t.may (.store (.flow id))
  saveFlow : ∀ f, t.may (.store (.saveFlow f))
  deleteFlow : ∀ id, t.may (.store (.deleteFlow id))
  demoteOthers : ∀ id, t.may (.store (.demoteOthers id))
  newFlowId : t.may .newFlowId
  log : ∀ level text, t.may (.log level text)

theorem soundTerms_letsEdit : soundTerms.LetsEdit :=
  ⟨fun _ => trivial, fun _ => trivial, fun _ => trivial, fun _ => trivial, trivial,
    fun _ _ => trivial⟩

namespace Editing

variable {t : Terms} {now : Moment} {d : Draft} {f : Flow} {id : String}

theorem get_edits (ht : t.LetsEdit) : (get id).Keeps t fun _ => True := by
  unfold get
  refine Job.Keeps.bind (Job.Keeps.store (.flow _) (ht.flow _)) fun f? _ => ?_
  split
  · exact Job.Keeps.pure trivial
  · exact .failed

theorem save_edits (ht : t.LetsEdit) : (save f).Keeps t fun _ => True := by
  unfold save
  refine Job.Keeps.bind (Job.Keeps.store (.saveFlow f) (ht.saveFlow _)) fun saved _ => ?_
  split
  · refine Job.Keeps.bind (Job.Keeps.store (.demoteOthers _) (ht.demoteOthers _)) fun _ _ => ?_
    exact Job.Keeps.pure trivial
  · exact Job.Keeps.pure trivial

theorem create_edits (ht : t.LetsEdit) : (create now d).Keeps t fun _ => True := by
  unfold create
  refine Job.Keeps.bind Job.Keeps.ofExcept fun flow _ => ?_
  refine Job.Keeps.bind (Job.Keeps.request (r := .newFlowId) ht.newFlowId) fun id _ => ?_
  refine Job.Keeps.bind (save_edits ht) fun saved _ => ?_
  exact Job.Keeps.bind (Job.Keeps.log (ht.log _ _)) fun _ _ => Job.Keeps.pure trivial

theorem update_edits (ht : t.LetsEdit) : (update now id d).Keeps t fun _ => True := by
  unfold update
  refine Job.Keeps.bind (get_edits ht) fun existing _ => ?_
  refine Job.Keeps.bind Job.Keeps.ofExcept fun flow _ => ?_
  refine Job.Keeps.bind (save_edits ht) fun saved _ => ?_
  exact Job.Keeps.bind (Job.Keeps.log (ht.log _ _)) fun _ _ => Job.Keeps.pure trivial

theorem delete_edits (ht : t.LetsEdit) : (delete id).Keeps t fun _ => True := by
  unfold delete
  refine Job.Keeps.bind (Job.Keeps.store (.deleteFlow id) (ht.deleteFlow _)) fun found _ => ?_
  split
  · exact Job.Keeps.log (ht.log _ _)
  · exact .failed

end Editing

/-! ## What a service goes through -/

/-- What happens to a world. -/
inductive Happening where
  /-- A message comes in. -/
  | message (r : Reception) (now : Moment) (ticketId messageId text : String)
  | created (now : Moment) (d : Draft)
  | updated (now : Moment) (id : String) (d : Draft)
  | deleted (id : String)
  /-- The helpdesk is no longer what it was. -/
  | helpdesk (d : Helpdesk.Desk)
  /-- From now on other things go wrong. -/
  | trouble (t : Trouble)
  | time (now : Moment)

namespace World

/-- A world after something happened. -/
def after (w : World) : Happening → World
  | .message r now ticketId messageId text => ((r.incoming now ticketId messageId text).run w).2
  | .created now d => ((Editing.create now d).run w).2
  | .updated now id d => ((Editing.update now id d).run w).2
  | .deleted id => ((Editing.delete id).run w).2
  | .helpdesk desk => { w with desk }
  | .trouble trouble => { w with trouble }
  | .time clock => { w with clock }

/-- A world after a row of things happened. -/
def afterAll (w : World) (hs : List Happening) : World := hs.foldl after w

theorem run_sound {α : Type} {j : Job α} (hj : j.Keeps soundTerms fun _ => True) {w : World}
    (hw : w.store.Sound) : (j.run w).2.store.Sound :=
  (Job.Keeps.run answer_sound hj hw).1

/-- Whatever happens, sessions on record stay sound. -/
theorem after_sound {w : World} (hw : w.store.Sound) (h : Happening) : (w.after h).store.Sound := by
  cases h with
  | message r now ticketId messageId text => exact run_sound (Reception.incoming_sound _) hw
  | created now d => exact run_sound (Editing.create_edits soundTerms_letsEdit) hw
  | updated now id d => exact run_sound (Editing.update_edits soundTerms_letsEdit) hw
  | deleted id => exact run_sound (Editing.delete_edits soundTerms_letsEdit) hw
  | helpdesk d | trouble t | time now => exact hw

/-- **Sessions on record are sound** after whatever happened to a world without sessions. -/
theorem afterAll_sound {w : World} (hnone : ∀ now, w.store.sessions now = []) (hs : List Happening)
    (now : Moment) : ∀ s ∈ (w.afterAll hs).store.sessions now, s.Sound := by
  have hsound : (w.afterAll hs).store.Sound := by
    have hw : w.store.Sound := fun now s h => by simp [hnone now] at h
    clear hnone
    unfold afterAll
    induction hs generalizing w with
    | nil => exact hw
    | cons h rest ih => exact ih (after_sound hw h)
  exact hsound now

/-- A ticket without an agent, at a helpdesk beside an empty store. -/
def quiet : World where
  clock := .utc 0
  store := .memory {}
  desk := { tickets := [("ticket", { id := "ticket", contactId := "contact" })] }

/-- A flow that greets and asks back is created, a contact answers its question with something else,
and the flow is deleted while it waits. -/
def morning : List Happening :=
  let definition := Json.object [("nodes", .list [
    .object [("id", .string "hello"), ("type", .string "message"), ("content", .string "Hello"),
      ("next", .string "ask")],
    .object [("id", .string "ask"), ("type", .string "question"), ("prompt", .string "All well?"),
      ("options", .list [.object [("value", .string "yes"), ("label", .string "Yes")]])]])]
  [.created (.utc 0)
      { name := some (some "Greeter"), trigger := some (some .default)
        entryNode := some (some "hello"), definition := some (some definition) },
    .message {} (.utc 1) "ticket" "m1" "Hi", .message {} (.utc 2) "ticket" "m2" "Maybe",
    .deleted "flow-1"]

/-- The session of that morning waits at the question. -/
theorem morning_sound :
    (∀ now, quiet.store.sessions now = []) ∧
      ((quiet.afterAll morning).store.sessions (.utc 3)).map (·.currentNode) = [some "ask"] ∧
      ∀ s ∈ (quiet.afterAll morning).store.sessions (.utc 3), s.Sound :=
  have hnone : ∀ now, quiet.store.sessions now = [] := fun _ => rfl
  ⟨hnone, by decide +kernel, afterAll_sound hnone morning (.utc 3)⟩

end World

end FrontDesk
