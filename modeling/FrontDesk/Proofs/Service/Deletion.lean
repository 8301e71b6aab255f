/-
What goes with a flow.

A store of rows deletes a flow together with its sessions and what was said in them, and they do not
come back: whatever happens then, no session of the flow is given out, and the next message on a
ticket that had one opens another conversation (`World.Purged`). A store in memory deletes the flow
alone. Its sessions stay on record, and while one of them goes on, messages on its ticket come to
nothing (`World.Kept`).
-/
import FrontDesk.Proofs.Service.Curated

namespace FrontDesk

open Calendar Service Store

namespace World

variable {w w' : World} {key : String}

/-! ## What is kept whatever happens -/

/-- No interaction is of a session to come. -/
def Named (w : World) : Prop :=
  ∀ i ∈ w.store.interactions, ∀ n, w.sessionIds < n → i.sessionId ≠ numbered "session" n

/-- Sessions are well kept and flows are curated, and interactions are of sessions that were begun. -/
structure Settled (w : World) : Prop extends WellKept w, Curated w where
  named : w.Named

theorem Named.answer (h : w.Named) {r : Service.Request}
    (hr : ∀ i, r = .store (.record i) → ∀ n, w.sessionIds < n → i.sessionId ≠ numbered "session" n) :
    (w.answer r).2.Named := by
  intro i hi n hlater
  have hn := Nat.lt_of_le_of_lt (w.sessionIds_le_answer r) hlater
  rcases w.interactions_answer r with hsub | ⟨j, j', rfl, hid, -, hadded⟩
  · exact h i (hsub.subset hi) n hn
  · rw [hadded] at hi
    rcases List.mem_append.1 hi with hi | hi
    · exact h i hi n hn
    · rw [List.mem_singleton.1 hi, hid]
      exact hr j rfl n hn

theorem Named.may {w₀ : World} {new : String → Prop} {now : Moment} (h : w.Named)
    (hkept : w.WellKept) {r : Service.Request} (hmay : w.May w₀ new now r) :
    (w.answer r).2.Named := by
  refine h.answer ?_
  rintro i rfl n hn hid
  have hthere : w.book.has i.sessionId = true := hmay.2
  rw [Entries.has, hid, hkept.unused n hn] at hthere
  cases hthere

theorem Named.revised {ids : Nat} {now : Moment} (h : w.Named) {r : Service.Request}
    (hmay : w.MayRevise ids now r) : (w.answer r).2.Named := by
  refine h.answer ?_
  rintro i rfl
  cases hmay

theorem Settled.after (h : w.Settled) (e : Happening) : (w.after e).Settled := by
  refine { h.toWellKept.after e, h.toCurated.after h.toWellKept e with named := ?_ }
  cases e with
  | message r now ticketId messageId text =>
    have hconducts := r.incoming_conducts (fun _ => True) now ticketId messageId text h.toWellKept
      fun _ _ => trivial
    exact (hconducts.keeps (p := fun v => Within w (fun _ => True) v ∧ v.Named)
      (fun v r hv hmay => ⟨hv.1.answer h.toWellKept hmay, hv.2.may hv.1.wellKept hmay⟩)
      ⟨.refl h.toWellKept, h.named⟩).2
  | created now d =>
    exact (Editing.create_revises h.toCurated).keeps (fun _ _ h hmay => Named.revised h hmay) h.named
  | updated now id d =>
    exact (Editing.update_revises h.toCurated).keeps (fun _ _ h hmay => Named.revised h hmay) h.named
  | deleted id =>
    refine (Editing.delete_deletes id w).keeps (fun v r hv hr => hv.answer ?_) h.named
    rcases hr with ⟨-, rfl⟩ | ⟨level, text, rfl⟩
    · rintro _ ⟨⟩
    · rintro _ ⟨⟩
  | helpdesk d | trouble t | time now => exact h.named

theorem Settled.afterAll (h : w.Settled) (hs : List Happening) : (w.afterAll hs).Settled := by
  unfold World.afterAll
  induction hs generalizing w with
  | nil => exact h
  | cons e rest ih => exact ih (h.after e)

/-! ## Flows that are gone -/

/-- The flow under the id is gone for good, and nothing on record is of it. -/
structure Forgot (w : World) (key : String) : Prop where
  gone : key ∉ w.catalog.keys
  retired : ∀ n, w.flowIds < n → numbered "flow" n ≠ key
  sessions : ∀ s ∈ w.book.values, s.flowId ≠ key

/-- No session of the flow is given out. -/
structure Lacks (w : World) (key : String) : Prop where
  session : ∀ id s, ((Job.store (.session id)).run w).1 = .ok (some s) → s.flowId ≠ key
  activeSession : ∀ ticketId s, ((Job.store (.activeSession ticketId)).run w).1 = .ok (some s) →
    s.flowId ≠ key
  sessionsOf : ∀ ss, ((Job.store (.sessionsOf key)).run w).1 = .ok ss → ss = []

namespace Forgot

theorem may {w₀ : World} {new : String → Prop} {now : Moment} (h : w.Forgot key)
    (hcurated : w.Curated) (hw₀ : w₀.WellKept) (hwithin : Within w₀ new w) {r : Service.Request}
    (hmay : w.May w₀ new now r) : (w.answer r).2.Forgot key where
  gone := by
    rw [catalog_answer (May.edits hmay)]
    exact h.gone
  retired n hn := h.retired n (Nat.lt_of_le_of_lt (w.flowIds_answer r) hn)
  sessions := by
    intro s hs
    cases (step_of_may hwithin.wellKept hw₀ hwithin.since hwithin.make hmay).1 with
    | same ids book =>
      rw [book] at hs
      exact h.sessions s hs
    | begun s' id ids ticket vacant flow book =>
      rw [book] at hs
      rcases Entries.mem_values_put hs with hs | rfl
      · exact h.sessions s hs
      · obtain ⟨f, hf, hid⟩ := flow
        obtain ⟨e, he, rfl⟩ := List.mem_map.1 hf
        rintro rfl
        rw [(hcurated.holds e he).2] at hid
        exact h.gone (hid ▸ List.mem_map_of_mem he)
    | saved old s' ids found precedes next ongoing book =>
      rw [book] at hs
      rcases Entries.mem_values_put hs with hs | rfl
      · exact h.sessions s hs
      · rw [← precedes.kin.flowId]
        exact h.sessions old (Entries.mem_values_of_find? found)

/-- A flow is not saved under an id that was given to another one before. -/
theorem revised {ids : Nat} {now : Moment} (h : w.Forgot key)
    (hids : ∀ n, ids < n → numbered "flow" n ≠ key) {r : Service.Request}
    (hmay : w.MayRevise ids now r) : (w.answer r).2.Forgot key := by
  have hretired : ∀ n, (w.answer r).2.flowIds < n → numbered "flow" n ≠ key :=
    fun n hn => h.retired n (Nat.lt_of_le_of_lt (w.flowIds_answer r) hn)
  cases r with
  | store r =>
    have hsessions (htouches : r.touchesSessions = false) :
        ∀ s ∈ (w.answer (.store r)).2.book.values, s.flowId ≠ key := by
      rw [World.book_answer htouches]
      exact h.sessions
    cases r with
    | saveFlow f =>
      refine ⟨?_, hretired, hsessions rfl⟩
      rcases w.catalog_saved f with hsame | ⟨createdAt, updatedAt, hput⟩
      · rw [hsame]
        exact h.gone
      rw [hput, Entries.mem_keys_put]
      rintro (hkey | hkey)
      · cases hmay.2.2 with
        | new fresh issued created =>
          obtain ⟨n, hn, -, hnumber⟩ := issued
          exact hids n hn (hnumber.symm.trans hkey.symm)
        | old f' found created =>
          exact h.gone (hkey ▸ List.mem_map_of_mem (f := Prod.fst) (Entries.mem_of_find? found))
      · exact h.gone hkey
    | demoteOthers id =>
      refine ⟨?_, hretired, hsessions rfl⟩
      rcases w.catalog_demoted id with hsame | hdemoted
      · rw [hsame]
        exact h.gone
      · rw [hdemoted, keys_demotedBut]
        exact h.gone
    | flows | flow | sessionsOf =>
      exact ⟨by rw [catalog_answer rfl]; exact h.gone, hretired, hsessions rfl⟩
    | _ => cases hmay
  | desk r => cases hmay
  | log level text | newFlowId => exact ⟨h.gone, hretired, h.sessions⟩

theorem deleteFlow (h : w.Forgot key) (id : String) :
    (w.answer (.store (.deleteFlow id))).2.Forgot key := by
  refine ⟨?_, fun n hn => h.retired n (Nat.lt_of_le_of_lt (w.flowIds_answer _) hn), fun s hs => ?_⟩
  · rcases w.catalog_deleted id with hsame | hrest
    · rw [hsame]
      exact h.gone
    · rw [hrest]
      intro hkey
      obtain ⟨e, he, hfst⟩ := List.mem_map.1 hkey
      exact h.gone (List.mem_map.2 ⟨e, (List.mem_filter.1 he).1, hfst⟩)
  · rcases w.answer_store (.deleteFlow id) with ⟨hstore, -⟩ | ⟨fresh, -, hstore⟩
    · rw [World.book, hstore] at hs
      exact h.sessions s hs
    rw [World.book, hstore] at hs
    rcases (deleteFlow_book w.store w.clock fresh id).1 with hbook | hbook
    · rw [hbook] at hs
      exact h.sessions s hs
    · rw [hbook] at hs
      obtain ⟨e, he, rfl⟩ := List.mem_map.1 hs
      exact h.sessions e.2 (List.mem_map_of_mem (List.mem_filter.1 he).1)

/-- Whatever happens, the flow does not come back. -/
theorem after (h : w.Forgot key) (hsettled : w.Settled) (e : Happening) :
    (w.after e).Forgot key := by
  have hkept := hsettled.toWellKept
  cases e with
  | message r now ticketId messageId text =>
    have hconducts := r.incoming_conducts (fun _ => True) now ticketId messageId text hkept
      fun _ _ => trivial
    refine (hconducts.keeps
      (p := fun v => Within w (fun _ => True) v ∧ v.Curated ∧ v.Forgot key)
      (fun v r hv hmay => ?_) ⟨.refl hkept, hsettled.toCurated, h⟩).2.2
    obtain ⟨hwithin, hcurated, hforgot⟩ := hv
    exact ⟨hwithin.answer hkept hmay, hcurated.spared (May.edits hmay),
      hforgot.may hcurated hkept hwithin hmay⟩
  | created now d =>
    exact (Editing.create_revises hsettled.toCurated).keeps
      (fun _ _ hv hmay => Forgot.revised hv h.retired hmay) h
  | updated now id d =>
    exact (Editing.update_revises hsettled.toCurated).keeps
      (fun _ _ hv hmay => Forgot.revised hv h.retired hmay) h
  | deleted id =>
    refine (Editing.delete_deletes id w).keeps (p := fun v => v.Forgot key)
      (fun v r hv hr => ?_) h
    rcases hr with ⟨-, rfl⟩ | ⟨level, text, rfl⟩
    · exact hv.deleteFlow id
    · exact ⟨hv.gone, hv.retired, hv.sessions⟩
  | helpdesk d | trouble t | time now => exact ⟨h.gone, h.retired, h.sessions⟩

theorem afterAll (h : w.Forgot key) (hsettled : w.Settled) (hs : List Happening) :
    (w.afterAll hs).Forgot key := by
  unfold World.afterAll
  induction hs generalizing w with
  | nil => exact h
  | cons e rest ih => exact ih (h.after hsettled e) (hsettled.after e)

theorem lacks (h : w.Forgot key) (hsteady : w.store.Steady) : w.Lacks key where
  session id s hs := by
    rw [Job.store, Job.run_request] at hs
    obtain ⟨ids, -, hanswer⟩ := answer_of_ok hs
    rw [answer_session, hsteady.table] at hanswer
    exact h.sessions s (Entries.mem_values_of_find? (Except.ok.inj hanswer))
  activeSession ticketId s hs := by
    rw [Job.store, Job.run_request] at hs
    obtain ⟨ids, -, hanswer⟩ := answer_of_ok hs
    exact h.sessions s ((activeSession_book hsteady hanswer).1 s rfl).1
  sessionsOf ss hss := by
    rw [Job.store, Job.run_request] at hss
    obtain ⟨ids, -, hanswer⟩ := answer_of_ok hss
    rw [answer_sessionsOf, hsteady.sessions] at hanswer
    rw [← Except.ok.inj hanswer, List.filter_eq_nil_iff]
    exact fun s hs => by simpa using h.sessions s hs

end Forgot

/-! ## The next message -/

/-- A message on the ticket opens a conversation of the flow that it selects, if the bot is in charge
and the hours are right. -/
def ColdStarts (w : World) (ticketId : String) : Prop :=
  ∀ (r : Reception) (now : Moment) (key messageId text : String) (t : Ticket) (f : Flow),
    w.view.Fine now → w.desk.tickets.find? key = some t → t.id = ticketId → t.hasAgent = false →
    (∃ fs, w.store.activeFlows = .ok fs ∧ selectFlow fs text = some f) →
    Schedule.isOpenBy r.zones (Schedule.ofJson f.scheduleJson) now = .ok true →
    ∃ x s v, (r.incoming now key messageId text).run w = (.ok (some x), v) ∧
      w.book.find? w.view.freshId = none ∧
      (v.store.table v.clock).find? w.view.freshId = some s ∧ s.ticketId = ticketId ∧ s.flowId = f.id

/-- A message on a vacant ticket opens a conversation. -/
theorem Settled.coldStarts (h : w.Settled) {ticketId : String} (hvacant : w.Vacant ticketId) :
    w.ColdStarts ticketId := by
  intro r now key messageId text t f hfine hticket hid hagent hselected hopen
  obtain ⟨fs, hfs, hselect⟩ := hselected
  have hmem : f ∈ w.catalog.values := by
    have hanswer : (w.store.answer w.clock "" .activeFlows).1 = .ok fs := by
      rw [answer_activeFlows, hfs]
    exact mem_of_answer_activeFlows hanswer (mem_of_selectFlow hselect)
  have hfresh : w.book.find? w.view.freshId = none := h.unused _ (Nat.lt_succ_self _)
  have hopens : w.view.Opens r now key text t f := by
    refine ⟨hticket, hagent, fun s hs => ?_, ⟨fs, hfs, hselect⟩, ?_, hopen, ?_, fun i hi => ?_⟩
    · rw [show w.view.store.sessions w.view.clock = w.book.values from h.steady.sessions _] at hs
      rw [hid]
      exact hvacant s hs
    · exact (flow?_eq_catalog _ _).trans (h.toCurated.find?_of_mem hmem)
    · rw [show w.view.store.table w.view.clock = w.book from h.steady.table _]
      exact hfresh
    · exact h.named i hi _ (Nat.lt_succ_self _)
  obtain ⟨e, he, rfl⟩ := List.mem_map.1 hmem
  obtain ⟨g, hg, -⟩ := (h.holds e he).1.definition.graph
  obtain ⟨_, hrun, s, x, rfl, hlive, hsid, -, -⟩ :=
    hopens.incoming (r := r) hfine hg messageId (by unfold Graph.run; rfl) w rfl
  refine ⟨x, s, _, Prod.ext hrun rfl, hfresh, ?_, hlive.ticketId.trans hid, hlive.flowId⟩
  rw [← hsid]
  exact hlive.found

/-- None of what happens is a message on such a ticket. -/
def AdmitsAll (w : World) (new : String → Prop) : List Happening → Prop
  | [] => True
  | e :: rest => w.Admits new e ∧ (w.after e).AdmitsAll new rest

theorem later_of_admitsAll {new : String → Prop} (h : w.WellKept) (hs : List Happening)
    (hadmits : w.AdmitsAll new hs) : Later new w (w.afterAll hs) := by
  unfold World.afterAll
  induction hs generalizing w with
  | nil => exact .refl w
  | cons e rest ih =>
    obtain ⟨he, hrest⟩ := hadmits
    exact (passed_passes h e he).last.since.toLater.trans (ih (h.after e) hrest)

theorem Vacant.later {ticketId : String} (hvacant : w.Vacant ticketId) (hkept : w'.WellKept)
    (h : Later (· ≠ ticketId) w w') : w'.Vacant ticketId := by
  intro s' hs'
  rcases h.grows s'.id s' (hkept.find?_of_mem hs') with ⟨s, hs, hprecedes⟩ | ⟨hne, -⟩
  · have hidle := hvacant s (Entries.mem_values_of_find? hs)
    simp only [Session.isActiveOn, Session.isActive, Bool.and_eq_false_iff, beq_eq_false_iff_ne,
      Option.isNone_eq_false_iff] at hidle ⊢
    rw [← hprecedes.kin.ticketId]
    exact hidle.imp_right hprecedes.completed
  · simp [Session.isActiveOn, hne]

/-! ## What goes with a flow -/

/-- The sessions of the flow went with it, and what was said in them. -/
structure Purged (key : String) (w w' : World) : Prop where
  table : ∀ now, w'.store.table now = (w.store.table now).filter fun e => e.2.flowId != key
  interactions : w'.store.interactions =
    w.store.interactions.filter fun i => (w.book.find? i.sessionId).map Session.flowId != some key
  lacks : ∀ hs, (w'.afterAll hs).Lacks key
  restarts : ∀ ticketId, (∃ s ∈ w.book.values, s.flowId = key ∧ s.isActiveOn ticketId = true) →
    ∀ hs, w'.AdmitsAll (· ≠ ticketId) hs → (w'.afterAll hs).ColdStarts ticketId

/-- The sessions of the flow stay as they are. Messages on their tickets come to nothing. -/
structure Kept (key : String) (w w' : World) : Prop where
  table : ∀ now, w'.store.table now = w.store.table now
  interactions : w'.store.interactions = w.store.interactions
  stuck : ∀ s ∈ w.book.values, s.flowId = key → s.completedAt = none →
    ∀ (r : Reception) (now : Moment) (id messageId text : String) (t : Ticket),
      w'.trouble.Calm → w'.desk.tickets.find? id = some t → t.id = s.ticketId →
      t.hasAgent = false →
      ∃ v, (r.incoming now id messageId text).run w' = (.ok none, v) ∧ v.view = w'.view

/-- A flow that was there is deleted, in a store of either make. -/
theorem deleted_cases (hdone : (Job.store (.deleteFlow key)).run w = (.ok true, w')) :
    key ∈ w.catalog.keys ∧
      ((∃ m, w.store = .memory m ∧ w' =
          { w with
            asked := w.asked + 1
            store := .memory { m with flows := m.flows.remove key } }) ∨
        ∃ t, w.store = .relational t ∧ w' =
          { w with asked := w.asked + 1, store := .relational (t.deleteFlow key) }) := by
  rw [Job.store, Job.run_request] at hdone
  rcases w.answer_store_cases (.deleteFlow key) with hfails | ⟨ids, rfl, hanswer⟩
  · rw [hfails] at hdone
    cases hdone
  rw [hanswer] at hdone
  have hthere {es : Entries Flow} (hhas : es.has key = true) : key ∈ es.keys := by
    obtain ⟨f, hf⟩ := Option.isSome_iff_exists.1 hhas
    exact List.mem_map_of_mem (f := Prod.fst) (Entries.mem_of_find? hf)
  rw [catalog]
  cases hst : w.store with
  | memory m =>
    rw [hst] at hdone
    obtain ⟨hhas, rfl⟩ := Prod.ext_iff.1 hdone
    exact ⟨hthere (Except.ok.inj hhas), .inl ⟨m, rfl, rfl⟩⟩
  | relational t =>
    rw [hst] at hdone
    cases hhas : t.flows.has key with
    | false =>
      simp only [Store.answer, Relational.answer, hhas, Bool.false_eq_true, if_false] at hdone
      cases (Prod.ext_iff.1 hdone).1
    | true =>
      obtain ⟨-, rfl⟩ := Prod.ext_iff.1 hdone
      refine ⟨hthere hhas, .inr ⟨t, rfl, ?_⟩⟩
      simp [Store.answer, Relational.answer, hhas, opensSession]

theorem contains_gone {es : Entries SessionRow} (hkeys : es.keys.Nodup) (key id : String) :
    ((es.filter fun e => e.2.flowId == key).map Prod.fst).contains id =
      ((es.find? id).map SessionRow.flowId == some key) := by
  rw [Bool.eq_iff_iff]
  simp only [List.contains_iff_mem, List.mem_map, List.mem_filter, beq_iff_eq,
    Option.map_eq_some_iff]
  constructor
  · rintro ⟨⟨_, row⟩, ⟨hmem, hflow⟩, rfl⟩
    exact ⟨row, Entries.find?_of_mem_nodup hkeys hmem, hflow⟩
  · rintro ⟨row, hfind, hflow⟩
    exact ⟨(id, row), ⟨Entries.mem_of_find? hfind, hflow⟩, rfl⟩

theorem purged (h : w.Settled) {t : Relational} (hst : w.store = .relational t)
    (hthere : key ∈ w.catalog.keys)
    (hw' : w' = { w with asked := w.asked + 1, store := .relational (t.deleteFlow key) })
    (h' : w'.Settled) : Purged key w w' := by
  have htable (now : Moment) :
      w'.store.table now = (w.store.table now).filter fun e => e.2.flowId != key := by
    rw [hw', hst]
    simp only [Store.table, Relational.deleteFlow, Entries.mapValues, List.filter_map]
    rfl
  have hbook : ∀ s ∈ w'.book.values, s ∈ w.book.values ∧ s.flowId ≠ key := by
    intro s hs
    rw [World.book, Store.book, htable] at hs
    obtain ⟨e, he, rfl⟩ := List.mem_map.1 hs
    obtain ⟨hmem, hflow⟩ := List.mem_filter.1 he
    exact ⟨List.mem_map_of_mem hmem, by simpa using hflow⟩
  have hforgot : w'.Forgot key := by
    refine ⟨?_, fun n hn hnumber => ?_, fun s hs => (hbook s hs).2⟩
    · rw [hw']
      simp [catalog, Store.catalog, Relational.deleteFlow, Entries.remove, Entries.keys]
    · obtain ⟨m, hm, hissued⟩ := h.issued key hthere
      have hsame := numbered_inj (hnumber.trans hissued)
      rw [hw'] at hn
      exact absurd hm (by simp only at hn; omega)
  refine ⟨htable, ?_, fun hs => ?_, ?_⟩
  · rw [hw', hst]
    show (t.deleteFlow key).interactions = t.interactions.filter _
    refine List.filter_congr fun i _ => ?_
    have hkeys : t.sessions.keys.Nodup := by
      have htidy := h.tidy
      rw [hst] at htidy
      exact Entries.Tidy.keys htidy
    rw [contains_gone hkeys, World.book, Store.book, hst, Store.table, Entries.find?_mapValues,
      Option.map_map]
    rfl
  · exact (hforgot.afterAll h' hs).lacks (h'.afterAll hs).steady
  · rintro ticketId ⟨s₀, hs₀, hflow, hactive⟩ hs hadmits
    refine (h'.afterAll hs).coldStarts ?_
    refine Vacant.later ?_ (h'.afterAll hs).toWellKept
      (later_of_admitsAll h'.toWellKept hs hadmits)
    -- the session of the flow was the only one that went on there
    intro s hs
    obtain ⟨hmem, hne⟩ := hbook s hs
    by_contra hactive'
    simp only [Session.isActiveOn, Session.isActive, Bool.not_eq_false, Bool.and_eq_true,
      beq_iff_eq, Option.isNone_iff_eq_none] at hactive hactive'
    have hid := h.alone s₀ hs₀ s hmem (hactive.1.trans hactive'.1.symm) hactive.2 hactive'.2
    have hfind := h.find?_of_mem hs₀
    rw [hid, h.find?_of_mem hmem] at hfind
    cases hfind
    exact hne hflow

theorem kept {m : Memory} (hst : w.store = .memory m)
    (hw' : w' =
      { w with asked := w.asked + 1, store := .memory { m with flows := m.flows.remove key } })
    (h' : w'.WellKept) : Kept key w w' := by
  have htable (now : Moment) : w'.store.table now = w.store.table now := by
    rw [hw', hst]
    rfl
  refine ⟨htable, by rw [hw', hst]; rfl, ?_⟩
  intro s hs hflow hopen r now id messageId text t hcalm hticket hid hagent
  have hmem : s ∈ w'.book.values := by
    rw [World.book, Store.book, htable]
    exact hs
  have hactive := h'.active_of_mem w'.clock hmem hopen
  rw [← hid] at hactive
  have hnone : w'.view.store.flow? s.flowId = none := by
    rw [hflow, flow?_eq_catalog, hw']
    exact (Entries.find?_remove m.flows key key).trans (if_pos rfl)
  have hcomes : (r.incoming now id messageId text).Comes w'.view
      fun x v => x = none ∧ v = w'.view := by
    refine Job.Comes.orLog ?_
    unfold Reception.process
    refine Job.Comes.known (Job.Comes.ticket hcalm id) ?_
    rw [show w'.view.tickets.find? id = some t from hticket]
    simp only [hagent, Bool.false_eq_true, if_false]
    refine Job.Comes.known (Job.Comes.store hcalm rfl fun _ => answer_activeSession hactive) ?_
    unfold Reception.goOn
    refine Job.Comes.known (Job.Comes.store hcalm rfl fun _ => answer_flow s.flowId) ?_
    rw [hnone]
    exact Job.Comes.after Job.Comes.log fun _ => Job.Comes.pure ⟨rfl, rfl⟩
  obtain ⟨x, hrun, rfl, hview⟩ := hcomes w' rfl
  exact ⟨_, Prod.ext hrun rfl, hview⟩

/-- **What goes with a flow that is deleted**, in a world that had no flows and no sessions, whatever
happened to it. From the catalog nothing goes but the flow. From a store of rows its sessions go, and
what was said in them, and nothing else; none of them is given out again whatever happens, and the
next message on a ticket that had one opens a new conversation. A store in memory keeps all sessions
and interactions, and messages on the ticket of a session of the flow come to nothing. -/
theorem deleted_with (hflows : w.catalog = []) (hnone : ∀ now, w.store.sessions now = [])
    (hsilent : w.store.interactions = []) (hs : List Happening)
    (hdone : (Job.store (.deleteFlow key)).run (w.afterAll hs) = (.ok true, w')) :
    w'.catalog = (w.afterAll hs).catalog.remove key ∧
      (∀ t, (w.afterAll hs).store = .relational t → Purged key (w.afterAll hs) w') ∧
      ∀ m, (w.afterAll hs).store = .memory m → Kept key (w.afterAll hs) w' := by
  have hw : w.Settled :=
    { wellKept_of_none hnone, curated_of_empty hflows with
      named := fun i hi => by rw [hsilent] at hi; cases hi }
  have h := hw.afterAll hs
  have h' : w'.Settled := by
    have hrun : ((Job.store (.deleteFlow key)).run (w.afterAll hs)).2 = w' := by rw [hdone]
    rw [← hrun, Job.store, Job.run_request]
    obtain ⟨hkept, -⟩ := edit_step (fun _ => True) h.toWellKept (r := .store (.deleteFlow key))
      trivial
    refine { hkept, h.toCurated.deleteFlow key with named := h.named.answer ?_ }
    rintro _ ⟨⟩
  obtain ⟨hthere, ⟨m, hst, hw'⟩ | ⟨t, hst, hw'⟩⟩ := deleted_cases hdone
  · refine ⟨by rw [hw', catalog, catalog, hst]; rfl, fun t ht => ?_,
      fun m' _ => kept hst hw' h'.toWellKept⟩
    rw [hst] at ht
    cases ht
  · refine ⟨by rw [hw', catalog, catalog, hst]; rfl, fun t' _ => purged h hst hthere hw' h',
      fun m hm => ?_⟩
    rw [hst] at hm
    cases hm

/-- The helpdesk of the quiet world, beside empty tables. -/
def quietRows : World := { quiet with store := .relational {} }

/-- A contact is asked back by a flow, and another flow is created. -/
def noon : List Happening :=
  morning.take 2 ++
    [.created (.utc 2)
      { Draft.greeter with name := some (some "Other"), trigger := some (some .default) }]

/-- When the flow is deleted from tables, the next message opens a conversation of the other flow. -/
theorem noon_purged :
    quietRows.catalog = [] ∧ (∀ now, quietRows.store.sessions now = []) ∧
      quietRows.store.interactions = [] ∧
      ∃ w', (Job.store (.deleteFlow "flow-1")).run (quietRows.afterAll noon) = (.ok true, w') ∧
        ((quietRows.afterAll noon).book.values.map fun s => (s.id, s.flowId, s.isActive)) =
          [("session-1", "flow-1", true)] ∧
        Purged "flow-1" (quietRows.afterAll noon) w' ∧
        ((w'.afterAll [.message {} (.utc 3) "ticket" "m3" "Hello?"]).book.values.map
          fun s => (s.id, s.flowId)) = [("session-2", "flow-2")] := by
  have hflows : quietRows.catalog = [] := rfl
  have hnone : ∀ now, quietRows.store.sessions now = [] := fun _ => rfl
  have hsilent : quietRows.store.interactions = [] := rfl
  have hdone : ((Job.store (.deleteFlow "flow-1")).run (quietRows.afterAll noon)).1.toOption =
      some true := by decide +kernel
  cases hx : ((Job.store (.deleteFlow "flow-1")).run (quietRows.afterAll noon)).1 with
  | error e => rw [hx] at hdone; cases hdone
  | ok found =>
  rw [hx] at hdone
  obtain rfl : found = true := Option.some.inj hdone
  have hrun : (Job.store (.deleteFlow "flow-1")).run (quietRows.afterAll noon) =
      (.ok true, ((Job.store (.deleteFlow "flow-1")).run (quietRows.afterAll noon)).2) :=
    Prod.ext hx rfl
  have hrows : (quietRows.afterAll noon).store.isRelational = true := by decide +kernel
  obtain ⟨-, hpurged, -⟩ := deleted_with hflows hnone hsilent noon hrun
  cases hst : (quietRows.afterAll noon).store with
  | memory m => rw [hst] at hrows; cases hrows
  | relational t =>
    exact ⟨hflows, hnone, hsilent, _, hrun, by decide +kernel, hpurged t hst, by decide +kernel⟩

/-- When it is deleted from memory, its session is found as before, by its id, under its ticket and
with its flow, and the next message comes to nothing. -/
theorem noon_kept :
    let (found, w') := (Job.store (.deleteFlow "flow-1")).run (quiet.afterAll noon)
    let flowOf (s? : Option Session) : Option String := s?.map fun s => s.flowId
    found.toOption = some true ∧
      ((Job.store (.session "session-1")).run w').1.toOption.map flowOf = some (some "flow-1") ∧
      ((Job.store (.activeSession "ticket")).run w').1.toOption.map flowOf = some (some "flow-1") ∧
      ((Job.store (.sessionsOf "flow-1")).run w').1.toOption.map (fun ss => ss.map fun s => s.id) =
        some ["session-1"] ∧
      ((({} : Reception).incoming (.utc 3) "ticket" "m3" "Hello?").run w').1.toOption =
        some none := by
  decide +kernel

end World

end FrontDesk
