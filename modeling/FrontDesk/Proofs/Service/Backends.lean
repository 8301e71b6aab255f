/-
A service beside tables and beside memory.

Whatever errands a service is given in a world that begins without records, one beside tables and
one beside memory return the same, deliver the same messages, make the same transfers and write the
same log, as long as no flow is deleted that has sessions and the clock shows universal time
(`World.backends_agree`). There is one thing between the two. Tables give out the interactions of a
session by their time, and memory as they came; so the two differ in an audit trail, and in nothing
else, once the clock was put back.
-/
import FrontDesk.Proofs.Service.Deletion
import FrontDesk.Proofs.Service.Mirror
import FrontDesk.Service.Rehearsal

namespace FrontDesk

open Calendar Service Store

/-! ## Errands -/

/-- What a service is asked to do, or what is read of its records. -/
inductive Errand where
  | call (c : Editing.Call)
  | message (r : Reception) (ticketId messageId text : String)
  | rehearsal (limit : Int) (flowId : String) (texts : List String)
  | session (id : String)
  | activeSession (ticketId : String)
  | sessionsOf (flowId : String)
  | trail (sessionId : String)

/-- What comes back. -/
inductive Returned where
  | reply (r : Reply)
  | session (s? : Option Session)
  | rehearsal (r : Rehearsal)
  | sessions (ss : List Session)
  | trail (is : List Interaction)

/-- The same, an audit trail being put in order of time. -/
def Returned.byTime : Returned → Returned
  | trail is => trail (Interaction.byTime is)
  | x => x

/-- What is done on an errand at the given time. -/
def Errand.job (now : Moment) : Errand → Job Returned
  | call c => .reply <$> c.job now
  | message r ticketId messageId text => .session <$> r.incoming now ticketId messageId text
  | rehearsal limit flowId texts => .rehearsal <$> Rehearsal.ofFlow limit now flowId texts
  | session id => .session <$> Job.store (.session id)
  | activeSession ticketId => .session <$> Job.store (.activeSession ticketId)
  | sessionsOf flowId => .sessions <$> Job.store (.sessionsOf flowId)
  | trail sessionId => .trail <$> Job.store (.interactions sessionId)

/-- An errand at a time, or something that happens to what is around the service. -/
inductive Occasion where
  | errand (now : Moment) (e : Errand)
  | helpdesk (d : Helpdesk.Desk)
  | trouble (t : Trouble)

namespace Occasion

/-- When an errand is done. -/
def time? : Occasion → Option Moment
  | errand now _ => some now
  | helpdesk _ | trouble _ => none

/-- The same in ticks of universal time. -/
def instant? (o : Occasion) : Option Int := o.time?.map Moment.instant

/-- The flow that is to be deleted. -/
def deletes? : Occasion → Option String
  | errand _ (.call (.deleted id)) => some id
  | _ => none

/-- The clock shows universal time, of a year that there is. -/
def IsUtc (o : Occasion) : Prop :=
  ∀ now ∈ o.time?, now.offset = some 0 ∧ Moment.inRange now.ticks = true

instance (o : Occasion) : Decidable o.IsUtc := inferInstanceAs (Decidable (∀ now ∈ o.time?, _))

end Occasion

/-- What comes back of some occasions, of which some are no errands. -/
abbrev Outcomes := List (Option (Except Failure Returned))

/-- The same, audit trails being put in order of time. -/
def Outcomes.byTime (xs : Outcomes) : Outcomes := xs.map (Option.map (Except.map Returned.byTime))

namespace World

/-- What comes of an occasion. -/
def attend (w : World) : Occasion → Option (Except Failure Returned) × World
  | .errand now e =>
    let (x, w) := (e.job now).run { w with clock := now }
    (some x, w)
  | .helpdesk desk => (none, { w with desk })
  | .trouble trouble => (none, { w with trouble })

/-- What comes of some occasions, one after another. -/
def attendAll (w : World) : List Occasion → Outcomes × World
  | [] => ([], w)
  | o :: rest =>
    let (x, w) := w.attend o
    let (xs, w) := w.attendAll rest
    (x :: xs, w)

/-- A flow that is deleted then has no sessions. -/
def Spares (w : World) (o : Occasion) : Prop :=
  ∀ id ∈ o.deletes?, ∀ s ∈ w.book.values, s.flowId ≠ id

instance (w : World) (o : Occasion) : Decidable (w.Spares o) :=
  inferInstanceAs (Decidable (∀ id ∈ o.deletes?, _))

/-- No flow that is deleted has sessions then. -/
def SparesAll (w : World) : List Occasion → Prop
  | [] => True
  | o :: rest => w.Spares o ∧ (w.attend o).2.SparesAll rest

instance decideSparesAll : (w : World) → (os : List Occasion) → Decidable (w.SparesAll os)
  | _, [] => .isTrue trivial
  | w, o :: rest =>
    have := decideSparesAll (w.attend o).2 rest
    inferInstanceAs (Decidable (w.Spares o ∧ (w.attend o).2.SparesAll rest))

/-- A world with records in tables that can be mirrored in memory. -/
structure Regular (w : World) : Prop extends WellKept w, Curated w where
  dated : w.store.Dated
  rows : w.store.isRelational = true

variable {w w' w₀ : World} {now : Moment}

theorem Regular.congr (h : w.Regular) (hstore : w'.store = w.store)
    (hsessions : w'.sessionIds = w.sessionIds) (hflows : w'.flowIds = w.flowIds) : w'.Regular where
  toWellKept := h.toWellKept.congr hstore hsessions
  toCurated := h.toCurated.congr (congrArg Store.catalog hstore) (Nat.le_of_eq hflows.symm)
  dated := hstore ▸ h.dated
  rows := hstore ▸ h.rows

theorem Regular.served (h : w.Regular) (hclock : w.clock = now) (hnow : rowMoment now = .ok now) :
    Served w now w where
  within := .refl h.toWellKept
  curated := h.toCurated
  dated := h.dated
  clock := hclock
  retains := fun _ => hnow

theorem Served.regular (h : Served w₀ now w) (h₀ : w₀.Regular) : w.Regular where
  toWellKept := h.within.wellKept
  toCurated := h.curated
  dated := h.dated
  rows := h.within.make.trans h₀.rows

end World

/-! ## What is asked on an errand -/

/-- From this world on the job asks what may be asked in a service, and what it returns is not an
audit trail out of order. -/
abbrev Job.Serves (now : Moment) (j : Job Returned) (w : World) : Prop :=
  j.Behaves (fun v r => v.MayServe w now r) (fun x _ => x.byTime = x) (fun _ _ => True) w

/-- Terms for one who reads the records. -/
def readTerms : Terms where
  may
    | .store .flows | .store (.flow _) | .store (.session _) | .store (.activeSession _)
    | .store (.sessionsOf _) | .log .. => True
    | _ => False
  gives _ _ := True

theorem readTerms_letsLook : readTerms.LetsLook := ⟨trivial, fun _ => trivial, fun _ => trivial⟩

theorem Rehearsal.ofFlow_reads (limit : Int) (now : Moment) (flowId : String)
    (texts : List String) : (ofFlow limit now flowId texts).Keeps readTerms fun _ => True := by
  unfold ofFlow
  refine Job.Keeps.bind (Job.Keeps.store (.flow flowId) trivial) fun f? _ => ?_
  split
  · exact .failed
  · refine Job.Keeps.bind Job.Keeps.ofExcept fun g _ => ?_
    exact Job.Keeps.ofExcept.mono fun _ _ => trivial

theorem Job.Keeps.serves {α : Type} {j : Job α} {f : α → Returned} {w : World} {now : Moment}
    (hj : j.Keeps readTerms fun _ => True) (hf : ∀ a, (f a).byTime = f a) :
    (f <$> j).Serves now w := by
  refine .map ((hj.behaves (p := fun _ => True) (fun v r _ hr => ?_) trivial).mono
    (fun _ _ h => h) (fun a _ _ => hf a) fun _ _ h => h)
  have hmay : v.May w (fun _ => True) now r := by
    cases r with
    | store r =>
      cases r with
      | flows | flow | session | activeSession | sessionsOf => rfl
      | _ => cases hr
    | log level text => trivial
    | desk r | newFlowId => cases hr
  exact ⟨.reception hmay, trivial, fun _ _ => trivial⟩

/-- **What is asked on an errand may be asked**, if it is not to read an audit trail. -/
theorem Errand.job_serves {w : World} {now : Moment} {e : Errand} (h : w.Regular)
    (hspares : w.Spares (.errand now e)) (htrail : ∀ sessionId, e ≠ .trail sessionId) :
    (e.job now).Serves now w := by
  have hlook := readTerms_letsLook
  cases e with
  | call c =>
    cases c with
    | created d =>
      exact .map (.map (.mono (Editing.create_revises h.toCurated) (fun _ _ h => .editor h)
        (fun _ _ _ => rfl) fun _ _ h => h))
    | updated id d =>
      exact .map (.map (.mono (Editing.update_revises h.toCurated) (fun _ _ h => .editor h)
        (fun _ _ _ => rfl) fun _ _ h => h))
    | deleted id =>
      refine .map (.map (.mono (Editing.delete_deletes id w) (fun v r hr => ?_) (fun _ _ _ => rfl)
        fun _ _ h => h))
      rcases hr with ⟨rfl, rfl⟩ | ⟨level, text, rfl⟩
      · exact .deletion (hspares id rfl)
      · exact .editor trivial
    | got id => exact Job.Keeps.serves (.map (Editing.get_looks hlook)) fun _ => rfl
    | listed => exact Job.Keeps.serves (.map (Editing.list_looks hlook)) fun _ => rfl
    | reported id => exact Job.Keeps.serves (.map (Editing.report_looks hlook)) fun _ => rfl
  | message r ticketId messageId text =>
    have hconducts := r.incoming_conducts (fun _ => True) now ticketId messageId text h.toWellKept
      fun _ _ => trivial
    exact .map (.mono hconducts (fun _ _ h => .reception h) (fun _ _ _ => rfl) fun _ _ _ => trivial)
  | rehearsal limit flowId texts =>
    exact Job.Keeps.serves (Rehearsal.ofFlow_reads limit now flowId texts) fun _ => rfl
  | session id => exact Job.Keeps.serves (.store (.session id) trivial) fun _ => rfl
  | activeSession ticketId =>
    exact Job.Keeps.serves (.store (.activeSession ticketId) trivial) fun _ => rfl
  | sessionsOf flowId =>
    exact Job.Keeps.serves (.store (.sessionsOf flowId) trivial) fun _ => rfl
  | trail sessionId => exact absurd rfl (htrail sessionId)

namespace World

variable {w w₀ : World} {now : Moment} {ts : List Int}

/-! ## Audit trails -/

/-- What was said was said in this order, and before these times. -/
def Chronicled (w : World) (ts : List Int) : Prop :=
  (w.store.interactions.map (fun i => i.createdAt.instant) ++ ts).Pairwise (· ≤ ·)

theorem Chronicled.answer (h : w.Chronicled (now.instant :: ts)) {r : Service.Request}
    (hmay : w.MayServe w₀ now r) : (w.answer r).2.Chronicled (now.instant :: ts) := by
  rcases w.interactions_answer r with hsub | ⟨i, j, rfl, -, htime, hadded⟩
  · exact List.Pairwise.sublist ((hsub.map _).append_right _) h
  have hnow : j.createdAt.instant = now.instant := by
    cases hmay with
    | reception may => rw [htime, may.1]
    | editor may => cases may
  obtain ⟨hbefore, hts, hpast⟩ := List.pairwise_append.1 h
  simp only [Chronicled, hadded, List.map_append, List.map_cons, List.map_nil, hnow,
    List.append_assoc, List.cons_append, List.nil_append]
  refine List.pairwise_append.2 ⟨hbefore, List.pairwise_cons.2 ⟨fun t ht => ?_, hts⟩, ?_⟩
  · rcases List.mem_cons.1 ht with rfl | ht
    · exact Int.le_refl _
    · exact (List.pairwise_cons.1 hts).1 t ht
  · intro a ha b hb
    rcases List.mem_cons.1 hb with rfl | hb
    · exact hpast a ha _ List.mem_cons_self
    · exact hpast a ha b hb

/-- Where the clock was never put back an audit trail is in order as it came. -/
theorem Chronicled.byTime (h : w.Chronicled ts) (p : Interaction → Bool) :
    Interaction.byTime (w.store.interactions.filter p) = w.store.interactions.filter p := by
  have hinOrder := List.pairwise_map.1 (List.pairwise_append.1 h).1
  exact List.mergeSort_of_pairwise ((hinOrder.filter p).imp fun h => decide_eq_true h)

theorem run_trail (now : Moment) {key : String} {is : List Interaction}
    (h : ∀ id, w.store.answer w.clock id (.interactions key) = (.ok is, w.store)) :
    ((Errand.trail key).job now).run w =
      (if w.trouble.outage w.asked (.store (.interactions key)) then .error .outage
        else .ok (.trail is), { w with asked := w.asked + 1 }) := by
  have hanswer : w.answer (.store (.interactions key)) =
      (if w.trouble.outage w.asked (.store (.interactions key)) then .error .outage else .ok is,
        { w with asked := w.asked + 1 }) := by
    simp only [answer, isOutside, Bool.true_and, perform, askStore, opensSession, h]
    split <;> rfl
  refine (Job.run_map _ _ _).trans ?_
  rw [Job.store, Job.run_request, hanswer]
  split <;> rfl

theorem Chronicled.tail {n : Int} (h : w.Chronicled (n :: ts)) : w.Chronicled ts :=
  List.Pairwise.sublist ((List.sublist_cons_self n ts).append_left _) h

theorem Spares.congr {o : Occasion} (h : w.Spares o) {w' : World} (hstore : w'.store = w.store) :
    w'.Spares o := by
  have hbook : w'.book = w.book := congrArg Store.book hstore
  exact fun id hid s hs => h id hid s (hbook ▸ hs)

/-! ## Step by step -/

/-- What an errand comes to beside memory and beside tables: something that is the same but for the
order of an audit trail, and worlds that mirror each other. -/
structure Agrees (w : World) (o : Occasion) (x : Option (Except Failure Returned)) (v : World) :
    Prop where
  memory : w.mirror.attend o = (x, v.mirror)
  rows : w.attend o = (x.map (Except.map Returned.byTime), v)
  regular : v.Regular
  chronicled : ∀ ts, w.Chronicled (o.instant?.toList ++ ts) →
    v.Chronicled ts ∧ x.map (Except.map Returned.byTime) = x

theorem trail_agrees (h : w.Regular) (now : Moment) (key : String) :
    ∃ x v, w.Agrees (.errand now (.trail key)) x v := by
  have htrail (id : String) := answer_trail h.rows now id key
  have hmemory := run_trail (w := { w with clock := now }.mirror) now fun id => (htrail id).1
  have hrows := run_trail (w := { w with clock := now }) now fun id => (htrail id).2
  refine ⟨some (if w.trouble.outage w.asked (.store (.interactions key)) then .error .outage
      else .ok (.trail (w.store.interactions.filter (·.sessionId == key)))),
    { w with clock := now, asked := w.asked + 1 }, congrArg (fun y => (some y.1, y.2)) hmemory,
    (congrArg (fun y => (some y.1, y.2)) hrows).trans ?_, h.congr rfl rfl rfl,
    fun ts hts => ⟨hts.tail, ?_⟩⟩
  · simp only [Option.map_some]
    split <;> rfl
  · simp only [Option.map_some, Option.some.injEq]
    split
    · rfl
    · simp only [Except.map, Returned.byTime, hts.byTime]

theorem attend_agrees (h : w.Regular) {o : Occasion} (hutc : o.IsUtc) (hspares : w.Spares o) :
    ∃ x v, w.Agrees o x v := by
  cases o with
  | helpdesk d | trouble t =>
    exact ⟨none, _, rfl, rfl, h.congr rfl rfl rfl, fun ts hts => ⟨hts, rfl⟩⟩
  | errand now e =>
  by_cases htrail : ∃ key, e = .trail key
  · obtain ⟨key, rfl⟩ := htrail
    exact trail_agrees h now key
  have hnow : rowMoment now = .ok now := rowMoment_utc (hutc now rfl).1 (hutc now rfl).2
  have hthen : ({ w with clock := now } : World).Regular := h.congr rfl rfl rfl
  have hserves := e.job_serves hthen (hspares.congr rfl) fun key hkey => htrail ⟨key, hkey⟩
  obtain ⟨hrun, hserved⟩ := hserves.mirror (fun v r hv hmay => hv.answer hthen.toWellKept hmay)
    (hthen.served rfl hnow)
  have hsame : ((e.job now).run { w with clock := now }).1.map Returned.byTime =
      ((e.job now).run { w with clock := now }).1 := by
    cases hx : ((e.job now).run { w with clock := now }).1 with
    | error e => rfl
    | ok x => exact congrArg Except.ok (hserves.run.1 x hx)
  refine ⟨some ((e.job now).run { w with clock := now }).1,
    ((e.job now).run { w with clock := now }).2, ?_, ?_, hserved.regular hthen, fun ts hts => ⟨?_, congrArg some hsame⟩⟩
  · exact congrArg (fun y => (some y.1, y.2)) hrun
  · exact Prod.ext (congrArg some hsame).symm rfl
  · exact (hserves.keeps (p := fun v => v.Chronicled (now.instant :: ts))
      (fun v r hv hmay => hv.answer hmay) hts).tail

/-! ## One occasion after another -/

theorem attendAll_agrees (h : w.Regular) {os : List Occasion} (hutc : ∀ o ∈ os, o.IsUtc)
    (hspares : w.SparesAll os) :
    ∃ xs v, w.mirror.attendAll os = (xs, v.mirror) ∧ w.attendAll os = (xs.byTime, v) ∧
      (w.Chronicled (os.filterMap Occasion.instant?) → xs.byTime = xs) := by
  induction os generalizing w with
  | nil => exact ⟨[], w, rfl, rfl, fun _ => rfl⟩
  | cons o rest ih =>
    obtain ⟨x, v, hx⟩ := attend_agrees h (hutc o List.mem_cons_self) hspares.1
    have hrest : v.SparesAll rest := by
      have := hspares.2
      rwa [hx.rows] at this
    obtain ⟨xs, v', hmemory, hrows, hchronicled⟩ :=
      ih hx.regular (fun o ho => hutc o (List.mem_cons_of_mem _ ho)) hrest
    refine ⟨x :: xs, v', ?_, ?_, fun hts => ?_⟩
    · simp only [attendAll, hx.memory, hmemory]
    · simp only [attendAll, hx.rows, hrows]
      rfl
    · have hnext : v.Chronicled (rest.filterMap Occasion.instant?) ∧
          x.map (Except.map Returned.byTime) = x := by
        refine hx.chronicled _ ?_
        rw [List.filterMap_cons] at hts
        cases hinstant : o.instant? <;> simpa [hinstant] using hts
      exact congrArg₂ List.cons hnext.2 (hchronicled hnext.1)

theorem regular_of_empty (w : World) : ({ w with store := .relational {} } : World).Regular where
  toWellKept := wellKept_of_none fun _ => rfl
  toCurated := curated_of_empty rfl
  dated := fun _ hf => nomatch hf
  rows := rfl

/-- **Tables and memory serve alike.** In a world that begins without records, whatever errands are
done by a clock that shows universal time, and whatever happens around the service, as long as no
flow is deleted that has sessions: with tables the same comes back as with memory, failures
included, but that audit trails are in order of time; the same is done at the helpdesk and written
to the log, and in the end the records are the same. If the clock was never put back, audit trails
are the same as well. -/
theorem backends_agree (w : World) {os : List Occasion} (hutc : ∀ o ∈ os, o.IsUtc)
    (hspares : ({ w with store := .relational {} } : World).SparesAll os) :
    let rows := ({ w with store := .relational {} } : World).attendAll os
    let memory := ({ w with store := .memory {} } : World).attendAll os
    rows.1 = memory.1.byTime ∧ rows.2.desk = memory.2.desk ∧ rows.2.logs = memory.2.logs ∧
      rows.2.mirror = memory.2 ∧
      ((os.filterMap Occasion.instant?).Pairwise (· ≤ ·) → rows.1 = memory.1) := by
  obtain ⟨xs, v, hmemory, hrows, hchronicled⟩ :=
    attendAll_agrees (regular_of_empty w) hutc hspares
  have hmemory : ({ w with store := .memory {} } : World).attendAll os = (xs, v.mirror) := hmemory
  simp only [hrows, hmemory]
  exact ⟨trivial, rfl, rfl, trivial, hchronicled⟩

end World

/-- A draft of a flow that asks a question. -/
def Draft.inquiry : Draft where
  name := some (some "Inquiry")
  trigger := some (some .default)
  entryNode := some (some "ask")
  definition := some (some (.object [("nodes", .list [
    .object [("id", .string "ask"), ("type", .string "question"), ("content", .string "All well?"),
      ("options", .list [.object [("value", .string "yes"), ("label", .string "Yes")]])]])]))

/-- The audit trails among what came back. -/
def Outcomes.trails (xs : Outcomes) : List (List Interaction) :=
  xs.filterMap fun
    | some (.ok (.trail is)) => some is
    | _ => none

theorem Outcomes.trails_byTime (xs : Outcomes) :
    xs.byTime.trails = xs.trails.map Interaction.byTime := by
  rw [trails, trails, byTime, List.filterMap_map, List.map_filterMap]
  congr 1
  funext x
  match x with
  | none | some (.error _) => rfl
  | some (.ok y) => cases y <;> rfl

namespace World

/-- A contact is asked something and answers, another flow comes and goes, and what was said is
read. -/
def workday : List Occasion :=
  [.errand (.utc 0) (.call (.created Draft.inquiry)),
    .errand (.utc 1) (.message {} "ticket" "m1" "Hi"),
    .errand (.utc 2) (.call (.created Draft.greeter)),
    .errand (.utc 2) (.call (.deleted "flow-2")),
    .errand (.utc 3) (.message {} "ticket" "m2" "Yes"),
    .errand (.utc 4) (.rehearsal 50 "flow-1" ["Maybe"]),
    .errand (.utc 4) (.call (.reported "flow-3")),
    .errand (.utc 5) (.trail "session-1")]

/-- What is read is the same with tables and with memory. -/
theorem workday_agrees :
    (∀ o ∈ workday, o.IsUtc) ∧ ({ quiet with store := .relational {} } : World).SparesAll workday ∧
      (workday.filterMap Occasion.instant?).Pairwise (· ≤ ·) ∧
      (({ quiet with store := .memory {} } : World).attendAll workday).1.trails.map
          (fun is => is.map Interaction.message) = [["Hi", "All well?\n1. Yes", "Yes"]] ∧
      (({ quiet with store := .relational {} } : World).attendAll workday).1 =
        (({ quiet with store := .memory {} } : World).attendAll workday).1 := by
  have hutc : ∀ o ∈ workday, o.IsUtc := by decide +kernel
  have hspares : ({ quiet with store := .relational {} } : World).SparesAll workday := by
    decide +kernel
  have htimes : (workday.filterMap Occasion.instant?).Pairwise (· ≤ ·) := by decide +kernel
  exact ⟨hutc, hspares, htimes, by decide +kernel,
    (World.backends_agree quiet hutc hspares).2.2.2.2 htimes⟩

/-- The contact answers after the clock was put back. -/
def setback : List Occasion :=
  [.errand (.utc 0) (.call (.created Draft.inquiry)),
    .errand (.utc 2) (.message {} "ticket" "m1" "Hi"),
    .errand (.utc 1) (.message {} "ticket" "m2" "Yes"),
    .errand (.utc 3) (.trail "session-1")]

/-- Then memory gives out what was said as it came, out of order, and tables do not. -/
theorem setback_differs :
    (∀ o ∈ setback, o.IsUtc) ∧ ({ quiet with store := .relational {} } : World).SparesAll setback ∧
      (({ quiet with store := .relational {} } : World).attendAll setback).1 ≠
        (({ quiet with store := .memory {} } : World).attendAll setback).1 := by
  have hutc : ∀ o ∈ setback, o.IsUtc := by decide +kernel
  have hspares : ({ quiet with store := .relational {} } : World).SparesAll setback := by
    decide +kernel
  refine ⟨hutc, hspares, fun h => ?_⟩
  have hcame : (({ quiet with store := .memory {} } : World).attendAll setback).1.trails.map
      (fun is => is.map fun i => i.createdAt.instant) = [[2, 2, 1]] := by decide +kernel
  obtain ⟨xs, v, hmemory, hrows, -⟩ := attendAll_agrees (regular_of_empty quiet) hutc hspares
  have hmemory : ({ quiet with store := .memory {} } : World).attendAll setback =
      (xs, v.mirror) := hmemory
  rw [hmemory] at hcame
  rw [hrows, hmemory] at h
  have hinOrder : ([2, 2, 1] : List Int).Pairwise (· ≤ ·) := by
    obtain ⟨is, his, htimes⟩ := List.mem_map.1 (hcame ▸ List.mem_singleton_self [2, 2, 1])
    rw [← h, Outcomes.trails_byTime] at his
    obtain ⟨is, -, rfl⟩ := List.mem_map.1 his
    rw [← htimes]
    exact Interaction.byTime_inOrder is
  exact absurd hinOrder (by decide)

end World

end FrontDesk
