/-
Reports on flows, and the listing of all flows.

Both ask the store for the sessions of a flow and count them, each in its own way. In a calm world a
report on a flow accounts for the sessions that the store lists, and has the counts that the listing
of all flows has for the flow (`World.report_accounts`).
-/
import FrontDesk.Catalog.Samples
import FrontDesk.Proofs.Catalog.Usage
import FrontDesk.Proofs.Service.Calm
import FrontDesk.Proofs.Store.Book
import FrontDesk.Service.Editing

namespace FrontDesk

open Calendar Service

/-- All flows are listed, unless their times cannot be compared. -/
theorem Store.answer_flows (st : Store) :
    ∃ x, (∀ now id, st.answer now id .flows = (x, st)) ∧
      (∀ fs, x = .ok fs → fs = Flow.listed st.catalog.values) ∧
      (Flow.areComparable st.catalog.values = true → x = .ok (Flow.listed st.catalog.values)) := by
  cases st with
  | memory m =>
    refine ⟨Memory.ordered Flow.listed m.flows.values, fun _ _ => rfl, fun fs hfs => ?_,
      fun h => if_pos h⟩
    unfold Memory.ordered at hfs
    split at hfs
    · exact (Except.ok.inj hfs).symm
    · cases hfs
  | relational t => exact ⟨_, fun _ _ => rfl, fun fs hfs => (Except.ok.inj hfs).symm, fun _ => rfl⟩

theorem Flow.listed_perm (fs : List Flow) : (Flow.listed fs).Perm fs :=
  (List.filter_append_perm Flow.isActive _).trans (List.mergeSort_perm _ _)

namespace World

variable {w : World} {id key : String} {f : Flow} {now : Moment}

/-- The sessions of a flow, in the order in which the store lists them. -/
def sessionsOf (w : World) (key : String) : List Session :=
  (w.store.sessions w.clock).filter (·.flowId == key)

/-- The world after some requests that changed nothing. -/
def afterReading (w : World) (n : Nat) : World := { w with asked := w.asked + n }

/-- In a calm world what only reads the store is answered by it. -/
theorem run_reading (hcalm : w.trouble.Calm) (r : Store.Request) {x : Except Store.Fault r.Answer}
    (hr : opensSession r = false) (hx : ∀ id, w.store.answer w.clock id r = (x, w.store)) :
    (Job.store r).run w = (x.mapError .store, w.afterReading 1) := by
  rw [Job.store, Job.run_request, answer_calm hcalm]
  simp only [perform, askStore, hr, hx, Bool.false_eq_true, if_false]
  rfl

theorem run_flow (hcalm : w.trouble.Calm) (id : String) :
    (Job.store (.flow id)).run w = (.ok (w.catalog.find? id), w.afterReading 1) := by
  refine run_reading (x := .ok (w.catalog.find? id)) hcalm (.flow id) rfl fun fresh => ?_
  rw [Store.answer_flow, Store.flow?_eq_catalog]
  rfl

theorem run_sessionsOf (hcalm : w.trouble.Calm) (key : String) :
    (Job.store (.sessionsOf key)).run w = (.ok (w.sessionsOf key), w.afterReading 1) :=
  run_reading hcalm (.sessionsOf key) rfl fun fresh =>
    Store.answer_sessionsOf w.store w.clock fresh key

theorem run_report (hcalm : w.trouble.Calm) (hfind : w.catalog.find? id = some f) :
    ((Editing.report now id).run w).1 =
      (Report.ofSessions f.id f.name (w.sessionsOf f.id) now).mapError .clock := by
  have hget : (Editing.get id).run w = (.ok f, w.afterReading 1) := by
    rw [Editing.get, Job.run_bind, run_flow hcalm, hfind]
    rfl
  rw [Editing.report, Job.run_bind, hget]
  dsimp only
  rw [Job.run_bind, run_sessionsOf (w := w.afterReading 1) hcalm]
  dsimp only
  have hsame : (w.afterReading 1).sessionsOf f.id = w.sessionsOf f.id := rfl
  rw [hsame]
  cases Report.ofSessions f.id f.name (w.sessionsOf f.id) now <;> rfl

theorem run_countAll (hcalm : w.trouble.Calm) (fs : List Flow) :
    (Editing.countAll fs).run w =
      (.ok (fs.map fun f => (f, Counts.ofSessions (w.sessionsOf f.id))),
        w.afterReading fs.length) := by
  induction fs generalizing w with
  | nil => rfl
  | cons f rest ih =>
    rw [Editing.countAll, Job.run_bind, run_sessionsOf hcalm]
    dsimp only
    rw [Job.run_bind, ih (w := w.afterReading 1) hcalm, afterReading, afterReading, afterReading,
      List.length_cons, Nat.add_right_comm, Nat.add_assoc]
    rfl

/-- A listing has all flows with the counts of their sessions, and there is one if the times of the
flows can be compared. -/
theorem run_list (hcalm : w.trouble.Calm) :
    (∀ rows, (Editing.list.run w).1 = .ok rows → rows =
      (Flow.listed w.catalog.values).map fun f => (f, Counts.ofSessions (w.sessionsOf f.id))) ∧
    (Flow.areComparable w.catalog.values = true → ∃ rows, (Editing.list.run w).1 = .ok rows) := by
  obtain ⟨x, hx, honly, hlisted⟩ := w.store.answer_flows
  have hflows := run_reading hcalm .flows rfl fun id => hx w.clock id
  have hlist : ∀ fs, x = .ok fs → (Editing.list.run w).1 =
      .ok (fs.map fun f => (f, Counts.ofSessions (w.sessionsOf f.id))) := by
    rintro fs rfl
    rw [Editing.list, Job.run_bind, hflows]
    exact congrArg Prod.fst (run_countAll (w := w.afterReading 1) hcalm fs)
  refine ⟨fun rows hrows => ?_, fun hcomparable => ⟨_, hlist _ (hlisted hcomparable)⟩⟩
  cases hanswer : x with
  | ok fs =>
    rw [hlist fs hanswer, honly fs hanswer] at hrows
    exact (Except.ok.inj hrows).symm
  | error e =>
    rw [hanswer] at hflows
    rw [Editing.list, Job.run_bind, hflows] at hrows
    cases hrows

theorem run_report_utc (hcalm : w.trouble.Calm) (hfind : w.catalog.find? id = some f)
    (hnow : now.offset.isSome = true) (hutc : ∀ s ∈ w.sessionsOf f.id, s.InUtc) :
    ∃ average, ((Editing.report now id).run w).1 =
      if Moment.inRange (now.ticks - 14 * day) then
        .ok (Report.usage f.id f.name (w.sessionsOf f.id) now average)
      else .error (.clock .outOfRange) := by
  obtain ⟨average, hreport⟩ := Report.ofSessions_eq f.id f.name hnow hutc
  refine ⟨average, ?_⟩
  rw [run_report hcalm hfind, hreport, Report.timelineDays]
  split <;> rfl

/-- **A report on a flow accounts for its sessions, and has the counts of the listing.** Let nothing
fail in a world that has a flow, and let the sessions that the store lists for the flow be in
universal time and none of them be later than a known time. If there was a date two weeks before
that time, there is a report on the flow then. It accounts for the sessions; it has the counts that
the flow has in the listing of all flows, in which the flow is; and wherever the store lists the same
sessions in another order, there is the same report but for the mean duration. If there was no such
date, that is what the report fails of. -/
theorem report_accounts (hcalm : w.trouble.Calm) (hfind : w.catalog.find? id = some f)
    (hnow : now.offset.isSome = true) (hutc : ∀ s ∈ w.sessionsOf f.id, s.InUtc)
    (hpast : ∀ s ∈ w.sessionsOf f.id, s.createdAt.instant ≤ now.instant) :
    (Moment.inRange (now.ticks - 14 * day) = true → ∃ r,
      ((Editing.report now id).run w).1 = .ok r ∧ r.Accounts (w.sessionsOf f.id) now ∧
      (∀ rows, (Editing.list.run w).1 = .ok rows →
        (∃ c, (f, c) ∈ rows) ∧ ∀ row ∈ rows, row.1.id = f.id → r.Agrees row.2) ∧
      (Flow.areComparable w.catalog.values = true → ∃ rows, (Editing.list.run w).1 = .ok rows) ∧
      ∀ v : World, v.trouble.Calm → v.catalog.find? id = some f →
        (v.sessionsOf f.id).Perm (w.sessionsOf f.id) →
        ∃ r', ((Editing.report now id).run v).1 = .ok r' ∧
          r' = { r with averageDuration := r'.averageDuration }) ∧
    (Moment.inRange (now.ticks - 14 * day) = false →
      ((Editing.report now id).run w).1 = .error (.clock .outOfRange)) := by
  obtain ⟨average, hreport⟩ := run_report_utc hcalm hfind hnow hutc
  refine ⟨fun hrange => ?_, fun hrange => ?_⟩
  · rw [if_pos hrange] at hreport
    obtain ⟨hrows, hlisted⟩ := run_list hcalm
    refine ⟨_, hreport, Report.usage_accounts hutc hpast average, fun rows hlist => ?_, hlisted,
      fun v hcalm' hfind' hperm => ?_⟩
    · rw [hrows rows hlist]
      have hmem : f ∈ Flow.listed w.catalog.values :=
        (Flow.listed_perm _).mem_iff.2 (Entries.mem_values_of_find? hfind)
      refine ⟨⟨_, List.mem_map_of_mem hmem⟩, fun row hrow hid => ?_⟩
      obtain ⟨g, -, rfl⟩ := List.mem_map.1 hrow
      dsimp only at hid ⊢
      rw [hid]
      exact Report.usage_agrees f.id f.name _ now average
    · have hutc' : ∀ s ∈ v.sessionsOf f.id, s.InUtc := fun s hs => hutc s (hperm.mem_iff.1 hs)
      obtain ⟨average', hreport'⟩ := run_report_utc hcalm' hfind' hnow hutc'
      rw [if_pos hrange] at hreport'
      exact ⟨_, hreport', Report.usage_perm hperm.symm hutc average average'⟩
  · rw [hreport, hrange]
    rfl

end World

/-- A conversation that began on a day of January of the year 1. -/
def Session.january (id : String) (dayOfMonth : Int) (completedAt : Option Moment) : Session where
  id := id
  flowId := "welcome"
  ticketId := id
  createdAt := .utc ((dayOfMonth - 1) * day)
  updatedAt := .utc ((dayOfMonth - 1) * day)
  completedAt := completedAt

/-- The flow of these conversations. -/
def Flow.greeting : Flow := { Samples.welcome (.utc 0) with id := "welcome" }

/-- An office that had conversations on three days, on the 21st. -/
def january : World where
  clock := .utc (20 * day)
  store := .memory {
    flows := [("welcome", .greeting)]
    sessions := [("c", .january "c" 13 none), ("a", .january "a" 11 (some (.utc (11 * day)))),
      ("b", .january "b" 11 none), ("z", .january "z" 2 none)] }

/-- The timeline leaves out the conversation of the 2nd. -/
theorem january_accounts :
    january.trouble.Calm ∧ january.catalog.find? "welcome" = some .greeting ∧
      Moment.inRange (january.clock.ticks - 14 * day) = true ∧
      (∀ s ∈ january.sessionsOf "welcome", s.InUtc ∧
        s.createdAt.instant ≤ january.clock.instant) ∧
      ∃ r rows c, ((Editing.report january.clock "welcome").run january).1 = .ok r ∧
        r.timeline.Pairwise (·.date < ·.date) ∧ (r.timeline.map (·.started)).sum = 3 ∧
        (r.timeline.map (·.completed)).sum = 1 ∧ (Editing.list.run january).1 = .ok rows ∧
        (Flow.greeting, c) ∈ rows ∧ r.Agrees c := by
  have hcalm : january.trouble.Calm := ⟨fun _ _ => rfl, rfl⟩
  have hfind : january.catalog.find? "welcome" = some .greeting := rfl
  have hrange : Moment.inRange (january.clock.ticks - 14 * day) = true := by decide
  have hsessions : ∀ s ∈ january.sessionsOf "welcome",
      s.InUtc ∧ s.createdAt.instant ≤ january.clock.instant := by
    intro s hs
    have hmem : s ∈ [.january "c" 13 none, .january "a" 11 (some (.utc (11 * day))),
        .january "b" 11 none, .january "z" 2 none] := hs
    simp only [List.mem_cons, List.not_mem_nil, or_false] at hmem
    rcases hmem with rfl | rfl | rfl | rfl
    all_goals
      refine ⟨⟨⟨rfl, by decide⟩, ?_⟩, by decide⟩
      rintro _ ⟨⟩
      try exact ⟨rfl, by decide⟩
  obtain ⟨r, hr, haccounts, hlisted, hcomparable, -⟩ :=
    (World.report_accounts hcalm hfind (rfl : january.clock.offset.isSome = true)
      (fun s hs => (hsessions s hs).1) fun s hs => (hsessions s hs).2).1 hrange
  obtain ⟨rows, hrows⟩ := hcomparable rfl
  obtain ⟨⟨c, hc⟩, hagrees⟩ := hlisted rows hrows
  refine ⟨hcalm, hfind, hrange, hsessions, r, rows, c, hr, haccounts.increasing, ?_, ?_, hrows, hc,
    hagrees _ hc rfl⟩
  · rw [haccounts.started]
    decide
  · rw [haccounts.completed]
    decide

end FrontDesk
