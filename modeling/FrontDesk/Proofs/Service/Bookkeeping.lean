/-
What requests make of the book.

In a world that is well kept each request that may be made is a step of the book
(`World.step_of_may`), and what it gives out is known: a session that was begun, saved or found is at
hand (`World.InHand`), and where none is found the ticket is vacant.
-/
import FrontDesk.Proofs.Service.Growth

namespace FrontDesk

open Calendar Service Store

namespace World

variable {w₀ w w' : World} {new : String → Prop} {now : Moment}

/-! ## Answers -/

/-- A request to the store fails before anything is done, or the store answers it. -/
theorem answer_store_cases (w : World) (r : Store.Request) :
    w.answer (.store r) = (.error .outage, { w with asked := w.asked + 1 }) ∨
      ∃ ids, ids = (if opensSession r then w.sessionIds + 1 else w.sessionIds) ∧
        w.answer (.store r) =
          ((w.store.answer w.clock (numbered "session" ids) r).1.mapError .store,
            { w with
              asked := w.asked + 1
              store := (w.store.answer w.clock (numbered "session" ids) r).2
              sessionIds := ids }) := by
  rw [answer_eq]
  split
  · exact .inl rfl
  · exact .inr ⟨_, rfl, rfl⟩

theorem answer_desk_store (w : World) (r : Helpdesk.Request) :
    (w.answer (.desk r)).2.sessionIds = w.sessionIds ∧
      ((w.answer (.desk r)).2.store = w.store ∨
        ∃ ticketId s id,
          (w.store.answer w.clock id (.activeSession ticketId)).1 = .ok (some s) ∧
          (w.answer (.desk r)).2.store = (w.store.answer w.clock id (.saveSession s)).2) := by
  rw [answer_eq]
  split
  · exact ⟨rfl, .inl rfl⟩
  · obtain ⟨store, hstore, hcases⟩ := interfere_eq { w with asked := w.asked + 1 } r
    simp only [perform, askDesk, hstore]
    exact ⟨trivial, hcases⟩

/-! ## Reading -/

/-- A session that is found is at hand; where none is found none goes on. -/
theorem activeSession_known (now : Moment) (h : w.WellKept) (hsince : Since new w₀ w)
    (hmake : w.store.isRelational = w₀.store.isRelational) {id ticketId : String}
    {s? : Option Session}
    (hx : (w.store.answer w.clock id (.activeSession ticketId)).1 = .ok s?) :
    (∀ s, s? = some s →
      w.InHand w₀ now s ∧ s.Sound ∧ s.completedAt = none ∧ s.ticketId = ticketId) ∧
      (s? = none → w.Vacant ticketId) := by
  obtain ⟨hfound, hnone⟩ := activeSession_book h.steady hx
  refine ⟨fun s hs => ?_, hnone⟩
  obtain ⟨hmem, hactive⟩ := hfound s hs
  simp only [Session.isActiveOn, Session.isActive, Bool.and_eq_true, beq_iff_eq,
    Option.isNone_iff_eq_none] at hactive
  obtain ⟨hticket, hopen⟩ := hactive
  have hfind := h.find?_of_mem hmem
  refine ⟨⟨⟨s, hfind, .refl s, Int.le_refl _, fun _ => ?_⟩, fun s' hs' => ?_, fun time htime => ?_⟩,
    h.read hmem, hopen, hticket⟩
  · exact ⟨List.prefix_rfl, .inr ⟨hopen, hopen⟩, .inr rfl⟩
  · -- had it been completed at the beginning, it would be so still
    cases hdone : s'.completedAt with
    | none => rfl
    | some time =>
      have hsame := (hsince.closed _ s' s hs' (by rw [hdone]; rfl) hfind).completedAt
      rw [hopen, hdone] at hsame
      cases hsame
  · rw [hopen] at htime
    rcases htime with hdone | hmoved
    · cases hdone
    · exact .inr fun hrows => h.steady.retains hmem hmoved (hmake.trans hrows)

/-- One session at most is found that goes on under a ticket. -/
theorem WellKept.active (h : w.WellKept) (now : Moment) (ticketId : String) :
    ∃ s? : Option Session, (w.store.sessions now).filter (·.isActiveOn ticketId) = s?.toList := by
  have htidy := h.tidy.table (.utc 0)
  have hle : (w.book.values.filter (·.isActiveOn ticketId)).length ≤ 1 := by
    refine (Entries.length_filter_le_one htidy.keys _).2 fun e he e' he' hactive hactive' => ?_
    simp only [Session.isActiveOn, Session.isActive, Bool.and_eq_true, beq_iff_eq,
      Option.isNone_iff_eq_none] at hactive hactive'
    rw [← htidy.ids e he, ← htidy.ids e' he']
    exact h.alone _ (List.mem_map_of_mem he) _ (List.mem_map_of_mem he')
      (hactive.1.trans hactive'.1.symm) hactive.2 hactive'.2
  rw [h.steady.sessions]
  cases hfound : w.book.values.filter (·.isActiveOn ticketId) with
  | nil => exact ⟨none, hfound⟩
  | cons s rest =>
    cases rest with
    | nil => exact ⟨some s, hfound⟩
    | cons s' rest => simp [hfound] at hle

theorem WellKept.active_of_mem (h : w.WellKept) (now : Moment) {s : Session}
    (hs : s ∈ w.book.values) (hopen : s.completedAt = none) :
    (w.store.sessions now).filter (·.isActiveOn s.ticketId) = (some s).toList := by
  obtain ⟨s?, hfound⟩ := h.active now s.ticketId
  have hmem : s ∈ s?.toList := by
    rw [← hfound, h.steady.sessions]
    exact List.mem_filter.2 ⟨hs, by simp [Session.isActiveOn, Session.isActive, hopen]⟩
  rw [hfound, Option.mem_toList.1 hmem]

theorem book_answer {r : Store.Request} (hr : r.touchesSessions = false) :
    (w.answer (.store r)).2.book = w.book := by
  rcases w.answer_store r with ⟨hstore, -⟩ | ⟨id, -, hstore⟩
  · exact congrArg Store.book hstore
  · rw [book, hstore]
    exact (Store.book_answer _ _ _ hr).1

theorem sessionIds_answer {r : Store.Request} (hr : r.touchesSessions = false) :
    (w.answer (.store r)).2.sessionIds = w.sessionIds := by
  rcases w.answer_store_cases r with hfails | ⟨ids, hids, hanswer⟩
  · rw [hfails]
  · rw [hanswer]
    cases r with
    | openSession | saveSession | deleteFlow => cases hr
    | _ => exact hids

theorem step_of_untouched (h : w.WellKept) {r : Store.Request}
    (hr : r.touchesSessions = false) :
    Step w₀ new w (w.answer (.store r)).2 ∧ (w.answer (.store r)).2.Readable := by
  refine ⟨.same (Nat.le_of_eq (sessionIds_answer hr).symm) (book_answer hr), ?_⟩
  rcases w.answer_store r with ⟨hstore, -⟩ | ⟨id, -, hstore⟩
  · exact h.toReadable.congr hstore
  have hmay : soundTerms.may (.store r) := by
    cases r with
    | openSession | saveSession | deleteFlow => cases hr
    | _ => trivial
  refine ⟨?_, ?_, ?_⟩
  · rw [hstore]
    exact h.tidy.answer _ _ _
  · rw [hstore]
    exact (Store.answer_sound h.sound _ _ r hmay).1
  · rw [hstore]
    exact (Store.book_answer _ _ _ hr).2 h.steady

theorem sessionIds_le_answer (w : World) (r : Service.Request) :
    w.sessionIds ≤ (w.answer r).2.sessionIds := by
  cases r with
  | store r =>
    rcases w.answer_store_cases r with hfails | ⟨ids, hids, hanswer⟩
    · simp only [hfails, Nat.le_refl]
    · rw [hanswer]
      simp only [hids]
      split <;> omega
  | desk r => exact Nat.le_of_eq (w.answer_desk_store r).1.symm
  | log level text | newFlowId => exact Nat.le_refl _

theorem answer_of_ok {r : Store.Request} {x : r.Answer} (hx : (w.answer (.store r)).1 = .ok x) :
    ∃ ids, ids = (if opensSession r then w.sessionIds + 1 else w.sessionIds) ∧
      (w.store.answer w.clock (numbered "session" ids) r).1 = .ok x := by
  rcases w.answer_store_cases r with hfails | ⟨ids, hids, hanswer⟩
  · rw [hfails] at hx
    cases hx
  · rw [hanswer] at hx
    refine ⟨ids, hids, ?_⟩
    cases hy : (w.store.answer w.clock (numbered "session" ids) r).1 with
    | error e =>
      rw [hy] at hx
      cases hx
    | ok y =>
      rw [hy] at hx
      rw [Except.ok.inj hx]

/-! ## Writing -/

/-- Interactions go with the flow of their sessions; one is added when it is put on record. -/
theorem interactions_answer (w : World) (r : Service.Request) :
    (w.answer r).2.store.interactions.Sublist w.store.interactions ∨
      ∃ i j, r = .store (.record i) ∧ j.sessionId = i.sessionId ∧
        j.createdAt.instant = i.createdAt.instant ∧
        (w.answer r).2.store.interactions = w.store.interactions ++ [j] := by
  cases r with
  | store r =>
    rcases w.answer_store r with ⟨hstore, -⟩ | ⟨id, -, hstore⟩
    · rw [hstore]
      exact .inl (.refl _)
    · rw [hstore]
      rcases Store.interactions_answer w.store w.clock id r with h | ⟨i, j, rfl, hij⟩
      · exact .inl h
      · exact .inr ⟨i, j, rfl, hij⟩
  | desk r =>
    obtain ⟨-, hstore | ⟨_, s, id, -, hstore⟩⟩ := w.answer_desk_store r
    · rw [hstore]
      exact .inl (.refl _)
    · rw [hstore]
      rcases Store.interactions_answer w.store w.clock id (.saveSession s) with h | ⟨_, _, hr, -⟩
      · exact .inl h
      · cases hr
  | log level text | newFlowId => exact .inl (.refl _)

/-- A session at hand is saved, or nothing is done. -/
theorem saveSession_step (new : String → Prop) (w' : World) (h : w.WellKept) {s : Session}
    (hs : w.InHand w₀ now s) (hsound : s.Sound)
    {time : Moment} {id : String}
    (hstore : w'.store = (w.store.answer time id (.saveSession s)).2)
    (hids : w'.sessionIds = w.sessionIds) :
    Step w₀ new w w' ∧ w'.Readable ∧
      ∀ x, (w.store.answer time id (.saveSession s)).1 = .ok x →
        x = Memory.saved s time ∧ w'.InHand w₀ now x := by
  obtain ⟨old, hold, hkin, -, hcontinues⟩ := hs.record
  have hsame : ∀ old', w.book.find? s.id = some old' → old'.Kin s := by
    intro old' hold'
    rw [hold] at hold'
    cases hold'
    exact hkin
  have hread : w'.Readable := by
    refine ⟨?_, ?_, ?_⟩
    · rw [hstore]
      exact h.tidy.answer _ _ _
    · rw [hstore]
      exact (Store.answer_sound h.sound _ _ (.saveSession s) hsound).1
    · rcases saveSession_book h.steady time id (fun _ => hsound.storable) hsame with
        ⟨e, he⟩ | ⟨_, _, st', hanswer, -, -, -, hsteady, -, -⟩
      · rw [hstore, he]
        exact h.steady
      · rw [hstore, hanswer]
        exact hsteady
  rcases saveSession_book h.steady time id (fun _ => hsound.storable) hsame with
    ⟨e, he⟩ | ⟨old', s', st', hanswer, hfind, hversion, hnoted, -, hbook, -⟩
  · refine ⟨.same (Nat.le_of_eq hids.symm) ?_, hread, fun x hx => ?_⟩
    · rw [book, hstore, he]
      rfl
    · rw [he] at hx
      cases hx
  · obtain rfl : old = old' := Option.some.inj (hold.symm.trans hfind)
    have hcontinues := hcontinues hversion
    have hid : s'.id = s.id := hnoted.kin.id.symm
    have hbook' : w'.book = w.book.put s'.id s' := by
      rw [book, hstore, hanswer, hid]
      exact hbook
    have hprecedes : old.Precedes s' := by
      refine ⟨hkin.trans hnoted.kin, ?_, ?_, fun hdone => ?_⟩
      · rw [hnoted.state]
        exact hcontinues.history
      · rw [hnoted.version, hversion]
        omega
      · rw [hnoted.completed]
        rcases hcontinues.completed with hnow | ⟨-, hopen⟩
        · rw [hnow]; rfl
        · rw [hopen] at hdone; cases hdone
    refine ⟨.saved old s' hids (by rw [hid]; exact hfind) hprecedes
      (by rw [hnoted.version, hversion]) (.inr (by rw [hid]; exact hs.ongoing)) hbook', hread,
      fun x hx => ?_⟩
    rw [hanswer] at hx
    obtain rfl : Memory.saved s time = x := Except.ok.inj hx
    have hkin' : s'.Kin (Memory.saved s time) :=
      hnoted.kin.symm.trans ⟨rfl, rfl, rfl, rfl, rfl⟩
    refine ⟨rfl, ⟨⟨s', ?_, hkin', ?_, fun _ => ⟨?_, ?_, ?_⟩⟩, hs.ongoing, hs.times⟩⟩
    · rw [hbook', hid, Entries.find?_put]
      exact if_pos rfl
    · exact Int.le_of_eq hnoted.version.symm
    · rw [hnoted.state]
      exact List.prefix_rfl
    · rcases hcontinues.completed with hnow | ⟨hopen, -⟩
      · exact .inl hnow
      · refine .inr ⟨hopen, ?_⟩
        have hsome := hnoted.completed
        rw [hopen] at hsome
        simpa using hsome
    · rcases hcontinues.transferred with hnow | hsame
      · exact .inl hnow
      · exact .inr (hsame.trans (hnoted.transferred hsame).symm)

/-- A session is begun under the next id, or nothing is done. -/
theorem openSession_step (now : Moment) (w' : World) (h : w.WellKept) (hw₀ : w₀.WellKept)
    (hsince : Since new w₀ w) {o : Opening} (ho : w.MayOpen new o)
    (hstore : w'.store =
      (w.store.answer w.clock (numbered "session" (w.sessionIds + 1)) (.openSession o)).2)
    (hids : w'.sessionIds = w.sessionIds + 1) :
    Step w₀ new w w' ∧ w'.Readable ∧
      ∀ s, (w.store.answer w.clock (numbered "session" (w.sessionIds + 1))
          (.openSession o)).1 = .ok s →
        w'.InHand w₀ now s ∧ s.Sound ∧ s.completedAt = none ∧ s.state = {} := by
  obtain ⟨entry, hnode, hne⟩ := ho.node
  have hsound (id : String) (time : Moment) : (Memory.begin o id time).Sound :=
    Memory.begin_sound hnode hne ho.state id time
  have hstorable : o.state.Storable := by rw [ho.state]; exact State.storable_empty
  have htidy : w'.store.Tidy := by rw [hstore]; exact h.tidy.answer _ _ _
  have hsound' : w'.store.Sound := by
    rw [hstore]
    exact (Store.answer_sound h.sound _ _ (.openSession o) hsound).1
  rcases openSession_book h.steady w.clock (numbered "session" (w.sessionIds + 1)) hstorable with
    ⟨e, he⟩ | ⟨s, st', hanswer, hlike, htransferred, hsteady, hbook, -⟩
  · refine ⟨.same (by omega) ?_, ⟨htidy, hsound', ?_⟩, fun x hx => ?_⟩
    · rw [book, hstore, he]
      rfl
    · rw [hstore, he]
      exact h.steady
    · rw [he] at hx
      cases hx
  · have hid : s.id = numbered "session" (w.sessionIds + 1) := hlike.id
    have hticket : s.ticketId = o.ticketId := hlike.ticketId
    have hflow : s.flowId = o.flowId := hlike.flowId
    have hopen : s.completedAt = none := by simpa [Memory.begin] using hlike.completed
    have hbook' : w'.book = w.book.put s.id s := by
      rw [book, hstore, hanswer, hid]
      exact hbook
    refine ⟨.begun s hid hids (hticket ▸ ho.ticket) (hticket ▸ ho.vacant) (hflow ▸ ho.flow) hbook',
      ⟨htidy, hsound', by rw [hstore, hanswer]; exact hsteady⟩, fun x hx => ?_⟩
    rw [hanswer] at hx
    obtain rfl : s = x := Except.ok.inj hx
    refine ⟨⟨⟨s, ?_, .refl s, Int.le_refl _, fun _ => ?_⟩, fun s' hs' => ?_, fun time htime => ?_⟩,
      ?_, hopen, hlike.state.trans ho.state⟩
    · rw [hbook', Entries.find?_put]
      exact if_pos rfl
    · exact ⟨List.prefix_rfl, .inr ⟨hopen, hopen⟩, .inr rfl⟩
    · rw [hid, hw₀.unused _ (Nat.lt_succ_of_le hsince.ids)] at hs'
      cases hs'
    · rw [hopen, htransferred] at htime
      rcases htime with h | h <;> cases h
    · exact (hsound (numbered "session" (w.sessionIds + 1)) w.clock).congr hlike.state
        hlike.currentNode hlike.completed

/-! ## Whatever may be asked -/

theorem store_keeps {p : Store → Prop} (hp : ∀ st now id r, p st → p (st.answer now id r).2)
    (hw : p w.store) (r : Service.Request) : p (w.answer r).2.store := by
  cases r with
  | store r =>
    rcases w.answer_store r with ⟨hstore, -⟩ | ⟨id, -, hstore⟩
    · rw [hstore]
      exact hw
    · rw [hstore]
      exact hp _ _ _ _ hw
  | desk r =>
    obtain ⟨-, hstore | ⟨_, _, _, -, hstore⟩⟩ := w.answer_desk_store r
    · rw [hstore]
      exact hw
    · rw [hstore]
      exact hp _ _ _ _ hw
  | log level text | newFlowId => exact hw

theorem isRelational_answer (w : World) (r : Service.Request) :
    (w.answer r).2.store.isRelational = w.store.isRelational :=
  store_keeps (p := fun st => st.isRelational = w.store.isRelational)
    (fun st now id r h => (st.isRelational_answer now id r).trans h) rfl r

/-- **Each request that may be made is a step of the book**, whether it fails or not. -/
theorem step_of_may (h : w.WellKept) (hw₀ : w₀.WellKept) (hsince : Since new w₀ w)
    (hmake : w.store.isRelational = w₀.store.isRelational)
    {r : Service.Request} (hmay : w.May w₀ new now r) :
    Step w₀ new w (w.answer r).2 ∧ (w.answer r).2.Readable := by
  cases r with
  | store r =>
    cases r with
    | openSession o =>
      rcases w.answer_store_cases (.openSession o) with hfails | ⟨ids, rfl, hanswer⟩
      · rw [hfails]
        exact ⟨.same (Nat.le_refl _) rfl, h.toReadable.congr rfl⟩
      · obtain ⟨hstep, hread, -⟩ := openSession_step now (w.answer (.store (.openSession o))).2 h hw₀
          hsince hmay (by rw [hanswer]; rfl) (by rw [hanswer]; rfl)
        exact ⟨hstep, hread⟩
    | saveSession s =>
      rcases w.answer_store_cases (.saveSession s) with hfails | ⟨ids, rfl, hanswer⟩
      · rw [hfails]
        exact ⟨.same (Nat.le_refl _) rfl, h.toReadable.congr rfl⟩
      · obtain ⟨hstep, hread, -⟩ := saveSession_step new (w.answer (.store (.saveSession s))).2 h
          hmay.1 hmay.2 (by rw [hanswer]) (by rw [hanswer]; rfl)
        exact ⟨hstep, hread⟩
    | deleteFlow | saveFlow | demoteOthers => cases hmay
    | _ => exact step_of_untouched h rfl
  | desk r =>
    obtain ⟨hids, hsame | ⟨ticketId, s, id, hfound, hstore⟩⟩ := w.answer_desk_store r
    · exact ⟨.same (Nat.le_of_eq hids.symm) (congrArg Store.book hsame), h.toReadable.congr hsame⟩
    · -- someone else saves the session as it is
      obtain ⟨hhand, hsound, -, -⟩ := (activeSession_known now h hsince hmake hfound).1 s rfl
      have hstep := saveSession_step new _ h hhand hsound hstore hids
      exact ⟨hstep.1, hstep.2.1⟩
  | log level text => exact ⟨.same (Nat.le_refl _) rfl, h.toReadable.congr rfl⟩
  | newFlowId => cases hmay

end World

end FrontDesk
