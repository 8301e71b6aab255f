/-
Messages on a ticket, one after the other.

Messages come in on many tickets at once and their processing takes turns at a counter. To each
ticket there is a second world in which nothing but its messages is dealt with, one after the other
(`World.inTurn`), and requests about it fail just where they fail at the counter (`World.facing`).
The two worlds stay in step on the ticket (`Shadow`): the head of its line goes on in both, and what
happens to other tickets does not touch it. So what is on file of a ticket when all is done is what
dealing with its messages one by one leaves there (`World.serialized`).
-/
import FrontDesk.Proofs.Service.Alike
import FrontDesk.Proofs.Service.Lines
import FrontDesk.Proofs.Service.Rehearsed

namespace FrontDesk

open Calendar Service

/-! ## One after the other -/

namespace World

variable {α : Type}

/-- Jobs are run one after the other. -/
def inTurn (w : World) (js : List (Job α)) : World := js.foldl (fun w j => (j.run w).2) w

/-- The world in which requests from now on fail or not as the list says, and then no more. -/
def facing (w : World) (failures : List Bool) : World :=
  { w with trouble := { w.trouble with outage := fun n _ => failures.getD (n - w.asked) false } }

theorem inTurn_append (w : World) (js js' : List (Job α)) :
    w.inTurn (js ++ js') = (w.inTurn js).inTurn js' := List.foldl_append

theorem run_of_result {j : Job α} (h : j.result?.isSome = true) (w : World) :
    (j.run w).2 = w := by
  cases j with
  | done | failed => rfl
  | ask => cases h

theorem answer_asked (w : World) (r : Service.Request) : (w.answer r).2.asked = w.asked + 1 := by
  rw [answer_eq]
  split
  · rfl
  · cases r with
    | desk r =>
      obtain ⟨store, hstore, -⟩ := interfere_eq { w with asked := w.asked + 1 } r
      simp [perform, askDesk, hstore]
    | store r | log level text | newFlowId => rfl

theorem InStep.facing {w v : World} {ticketId : String} {stage : Stage}
    (h : InStep ticketId stage w v) (failures : List Bool) :
    InStep ticketId stage w (v.facing failures) :=
  ⟨h.orderly, ⟨h.orderly'.tidy, h.orderly'.unused, h.orderly'.filed⟩, h.clock, h.rivals, h.withheld,
    h.store, h.desk⟩

theorem facing_outage (v : World) (failures : List Bool) (n : Nat) (r : Service.Request) :
    (v.facing failures).trouble.outage (v.asked + n) r = failures.getD n false := by
  simp [World.facing]

end World

theorem Asks.fails_eq {ticketId : String} {stage : Stage} {r r' : Service.Request} {w v : World}
    (h : Asks ticketId stage r r') (houtage : v.trouble.outage v.asked r' = w.fails r) :
    w.fails r = v.fails r' := by
  unfold World.fails at houtage ⊢
  rw [houtage, h.isOutside, ← Bool.and_assoc, Bool.and_self]

/-! ## Lines and their shadows -/

/-- What is left to do about a ticket, and what is left to do in the other world. The head of the
line is under way; the others are as they came. -/
inductive Lineup (ticketId : String) {α : Type} :
    Stage → List (Job α) → List (Job α) → Prop where
  | nil : Lineup ticketId .fresh [] []
  | cons {stage : Stage} {j j' : Job α} {js : List (Job α)}
      (head : j.Alike ticketId Reception.Ends stage j')
      (waiting : ∀ j ∈ js, j.Alike ticketId Reception.Ends .fresh j) :
    Lineup ticketId stage (j :: js) (j' :: js)

namespace Lineup

variable {α : Type} {ticketId : String} {stage : Stage} {js js' : List (Job α)} {j : Job α}

theorem of_waiting (h : ∀ j ∈ js, j.Alike ticketId Reception.Ends .fresh j) :
    Lineup ticketId .fresh js js := by
  cases js with
  | nil => exact .nil
  | cons j js => exact .cons (h j (by simp)) fun j hj => h j (by simp [hj])

theorem concat (h : Lineup ticketId stage js js') (hj : j.Alike ticketId Reception.Ends .fresh j) :
    Lineup ticketId stage (js ++ [j]) (js' ++ [j]) := by
  cases h with
  | nil => exact .cons hj (by simp)
  | cons head waiting =>
    refine .cons head fun i hi => ?_
    rcases List.mem_append.1 hi with hi | hi
    · exact waiting i hi
    · rw [List.mem_singleton.1 hi]
      exact hj

/-- Where all that is left has a result, nothing is left to do. -/
theorem inTurn_of_results (h : Lineup ticketId stage js js')
    (hresults : ∀ j ∈ js, j.result?.isSome = true) (v : World) : v.inTurn js' = v := by
  cases h with
  | nil => rfl
  | @cons _ j j' js head waiting =>
    have hhead : j'.result?.isSome = true := by
      have hj := hresults j (by simp)
      cases head with
      | done => rfl
      | failed => rfl
      | ask => cases hj
    have hrest (js : List (Job α)) (hjs : ∀ j ∈ js, j.result?.isSome = true) : v.inTurn js = v := by
      induction js with
      | nil => rfl
      | cons i js ih =>
        rw [World.inTurn, List.foldl_cons, World.run_of_result (hjs i (by simp))]
        exact ih fun j hj => hjs j (by simp [hj])
    exact hrest _ fun i hi => by
      rcases List.mem_cons.1 hi with rfl | hi
      · exact hhead
      · exact hresults i (by simp [hi])

end Lineup

/-- Beside the world at the counter there is one in step with it, in which what is left to do about
one ticket is done job by job. -/
def Shadow {α : Type} (ticketId : String) (c : Counter α) (w v : World) (js : List (Job α)) :
    Prop :=
  ∃ stage, Lineup ticketId stage (c.lefts ticketId) js ∧ World.InStep ticketId stage w v

namespace Counter

variable {α : Type}

/-- Whether a request about the ticket fails, if the event makes one. -/
def failure? (ticketId : String) (c : Counter α) (w : World) : Event α → Option Bool
  | .turn n =>
    match c.first? n with
    | some call =>
      match call.left with
      | .ask r _ => if call.ticket = ticketId then some (w.fails r) else none
      | _ => none
    | none => none
  | _ => none

/-- Which of the requests about a ticket fail in a row of events. -/
def failures (ticketId : String) (c : Counter α) (w : World) : List (Event α) → List Bool
  | [] => []
  | e :: es =>
    (c.failure? ticketId w e).toList ++
      (c.after w e).1.failures ticketId (c.after w e).2 es

/-- The jobs about a ticket among the calls that came in. -/
def jobsOf (ticketId : String) (arrived : List (String × Job α)) : List (Job α) :=
  (arrived.filter (·.1 == ticketId)).map Prod.snd

theorem jobsOf_append (ticketId : String) (arrived arrived' : List (String × Job α)) :
    jobsOf ticketId (arrived ++ arrived') =
      jobsOf ticketId arrived ++ jobsOf ticketId arrived' := by
  simp [jobsOf]

/-- A call is alike to itself on its ticket. -/
def Event.Regular : Event α → Prop
  | .arrive ticketId job => job.Alike ticketId Reception.Ends .fresh job
  | _ => True

variable {ticketId : String} {c : Counter α} {w : World} {n : Nat} {call : Call α}

theorem failure?_asks {r : Service.Request} {next : Except Failure r.Answer → Job α}
    (hfirst : c.first? n = some call) (hleft : call.left = .ask r next) :
    c.failure? ticketId w (.turn n) =
      if call.ticket = ticketId then some (w.fails r) else none := by
  simp only [failure?, hfirst, hleft]

theorem failure?_leaves (hfirst : c.first? n = some call)
    (hleft : call.left.result?.isSome = true) : c.failure? ticketId w (.turn n) = none := by
  simp only [failure?, hfirst]
  cases hjob : call.left with
  | done | failed => rfl
  | ask =>
    rw [hjob] at hleft
    cases hleft

end Counter

namespace Shadow

variable {α : Type} {ticketId : String} {c c' : Counter α} {w w' v : World} {js : List (Job α)}

/-- The head of the line goes on in both worlds. -/
theorem asks (h : Shadow ticketId c w v js) {r : Service.Request}
    {next : Except Failure r.Answer → Job α} {rest : List (Job α)}
    (hlefts : c.lefts ticketId = .ask r next :: rest)
    (houtage : ∀ r', v.trouble.outage v.asked r' = w.fails r) :
    w.Turns ticketId (w.answer r).2 ∧ (w.answer r).2.Orderly ∧
      ∃ (v' : World) (js' : List (Job α)), v'.trouble = v.trouble ∧ v'.asked = v.asked + 1 ∧
        (∀ more, v.inTurn (js ++ more) = v'.inTurn (js' ++ more)) ∧
        ∀ {c' : Counter α}, c'.lefts ticketId = next (w.answer r).1 :: rest →
          Shadow ticketId c' (w.answer r).2 v' js' := by
  obtain ⟨stage, hline, hstep⟩ := h
  rw [hlefts] at hline
  cases hline with
  | @cons _ _ j' _ head waiting =>
  cases head with
  | @ask _ _ r' _ next' asks goesOn =>
  obtain ⟨hturns, stage', hstep', hgives⟩ := hstep.answer asks (asks.fails_eq (houtage r'))
  refine ⟨hturns, hstep'.orderly, (v.answer r').2, next' (v.answer r').1 :: rest,
    (World.answer_trouble v r').1, World.answer_asked v r', fun more => rfl, fun hlefts' => ?_⟩
  rw [Shadow, hlefts']
  exact ⟨stage', .cons (goesOn _ _ _ hgives) waiting, hstep'⟩

/-- What concerns other tickets leaves a shadow as it is. -/
theorem spared (h : Shadow ticketId c w v js) {other : String} (hturns : w.Turns other w')
    (horderly : w'.Orderly) (hne : ticketId ≠ other)
    (hlefts : c'.lefts ticketId = c.lefts ticketId) :
    Shadow ticketId c' w' v js := by
  obtain ⟨stage, hline, hstep⟩ := h
  rw [Shadow, hlefts]
  exact ⟨stage, hline, hstep.spared hturns hne horderly⟩

theorem congr (h : Shadow ticketId c w v js) (hlefts : c'.lefts ticketId = c.lefts ticketId) :
    Shadow ticketId c' w v js := by
  rw [Shadow, hlefts]
  exact h

/-- **The shadow goes along** with what happens at the counter. What it is in the end stays the
same. -/
theorem happens {e : Counter.Event α} (hlined : c.Lined) (hhappens : c.Happens w e c' w')
    (hregular : e.Regular) (hall : ∀ ticketId, ∃ v js, Shadow ticketId c w v js)
    (h : Shadow ticketId c w v js)
    (hfailure : ∀ b, c.failure? ticketId w e = some b → ∀ r, v.trouble.outage v.asked r = b) :
    ∃ (v' : World) (js' : List (Job α)), Shadow ticketId c' w' v' js' ∧ v'.trouble = v.trouble ∧
      v'.asked = v.asked + (c.failure? ticketId w e).toList.length ∧
      ∀ more, v.inTurn (js ++ (Counter.jobsOf ticketId e.arrival?.toList ++ more)) =
        v'.inTurn (js' ++ more) := by
  cases hhappens with
  | waits first =>
    refine ⟨v, js, h, rfl, ?_, fun more => rfl⟩
    simp [Counter.failure?, first]
  | @forgets other _ calls queue =>
    have hlefts : c'.lefts ticketId = c.lefts ticketId :=
      Counter.lefts_congr (queue _) fun n _ => by rw [calls]
    exact ⟨v, js, h.congr hlefts, rfl, rfl, fun more => rfl⟩
  | @arrives ticket job _ k calls queue =>
    obtain ⟨stage, hline, hstep⟩ := h
    refine ⟨v, js ++ Counter.jobsOf ticketId [(ticket, job)], ⟨stage, ?_, hstep⟩, rfl, rfl,
      fun more => by rw [List.append_assoc]; rfl⟩
    rw [hlined.lefts_arrives calls queue]
    by_cases hticket : ticketId = ticket
    · subst hticket
      simpa [Counter.jobsOf] using hline.concat hregular
    · simpa [Counter.jobsOf, hticket, Ne.symm hticket] using hline
  | @asks n call r next rest _ first left head calls queue =>
    obtain ⟨⟨rest, hlefts, hlefts'⟩, hothers⟩ :=
      hlined.lefts_asks (Counter.getElem?_of_first? first) head calls queue
    rw [left] at hlefts
    rw [Counter.failure?_asks first left] at hfailure ⊢
    by_cases hticket : call.ticket = ticketId
    · subst hticket
      rw [if_pos rfl] at hfailure ⊢
      obtain ⟨-, -, v', js', htrouble, hasked, hturn, hshadow⟩ := h.asks hlefts (hfailure _ rfl)
      exact ⟨v', js', hshadow hlefts', htrouble, hasked, fun more => hturn more⟩
    · rw [if_neg hticket]
      -- the shadow of the ticket it is about tells that the request concerns no other one
      obtain ⟨u, us, stage, hline, hstep⟩ := hall call.ticket
      have hshadow : Shadow call.ticket c w (u.facing [w.fails r]) us :=
        ⟨stage, hline, hstep.facing _⟩
      obtain ⟨hturns, horderly, -⟩ := hshadow.asks hlefts fun r' =>
        World.facing_outage u [w.fails r] 0 r'
      exact ⟨v, js, h.spared hturns horderly (Ne.symm hticket) (hothers _ (Ne.symm hticket)), rfl,
        rfl, fun more => rfl⟩
  | @leaves n call rest _ first left head calls queue =>
    obtain ⟨hlefts, hothers⟩ :=
      Counter.Lined.lefts_leaves (Counter.getElem?_of_first? first) head calls queue
    rw [Counter.failure?_leaves first left]
    by_cases hticket : call.ticket = ticketId
    · subst hticket
      obtain ⟨stage, hline, hstep⟩ := h
      rw [hlefts] at hline
      cases hline with
      | @cons _ _ j' _ hhead waiting =>
      have hresult : j'.result?.isSome = true := by
        cases hjob : call.left with
        | ask =>
          rw [hjob] at left
          cases left
        | done =>
          rw [hjob] at hhead
          cases hhead
          rfl
        | failed =>
          rw [hjob] at hhead
          cases hhead
          rfl
      refine ⟨v, c'.lefts call.ticket, ⟨.fresh, .of_waiting waiting, hstep.fresh⟩, rfl, rfl,
        fun more => ?_⟩
      have hrun : v.inTurn [j'] = v := World.run_of_result hresult v
      rw [List.cons_append, ← List.singleton_append, World.inTurn_append, hrun]
      rfl
    · exact ⟨v, js, h.congr (hothers _ (Ne.symm hticket)), rfl, rfl, fun more => rfl⟩

/-- Whatever happens, each ticket keeps a shadow. -/
theorem exists_after {e : Counter.Event α} (hlined : c.Lined) (hhappens : c.Happens w e c' w')
    (hregular : e.Regular) (hall : ∀ ticketId, ∃ v js, Shadow ticketId c w v js)
    (ticketId : String) : ∃ v js, Shadow ticketId c' w' v js := by
  obtain ⟨v, js, stage, hline, hstep⟩ := hall ticketId
  -- the shadow may fail where it has to
  have hshadow : Shadow ticketId c w (v.facing (c.failure? ticketId w e).toList) js :=
    ⟨stage, hline, hstep.facing _⟩
  obtain ⟨v', js', h, -⟩ := hshadow.happens hlined hhappens hregular hall fun b hb r => by
    rw [hb]
    exact World.facing_outage v [b] 0 r
  exact ⟨v', js', h⟩

/-- The shadow in which requests fail as they do at the counter goes along to the end. -/
theorem afterAll {es : List (Counter.Event α)} (hlined : c.Lined)
    (hregular : ∀ e ∈ es, e.Regular) (hall : ∀ ticketId, ∃ v js, Shadow ticketId c w v js)
    (h : Shadow ticketId c w v js)
    (hfailures : ∀ n r, v.trouble.outage (v.asked + n) r =
      (c.failures ticketId w es).getD n false) :
    ∃ (v' : World) (js' : List (Job α)),
      Shadow ticketId (c.afterAll w es).1 (c.afterAll w es).2 v' js' ∧
      v.inTurn (js ++ Counter.jobsOf ticketId (Counter.arrivals es)) = v'.inTurn js' := by
  induction es generalizing c w v js with
  | nil => exact ⟨v, js, h, by simp [Counter.arrivals, Counter.jobsOf]⟩
  | cons e es ih =>
    obtain ⟨hlined', hhappens⟩ := hlined.after w e
    have hhead := hregular e (by simp)
    have hfailure : ∀ b, c.failure? ticketId w e = some b →
        ∀ r, v.trouble.outage v.asked r = b := by
      intro b hb r
      have hnow := hfailures 0 r
      simpa [Counter.failures, hb] using hnow
    obtain ⟨v₁, js₁, h₁, htrouble, hasked, hturn⟩ := h.happens hlined hhappens hhead hall hfailure
    have hrest (n : Nat) (r : Service.Request) : v₁.trouble.outage (v₁.asked + n) r =
        ((c.after w e).1.failures ticketId (c.after w e).2 es).getD n false := by
      have hlater := hfailures ((c.failure? ticketId w e).toList.length + n) r
      rw [htrouble, hasked, Nat.add_assoc, hlater, Counter.failures, List.getD_eq_getElem?_getD,
        List.getD_eq_getElem?_getD, List.getElem?_append_right (Nat.le_add_right _ _),
        Nat.add_sub_cancel_left]
    obtain ⟨v', js', h', hend⟩ := ih hlined' (fun e he => hregular e (by simp [he]))
      (exists_after hlined hhappens hhead hall) h₁ hrest
    refine ⟨v', js', h', ?_⟩
    rw [Counter.arrivals_cons, Counter.jobsOf_append, hturn, hend]

theorem all_afterAll {es : List (Counter.Event α)} (hlined : c.Lined)
    (hregular : ∀ e ∈ es, e.Regular) (hall : ∀ ticketId, ∃ v js, Shadow ticketId c w v js)
    (ticketId : String) :
    ∃ v js, Shadow ticketId (c.afterAll w es).1 (c.afterAll w es).2 v js := by
  obtain ⟨v, js, stage, hline, hstep⟩ := hall ticketId
  have hshadow : Shadow ticketId c w (v.facing (c.failures ticketId w es)) js :=
    ⟨stage, hline, hstep.facing _⟩
  obtain ⟨v', js', h, -⟩ := hshadow.afterAll hlined hregular hall fun n r =>
    World.facing_outage v _ n r
  exact ⟨v', js', h⟩

end Shadow

/-! ## Messages at a counter -/

namespace Reception

/-- What can happen at the counter of a reception. -/
inductive Incident where
  /-- A message comes in. -/
  | message (now : Moment) (ticketId messageId text : String)
  /-- It is the turn of a message. -/
  | turn (n : Nat)
  /-- The line of a ticket is forgotten, if nobody stands in it. -/
  | forget (ticketId : String)

/-- The event of an incident. -/
def event (r : Reception) : Incident → Counter.Event (Option Session)
  | .message now ticketId messageId text =>
    .arrive ticketId (r.incoming now ticketId messageId text)
  | .turn n => .turn n
  | .forget ticketId => .forget ticketId

theorem event_regular (r : Reception) (i : Incident) : (r.event i).Regular := by
  cases i with
  | message now ticketId messageId text => exact r.incoming_alike now ticketId messageId text
  | turn | forget => trivial

end Reception

namespace World

variable {w v : World} {ticketId : String}

theorem InStep.self (hw : w.Orderly) (hone : (w.goingOn ticketId).length ≤ 1) :
    InStep ticketId .fresh w w := by
  refine ⟨hw, hw, rfl, rfl, rfl, ⟨hw.tidy, hw.tidy, rfl, rfl, ?_⟩, rfl⟩
  obtain ⟨hsessions, hflags⟩ := Store.sessions_active ticketId w.clock w.store
  rw [goingOn, hsessions] at hone
  rw [Store.Fits, hflags]
  exact .of_length_filter hone

theorem InStep.length_goingOn {stage : Stage} (h : InStep ticketId stage w v) :
    (w.goingOn ticketId).length ≤ 1 := by
  rcases h.orderly.tidy.active_cases h.fresh.store.fits with ⟨hnil, -⟩ | ⟨n, s, trail, hs, -⟩
  · rw [goingOn, hnil]
    exact Nat.zero_le _
  · rw [goingOn, hs]
    exact Nat.le_refl _

theorem facing_eq (hanswers : ∀ n r, w.trouble.outage n r = false) {failures : List Bool}
    (hnone : ∀ b ∈ failures, b = false) : w.facing failures = w := by
  have houtage : (fun n _ => failures.getD (n - w.asked) false) = w.trouble.outage := by
    funext n r
    rw [hanswers, List.getD_eq_getElem?_getD]
    cases hb : failures[n - w.asked]? with
    | none => rfl
    | some b => exact hnone b (List.mem_of_getElem? hb)
  rw [facing, houtage]

end World

theorem Counter.failures_calm {α : Type} {w : World}
    (hanswers : ∀ n r, w.trouble.outage n r = false)
    (ticketId : String) (c : Counter α) (es : List (Event α)) :
    ∀ b ∈ c.failures ticketId w es, b = false := by
  induction es generalizing c w with
  | nil => simp [failures]
  | cons e es ih =>
    have hfails (r : Service.Request) : w.fails r = false := by simp [World.fails, hanswers]
    have htrouble : (c.after w e).2.trouble = w.trouble := by
      cases e with
      | arrive | forget => rfl
      | turn n =>
        simp only [after, turn]
        split
        · rfl
        · split
          · exact (World.answer_trouble w _).1
          · rfl
          · rfl
    intro b hb
    rw [failures, List.mem_append] at hb
    rcases hb with hb | hb
    · cases e with
      | arrive | forget => cases hb
      | turn n =>
        simp only [failure?] at hb
        split at hb
        · split at hb
          · split at hb
            · simpa [hfails] using hb
            · cases hb
          · cases hb
        · cases hb
    · exact ih (by rw [htrouble]; exact hanswers) (c.after w e).1 b hb

namespace World

/-- **Messages on a ticket are dealt with one after the other**, however many come in and whatever
turns they take. Of two of them the later has not begun before the earlier is done and gone. No
ticket ever has two sessions that go on. And once all messages on a ticket are done, what is on file
of it is what they leave there when they are dealt with one by one, in the order in which they came,
in a world in which just those requests fail that failed about this ticket. -/
theorem serialized (r : Reception) {w : World} (hw : w.Orderly)
    (hone : ∀ ticketId, (w.goingOn ticketId).length ≤ 1) (is : List Reception.Incident) :
    let es := is.map r.event
    let c := (({} : Counter (Option Session)).afterAll w es).1
    let w' := (({} : Counter (Option Session)).afterAll w es).2
    let alone (ticketId : String) := w.facing (({} : Counter _).failures ticketId w es)
    (∀ (m n : Nat) (a b : Call (Option Session)), m < n → c.calls[m]? = some a →
      c.calls[n]? = some b → a.ticket = b.ticket →
        (a.left.result?.isSome = true ∧ c.first? m = none) ∨
          (Counter.arrivals es)[n]? = some (b.ticket, b.left)) ∧
    (∀ ticketId, (w'.goingOn ticketId).length ≤ 1) ∧
    (∀ ticketId, (∀ a ∈ c.calls, a.ticket = ticketId → a.left.result?.isSome = true) →
      w'.file ticketId =
        ((alone ticketId).inTurn (Counter.jobsOf ticketId (Counter.arrivals es))).file ticketId) ∧
    ((∀ n r, w.trouble.outage n r = false) → ∀ ticketId, alone ticketId = w) := by
  intro es c w' alone
  have hregular : ∀ e ∈ es, e.Regular := by
    intro e he
    obtain ⟨i, -, rfl⟩ := List.mem_map.1 he
    exact r.event_regular i
  have hself (ticketId : String) : InStep ticketId .fresh w w := .self hw (hone ticketId)
  have hall : ∀ ticketId, ∃ v js, Shadow ticketId ({} : Counter (Option Session)) w v js :=
    fun ticketId => ⟨w, [], .fresh, .nil, hself ticketId⟩
  have hlined : c.Lined := Counter.lined_nil.afterAll w es
  refine ⟨fun m n a b => Counter.none_overlap w es, fun ticketId => ?_, fun ticketId hdone => ?_,
    fun hanswers ticketId => facing_eq hanswers (Counter.failures_calm hanswers ticketId _ es)⟩
  · obtain ⟨v, js, stage, -, hstep⟩ :=
      Shadow.all_afterAll Counter.lined_nil hregular hall ticketId
    exact hstep.length_goingOn
  · have hshadow : Shadow ticketId ({} : Counter (Option Session)) w (alone ticketId) [] :=
      ⟨.fresh, .nil, (hself ticketId).facing _⟩
    obtain ⟨v, js, ⟨stage, hline, hstep⟩, hend⟩ :=
      hshadow.afterAll Counter.lined_nil hregular hall fun n r => facing_outage w _ n r
    rw [List.nil_append] at hend
    -- nothing is left to do about the ticket
    have hresults : ∀ j ∈ c.lefts ticketId, j.result?.isSome = true := by
      intro j hj
      obtain ⟨n, hn, hleft⟩ := List.mem_filterMap.1 hj
      obtain ⟨call, hcall, hticket⟩ := hlined.mem_queue hn
      rw [hcall] at hleft
      cases hleft
      exact hdone call (List.mem_of_getElem? hcall) hticket
    rw [hend, hline.inTurn_of_results hresults, hstep.file_eq]

end World

/-- The office with two tickets. -/
def busyOffice : World :=
  { office with
    desk := { tickets := [("a", { id := "a", contactId := "c" }),
      ("b", { id := "b", contactId := "d" })] } }

theorem busyOffice_orderly : busyOffice.Orderly where
  tidy := ⟨.nil, fun _ he => nomatch he⟩
  unused n _ := ⟨rfl, fun _ hi => nomatch hi⟩
  filed key t hfind := by
    simp only [busyOffice, Entries.find?_cons, Entries.find?_nil, beq_iff_eq] at hfind
    split at hfind
    next hkey =>
      cases hfind
      exact hkey.symm
    next =>
      split at hfind
      next hkey =>
        cases hfind
        exact hkey.symm
      next => cases hfind

/-- Two messages come in on one ticket and one on another. They take turns, but the one on the other
ticket is ahead, so it opens the first session. -/
def rush : List Reception.Incident :=
  [.message (.utc 1) "a" "m1" "Hi", .message (.utc 1) "b" "m2" "Hi",
      .message (.utc 2) "a" "m3" "Maybe", .turn 1, .turn 1, .turn 1] ++
    (List.replicate 26 [.turn 0, .turn 1, .turn 2, .forget "b"]).flatten

/-- What is on file of the first ticket is what its two messages leave there alone. -/
theorem rush_serialized :
    busyOffice.Orderly ∧ (∀ ticketId, (busyOffice.goingOn ticketId).length ≤ 1) ∧
      let ended := ({} : Counter (Option Session)).afterAll busyOffice
        (rush.map ({} : Reception).event)
      (∀ a ∈ ended.1.calls, a.left.result?.isSome = true) ∧
        ((ended.2.store.sessions (.utc 5)).map fun s => (s.id, s.ticketId, s.version)) =
          [("session-1", "b", 1), ("session-2", "a", 2)] ∧
        ended.2.file "a" = (busyOffice.inTurn
          [({} : Reception).incoming (.utc 1) "a" "m1" "Hi",
            ({} : Reception).incoming (.utc 2) "a" "m3" "Maybe"]).file "a" := by
  have hone : ∀ ticketId, (busyOffice.goingOn ticketId).length ≤ 1 := fun _ => Nat.zero_le _
  have hdone : ∀ a ∈ (({} : Counter (Option Session)).afterAll busyOffice
      (rush.map ({} : Reception).event)).1.calls, a.left.result?.isSome = true := by
    decide +kernel
  obtain ⟨-, -, hfile, halone⟩ := World.serialized {} busyOffice_orderly hone rush
  have hsame := hfile "a" fun a ha _ => hdone a ha
  rw [halone (fun _ _ => rfl)] at hsame
  exact ⟨busyOffice_orderly, hone, hdone, by decide +kernel, hsame⟩

end FrontDesk
