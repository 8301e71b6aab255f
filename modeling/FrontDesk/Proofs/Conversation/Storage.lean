/-
Storing a state and reading it back.

Reading drops and mends: a visit without a node is left out, an empty input counts as none, a visit
without a time gets the time of reading, and a pointer to no node is lost. So a state comes back as
it was only if it has nothing of the kind (`State.Storable`). All states that are read are so, and
runs of graphs that were read keep them so. Hence a conversation does not notice whether it is
suspended.
-/
import FrontDesk.Calendar.Moment
import FrontDesk.Proofs.Conversation.Image
import FrontDesk.Proofs.Graph.Read

namespace FrontDesk

open Calendar

/-- Nothing in a visit is empty. -/
structure Visit.Storable (v : Visit) : Prop where
  node : v.node ≠ ""
  input : v.input ≠ some ""
  occurredAt : v.occurredAt ≠ ""

/-- A state that comes back as it was stored. -/
structure State.Storable (s : State) : Prop where
  history : ∀ v ∈ s.history, v.Storable
  waiting : ∀ w, s.waiting = some w → w.node ≠ ""

theorem Calendar.Moment.isoText_ne_empty (m : Moment) : m.isoText ≠ "" := by
  simp [Moment.isoText, Moment.localText]

/-! ## Writing and reading -/

namespace State

open FrontDesk.Graph (optionalString)

theorem optionalString_string {s : String} (h : s ≠ "") : optionalString (.string s) = some s := by
  simp [optionalString, Json.string?, Text.nonempty?, h]

theorem readVisit_visitJson {v : Visit} (h : v.Storable) (now : String) :
    readVisit now (visitJson v) = some v := by
  obtain ⟨node, input, occurredAt⟩ := v
  have hnode := optionalString_string h.node
  have htime := optionalString_string h.occurredAt
  cases input with
  | none =>
    simp_all [readVisit, visitJson, memberIf, Json.field, Json.get?, Entries.find?_cons,
      optionalString, Json.string?]
  | some input =>
    have hinput := optionalString_string (s := input) (by simpa using h.input)
    simp_all [readVisit, visitJson, memberIf, Json.field, Json.get?, Entries.find?_cons]

theorem readWaiting_waitingJson {w : Waiting} (h : w.node ≠ "") :
    readWaiting (waitingJson w) = some w := by
  obtain ⟨node, kind⟩ := w
  have hnode := optionalString_string h
  cases kind <;> simp_all [readWaiting, waitingJson, Json.field, Json.get?, Entries.find?_cons,
    readKind, WaitingKind.name]

theorem membersOf_collectedJson (es : Entries String) :
    (Graph.membersOf (collectedJson es)).map (fun (k, x) => (k, x.text)) = es := by
  simp [Graph.membersOf, collectedJson, Json.members?, Function.comp_def, Json.text]

theorem filterMap_visitJson {vs : List Visit} (h : ∀ v ∈ vs, v.Storable) (now : String) :
    (vs.map visitJson).filterMap (readVisit now) = vs := by
  induction vs with
  | nil => rfl
  | cons v rest ih =>
    have hv := readVisit_visitJson (h v (by simp)) now
    simp [hv, ih fun u hu => h u (by simp [hu])]

/-- **A storable state comes back as it was**, whenever it is read. -/
theorem ofJson_toJson {s : State} (h : s.Storable) (now : String) : ofJson now s.toJson = s := by
  obtain ⟨history, collected, waiting, completed⟩ := s
  have hhistory := filterMap_visitJson h.history now
  have hcollected := membersOf_collectedJson collected
  have hwaiting : readWaiting ((waiting.map waitingJson).getD .null) = waiting := by
    cases waiting with
    | none => rfl
    | some w => exact readWaiting_waitingJson (h.waiting w rfl)
  have hcompleted : ((completed.map Json.bool).getD .null).bool? = completed := by
    cases completed <;> rfl
  cases waiting <;> cases completed <;>
    simp_all [ofJson, toJson, memberIf, Json.field, Json.get?, Entries.find?_cons, Json.items]

theorem readVisit_storable {now : String} (hnow : now ≠ "") {v : Json} {u : Visit}
    (h : readVisit now v = some u) : u.Storable := by
  obtain ⟨node, hnode, hu⟩ := Option.bind_eq_some_iff.1 h
  cases hu
  refine ⟨Graph.optionalString_ne_empty hnode, fun hi => Graph.optionalString_ne_empty hi rfl, ?_⟩
  cases ht : optionalString (v.field "occurredAt") with
  | none => simpa [ht] using hnow
  | some time => simpa [ht] using Graph.optionalString_ne_empty ht

theorem ofJson_storable {now : String} (hnow : now ≠ "") (v : Json) : (ofJson now v).Storable := by
  refine ⟨fun u hu => ?_, fun w hw => ?_⟩
  · obtain ⟨item, -, hitem⟩ := List.mem_filterMap.1 hu
    exact readVisit_storable hnow hitem
  · obtain ⟨node, hnode, h⟩ := Option.bind_eq_some_iff.1 hw
    obtain ⟨kind, -, h⟩ := Option.bind_eq_some_iff.1 h
    cases h
    exact Graph.optionalString_ne_empty hnode

theorem storable_empty : ({} : State).Storable := ⟨by simp, by simp⟩

/-- **The states that come back are the storable ones.** A state comes back at all times as it was
stored just if it is storable, and one that is not comes back at no time. Whatever value is read,
and whenever, the state is storable; so all that was ever read comes back from being stored. -/
theorem comes_back_iff :
    (∀ s : State, (∀ now : Moment, ofJson now.isoText s.toJson = s) ↔ s.Storable) ∧
      (∀ s : State, ¬s.Storable → ∀ now : Moment, ofJson now.isoText s.toJson ≠ s) ∧
      ∀ (v : Json) (now : Moment), (ofJson now.isoText v).Storable ∧
        ∀ later : Moment,
          ofJson later.isoText (ofJson now.isoText v).toJson = ofJson now.isoText v := by
  -- what has come back was read
  have hread (s : State) (now : Moment) (hback : ofJson now.isoText s.toJson = s) : s.Storable :=
    hback ▸ ofJson_storable now.isoText_ne_empty s.toJson
  refine ⟨fun s => ⟨fun hback => ?_, fun hs now => ?_⟩, fun s hs now hback => ?_, fun v now => ?_⟩
  · exact hread s (Moment.utc 0) (hback (Moment.utc 0))
  · exact ofJson_toJson hs now.isoText
  · exact hs (hread s now hback)
  · have hstorable := ofJson_storable now.isoText_ne_empty v
    exact ⟨hstorable, fun later => ofJson_toJson hstorable later.isoText⟩

end State

/-! ## Runs -/

namespace Question

theorem findChoice_mem {form : String} {position : Nat} {cs : List Choice} {c : Choice}
    (h : findChoice form position cs = some c) : c ∈ cs := by
  induction cs generalizing position with
  | nil => simp [findChoice] at h
  | cons d rest ih =>
    simp only [findChoice] at h
    split at h
    · cases h; simp
    · exact List.mem_cons_of_mem d (ih h)

theorem captured_ne_empty {q : Question} (hq : ∀ c ∈ q.choices, c.value ≠ "") {text : String}
    {pick : Pick} (h : q.pick text = some pick) : pick.captured ≠ "" := by
  unfold Question.pick at h
  simp only at h
  split at h
  · cases h
  next hform =>
  split at h
  next c hc =>
    cases h
    exact hq c (findChoice_mem hc)
  next =>
    split at h
    · cases h
      rintro rfl
      exact hform rfl
    · cases h

end Question

theorem Input.trim_ne_empty {i : Input} {text : String} (h : i.check text = .ok .accepted) :
    Text.trim text ≠ "" := by
  intro hempty
  simp [Input.check, rulesInOrder, AnswerRules.Rule.firstFailing, AnswerRules.Rule.holds, hempty,
    bind, Except.bind, pure, Except.pure] at h

variable {g : Graph} {limit : Int} {stamp : String} {s : State} {current : Option String}

theorem Graph.path_mem {most : Nat} {start : Option String} {n : Node} (h : n ∈ g.path most start) :
    g.node? n.id = some n := by
  induction most generalizing start with
  | zero => simp [path] at h
  | succ most ih =>
    cases start with
    | none => simp [path] at h
    | some id =>
      cases hn : g.node? id with
      | none => simp [path, hn] at h
      | some m =>
        simp only [path, hn, List.mem_cons] at h
        rcases h with rfl | h
        · rw [node?_id hn]; exact hn
        · exact ih h

theorem Path.pointer_ne_empty {old : Option Waiting} {most : Nat} {start : Option String}
    {w : Waiting} (h : Path.pointer old (g.path most start) = some w)
    (hold : ∀ w, old = some w → w.node ≠ "") : w.node ≠ "" := by
  cases hl : (g.path most start).getLast? with
  | none => exact hold w (by simpa [Path.pointer, hl] using h)
  | some n =>
    have hn := Graph.node?_ne_empty (Graph.path_mem (List.mem_of_getLast? hl))
    rw [Path.pointer, hl] at h
    simp only [Option.elim_some, Node.pointer] at h
    split at h
    · cases h; exact hn
    · cases h; exact hn
    · cases h
    · exact hold w h

namespace Graph

theorem image_storable {way : Way} (hs : s.Storable) (hstamp : stamp ≠ "")
    (hwaiting : ∀ w, way.waiting = some w → w.node ≠ "")
    (hanswered : ∀ a, way.answered = some a → a.node ≠ "" ∧ a.input ≠ "") :
    (g.image limit stamp s current way).state.Storable := by
  refine ⟨fun v hv => ?_, fun w hw => Path.pointer_ne_empty hw hwaiting⟩
  simp only [image, List.mem_append, Option.mem_toList, Option.map_eq_some_iff,
    List.mem_filterMap] at hv
  rcases hv with (hv | ⟨a, ha, rfl⟩) | ⟨n, hn, hv⟩
  · exact hs.history v hv
  · obtain ⟨hnode, hinput⟩ := hanswered a ha
    exact ⟨hnode, by simpa [Answered.visit] using hinput, hstamp⟩
  · unfold Node.visit? at hv
    split at hv
    · cases hv
      exact ⟨node?_ne_empty (path_mem hn), by simp, hstamp⟩
    · cases hv

/-- **Runs keep states storable.** -/
theorem run_storable (hg : g.WellRead) (hs : s.Storable) (hstamp : stamp ≠ "")
    {incoming : Incoming} {o : Outcome} (h : g.run limit stamp s current incoming = .ok o) :
    o.state.Storable := by
  rcases run_cases h with ⟨way, hway, rfl⟩ | hr
  · cases hway with
    | opening => exact image_storable hs hstamp hs.waiting (by simp)
    | unasked hw => exact image_storable hs hstamp (by simp) (by simp)
    | gone hw hn => exact image_storable hs hstamp (by simp) (by simp)
    | @picked text n q pick hw hn hq hp =>
      have hread := hg.nodes n (node?_mem hn)
      simp only [Node.WellRead, hq] at hread
      refine image_storable hs hstamp (by simp) fun a ha => ?_
      cases ha
      exact ⟨node?_ne_empty hn, Question.captured_ne_empty hread.1 hp⟩
    | @entered text n i hw hn hi hc =>
      refine image_storable hs hstamp (by simp) fun a ha => ?_
      cases ha
      exact ⟨node?_ne_empty hn, Input.trim_ne_empty hc⟩
  · cases hr <;> exact hs

end Graph

/-! ## Rows of runs -/

/-- A run of a graph that was read. -/
structure Turn where
  definition : Json
  graph : Graph
  read : Graph.ofJson definition = .ok graph
  limit : Int
  time : Moment
  current : Option String
  incoming : Incoming

namespace Turn

/-- The run from a state. -/
def run (t : Turn) (s : State) : Except PatternFault Outcome :=
  t.graph.run t.limit t.time.isoText s t.current t.incoming

/-- The state after the run. One that fails changes nothing. -/
def after (t : Turn) (s : State) : State :=
  match t.run s with
  | .ok o => o.state
  | .error _ => s

/-- The state as it is when it was stored and is read at a time; without a time it is kept. -/
def suspended (s : State) (time : Option Moment) : State :=
  time.elim s fun time => State.ofJson time.isoText s.toJson

/-- The outcomes of a row of runs, each from the state that the one before has left. Before each
run the state may be stored and read again. -/
def outcomes (s : State) : List (Option Moment × Turn) → List (Except PatternFault Outcome)
  | [] => []
  | (time, t) :: rest =>
    t.run (suspended s time) :: outcomes (t.after (suspended s time)) rest

theorem after_storable (t : Turn) {s : State} (hs : s.Storable) : (t.after s).Storable := by
  unfold after
  split
  next o h => exact Graph.run_storable (Graph.ofJson_wellRead t.read) hs t.time.isoText_ne_empty h
  next => exact hs

theorem suspended_eq {s : State} (hs : s.Storable) (time : Option Moment) :
    suspended s time = s := by
  cases time with
  | none => rfl
  | some time => exact State.ofJson_toJson hs time.isoText

theorem outcomes_of_storable {s : State} (hs : s.Storable) (row : List (Option Moment × Turn)) :
    outcomes s row = outcomes s (row.map fun (_, t) => (none, t)) := by
  induction row generalizing s with
  | nil => rfl
  | cons e rest ih =>
    obtain ⟨time, t⟩ := e
    simp only [outcomes, List.map_cons, suspended_eq hs]
    rw [ih (t.after_storable hs)]

/-- **Suspension is invisible.** From a state that was read from any value whatever, a row of runs
has the same outcomes, whether or not the state is stored and read again in between, and whenever
it is read. -/
theorem outcomes_suspended (v : Json) (loaded : Moment) (row : List (Option Moment × Turn)) :
    outcomes (State.ofJson loaded.isoText v) row =
      outcomes (State.ofJson loaded.isoText v) (row.map fun (_, t) => (none, t)) :=
  outcomes_of_storable (State.ofJson_storable loaded.isoText_ne_empty v) row

end Turn

end FrontDesk
