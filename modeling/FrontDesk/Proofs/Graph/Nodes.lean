/-
The nodes of a graph that was read, one by one.

Reading keeps every object of the list in its place and drops whatever else is there. A text that
may be missing is never empty where it is given; that is said of each kind of node (`Filled`), and
`readNode_filled` shows it of all that are read. With the law of look-ups (`node?_eq_some`) this is
all that other parts rely on of a graph: `ofJson_wellFormed` puts it together.
-/
import FrontDesk.Proofs.Graph.Read
import Mathlib.Data.List.Forall2

namespace FrontDesk

/-! ## Nodes without empty texts -/

/-- A choice has a value, and no text of it is given and empty. -/
structure Choice.Filled (c : Choice) : Prop where
  value : c.value ≠ ""
  label : c.label ≠ some ""
  next : c.next ≠ some ""
  storeValue : c.storeValue ≠ some ""

/-- No text of the rules is given and empty. -/
structure AnswerRules.Filled (r : AnswerRules) : Prop where
  pattern : r.pattern ≠ some ""
  message : r.message ≠ some ""

/-- No text of the question is given and empty, nor of its choices. -/
structure Question.Filled (q : Question) : Prop where
  choices : ∀ c ∈ q.choices, c.Filled
  next : q.next ≠ some ""
  defaultNext : q.defaultNext ≠ some ""
  storeField : q.storeField ≠ some ""
  retryMessage : q.retryMessage ≠ some ""

/-- No text of the input is given and empty, nor of its rules. -/
structure Input.Filled (i : Input) : Prop where
  rules : ∀ r, i.rules = some r → r.Filled
  next : i.next ≠ some ""
  storeField : i.storeField ≠ some ""

/-- No text of what the node does is given and empty. -/
def NodeBody.Filled : NodeBody → Prop
  | .message _ next _ => next ≠ some ""
  | .question q => q.Filled
  | .input i => i.Filled
  | .transfer text queue next => text ≠ some "" ∧ queue ≠ some "" ∧ next ≠ some ""
  | .ending content => content ≠ some ""
  | .unknown .. => True

/-- No text of the node is given and empty, and the answer to an input can be stored. An input
without an id may lack a key: it is never walked. -/
structure Node.Filled (n : Node) : Prop where
  label : n.label ≠ some ""
  body : n.body.Filled
  key : ∀ i, n.body = .input i → n.id ≠ "" → i.storageKey ≠ ""

namespace Graph

variable {v : Json} {g : Graph} {n : Node}

theorem optionalString_filled (v : Json) : optionalString v ≠ some "" :=
  fun h => optionalString_ne_empty h rfl

theorem readChoice_filled (v : Json) (position : Nat) : (readChoice v position).Filled where
  value := choiceValue_ne_empty v position
  label := optionalString_filled _
  next := optionalString_filled _
  storeValue := optionalString_filled _

theorem readRules_filled {r : AnswerRules} (h : readRules v = .ok (some r)) : r.Filled := by
  unfold readRules at h
  split at h
  · simp only [bind, Except.bind] at h
    split at h
    · cases h
    split at h
    · cases h
    split at h
    · cases h
    cases h
    exact ⟨optionalString_filled _, optionalString_filled _⟩
  · cases h

theorem readBody_filled {id : String} {body : NodeBody} (h : readBody id v = .ok body) :
    body.Filled := by
  unfold readBody at h
  simp only at h
  split at h
  case h_1 =>
    cases h
    exact optionalString_filled _
  case h_2 =>
    cases h
    refine ⟨fun c hc => ?_, optionalString_filled _, optionalString_filled _,
      optionalString_filled _, optionalString_filled _⟩
    obtain ⟨item, position, rfl⟩ := readChoices_mem hc
    exact readChoice_filled item position
  case h_3 =>
    simp only [bind, Except.bind] at h
    split at h
    · cases h
    next rules hrules =>
    cases h
    refine ⟨fun r hr => ?_, optionalString_filled _, optionalString_filled _⟩
    exact readRules_filled (hrules.trans (congrArg Except.ok hr))
  case h_4 =>
    cases h
    exact ⟨optionalString_filled _, optionalString_filled _, optionalString_filled _⟩
  case h_5 =>
    cases h
    exact optionalString_filled _
  case h_6 =>
    cases h
    trivial

theorem readBody_notes? {id : String} {body : NodeBody} (h : readBody id v = .ok body) :
    body.notes? = some (readNotes v) ∨ body.notes? = none := by
  obtain ⟨_, _, rfl⟩ | ⟨_, _, rfl⟩ | ⟨_, _, -, rfl⟩ | ⟨_, _, rfl⟩ | ⟨_, rfl⟩ | ⟨_, _, rfl⟩ :=
    readBody_cases h
  case inr.inr.inr.inr.inr => exact .inr rfl
  all_goals exact .inl rfl

/-- **Nodes that are read are filled.** -/
theorem readNode_filled (h : readNode v = .ok n) : n.Filled := by
  have hwell := readNode_wellRead h
  obtain ⟨-, hbody⟩ := readNode_body h
  refine ⟨?_, readBody_filled hbody, fun i hi => ?_⟩
  · rcases readBody_notes? hbody with hnotes | hnotes <;> simp [Node.label, hnotes]
    exact optionalString_filled _
  · rw [Node.WellRead, hi] at hwell
    exact hwell

/-! ## What becomes of the items of a list -/

/-- The nodes are read of the objects of the list, one of each and in their order. -/
theorem readNodes_forall₂ {items : List Json} {ns : List Node} (h : readNodes items = .ok ns) :
    List.Forall₂ (fun item n => readNode item = .ok n) (items.filter Json.isObject) ns := by
  induction items generalizing ns with
  | nil =>
    cases h
    exact .nil
  | cons item rest ih =>
    rw [readNodes] at h
    rw [List.filter_cons]
    split at h
    next hobject =>
      simp only [bind, Except.bind] at h
      split at h
      · cases h
      next m hm =>
      split at h
      · cases h
      next ms hms =>
      cases h
      rw [if_pos hobject]
      exact .cons hm (ih hms)
    next hobject =>
      rw [if_neg hobject]
      exact ih h

/-- The choices are read of the objects of the menu, each at its place among all the items. -/
theorem readChoices_eq (position : Nat) (items : List Json) :
    readChoices position items =
      ((items.zipIdx position).filter fun e => e.1.isObject).map fun e => readChoice e.1 e.2 := by
  induction items generalizing position with
  | nil => rfl
  | cons item rest ih =>
    rw [readChoices, List.zipIdx_cons, List.filter_cons]
    split
    · rw [List.map_cons, ih]
    · exact ih (position + 1)

theorem readNode_choices {q : Question} (h : readNode v = .ok n) (hq : n.body = .question q) :
    q.choices = readChoices 1 (v.field "options").items := by
  obtain ⟨-, hbody⟩ := readNode_body h
  rw [hq] at hbody
  obtain ⟨_, _, hb⟩ | ⟨_, _, hb⟩ | ⟨_, _, -, hb⟩ | ⟨_, _, hb⟩ | ⟨_, hb⟩ | ⟨_, _, hb⟩ :=
    readBody_cases hbody
  case inr.inl =>
    cases hb
    rfl
  all_goals cases hb

/-! ## Look-ups -/

theorem node?_eq_some {id : String} :
    g.node? id = some n ↔
      id ≠ "" ∧ n.id = id ∧
        ∃ before after, g.nodes = before ++ n :: after ∧ ∀ m ∈ before, m.id ≠ id := by
  rw [node?_eq]
  split
  next hempty =>
    have hid : id = "" := String.isEmpty_iff.1 hempty
    simp [hid]
  next hempty =>
    have hid : id ≠ "" := fun h => hempty (String.isEmpty_iff.2 h)
    simp [List.find?_eq_some_iff_append, hid]

theorem ofJson_entry (h : ofJson v = .ok g) : ∃ n ∈ g.nodes, n.id = g.entry := by
  unfold ofJson at h
  split at h
  · cases h
  simp only at h
  split at h
  · cases h
  simp only [bind, Except.bind] at h
  split at h
  · cases h
  next ns hns =>
  split at h
  next hany =>
    cases h
    obtain ⟨n, hn, hid⟩ := List.any_eq_true.1 hany
    exact ⟨n, hn, beq_iff_eq.1 hid⟩
  next => cases h

/-! ## Graphs that were read -/

/-- What is sure of a graph that was read from a value. -/
structure WellFormed (g : Graph) (v : Json) : Prop where
  /-- The nodes come from the objects of the list, one of each and in their order. -/
  nodes : List.Forall₂ (fun item n => readNode item = .ok n)
    ((v.field "nodes").items.filter Json.isObject) g.nodes
  /-- So do the choices of a question, each of which knows its place among all the items. -/
  choices : ∀ item n q, readNode item = .ok n → n.body = .question q →
    q.choices = (((item.field "options").items.zipIdx 1).filter fun e => e.1.isObject).map
      fun e => readChoice e.1 e.2
  /-- What is found under an id is the first node that has it, -/
  finds : ∀ id n, g.node? id = some n ↔
    id ≠ "" ∧ n.id = id ∧
      ∃ before after, g.nodes = before ++ n :: after ∧ ∀ m ∈ before, m.id ≠ id
  /-- and nothing is found only under the empty id and those that no node has. -/
  misses : ∀ id, g.node? id = none ↔ id = "" ∨ ∀ n ∈ g.nodes, n.id ≠ id
  entry : ∃ n, g.node? g.entry = some n
  filled : ∀ n ∈ g.nodes, n.Filled

/-- **Graphs that are read are well formed.** Nothing of the list of nodes is lost or doubled but
what is no object, the entry is found, every id leads to the first node that has it, and no text of
a node is given and empty. -/
theorem ofJson_wellFormed (h : ofJson v = .ok g) : g.WellFormed v := by
  obtain ⟨hentry, hnodes⟩ := ofJson_eq_ok h
  have hmisses : ∀ id, g.node? id = none ↔ id = "" ∨ ∀ n ∈ g.nodes, n.id ≠ id := by
    intro id
    by_cases hid : id = ""
    · simp [node?, hid]
    · rw [node?_eq_none hid]
      exact (or_iff_right hid).symm
  refine ⟨readNodes_forall₂ hnodes, fun item n q hn hq => ?_, fun _ _ => node?_eq_some, hmisses,
    ?_, fun n hn => ?_⟩
  · rw [readNode_choices hn hq]
    exact readChoices_eq 1 _
  · obtain ⟨n, hn, hid⟩ := ofJson_entry h
    rw [← Option.ne_none_iff_exists', ne_eq, hmisses]
    rintro (hempty | hnone)
    · exact hentry hempty
    · exact hnone n hn hid
  · obtain ⟨item, -, hitem⟩ := readNodes_mem hnodes hn
    exact readNode_filled hitem

/-- A definition with an item that is no node, two nodes of one id and one without, and a menu with
an item that is no choice. -/
def ragged : Json :=
  .object
    [("entryNodeId", .string "size"),
     ("nodes", .list
      [.string "size",
       .object
        [("id", .string "size"), ("type", .string "question"), ("next", .string ""),
         ("options", .list
          [.object [("value", .int 2)], .null, .object [("value", .string "")]])],
       .object [("type", .string "input"), ("label", .string "")],
       .object [("id", .string "size"), ("type", .string "end")]])]

/-- The question is the entry. Its choices keep the places they have among the items. -/
theorem ragged_wellFormed :
    ∃ g n q, ofJson ragged = .ok g ∧ g.WellFormed ragged ∧
      g.nodes.map Node.id = ["size", "", "size"] ∧
      g.node? "size" = some n ∧ n.body = .question q ∧ q.next = none ∧
      q.choices.map Choice.value = ["2", "option_3"] := by
  obtain ⟨g, hread⟩ : ∃ g, ofJson ragged = .ok g := ⟨_, rfl⟩
  have hwell := ofJson_wellFormed hread
  cases hread
  exact ⟨_, _, _, rfl, hwell, rfl, rfl, rfl, rfl, by decide⟩

end Graph

end FrontDesk
