/-
What graphs are like that were read from what an author stored.

Reading is lenient, but what it lets through is never empty where a conversation needs something:
the entry has an id, every choice has a value, and there is a key for every answer that is
collected. `ofJson_wellRead` says so of all graphs that are read.
-/
import FrontDesk.Answer.Menu
import FrontDesk.Graph.Reader

namespace FrontDesk

open Number

/-! ## Texts of values -/

theorem Number.FloatStyle.decimal_ne_empty (style : FloatStyle) (d : Decimal) :
    style.decimal d ≠ "" := by
  unfold FloatStyle.decimal
  simp only
  split
  · split
    · simp [Nat.toString_eq_repr]
    · split <;> simp
  · simp

theorem Number.FloatStyle.write_ne_empty {style : FloatStyle} (hnan : style.nan ≠ "")
    (hinf : style.infinity ≠ "") (x : Binary64) : style.write x ≠ "" := by
  cases x with
  | nan => exact hnan
  | infinite negative => simp [FloatStyle.write, hinf]
  | finite negative mantissa exponent =>
    have := style.decimal_ne_empty (shortest mantissa exponent)
    simp only [FloatStyle.write]
    split <;> split <;> simp [this]

/-- Only the empty string has no text. -/
theorem Json.text_ne_empty {v : Json} (h : ∀ s, v = .string s → s ≠ "") : v.text ≠ "" := by
  cases v with
  | null => simp [text, listing]
  | bool b => cases b <;> simp [text, listing]
  | int n => cases n <;> simp [text, listing, Int.toString_eq_repr, Int.repr]
  | float x => exact FloatStyle.write_ne_empty (by simp [listingFloat]) (by simp [listingFloat]) x
  | string s => exact h s rfl
  | list items => simp [text, listing]
  | object members => simp [text, listing]

namespace Graph

/-! ## Fields -/

theorem nonempty?_eq_some {s t : String} (h : Text.nonempty? s = some t) : t = s ∧ t ≠ "" := by
  unfold Text.nonempty? at h
  split at h
  · cases h
  · next hs => cases h; simpa using hs

theorem optionalString_ne_empty {v : Json} {s : String} (h : optionalString v = some s) :
    s ≠ "" := by
  obtain ⟨t, -, ht⟩ := Option.bind_eq_some_iff.1 h
  exact (nonempty?_eq_some ht).2

theorem choiceValue_ne_empty (v : Json) (position : Nat) : choiceValue v position ≠ "" := by
  unfold choiceValue
  split
  · simp
  · simp
  · next value hnull hempty =>
    refine Json.text_ne_empty fun s hs => ?_
    rintro rfl
    exact hempty hs

theorem readChoices_mem {items : List Json} {position : Nat} {c : Choice}
    (h : c ∈ readChoices position items) : ∃ v position', c = readChoice v position' := by
  induction items generalizing position with
  | nil => simp [readChoices] at h
  | cons v rest ih =>
    simp only [readChoices] at h
    split at h
    · rcases List.mem_cons.1 h with rfl | h
      · exact ⟨v, position, rfl⟩
      · exact ih h
    · exact ih h

theorem readChoices_value_ne_empty {items : List Json} {position : Nat} {c : Choice}
    (h : c ∈ readChoices position items) : c.value ≠ "" := by
  obtain ⟨v, position', rfl⟩ := readChoices_mem h
  exact choiceValue_ne_empty v position'

end Graph

/-- What is asked of a node: choices have values, and answers that are collected have keys. A node
without an id is never walked, and nothing is asked of its own key. -/
def Node.WellRead (n : Node) : Prop :=
  match n.body with
  | .question q => (∀ c ∈ q.choices, c.value ≠ "") ∧ q.storeField ≠ some ""
  | .input i => n.id ≠ "" → i.storageKey ≠ ""
  | _ => True

/-- What is asked of a graph. -/
structure Graph.WellRead (g : Graph) : Prop where
  entry : g.entry ≠ ""
  nodes : ∀ n ∈ g.nodes, n.WellRead

namespace Graph

theorem readNode_body {v : Json} {n : Node} (h : readNode v = .ok n) :
    n.id = stringOr (v.field "id") ∧ readBody n.id v = .ok n.body := by
  unfold readNode at h
  simp only [bind, Except.bind] at h
  split at h
  · cases h
  next body hbody =>
    cases h
    exact ⟨rfl, hbody⟩

/-- What is read of each kind of node. -/
theorem readBody_cases {id : String} {v : Json} {body : NodeBody} (h : readBody id v = .ok body) :
    (∃ content replies,
      body = @NodeBody.message (readNotes v) content (optionalString (v.field "next")) replies) ∨
    (∃ content free, body = .question
      { content, allowFreeText := free, notes := readNotes v
        choices := readChoices 1 (v.field "options").items
        next := optionalString (v.field "next")
        defaultNext := optionalString (v.field "defaultNext")
        storeField := optionalString (v.field "storeField")
        retryMessage := optionalString (v.field "retryMessage") }) ∨
    (∃ content rules, readRules (v.field "validation") = .ok rules ∧ body = .input
      { content, rules, notes := readNotes v
        next := optionalString (v.field "next")
        field := (optionalString (v.field "field")).getD id
        storeField := optionalString (v.field "storeField") }) ∨
    (∃ message queue,
      body = @NodeBody.transfer (readNotes v) message queue (optionalString (v.field "next"))) ∨
    (∃ content, body = @NodeBody.ending (readNotes v) content) ∨
    ∃ kind source, body = .unknown kind source := by
  unfold readBody at h
  simp only at h
  split at h
  · cases h
    exact .inl ⟨_, _, rfl⟩
  · cases h
    exact .inr (.inl ⟨_, _, rfl⟩)
  · simp only [bind, Except.bind] at h
    split at h
    · cases h
    next rules hrules =>
    cases h
    exact .inr (.inr (.inl ⟨_, rules, hrules, rfl⟩))
  · cases h
    exact .inr (.inr (.inr (.inl ⟨_, _, rfl⟩)))
  · cases h
    exact .inr (.inr (.inr (.inr (.inl ⟨_, rfl⟩))))
  · cases h
    exact .inr (.inr (.inr (.inr (.inr ⟨_, _, rfl⟩))))

theorem readNode_wellRead {v : Json} {n : Node} (h : readNode v = .ok n) : n.WellRead := by
  unfold Node.WellRead
  obtain ⟨-, hbody⟩ := readNode_body h
  obtain ⟨_, _, hb⟩ | ⟨_, _, hb⟩ | ⟨_, rules, -, hb⟩ | ⟨_, _, hb⟩ | ⟨_, hb⟩ | ⟨_, _, hb⟩ :=
    readBody_cases hbody <;> rw [hb]
  case inr.inl =>
    exact ⟨fun c hc => readChoices_value_ne_empty hc, fun hs => optionalString_ne_empty hs rfl⟩
  case inr.inr.inl =>
    intro hid
    simp only [Input.storageKey]
    cases hs : optionalString (v.field "storeField") with
    | some key => exact optionalString_ne_empty hs
    | none =>
      cases hf : optionalString (v.field "field") with
      | some key => exact optionalString_ne_empty hf
      | none => exact hid
  all_goals trivial

theorem readNodes_mem {items : List Json} {ns : List Node} (h : readNodes items = .ok ns)
    {n : Node} (hn : n ∈ ns) : ∃ v ∈ items, readNode v = .ok n := by
  induction items generalizing ns with
  | nil => cases h; cases hn
  | cons v rest ih =>
    simp only [readNodes] at h
    split at h
    · simp only [bind, Except.bind] at h
      split at h
      · cases h
      next m hm =>
      split at h
      · cases h
      next ms hms =>
      cases h
      rcases List.mem_cons.1 hn with rfl | hn
      · exact ⟨v, List.mem_cons_self, hm⟩
      · obtain ⟨u, hu, hread⟩ := ih hms hn
        exact ⟨u, List.mem_cons_of_mem v hu, hread⟩
    · obtain ⟨u, hu, hread⟩ := ih h hn
      exact ⟨u, List.mem_cons_of_mem v hu, hread⟩

/-- What is read of a graph: its entry is not empty, and its nodes come from the items of a list. -/
theorem ofJson_eq_ok {v : Json} {g : Graph} (h : ofJson v = .ok g) :
    g.entry ≠ "" ∧ readNodes (v.field "nodes").items = .ok g.nodes := by
  unfold ofJson at h
  split at h
  · cases h
  simp only at h
  split at h
  · cases h
  next hentry =>
  simp only [bind, Except.bind] at h
  split at h
  · cases h
  next ns hns =>
  split at h
  · cases h
    exact ⟨by simpa using hentry, hns⟩
  · cases h

/-- **Graphs that are read are well read.** -/
theorem ofJson_wellRead {v : Json} {g : Graph} (h : ofJson v = .ok g) : g.WellRead := by
  obtain ⟨hentry, hnodes⟩ := ofJson_eq_ok h
  refine ⟨hentry, fun n hn => ?_⟩
  obtain ⟨item, -, hitem⟩ := readNodes_mem hnodes hn
  exact readNode_wellRead hitem

/-! ## Where nodes lead -/

end Graph

/-- The ids of the nodes that a node can lead on to. -/
def Node.targets (n : Node) : List String :=
  match n.body with
  | .message _ next _ | .transfer _ _ next => next.toList
  | .question q => q.choices.filterMap Choice.next ++ q.next.toList ++ q.defaultNext.toList
  | .input i => i.next.toList
  | .ending _ | .unknown .. => []

namespace Graph

theorem readNode_targets {v : Json} {n : Node} (h : readNode v = .ok n) : "" ∉ n.targets := by
  have hfield (v : Json) : "" ∉ (optionalString v).toList := fun hmem =>
    optionalString_ne_empty (Option.mem_toList.1 hmem) rfl
  unfold Node.targets
  obtain ⟨-, hbody⟩ := readNode_body h
  obtain ⟨_, _, hb⟩ | ⟨_, _, hb⟩ | ⟨_, rules, -, hb⟩ | ⟨_, _, hb⟩ | ⟨_, hb⟩ | ⟨_, _, hb⟩ :=
    readBody_cases hbody <;> rw [hb]
  case inr.inl =>
    simp only [List.mem_append, List.mem_filterMap, not_or]
    refine ⟨⟨?_, hfield _⟩, hfield _⟩
    rintro ⟨c, hc, hnext⟩
    obtain ⟨item, position, rfl⟩ := readChoices_mem hc
    exact optionalString_ne_empty hnext rfl
  all_goals first | exact hfield _ | exact List.not_mem_nil

theorem ofJson_targets {v : Json} {g : Graph} (h : ofJson v = .ok g) :
    ∀ n ∈ g.nodes, "" ∉ n.targets := by
  intro n hn
  obtain ⟨item, -, hitem⟩ := readNodes_mem (ofJson_eq_ok h).2 hn
  exact readNode_targets hitem

/-! ## Nodes by their ids -/

theorem node?_mem {g : Graph} {id : String} {n : Node} (h : g.node? id = some n) : n ∈ g.nodes := by
  rw [node?_eq] at h
  split at h
  · cases h
  · exact List.mem_of_find?_eq_some h

theorem node?_ne_empty {g : Graph} {id : String} {n : Node} (h : g.node? id = some n) :
    n.id ≠ "" := by
  rw [node?_id h]
  rintro rfl
  simp [node?] at h

theorem node?_eq_none {g : Graph} {id : String} (hid : id ≠ "") :
    g.node? id = none ↔ ∀ n ∈ g.nodes, n.id ≠ id := by
  simp [node?_eq, hid, List.find?_eq_none]

end Graph

end FrontDesk
