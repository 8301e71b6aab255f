/-
Which definitions are read, and what stops the others.

Reading passes over nearly everything that is wrong with a node. `fault?` tells from an item alone
whether its rules stop the reading, and with what error; `readNodes_stop` says that nothing else in
the items does. From there `ofJson_outcome` is the whole account: the entry point decides, but only
of a definition whose items are free of faults, since it is looked for among the nodes that were
read.
-/
import FrontDesk.Proofs.Graph.Read

namespace FrontDesk.Graph

open Number

variable {α β : Type}

/-! ## Errors of a reading -/

/-- The error that stops a reading. -/
def stop? : Except ReadError α → Option ReadError
  | .ok _ => none
  | .error e => some e

@[simp] theorem stop?_ok (a : α) : stop? (.ok a) = none := rfl

theorem stop?_eq_some {x : Except ReadError α} {e : ReadError} :
    stop? x = some e ↔ x = .error e := by
  cases x <;> simp [stop?]

theorem stop?_eq_none {x : Except ReadError α} : stop? x = none ↔ ∃ a, x = .ok a := by
  cases x <;> simp [stop?]

/-- What stops a reading in two parts, when the first does not bear on what stops the second. -/
theorem stop?_bind {x : Except ReadError α} {f : α → Except ReadError β} {o : Option ReadError}
    (hf : ∀ a, stop? (f a) = o) : stop? (x >>= f) = (stop? x).or o := by
  cases x with
  | error e => rfl
  | ok a => exact hf a

/-! ## Faults of an item -/

/-- What is wrong with the kind of answer that is asked for. -/
def kindFault? : Json → Option ReadError
  | .list _ => some .listAsType
  | .object _ => some .objectAsType
  | _ => none

/-- What is wrong with a bound on a length. -/
def lengthFault? : Json → Option ReadError
  | .float .nan => some .lengthNotANumber
  | .float (.infinite _) => some .infiniteLength
  | _ => none

/-- What is wrong with rules: of several faults the first in the order of reading. -/
def rulesFault? (v : Json) : Option ReadError :=
  if v.isObject then
    (kindFault? (v.field "type")).or
      ((lengthFault? (v.field "minLength")).or (lengthFault? (v.field "maxLength")))
  else none

/-- What is wrong with an item of the list of nodes. Only the rules of an input are looked at. -/
def fault? (v : Json) : Option ReadError :=
  match v.field "type" with
  | .string "input" => rulesFault? (v.field "validation")
  | _ => none

theorem readAnswerKind_stop (v : Json) : stop? (readAnswerKind v) = kindFault? v := by
  cases v <;> rfl

theorem readLength_stop (v : Json) : stop? (readLength v) = lengthFault? v := by
  cases v with
  | float x => cases x <;> rfl
  | _ => rfl

theorem readRules_stop (v : Json) : stop? (readRules v) = rulesFault? v := by
  unfold readRules rulesFault?
  split
  · rw [stop?_bind, readAnswerKind_stop]
    intro kind
    rw [stop?_bind, readLength_stop]
    intro minLength
    rw [stop?_bind (o := none), readLength_stop, Option.or_none]
    exact fun maxLength => rfl
  · rfl

theorem readBody_stop (id : String) (v : Json) : stop? (readBody id v) = fault? v := by
  unfold readBody fault?
  split
  case h_3 heq =>
    simp only [heq]
    rw [stop?_bind (o := none), readRules_stop, Option.or_none]
    exact fun rules => rfl
  all_goals simp [*]

theorem readNode_stop (v : Json) : stop? (readNode v) = fault? v := by
  unfold readNode
  rw [stop?_bind (o := none), readBody_stop, Option.or_none]
  exact fun body => rfl

/-- What is no object has no fault: it is passed over. -/
theorem fault?_eq_none {v : Json} (h : v.isObject = false) : fault? v = none := by
  cases v with
  | object members => cases h
  | _ => rfl

/-- **The nodes are read unless an item has a fault, and the first fault is the error.** -/
theorem readNodes_stop (items : List Json) :
    stop? (readNodes items) = items.findSome? fault? := by
  induction items with
  | nil => rfl
  | cons v rest ih =>
    rw [List.findSome?_cons, readNodes]
    cases hv : v.isObject with
    | true =>
      rw [if_pos rfl, stop?_bind, readNode_stop]
      · cases fault? v <;> rfl
      · intro node
        rw [stop?_bind (o := none), ih, Option.or_none]
        exact fun nodes => rfl
    | false => rw [if_neg Bool.false_ne_true, fault?_eq_none hv, ih]

theorem isInvalid_of_fault {v : Json} {e : ReadError} (h : fault? v = some e) :
    e.isInvalid = false := by
  have hkind {v : Json} (h : kindFault? v = some e) : e.isInvalid = false := by
    unfold kindFault? at h
    split at h <;> cases h <;> rfl
  have hlength {v : Json} (h : lengthFault? v = some e) : e.isInvalid = false := by
    unfold lengthFault? at h
    split at h <;> cases h <;> rfl
  unfold fault? at h
  split at h
  · unfold rulesFault? at h
    split at h
    · simp only [Option.or_eq_some_iff] at h
      obtain h | ⟨-, h | ⟨-, h⟩⟩ := h
      · exact hkind h
      · exact hlength h
      · exact hlength h
    · cases h
  · cases h

/-! ## The entry point -/

/-- A definition names an entry point: it is an object, with a string that is not empty. -/
def NamesEntry (v : Json) : Prop :=
  v.isObject = true ∧ ∃ entry, v.field "entryNodeId" = .string entry ∧ entry ≠ ""

/-- The entry point is the id of an object among the nodes. -/
def EntryListed (v : Json) : Prop :=
  ∃ item ∈ (v.field "nodes").items, item.isObject = true ∧ item.field "id" = v.field "entryNodeId"

theorem stringOr_eq {v : Json} {s : String} (hs : s ≠ "") : stringOr v = s ↔ v = .string s := by
  cases v <;> simp [stringOr, Json.string?, hs.symm]

theorem readNodes_ids {items : List Json} {ns : List Node} (h : readNodes items = .ok ns) :
    ns.map Node.id = (items.filter Json.isObject).map fun v => stringOr (v.field "id") := by
  induction items generalizing ns with
  | nil => cases h; rfl
  | cons v rest ih =>
    simp only [readNodes] at h
    split at h
    · next hv =>
      simp only [bind, Except.bind] at h
      split at h
      · cases h
      next m hm =>
      split at h
      · cases h
      next ms hms =>
      cases h
      simp [hv, (readNode_body hm).1, ih hms]
    · next hv => simp [hv, ih h]

theorem ofJson_of_unnamed {v : Json} (h : ¬ NamesEntry v) :
    ∃ e, ofJson v = .error e ∧ e.isInvalid = true := by
  unfold ofJson
  cases hv : v.isObject with
  | false => exact ⟨_, rfl, rfl⟩
  | true =>
    have hentry : stringOr (v.field "entryNodeId") = "" :=
      Decidable.byContradiction fun hne => h ⟨hv, _, (stringOr_eq hne).1 rfl, hne⟩
    simp only [hentry]
    exact ⟨.noEntry, rfl, rfl⟩

/-- The entry is looked for after the nodes were read: a fault of an item comes before that. -/
theorem ofJson_of_fault {v : Json} {e : ReadError} (h : NamesEntry v)
    (he : (v.field "nodes").items.findSome? fault? = some e) : ofJson v = .error e := by
  obtain ⟨hv, entry, hentry, hne⟩ := h
  have hread : readNodes (v.field "nodes").items = .error e :=
    stop?_eq_some.1 ((readNodes_stop _).trans he)
  simp [ofJson, hv, (stringOr_eq hne).2 hentry, hne, hread, bind, Except.bind]

/-- Without faults the definition is read just when the entry is listed. -/
theorem ofJson_of_sound {v : Json} (h : NamesEntry v)
    (hsound : (v.field "nodes").items.findSome? fault? = none) :
    (EntryListed v → ∃ g, ofJson v = .ok g) ∧
    (¬ EntryListed v → ∃ e, ofJson v = .error e ∧ e.isInvalid = true) := by
  obtain ⟨hv, entry, hentry, hne⟩ := h
  obtain ⟨ns, hread⟩ := stop?_eq_none.1 ((readNodes_stop _).trans hsound)
  have hlisted : (ns.any fun n => n.id == entry) = true ↔ EntryListed v := by
    calc (ns.any fun n => n.id == entry) = true
        ↔ entry ∈ ns.map Node.id := by simp [List.mem_map]
      _ ↔ ∃ item ∈ (v.field "nodes").items,
            item.isObject = true ∧ stringOr (item.field "id") = entry := by
          simp [readNodes_ids hread, and_assoc]
      _ ↔ EntryListed v := by simp only [EntryListed, stringOr_eq hne, hentry]
  have hof : ofJson v = if (ns.any fun n => n.id == entry) = true
      then .ok { entry, nodes := ns, version := stringOr (v.field "version"),
                 metadata := (v.field "metadata").members? }
      else .error (.entryMissing entry) := by
    simp [ofJson, hv, (stringOr_eq hne).2 hentry, hne, hread, bind, Except.bind, pure, Except.pure]
  rw [hof]
  constructor <;> intro h
  · exact ⟨_, if_pos (hlisted.2 h)⟩
  · exact ⟨_, if_neg (h ∘ hlisted.1), rfl⟩

/-- **What becomes of a definition.** It is refused for its entry point when it names none, or when
no item has a fault and none is the entry; any other error is the first fault of an item; and in
all other cases it is read. -/
theorem ofJson_outcome (v : Json) :
    ((∃ e, ofJson v = .error e ∧ e.isInvalid = true) ↔
      ¬ NamesEntry v ∨
        (v.field "nodes").items.findSome? fault? = none ∧ ¬ EntryListed v) ∧
    (∀ e, ofJson v = .error e ∧ e.isInvalid = false ↔
      NamesEntry v ∧ (v.field "nodes").items.findSome? fault? = some e) ∧
    ((∃ g, ofJson v = .ok g) ↔
      NamesEntry v ∧ (v.field "nodes").items.findSome? fault? = none ∧ EntryListed v) := by
  by_cases hnamed : NamesEntry v
  · cases hfault : (v.field "nodes").items.findSome? fault? with
    | some e =>
      obtain ⟨item, -, hitem⟩ := List.exists_of_findSome?_eq_some hfault
      have hinvalid := isInvalid_of_fault hitem
      rw [ofJson_of_fault hnamed hfault]
      refine ⟨by simp [hnamed, hinvalid], fun e' => ?_, by simp⟩
      simp only [Except.error.injEq, Option.some.injEq]
      exact ⟨fun h => ⟨hnamed, h.1⟩, fun h => ⟨h.2, h.2 ▸ hinvalid⟩⟩
    | none =>
      obtain ⟨hlisted, hmissing⟩ := ofJson_of_sound hnamed hfault
      by_cases hentry : EntryListed v
      · obtain ⟨g, hg⟩ := hlisted hentry
        simp [hg, hnamed, hentry]
      · obtain ⟨e, he, hinvalid⟩ := hmissing hentry
        simp [he, hnamed, hentry, hinvalid]
  · obtain ⟨e, he, hinvalid⟩ := ofJson_of_unnamed hnamed
    simp [he, hnamed, hinvalid]

/-- A definition with one input, the entry, whose rules ask for the given kind and length. -/
def ruled (kind minLength : Json) : Json :=
  .object
    [("entryNodeId", .string "name"),
     ("nodes", .list
      [.object
        [("id", .string "name"), ("type", .string "input"),
         ("validation", .object [("type", kind), ("minLength", minLength)])]])]

/-- The entry point is not all that can stop a definition. -/
theorem ruled_unread :
    EntryListed (ruled (.list []) .null) ∧ ofJson (ruled (.list []) .null) = .error .listAsType ∧
    EntryListed (ruled .null (.float (.infinite false))) ∧
      ofJson (ruled .null (.float (.infinite false))) = .error .infiniteLength := by
  have hnamed (kind minLength : Json) : NamesEntry (ruled kind minLength) :=
    ⟨rfl, "name", rfl, by decide⟩
  have hlisted (kind minLength : Json) : EntryListed (ruled kind minLength) :=
    ⟨_, List.mem_singleton.2 rfl, rfl, rfl⟩
  exact ⟨hlisted _ _, ofJson_of_fault (hnamed _ _) rfl,
    hlisted _ _, ofJson_of_fault (hnamed _ _) rfl⟩

end FrontDesk.Graph
