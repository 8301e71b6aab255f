/-
What a draft makes of a flow.

A draft touches what it gives: what it leaves out is as it was (`Draft.Patches`). A definition is
either read off the draft or the one that the flow has, and nothing in it is changed but the entry
node (`Draft.ensureDefinition_eq_ok`).
-/
import FrontDesk.Proofs.Catalog.Proper

namespace FrontDesk.Draft

open Calendar

variable {d : Draft} {f f' : Flow} {now : Moment}

/-! ## Fields -/

/-- No text is given: the field is left out, null or blank. -/
def Blank (field : Given String) : Prop := ∀ text, field = some (some text) → Text.trim text = ""

theorem clean_eq_none {field : Given String} : clean field = none ↔ Blank field := by
  rcases field with _ | _ | text
  · simp [clean, value?, Blank]
  · simp [clean, value?, Blank]
  · simp [clean, value?, Blank, Text.trimmed?_eq_none]

/-- A field that is left out is as it was. -/
theorem change_absent {α β : Type} {field : Given α} {read : Given α → β} {old : β}
    (h : field = none) : change field read old = old := by
  rw [h]
  rfl

/-! ## Definitions -/

theorem ofJson_nodeless (entry : String) :
    ∃ e, Graph.ofJson (.object [("entryNodeId", .string entry), ("nodes", .list [])]) =
      .error e := by
  unfold Graph.ofJson
  simp only [Json.isObject, Bool.not_true, Bool.false_eq_true, if_false]
  split
  · exact ⟨_, rfl⟩
  · exact ⟨_, rfl⟩

/-- What is stored of a definition is the definition itself with the entry node put in, if it is an
object and a graph. -/
theorem ensureDefinition_eq_ok {definition : Option Json} {entry : String} {ms : Entries Json} :
    ensureDefinition definition entry = .ok ms ↔
      ∃ (base : Entries Json) (g : Graph), definition = some (.object base) ∧
        ms = base.put "entryNodeId" (.string entry) ∧ Graph.ofJson (.object ms) = .ok g := by
  have hobject (base : Entries Json) :
      withEntry (some (.object base)) entry = base.put "entryNodeId" (.string entry) := rfl
  unfold ensureDefinition
  cases hg : Graph.ofJson (.object (withEntry definition entry)) with
  | error e =>
    simp only [bind, Except.bind, hg, reduceCtorEq, false_iff]
    rintro ⟨base, g, rfl, rfl, hread⟩
    rw [hobject, hread] at hg
    cases hg
  | ok g =>
    simp only [bind, Except.bind, hg, pure, Except.pure, Except.ok.injEq]
    constructor
    · rintro rfl
      -- what is no object has no nodes
      by_cases hbase : ∃ base, definition = some (.object base)
      · obtain ⟨base, rfl⟩ := hbase
        exact ⟨base, g, rfl, rfl, hg⟩
      · have hnodes : withEntry definition entry =
            [("entryNodeId", .string entry), ("nodes", .list [])] := by
          unfold withEntry
          split
          next base => exact absurd ⟨base, rfl⟩ hbase
          next => rfl
        obtain ⟨e, he⟩ := ofJson_nodeless entry
        rw [hnodes, he] at hg
        cases hg
    · rintro ⟨base, g, rfl, rfl, -⟩
      rfl

/-! ## Updates -/

/-- The definition that an update starts from: the one that is given, or else the stored one. -/
def baseOf (d : Draft) (f : Flow) : Json := (value? d.definition).getD (.object f.definition)

/-- The entry node of a flow after an update. -/
def entryOf (d : Draft) (f : Flow) : String := (clean d.entryNode).getD f.entryNode

/-- What an update makes of a flow whose definition is then the given one. -/
def patched (d : Draft) (f : Flow) (definition : Entries Json) (now : Moment) : Flow :=
  let isPrimary := change d.isPrimary (fun p => (value? p).getD false) f.isPrimary
  { f with
    name := (clean d.name).getD f.name
    description := change d.description clean f.description
    isActive := change d.isActive (fun a => (value? a).getD false) f.isActive
    isPrimary
    trigger :=
      if d.trigger.isSome then triggerOf isPrimary d.trigger
      else if f.isPrimary then .default else f.trigger
    keywords := change d.keywords (fun ks => cleanKeywords ((value? ks).getD [])) f.keywords
    entryNode := d.entryOf f
    definition
    schedule := change d.schedule scheduleOf f.schedule
    offlineMessage := change d.offlineMessage clean f.offlineMessage
    transferQueue := change d.transferQueue clean f.transferQueue
    updatedAt := now }

theorem update_eq (d : Draft) (f : Flow) (now : Moment) :
    d.update f now =
      (ensureDefinition (some (d.baseOf f)) (d.entryOf f)).map fun definition =>
        d.patched f definition now := by
  have hbase : (value? d.definition <|> some (.object f.definition)) = some (d.baseOf f) := by
    unfold baseOf
    cases value? d.definition <;> rfl
  have hentry : (clean d.entryNode).getD f.entryNode = d.entryOf f := rfl
  simp only [update, hbase, hentry]
  cases ensureDefinition (some (d.baseOf f)) (d.entryOf f) <;> rfl

/-- An update succeeds with the definition that it starts from, and the entry node put in. -/
theorem update_eq_ok :
    d.update f now = .ok f' ↔
      ∃ (base : Entries Json) (g : Graph), d.baseOf f = .object base ∧
        Graph.ofJson (.object (base.put "entryNodeId" (.string (d.entryOf f)))) = .ok g ∧
        f' = d.patched f (base.put "entryNodeId" (.string (d.entryOf f))) now := by
  rw [update_eq]
  constructor
  · intro h
    cases hdefinition : ensureDefinition (some (d.baseOf f)) (d.entryOf f) with
    | error e =>
      rw [hdefinition] at h
      cases h
    | ok definition =>
      rw [hdefinition] at h
      cases h
      obtain ⟨base, g, hbase, rfl, hg⟩ := ensureDefinition_eq_ok.1 hdefinition
      exact ⟨base, g, Option.some.inj hbase, hg, rfl⟩
  · rintro ⟨base, g, hbase, hg, rfl⟩
    rw [ensureDefinition_eq_ok.2 ⟨base, g, congrArg some hbase, rfl, hg⟩]
    rfl

/-- One flow is made of another by a draft, which touches what it gives. -/
structure Patches (d : Draft) (f f' : Flow) : Prop where
  id : f'.id = f.id
  createdAt : f'.createdAt = f.createdAt
  description : d.description = none → f'.description = f.description
  isActive : d.isActive = none → f'.isActive = f.isActive
  isPrimary : d.isPrimary = none → f'.isPrimary = f.isPrimary
  keywords : d.keywords = none → f'.keywords = f.keywords
  schedule : d.schedule = none → f'.schedule = f.schedule
  offlineMessage : d.offlineMessage = none → f'.offlineMessage = f.offlineMessage
  transferQueue : d.transferQueue = none → f'.transferQueue = f.transferQueue
  name : Blank d.name → f'.name = f.name
  entryNode : Blank d.entryNode → f'.entryNode = f.entryNode
  /-- Nothing in a definition is changed but its entry node. -/
  definition : ∃ base : Entries Json, d.baseOf f = .object base ∧
    f'.definition = base.put "entryNodeId" (.string f'.entryNode)

theorem update_patches (h : d.update f now = .ok f') : d.Patches f f' := by
  obtain ⟨base, g, hbase, -, rfl⟩ := update_eq_ok.1 h
  have hblank {field : Given String} {old : String} (hnone : Blank field) :
      (clean field).getD old = old := by
    rw [clean_eq_none.2 hnone, Option.getD_none]
  refine ⟨rfl, rfl, ?_, ?_, ?_, ?_, ?_, ?_, ?_, hblank, hblank, base, hbase, rfl⟩
  all_goals
    intro habsent
    simp only [patched, change_absent habsent]

theorem Patches.redated (h : d.Patches f f') (updatedAt : Moment) :
    d.Patches f { f' with updatedAt } :=
  ⟨h.id, h.createdAt, h.description, h.isActive, h.isPrimary, h.keywords, h.schedule,
    h.offlineMessage, h.transferQueue, h.name, h.entryNode, h.definition⟩

/-! ## Creating and then updating -/

/-- The part of a draft without which there is no flow. -/
def bare (d : Draft) : Draft where
  name := d.name
  entryNode := d.entryNode
  definition := d.definition

/-- A field is read, whether it is given or not, where the old value is what is read of none. -/
theorem read_eq_change {α β : Type} (field : Given α) (read : Given α → β) :
    read field = change field read (read none) := by
  cases field <;> rfl

/-- A flag that is null is set when a flow is created and not set when one is updated. -/
theorem change_active (field : Given Bool) :
    change field (fun a => (value? a).getD false) true =
      if field = some none then false else (value? field).getD true := by
  rcases field with _ | _ | b <;> rfl

variable {make : String → Moment → Flow}

/-- A flow that is created of the bare part of a draft, and then updated with all of it, is the flow
that is created of the draft, but for its id and times and a flag that is null. -/
theorem update_bare (hmake : d.create = .ok make) (hrank : d.isPrimary = none) :
    ∃ least : String → Moment → Flow, d.bare.create = .ok least ∧
      (∀ id time, (least id time).isPrimary = false ∧ (make id time).isPrimary = false ∧
        (d.isActive = some none → (make id time).isActive = true)) ∧
      ∀ id time createdAt updatedAt id' time' now,
        d.update { least id time with createdAt, updatedAt } now =
          .ok
            { make id' time' with
              id := (least id time).id, createdAt, updatedAt := now
              isActive :=
                if d.isActive = some none then false else (make id' time').isActive } := by
  obtain ⟨name, entryNode, definition, hname, hentry, hdefinition, rfl⟩ := create_eq_ok hmake
  obtain ⟨base, g, hbase, rfl, hg⟩ := ensureDefinition_eq_ok.1 hdefinition
  let least (id : String) (time : Moment) : Flow :=
    { id, name, entryNode, definition := base.put "entryNodeId" (.string entryNode)
      description := none, isActive := true, isPrimary := false, trigger := .keyword
      keywords := [], schedule := none, offlineMessage := none, transferQueue := none
      createdAt := time, updatedAt := time }
  refine ⟨least, ?_, fun id time => ⟨rfl, ?_, fun hnull => ?_⟩, ?_⟩
  · unfold create
    simp only [bare, hname, hentry, bind, Except.bind, pure, Except.pure, hdefinition,
      Except.mapError]
    rfl
  · simp [hrank, value?]
  · simp [hnull, value?]
  · intro id time createdAt updatedAt id' time' now
    rw [update_eq_ok]
    refine ⟨base, g, by rw [baseOf, hbase]; rfl, by rw [entryOf, hentry]; exact hg, ?_⟩
    have htrigger : triggerOf false d.trigger =
        if d.trigger.isSome then triggerOf false d.trigger else Trigger.keyword := by
      cases d.trigger <;> rfl
    -- the fields that the bare part says nothing of are read of none
    simp only [patched, least, entryOf, hname, hentry, hrank, change_active, change_absent,
      Option.getD_some, Bool.if_false_left, Bool.false_eq_true, ↓reduceIte, Flow.mk.injEq, and_self,
      and_true, true_and]
    exact ⟨read_eq_change _ clean, rfl, htrigger,
      read_eq_change _ fun ks => cleanKeywords ((value? ks).getD []),
      read_eq_change _ scheduleOf, read_eq_change _ clean, read_eq_change _ clean⟩

end FrontDesk.Draft
