/-
Flows as drafts make them.

A draft makes a flow, or changes one, only if the graph that it comes to can be read, with the entry
node of the flow; all its texts are trimmed, and none is left empty. Such a flow is proper
(`Flow.Proper`), whatever part of it a draft changes and whatever it was changed by before.
-/
import FrontDesk.Proofs.Service.Edits
import FrontDesk.Proofs.Text.Margins

namespace FrontDesk

open Calendar Text

namespace Draft

theorem isTrimmed_of_clean {field : Given String} {t : String} (h : clean field = some t) :
    IsTrimmed t := by
  obtain ⟨s, -, hs⟩ := Option.bind_eq_some_iff.1 h
  exact isTrimmed_of_trimmed? hs

theorem isTrimmed_of_cleanKeywords {vs : List Json} {k : String} (h : k ∈ cleanKeywords vs) :
    IsTrimmed k := by
  obtain ⟨v, -, hv⟩ := List.mem_filterMap.1 h
  obtain ⟨s, -, hs⟩ := Option.bind_eq_some_iff.1 hv
  exact isTrimmed_of_trimmed? hs

/-! ## Definitions -/

theorem find?_withEntry (definition : Option Json) (entry : String) :
    (withEntry definition entry).find? "entryNodeId" = some (.string entry) := by
  unfold withEntry
  split
  · rw [Entries.find?_put, if_pos rfl]
  · rw [Entries.find?_cons, if_pos (beq_self_eq_true _)]

end Draft

theorem Graph.entry_of_ofJson {ms : Entries Json} {g : Graph} {entry : String}
    (h : Graph.ofJson (.object ms) = .ok g) (hentry : ms.find? "entryNodeId" = some (.string entry)) :
    g.entry = entry := by
  have hfield : stringOr ((Json.object ms).field "entryNodeId") = entry := by
    simp [Json.field, Json.get?, hentry, stringOr, Json.string?]
  unfold ofJson at h
  simp only [Json.isObject, Bool.not_true, Bool.false_eq_true, if_false, hfield] at h
  split at h
  · cases h
  simp only [bind, Except.bind] at h
  split at h
  · cases h
  next nodes hnodes =>
  split at h
  · cases h
    rfl
  · cases h

/-- A definition can be read, and both name the entry node. -/
structure Flow.Readable (definition : Entries Json) (entry : String) : Prop where
  named : definition.find? "entryNodeId" = some (.string entry)
  graph : ∃ g, Graph.ofJson (.object definition) = .ok g ∧ g.entry = entry

theorem Draft.readable_of_ensureDefinition {definition : Option Json} {entry : String}
    {ms : Entries Json} (h : ensureDefinition definition entry = .ok ms) :
    Flow.Readable ms entry := by
  simp only [ensureDefinition, bind, Except.bind, pure, Except.pure] at h
  split at h
  · cases h
  next g hg =>
    cases h
    have hnamed := find?_withEntry definition entry
    exact ⟨hnamed, g, hg, Graph.entry_of_ofJson hg hnamed⟩

/-! ## Flows -/

/-- A flow whose graph can be read, with the entry node of the flow, and whose texts are trimmed. -/
structure Flow.Proper (f : Flow) : Prop where
  definition : Flow.Readable f.definition f.entryNode
  name : IsTrimmed f.name
  entryNode : IsTrimmed f.entryNode
  keywords : ∀ k ∈ f.keywords, IsTrimmed k
  description : ∀ t, f.description = some t → IsTrimmed t
  offlineMessage : ∀ t, f.offlineMessage = some t → IsTrimmed t
  transferQueue : ∀ t, f.transferQueue = some t → IsTrimmed t

theorem Flow.proper_lasting : Flow.Lasting Flow.Proper where
  redated _ _ h := ⟨h.1, h.2, h.3, h.4, h.5, h.6, h.7⟩
  demoted h := ⟨h.1, h.2, h.3, h.4, h.5, h.6, h.7⟩

namespace Draft

variable {d : Draft} {f f' : Flow} {now : Moment}

/-- What holds of a field as it was, and of all that a draft can make of it, holds of it after a
change. -/
theorem change_holds {α β : Type} {p : β → Prop} {field : Given α} {read : Given α → β} {old : β}
    (hread : p (read field)) (hold : p old) : p (change field read old) := by
  unfold change
  split
  · exact hread
  · exact hold

theorem change_isTrimmed {field : Given String} {old : Option String}
    (hold : ∀ t, old = some t → IsTrimmed t) :
    ∀ t, change field clean old = some t → IsTrimmed t :=
  change_holds (p := fun value => ∀ t, value = some t → IsTrimmed t)
    (fun _ ht => isTrimmed_of_clean ht) hold

theorem getD_isTrimmed {field : Given String} {old : String} (hold : IsTrimmed old) :
    IsTrimmed ((clean field).getD old) := by
  cases hclean : clean field with
  | none => exact hold
  | some t => exact isTrimmed_of_clean hclean

theorem change_keywords {field : Given (List Json)} {old : List String}
    (hold : ∀ k ∈ old, IsTrimmed k) :
    ∀ k ∈ change field (fun ks => cleanKeywords ((value? ks).getD [])) old, IsTrimmed k :=
  change_holds (p := fun ks => ∀ k ∈ ks, IsTrimmed k)
    (fun _ hk => isTrimmed_of_cleanKeywords hk) hold

theorem create_proper {make : String → Moment → Flow} (h : d.create = .ok make) (id : String) :
    (make id now).Proper := by
  obtain ⟨name, entryNode, definition, hname, hentry, hdefinition, rfl⟩ := create_eq_ok h
  exact {
    definition := readable_of_ensureDefinition hdefinition
    name := isTrimmed_of_clean hname
    entryNode := isTrimmed_of_clean hentry
    keywords := fun _ hk => isTrimmed_of_cleanKeywords hk
    description := fun _ ht => isTrimmed_of_clean ht
    offlineMessage := fun _ ht => isTrimmed_of_clean ht
    transferQueue := fun _ ht => isTrimmed_of_clean ht }

/-- The definition is checked with the entry node that the flow has after the change, whichever of
the two the draft gives. -/
theorem update_proper (hf : f.Proper) (h : d.update f now = .ok f') : f'.Proper := by
  simp only [update, bind, Except.bind, pure, Except.pure] at h
  split at h
  · cases h
  next definition hdefinition =>
    cases h
    exact {
      definition := readable_of_ensureDefinition hdefinition
      name := getD_isTrimmed hf.name
      entryNode := getD_isTrimmed hf.entryNode
      keywords := change_keywords hf.keywords
      description := change_isTrimmed hf.description
      offlineMessage := change_isTrimmed hf.offlineMessage
      transferQueue := change_isTrimmed hf.transferQueue }

end Draft

end FrontDesk
