/-
The flow that a message starts.

The active flows of a catalog are considered in an order (`Flow.Beats`): primary ones first, then
newer ones, then those stored earlier. The first that a keyword of the message calls is the best of
all that are called, and where none is, the first default is the best default
(`Store.Memory.selectFlow_best`).
-/
import FrontDesk.Catalog.Selection
import FrontDesk.Proofs.Text.Margins
import FrontDesk.Store.Memory

namespace FrontDesk

open Calendar

theorem Calendar.mergeSort_inOrder {α : Type} (time : α → Moment) (xs : List α) :
    (xs.mergeSort fun a b => (time a).instant ≤ (time b).instant).Pairwise
      fun a b => (time a).instant ≤ (time b).instant := by
  refine (List.pairwise_mergeSort ?_ ?_ xs).imp of_decide_eq_true
  · intro a b c hab hbc
    exact decide_eq_true (Int.le_trans (of_decide_eq_true hab) (of_decide_eq_true hbc))
  · intro a b
    simpa using Int.le_total _ _

namespace Flow

/-! ## Which flow goes before which -/

/-- A flow of a catalog goes before another one, each with its place there: it alone is primary, or
both are alike in that and it is newer, or of the same time and stored earlier. -/
def Beats (f g : Flow × Nat) : Prop :=
  (f.1.isPrimary = true ∧ g.1.isPrimary = false) ∨
    f.1.isPrimary = g.1.isPrimary ∧
      (g.1.createdAt.instant < f.1.createdAt.instant ∨
        f.1.createdAt.instant = g.1.createdAt.instant ∧ f.2 < g.2)

theorem Beats.asymm {f g : Flow × Nat} (h : Beats f g) : ¬ Beats g f := by
  rintro (⟨hg, hf⟩ | ⟨hsame, hback⟩)
  · rcases h with ⟨hf', -⟩ | ⟨hsame, -⟩
    · rw [hf] at hf'
      cases hf'
    · rw [hf, hg] at hsame
      cases hsame
  · rcases h with ⟨hf, hg⟩ | ⟨-, hforth⟩
    · rw [hf, hg] at hsame
      cases hsame
    · omega

theorem beats_or_beats {f g : Flow × Nat} (h : f.2 ≠ g.2) : Beats f g ∨ Beats g f := by
  have htimes : (g.1.createdAt.instant < f.1.createdAt.instant ∨
        f.1.createdAt.instant = g.1.createdAt.instant ∧ f.2 < g.2) ∨
      (f.1.createdAt.instant < g.1.createdAt.instant ∨
        g.1.createdAt.instant = f.1.createdAt.instant ∧ g.2 < f.2) := by
    omega
  cases hf : f.1.isPrimary <;> cases hg : g.1.isPrimary
  · rcases htimes with hforth | hback
    · exact .inl (.inr ⟨by rw [hf, hg], hforth⟩)
    · exact .inr (.inr ⟨by rw [hf, hg], hback⟩)
  · exact .inr (.inl ⟨hg, hf⟩)
  · exact .inl (.inl ⟨hf, hg⟩)
  · rcases htimes with hforth | hback
    · exact .inl (.inr ⟨by rw [hf, hg], hforth⟩)
    · exact .inr (.inr ⟨by rw [hf, hg], hback⟩)

/-- A flow of a catalog fits, and no other that fits goes before it. -/
structure IsBest (catalog : List Flow) (fits : Flow → Prop) (best : Flow × Nat) : Prop where
  stored : best ∈ catalog.zipIdx
  fitting : fits best.1
  unbeaten : ∀ other ∈ catalog.zipIdx, fits other.1 → other ≠ best → ¬ Beats other best

/-- At each place there is one flow. -/
theorem eq_of_place {catalog : List Flow} {f g : Flow × Nat} (hf : f ∈ catalog.zipIdx)
    (hg : g ∈ catalog.zipIdx) (h : f.2 = g.2) : f = g := by
  obtain ⟨f, i⟩ := f
  obtain ⟨g, j⟩ := g
  obtain rfl : i = j := h
  rw [List.mk_mem_zipIdx_iff_getElem?] at hf hg
  rw [hf] at hg
  cases hg
  rfl

theorem IsBest.unique {catalog : List Flow} {fits : Flow → Prop} {f g : Flow × Nat}
    (hf : IsBest catalog fits f) (hg : IsBest catalog fits g) : f = g := by
  by_cases hplace : f.2 = g.2
  · exact eq_of_place hf.stored hg.stored hplace
  · have hne : f ≠ g := fun h => hplace (congrArg Prod.snd h)
    rcases beats_or_beats hplace with hforth | hback
    · exact absurd hforth (hg.unbeaten f hf.stored hf.fitting hne)
    · exact absurd hback (hf.unbeaten g hg.stored hg.fitting hne.symm)

/-! ## The order in which flows are considered -/

theorem considered_filter (fs : List Flow) : considered (fs.filter isActive) = considered fs := by
  simp only [considered, List.filter_filter, Bool.and_self]

theorem mem_considered {f : Flow} {fs : List Flow} :
    f ∈ considered fs ↔ f ∈ fs ∧ f.isActive = true := by
  simp only [considered, leading, newestFirst, List.mem_append, List.mem_filter,
    List.mem_mergeSort]
  cases f.isPrimary <;> simp

/-- Flows with their places, from the newest to the oldest. -/
def newestPlaced (fs : List (Flow × Nat)) : List (Flow × Nat) :=
  fs.mergeSort fun a b => b.1.createdAt.instant ≤ a.1.createdAt.instant

/-- Flows are sorted with their places as they are without them. -/
theorem map_newestPlaced (fs : List (Flow × Nat)) :
    (newestPlaced fs).map Prod.fst = newestFirst (fs.map Prod.fst) :=
  List.map_mergeSort fun _ _ _ _ => rfl

theorem newer_trans (a b c : Flow × Nat)
    (hab : decide (b.1.createdAt.instant ≤ a.1.createdAt.instant) = true)
    (hbc : decide (c.1.createdAt.instant ≤ b.1.createdAt.instant) = true) :
    decide (c.1.createdAt.instant ≤ a.1.createdAt.instant) = true := by
  rw [decide_eq_true_eq] at *
  omega

theorem newer_total (a b : Flow × Nat) :
    (decide (b.1.createdAt.instant ≤ a.1.createdAt.instant) ||
      decide (a.1.createdAt.instant ≤ b.1.createdAt.instant)) = true := by
  rw [Bool.or_eq_true, decide_eq_true_eq, decide_eq_true_eq]
  omega

/-- Flows of one time stay as they stood. -/
theorem filter_newestPlaced (fs : List (Flow × Nat)) (time : Int) :
    (newestPlaced fs).filter (·.1.createdAt.instant == time) =
      fs.filter (·.1.createdAt.instant == time) := by
  have htied : (fs.filter (·.1.createdAt.instant == time)).Pairwise
      fun a b => decide (b.1.createdAt.instant ≤ a.1.createdAt.instant) = true := by
    refine List.pairwise_of_forall_mem_list fun a ha b hb => ?_
    have ha' := eq_of_beq (List.mem_filter.1 ha).2
    have hb' := eq_of_beq (List.mem_filter.1 hb).2
    rw [decide_eq_true_eq]
    omega
  have hkept : (fs.filter (·.1.createdAt.instant == time)).Sublist (newestPlaced fs) :=
    List.sublist_mergeSort newer_trans newer_total htied List.filter_sublist
  have hinside : (fs.filter (·.1.createdAt.instant == time)).Sublist
      ((newestPlaced fs).filter (·.1.createdAt.instant == time)) := by
    have hboth := hkept.filter (·.1.createdAt.instant == time)
    simpa only [List.filter_filter, Bool.and_self] using hboth
  refine (hinside.eq_of_length ?_).symm
  exact (((List.mergeSort_perm fs _).filter _).length_eq).symm

/-- Sorted flows come newer ones first, and of those of one time the ones stored earlier. -/
theorem newestPlaced_pairwise {fs : List (Flow × Nat)} (h : fs.Pairwise fun a b => a.2 < b.2) :
    (newestPlaced fs).Pairwise fun a b =>
      b.1.createdAt.instant < a.1.createdAt.instant ∨
        a.1.createdAt.instant = b.1.createdAt.instant ∧ a.2 < b.2 := by
  rw [List.pairwise_iff_forall_sublist]
  intro a b hab
  have hsorted := List.pairwise_mergeSort newer_trans newer_total fs
  have hle := of_decide_eq_true (List.pairwise_iff_forall_sublist.1 hsorted hab)
  by_cases htie : a.1.createdAt.instant = b.1.createdAt.instant
  · -- those of their time stand as they were stored
    have htied := hab.filter (·.1.createdAt.instant == a.1.createdAt.instant)
    have hboth : [a, b].filter (·.1.createdAt.instant == a.1.createdAt.instant) = [a, b] := by
      simp [htie]
    rw [filter_newestPlaced, hboth] at htied
    have hstored := htied.trans List.filter_sublist
    exact .inr ⟨htie, List.pairwise_iff_forall_sublist.1 h hstored⟩
  · exact .inl (by omega)

/-- The active flows of a catalog with their places, in the order in which they are considered. -/
def ranked (catalog : List Flow) : List (Flow × Nat) :=
  let fs := newestPlaced (catalog.zipIdx.filter (·.1.isActive))
  fs.filter (·.1.isPrimary) ++ fs.filter fun f => !f.1.isPrimary

theorem map_ranked (catalog : List Flow) : (ranked catalog).map Prod.fst = considered catalog := by
  have hsorted : (newestPlaced (catalog.zipIdx.filter (·.1.isActive))).map Prod.fst =
      newestFirst (catalog.filter isActive) := by
    have hactive : (catalog.zipIdx.filter (·.1.isActive)).map Prod.fst =
        catalog.filter isActive := by
      conv => rhs; rw [← List.zipIdx_map_fst 0 catalog, List.filter_map]
      rfl
    rw [map_newestPlaced, hactive]
  rw [considered, leading, ← hsorted, List.filter_map, List.filter_map, ranked, List.map_append]
  rfl

theorem mem_ranked {catalog : List Flow} {f : Flow × Nat} :
    f ∈ ranked catalog ↔ f ∈ catalog.zipIdx ∧ f.1.isActive = true := by
  simp only [ranked, newestPlaced, List.mem_append, List.mem_filter, List.mem_mergeSort]
  cases f.1.isPrimary <;> simp

theorem ranked_pairwise (catalog : List Flow) : (ranked catalog).Pairwise Beats := by
  have hplaces : (catalog.zipIdx.filter (·.1.isActive)).Pairwise fun a b => a.2 < b.2 := by
    refine List.Pairwise.filter _ (List.pairwise_map.1 ?_)
    rw [List.zipIdx_map_snd]
    exact List.pairwise_lt_range' 1
  have hsorted := newestPlaced_pairwise hplaces
  rw [ranked, List.pairwise_append, List.pairwise_filter, List.pairwise_filter]
  refine ⟨?_, ?_, fun f hf g hg => ?_⟩
  · exact hsorted.imp fun hab ha hb => .inr ⟨by rw [ha, hb], hab⟩
  · refine hsorted.imp fun hab ha hb => .inr ⟨?_, hab⟩
    rw [Bool.not_eq_true'] at ha hb
    rw [ha, hb]
  · have hg' := (List.mem_filter.1 hg).2
    rw [Bool.not_eq_true'] at hg'
    exact .inl ⟨(List.mem_filter.1 hf).2, hg'⟩

/-- The first of the flows considered that fits is the best one. -/
theorem find?_considered (catalog : List Flow) (fits : Flow → Bool) (f : Flow) :
    (considered catalog).find? fits = some f ↔
      ∃ place, IsBest catalog (fun f => f.isActive = true ∧ fits f = true) (f, place) := by
  have hfirst : ∀ {best}, (ranked catalog).find? (fun f => fits f.1) = some best →
      IsBest catalog (fun f => f.isActive = true ∧ fits f = true) best := by
    intro best h
    obtain ⟨hfits, before, after, hsplit, hbefore⟩ := List.find?_eq_some_iff_append.1 h
    have hmem : best ∈ ranked catalog := by
      rw [hsplit]
      exact List.mem_append_right before List.mem_cons_self
    obtain ⟨hstored, hactive⟩ := mem_ranked.1 hmem
    refine ⟨hstored, ⟨hactive, hfits⟩, fun other hother ⟨hactive', hfits'⟩ hne => ?_⟩
    have hmem' := mem_ranked.2 ⟨hother, hactive'⟩
    have hpairwise := ranked_pairwise catalog
    rw [hsplit] at hmem' hpairwise
    rcases List.mem_append.1 hmem' with hin | hin
    · have hunfit := hbefore other hin
      rw [hfits'] at hunfit
      cases hunfit
    · rcases List.mem_cons.1 hin with rfl | hin
      · exact absurd rfl hne
      · have hlater := (List.pairwise_cons.1 (List.pairwise_append.1 hpairwise).2.1).1 other hin
        exact hlater.asymm
  rw [← map_ranked, List.find?_map]
  constructor
  · intro h
    obtain ⟨best, hbest, rfl⟩ := Option.map_eq_some_iff.1 h
    exact ⟨best.2, hfirst hbest⟩
  · rintro ⟨place, hbest⟩
    cases hfind : (ranked catalog).find? (fits ∘ Prod.fst) with
    | none =>
      have hmem := mem_ranked.2 ⟨hbest.stored, hbest.fitting.1⟩
      exact absurd hbest.fitting.2 (List.find?_eq_none.1 hfind _ hmem)
    | some best => rw [(hfirst hfind).unique hbest, Option.map_some]

theorem find?_considered_eq_none (catalog : List Flow) (fits : Flow → Bool) :
    (considered catalog).find? fits = none ↔
      ¬ ∃ f ∈ catalog, f.isActive = true ∧ fits f = true := by
  simp only [List.find?_eq_none, mem_considered]
  simp

theorem areComparable_of_forall {fs : List Flow}
    (h : ∀ f ∈ fs, ∀ g ∈ fs, f.createdAt.comparable g.createdAt = true) :
    areComparable fs = true := by
  cases fs with
  | nil => rfl
  | cons f rest =>
    exact List.all_eq_true.2 fun g hg => h f List.mem_cons_self g (List.mem_cons_of_mem f hg)

/-! ## Which flow is selected -/

/-- The flow is active, and a message calls it by a keyword. -/
def IsCalled (text : String) (f : Flow) : Prop := f.isActive = true ∧ f.isCalledBy text = true

/-- The flow is active and a default. -/
def IsDefault (f : Flow) : Prop := f.isActive = true ∧ f.trigger = .default

theorem isCalledBy_trim (text : String) : isCalledBy (Text.trim text) = isCalledBy text := by
  have hoccurs : keywordOccurs (Text.trim text) = keywordOccurs text := by
    funext keyword
    simp only [keywordOccurs, Text.normalChars_trim]
  funext f
  simp only [isCalledBy, keywordsOccur, hoccurs]

end Flow

section

variable {catalog : List Flow} {text : String}

open FrontDesk.Flow

theorem selectFlow_of_called (h : ∃ f ∈ catalog, f.IsCalled text) :
    selectFlow (considered catalog) text = (considered catalog).find? (isCalledBy text) := by
  rw [selectFlow, isCalledBy_trim]
  cases hfind : (considered catalog).find? (isCalledBy text) with
  | none => exact absurd h ((find?_considered_eq_none catalog (isCalledBy text)).1 hfind)
  | some f => rfl

theorem selectFlow_of_not_called (h : ¬ ∃ f ∈ catalog, f.IsCalled text) :
    selectFlow (considered catalog) text =
      (considered catalog).find? fun f => f.trigger == .default := by
  have hnone := (find?_considered_eq_none catalog (isCalledBy text)).2 h
  rw [selectFlow, isCalledBy_trim, hnone]
  rfl

theorem selectFlow_eq_some_of_called (h : ∃ f ∈ catalog, f.IsCalled text) (r : Flow) :
    selectFlow (considered catalog) text = some r ↔
      ∃ place, IsBest catalog (IsCalled text) (r, place) := by
  rw [selectFlow_of_called h]
  exact find?_considered catalog (isCalledBy text) r

theorem selectFlow_eq_some_of_not_called (h : ¬ ∃ f ∈ catalog, f.IsCalled text) (r : Flow) :
    selectFlow (considered catalog) text = some r ↔
      ∃ place, IsBest catalog IsDefault (r, place) := by
  have hdefault : (fun f : Flow => f.isActive = true ∧ (f.trigger == .default) = true) =
      IsDefault := by
    funext f
    rw [beq_iff_eq, IsDefault]
  rw [selectFlow_of_not_called h, find?_considered, hdefault]

theorem selectFlow_eq_none :
    selectFlow (considered catalog) text = none ↔
      (¬ ∃ f ∈ catalog, f.IsCalled text) ∧ ¬ ∃ f ∈ catalog, f.IsDefault := by
  by_cases hcalled : ∃ f ∈ catalog, f.IsCalled text
  · rw [selectFlow_of_called hcalled, find?_considered_eq_none]
    exact ⟨fun hnone => absurd hcalled hnone, fun hnone => hnone.1⟩
  · rw [selectFlow_of_not_called hcalled, find?_considered_eq_none]
    simp only [beq_iff_eq, IsDefault]
    exact ⟨fun hnone => ⟨hcalled, hnone⟩, fun hnone => hnone.2⟩

/-- What is selected is active, and is not to be started by hand. -/
theorem selectFlow_startable {r : Flow} (h : selectFlow (considered catalog) text = some r) :
    r.isActive = true ∧ r.trigger ≠ .manual := by
  by_cases hcalled : ∃ f ∈ catalog, f.IsCalled text
  · obtain ⟨place, hbest⟩ := (selectFlow_eq_some_of_called hcalled r).1 h
    obtain ⟨hactive, hcalls⟩ := hbest.fitting
    refine ⟨hactive, fun hmanual => ?_⟩
    change isCalledBy text r = true at hcalls
    rw [isCalledBy, hmanual] at hcalls
    cases hcalls
  · obtain ⟨place, hbest⟩ := (selectFlow_eq_some_of_not_called hcalled r).1 h
    obtain ⟨hactive, hdefault⟩ := hbest.fitting
    refine ⟨hactive, fun hmanual => ?_⟩
    change r.trigger = .default at hdefault
    rw [hmanual] at hdefault
    cases hdefault

end

namespace Store.Memory

/-- **The flow selected is the best of the catalog.** Let the times of creation in a store in memory
be comparable. Of the active flows that it gives out, a message selects the best of those that it
calls by a keyword; if it calls none, the best default; and none just if there is neither. It selects
no flow that is not active, or that is to be started by hand. -/
theorem selectFlow_best {m : Memory}
    (hcomparable : ∀ f ∈ m.flows.values, ∀ g ∈ m.flows.values,
      f.createdAt.comparable g.createdAt = true) (now : Moment) (freshId text : String) :
    ∃ fs, m.answer now freshId .activeFlows = (.ok fs, m) ∧
      ((∃ f ∈ m.flows.values, f.IsCalled text) → ∀ r, selectFlow fs text = some r ↔
        ∃ place, Flow.IsBest m.flows.values (Flow.IsCalled text) (r, place)) ∧
      ((¬ ∃ f ∈ m.flows.values, f.IsCalled text) → ∀ r, selectFlow fs text = some r ↔
        ∃ place, Flow.IsBest m.flows.values Flow.IsDefault (r, place)) ∧
      (selectFlow fs text = none ↔
        (¬ ∃ f ∈ m.flows.values, f.IsCalled text) ∧ ¬ ∃ f ∈ m.flows.values, f.IsDefault) ∧
      ∀ r, selectFlow fs text = some r → r.isActive = true ∧ r.trigger ≠ .manual := by
  have hordered : Flow.areComparable (m.flows.values.filter Flow.isActive) = true :=
    Flow.areComparable_of_forall fun f hf g hg =>
      hcomparable f (List.mem_filter.1 hf).1 g (List.mem_filter.1 hg).1
  refine ⟨Flow.considered m.flows.values, ?_, selectFlow_eq_some_of_called,
    selectFlow_eq_some_of_not_called, selectFlow_eq_none, fun _ => selectFlow_startable⟩
  rw [answer, ordered, if_pos hordered, Flow.considered_filter]

/-- A flow that greets, called by a greeting. -/
def greeter (id : String) (created : Int) (isPrimary : Bool) (trigger : Trigger) : Flow :=
  { id
    name := "Greeter"
    description := none
    isActive := true
    isPrimary
    trigger
    keywords := ["hi"]
    entryNode := "hello"
    definition := []
    schedule := none
    offlineMessage := none
    transferQueue := none
    createdAt := .utc created
    updatedAt := .utc created }

/-- A catalog with two newest flows of one time. -/
def greeters : Memory :=
  { flows :=
      [("old", greeter "old" 1 false .keyword), ("first", greeter "first" 2 false .keyword),
       ("second", greeter "second" 2 false .keyword), ("house", greeter "house" 3 true .default)] }

/-- Of these the one that was stored earlier is selected, and not the primary default. -/
theorem greeters_best :
    (∀ f ∈ greeters.flows.values, ∀ g ∈ greeters.flows.values,
      f.createdAt.comparable g.createdAt = true) ∧
    ∃ fs, greeters.answer (.utc 5) "id" .activeFlows = (.ok fs, greeters) ∧
      selectFlow fs " Hi there" = some (greeter "first" 2 false .keyword) := by
  have hcomparable : ∀ f ∈ greeters.flows.values, ∀ g ∈ greeters.flows.values,
      f.createdAt.comparable g.createdAt = true := by
    simp [greeters, greeter, Entries.values, Moment.comparable, Moment.utc]
  have hkeyword : keywordsOccur ["hi"] " Hi there" = true := by decide +kernel
  have hcalled : ∀ id created, (greeter id created false .keyword).IsCalled " Hi there" :=
    fun _ _ => ⟨rfl, by simp [Flow.isCalledBy, greeter, hkeyword]⟩
  have hbest : Flow.IsBest greeters.flows.values (Flow.IsCalled " Hi there")
      (greeter "first" 2 false .keyword, 1) := by
    refine ⟨by simp [greeters, Entries.values], hcalled _ _, fun other hother hfits hne => ?_⟩
    simp only [greeters, Entries.values, List.map_cons, List.map_nil, List.zipIdx_cons,
      List.zipIdx_nil, List.mem_cons, List.not_mem_nil, or_false] at hother
    rcases hother with rfl | rfl | rfl | rfl
    · simp [Flow.Beats, greeter, Moment.instant, Moment.utc]
    · exact absurd rfl hne
    · simp [Flow.Beats, greeter, Moment.instant, Moment.utc]
    · exact absurd hfits.2 (by simp [Flow.isCalledBy, greeter])
  obtain ⟨fs, hfs, hselected, -⟩ := selectFlow_best hcomparable (.utc 5) "id" " Hi there"
  refine ⟨hcomparable, fs, hfs, (hselected ⟨_, ?_, hcalled "first" 2⟩ _).2 ⟨1, hbest⟩⟩
  simp [greeters, Entries.values]

end Store.Memory

end FrontDesk
