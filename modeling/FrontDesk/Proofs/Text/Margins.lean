/-
Blanks around a text.

They are not seen in its normal form: a blank comes to nothing but blanks when it is decomposed, and
these are trimmed (`normalChars_margins`). So a text and what is left of it when it is trimmed have
one normal form.
-/
import FrontDesk.Text.Normal
import Mathlib.Data.List.DropRight
import Mathlib.Data.List.TakeWhile

namespace FrontDesk.Text

variable {p : Char → Bool} {before text after : List Char}

/-! ## Trimming -/

theorem exists_margins (p : Char → Bool) (cs : List Char) :
    ∃ before after, cs = before ++ stripBoth p cs ++ after ∧ (∀ c ∈ before, p c = true) ∧
      ∀ c ∈ after, p c = true := by
  refine ⟨cs.takeWhile p, ((cs.dropWhile p).reverse.takeWhile p).reverse, ?_, ?_, ?_⟩
  · rw [List.append_assoc, stripBoth, ← List.reverse_append, List.takeWhile_append_dropWhile,
      List.reverse_reverse, List.takeWhile_append_dropWhile]
  · exact fun c hc => List.mem_takeWhile_imp hc
  · exact fun c hc => List.mem_takeWhile_imp (List.mem_reverse.1 hc)

theorem dropWhile_margin (h : ∀ c ∈ before, p c = true) :
    (before ++ text).dropWhile p = text.dropWhile p :=
  List.dropWhile_append_of_pos h

theorem stripBoth_margins (hbefore : ∀ c ∈ before, p c = true) (hafter : ∀ c ∈ after, p c = true) :
    stripBoth p (before ++ text ++ after) = stripBoth p text := by
  rw [stripBoth, stripBoth, List.append_assoc, dropWhile_margin hbefore]
  by_cases hall : ∀ c ∈ text, p c = true
  · -- nothing is left of either
    have hnone : text.dropWhile p = [] := List.dropWhile_eq_nil_iff.2 hall
    have hnone' : (text ++ after).dropWhile p = [] := by
      rw [dropWhile_margin hall, List.dropWhile_eq_nil_iff]
      exact hafter
    rw [hnone, hnone']
  · have hsome : text.dropWhile p ≠ [] := fun hnil => hall (List.dropWhile_eq_nil_iff.1 hnil)
    have hcut : (text ++ after).dropWhile p = text.dropWhile p ++ after := by
      rw [List.dropWhile_append]
      simp [hsome]
    rw [hcut, List.reverse_append, dropWhile_margin fun c hc => hafter c (List.mem_reverse.1 hc)]

theorem stripBoth_stripBoth (p : Char → Bool) (cs : List Char) :
    stripBoth p (stripBoth p cs) = stripBoth p cs := by
  -- the left end stays as it is when the right end is cut
  have hleft : (stripBoth p cs).dropWhile p = stripBoth p cs := by
    have hcut : stripBoth p cs <+: cs.dropWhile p := List.rdropWhile_prefix p _
    rw [List.dropWhile_eq_self_iff]
    intro hpos
    rw [hcut.getElem hpos]
    exact List.dropWhile_get_zero_not p cs (Nat.lt_of_lt_of_le hpos hcut.length_le)
  rw [stripBoth, hleft]
  exact List.rdropWhile_idempotent p (cs.dropWhile p)

theorem dropWhile_of_stripBoth (h : stripBoth p text = text) :
    text.dropWhile p = text ∧ text.reverse.dropWhile p = text.reverse := by
  have hleft : text.dropWhile p = text := by
    refine (List.dropWhile_suffix p).eq_of_length_le ?_
    have hshort := (List.dropWhile_suffix (l := (text.dropWhile p).reverse) p).length_le
    have hlength := congrArg List.length h
    rw [stripBoth, List.length_reverse] at hlength
    rw [List.length_reverse] at hshort
    omega
  refine ⟨hleft, List.reverse_inj.1 ?_⟩
  rw [List.reverse_reverse]
  rwa [stripBoth, hleft] at h

@[simp] theorem trim_trim (s : String) : trim (trim s) = trim s := by
  simp only [trim, String.toList_ofList, trimBlank, stripBoth_stripBoth]

/-- Blanks around a text are not seen once it is trimmed. -/
theorem trim_margins {w₁ w₂ : String} (h₁ : ∀ c ∈ w₁.toList, isBlank c = true)
    (h₂ : ∀ c ∈ w₂.toList, isBlank c = true) (s : String) : trim (w₁ ++ s ++ w₂) = trim s := by
  simp only [trim, trimBlank, String.toList_append, stripBoth_margins h₁ h₂]

theorem getLast?_trim {s : String} {c : Char} (h : (trim s).toList.getLast? = some c) :
    isBlank c = false := by
  rw [trim, String.toList_ofList, trimBlank, stripBoth, List.getLast?_reverse] at h
  have hnot := List.head?_dropWhile_not isBlank (s.toList.dropWhile isBlank).reverse
  rwa [h] at hnot

/-- There are no blanks at either end of the text, and it is not empty. -/
structure IsTrimmed (s : String) : Prop where
  trim : trim s = s
  ne_empty : s ≠ ""

theorem isTrimmed_trim {s : String} (h : trim s ≠ "") : IsTrimmed (trim s) := ⟨trim_trim s, h⟩

theorem trimmed?_eq_none {s : String} : trimmed? s = none ↔ trim s = "" := by
  unfold trimmed?
  simp only
  split
  next h => simpa using h
  next h => simpa using h

theorem trimmed?_of_ne {s : String} (h : trim s ≠ "") : trimmed? s = some (trim s) := by
  simp [trimmed?, h]

theorem isTrimmed_of_trimmed? {s t : String} (h : trimmed? s = some t) : IsTrimmed t := by
  have hne : trim s ≠ "" := fun hempty => by simp [trimmed?_eq_none.2 hempty] at h
  rw [trimmed?_of_ne hne] at h
  cases h
  exact isTrimmed_trim hne

/-! ## Decomposing blanks -/

/-- The blanks that are composed of something are composed of blanks. -/
theorem decompositions_blank :
    decompositions.all (fun e => !isBlankCode e.1 || e.2.all isBlankCode) = true := by
  decide +kernel

theorem RangeTree.mem_of_find?_single {α : Type} {table : List (Nat × α)} {c first : Nat}
    {value : α} (h : (RangeTree.ofList (table.map fun (c, value) => (c, c, value))).find? c =
      some (first, value)) : (c, value) ∈ table := by
  obtain ⟨last, hmem, hfirst, hlast⟩ := RangeTree.mem_of_find? h
  obtain ⟨e, he, heq⟩ := List.mem_map.1 hmem
  rw [Prod.mk.injEq, Prod.mk.injEq] at heq
  obtain ⟨rfl, rfl, rfl⟩ := heq
  obtain rfl : c = e.1 := Nat.le_antisymm hlast hfirst
  exact he

theorem decomposeCode_blank {c : Nat} (h : isBlankCode c = true) :
    ∀ d ∈ decomposeCode c, isBlankCode d = true := by
  intro d hd
  unfold decomposeCode at hd
  split at hd
  next hhangul =>
    simp only [Bool.and_eq_true, decide_eq_true_eq] at hhangul
    simp only [isBlankCode, Bool.or_eq_true, Bool.and_eq_true, decide_eq_true_eq, beq_iff_eq] at h
    omega
  next =>
    split at hd
    next first image hfind =>
      have hmem := RangeTree.mem_of_find?_single hfind
      have hblank := List.all_eq_true.1 decompositions_blank _ hmem
      rw [h, Bool.not_true, Bool.false_or] at hblank
      exact List.all_eq_true.1 hblank d hd
    next =>
      rw [List.mem_singleton.1 hd]
      exact h

/-- A text without its marks, before it is trimmed and its case folded. -/
def unmarked (cs : List Char) : List Char :=
  (dropMarks (decompose (cs.map Char.toNat))).map Char.ofNat

theorem normalChars_eq (cs : List Char) : normalChars cs = foldCase (trimBlank (unmarked cs)) := rfl

theorem unmarked_append (cs ds : List Char) : unmarked (cs ++ ds) = unmarked cs ++ unmarked ds := by
  simp only [unmarked, decompose, dropMarks_orderMarks, List.map_append, List.flatMap_append]
  rw [dropMarks, List.filter_append, List.map_append]
  rfl

theorem isBlank_ofNat {c : Nat} (h : isBlankCode c = true) : isBlank (Char.ofNat c) = true := by
  have hvalid : c.isValidChar := by
    simp only [isBlankCode, Bool.or_eq_true, Bool.and_eq_true, decide_eq_true_eq, beq_iff_eq] at h
    exact .inl (by omega)
  rw [isBlank, Char.ofNat, dif_pos hvalid]
  exact h

theorem unmarked_blank (h : ∀ c ∈ text, isBlank c = true) :
    ∀ c ∈ unmarked text, isBlank c = true := by
  intro c hc
  simp only [unmarked, decompose, dropMarks_orderMarks] at hc
  obtain ⟨code, hcode, rfl⟩ := List.mem_map.1 hc
  obtain ⟨whole, hwhole, hpart⟩ := List.mem_flatMap.1 (List.mem_filter.1 hcode).1
  obtain ⟨b, hb, rfl⟩ := List.mem_map.1 hwhole
  exact isBlank_ofNat (decomposeCode_blank (h b hb) code hpart)

/-! ## The normal form -/

/-- Blanks around a text are not seen in its normal form. -/
theorem normalChars_margins (hbefore : ∀ c ∈ before, isBlank c = true)
    (hafter : ∀ c ∈ after, isBlank c = true) :
    normalChars (before ++ text ++ after) = normalChars text := by
  rw [normalChars_eq, normalChars_eq, unmarked_append, unmarked_append, trimBlank,
    stripBoth_margins (unmarked_blank hbefore) (unmarked_blank hafter)]
  rfl

theorem normalChars_trim (s : String) : normalChars (trim s).toList = normalChars s.toList := by
  obtain ⟨before, after, hs, hbefore, hafter⟩ := exists_margins isBlank s.toList
  rw [trim, String.toList_ofList, trimBlank]
  conv => rhs; rw [hs]
  exact (normalChars_margins hbefore hafter).symm

theorem normal_trim (s : String) : normal (trim s) = normal s := by
  rw [normal, normal, normalChars_trim]

theorem normal_congr {s t : String} (h : trim s = trim t) : normal s = normal t := by
  rw [← normal_trim s, h, normal_trim]

end FrontDesk.Text
