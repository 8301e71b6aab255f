/-
Texts in normal form stay as they are.

A text that is decomposed and has lost its marks consists of code points that are settled: they
are composed of nothing but themselves, and are no marks. Folding the case of a settled code point
gives code points that are settled too, that folding leaves alone, and that are blank only if it
was. This is looked up in the tables of decompositions and foldings, entry by entry; what they do
not list folds to itself. So nothing is left to do the second time: nothing is composed, no mark is
dropped, nothing at the ends is blank, and nothing folds (`normalChars_of_isNormal`).
-/
import FrontDesk.Proofs.Text.Margins

namespace FrontDesk.Text

/-! ## Code points -/

/-- Whether the code point is that of a character. -/
def isScalar (c : Nat) : Bool := c < 0xD800 || (0xDFFF < c && c < 0x110000)

/-- Whether the code point is composed of itself alone. -/
def isWhole (c : Nat) : Bool := decomposeCode c == [c]

/-- Whether decomposing leaves the code point alone and does not find a mark in it. -/
def isSettled (c : Nat) : Bool := isWhole c && combiningClass c == 0

/-- Whether folding leaves the code point alone too. -/
def isFolded (c : Nat) : Bool := isSettled c && foldCode c == [c]

/-- Whether a code point may come of folding another: it is folded, a character, and not blank. -/
def isImage (c : Nat) : Bool := isFolded c && isScalar c && !isBlankCode c

/-- The code points of a run that are moved by it. -/
def runCodes (first last step : Nat) : List Nat :=
  List.range' first ((last - first) / step + 1) step

/-- What the listed characters are composed of is composed of nothing else. -/
theorem decompositions_whole :
    decompositions.all (fun e => e.2.all fun c => isScalar c && isWhole c) = true := by
  decide +kernel

theorem decompositions_letters :
    decompositions.all (fun e => e.1 < 0x1100 || 0x11C2 < e.1) = true := by
  decide +kernel

theorem foldExpansions_image :
    foldExpansions.all (fun e => !e.2.isEmpty && (e.2.all isImage || !isSettled e.1)) = true := by
  decide +kernel

theorem foldRuns_image :
    foldRuns.all (fun (first, last, step, shift) =>
      0 < step && (runCodes first last step).all fun c =>
        isImage (c + shift).toNat || !isSettled c) = true := by
  decide +kernel

theorem isScalar_toNat (c : Char) : isScalar c.toNat = true := by
  have hvalid : c.toNat.isValidChar := c.valid
  simpa [isScalar, Nat.isValidChar] using hvalid

theorem toNat_ofNat {c : Nat} (h : isScalar c = true) : (Char.ofNat c).toNat = c := by
  have hvalid : c.isValidChar := by simpa [isScalar, Nat.isValidChar] using h
  rw [Char.ofNat, dif_pos hvalid]
  rfl

theorem isWhole_of_find? {c : Nat} (hhangul : ¬(0xAC00 ≤ c ∧ c ≤ 0xD7A3))
    (h : decompositionTree.find? c = none) : isWhole c = true := by
  have hcode : decomposeCode c = [c] := by
    unfold decomposeCode
    rw [if_neg (by simpa using hhangul), h]
  rw [isWhole, hcode, beq_self_eq_true]

theorem isWhole_letter {c : Nat} (h : 0x1100 ≤ c ∧ c ≤ 0x11C2) : isWhole c = true := by
  refine isWhole_of_find? (by omega) ?_
  cases hfind : decompositionTree.find? c with
  | none => rfl
  | some found =>
    obtain ⟨first, image⟩ := found
    have hmem := RangeTree.mem_of_find?_single hfind
    have houtside := List.all_eq_true.1 decompositions_letters _ hmem
    simp only [Bool.or_eq_true, decide_eq_true_eq] at houtside
    omega

theorem mem_hangulLetters {c d : Nat} (hc : 0xAC00 ≤ c ∧ c ≤ 0xD7A3) (h : d ∈ hangulLetters c) :
    0x1100 ≤ d ∧ d ≤ 0x11C2 := by
  simp only [hangulLetters, List.mem_append, List.mem_cons, List.not_mem_nil, or_false] at h
  obtain (rfl | rfl) | h := h
  · omega
  · omega
  · split at h
    · cases h
    · rw [List.mem_singleton] at h
      omega

theorem decomposeCode_whole {c : Nat} (hc : isScalar c = true) :
    ∀ d ∈ decomposeCode c, isScalar d = true ∧ isWhole d = true := by
  intro d hd
  unfold decomposeCode at hd
  split at hd
  next hhangul =>
    have hletter := mem_hangulLetters (by simpa using hhangul) hd
    refine ⟨?_, isWhole_letter hletter⟩
    simp only [isScalar, Bool.or_eq_true, decide_eq_true_eq]
    omega
  next hhangul =>
    split at hd
    next first image hfind =>
      have hmem := RangeTree.mem_of_find?_single hfind
      have hwhole := List.all_eq_true.1 (List.all_eq_true.1 decompositions_whole _ hmem) d hd
      rwa [Bool.and_eq_true] at hwhole
    next hfind =>
      rw [List.mem_singleton.1 hd]
      exact ⟨hc, isWhole_of_find? (by simpa using hhangul) hfind⟩

theorem mem_runCodes {first last step c : Nat} (hfirst : first ≤ c) (hlast : c ≤ last)
    (hstep : (c - first) % step = 0) : c ∈ runCodes first last step := by
  refine List.mem_range'.2 ⟨(c - first) / step, ?_, ?_⟩
  · exact Nat.lt_succ_of_le (Nat.div_le_div_right (Nat.sub_le_sub_right hlast first))
  · rw [Nat.mul_div_cancel' (Nat.dvd_of_mod_eq_zero hstep)]
    omega

/-- A settled code point folds to itself, or to images. -/
theorem foldCode_settled {c : Nat} (h : isSettled c = true) :
    foldCode c = [c] ∨ foldCode c ≠ [] ∧ ∀ d ∈ foldCode c, isImage d = true := by
  unfold foldCode
  split
  next first image hfind =>
    have hmem := RangeTree.mem_of_find?_single hfind
    have himage := List.all_eq_true.1 foldExpansions_image _ hmem
    simp only [h, Bool.not_true, Bool.or_false, Bool.and_eq_true, Bool.not_eq_true',
      List.isEmpty_eq_false_iff] at himage
    exact .inr ⟨himage.1, List.all_eq_true.1 himage.2⟩
  next =>
    split
    next first step shift hfind =>
      obtain ⟨last, hmem, hfirst, hlast⟩ := RangeTree.mem_of_find? hfind
      obtain ⟨⟨_, _, _, _⟩, hrun, heq⟩ := List.mem_map.1 hmem
      cases heq
      by_cases hstep : (c - first) % step = 0
      · -- the run moves the code point
        have himages := List.all_eq_true.1 foldRuns_image _ hrun
        rw [Bool.and_eq_true] at himages
        have himage := List.all_eq_true.1 himages.2 c (mem_runCodes hfirst hlast hstep)
        rw [h, Bool.not_true, Bool.or_false] at himage
        refine .inr ⟨List.cons_ne_nil _ _, fun d hd => ?_⟩
        rw [List.mem_singleton.1 hd, CaseRun.image, if_pos (beq_iff_eq.2 hstep)]
        exact himage
      · rw [CaseRun.image, if_neg (by simpa using hstep)]
        exact .inl rfl
    next => exact .inl rfl

/-! ## Texts -/

/-- A text that decomposing, dropping marks, trimming and folding leave alone. -/
structure IsNormal (cs : List Char) : Prop where
  folded : ∀ c ∈ cs, isFolded c.toNat = true
  trimmed : trimBlank cs = cs

theorem unmarked_eq (cs : List Char) :
    unmarked cs = (dropMarks (cs.flatMap fun c => decomposeCode c.toNat)).map Char.ofNat := by
  rw [unmarked, decompose, dropMarks_orderMarks, List.flatMap_map]

theorem unmarked_settled {cs : List Char} {c : Char} (h : c ∈ unmarked cs) :
    isSettled c.toNat = true := by
  rw [unmarked_eq] at h
  obtain ⟨code, hcode, rfl⟩ := List.mem_map.1 h
  obtain ⟨hpart, hclass⟩ := List.mem_filter.1 hcode
  obtain ⟨whole, -, hpart⟩ := List.mem_flatMap.1 hpart
  obtain ⟨hscalar, hwhole⟩ := decomposeCode_whole (isScalar_toNat whole) code hpart
  rw [toNat_ofNat hscalar, isSettled, hwhole, hclass, Bool.and_self]

theorem unmarked_of_settled {cs : List Char} (h : ∀ c ∈ cs, isSettled c.toNat = true) :
    unmarked cs = cs := by
  have hwhole : (cs.flatMap fun c => decomposeCode c.toNat) = cs.map Char.toNat := by
    rw [List.flatMap_congr fun c hc => ?_, List.map_eq_flatMap]
    have hc := h c hc
    rw [isSettled, Bool.and_eq_true] at hc
    exact beq_iff_eq.1 hc.1
  have hkept : dropMarks (cs.map Char.toNat) = cs.map Char.toNat := by
    refine List.filter_eq_self.2 fun code hcode => ?_
    obtain ⟨c, hc, rfl⟩ := List.mem_map.1 hcode
    have hc := h c hc
    rw [isSettled, Bool.and_eq_true] at hc
    exact hc.2
  rw [unmarked_eq, hwhole, hkept, List.map_map]
  exact List.map_id'' Char.ofNat_toNat cs

/-- What a character folds to. -/
def foldChar (c : Char) : List Char := (foldCode c.toNat).map Char.ofNat

theorem foldCase_eq (cs : List Char) : foldCase cs = cs.flatMap foldChar := rfl

theorem foldChar_of_isFolded {c : Char} (h : isFolded c.toNat = true) : foldChar c = [c] := by
  rw [isFolded, Bool.and_eq_true, beq_iff_eq] at h
  rw [foldChar, h.2, List.map_singleton, Char.ofNat_toNat]

theorem isImage_iff {c : Nat} :
    isImage c = true ↔ isFolded c = true ∧ isScalar c = true ∧ isBlankCode c = false := by
  simp [isImage, and_assoc]

theorem foldChar_settled {c : Char} (h : isSettled c.toNat = true) :
    foldChar c ≠ [] ∧ ∀ d ∈ foldChar c,
      isFolded d.toNat = true ∧ (isBlank c = false → isBlank d = false) := by
  obtain hself | ⟨hne, himages⟩ := foldCode_settled h
  · have hfolded : isFolded c.toNat = true := by rw [isFolded, h, hself, beq_self_eq_true]; rfl
    rw [foldChar_of_isFolded hfolded]
    refine ⟨List.cons_ne_nil _ _, fun d hd => ?_⟩
    rw [List.mem_singleton.1 hd]
    exact ⟨hfolded, id⟩
  · refine ⟨by simpa [foldChar] using hne, fun d hd => ?_⟩
    obtain ⟨code, hcode, rfl⟩ := List.mem_map.1 hd
    obtain ⟨hfolded, hscalar, hblank⟩ := isImage_iff.1 (himages code hcode)
    rw [isBlank, isBlank, toNat_ofNat hscalar]
    exact ⟨hfolded, fun _ => hblank⟩

/-- A text that begins with a character that stays still does when each is replaced by characters
that stay where it does. -/
theorem dropWhile_flatMap {p : Char → Bool} {f : Char → List Char} {cs : List Char}
    (hne : ∀ c ∈ cs, f c ≠ []) (hstays : ∀ c ∈ cs, p c = false → ∀ d ∈ f c, p d = false)
    (h : cs.dropWhile p = cs) : (cs.flatMap f).dropWhile p = cs.flatMap f := by
  cases cs with
  | nil => rfl
  | cons c rest =>
    have hc : p c = false := by
      simpa using List.dropWhile_eq_self_iff.1 h (Nat.zero_lt_succ _)
    obtain ⟨d, ds, hfold⟩ := List.exists_cons_of_ne_nil (hne c List.mem_cons_self)
    have hd : p d = false := hstays c List.mem_cons_self hc d (hfold ▸ List.mem_cons_self)
    rw [List.flatMap_cons, hfold, List.cons_append, List.dropWhile_cons_of_neg (by simp [hd])]

theorem trimBlank_foldCase {cs : List Char} (hsettled : ∀ c ∈ cs, isSettled c.toNat = true)
    (h : trimBlank cs = cs) : trimBlank (foldCase cs) = foldCase cs := by
  obtain ⟨hleft, hright⟩ := dropWhile_of_stripBoth h
  have hfold := fun c hc => foldChar_settled (hsettled c hc)
  have hreversed : (foldCase cs).reverse.dropWhile isBlank = (foldCase cs).reverse := by
    rw [foldCase_eq, List.reverse_flatMap]
    refine dropWhile_flatMap (fun c hc => ?_) (fun c hc hblank d hd => ?_) hright
    · exact mt List.reverse_eq_nil_iff.1 (hfold c (List.mem_reverse.1 hc)).1
    · exact ((hfold c (List.mem_reverse.1 hc)).2 d (List.mem_reverse.1 hd)).2 hblank
  rw [trimBlank, stripBoth, foldCase_eq,
    dropWhile_flatMap (fun c hc => (hfold c hc).1)
      (fun c hc hblank d hd => ((hfold c hc).2 d hd).2 hblank) hleft,
    ← foldCase_eq, hreversed, List.reverse_reverse]

theorem mem_of_mem_stripBoth {p : Char → Bool} {cs : List Char} {c : Char}
    (h : c ∈ stripBoth p cs) : c ∈ cs := by
  obtain ⟨before, after, hcs, -, -⟩ := exists_margins p cs
  rw [hcs]
  exact List.mem_append_left _ (List.mem_append_right _ h)

theorem isNormal_normalChars (cs : List Char) : IsNormal (normalChars cs) := by
  have hsettled : ∀ c ∈ trimBlank (unmarked cs), isSettled c.toNat = true :=
    fun c hc => unmarked_settled (mem_of_mem_stripBoth hc)
  rw [normalChars_eq]
  refine ⟨fun d hd => ?_, ?_⟩
  · obtain ⟨c, hc, hd⟩ := List.mem_flatMap.1 hd
    exact ((foldChar_settled (hsettled c hc)).2 d hd).1
  · exact trimBlank_foldCase hsettled (stripBoth_stripBoth isBlank (unmarked cs))

theorem normalChars_of_isNormal {cs : List Char} (h : IsNormal cs) : normalChars cs = cs := by
  have hsettled : ∀ c ∈ cs, isSettled c.toNat = true := fun c hc =>
    (Bool.and_eq_true _ _ ▸ h.folded c hc : _ ∧ _).1
  have hfold : foldCase cs = cs := by
    rw [foldCase_eq, List.flatMap_congr fun c hc => foldChar_of_isFolded (h.folded c hc)]
    exact List.flatMap_singleton' cs
  rw [normalChars_eq, unmarked_of_settled hsettled, h.trimmed, hfold]

theorem normalChars_normalChars (cs : List Char) :
    normalChars (normalChars cs) = normalChars cs :=
  normalChars_of_isNormal (isNormal_normalChars cs)

@[simp] theorem normal_normal (s : String) : normal (normal s) = normal s := by
  rw [normal, normal, String.toList_ofList, normalChars_normalChars]

end FrontDesk.Text
