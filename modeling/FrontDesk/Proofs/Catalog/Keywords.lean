/-
Keywords in texts.

A keyword is looked for in normal form, and the normal form of a text is made from the whole of it:
marks change places, and only the outer blanks are trimmed. Still the normal form of a part stands
in that of the whole (`Text.normalChars_inside`): marks are moved among marks, which are dropped,
and what is trimmed off the whole lies outside of what is left of the part. So a keyword that is
found in a text is found in whatever the text is a part of.
-/
import FrontDesk.Catalog.Selection
import FrontDesk.Proofs.Text.Margins

namespace FrontDesk

namespace Text

variable {p : Char → Bool} {before text after : List Char}

/-! ## Trimming a text with a part that is trimmed -/

theorem dropWhile_before (hne : text ≠ []) (h : text.dropWhile p = text) :
    (before ++ text ++ after).dropWhile p = before.dropWhile p ++ text ++ after := by
  have hcut : (text ++ after).dropWhile p = text ++ after := by
    rw [List.dropWhile_append, h, if_neg (by simpa using hne)]
  rw [List.append_assoc, List.append_assoc, List.dropWhile_append, hcut]
  split
  next hnone => rw [List.isEmpty_iff.1 hnone, List.nil_append]
  next => rfl

theorem stripBoth_inside (hne : text ≠ []) (h : stripBoth p text = text) :
    text <:+: stripBoth p (before ++ text ++ after) := by
  obtain ⟨hleft, hright⟩ := dropWhile_of_stripBoth h
  refine ⟨before.dropWhile p, (after.reverse.dropWhile p).reverse, ?_⟩
  rw [stripBoth, dropWhile_before hne hleft, List.reverse_append, List.reverse_append,
    ← List.append_assoc, dropWhile_before (by simpa using hne) hright]
  simp only [List.reverse_append, List.reverse_reverse, List.append_assoc]

/-! ## The normal form of a part -/

theorem occursIn_iff {needle cs : List Char} : occursIn needle cs = true ↔ needle <:+: cs := by
  induction cs with
  | nil => rw [occursIn, List.isEmpty_iff, List.infix_nil]
  | cons c rest ih =>
    rw [occursIn, Bool.or_eq_true, ih, List.isPrefixOf_iff_prefix, List.infix_cons_iff]

theorem foldCase_inside {cs ds : List Char} (h : cs <:+: ds) : foldCase cs <:+: foldCase ds := by
  obtain ⟨before, after, rfl⟩ := h
  exact ⟨foldCase before, foldCase after, by simp only [foldCase, List.flatMap_append]⟩

/-- The normal form of a part of a text stands in the normal form of the text. -/
theorem normalChars_inside (before text after : List Char) :
    normalChars text <:+: normalChars (before ++ text ++ after) := by
  rw [normalChars_eq, normalChars_eq]
  refine foldCase_inside ?_
  by_cases hne : trimBlank (unmarked text) = []
  · rw [hne]
    exact List.nil_infix
  · -- what is left of the part, and what was taken off it as the part of what is around it
    obtain ⟨left, right, hsplit, -, -⟩ := exists_margins isBlank (unmarked text)
    have hwhole : unmarked (before ++ text ++ after) =
        (unmarked before ++ left) ++ trimBlank (unmarked text) ++ (right ++ unmarked after) := by
      rw [unmarked_append, unmarked_append]
      conv => lhs; rw [hsplit]
      simp only [trimBlank, List.append_assoc]
    rw [hwhole]
    exact stripBoth_inside hne (stripBoth_stripBoth isBlank (unmarked text))

end Text

/-! ## Keywords -/

open Text

theorem keywordOccurs_iff {text keyword : String} :
    keywordOccurs text keyword = true ↔
      normal keyword ≠ "" ∧ normalChars keyword.toList <:+: normalChars text.toList := by
  have hempty : normalChars keyword.toList = [] ↔ normal keyword = "" := by
    rw [normal, String.ofList_eq_empty_iff]
  simp only [keywordOccurs, Bool.and_eq_true, Bool.not_eq_true', occursIn_iff,
    List.isEmpty_eq_false_iff, ne_eq, hempty]

theorem keywordOccurs_self {keyword : String} :
    keywordOccurs keyword keyword = true ↔ normal keyword ≠ "" := by
  rw [keywordOccurs_iff]
  exact and_iff_left List.infix_rfl

/-- What is found in a part of a text is found in the text. -/
theorem keywordOccurs_inside {text keyword : String} (h : keywordOccurs text keyword = true)
    (before after : String) : keywordOccurs (before ++ text ++ after) keyword = true := by
  obtain ⟨hne, hinside⟩ := keywordOccurs_iff.1 h
  refine keywordOccurs_iff.2 ⟨hne, hinside.trans ?_⟩
  rw [String.toList_append, String.toList_append]
  exact normalChars_inside before.toList text.toList after.toList

/-- **A keyword that stands in a text is found in it.** Keywords that match a text match every text
that it is a part of, and a keyword matches itself unless its normal form is empty. So a keyword
whose normal form is not empty is found in every text in which it stands as it is written, whatever
stands around it. -/
theorem keywordsOccur_around (ks : List String) (before text after : String) :
    (keywordsOccur ks text = true → keywordsOccur ks (before ++ text ++ after) = true) ∧
      (∀ k, keywordsOccur [k] k = true ↔ normal k ≠ "") ∧
      ∀ k ∈ ks, normal k ≠ "" → keywordsOccur ks (before ++ k ++ after) = true := by
  refine ⟨fun h => ?_, fun k => ?_, fun k hk hne => ?_⟩
  · obtain ⟨k, hk, hfound⟩ := List.any_eq_true.1 h
    exact List.any_eq_true.2 ⟨k, hk, keywordOccurs_inside hfound before after⟩
  · rw [keywordsOccur, List.any_cons, List.any_nil, Bool.or_false]
    exact keywordOccurs_self
  · exact List.any_eq_true.2
      ⟨k, hk, keywordOccurs_inside (keywordOccurs_self.2 hne) before after⟩

/-- A keyword with a mark and a blank of its own, between two further marks. -/
theorem coffee_around :
    keywordsOccur ["tea", "Café "] "CAFE\u0301" = true ∧
      keywordsOccur ["tea", "Café "] ("no\u0327 " ++ "CAFE\u0301" ++ "\u0323s") = true ∧
      keywordsOccur ["tea", "Café "] ("\u0323" ++ "Café " ++ "\u0301") = true := by
  have hfound : keywordsOccur ["tea", "Café "] "CAFE\u0301" = true := by decide +kernel
  have hne : normal "Café " ≠ "" := by decide +kernel
  obtain ⟨haround, -, -⟩ :=
    keywordsOccur_around ["tea", "Café "] "no\u0327 " "CAFE\u0301" "\u0323s"
  obtain ⟨-, -, hinside⟩ := keywordsOccur_around ["tea", "Café "] "\u0323" "" "\u0301"
  exact ⟨hfound, haround hfound, hinside "Café " (by simp) hne⟩

end FrontDesk
