/-
Menus and the answers to them.

A menu shows its choices line by line under their numbers (`Question.prompt_eq`), and an answer
picks the first choice that goes by a name of the same normal form, the number being one of its
names (`Question.pick_eq_some`). What is cut off the last line are line ends, which are blanks, and
a number is its own normal form: so what a line shows is an answer that its choice goes by.
-/
import FrontDesk.Answer.Menu
import FrontDesk.Proofs.Text.Margins
import Mathlib.Data.List.Basic

namespace FrontDesk

open Text

namespace Menu

/-! ## Lines -/

/-- The lines of a menu from the given number on. The text on the last one ends where its line ends
do. -/
def lines (number : Nat) : List String → List String
  | [] => []
  | [last] => [toString number ++ ". " ++ cutEnds last]
  | item :: rest => (toString number ++ ". " ++ item) :: lines (number + 1) rest

theorem length_lines (number : Nat) (items : List String) :
    (lines number items).length = items.length := by
  fun_induction lines number items <;> simp_all

theorem getElem?_lines {number k : Nat} {items : List String} {item : String}
    (h : items[k]? = some item) :
    (lines number items)[k]? = some (toString (number + k) ++ ". " ++
      if k + 1 = items.length then cutEnds item else item) := by
  fun_induction lines number items generalizing k with
  | case1 => cases h
  | case2 number last =>
    cases k with
    | zero => simp_all
    | succ k => simp at h
  | case3 number first rest hrest ih =>
    cases k with
    | zero =>
      cases h
      have hmore : rest ≠ [] := fun hnil => hrest hnil
      simp [hmore]
    | succ k =>
      simpa [Nat.add_assoc, Nat.add_comm 1] using ih (k := k) (by simpa using h)

theorem cutEnds_newline (s : String) : cutEnds (s ++ "\n") = cutEnds s := by
  simp [cutEnds]

/-- What comes before a text stays, if it does not end a line. -/
theorem cutEnds_after (before text : String) :
    cutEnds (before ++ ". " ++ text) = before ++ ". " ++ cutEnds text := by
  apply String.toList_injective
  simp only [cutEnds, String.toList_append, List.reverse_append, List.dropWhile_append]
  -- whether anything of the text is left: if not, the cut stops at the blank before it
  split
  next hnone => simp [List.isEmpty_iff.1 hnone]
  next => simp

theorem intercalate_append_cons (sep first second : String) (rest : List String) :
    sep.intercalate ((first ++ sep ++ second) :: rest) =
      sep.intercalate (first :: second :: rest) := by
  cases rest with
  | nil => simp only [String.intercalate_cons_cons, String.intercalate_singleton]
  | cons third rest => simp only [String.intercalate_cons_cons, String.append_assoc]

/-- The sheet, its ends cut, is the content and the lines one after the other. -/
theorem cutEnds_numbered (content : String) (number : Nat) {items : List String} (h : items ≠ []) :
    cutEnds (content ++ "\n" ++ numbered number items) =
      "\n".intercalate (content :: lines number items) := by
  fun_induction lines number items generalizing content with
  | case1 => exact absurd rfl h
  | case2 number last =>
    rw [numbered, numbered, String.append_empty, ← String.append_assoc, cutEnds_newline,
      ← String.append_assoc, ← String.append_assoc, cutEnds_after, String.intercalate_cons_cons,
      String.intercalate_singleton]
    simp only [String.append_assoc]
  | case3 number first rest hrest ih =>
    have hmore : rest ≠ [] := fun hnil => hrest hnil
    -- the first line belongs to the content of the sheet for the rest
    rw [numbered, ← String.append_assoc, ← String.append_assoc, ih _ hmore,
      intercalate_append_cons]

theorem normal_cutEnds (s : String) : normal (cutEnds s) = normal s := by
  have hsplit : s.toList = [] ++ (cutEnds s).toList ++ s.toList.rtakeWhile (· == '\n') := by
    rw [cutEnds, String.toList_ofList, List.nil_append]
    exact (List.rdropWhile_append_rtakeWhile ..).symm
  have hends : ∀ c ∈ s.toList.rtakeWhile (· == '\n'), isBlank c = true := by
    intro c hc
    obtain rfl : c = '\n' := by simpa using List.mem_rtakeWhile_imp hc
    decide
  rw [normal, normal]
  conv => rhs; rw [hsplit]
  rw [normalChars_margins (fun _ hc => absurd hc List.not_mem_nil) hends]

end Menu

/-! ## Numbers as answers -/

/-- Whether a code point is its own normal form: it is not composed of others, it is no mark and no
blank, and its case is not folded. -/
def Text.isPlain (c : Nat) : Bool :=
  decomposeCode c == [c] && combiningClass c == 0 && !isBlankCode c && foldCode c == [c]

theorem Text.normalChars_plain {cs : List Char} (h : ∀ c ∈ cs, isPlain c.toNat = true) :
    normalChars cs = cs := by
  have hplain : ∀ c ∈ cs, decomposeCode c.toNat = [c.toNat] ∧ combiningClass c.toNat = 0 ∧
      isBlankCode c.toNat = false ∧ foldCode c.toNat = [c.toNat] := by
    simpa [isPlain, and_assoc] using h
  have hcodes : (cs.map Char.toNat).flatMap decomposeCode = cs.map Char.toNat := by
    rw [List.flatMap_map, List.flatMap_congr fun c hc => (hplain c hc).1]
    exact List.flatMap_pure_eq_map ..
  have hmarks : dropMarks (cs.map Char.toNat) = cs.map Char.toNat := by
    refine List.filter_eq_self.2 fun code hcode => ?_
    obtain ⟨c, hc, rfl⟩ := List.mem_map.1 hcode
    simp [(hplain c hc).2.1]
  have hunmarked : unmarked cs = cs := by
    rw [unmarked, decompose, dropMarks_orderMarks, hcodes, hmarks, List.map_map]
    exact List.map_id'' (fun c => Char.ofNat_toNat c) cs
  have hstays : ∀ ds : List Char, (∀ c ∈ ds, c ∈ cs) → ds.dropWhile isBlank = ds := by
    intro ds hds
    refine List.dropWhile_eq_self_iff.2 fun hpos => ?_
    rw [isBlank, (hplain _ (hds _ (List.getElem_mem hpos))).2.2.1]
    exact Bool.false_ne_true
  have htrim : trimBlank cs = cs := by
    rw [trimBlank, stripBoth, hstays cs fun _ hc => hc, hstays _ fun _ hc => List.mem_reverse.1 hc,
      List.reverse_reverse]
  have hfold : foldCase cs = cs := by
    rw [foldCase, List.flatMap_congr fun c hc => congrArg _ (hplain c hc).2.2.2]
    simp
  rw [normalChars_eq, hunmarked, htrim, hfold]

theorem Text.isPlain_of_isDigit {c : Char} (h : c.isDigit = true) : isPlain c.toNat = true := by
  have hdigits : (List.range' 48 10).all isPlain = true := by decide +kernel
  have hcode : c.toNat ∈ List.range' 48 10 := by
    simp only [Char.isDigit, Bool.and_eq_true, decide_eq_true_eq, ge_iff_le,
      UInt32.le_iff_toNat_le] at h
    exact List.mem_range'_1.2 ⟨h.1, Nat.lt_succ_of_le h.2⟩
  exact List.all_eq_true.1 hdigits _ hcode

theorem normal_toString_ne (n : Nat) : normal (toString n) ≠ "" := by
  have hdigits : (toString n).toList = Nat.toDigits 10 n := by
    rw [Nat.toString_eq_ofList_toDigits, String.toList_ofList]
  have hplain : ∀ c ∈ Nat.toDigits 10 n, isPlain c.toNat = true := fun c hc =>
    isPlain_of_isDigit (Nat.isDigit_of_mem_toDigits (by omega) (by omega) hc)
  rw [normal, hdigits, ne_eq, String.ofList_eq_empty_iff, normalChars_plain hplain]
  exact Nat.toDigits_ne_nil

/-! ## Picking a choice -/

/-- Whether the choice, standing at a position of the menu, goes by a name of the normal form. Its
names are its value, its label, its keywords and its number. -/
def Choice.GoesBy (c : Choice) (position : Nat) (form : String) : Prop :=
  ∃ name, (name = c.value ∨ c.label = some name ∨ name ∈ c.keywords ∨ name = toString position) ∧
    normal name = form

/-- The choice stands in the menu with so many before it, and is the first that goes by a name of
the normal form. The menu is numbered from the given position on. -/
structure Choice.IsFirst (form : String) (position : Nat) (choices : List Choice) (k : Nat)
    (c : Choice) : Prop where
  stands : choices[k]? = some c
  goes : c.GoesBy (position + k) form
  earlier : ∀ j < k, ∀ d, choices[j]? = some d → ¬d.GoesBy (position + j) form

namespace Choice

/-- The names that are not empty are enough for a normal form that is not. -/
theorem goesBy_iff {form : String} (hform : form ≠ "") (c : Choice) (position : Nat) :
    ((c.names position).map normal).contains form = true ↔ c.GoesBy position form := by
  have hname : ∀ name, normal name = form → name ≠ "" := by
    rintro name hnormal rfl
    exact hform hnormal.symm
  simp only [List.contains_iff_mem, List.mem_map, names, List.mem_filter, List.mem_append,
    List.mem_cons, Option.mem_toList, List.not_mem_nil, or_false, or_assoc, GoesBy]
  refine exists_congr fun name => and_congr_left fun hnormal => and_iff_left ?_
  simpa using hname name hnormal

namespace IsFirst

variable {form : String} {position k : Nat} {choices : List Choice} {c first : Choice}

theorem unique (h : IsFirst form position choices k c) {l : Nat} {d : Choice}
    (h' : IsFirst form position choices l d) : k = l ∧ c = d := by
  obtain rfl : k = l := by
    rcases Nat.lt_trichotomy k l with hless | heq | hmore
    · exact absurd h.goes (h'.earlier k hless c h.stands)
    · exact heq
    · exact absurd h'.goes (h.earlier l hmore d h'.stands)
  exact ⟨rfl, Option.some.inj (h.stands.symm.trans h'.stands)⟩

theorem head (h : first.GoesBy position form) : IsFirst form position (first :: choices) 0 first :=
  ⟨rfl, h, fun _ hj => absurd hj (Nat.not_lt_zero _)⟩

/-- Below a choice that does not go by the name, the numbers are one higher. -/
theorem tail (hfirst : ¬first.GoesBy position form) :
    IsFirst form (position + 1) choices k c ↔
      IsFirst form position (first :: choices) (k + 1) c := by
  have hnumber : ∀ j, position + 1 + j = position + (j + 1) := fun j => by omega
  constructor
  · rintro ⟨hstands, hgoes, hearlier⟩
    refine ⟨hstands, hnumber k ▸ hgoes, fun j hj d hd => ?_⟩
    cases j with
    | zero => exact Option.some.inj hd ▸ hfirst
    | succ j => exact hnumber j ▸ hearlier j (Nat.lt_of_succ_lt_succ hj) d hd
  · rintro ⟨hstands, hgoes, hearlier⟩
    refine ⟨hstands, hnumber k ▸ hgoes, fun j hj d hd => ?_⟩
    exact hnumber j ▸ hearlier (j + 1) (Nat.succ_lt_succ hj) d hd

end IsFirst

end Choice

namespace Question

theorem findChoice_eq_some {form : String} (hform : form ≠ "") {position : Nat}
    {choices : List Choice} {c : Choice} :
    findChoice form position choices = some c ↔
      ∃ k, Choice.IsFirst form position choices k c := by
  fun_induction findChoice form position choices with
  | case1 => simpa using fun k h => nomatch h.stands
  | case2 position first rest hgoes =>
    have hfirst : Choice.IsFirst form position (first :: rest) 0 first :=
      .head ((Choice.goesBy_iff hform _ _).1 hgoes)
    constructor
    · rintro ⟨⟩
      exact ⟨0, hfirst⟩
    · rintro ⟨k, h⟩
      exact congrArg some (hfirst.unique h).2
  | case3 position first rest hgoes ih =>
    have hfirst : ¬first.GoesBy position form := fun h => hgoes ((Choice.goesBy_iff hform _ _).2 h)
    rw [ih]
    constructor
    · rintro ⟨k, h⟩
      exact ⟨k + 1, (Choice.IsFirst.tail hfirst).1 h⟩
    · rintro ⟨k, h⟩
      cases k with
      | zero => exact absurd (Option.some.inj h.stands ▸ h.goes) hfirst
      | succ k => exact ⟨k, (Choice.IsFirst.tail hfirst).2 h⟩

theorem findChoice_eq_none {form : String} (hform : form ≠ "") {position : Nat}
    {choices : List Choice} :
    findChoice form position choices = none ↔
      ∀ k (c : Choice), choices[k]? = some c → ¬c.GoesBy (position + k) form := by
  fun_induction findChoice form position choices with
  | case1 => simp
  | case2 position first rest hgoes =>
    have hfirst := (Choice.goesBy_iff hform _ _).1 hgoes
    simpa using ⟨0, first, rfl, hfirst⟩
  | case3 position first rest hgoes ih =>
    have hfirst : ¬first.GoesBy position form := fun h => hgoes ((Choice.goesBy_iff hform _ _).2 h)
    have hnumber : ∀ k, position + 1 + k = position + (k + 1) := fun k => by omega
    rw [ih]
    constructor
    · intro h k c hc
      cases k with
      | zero => exact Option.some.inj hc ▸ hfirst
      | succ k => exact hnumber k ▸ h k c hc
    · exact fun h k c hc => hnumber k ▸ h (k + 1) c hc

/-- No choice of the menu goes by a name of the normal form. -/
def NoneGoesBy (q : Question) (form : String) : Prop :=
  ∀ k (c : Choice), q.choices[k]? = some c → ¬c.GoesBy (1 + k) form

/-- The text on the line of a choice, which has so many lines above it. What ends the last line is
cut off. -/
def lineText (q : Question) (k : Nat) (c : Choice) : String :=
  if k + 1 = q.choices.length then Menu.cutEnds c.shown else c.shown

/-- A question is put as its content and the numbered lines of its choices. -/
theorem prompt_eq (q : Question) :
    q.prompt = "\n".intercalate (q.content :: Menu.lines 1 (q.choices.map Choice.shown)) := by
  unfold prompt
  split
  next hnone =>
    rw [List.isEmpty_iff.1 hnone, List.map_nil, Menu.lines, String.intercalate_singleton]
  next hsome => exact Menu.cutEnds_numbered _ _ (by simpa using hsome)

theorem normal_lineText (q : Question) (k : Nat) (c : Choice) :
    normal (q.lineText k c) = normal c.shown := by
  unfold lineText
  split
  next => exact Menu.normal_cutEnds c.shown
  next => rfl

theorem goesBy_lineText (q : Question) (k : Nat) (c : Choice) (position : Nat) :
    c.GoesBy position (normal (q.lineText k c)) := by
  refine ⟨c.shown, ?_, (q.normal_lineText k c).symm⟩
  unfold Choice.shown
  cases c.label with
  | none => exact .inl rfl
  | some label => exact .inr (.inl rfl)

theorem first_or_none (q : Question) {form : String} (hform : form ≠ "") :
    (∃ k c, Choice.IsFirst form 1 q.choices k c) ∨ q.NoneGoesBy form := by
  cases hfind : findChoice form 1 q.choices with
  | some c =>
    obtain ⟨k, hfirst⟩ := (findChoice_eq_some hform).1 hfind
    exact .inl ⟨k, c, hfirst⟩
  | none => exact .inr ((findChoice_eq_none hform).1 hfind)

variable {q : Question} {answer : String}

theorem pick_of_isFirst (hform : normal answer ≠ "") {k : Nat} {c : Choice}
    (h : Choice.IsFirst (normal answer) 1 q.choices k c) :
    q.pick answer = some (q.pickChoice c) := by
  simp only [pick, String.isEmpty_iff, hform, if_false, (findChoice_eq_some hform).2 ⟨k, h⟩]

theorem pick_of_noneGoesBy (hform : normal answer ≠ "") (h : q.NoneGoesBy (normal answer)) :
    q.pick answer = if q.allowFreeText then some (q.pickFree answer) else none := by
  simp only [pick, String.isEmpty_iff, hform, if_false, (findChoice_eq_none hform).2 h]

theorem pick_eq_none :
    q.pick answer = none ↔
      normal answer = "" ∨ q.NoneGoesBy (normal answer) ∧ q.allowFreeText = false := by
  by_cases hform : normal answer = ""
  · simp [pick, hform]
  · obtain ⟨k, c, hfirst⟩ | hnone := q.first_or_none hform
    · have hsome : ¬q.NoneGoesBy (normal answer) := fun h => h k c hfirst.stands hfirst.goes
      simp [pick_of_isFirst hform hfirst, hform, hsome]
    · simp [pick_of_noneGoesBy hform hnone, hform, hnone]

theorem pick_eq_some {p : Pick} :
    q.pick answer = some p ↔
      normal answer ≠ "" ∧
        ((∃ k c, Choice.IsFirst (normal answer) 1 q.choices k c ∧ p = q.pickChoice c) ∨
          q.NoneGoesBy (normal answer) ∧ q.allowFreeText = true ∧ p = q.pickFree answer) := by
  by_cases hform : normal answer = ""
  · simp [pick, hform]
  · obtain ⟨k, c, hfirst⟩ | hnone := q.first_or_none hform
    · rw [pick_of_isFirst hform hfirst, Option.some.injEq]
      constructor
      · rintro rfl
        exact ⟨hform, .inl ⟨k, c, hfirst, rfl⟩⟩
      · rintro ⟨-, ⟨l, d, h, rfl⟩ | ⟨hnone, -⟩⟩
        · rw [(hfirst.unique h).2]
        · exact absurd hfirst.goes (hnone k c hfirst.stands)
    · rw [pick_of_noneGoesBy hform hnone]
      constructor
      · intro hp
        cases hfree : q.allowFreeText with
        | false => simp [hfree] at hp
        | true => exact ⟨hform, .inr ⟨hnone, rfl, by simpa [hfree] using hp.symm⟩⟩
      · rintro ⟨-, ⟨l, d, h, -⟩ | ⟨-, hfree, rfl⟩⟩
        · exact absurd h.goes (hnone l d h.stands)
        · rw [if_pos hfree]

/-- **A menu and the answers to it agree.** A question is put as its content and a numbered line for
each choice, with its label or else its value. An answer picks the first choice that has a value, a
label, a keyword or a number of the same normal form; only if there is none it is taken as it is,
where that is allowed; and nothing comes of it if its normal form is empty or neither applies. So
whoever answers with the number of a line, or with what stands on it, gets the choice of that line,
unless an earlier one goes by the same name. -/
theorem menu_agrees (q : Question) :
    (∃ lines, q.prompt = "\n".intercalate (q.content :: lines) ∧
        lines.length = q.choices.length ∧
        ∀ k c, q.choices[k]? = some c →
          lines[k]? = some (toString (1 + k) ++ ". " ++ q.lineText k c)) ∧
      (∀ answer, q.pick answer = none ↔
        normal answer = "" ∨ q.NoneGoesBy (normal answer) ∧ q.allowFreeText = false) ∧
      (∀ answer p, q.pick answer = some p ↔
        normal answer ≠ "" ∧
          ((∃ k c, Choice.IsFirst (normal answer) 1 q.choices k c ∧ p = q.pickChoice c) ∨
            q.NoneGoesBy (normal answer) ∧ q.allowFreeText = true ∧ p = q.pickFree answer)) ∧
      ∀ k c answer, q.choices[k]? = some c →
        answer = toString (1 + k) ∨ answer = q.lineText k c ∧ normal answer ≠ "" →
        (∀ j < k, ∀ d, q.choices[j]? = some d → ¬d.GoesBy (1 + j) (normal answer)) →
        q.pick answer = some (q.pickChoice c) := by
  refine ⟨⟨Menu.lines 1 (q.choices.map Choice.shown), q.prompt_eq, ?_, fun k c hc => ?_⟩,
    fun _ => pick_eq_none, fun _ _ => pick_eq_some, fun k c answer hc hanswer hearlier => ?_⟩
  · rw [Menu.length_lines, List.length_map]
  · have hshown : (q.choices.map Choice.shown)[k]? = some c.shown := by
      rw [List.getElem?_map, hc, Option.map_some]
    rw [Menu.getElem?_lines hshown, List.length_map, lineText]
  · rcases hanswer with rfl | ⟨rfl, hform⟩
    · have hgoes : c.GoesBy (1 + k) (normal (toString (1 + k))) :=
        ⟨_, .inr (.inr (.inr rfl)), rfl⟩
      exact pick_of_isFirst (normal_toString_ne _) ⟨hc, hgoes, hearlier⟩
    · exact pick_of_isFirst hform ⟨hc, q.goesBy_lineText k c _, hearlier⟩

/-- A choice that goes by the number of another. -/
def pair : Choice where
  value := "2"
  label := none
  keywords := ["a pair"]
  next := none
  storeValue := none

/-- A choice whose label ends in a line end. -/
def three : Choice where
  value := "3"
  label := some "Três\n"
  keywords := []
  next := none
  storeValue := some "three"

/-- A menu in which the number of the second choice is the value of the first. -/
def sizes : Question where
  content := "How many?"
  choices := [pair, three]
  next := some "colour"
  defaultNext := none
  storeField := none
  allowFreeText := false
  retryMessage := none

/-- What stands on the second line picks the choice of that line, and its number the one before. -/
theorem sizes_agree :
    sizes.lineText 1 three = "Três" ∧ sizes.pick "Três" = some (sizes.pickChoice three) ∧
      sizes.pick "2" = some (sizes.pickChoice pair) := by
  obtain ⟨-, -, hsome, hline⟩ := menu_agrees sizes
  have htext : sizes.lineText 1 three = "Três" := by decide +kernel
  have hform : normal "Três" ≠ "" := by decide +kernel
  have hearlier : ∀ j < 1, ∀ d, sizes.choices[j]? = some d → ¬d.GoesBy (1 + j) (normal "Três") := by
    intro j hj d hd hgoes
    obtain rfl : j = 0 := by omega
    cases hd
    exact absurd ((Choice.goesBy_iff hform pair 1).2 hgoes) (by decide +kernel)
  have hfirst : Choice.IsFirst (normal "2") 1 sizes.choices 0 pair :=
    ⟨rfl, ⟨"2", .inl rfl, rfl⟩, fun j hj => absurd hj (Nat.not_lt_zero j)⟩
  exact ⟨htext, hline 1 three "Três" rfl (.inr ⟨htext.symm, hform⟩) hearlier,
    (hsome "2" _).2 ⟨normal_toString_ne 2, .inl ⟨0, pair, hfirst, rfl⟩⟩⟩

end Question

end FrontDesk
