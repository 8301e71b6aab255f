/-
Texts and their normal forms.

Keywords, answers and the names of choices are compared in normal form, and a normal form is its
own (`Text.normal_normal`). So it makes no difference whether a text is given as it stands or in
normal form, be it the message, a keyword, the answer, or a value, a label or a keyword of a
choice: the same keywords are found, and the choice at the same place of the menu is picked.
-/
import FrontDesk.Proofs.Answer.Menu
import FrontDesk.Proofs.Catalog.Keywords
import FrontDesk.Proofs.Text.NormalForm
import Mathlib.Data.List.Forall2

namespace FrontDesk

open Text

/-- The second text is the first as it stands, or the normal form of it. -/
def Text.Reduced (s t : String) : Prop := t = s ∨ t = normal s

theorem Text.Reduced.normal {s t : String} (h : Reduced s t) : normal t = normal s := by
  rcases h with rfl | rfl
  · rfl
  · exact normal_normal s

/-! ## Keywords -/

theorem keywordOccurs_congr {t t' k k' : String} (ht : normal t' = normal t)
    (hk : normal k' = normal k) : keywordOccurs t' k' = keywordOccurs t k := by
  have htext : normalChars t'.toList = normalChars t.toList := String.ofList_injective ht
  have hkeyword : normalChars k'.toList = normalChars k.toList := String.ofList_injective hk
  rw [keywordOccurs, keywordOccurs, htext, hkeyword]

theorem keywordsOccur_reduced {ks ks' : List String} {t t' : String}
    (hks : List.Forall₂ Reduced ks ks') (ht : Reduced t t') :
    keywordsOccur ks' t' = keywordsOccur ks t := by
  unfold keywordsOccur
  induction hks with
  | nil => rw [List.any_nil, List.any_nil]
  | cons hk _ ih => rw [List.any_cons, List.any_cons, keywordOccurs_congr ht.normal hk.normal, ih]

/-! ## Choices -/

/-- The names of the second choice are those of the first, each as it stands or reduced. -/
structure Choice.Reduced (c d : Choice) : Prop where
  value : Text.Reduced c.value d.value
  label : Option.Rel Text.Reduced c.label d.label
  keywords : List.Forall₂ Text.Reduced c.keywords d.keywords
  next : d.next = c.next
  storeValue : d.storeValue = c.storeValue

/-- The second question is the first with names of its choices reduced. -/
structure Question.Reduced (q r : Question) : Prop where
  choices : List.Forall₂ Choice.Reduced q.choices r.choices
  rest : r = { q with choices := r.choices }

/-- Two choices go by the same names, in normal form. -/
def Choice.SameNames (c d : Choice) : Prop :=
  ∀ position form, d.GoesBy position form ↔ c.GoesBy position form

namespace Choice

variable {c d : Choice}

theorem goesBy_split {position : Nat} {form : String} :
    c.GoesBy position form ↔
      normal c.value = form ∨ (∃ label, c.label = some label ∧ normal label = form) ∨
        (∃ k ∈ c.keywords, normal k = form) ∨ normal (toString position) = form := by
  unfold GoesBy
  constructor
  · rintro ⟨name, rfl | hlabel | hkeyword | rfl, hform⟩
    · exact .inl hform
    · exact .inr (.inl ⟨name, hlabel, hform⟩)
    · exact .inr (.inr (.inl ⟨name, hkeyword, hform⟩))
    · exact .inr (.inr (.inr hform))
  · rintro (hform | ⟨label, hlabel, hform⟩ | ⟨k, hk, hform⟩ | hform)
    · exact ⟨c.value, .inl rfl, hform⟩
    · exact ⟨label, .inr (.inl hlabel), hform⟩
    · exact ⟨k, .inr (.inr (.inl hk)), hform⟩
    · exact ⟨toString position, .inr (.inr (.inr rfl)), hform⟩

theorem label_reduced {l l' : Option String} (h : Option.Rel Text.Reduced l l') (form : String) :
    (∃ label, l' = some label ∧ normal label = form) ↔
      ∃ label, l = some label ∧ normal label = form := by
  cases h with
  | none => rfl
  | some hlabel => simp [hlabel.normal]

theorem keywords_reduced {ks ks' : List String} (h : List.Forall₂ Text.Reduced ks ks')
    (form : String) : (∃ k ∈ ks', normal k = form) ↔ ∃ k ∈ ks, normal k = form := by
  induction h with
  | nil => rfl
  | cons hk _ ih => simp only [List.exists_mem_cons_iff, hk.normal, ih]

theorem Reduced.sameNames (h : c.Reduced d) : c.SameNames d := by
  intro position form
  rw [goesBy_split, goesBy_split, h.value.normal, label_reduced h.label,
    keywords_reduced h.keywords]

variable {cs ds : List Choice} {form : String} {position k : Nat}

/-- In menus whose choices go by the same names, the first that goes by one has the same place. -/
theorem isFirst_congr (h : List.Forall₂ SameNames cs ds) :
    (∃ d, IsFirst form position ds k d) ↔ ∃ c, IsFirst form position cs k c := by
  induction h generalizing position k with
  | nil =>
    constructor
    · exact fun ⟨_, hfirst⟩ => nomatch hfirst.stands
    · exact fun ⟨_, hfirst⟩ => nomatch hfirst.stands
  | @cons c d cs ds hnames _ ih =>
    by_cases hc : c.GoesBy position form
    · have hd := (hnames position form).2 hc
      constructor
      · rintro ⟨d', hfirst⟩
        obtain ⟨rfl, -⟩ := hfirst.unique (.head hd)
        exact ⟨c, .head hc⟩
      · rintro ⟨c', hfirst⟩
        obtain ⟨rfl, -⟩ := hfirst.unique (.head hc)
        exact ⟨d, .head hd⟩
    · have hd := mt (hnames position form).1 hc
      cases k with
      | zero =>
        -- the first choice of either menu stands there, and does not go by the name
        constructor
        · rintro ⟨d', hfirst⟩
          exact absurd (Option.some.inj hfirst.stands ▸ hfirst.goes) hd
        · rintro ⟨c', hfirst⟩
          exact absurd (Option.some.inj hfirst.stands ▸ hfirst.goes) hc
      | succ k =>
        simp only [← IsFirst.tail hc, ← IsFirst.tail hd]
        exact ih

end Choice

namespace Question

variable {q r : Question} {answer answer' : String}

/-- Nothing comes of the answer to either question, it is taken as it is for both, or it picks the
choice at the same place of both menus. -/
def PicksAlike (q r : Question) (answer answer' : String) : Prop :=
  q.pick answer = none ∧ r.pick answer' = none ∨
    q.pick answer = some (q.pickFree answer) ∧ r.pick answer' = some (r.pickFree answer') ∨
      ∃ k c d, Choice.IsFirst (normal answer) 1 q.choices k c ∧
        Choice.IsFirst (normal answer') 1 r.choices k d ∧
        q.pick answer = some (q.pickChoice c) ∧ r.pick answer' = some (r.pickChoice d)

theorem Reduced.picksAlike (h : q.Reduced r) (hanswer : Text.Reduced answer answer') :
    q.PicksAlike r answer answer' := by
  have hform := hanswer.normal
  have hsame := h.choices.imp fun c d hc => Choice.Reduced.sameNames hc
  by_cases hempty : normal answer = ""
  · exact .inl ⟨pick_eq_none.2 (.inl hempty), pick_eq_none.2 (.inl (hform.trans hempty))⟩
  have hempty' : normal answer' ≠ "" := fun he => hempty (hform.symm.trans he)
  obtain ⟨k, c, hfirst⟩ | hnone := q.first_or_none hempty
  · obtain ⟨d, hfirst'⟩ := (Choice.isFirst_congr hsame).2 ⟨c, hfirst⟩
    rw [← hform] at hfirst'
    exact .inr (.inr ⟨k, c, d, hfirst, hfirst', pick_of_isFirst hempty hfirst,
      pick_of_isFirst hempty' hfirst'⟩)
  · have hnone' : r.NoneGoesBy (normal answer') := by
      obtain ⟨k, d, hfirst⟩ | hnone' := r.first_or_none hempty'
      · rw [hform] at hfirst
        obtain ⟨c, hfirst⟩ := (Choice.isFirst_congr hsame).1 ⟨d, hfirst⟩
        exact absurd hfirst.goes (hnone k c hfirst.stands)
      · exact hnone'
    have hfree : r.allowFreeText = q.allowFreeText := by rw [h.rest]
    rw [PicksAlike, pick_of_noneGoesBy hempty hnone, pick_of_noneGoesBy hempty' hnone', hfree]
    cases q.allowFreeText with
    | false => exact .inl ⟨rfl, rfl⟩
    | true => exact .inr (.inl ⟨rfl, rfl⟩)

end Question

/-- **Normal forms will do.** A normal form is its own normal form. So whatever is compared may as
well be given in normal form: any of the keywords and the message they are looked for in, the
answer to a question, and any of the values, labels and keywords of its choices. The same is found,
and the answer picks the choice at the same place, if it picks any. -/
theorem normal_forms_suffice :
    (∀ s, normal (normal s) = normal s) ∧
      (∀ ks ks' t t', List.Forall₂ Reduced ks ks' → Reduced t t' →
        keywordsOccur ks' t' = keywordsOccur ks t) ∧
      ∀ (q r : Question) (answer answer' : String), q.Reduced r → Reduced answer answer' →
        q.PicksAlike r answer answer' :=
  ⟨normal_normal, fun _ _ _ _ => keywordsOccur_reduced, fun _ _ _ _ h => h.picksAlike⟩

/-- The menu of `Question.sizes` with a label in normal form. -/
def Question.plainSizes : Question :=
  { sizes with choices := [pair, { three with label := some "tres" }] }

/-- A keyword and a label with marks, capitals and blanks, each given in normal form. -/
theorem plainSizes_suffice :
    keywordsOccur ["tea", "cafe"] "um CAFE\u0301" = keywordsOccur ["tea", "Café "] "um CAFE\u0301" ∧
      Question.sizes.PicksAlike Question.plainSizes "TRÊS" "tres" := by
  obtain ⟨-, hkeywords, hpicks⟩ := normal_forms_suffice
  have hcoffee : "cafe" = normal "Café " := by decide +kernel
  have hlabel : "tres" = normal "Três\n" := by decide +kernel
  have hanswer : "tres" = normal "TRÊS" := by decide +kernel
  have hpair : Question.pair.Reduced Question.pair :=
    ⟨.inl rfl, .none, .cons (.inl rfl) .nil, rfl, rfl⟩
  have hthree : Question.three.Reduced { Question.three with label := some "tres" } :=
    ⟨.inl rfl, .some (.inr hlabel), .nil, rfl, rfl⟩
  exact ⟨hkeywords _ _ _ _ (.cons (.inl rfl) (.cons (.inr hcoffee) .nil)) (.inl rfl),
    hpicks Question.sizes Question.plainSizes "TRÊS" "tres"
      ⟨.cons hpair (.cons hthree .nil), rfl⟩ (.inr hanswer)⟩

end FrontDesk
