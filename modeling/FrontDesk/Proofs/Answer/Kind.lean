/-
What an answer of a kind looks like, said without patterns.

The patterns for numbers and addresses leave several ways open: digits can be given back, a point
may be any of several, and the end of the pattern also fits before a last new line. Of a text that
is trimmed they say just this: it is a numeral (`IsNumeral`), or an address (`IsAddress`). What is
left of a telephone number once all else is removed from it are its digits, so their number is
told by counting (`length_remove_nonDigit`).
-/
import FrontDesk.Answer.Kind
import FrontDesk.Proofs.Pattern.Language
import FrontDesk.Proofs.Text.Margins

namespace FrontDesk

namespace AnswerKind

open Pattern Text

/-- One digit or more, of any script. -/
def IsDigits (cs : List Char) : Prop := cs ≠ [] ∧ ∀ c ∈ cs, isDecimalDigit c = true

/-- A minus or none, digits, and perhaps a point or a comma with further digits. -/
def IsNumeral (s : String) : Prop :=
  ∃ sign whole part, s.toList = sign ++ whole ++ part ∧ (sign = [] ∨ sign = ['-']) ∧
    IsDigits whole ∧
    (part = [] ∨
      ∃ mark digits, part = mark :: digits ∧ (mark = '.' ∨ mark = ',') ∧ IsDigits digits)

/-- No blanks and one `@`, something before it, and after it a point that is neither the first
character there nor the last. -/
def IsAddress (s : String) : Prop :=
  (∀ c ∈ s.toList, isBlank c = false) ∧
    ∃ user host, s.toList = user ++ '@' :: host ∧ '@' ∉ user ∧ '@' ∉ host ∧ user ≠ [] ∧
      ∃ front back, host = front ++ '.' :: back ∧ front ≠ [] ∧ back ≠ []

/-! ## The parts of the patterns -/

/-- The text of a part, as a pattern sees it. -/
def codes (cs : List Char) : List Nat := cs.map Char.toNat

theorem joined_codes {first second : List Nat → Prop} {cs : List Char} :
    Joined first second (codes cs) ↔
      ∃ before after, cs = before ++ after ∧ first (codes before) ∧ second (codes after) := by
  constructor
  · rintro ⟨before, after, hsplit, hfirst, hsecond⟩
    obtain ⟨before, after, rfl, rfl, rfl⟩ := List.map_eq_append_iff.1 hsplit
    exact ⟨before, after, rfl, hfirst, hsecond⟩
  · rintro ⟨before, after, rfl, hfirst, hsecond⟩
    exact ⟨codes before, codes after, List.map_append, hfirst, hsecond⟩

theorem describes_one {p : Pattern} (h : p.isUnit = true) {cs : List Char} :
    p.Describes {} (codes cs) ↔ ∃ c, cs = [c] ∧ takes {} p c.toNat = true := by
  rw [describes_unit h]
  constructor
  · rintro ⟨code, hcode, htakes⟩
    obtain ⟨c, rfl, rfl⟩ := List.map_eq_singleton_iff.1 hcode
    exact ⟨c, rfl, htakes⟩
  · rintro ⟨c, rfl, htakes⟩
    exact ⟨c.toNat, rfl, htakes⟩

theorem describes_code {c : Char} {cs : List Char} :
    (Pattern.code c.toNat).Describes {} (codes cs) ↔ cs = [c] := by
  rw [describes_one rfl]
  simp [takes, takesCode, Char.toNat_inj]

theorem describes_mark {cs : List Char} :
    (charSet false [.code '.'.toNat, .code ','.toNat]).Describes {} (codes cs) ↔
      ∃ mark, cs = [mark] ∧ (mark = '.' ∨ mark = ',') := by
  have htakes : ∀ c : Char, takes {} (charSet false [.code '.'.toNat, .code ','.toNat]) c.toNat
      = true ↔ c = '.' ∨ c = ',' := fun c => by
    rw [← Char.toNat_inj, ← Char.toNat_inj (d := ',')]
    simp [takes, takesSet, SetItem.holds]
  rw [describes_one rfl]
  simp only [htakes]

theorem describes_oneOrMore {negated : Bool} {items : List SetItem} {cs : List Char} :
    (oneOrMore negated items).Describes {} (codes cs) ↔
      cs ≠ [] ∧ ∀ c ∈ cs, (items.any fun i => i.holds false c.toNat) ≠ negated := by
  have htakes : ∀ c, takes {} (charSet negated items) c = true ↔
      (items.any fun i => i.holds false c) ≠ negated := fun c => by simp [takes, takesSet]
  change Times (fun cs => ∃ c, cs = [c] ∧ takes {} (charSet negated items) c = true) 1 none _ ↔ _
  rw [Reads.times_one]
  simp only [htakes, codes, List.forall_mem_map, List.length_map, Option.mem_def, reduceCtorEq,
    false_imp_iff, implies_true, and_true, Nat.succ_le_iff, List.length_pos_iff]
  exact and_comm

theorem describes_digits {cs : List Char} :
    (oneOrMore false digit).Describes {} (codes cs) ↔ IsDigits cs := by
  simp [describes_oneOrMore, IsDigits, digit, SetItem.holds, CharKind.holds, isDecimalDigit]

theorem describes_inside {cs : List Char} :
    (oneOrMore true separator).Describes {} (codes cs) ↔
      cs ≠ [] ∧ '@' ∉ cs ∧ ∀ c ∈ cs, isBlank c = false := by
  have hcode : ∀ c : Char, c.toNat = '@'.toNat ↔ c = '@' := fun c => Char.toNat_inj
  rw [describes_oneOrMore]
  simp only [separator, List.any_cons, List.any_nil, Bool.or_false, SetItem.holds, CharKind.holds,
    Bool.false_eq_true, if_false, ne_eq, Bool.not_eq_true, Bool.or_eq_false_iff,
    beq_eq_false_iff_ne, hcode, Bool.bne_false]
  refine and_congr_right fun _ =>
    ⟨fun h => ⟨fun hat => (h _ hat).1 rfl, fun c hc => (h c hc).2⟩, ?_⟩
  rintro ⟨hat, hblank⟩ c hc
  exact ⟨fun h => hat (h ▸ hc), hblank c hc⟩

/-! ## The kinds -/

theorem getLast?_trim_ne {s : String} : (trim s).toList.getLast? ≠ some '\n' := fun h =>
  absurd (getLast?_trim h) (by decide)

/-- The pattern for numbers finds numerals. -/
theorem accepts_number (s : String) : accepts (trim s) .number = true ↔ IsNumeral (trim s) := by
  have hplain : ∀ p ∈ [repeated .greedy 0 (some 1) (Pattern.code '-'.toNat), oneOrMore false digit,
      repeated .greedy 0 (some 1)
        (seqAll [charSet false [.code '.'.toNat, .code ','.toNat], oneOrMore false digit])],
      p.isPlain = true := by decide
  have hsearch : accepts (trim s) .number = true ↔
      Joined (Times ((Pattern.code '-'.toNat).Describes {}) 0 (some 1))
        (Joined ((oneOrMore false digit).Describes {})
          (Times (Joined ((charSet false [.code '.'.toNat, .code ','.toNat]).Describes {})
            ((oneOrMore false digit).Describes {})) 0 (some 1)))
        (codes (trim s).toList) := search_line hplain getLast?_trim_ne
  rw [hsearch]
  simp only [joined_codes, Reads.times_optional, describes_code, describes_digits, describes_mark]
  constructor
  · rintro ⟨sign, _, hsplit, hsign, whole, part, rfl, hwhole, hpart⟩
    refine ⟨sign, whole, part, by rw [hsplit, List.append_assoc], by simpa [codes] using hsign,
      hwhole, ?_⟩
    rcases hpart with hnone | ⟨_, digits, rfl, ⟨mark, rfl, hmark⟩, hdigits⟩
    · exact .inl (List.map_eq_nil_iff.1 hnone)
    · exact .inr ⟨mark, digits, rfl, hmark, hdigits⟩
  · rintro ⟨sign, whole, part, hsplit, hsign, hwhole, hpart⟩
    refine ⟨sign, whole ++ part, by rw [hsplit, List.append_assoc], by simpa [codes] using hsign,
      whole, part, rfl, hwhole, ?_⟩
    rcases hpart with rfl | ⟨mark, digits, rfl, hmark, hdigits⟩
    · exact .inl rfl
    · exact .inr ⟨[mark], digits, rfl, ⟨mark, rfl, hmark⟩, hdigits⟩

/-- The pattern for addresses finds addresses. -/
theorem accepts_email (s : String) : accepts (trim s) .email = true ↔ IsAddress (trim s) := by
  have hplain : ∀ p ∈ [oneOrMore true separator, Pattern.code '@'.toNat, oneOrMore true separator,
      Pattern.code '.'.toNat, oneOrMore true separator], p.isPlain = true := by decide
  have hsearch : accepts (trim s) .email = true ↔
      Joined ((oneOrMore true separator).Describes {})
        (Joined ((Pattern.code '@'.toNat).Describes {})
          (Joined ((oneOrMore true separator).Describes {})
            (Joined ((Pattern.code '.'.toNat).Describes {})
              ((oneOrMore true separator).Describes {}))))
        (codes (trim s).toList) := search_line hplain getLast?_trim_ne
  rw [hsearch]
  simp only [joined_codes, describes_code, describes_inside]
  constructor
  · rintro ⟨user, _, hsplit, ⟨huser, hat, hblank⟩, _, _, rfl, rfl, front, _, rfl,
      ⟨hfront, hat', hblank'⟩, _, back, rfl, rfl, hback, hat'', hblank''⟩
    refine ⟨?_, user, front ++ '.' :: back, hsplit, hat, ?_, huser, front, back, rfl, hfront, hback⟩
    · rw [hsplit]
      simp only [List.mem_append, List.mem_cons, List.not_mem_nil, or_false]
      rintro c (hc | rfl | hc | rfl | hc)
      · exact hblank c hc
      · decide
      · exact hblank' c hc
      · decide
      · exact hblank'' c hc
    · simp [hat', hat'']
  · rintro ⟨hblank, user, _, hsplit, hat, hat', huser, front, back, rfl, hfront, hback⟩
    rw [hsplit] at hblank
    simp only [List.mem_append, List.mem_cons, not_or] at hblank hat'
    exact ⟨user, _, hsplit, ⟨huser, hat, fun c hc => hblank c (.inl hc)⟩, ['@'], _, rfl, rfl,
      front, _, rfl, ⟨hfront, hat'.1, fun c hc => hblank c (by simp [hc])⟩, ['.'], back, rfl, rfl,
      hback, hat'.2.2, fun c hc => hblank c (by simp [hc])⟩

theorem takes_nonDigit (c : Char) : takes {} nonDigit c.toNat = !isDecimalDigit c := by
  simp [nonDigit, takes, takesSet, SetItem.holds, CharKind.holds, isDecimalDigit]

theorem length_remove_nonDigit (s : String) :
    (nonDigit.remove s).length = s.toList.countP isDecimalDigit := by
  simp [remove, takes_nonDigit, List.countP_eq_length_filter]

theorem accepts_phone (s : String) :
    accepts s .phone = true ↔
      10 ≤ s.toList.countP isDecimalDigit ∧ s.toList.countP isDecimalDigit ≤ 14 := by
  simp [accepts, length_remove_nonDigit, phoneMinDigits, phoneMaxDigits]

end AnswerKind

end FrontDesk
