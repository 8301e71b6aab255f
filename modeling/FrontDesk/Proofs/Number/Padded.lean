/-
Numbers written with a fixed number of digits.

With zeros in front to a fixed width, texts of numbers are in the order of the numbers
(`padZeros_lt`).
-/
import FrontDesk.Number.Shortest
import Mathlib.Algebra.Ring.Nat
import Mathlib.Data.List.Basic

namespace FrontDesk

namespace Number

/-- The last decimal digits of a number, as many as are wanted. -/
def lastDigits : Nat → Nat → List Char
  | 0, _ => []
  | width + 1, n => lastDigits width (n / 10) ++ [(n % 10).digitChar]

theorem length_lastDigits (width n : Nat) : (lastDigits width n).length = width := by
  induction width generalizing n with
  | zero => rfl
  | succ width ih => rw [lastDigits, List.length_append, ih, List.length_singleton]

theorem lastDigits_zero (width : Nat) : lastDigits width 0 = List.replicate width '0' := by
  induction width with
  | zero => rfl
  | succ width ih =>
    rw [lastDigits, Nat.zero_div, ih, List.replicate_succ']
    rfl

theorem toList_pushn (s : String) (c : Char) (n : Nat) :
    (s.pushn c n).toList = s.toList ++ List.replicate n c := by
  induction n with
  | zero => simp [String.pushn, Nat.repeat]
  | succ n ih =>
    rw [String.pushn] at ih
    rw [String.pushn, Nat.repeat, String.toList_push, ih, List.append_assoc, List.replicate_succ']

theorem toList_padZeros (width : Nat) (s : String) :
    (padZeros width s).toList = List.replicate (width - s.length) '0' ++ s.toList := by
  rw [padZeros, String.toList_append, toList_pushn]
  rfl

theorem width_pos {width n : Nat} (hn : 0 < n) (h : n < 10 ^ width) : 0 < width := by
  cases width with
  | zero => omega
  | succ width => exact Nat.succ_pos width

theorem padZeros_toString {width n : Nat} (hwidth : 0 < width) (h : n < 10 ^ width) :
    (padZeros width (toString n)).toList = lastDigits width n := by
  rw [toList_padZeros, Nat.toString_eq_ofList_toDigits, String.length_ofList, String.toList_ofList]
  induction width generalizing n with
  | zero => omega
  | succ width ih =>
    rw [lastDigits, Nat.toDigits_eq_if (by omega)]
    by_cases hn : n < 10
    · rw [if_pos hn, Nat.div_eq_of_lt hn, Nat.mod_eq_of_lt hn, lastDigits_zero]
      rfl
    · have hrest : n / 10 < 10 ^ width := by
        rw [Nat.pow_succ] at h
        omega
      have hwidth : 0 < width := width_pos (by omega) hrest
      rw [if_neg hn, List.length_append, List.length_singleton, Nat.add_sub_add_right,
        ← List.append_assoc, ih hwidth hrest]

theorem digitChar_lt {a b : Nat} (h : a < b) (hb : b < 10) : a.digitChar < b.digitChar := by
  have ha := Nat.toNat_digitChar_of_lt_ten (Nat.lt_trans h hb)
  have hb := Nat.toNat_digitChar_of_lt_ten hb
  show a.digitChar.toNat < b.digitChar.toNat
  omega

theorem append_lt_append {a b : List Char} (hlength : a.length = b.length) (h : a < b)
    (c d : List Char) : a ++ c < b ++ d := by
  induction a generalizing b with
  | nil =>
    rw [List.eq_nil_of_length_eq_zero hlength.symm] at h
    exact absurd h (List.lt_irrefl _)
  | cons x a ih =>
    cases b with
    | nil => cases hlength
    | cons y b =>
      rw [List.cons_append, List.cons_append, List.cons_lt_cons_iff]
      rcases List.cons_lt_cons_iff.1 h with hxy | ⟨hxy, hab⟩
      · exact .inl hxy
      · exact .inr ⟨hxy, ih (Nat.succ.inj hlength) hab⟩

theorem lastDigits_lt {width n m : Nat} (h : n < m) (hm : m < 10 ^ width) :
    lastDigits width n < lastDigits width m := by
  induction width generalizing n m with
  | zero => omega
  | succ width ih =>
    rw [Nat.pow_succ] at hm
    rw [lastDigits, lastDigits]
    rcases (by omega : n / 10 < m / 10 ∨ n / 10 = m / 10 ∧ n % 10 < m % 10) with hlt | ⟨heq, hlt⟩
    · exact append_lt_append (by rw [length_lastDigits, length_lastDigits])
        (ih hlt (by omega)) _ _
    · rw [heq]
      refine List.append_left_lt (List.cons_lt_cons_iff.2 (.inl (digitChar_lt hlt ?_)))
      omega

/-- **A greater number has a greater text.** -/
theorem padZeros_lt {width n m : Nat} (h : n < m) (hm : m < 10 ^ width) :
    (padZeros width (toString n)).toList < (padZeros width (toString m)).toList := by
  have hwidth : 0 < width := width_pos (Nat.zero_lt_of_lt h) hm
  rw [padZeros_toString hwidth (Nat.lt_trans h hm), padZeros_toString hwidth hm]
  exact lastDigits_lt h hm

theorem length_padZeros {width n : Nat} (hwidth : 0 < width) (h : n < 10 ^ width) :
    (padZeros width (toString n)).toList.length = width := by
  rw [padZeros_toString hwidth h, length_lastDigits]

end Number

end FrontDesk
