/-
How far rounding can go.

A fraction that is at most a whole number is rounded to a number that is at most that, as long as
the whole number is small enough to be had exactly (`ofRatio_atMost`): then the fraction is rounded
to a multiple of a power of two that divides it. So it is with products, and with what is rounded to
whole numbers in the end.
-/
import FrontDesk.Number.Binary64
import Mathlib.Algebra.Order.Ring.Int

namespace FrontDesk.Number

namespace Binary64

/-- A finite number, not negative, that is at most the given one. -/
def AtMost (x : Binary64) (k : Nat) : Prop :=
  ∃ m e, x = finite false m e ∧ (ratio m e).1 ≤ k * (ratio m e).2

/-- Up to here a whole number is far from where rounding would pass it. -/
def exactLimit : Nat := 1 <<< 50

variable {num den k : Nat}

theorem roundDiv_le (hden : 0 < den) (h : num ≤ k * den) : roundDiv num den ≤ k := by
  have hsplit := Nat.div_add_mod num den
  have hrest := Nat.mod_lt num hden
  have hquotient : num / den ≤ k := Nat.div_le_of_le_mul (by rwa [Nat.mul_comm])
  -- where nothing is left to go up by, there is no rest
  have hwhole : num / den = k → num % den = 0 := by
    intro hk
    rw [hk, Nat.mul_comm] at hsplit
    omega
  unfold roundDiv
  dsimp only
  split
  · exact hquotient
  · split <;> omega

theorem ratio_pos (m : Nat) (e : Int) : 0 < (ratio m e).2 := by
  cases e with
  | ofNat e => exact Nat.one_pos
  | negSucc e =>
    rw [ratio, Nat.one_shiftLeft]
    exact Nat.two_pow_pos _

theorem signedZero_atMost (k : Nat) : (signedZero false).AtMost k :=
  ⟨0, minExponent, rfl, Nat.zero_le _⟩

theorem log2_lt_of_le (hnum : num ≠ 0) (h : num ≤ k * den) (hk : k < exactLimit) :
    num.log2 < den.log2 + 51 := by
  refine (Nat.log2_lt hnum).2 ?_
  have hden : den < 2 ^ (den.log2 + 1) := Nat.lt_log2_self
  calc
    num ≤ k * den := h
    _ ≤ k * 2 ^ (den.log2 + 1) := Nat.mul_le_mul_left _ hden.le
    _ < exactLimit * 2 ^ (den.log2 + 1) :=
      Nat.mul_lt_mul_of_pos_right hk (Nat.two_pow_pos _)
    _ = 2 ^ (den.log2 + 51) := by
      rw [exactLimit, Nat.one_shiftLeft, ← Nat.pow_add]
      congr 1
      omega

/-- A small fraction is rounded to a multiple of a negative power of two. -/
theorem ofRatio_eq_finite (negative : Bool) (hden : den ≠ 0) (hnum : num ≠ 0)
    (h : num ≤ k * den) (hk : k < exactLimit) :
    ∃ e, ofRatio negative num den =
      if roundDiv (num <<< (e + 1)) den == mantissaLimit then
        finite negative (mantissaLimit / 2) (Int.negSucc e + 1)
      else finite negative (roundDiv (num <<< (e + 1)) den) (Int.negSucc e) := by
  have hlog := log2_lt_of_le hnum h hk
  have hzero : ¬ (num == 0 || den == 0) = true := by simp [hnum, hden]
  unfold ofRatio
  rw [if_neg hzero]
  dsimp only
  generalize hguess : (if (unscale num den (num.log2 - den.log2 - 53)).1 /
      (unscale num den (num.log2 - den.log2 - 53)).2 < mantissaLimit
    then (num.log2 - den.log2 - 53 : Int) else num.log2 - den.log2 - 53 + 1) = guess
  have hnegative : max minExponent guess < 0 := by
    have : guess < 0 := by
      rw [← hguess]
      split <;> omega
    exact max_lt (by decide) this
  obtain ⟨e, he⟩ := Int.eq_negSucc_of_lt_zero hnegative
  rw [he]
  refine ⟨e, ?_⟩
  have hrange : ¬ maxExponent < Int.negSucc e + 1 := by
    rw [maxExponent]
    omega
  have hrange' : ¬ maxExponent < Int.negSucc e := by omega
  by_cases hlimit : (roundDiv (num <<< (e + 1)) den == mantissaLimit) = true
  · simp only [unscale, hlimit, if_true, if_neg hrange]
  · simp only [unscale, hlimit, Bool.false_eq_true, if_false, if_neg hrange']

/-- **A fraction is not rounded past a small whole number.** -/
theorem ofRatio_atMost (hden : 0 < den) (h : num ≤ k * den) (hk : k < exactLimit) :
    (ofRatio false num den).AtMost k := by
  by_cases hnum : num = 0
  · rw [hnum]
    exact signedZero_atMost k
  obtain ⟨e, he⟩ := ofRatio_eq_finite false hden.ne' hnum h hk
  have hmantissa : roundDiv (num <<< (e + 1)) den ≤ k * 2 ^ (e + 1) := by
    refine roundDiv_le hden ?_
    rw [Nat.shiftLeft_eq, Nat.mul_right_comm]
    exact Nat.mul_le_mul_right _ h
  rw [he]
  split
  next hlimit =>
    -- half the mantissa at twice the scale
    rw [beq_iff_eq] at hlimit
    rw [hlimit] at hmantissa
    have hhalf : 2 * (mantissaLimit / 2) = mantissaLimit := by decide
    refine ⟨_, _, rfl, ?_⟩
    cases e with
    | zero =>
      show (mantissaLimit / 2) <<< 0 ≤ k * 1
      rw [Nat.shiftLeft_zero]
      omega
    | succ e =>
      show mantissaLimit / 2 ≤ k * 1 <<< (e + 1)
      rw [Nat.one_shiftLeft]
      rw [Nat.pow_succ, ← Nat.mul_assoc] at hmantissa
      omega
  next =>
    refine ⟨_, _, rfl, ?_⟩
    show roundDiv (num <<< (e + 1)) den ≤ k * 1 <<< (e + 1)
    rwa [Nat.one_shiftLeft]

variable {x : Binary64}

theorem AtMost.mulNat (h : x.AtMost k) (n : Nat) (hk : k * n < exactLimit) :
    (x.mulNat n).AtMost (k * n) := by
  obtain ⟨m, e, rfl, hm⟩ := h
  refine ofRatio_atMost (ratio_pos m e) ?_ hk
  rw [Nat.mul_right_comm]
  exact Nat.mul_le_mul_right n hm

theorem AtMost.round (h : x.AtMost k) : 0 ≤ x.round ∧ x.round ≤ k := by
  obtain ⟨m, e, rfl, hm⟩ := h
  have hround := roundDiv_le (ratio_pos m e) hm
  simp only [Binary64.round, signed, Bool.false_eq_true, if_false]
  omega

end Binary64

end FrontDesk.Number
