/-
The normal form of a text, in which answers, option labels and keywords are compared.

A text is canonically decomposed, its marks are dropped, blanks are trimmed, and case is folded:
so "sim", "SIM" and "sím" are one.
-/
import FrontDesk.Text.Blank
import FrontDesk.Text.CaseFold
import FrontDesk.Text.Combining
import FrontDesk.Text.Decomposition

namespace FrontDesk.Text

/-- Puts a code point in front of a text that is in canonical order: a mark moves behind the marks
of a lower class that follow it. -/
def insertMark (c : Nat) : List Nat → List Nat
  | [] => [c]
  | d :: rest =>
    if combiningClass d != 0 && combiningClass d < combiningClass c then d :: insertMark c rest
    else c :: d :: rest

/-- Canonical order: marks on one character are sorted by their class, equal classes staying as
they are. -/
def orderMarks : List Nat → List Nat
  | [] => []
  | c :: rest => insertMark c (orderMarks rest)

/-- The canonical decomposition of a text. -/
def decompose (cs : List Nat) : List Nat := orderMarks (cs.flatMap decomposeCode)

/-- The code points that stand on their own. -/
def dropMarks (cs : List Nat) : List Nat := cs.filter fun c => combiningClass c == 0

/-- The normal form of a list of characters. -/
def normalChars (cs : List Char) : List Char :=
  foldCase (trimBlank ((dropMarks (decompose (cs.map Char.toNat))).map Char.ofNat))

/-- The normal form of a text. -/
def normal (s : String) : String := String.ofList (normalChars s.toList)

/-- Whether the characters occur in the text as they stand. -/
def occursIn (needle : List Char) : List Char → Bool
  | [] => needle.isEmpty
  | c :: rest => needle.isPrefixOf (c :: rest) || occursIn needle rest

theorem dropMarks_insertMark (c : Nat) (cs : List Nat) :
    dropMarks (insertMark c cs) = dropMarks (c :: cs) := by
  induction cs with
  | nil => rfl
  | cons d rest ih =>
    rw [insertMark]
    split
    · rename_i h
      have hd : combiningClass d ≠ 0 := by simp_all
      have hc : combiningClass c ≠ 0 := by simp_all; omega
      simp [dropMarks, hd, hc] at ih ⊢
      exact ih
    · rfl

/-- Canonical order moves marks only, so it is not seen once they are dropped. -/
theorem dropMarks_orderMarks (cs : List Nat) : dropMarks (orderMarks cs) = dropMarks cs := by
  induction cs with
  | nil => rfl
  | cons c rest ih =>
    rw [orderMarks, dropMarks_insertMark]
    simp only [dropMarks, List.filter_cons] at ih ⊢
    rw [ih]

end FrontDesk.Text
