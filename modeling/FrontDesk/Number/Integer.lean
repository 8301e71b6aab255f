/-
Reading a whole number from text the way people write one: blanks around it, a sign, digits of any
script, and single low lines between digits.
-/
import FrontDesk.Text.Blank
import FrontDesk.Text.DecimalDigit

namespace FrontDesk.Number

open Text

/-- A number is read from at most this many digits. -/
def maxDigits : Nat := 4300

/-- Blanks that may stand around a number: the information separators are not among them. -/
def isMargin (c : Char) : Bool := isBlank c && !(0x1C ≤ c.toNat && c.toNat ≤ 0x1F)

/-- The values of the digits. A low line is read only between two digits; `afterDigit` says
whether the character before was one. -/
def readDigits (afterDigit : Bool) : List Char → Option (List Nat)
  | [] => if afterDigit then some [] else none
  | '_' :: rest => if afterDigit then readDigits false rest else none
  | c :: rest =>
    match digitValue? c.toNat with
    | some d => (readDigits true rest).map (d :: ·)
    | none => none

/-- The number whose decimal digits these are, the most significant first. -/
def ofDigits (ds : List Nat) : Nat := ds.foldl (fun n d => 10 * n + d) 0

/-- A natural number, unless it has too many digits. -/
def readNat? (cs : List Char) : Option Nat := do
  let ds ← readDigits false cs
  if ds.length ≤ maxDigits then some (ofDigits ds) else none

/-- A whole number with an optional sign and margins. -/
def readInt? (s : String) : Option Int :=
  match stripBoth isMargin s.toList with
  | '-' :: rest => (readNat? rest).map fun n => -(n : Int)
  | '+' :: rest => (readNat? rest).map fun n => (n : Int)
  | cs => (readNat? cs).map fun n => (n : Int)

end FrontDesk.Number
