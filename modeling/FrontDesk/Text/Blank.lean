/-
Blank characters and trimming.

Blank are the white space characters of Unicode and the four information separators. Trimming
takes them off both ends of a text and leaves the inside alone.
-/

namespace FrontDesk.Text

/-- White space of Unicode, and the information separators U+001C to U+001F. -/
def isBlankCode (c : Nat) : Bool :=
  (0x09 ≤ c && c ≤ 0x0D) || (0x1C ≤ c && c ≤ 0x20) || c == 0x85 || c == 0xA0 || c == 0x1680
    || (0x2000 ≤ c && c ≤ 0x200A) || c == 0x2028 || c == 0x2029 || c == 0x202F || c == 0x205F
    || c == 0x3000

/-- Whether trimming takes the character away. -/
def isBlank (c : Char) : Bool := isBlankCode c.toNat

/-- The characters without those at either end that the predicate picks. -/
def stripBoth (p : Char → Bool) (cs : List Char) : List Char :=
  ((cs.dropWhile p).reverse.dropWhile p).reverse

/-- The characters without blanks at either end. -/
def trimBlank (cs : List Char) : List Char := stripBoth isBlank cs

/-- The text without blanks at either end. -/
def trim (s : String) : String := String.ofList (trimBlank s.toList)

/-- The trimmed text, unless nothing is left of it. -/
def trimmed? (s : String) : Option String :=
  let t := trim s
  if t.isEmpty then none else some t

/-- The text, unless it is empty. -/
def nonempty? (s : String) : Option String := if s.isEmpty then none else some s

end FrontDesk.Text
