/-
Which characters the one-character parts of a pattern take.

When case is ignored the text is taken in lower case, and a part takes what any of its characters
has in common with it: the lower case, or being a variant of it.
-/
import FrontDesk.Pattern.Syntax
import FrontDesk.Text.Blank
import FrontDesk.Text.Case
import FrontDesk.Text.DecimalDigit
import FrontDesk.Text.Word

namespace FrontDesk.Pattern

open Text

/-- Whether the code point is an ASCII letter. -/
def isAsciiLetter (c : Nat) : Bool := (0x41 ≤ c && c ≤ 0x5A) || (0x61 ≤ c && c ≤ 0x7A)

/-- Lower case of ASCII letters alone. -/
def asciiLower (c : Nat) : Nat := if 0x41 ≤ c && c ≤ 0x5A then c + 32 else c

/-- Word characters of ASCII alone. -/
def isAsciiWord (c : Nat) : Bool := isAsciiLetter c || (0x30 ≤ c && c ≤ 0x39) || c == 0x5F

/-- Whether a character is of a kind, in ASCII alone or in all scripts. -/
def CharKind.holds (ascii : Bool) : CharKind → Nat → Bool
  | .digit, c => if ascii then 0x30 ≤ c && c ≤ 0x39 else isDigitCode c
  | .space, c => if ascii then (0x09 ≤ c && c ≤ 0x0D) || c == 0x20 else isBlankCode c
  | .word, c => if ascii then isAsciiWord c else isWordCode c

/-- The lower case that a comparison uses. -/
def lowerIn (ascii : Bool) (c : Nat) : Nat := if ascii then asciiLower c else lowerCode c

/-- Whether case matters for a character in a comparison. -/
def isCasedIn (ascii : Bool) (c : Nat) : Bool := if ascii then isAsciiLetter c else isCasedCode c

/-- Whether the character, whose case is ignored, is the given one. -/
def sameLetter (ascii : Bool) (c ch : Nat) : Bool :=
  if isCasedIn ascii c then
    let low := lowerIn ascii c
    lowerIn ascii ch == low || (!ascii && (variantsOf low).contains (lowerIn ascii ch))
  else ch == c

/-- Whether a pattern's character takes the character. -/
def takesCode (f : Flags) (c ch : Nat) : Bool :=
  if f.ignoreCase then sameLetter f.ascii c ch else ch == c

/-- The last code point whose case is looked up one by one. -/
def lastPlain : Nat := 0xFFFF

/-- The lower case letters a lower case letter is the same as: itself, and those it is a variant
of. -/
def equivalents (ascii : Bool) (c : Nat) : List Nat := if ascii then [c] else c :: variantsOf c

/-- The characters with the given lower case. -/
def sourcesIn (ascii : Bool) (c : Nat) : List Nat :=
  if ascii then
    (if asciiLower c == c then [c] else []) ++ (if 0x61 ≤ c && c ≤ 0x7A then [c - 32] else [])
  else lowerSources c

/-- Whether case matters for some character of the item. -/
def SetItem.isCased (ascii : Bool) : SetItem → Bool
  | .code c => isCasedIn ascii c || lastPlain < c
  | .range a b =>
    lastPlain < b ||
      if ascii then (List.range 52).any fun i =>
          let c := if i < 26 then 0x41 + i else 0x47 + i
          a ≤ c && c ≤ b
      else casedRanges.any fun (c, d) => a ≤ d && c ≤ b
  | .kind .. => false

/-- Whether an item holds a character, case and all. -/
def SetItem.holds (ascii : Bool) : SetItem → Nat → Bool
  | .code c, ch => ch == c
  | .range a b, ch => a ≤ ch && ch ≤ b
  | .kind k negated, ch => k.holds ascii ch != negated

/-- Whether an item holds a character, which is given in lower case, when case is ignored. -/
def SetItem.holdsLower (ascii : Bool) : SetItem → Nat → Bool
  | .code c, ch =>
    let low := lowerIn ascii c
    if lastPlain < low then ch == c else (equivalents ascii ch).contains low
  | .range a b, ch =>
    ((equivalents ascii ch).any fun low =>
      (sourcesIn ascii low).any fun c => a ≤ c && c ≤ min b lastPlain)
    || (lastPlain < b && ((a ≤ ch && ch ≤ b) || (lowerSources ch).any fun c => a ≤ c && c ≤ b))
  | .kind k negated, ch => k.holds ascii ch != negated

/-- Whether a set takes the character. -/
def takesSet (f : Flags) (negated : Bool) (items : List SetItem) (ch : Nat) : Bool :=
  (if f.ignoreCase && items.any (SetItem.isCased f.ascii) then
    items.any fun i => i.holdsLower f.ascii (lowerIn f.ascii ch)
  else items.any fun i => i.holds f.ascii ch) != negated

/-- Whether a part that takes one character takes this one. -/
def takes (f : Flags) : Pattern → Nat → Bool
  | code c, ch => takesCode f c ch
  | notCode c, ch => !takesCode f c ch
  | any, ch => f.dotAll || ch != 0x0A
  | charSet negated items, ch => takesSet f negated items ch
  | _, _ => false

/-- The text without the characters that a part of one character takes. -/
def remove (p : Pattern) (s : String) : String :=
  String.ofList (s.toList.filter fun c => !takes {} p c.toNat)

end FrontDesk.Pattern
