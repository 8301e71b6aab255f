/-
What an answer of a given kind looks like.

Numbers and addresses are described by patterns; a telephone number is told by how many digits it
has, whatever stands between them.
-/
import FrontDesk.Graph.Basic
import FrontDesk.Pattern.Matcher

namespace FrontDesk

namespace AnswerKind

open Pattern

/-- One character or more that the set takes. -/
def oneOrMore (negated : Bool) (items : List SetItem) : Pattern :=
  repeated .greedy 1 none (charSet negated items)

/-- A digit of any script. -/
def digit : List SetItem := [.kind .digit false]

/-- What cannot stand in either part of an address: `@` and blanks. -/
def separator : List SetItem := [.code '@'.toNat, .kind .space false]

/-- A sign or none, digits, and perhaps a point or comma with further digits. -/
def numberPattern : Pattern :=
  seqAll [anchor .lineStart, repeated .greedy 0 (some 1) (code '-'.toNat), oneOrMore false digit,
    repeated .greedy 0 (some 1)
      (seqAll [charSet false [.code '.'.toNat, .code ','.toNat], oneOrMore false digit]),
    anchor .lineEnd]

/-- Something, `@`, something, a point, something. -/
def emailPattern : Pattern :=
  seqAll [anchor .lineStart, oneOrMore true separator, code '@'.toNat, oneOrMore true separator,
    code '.'.toNat, oneOrMore true separator, anchor .lineEnd]

/-- The fewest digits of a telephone number. -/
def phoneMinDigits : Nat := 10

/-- The most digits of a telephone number. -/
def phoneMaxDigits : Nat := 14

/-- A character that is no digit of any script. -/
def nonDigit : Pattern := charSet false [.kind .digit true]

/-- Whether a text without blanks at its ends is of the kind. -/
def accepts (s : String) : AnswerKind → Bool
  | number => Compiled.search ⟨numberPattern, {}, 0⟩ s
  | email => Compiled.search ⟨emailPattern, {}, 0⟩ s
  | phone =>
    let digits := nonDigit.remove s
    phoneMinDigits ≤ digits.length && digits.length ≤ phoneMaxDigits
  | text | freeform => true

/-- What is said when an answer is not of the kind. -/
def refusal : AnswerKind → String
  | number => "This field only accepts numbers."
  | email => "Please enter a valid email address."
  | phone => "Please enter a valid phone number including the area code."
  | text | freeform => ""

end AnswerKind

end FrontDesk
