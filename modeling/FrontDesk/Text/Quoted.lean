/-
A text between quotes, with what would not be legible escaped.

Single quotes are used unless the text holds one and no double quote. The backslash and the quote
in use are escaped, line ends and tabs have short forms, and other characters that are not
printable are written by their code point.
-/
import FrontDesk.Text.Printable

namespace FrontDesk.Text

/-- The hexadecimal digits of a number, with zeros in front up to the given width. -/
def hexDigits (width n : Nat) : List Char :=
  let ds := Nat.toDigits 16 n
  List.replicate (width - ds.length) '0' ++ ds

namespace Quoted

/-- The quote for a text. -/
def quoteFor (cs : List Char) : Char :=
  if cs.contains '\'' && !cs.contains '"' then '"' else '\''

/-- One character between the given quotes. -/
def escape (quote c : Char) : List Char :=
  if c == quote || c == '\\' then ['\\', c]
  else if c == '\n' then ['\\', 'n']
  else if c == '\r' then ['\\', 'r']
  else if c == '\t' then ['\\', 't']
  else if isPrintable c then [c]
  else if c.toNat < 0x100 then ['\\', 'x'] ++ hexDigits 2 c.toNat
  else if c.toNat < 0x10000 then ['\\', 'u'] ++ hexDigits 4 c.toNat
  else ['\\', 'U'] ++ hexDigits 8 c.toNat

/-- The text between quotes. -/
def encode (cs : List Char) : List Char :=
  let quote := quoteFor cs
  quote :: cs.flatMap (escape quote) ++ [quote]

end Quoted

/-- The text between quotes. -/
def quoted (s : String) : String := String.ofList (Quoted.encode s.toList)

end FrontDesk.Text
