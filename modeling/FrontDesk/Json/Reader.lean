/-
Reading JSON text.

A number with a point or an exponent is read as floating-point, any other as a whole number. The
words `NaN`, `Infinity` and `-Infinity` are read as numbers too. Controls are refused inside
strings, and nothing but blanks may follow the value.
-/
import FrontDesk.Json.Basic
import FrontDesk.Number.Integer

namespace FrontDesk.Json

open Number

/-- Why a text is not read. -/
inductive ReadError where
  | malformed
  /-- A whole number with more digits than are read. -/
  | tooManyDigits
  deriving DecidableEq, Repr

namespace Reader

/-- Blanks between the parts of a value. -/
def isSpace (c : Char) : Bool := c == ' ' || c == '\t' || c == '\n' || c == '\r'

/-- The text from its first part on. -/
def skip (cs : List Char) : List Char := cs.dropWhile isSpace

/-- The value of a hexadecimal digit. -/
def hexValue? (c : Char) : Option Nat :=
  if '0' ≤ c && c ≤ '9' then some (c.toNat - '0'.toNat)
  else if 'a' ≤ c && c ≤ 'f' then some (c.toNat - 'a'.toNat + 10)
  else if 'A' ≤ c && c ≤ 'F' then some (c.toNat - 'A'.toNat + 10)
  else none

/-- Four hexadecimal digits. -/
def hex4? : List Char → Option (Nat × List Char)
  | a :: b :: c :: d :: rest => do
    let a ← hexValue? a
    let b ← hexValue? b
    let c ← hexValue? c
    let d ← hexValue? d
    some (((a * 16 + b) * 16 + c) * 16 + d, rest)
  | _ => none

/-- The short escapes. -/
def shortEscape? : Char → Option Char
  | '"' => some '"'
  | '\\' => some '\\'
  | '/' => some '/'
  | 'b' => some '\x08'
  | 'f' => some '\x0c'
  | 'n' => some '\n'
  | 'r' => some '\r'
  | 't' => some '\t'
  | _ => none

/-- The character of a numeric escape; two halves of a surrogate pair make one character, a half
alone is replaced. -/
def unicodeEscape? (cs : List Char) : Option (Char × List Char) := do
  let (high, rest) ← hex4? cs
  if 0xD800 ≤ high && high < 0xDC00 then
    match rest with
    | '\\' :: 'u' :: rest' =>
      match hex4? rest' with
      | some (low, rest'') =>
        if 0xDC00 ≤ low && low < 0xE000 then
          some (Char.ofNat (0x10000 + (high - 0xD800) * 0x400 + (low - 0xDC00)), rest'')
        else some ('\uFFFD', rest)
      | none => some ('\uFFFD', rest)
    | _ => some ('\uFFFD', rest)
  else if 0xDC00 ≤ high && high < 0xE000 then some ('\uFFFD', rest)
  else some (Char.ofNat high, rest)

/-- The rest of a string whose opening quote has been read; `done` holds its characters so far,
the last one first. -/
def string (done : List Char) : Nat → List Char → Except ReadError (String × List Char)
  | 0, _ => .error .malformed
  | _ + 1, [] => .error .malformed
  | _ + 1, '"' :: rest => .ok (String.ofList done.reverse, rest)
  | fuel + 1, '\\' :: 'u' :: rest =>
    match unicodeEscape? rest with
    | some (c, rest) => string (c :: done) fuel rest
    | none => .error .malformed
  | fuel + 1, '\\' :: c :: rest =>
    match shortEscape? c with
    | some c => string (c :: done) fuel rest
    | none => .error .malformed
  | fuel + 1, c :: rest =>
    if c.toNat < 0x20 || c == '\\' then .error .malformed else string (c :: done) fuel rest

/-- Whether the character is one of the ten digits. -/
def isDigit (c : Char) : Bool := '0' ≤ c && c ≤ '9'

/-- The number a row of digits writes. -/
def digitsValue (cs : List Char) : Nat := ofDigits (cs.map fun c => c.toNat - '0'.toNat)

/-- The digits after a point, if there is a point with digits after it. -/
def fraction? : List Char → Option (List Char × List Char)
  | '.' :: rest =>
    let ds := rest.takeWhile isDigit
    if ds.isEmpty then none else some (ds, rest.dropWhile isDigit)
  | _ => none

/-- The digits of an exponent, with the sign they have. -/
def exponentDigits? (negative : Bool) (cs : List Char) : Option (Int × List Char) :=
  let ds := cs.takeWhile isDigit
  if ds.isEmpty then none
  else some (Binary64.signed negative (digitsValue ds), cs.dropWhile isDigit)

/-- An exponent, if there is one. -/
def exponent? : List Char → Option (Int × List Char)
  | c :: rest =>
    if c == 'e' || c == 'E' then
      match rest with
      | '-' :: ds => exponentDigits? true ds
      | '+' :: ds => exponentDigits? false ds
      | ds => exponentDigits? false ds
    else none
  | [] => none

/-- A number after its sign. -/
def number (negative : Bool) (cs : List Char) : Except ReadError (Json × List Char) :=
  let whole :=
    match cs with
    | '0' :: _ => ['0']
    | cs => cs.takeWhile isDigit
  if whole.isEmpty then .error .malformed
  else
    let rest := cs.drop whole.length
    let (fraction, rest') := (fraction? rest).getD ([], rest)
    match exponent? rest' with
    | some (e, rest'') =>
      let ds := whole ++ fraction
      .ok (.float (.ofDecimal negative (digitsValue ds) ds.length (e - fraction.length)), rest'')
    | none =>
      if fraction.isEmpty then
        if whole.length ≤ maxDigits then
          .ok (.int (Binary64.signed negative (digitsValue whole)), rest)
        else .error .tooManyDigits
      else
        let ds := whole ++ fraction
        .ok (.float (.ofDecimal negative (digitsValue ds) ds.length (-fraction.length)), rest')

/-- Values that are written as a word. -/
def words : List (String × Json) :=
  [("null", .null), ("true", .bool true), ("false", .bool false), ("NaN", .float .nan),
   ("Infinity", .float (.infinite false)), ("-Infinity", .float (.infinite true))]

/-- The text after a word, if it begins with the word. -/
def afterWord? (word : List Char) (cs : List Char) : Option (List Char) :=
  if word.isPrefixOf cs then some (cs.drop word.length) else none

/-- A word or a number. -/
def scalar (cs : List Char) : Except ReadError (Json × List Char) :=
  match words.findSome? fun (w, v) => (afterWord? w.toList cs).map fun rest => (v, rest) with
  | some found => .ok found
  | none =>
    match cs with
    | '-' :: rest => number true rest
    | cs => number false cs

mutual

/-- A value at the front of the text. -/
def value : Nat → List Char → Except ReadError (Json × List Char)
  | 0, _ => .error .malformed
  | fuel + 1, cs =>
    match cs with
    | '"' :: rest => do
      let (s, rest) ← string [] fuel rest
      return (.string s, rest)
    | '[' :: rest =>
      match skip rest with
      | ']' :: rest => .ok (.list [], rest)
      | rest => items [] fuel rest
    | '\x7b' :: rest =>
      match skip rest with
      | '\x7d' :: rest => .ok (.object [], rest)
      | rest => members [] fuel rest
    | cs => scalar cs

/-- The items of a list from here to its closing bracket, `done` being those before. -/
def items (done : List Json) : Nat → List Char → Except ReadError (Json × List Char)
  | 0, _ => .error .malformed
  | fuel + 1, cs => do
    let (v, rest) ← value fuel cs
    match skip rest with
    | ',' :: rest => items (v :: done) fuel (skip rest)
    | ']' :: rest => return (.list (v :: done).reverse, rest)
    | _ => .error .malformed

/-- The members of an object from here to its closing brace, `done` being those before. -/
def members (done : List (String × Json)) : Nat → List Char → Except ReadError (Json × List Char)
  | 0, _ => .error .malformed
  | fuel + 1, cs =>
    match cs with
    | '"' :: rest => do
      let (key, rest) ← string [] fuel rest
      match skip rest with
      | ':' :: rest =>
        let (v, rest) ← value fuel (skip rest)
        match skip rest with
        | ',' :: rest => members ((key, v) :: done) fuel (skip rest)
        | '\x7d' :: rest => return (.ofMembers ((key, v) :: done).reverse, rest)
        | _ => .error .malformed
      | _ => .error .malformed
    | _ => .error .malformed

end

end Reader

/-- Reads a text that holds one value. -/
def parse (s : String) : Except ReadError Json := do
  let cs := Reader.skip s.toList
  let (v, rest) ← Reader.value (2 * cs.length + 2) cs
  if (Reader.skip rest).isEmpty then return v else .error .malformed

end FrontDesk.Json
