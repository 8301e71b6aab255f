/-
Writing JSON values as text.
-/
import FrontDesk.Json.Readable

namespace FrontDesk.Json

open Number

/-- Floating-point numbers keep a point or an exponent, so that they stay apart from whole ones. -/
def printedFloat : FloatStyle := { listingFloat with infinity := "Infinity", nan := "NaN" }

/-- A character inside a JSON string: quotes, backslashes and controls are escaped. -/
def escapeChar (c : Char) : List Char :=
  if c == '"' then ['\\', '"']
  else if c == '\\' then ['\\', '\\']
  else if c == '\n' then ['\\', 'n']
  else if c == '\r' then ['\\', 'r']
  else if c == '\t' then ['\\', 't']
  else if c.toNat < 0x20 || c.toNat == 0x7F then ['\\', 'u'] ++ Text.hexDigits 4 c.toNat
  else [c]

/-- A JSON string. -/
def printString (s : String) : String :=
  "\"" ++ String.ofList (s.toList.flatMap escapeChar) ++ "\""

mutual

/-- The value as JSON text. -/
def print : Json → String
  | null => "null"
  | bool true => "true"
  | bool false => "false"
  | int n => toString n
  | float x => printedFloat.write x
  | string s => printString s
  | list xs => "[" ++ ",".intercalate (printAll xs) ++ "]"
  | object ms => "\x7b" ++ ",".intercalate (printMembers ms) ++ "\x7d"

/-- The items as JSON text. -/
def printAll : List Json → List String
  | [] => []
  | x :: rest => x.print :: printAll rest

/-- The members as JSON text. -/
def printMembers : List (String × Json) → List String
  | [] => []
  | (k, v) :: rest => (printString k ++ ":" ++ v.print) :: printMembers rest

end

end FrontDesk.Json
