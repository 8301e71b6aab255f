/-
The text that stands for a JSON value where a string is wanted: a string for itself, any other
value in the notation of a program listing.
-/
import FrontDesk.Json.Basic
import FrontDesk.Number.Shortest
import FrontDesk.Text.Quoted

namespace FrontDesk.Json

open Number

/-- Exponents are written from 1e+16 on and below 0.0001, with two digits; whole numbers end
in `.0`. -/
def listingFloat : FloatStyle :=
  { smallest := -4
    largest := 16
    wholeSuffix := ".0"
    exponentDigits := 2
    infinity := "inf"
    nan := "nan" }

mutual

/-- The value as it would stand in a program listing. -/
def listing : Json → String
  | null => "None"
  | bool true => "True"
  | bool false => "False"
  | int n => toString n
  | float x => listingFloat.write x
  | string s => Text.quoted s
  | list xs => "[" ++ ", ".intercalate (listings xs) ++ "]"
  | object ms => "\x7b" ++ ", ".intercalate (memberListings ms) ++ "\x7d"

/-- The listings of the items. -/
def listings : List Json → List String
  | [] => []
  | x :: rest => x.listing :: listings rest

/-- The listings of the members, each with its key. -/
def memberListings : List (String × Json) → List String
  | [] => []
  | (k, v) :: rest => (Text.quoted k ++ ": " ++ v.listing) :: memberListings rest

end

/-- The text of a value: a string is its own. -/
def text : Json → String
  | string s => s
  | v => v.listing

/-- The name of the kind of a value. -/
def kindName : Json → String
  | null => "NoneType"
  | bool _ => "bool"
  | int _ => "int"
  | float _ => "float"
  | string _ => "str"
  | list _ => "list"
  | object _ => "dict"

end FrontDesk.Json
