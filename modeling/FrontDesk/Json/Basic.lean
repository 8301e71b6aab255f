/-
JSON values as authors and front ends send them.

Whole numbers are exact and kept apart from floating-point ones; the members of an object keep
their order, and a key that comes twice keeps its first place and its last value.
-/
import FrontDesk.Entries
import FrontDesk.Number.Binary64

namespace FrontDesk

open Number

/-- A JSON value. -/
inductive Json where
  | null
  | bool (b : Bool)
  | int (n : Int)
  | float (x : Binary64)
  | string (s : String)
  | list (items : List Json)
  | object (members : List (String × Json))
  deriving Inhabited

namespace Json

/-- An object from members in which a key may come more than once. -/
def ofMembers (members : List (String × Json)) : Json := object (Entries.ofPairs members)

/-- The value of a key of an object. -/
def get? (key : String) : Json → Option Json
  | object members => Entries.find? members key
  | _ => none

/-- The value of a key of an object, null if it is not there. -/
def field (key : String) (v : Json) : Json := (v.get? key).getD null

/-- The string, if the value is one. -/
def string? : Json → Option String
  | string s => some s
  | _ => none

/-- The truth value, if the value is one. -/
def bool? : Json → Option Bool
  | bool b => some b
  | _ => none

/-- The items, if the value is a list; of any other value none. -/
def items : Json → List Json
  | list xs => xs
  | _ => []

/-- The members, if the value is an object. -/
def members? : Json → Option (Entries Json)
  | object ms => some ms
  | _ => none

/-- Whether the value is an object. -/
def isObject : Json → Bool
  | object _ => true
  | _ => false

/-- Whether the value is null. -/
def isNull : Json → Bool
  | null => true
  | _ => false

/-- Whether the value counts as something: not null, false, zero or empty. -/
def isTruthy : Json → Bool
  | null => false
  | bool b => b
  | int n => n != 0
  | float x => !x.isNat 0
  | string s => !s.isEmpty
  | list xs => !xs.isEmpty
  | object ms => !ms.isEmpty

/-- A string, or null. -/
def ofString? : Option String → Json
  | some s => string s
  | none => null

/-- A list of strings. -/
def ofStrings (ss : List String) : Json := list (ss.map string)

/-- A natural number. -/
def nat (n : Nat) : Json := int n

end Json

end FrontDesk
