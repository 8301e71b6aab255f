/-
Names of several words: joined by low lines in records, by capitals in what front ends exchange.
-/

namespace FrontDesk.Text

/-- The characters after the first word of a name, every word with a capital. -/
def joinWords : List Char → List Char
  | [] => []
  | '_' :: c :: rest => c.toUpper :: joinWords rest
  | c :: rest => c :: joinWords rest

/-- `is_active` as `isActive`. -/
def camel (name : String) : String := String.ofList (joinWords name.toList)

end FrontDesk.Text
