/-
Forms: records that come as JSON objects and are checked field by field.

Every field is checked, whatever is wrong with the others, and all complaints are handed back in
the order of the fields, each with the place it is about.
-/
import FrontDesk.Calendar.Moment
import FrontDesk.Json.Basic

namespace FrontDesk

namespace Form

/-- A step on the way to a part of a form. -/
inductive Step where
  | field (name : String)
  | item (index : Nat)
  deriving DecidableEq, Repr

/-- What can be wrong with a part of a form. -/
inductive Fault where
  | missing
  | stringType
  | boolType
  | boolParsing
  | intParsing
  | floatParsing
  | enumValue
  | literalValue
  | listType
  | dictType
  | modelType
  | modelAttributesType
  | momentType
  | momentParsing
  deriving DecidableEq, Repr

/-- The name of a fault. -/
def Fault.name : Fault → String
  | missing => "missing"
  | stringType => "string_type"
  | boolType => "bool_type"
  | boolParsing => "bool_parsing"
  | intParsing => "int_parsing"
  | floatParsing => "float_parsing"
  | enumValue => "enum"
  | literalValue => "literal_error"
  | listType => "list_type"
  | dictType => "dict_type"
  | modelType => "model_type"
  | modelAttributesType => "model_attributes_type"
  | momentType => "datetime_type"
  | momentParsing => "datetime_from_date_parsing"

/-- A fault and where it is. -/
structure Complaint where
  place : List Step
  fault : Fault
  deriving DecidableEq, Repr

/-- The complaint about a part, seen from the form around it. -/
def Complaint.within (step : Step) (c : Complaint) : Complaint :=
  { c with place := step :: c.place }

end Form

/-- A checked form: its value, or all complaints about it. -/
inductive Checked (α : Type) where
  | good (value : α)
  | bad (complaints : List Form.Complaint)

namespace Checked

variable {α β : Type}

/-- Applies a checked function, with the complaints of both sides. -/
def apply : Checked (α → β) → Checked α → Checked β
  | good f, good x => good (f x)
  | good _, bad cs => bad cs
  | bad cs, good _ => bad cs
  | bad cs, bad ds => bad (cs ++ ds)

instance : Applicative Checked where
  pure := good
  seq f x := apply f (x ())

/-- The same check, as part of a form. -/
def within (step : Form.Step) : Checked α → Checked α
  | good x => good x
  | bad cs => bad (cs.map (·.within step))

/-- A single fault. -/
def fault (f : Form.Fault) : Checked α := bad [⟨[], f⟩]

/-- The value or the complaints. -/
def toExcept : Checked α → Except (List Form.Complaint) α
  | good x => .ok x
  | bad cs => .error cs

end Checked

/-- A field of a form that may be left out: `some none` is a null. -/
abbrev Given (α : Type) := Option (Option α)

namespace Form

variable {α : Type}

/-! ## Values -/

/-- A string. -/
def string : Json → Checked String
  | .string s => pure s
  | _ => .fault .stringType

/-- The words for a truth value, in small letters. -/
def boolWords : List (String × Bool) :=
  [("0", false), ("off", false), ("f", false), ("false", false), ("n", false), ("no", false),
   ("1", true), ("on", true), ("t", true), ("true", true), ("y", true), ("yes", true)]

/-- Numbers of this size and beyond are no truth values at all. -/
def wordLimit : Int := 9223372036854775808

/-- A number for a truth value. -/
def boolOfInt (n : Int) : Checked Bool :=
  if n == 0 then pure false
  else if n == 1 then pure true
  else if -wordLimit ≤ n && n < wordLimit then .fault .boolParsing
  else .fault .boolType

/-- A truth value: itself, one of its words in any case, or zero or one. -/
def bool : Json → Checked Bool
  | .bool b => pure b
  | .int n => boolOfInt n
  | .float x =>
    match x.whole? with
    | some n => boolOfInt n
    | none => .fault .boolType
  | .string s =>
    match boolWords.lookup s.toLower with
    | some b => pure b
    | none => .fault .boolParsing
  | _ => .fault .boolType

/-- A moment in ISO 8601. -/
def moment : Json → Checked Calendar.Moment
  | .string s =>
    match Calendar.Moment.parse? s with
    | some m => pure m
    | none => .fault .momentParsing
  | _ => .fault .momentType

/-- An object. -/
def dict : Json → Checked (Entries Json)
  | .object ms => pure ms
  | _ => .fault .dictType

/-- Anything. -/
def any (v : Json) : Checked Json := pure v

/-- The items of a list from an index on. -/
def items (read : Json → Checked α) (index : Nat) : List Json → Checked (List α)
  | [] => pure []
  | v :: rest => List.cons <$> (read v).within (.item index) <*> items read (index + 1) rest

/-- A list. -/
def list (read : Json → Checked α) : Json → Checked (List α)
  | .list xs => items read 0 xs
  | _ => .fault .listType

/-- A value or null. -/
def nullable (read : Json → Checked α) : Json → Checked (Option α)
  | .null => pure none
  | v => some <$> read v

/-! ## Fields -/

variable (form : Entries Json) (name : String) (read : Json → Checked α)

/-- A field that has to be there. -/
def required : Checked α :=
  match form.find? name with
  | some v => (read v).within (.field name)
  | none => (Checked.fault .missing).within (.field name)

/-- A field with a value for when it is left out. -/
def withDefault (default : α) : Checked α :=
  match form.find? name with
  | some v => (read v).within (.field name)
  | none => pure default

/-- A field that is null when it is left out. -/
def optional : Checked (Option α) := withDefault form name (nullable read) none

/-- A field under any of its names, the first that is there, and whether it is there at all. -/
def givenAs : List String → Checked (Given α)
  | [] => pure none
  | name :: others =>
    match form.find? name with
    | some v => some <$> (nullable read v).within (.field name)
    | none => givenAs others

/-- A field that has to be there under one of its names, the first of which it is called by. -/
def requiredAs (called : String) : List String → Checked α
  | [] => (Checked.fault .missing).within (.field called)
  | name :: others =>
    match form.find? name with
    | some v => (read v).within (.field name)
    | none => requiredAs called others

/-- The fields of an object. -/
def fields (refusal : Fault) (read : Entries Json → Checked α) : Json → Checked α
  | .object ms => read ms
  | _ => .fault refusal

end Form

end FrontDesk
