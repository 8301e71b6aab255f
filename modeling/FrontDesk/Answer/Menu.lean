/-
Menus: how a question is put, and which choice an answer picks.

The choices are listed under their numbers. An answer picks the first choice that has a name of
the same normal form, the names being its value, its label, its keywords and its number.
-/
import FrontDesk.Graph.Basic
import FrontDesk.Json.Readable
import FrontDesk.Text.Normal

namespace FrontDesk

open Text

namespace Menu

/-- The lines of a menu from the given number on, each ended. -/
def numbered (number : Nat) : List String → String
  | [] => ""
  | item :: rest => toString number ++ ". " ++ item ++ "\n" ++ numbered (number + 1) rest

/-- A content, ended, and the lines of the menu under it. -/
def sheet (content : String) (items : List String) : String := content ++ "\n" ++ numbered 1 items

/-- The text without line ends at its end. -/
def cutEnds (s : String) : String :=
  String.ofList (s.toList.reverse.dropWhile (· == '\n')).reverse

/-- What a sheet shows of an item: its label, if that is anything, else its value. -/
def itemText (v : Json) : String :=
  let label := v.field "label"
  if label.isTruthy then label.text else (v.field "value").text

/-- A sheet filled in from named values. Nothing is filled in for a name that is not given: the
error is that name. -/
def fill (context : Entries Json) : Except String String :=
  match context.find? "content" with
  | none => .error "content"
  | some content =>
    match context.find? "options" with
    | none => .error "options"
    | some options => .ok (sheet content.text (options.items.map itemText))

/-- What is said of a name that is not given. -/
def missingName (name : String) : String := "'" ++ name ++ "' is undefined"

end Menu

/-- What a menu shows of a choice. -/
def Choice.shown (c : Choice) : String := c.label.getD c.value

/-- The names a choice goes by, standing at a position of the menu. -/
def Choice.names (c : Choice) (position : Nat) : List String :=
  ((c.value :: c.label.toList) ++ c.keywords ++ [toString position]).filter (!·.isEmpty)

/-- What comes of an answer to a question. -/
structure Pick where
  /-- Where the conversation goes on. -/
  next : Option String
  /-- What is stored, if anything is. -/
  stored : Option String
  /-- What stands in the history. -/
  captured : String
  /-- Whether the answer is none of the choices. -/
  isFree : Bool
  deriving DecidableEq, Repr

namespace Question

/-- How the question is put. -/
def prompt (q : Question) : String :=
  if q.choices.isEmpty then q.content
  else Menu.cutEnds (Menu.sheet q.content (q.choices.map Choice.shown))

/-- The first choice, from the given position on, with a name of the given normal form. -/
def findChoice (form : String) (position : Nat) : List Choice → Option Choice
  | [] => none
  | c :: rest =>
    if ((c.names position).map normal).contains form then some c
    else findChoice form (position + 1) rest

/-- The pick of a choice. -/
def pickChoice (q : Question) (c : Choice) : Pick :=
  { next := c.next <|> q.next
    stored := some (c.storeValue.getD c.value)
    captured := c.value
    isFree := false }

/-- The pick of an answer that is none of the choices. -/
def pickFree (q : Question) (answer : String) : Pick :=
  { next := q.defaultNext <|> q.next
    stored := if q.storeField.isSome then some answer else none
    captured := answer
    isFree := true }

/-- What an answer picks, if anything. -/
def pick (q : Question) (answer : String) : Option Pick :=
  let form := normal answer
  if form.isEmpty then none
  else
    match findChoice form 1 q.choices with
    | some c => some (q.pickChoice c)
    | none => if q.allowFreeText then some (q.pickFree answer) else none

end Question

end FrontDesk
