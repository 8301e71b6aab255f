/-
Settings of a deployment, from named values as an environment has them.

Names are read in any case. A number may have blanks around it, and a whole one a fraction of
zeros.
-/
import FrontDesk.Form
import FrontDesk.Number.Integer
import FrontDesk.Text.Blank
import FrontDesk.Text.Normal

namespace FrontDesk

open Number

/-- The settings. -/
structure Settings where
  databaseUrl : String
  helpdeskUrl : String
  helpdeskToken : Option String
  /-- How many seconds the helpdesk may take to answer. -/
  timeout : Binary64
  maxSteps : Int
  offlineMessage : String
  logLevel : String
  deriving DecidableEq, Repr

namespace Settings

/-! ## Numbers in an environment -/

/-- The text without low lines, unless they come at an end or next to each other. -/
def dropLowLines (cs : List Char) : Option (List Char) :=
  if cs.head? == some '_' || cs.getLast? == some '_' || Text.occursIn ['_', '_'] cs then none
  else some (cs.filter (· != '_'))

/-- The text of a number, without what may stand around it and in it. -/
def bare (s : String) : Option (List Char) := dropLowLines (Text.stripBoth isMargin s.toList)

/-- The digits in front of a text, and the rest. -/
def digits (cs : List Char) : List Char × List Char :=
  (cs.takeWhile Char.isDigit, cs.dropWhile Char.isDigit)

/-- The value of decimal digits. -/
def valueOf (cs : List Char) : Nat := ofDigits (cs.map fun c => c.toNat - '0'.toNat)

/-- The sign in front of a text, and the rest: whether it is a minus. -/
def sign : List Char → Bool × List Char
  | '-' :: rest => (true, rest)
  | '+' :: rest => (false, rest)
  | rest => (false, rest)

/-- A whole number, after which there may be a point and zeros. -/
def readWhole (s : String) : Option Int := do
  let (negative, cs) := sign (← bare s)
  let (ds, rest) := digits cs
  let zeros := match rest with
    | [] => true
    | c :: rest => c == '.' && rest.all (· == '0')
  if ds.isEmpty || !zeros then none else some (Binary64.signed negative (valueOf ds))

/-- A whole number. -/
def whole : Json → Checked Int
  | .string s =>
    match readWhole s with
    | some n => pure n
    | none => .fault .intParsing
  | _ => .fault .intParsing

/-- An exponent, zero if there is none. -/
def readExponent : List Char → Option Int
  | [] => some 0
  | c :: rest =>
    let (negative, cs) := sign rest
    let (ds, rest) := digits cs
    if (c != 'e' && c != 'E') || ds.isEmpty || !rest.isEmpty then none
    else some (Binary64.signed negative (valueOf ds))

/-- The names of numbers that are not finite, in small letters. -/
def notFinite (negative : Bool) : List (String × Binary64) :=
  [("inf", .infinite negative), ("infinity", .infinite negative), ("nan", .nan)]

/-- A floating-point number. -/
def readFloat (s : String) : Option Binary64 := do
  let (negative, cs) := sign (← bare s)
  match (notFinite negative).lookup (String.ofList cs).toLower with
  | some x => some x
  | none =>
    let (before, rest) := digits cs
    let (after, rest) := match rest with
      | '.' :: rest => digits rest
      | rest => ([], rest)
    let exponent ← readExponent rest
    let all := before ++ after
    if all.isEmpty then none
    else some (Binary64.ofDecimal negative (valueOf all) all.length (exponent - after.length))

/-- A floating-point number. -/
def floating : Json → Checked Binary64
  | .string s =>
    match readFloat s with
    | some x => pure x
    | none => .fault .floatParsing
  | _ => .fault .floatParsing

/-! ## The environment -/

/-- The levels a log can have. -/
def logLevels : List String := ["DEBUG", "INFO", "WARNING", "ERROR"]

/-- A level of the log. -/
def level : Json → Checked String
  | .string s => if logLevels.contains s then pure s else .fault .literalValue
  | _ => .fault .literalValue

/-- Where the helpdesk is unless it is said. -/
def defaultHelpdeskUrl : String := "http://localhost:3001/api"

/-- How long the helpdesk may take unless it is said. -/
def defaultTimeout : Binary64 := .ofInt 10

/-- How many nodes a run visits at most unless it is said. -/
def defaultMaxSteps : Int := 50

/-- What is said outside operating hours unless it is said otherwise. -/
def defaultOfflineMessage : String :=
  "We are currently outside our business hours. We will get back to you as soon as possible."

/-- The settings of an environment. -/
def ofEnvironment (environment : Entries Json) : Checked Settings :=
  let named : Entries Json := Entries.ofPairs (environment.map fun (k, v) => (k.toUpper, v))
  Settings.mk
    <$> Form.required named "DATABASE_URL" Form.string
    <*> Form.withDefault named "HELPDESK_API_URL" Form.string defaultHelpdeskUrl
    <*> Form.optional named "HELPDESK_API_TOKEN" Form.string
    <*> Form.withDefault named "HTTP_TIMEOUT_SECONDS" floating defaultTimeout
    <*> Form.withDefault named "CHATBOT_MAX_STEPS" whole defaultMaxSteps
    <*> Form.withDefault named "DEFAULT_OFFLINE_MESSAGE" Form.string defaultOfflineMessage
    <*> Form.withDefault named "LOG_LEVEL" level "INFO"

/-- The settings by name. -/
def toJson (s : Settings) : Json :=
  .object
    [("DATABASE_URL", .string s.databaseUrl),
     ("HELPDESK_API_URL", .string s.helpdeskUrl),
     ("HELPDESK_API_TOKEN", .ofString? s.helpdeskToken),
     ("HTTP_TIMEOUT_SECONDS", .float s.timeout),
     ("CHATBOT_MAX_STEPS", .int s.maxSteps),
     ("DEFAULT_OFFLINE_MESSAGE", .string s.offlineMessage),
     ("LOG_LEVEL", .string s.logLevel)]

end Settings

end FrontDesk
