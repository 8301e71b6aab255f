/-
Checking the answer to an input.

The rules are tried in a fixed order, and the first that fails decides what is said: an answer is
required, it has a least and a greatest length, it is of a kind, and a pattern is found in it. A
pattern that cannot be read is passed over.
-/
import FrontDesk.Answer.Kind

namespace FrontDesk

/-- A pattern that can neither be used nor be passed over. -/
inductive PatternFault where
  | repetitionTooLarge
  | numberTooLong (digits : Nat)
  | codeTooLarge
  | clashingCharacterSets
  deriving DecidableEq, Repr

/-- The wording of a fault. -/
def PatternFault.message : PatternFault → String
  | repetitionTooLarge => "the repetition number is too large"
  | numberTooLong digits =>
    "Exceeds the limit (" ++ toString Number.maxDigits
      ++ " digits) for integer string conversion: value has " ++ toString digits
      ++ " digits; use sys.set_int_max_str_digits() to increase the limit"
  | codeTooLarge => "the code point is too large"
  | clashingCharacterSets => "ASCII and UNICODE flags are incompatible"

/-- Whether a written pattern is found in the text. -/
def Pattern.foundIn (source text : String) : Except PatternFault Bool :=
  match compile source with
  | .ok p => .ok (p.search text)
  | .error .malformed => .ok true
  | .error .repetitionTooLarge => .error .repetitionTooLarge
  | .error (.numberTooLong n) => .error (.numberTooLong n)
  | .error .codeTooLarge => .error .codeTooLarge
  | .error .clashingCharacterSets => .error .clashingCharacterSets

namespace AnswerRules

/-- A rule an answer has to meet. -/
inductive Rule where
  | required
  | minLength (n : Int)
  | maxLength (n : Int)
  | kind (k : AnswerKind)
  | pattern (source : String)
  deriving DecidableEq, Repr

namespace Rule

/-- Whether a trimmed answer meets the rule. -/
def holds (answer : String) : Rule → Except PatternFault Bool
  | required => .ok !answer.isEmpty
  | minLength n => .ok (n ≤ answer.length)
  | maxLength n => .ok ((answer.length : Int) ≤ n)
  | kind k => .ok (k.accepts answer)
  | pattern source => Pattern.foundIn source answer

/-- What is said when the rule fails. -/
def refusal : Rule → String
  | required => "I need this information to continue."
  | minLength n => "Please enter at least " ++ toString n ++ " characters."
  | maxLength n => "Please enter at most " ++ toString n ++ " characters."
  | kind k => k.refusal
  | pattern _ => "The value you entered is not valid."

/-- The first rule of a list that a trimmed answer does not meet. -/
def firstFailing (answer : String) : List Rule → Except PatternFault (Option Rule)
  | [] => .ok none
  | r :: rest => do
    if ← r.holds answer then firstFailing answer rest else return some r

end Rule

/-- The rules that are set, in the order in which they are tried. -/
def inOrder (r : AnswerRules) : List Rule :=
  (r.minLength.map Rule.minLength).toList ++ (r.maxLength.map Rule.maxLength).toList
    ++ (r.kind.map Rule.kind).toList ++ (r.pattern.map Rule.pattern).toList

end AnswerRules

/-- What becomes of an answer. -/
inductive Verdict where
  | accepted
  | rejected (message : String)
  deriving DecidableEq, Repr

namespace Input

open AnswerRules

/-- The rules of an input: an answer is always required. -/
def rulesInOrder (i : Input) : List Rule := .required :: (i.rules.map inOrder).getD []

/-- What is said when a rule fails: the author's message, else the rule's own. -/
def refusal (i : Input) (r : Rule) : String := (i.rules.bind (·.message)).getD r.refusal

/-- Checks an answer. -/
def check (i : Input) (answer : String) : Except PatternFault Verdict := do
  match ← Rule.firstFailing (Text.trim answer) i.rulesInOrder with
  | some r => return .rejected (i.refusal r)
  | none => return .accepted

end Input

end FrontDesk
