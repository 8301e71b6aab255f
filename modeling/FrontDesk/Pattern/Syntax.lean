/-
Patterns that authors write to check an answer, as syntax.
-/

namespace FrontDesk.Pattern

/-- What a part of a pattern can switch on or off. -/
structure Flags where
  ignoreCase : Bool := false
  multiline : Bool := false
  dotAll : Bool := false
  verbose : Bool := false
  ascii : Bool := false
  unicode : Bool := false
  template : Bool := false
  deriving DecidableEq, Repr, Inhabited

namespace Flags

/-- What either has. -/
def union (a b : Flags) : Flags :=
  { ignoreCase := a.ignoreCase || b.ignoreCase
    multiline := a.multiline || b.multiline
    dotAll := a.dotAll || b.dotAll
    verbose := a.verbose || b.verbose
    ascii := a.ascii || b.ascii
    unicode := a.unicode || b.unicode
    template := a.template || b.template }

/-- What the first has and the second has not. -/
def without (a b : Flags) : Flags :=
  { ignoreCase := a.ignoreCase && !b.ignoreCase
    multiline := a.multiline && !b.multiline
    dotAll := a.dotAll && !b.dotAll
    verbose := a.verbose && !b.verbose
    ascii := a.ascii && !b.ascii
    unicode := a.unicode && !b.unicode
    template := a.template && !b.template }

/-- Whether nothing is switched. -/
def isNone (a : Flags) : Bool := a == {}

/-- The flags inside a group that adds some and removes others. A character set chosen by the group
replaces the one outside. -/
def inside (outer added removed : Flags) : Flags :=
  let outer :=
    if added.ascii || added.unicode then { outer with ascii := false, unicode := false } else outer
  (outer.union added).without removed

end Flags

/-- Kinds of characters with a name of their own. -/
inductive CharKind where
  | digit
  | space
  | word
  deriving DecidableEq, Repr

/-- A part of a character set. -/
inductive SetItem where
  | code (c : Nat)
  | range (low high : Nat)
  | kind (k : CharKind) (negated : Bool)
  deriving DecidableEq, Repr

/-- Conditions on a place in the text. -/
inductive Anchor where
  | lineStart
  | lineEnd
  | textStart
  | textEnd
  | boundary
  | noBoundary
  deriving DecidableEq, Repr

/-- In which order the numbers of repetitions are tried. -/
inductive RepeatMode where
  /-- Most first. -/
  | greedy
  /-- Fewest first. -/
  | lazy
  /-- As many as possible, and no other number. -/
  | possessive
  deriving DecidableEq, Repr

end FrontDesk.Pattern

namespace FrontDesk

/-- A pattern. -/
inductive Pattern where
  | empty
  | code (c : Nat)
  | notCode (c : Nat)
  | any
  | charSet (negated : Bool) (items : List Pattern.SetItem)
  | anchor (a : Pattern.Anchor)
  | seq (first second : Pattern)
  | alt (first second : Pattern)
  | capture (index : Nat) (body : Pattern)
  | flagged (added removed : Pattern.Flags) (body : Pattern)
  | atomic (body : Pattern)
  /-- The text from here on matches, or does not. -/
  | ahead (negated : Bool) (body : Pattern)
  /-- The text of the given length up to here matches, or does not. -/
  | behind (width : Nat) (negated : Bool) (body : Pattern)
  | backref (index : Nat)
  | conditional (index : Nat) (yes no : Pattern)
  | repeated (mode : Pattern.RepeatMode) (min : Nat) (max : Option Nat) (body : Pattern)
  deriving Repr, Inhabited

namespace Pattern

/-- The patterns one after the other. -/
def seqAll : List Pattern → Pattern
  | [] => empty
  | [p] => p
  | p :: rest => seq p (seqAll rest)

/-- Whether the pattern takes exactly one character whatever it is tried on. -/
def isUnit : Pattern → Bool
  | code _ | notCode _ | any | charSet .. => true
  | _ => false

/-- The least and the greatest length of text a pattern can take; none if there is no greatest. -/
abbrev Width := Nat × Option Nat

/-- A greatest length taken a number of times. -/
def Width.times : Option Nat → Option Nat → Option Nat
  | some 0, _ => some 0
  | _, some 0 => some 0
  | some n, some k => some (n * k)
  | _, _ => none

/-- The lengths of two texts one after the other. -/
def Width.append (a b : Width) : Width := (a.1 + b.1, do return (← a.2) + (← b.2))

/-- The lengths of either of two texts. -/
def Width.either (a b : Width) : Width := (min a.1 b.1, do return max (← a.2) (← b.2))

/-- The width of a pattern, those of the groups it may refer to being given. -/
def width (groups : Array (Option Width)) : Pattern → Width
  | code _ | notCode _ | any | charSet .. => (1, some 1)
  | empty | anchor _ | ahead .. | behind .. => (0, some 0)
  | seq p q => (p.width groups).append (q.width groups)
  | alt p q | conditional _ p q => (p.width groups).either (q.width groups)
  | capture _ p | flagged _ _ p | atomic p => p.width groups
  | backref i => (groups.getD i none).getD (0, some 0)
  | repeated _ lo hi p =>
    let (a, b) := p.width groups
    (a * lo, Width.times b hi)

end Pattern

end FrontDesk
