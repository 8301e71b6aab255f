/-
Matching a pattern against a text, with backtracking.

A pattern is matched in front of a continuation, the rest of the match: where the pattern leaves
several ways open they are tried in order until the continuation succeeds with one.
-/
import FrontDesk.Pattern.CharSet
import FrontDesk.Pattern.Reader

namespace FrontDesk.Pattern

/-- A place in the text and what the groups have captured so far, as start and end. -/
structure Place where
  pos : Nat
  captured : Array (Option (Nat × Nat))

/-- The rest of a match. -/
abbrev Rest := Place → Option Place

variable (text : Array Nat)

/-- Whether the character at a position is a word character; there is none outside the text. -/
def wordAt (f : Flags) (pos : Nat) : Bool :=
  match text[pos]? with
  | some c => CharKind.word.holds f.ascii c
  | none => false

/-- Whether the places before and after a position differ in being a word character. -/
def boundaryAt (f : Flags) (pos : Nat) : Bool :=
  (pos != 0 && wordAt text f (pos - 1)) != wordAt text f pos

/-- Whether a condition holds at a position. -/
def Anchor.holds (f : Flags) (pos : Nat) : Anchor → Bool
  | .textStart => pos == 0
  | .lineStart => pos == 0 || (f.multiline && text[pos - 1]? == some 0x0A)
  | .textEnd => pos == text.size
  | .lineEnd =>
    pos == text.size || (text[pos]? == some 0x0A && (f.multiline || pos + 1 == text.size))
  | .boundary => !text.isEmpty && boundaryAt text f pos
  | .noBoundary => !text.isEmpty && !boundaryAt text f pos

/-- How many characters from a position on, at most `limit`, a one-character part takes. -/
def countTaken (takes : Nat → Bool) (pos : Nat) : Nat → Nat
  | 0 => 0
  | limit + 1 =>
    match text[pos]? with
    | some c => if takes c then countTaken takes (pos + 1) limit + 1 else 0
    | none => 0

/-- Goes on after `lo + n`, `lo + n - 1`, … `lo` characters, the first that succeeds. -/
def fromMost (k : Rest) (here : Place) (lo : Nat) : Nat → Option Place
  | 0 => k { here with pos := here.pos + lo }
  | n + 1 =>
    match k { here with pos := here.pos + lo + (n + 1) } with
    | some r => some r
    | none => fromMost k here lo n

/-- Goes on after `skipped`, `skipped + 1`, … characters, `n` more at most. -/
def fromFewest (k : Rest) (here : Place) (skipped : Nat) : Nat → Option Place
  | 0 => k { here with pos := here.pos + skipped }
  | n + 1 =>
    match k { here with pos := here.pos + skipped } with
    | some r => some r
    | none => fromFewest k here (skipped + 1) n

/-- Repeats a one-character part. -/
def repeatUnit (takes : Nat → Bool) (mode : RepeatMode) (lo : Nat) (hi : Option Nat) (k : Rest)
    (here : Place) : Option Place :=
  let left := text.size - here.pos
  let count := countTaken text takes here.pos (min left (hi.getD left))
  if count < lo then none
  else
    match mode with
    | .greedy => fromMost k here lo (count - lo)
    | .lazy => fromFewest k here lo (count - lo)
    | .possessive => k { here with pos := here.pos + count }

/-- Repeats exactly so many times. -/
def repeatExactly (body : Rest → Rest) (k : Rest) : Nat → Rest
  | 0 => k
  | n + 1 => fun p => body (repeatExactly body k n) p

/-- Repeats as often as allowed, more often before less; a repetition that took nothing is the
last. The fuel exceeds the characters left by two, and every repetition but the first takes one. -/
def repeatMore (body : Rest → Rest) (k : Rest) : Nat → Option Nat → Option Nat → Rest
  | 0, _, _, p => k p
  | fuel + 1, left, last, p =>
    if left == some 0 || last == some p.pos then k p
    else
      match body (repeatMore body k fuel (left.map (· - 1)) (some p.pos)) p with
      | some r => some r
      | none => k p

/-- Repeats as often as allowed, less often before more. -/
def repeatLess (body : Rest → Rest) (k : Rest) : Nat → Option Nat → Option Nat → Rest
  | 0, _, _, p => k p
  | fuel + 1, left, last, p =>
    match k p with
    | some r => some r
    | none =>
      if left == some 0 || last == some p.pos then none
      else body (repeatLess body k fuel (left.map (· - 1)) (some p.pos)) p

/-- Repeats as often as the part succeeds, each repetition being final. -/
def repeatAll (body : Rest → Rest) : Nat → Option Nat → Option Nat → Place → Place
  | 0, _, _, p => p
  | fuel + 1, left, last, p =>
    if left == some 0 || last == some p.pos then p
    else
      match body some p with
      | some q => repeatAll body fuel (left.map (· - 1)) (some p.pos) q
      | none => p

/-- Repeats any part. -/
def repeatBody (body : Rest → Rest) (mode : RepeatMode) (lo : Nat) (hi : Option Nat) (k : Rest) :
    Rest :=
  let fuel := text.size + 2
  let more := hi.map (· - lo)
  match mode with
  | .greedy => repeatExactly body (repeatMore body k fuel more none) lo
  | .lazy => repeatExactly body (repeatLess body k fuel more none) lo
  | .possessive => fun p =>
    match repeatExactly (fun k p => (body some p).bind k) some lo p with
    | some q => k (repeatAll body fuel more none q)
    | none => none

/-- Whether the text from one position on is the same as from another, for so many characters. -/
def sameText (f : Flags) (a b : Nat) : Nat → Bool
  | 0 => true
  | n + 1 =>
    match text[a]?, text[b]? with
    | some c, some d =>
      (if f.ignoreCase then lowerIn f.ascii c == lowerIn f.ascii d else c == d)
        && sameText f (a + 1) (b + 1) n
    | _, _ => false

/-- Matches a pattern in front of a continuation. -/
def run (f : Flags) : Pattern → Rest → Rest
  | empty, k, p => k p
  | anchor a, k, p => if a.holds text f p.pos then k p else none
  | seq a b, k, p => run f a (run f b k) p
  | alt a b, k, p =>
    match run f a k p with
    | some r => some r
    | none => run f b k p
  | capture i body, k, p =>
    let close (q : Place) : Option Place :=
      k { q with captured := q.captured.setIfInBounds i (some (p.pos, q.pos)) }
    run f body close p
  | flagged added removed body, k, p => run (f.inside added removed) body k p
  | atomic body, k, p =>
    match run f body some p with
    | some q => k q
    | none => none
  | ahead negated body, k, p =>
    match run f body some p, negated with
    | some q, false => k { q with pos := p.pos }
    | none, true => k p
    | _, _ => none
  | behind width negated body, k, p =>
    let found := if width ≤ p.pos then run f body some { p with pos := p.pos - width } else none
    match found, negated with
    | some q, false => k { q with pos := p.pos }
    | none, true => k p
    | _, _ => none
  | backref i, k, p =>
    match p.captured.getD i none with
    | some (a, b) =>
      if sameText text f a p.pos (b - a) then k { p with pos := p.pos + (b - a) } else none
    | none => none
  | conditional i yes no, k, p =>
    if (p.captured.getD i none).isSome then run f yes k p else run f no k p
  | repeated mode lo hi body, k, p =>
    if body.isUnit then repeatUnit text (takes f body) mode lo hi k p
    else repeatBody text (run f body) mode lo hi k p
  | p@(code _), k, here => takeOne f p k here
  | p@(notCode _), k, here => takeOne f p k here
  | p@any, k, here => takeOne f p k here
  | p@(charSet ..), k, here => takeOne f p k here
where
  /-- Takes one character. -/
  takeOne (f : Flags) (p : Pattern) (k : Rest) (here : Place) : Option Place :=
    match text[here.pos]? with
    | some c => if takes f p c then k { here with pos := here.pos + 1 } else none
    | none => none

/-- The set that a pattern begins with, if it begins with one, and the flags the set is under. -/
def leadingSet (f : Flags) : Pattern → Option (Flags × Bool × List SetItem)
  | charSet negated items => some (f, negated, items)
  | capture _ p => leadingSet f p
  | flagged added removed p => leadingSet (f.inside added removed) p
  | seq empty q => leadingSet f q
  | seq p _ => leadingSet f p
  | _ => none

namespace Compiled

/-- Whether a search tries a position. Where the pattern begins with a set, the character there has
to be in the set also under the flags of the whole, whatever flags the set itself is under. -/
def tries (c : Compiled) (pos : Nat) : Bool :=
  match leadingSet c.flags c.pattern with
  | some (f, negated, items) =>
    (f.ignoreCase && items.any (SetItem.isCased f.ascii))
      || text[pos]?.any (takesSet { c.flags with ignoreCase := false } negated items)
  | none => true

/-- Whether the pattern matches somewhere in the text. -/
def search (c : Compiled) (s : String) : Bool :=
  let text := (s.toList.map Char.toNat).toArray
  (List.range (text.size + 1)).any fun pos =>
    c.tries text pos
      && (run text c.flags c.pattern some { pos, captured := Array.replicate c.groups none }).isSome

end Compiled

end FrontDesk.Pattern
