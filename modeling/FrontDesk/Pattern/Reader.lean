/-
Reading patterns from text.

A pattern that cannot be read is malformed, whatever is wrong with it; four faults are told apart
because they are not the notation's but a number's or the flags'.
-/
import FrontDesk.Number.Integer
import FrontDesk.Pattern.Syntax
import FrontDesk.Text.Identifier

namespace FrontDesk.Pattern

/-- Why a text is not a pattern. -/
inductive ReadError where
  | malformed
  /-- A number of repetitions beyond what is counted. -/
  | repetitionTooLarge
  /-- A number of repetitions with more digits than are read. -/
  | numberTooLong (digits : Nat)
  /-- A code point beyond the numbers there are for them. -/
  | codeTooLarge
  /-- Two character sets are asked for at once. -/
  | clashingCharacterSets
  deriving DecidableEq, Repr

/-- Numbers of repetitions are below this one. -/
def repetitionLimit : Nat := 4294967295

/-- Numbers that are tried as code points are below this one. -/
def codeLimit : Nat := 2147483648

/-- Numbers of groups that can be asked for are below this one. -/
def groupLimit : Nat := 1073741823

namespace Reader

/-- How far reading has come. -/
structure Progress where
  /-- The text that is left. -/
  rest : List Char
  flags : Flags := {}
  /-- Named groups, the last one first. -/
  names : List (String × Nat) := []
  /-- The widths of the groups from group 0 on; none while a group is open. -/
  groups : Array (Option Width) := #[none]
  /-- Inside a look behind: how many groups there were before it. -/
  groupsBefore : Option Nat := none
  /-- Groups that conditions ask for by number. -/
  asked : List Nat := []
  /-- A look behind has no fixed width. -/
  unfixedBehind : Bool := false
  hasRepetition : Bool := false

/-- Reading steps. -/
abbrev Step := StateT Progress (Except ReadError)

/-- Gives up. -/
def fail {α : Type} : Step α := throw .malformed

/-- A piece of the text: a character, or a backslash with what it escapes. -/
inductive Token where
  | plain (c : Char)
  | escaped (c : Char)
  deriving DecidableEq

/-- The piece at the front. -/
def front : List Char → Option (Token × List Char)
  | [] => none
  | ['\\'] => none
  | '\\' :: c :: rest => some (.escaped c, rest)
  | c :: rest => some (.plain c, rest)

/-- Goes on at the given text. A backslash with nothing to escape is refused when it comes to the
front. -/
def goOn (rest : List Char) : Step Unit := do
  if rest == ['\\'] then fail
  modify fun p => { p with rest }

/-- The next piece, which stays. -/
def peek : Step (Option Token) := do return (front (← get).rest).map (·.1)

/-- The next piece, which is taken. -/
def next : Step (Option Token) := do
  match front (← get).rest with
  | some (t, rest) => goOn rest; return some t
  | none => return none

/-- Takes the character if it comes next. -/
def accept (c : Char) : Step Bool := do
  match (← get).rest with
  | d :: rest => if d == c && d != '\\' then do goOn rest; return true else return false
  | [] => return false

/-- Takes at most so many characters of a kind. -/
def takeUpTo (p : Char → Bool) : Nat → Step (List Char)
  | 0 => return []
  | n + 1 => do
    match (← get).rest with
    | c :: rest =>
      if p c && c != '\\' then do
        goOn rest
        return c :: (← takeUpTo p n)
      else return []
    | [] => return []

/-- Takes everything up to a character and the character; it must not come at once. -/
def takeUntil (last : Char) (done : List Char) : Nat → Step (List Char)
  | 0 => fail
  | fuel + 1 => do
    match ← next with
    | none => fail
    | some (.plain c) =>
      if c == last then (if done.isEmpty then fail else return done.reverse)
      else takeUntil last (c :: done) fuel
    | some (.escaped c) => takeUntil last (c :: '\\' :: done) fuel

/-- Whether the character is one of the ten digits. -/
def isDigit (c : Char) : Bool := '0' ≤ c && c ≤ '9'

/-- Whether the character is one of the eight octal digits. -/
def isOctal (c : Char) : Bool := '0' ≤ c && c ≤ '7'

/-- Whether the character is a hexadecimal digit. -/
def isHex (c : Char) : Bool := isDigit c || ('a' ≤ c && c ≤ 'f') || ('A' ≤ c && c ≤ 'F')

/-- The value of a hexadecimal digit. -/
def hexValue (c : Char) : Nat :=
  if isDigit c then c.toNat - 48 else if 'a' ≤ c then c.toNat - 87 else c.toNat - 55

/-- The number that digits write in a base. -/
def valueIn (base : Nat) (ds : List Char) : Nat := ds.foldl (fun n d => n * base + hexValue d) 0

/-- The greatest code point an octal escape may name. -/
def octalLimit : Nat := 0o377

/-! ## Escapes -/

/-- Escapes that stand for a control or for themselves, in and out of sets. -/
def controlEscape? : Char → Option Nat
  | 'a' => some 7
  | 'b' => some 8
  | 'f' => some 12
  | 'n' => some 10
  | 'r' => some 13
  | 't' => some 9
  | 'v' => some 11
  | '\\' => some 92
  | _ => none

/-- Escapes that stand for a kind of characters. -/
def kindEscape? : Char → Option SetItem
  | 'd' => some (.kind .digit false)
  | 'D' => some (.kind .digit true)
  | 's' => some (.kind .space false)
  | 'S' => some (.kind .space true)
  | 'w' => some (.kind .word false)
  | 'W' => some (.kind .word true)
  | _ => none

/-- Escapes that stand for a condition on the place. -/
def anchorEscape? : Char → Option Anchor
  | 'A' => some .textStart
  | 'Z' => some .textEnd
  | 'b' => some .boundary
  | 'B' => some .noBoundary
  | _ => none

/-- A code point given by exactly so many hexadecimal digits. -/
def hexEscape (digits : Nat) : Step Nat := do
  let ds ← takeUpTo isHex digits
  let n := valueIn 16 ds
  if ds.length != digits then fail
  if codeLimit ≤ n then throw .codeTooLarge
  if n ≤ 0x10FFFF then return n else fail

/-- The code point of an escape that is written the same in and out of sets; the letters left over
mean nothing. -/
def commonEscape (c : Char) : Step Nat := do
  if c == 'x' then hexEscape 2
  else if c == 'u' then hexEscape 4
  else if c == 'U' then hexEscape 8
  else if c.isAlpha then fail
  else return c.toNat

/-- An escape inside a set. -/
def setEscape (c : Char) : Step SetItem := do
  match controlEscape? c, kindEscape? c with
  | some n, _ => return .code n
  | _, some item => return item
  | none, none =>
    if isOctal c then
      let n := valueIn 8 (c :: (← takeUpTo isOctal 2))
      if n ≤ octalLimit then return .code n else fail
    else if isDigit c then fail
    else return .code (← commonEscape c)

/-- The reference to a group, which has to be closed and, inside a look behind, older than it. -/
def checkGroup (index : Nat) : Step Unit := do
  let p ← get
  if (p.groups.getD index none).isNone then fail
  match p.groupsBefore with
  | some n => if n ≤ index then fail
  | none => return

/-- The reference to a group by one or two digits. -/
def groupReference (index : Nat) : Step Pattern := do
  checkGroup index
  return .backref index

/-- An escape of digits: three octal ones name a code point, others a group. -/
def digitEscape (c : Char) : Step Pattern := do
  let more ← takeUpTo isDigit 1
  match more with
  | [d] =>
    if isOctal c && isOctal d then
      match ← takeUpTo isOctal 1 with
      | [e] =>
        let n := valueIn 8 [c, d, e]
        if n ≤ octalLimit then return .code n else fail
      | _ => groupReference (valueIn 10 [c, d])
    else groupReference (valueIn 10 [c, d])
  | _ => groupReference (valueIn 10 [c])

/-- An escape outside of sets. -/
def escape (c : Char) : Step Pattern := do
  match kindEscape? c, anchorEscape? c, controlEscape? c with
  | some item, _, _ => return .charSet false [item]
  | _, some a, _ => return .anchor a
  | _, _, some n => return .code n
  | none, none, none =>
    if c == '0' then return .code (valueIn 8 (← takeUpTo isOctal 2))
    else if isDigit c then digitEscape c
    else return .code (← commonEscape c)

/-! ## Sets -/

/-- One character or kind of a set. -/
def setItem : Token → Step SetItem
  | .plain c => return .code c.toNat
  | .escaped c => setEscape c

/-- The items of a set up to its closing bracket, which counts as a member if it comes first. -/
def setItems (done : List SetItem) : Nat → Step (List SetItem)
  | 0 => fail
  | fuel + 1 => do
    match ← next with
    | none => fail
    | some this =>
      if this == .plain ']' && !done.isEmpty then return done.reverse
      let low ← setItem this
      if ← accept '-' then
        match ← next with
        | none => fail
        | some that =>
          if that == .plain ']' then return (.code '-'.toNat :: low :: done).reverse
          let high ← setItem that
          match low, high with
          | .code a, .code b => if b < a then fail else setItems (.range a b :: done) fuel
          | _, _ => fail
      else setItems (low :: done) fuel

/-- A set after its opening bracket. A set of one character is that character. -/
def characterSet (fuel : Nat) : Step Pattern := do
  let negated ← accept '^'
  let items ← setItems [] fuel
  match items.eraseDups with
  | [.code c] => return if negated then .notCode c else .code c
  | items => return .charSet negated items

/-! ## Repetitions -/

/-- A number of repetitions. -/
def repetitionCount (ds : List Char) : Step Nat := do
  if Number.maxDigits < ds.length then throw (.numberTooLong ds.length)
  let n := valueIn 10 ds
  if repetitionLimit ≤ n then throw .repetitionTooLarge
  return n

/-- The bounds after an opening brace; none if the brace stands for itself, and then nothing is
taken. -/
def bounds? (fuel : Nat) : Step (Option (Nat × Option Nat)) := do
  let start ← get
  if (← peek) == some (.plain '\x7d') then return none
  let lo ← takeUpTo isDigit fuel
  let hi ← if ← accept ',' then takeUpTo isDigit fuel else pure lo
  if !(← accept '\x7d') then
    set start
    return none
  let least ← if lo.isEmpty then pure 0 else repetitionCount lo
  if hi.isEmpty then return some (least, none)
  let most ← repetitionCount hi
  if most < least then fail
  return some (least, some most)

/-- What a repetition cannot follow. -/
inductive ItemKind where
  | anchor
  | repetition
  | other
  deriving DecidableEq

/-- What a sign after a repetition says about its order. -/
def repeatMode : Step RepeatMode := do
  if ← accept '?' then return .lazy
  if ← accept '+' then return .possessive
  return .greedy

/-- The items read so far with the last one, which comes first, repeated. -/
def repeatLast (lo : Nat) (hi : Option Nat) :
    List (ItemKind × Pattern) → Step (List (ItemKind × Pattern))
  | (.other, p) :: rest => do
    let mode ← repeatMode
    modify fun s => { s with hasRepetition := true }
    return (.repetition, .repeated mode lo hi p) :: rest
  | _ => fail

/-! ## Flags -/

/-- What a letter switches. -/
def flag? : Char → Option Flags
  | 'i' => some { ignoreCase := true }
  | 'm' => some { multiline := true }
  | 's' => some { dotAll := true }
  | 'x' => some { verbose := true }
  | 'a' => some { ascii := true }
  | 't' => some { template := true }
  | 'u' => some { unicode := true }
  | _ => none

/-- Flags that are switched on, from their first letter to the character that ends them. -/
def addedFlags (added : Flags) (c : Char) : Nat → Step (Flags × Char)
  | 0 => fail
  | fuel + 1 => do
    match flag? c with
    | none => fail
    | some f =>
      let added := added.union f
      if added.ascii && added.unicode then fail
      match ← next with
      | some (.plain d) =>
        if d == ')' || d == '-' || d == ':' then return (added, d) else addedFlags added d fuel
      | _ => fail

/-- Flags that are switched off, from their first letter to the colon. -/
def removedFlags (removed : Flags) (c : Char) : Nat → Step Flags
  | 0 => fail
  | fuel + 1 => do
    match flag? c with
    | none => fail
    | some f =>
      if f.ascii || f.unicode then fail
      let removed := removed.union f
      match ← next with
      | some (.plain d) => if d == ':' then return removed else removedFlags removed d fuel
      | _ => fail

/-- Flags from their first character on: those for the whole pattern, or those for a group. -/
def flags (c : Char) (fuel : Nat) : Step (Flags ⊕ Flags × Flags) := do
  let (added, last) ← if c == '-' then pure ({}, '-') else addedFlags {} c fuel
  if last == ')' then return .inl added
  if added.template then fail
  let removed ← if last == '-' then
      match ← next with
      | some (.plain d) => removedFlags {} d fuel
      | _ => fail
    else pure {}
  if removed.template then fail
  if added.without removed != added then fail
  return .inr (added, removed)

/-! ## Groups -/

/-- Opens a group that captures what it takes. -/
def openGroup (name : Option String) : Step Nat := do
  let p ← get
  let index := p.groups.size
  match name with
  | some n => if (p.names.lookup n).isSome then fail
  | none => pure ()
  set { p with
    groups := p.groups.push none
    names := match name with
      | some n => (n, index) :: p.names
      | none => p.names }
  return index

/-- Closes a group with its contents. -/
def closeGroup (index : Nat) (body : Pattern) : Step Unit :=
  modify fun p => { p with groups := p.groups.set! index (some (body.width p.groups)) }

/-- The name of a group up to the given character. -/
def groupName (last : Char) (fuel : Nat) : Step String := do
  let cs ← takeUntil last [] fuel
  if Text.isName cs then return String.ofList cs else fail

/-- The group that a condition asks for, by name or by number. -/
def conditionGroup (fuel : Nat) : Step Nat := do
  let cs ← takeUntil ')' [] fuel
  if Text.isName cs then
    match (← get).names.lookup (String.ofList cs) with
    | some index => return index
    | none => fail
  else
    match Number.readInt? (String.ofList cs) with
    | some (.ofNat n) =>
      if n == 0 || groupLimit ≤ n then fail
      modify fun p => { p with asked := n :: p.asked }
      return n
    | _ => fail

/-- Inside a look behind, a condition too may ask for older groups only. -/
def checkCondition (index : Nat) : Step Unit := do
  if (← get).groupsBefore.isSome then checkGroup index

/-- Skips a comment up to its closing parenthesis. -/
def comment : Nat → Step Unit
  | 0 => fail
  | fuel + 1 => do
    match ← next with
    | none => fail
    | some (.plain ')') => return
    | some _ => comment fuel

/-- Skips the rest of the line. -/
def lineComment : Nat → Step Unit
  | 0 => return
  | fuel + 1 => do
    match ← next with
    | none => return
    | some (.plain '\n') => return
    | some _ => lineComment fuel

/-- Blanks that are skipped where comments are allowed. -/
def isLayout (c : Char) : Bool :=
  c == ' ' || c == '\t' || c == '\n' || c == '\r' || c == '\x0b' || c == '\x0c'

/-- The items, which come last one first, as one pattern. -/
def ofItems (items : List (ItemKind × Pattern)) : Pattern := seqAll (items.reverse.map (·.2))

/-- Requires the parenthesis that closes a group. -/
def closing : Step Unit := do
  if !(← accept ')') then fail

mutual

/-- Alternatives. `top` says that they are not inside a group. -/
def alternatives (verbose top first : Bool) : Nat → Step Pattern
  | 0 => fail
  | fuel + 1 => do
    let p ← sequence verbose first [] fuel
    if ← accept '|' then
      let now := (← get).flags
      let verbose := if top then now.verbose else verbose
      return .alt p (← alternatives verbose top false fuel)
    else return p

/-- Items one after the other, those before being given last one first. `first` says that nothing
but they comes before in the whole pattern. -/
def sequence (verbose first : Bool) (items : List (ItemKind × Pattern)) : Nat → Step Pattern
  | 0 => fail
  | fuel + 1 => do
    match ← peek with
    | none | some (.plain '|') | some (.plain ')') => return ofItems items
    | some this =>
      let _ ← next
      let one (p : Pattern) := sequence verbose first ((.other, p) :: items) fuel
      match this with
      | .escaped c =>
        match ← escape c with
        | .anchor a => sequence verbose first ((.anchor, .anchor a) :: items) fuel
        | p => one p
      | .plain c =>
        if verbose && isLayout c then sequence verbose first items fuel
        else if verbose && c == '#' then
          lineComment fuel
          sequence verbose first items fuel
        else if c == '[' then one (← characterSet fuel)
        else if c == '.' then one .any
        else if c == '^' then sequence verbose first ((.anchor, .anchor .lineStart) :: items) fuel
        else if c == '$' then sequence verbose first ((.anchor, .anchor .lineEnd) :: items) fuel
        else if c == '?' then sequence verbose first (← repeatLast 0 (some 1) items) fuel
        else if c == '*' then sequence verbose first (← repeatLast 0 none items) fuel
        else if c == '+' then sequence verbose first (← repeatLast 1 none items) fuel
        else if c == '\x7b' then
          match ← bounds? fuel with
          | some (lo, hi) => sequence verbose first (← repeatLast lo hi items) fuel
          | none => one (.code c.toNat)
        else if c == '(' then
          match ← group verbose (first && items.isEmpty) fuel with
          | some p => one p
          | none =>
            let now := (← get).flags
            sequence (verbose || (first && now.verbose)) first items fuel
        else one (.code c.toNat)

/-- A group after its opening parenthesis; none if it is a comment or sets flags for the whole
pattern, which it may only at the start. -/
def group (verbose atStart : Bool) : Nat → Step (Option Pattern)
  | 0 => fail
  | fuel + 1 => do
    if !(← accept '?') then return some (← captured verbose none fuel)
    match ← next with
    | none | some (.escaped _) => fail
    | some (.plain c) =>
      if c == 'P' then
        match ← next with
        | some (.plain '<') =>
          let name ← groupName '>' fuel
          return some (← captured verbose (some name) fuel)
        | some (.plain '=') =>
          let name ← groupName ')' fuel
          match (← get).names.lookup name with
          | none => fail
          | some index => return some (← groupReference index)
        | _ => fail
      else if c == ':' then
        let p ← alternatives verbose false false fuel
        closing
        return some p
      else if c == '#' then
        comment fuel
        return none
      else if c == '=' || c == '!' then
        let p ← alternatives verbose false false fuel
        closing
        return some (.ahead (c == '!') p)
      else if c == '<' then
        match ← next with
        | some (.plain d) =>
          if d != '=' && d != '!' then fail
          let outer := (← get).groupsBefore
          if outer.isNone then
            modify fun s => { s with groupsBefore := some s.groups.size }
          let p ← alternatives verbose false false fuel
          modify fun s => { s with groupsBefore := outer }
          closing
          let (lo, hi) := p.width (← get).groups
          if hi != some lo || repetitionLimit < lo then
            modify fun s => { s with unfixedBehind := true }
          return some (.behind lo (d == '!') p)
        | _ => fail
      else if c == '(' then
        let index ← conditionGroup fuel
        checkCondition index
        let yes ← sequence verbose false [] fuel
        let no ← if ← accept '|' then sequence verbose false [] fuel else pure .empty
        closing
        return some (.conditional index yes no)
      else if c == '>' then
        let p ← alternatives verbose false false fuel
        closing
        return some (.atomic p)
      else
        match ← flags c fuel with
        | .inl added =>
          modify fun s => { s with flags := s.flags.union added }
          if atStart then return none else fail
        | .inr (added, removed) =>
          let verbose := (verbose || added.verbose) && !removed.verbose
          let p ← alternatives verbose false false fuel
          closing
          return some (.flagged added removed p)

/-- The contents of a group that captures, and its closing parenthesis. -/
def captured (verbose : Bool) (name : Option String) : Nat → Step Pattern
  | 0 => fail
  | fuel + 1 => do
    let index ← openGroup name
    let p ← alternatives verbose false false fuel
    closing
    closeGroup index p
    return .capture index p

end

end Reader

/-- A pattern with the flags of the whole and its number of groups, group 0 included. -/
structure Compiled where
  pattern : Pattern
  flags : Flags
  groups : Nat
  deriving Repr

/-- Reads a pattern. -/
def compile (s : String) : Except ReadError Compiled := do
  let cs := s.toList
  let read : Reader.Step Pattern := do
    Reader.goOn cs
    Reader.alternatives false true true (6 * cs.length + 6)
  let (p, done) ← read.run { rest := [] }
  if done.flags.ascii && done.flags.unicode then throw .clashingCharacterSets
  if !done.rest.isEmpty then throw .malformed
  if done.asked.any fun g => done.groups.size ≤ g then throw .malformed
  if done.unfixedBehind || (done.flags.template && done.hasRepetition) then throw .malformed
  return { pattern := p, flags := done.flags, groups := done.groups.size }

end FrontDesk.Pattern
