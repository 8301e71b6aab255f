/-
Routes: which path leads where.

A path is read with the segments `.` and `..` and then its percent signs resolved. One that leads
somewhere but for slashes at its end is sent on.
-/
import FrontDesk.Json.Reader
import FrontDesk.Web.Address

namespace FrontDesk.Web

/-- A place that a path leads to. -/
inductive Route where
  /-- Messages that come in. -/
  | messages
  | flows
  | flow (id : String)
  | stats (id : String)
  /-- Trying a flow out. -/
  | test (id : String)
  deriving DecidableEq, Repr

/-- The ways of asking. -/
inductive Method where
  | get
  | post
  | patch
  | delete
  deriving DecidableEq, Repr

/-- The methods by name. -/
def Method.names : List (String × Method) :=
  [("GET", .get), ("POST", .post), ("PATCH", .patch), ("DELETE", .delete)]

/-! ## Paths -/

/-- The bytes of a path with its percent signs resolved. -/
def bytesOf : List Char → List UInt8
  | [] => []
  | '%' :: a :: b :: rest =>
    match Json.Reader.hexValue? a, Json.Reader.hexValue? b with
    | some x, some y => UInt8.ofNat (x * 16 + y) :: bytesOf rest
    | _, _ => '%'.toUInt8 :: bytesOf (a :: b :: rest)
  | c :: rest => (String.singleton c).toUTF8.toList ++ bytesOf rest

/-- The number of bytes that go on a character after its first one, and the bits of the first. -/
def leadByte (b : Nat) : Option (Nat × Nat) :=
  if b < 0x80 then some (0, b)
  else if 0xC2 ≤ b && b < 0xE0 then some (1, b - 0xC0)
  else if 0xE0 ≤ b && b < 0xF0 then some (2, b - 0xE0)
  else if 0xF0 ≤ b && b < 0xF5 then some (3, b - 0xF0)
  else none

/-- The value of a character from its bits so far and the bytes that go on it. -/
def continued (bits : Nat) (bs : List Nat) : Option Nat :=
  bs.foldlM
    (fun bits b => if 0x80 ≤ b && b < 0xC0 then some (bits * 64 + (b - 0x80)) else none) bits

/-- The smallest value written with so many further bytes. -/
def leastValue : Nat → Nat
  | 0 => 0
  | 1 => 0x80
  | 2 => 0x800
  | _ => 0x10000

/-- The first character of some bytes. -/
def firstChar? (b : Nat) (bs : List Nat) : Option (Char × Nat) := do
  let (count, bits) ← leadByte b
  let value ← if bs.length < count then none else continued bits (bs.take count)
  if value < leastValue count then none
  else if h : value.isValidChar then some (Char.ofNatAux value h, count)
  else none

/-- The characters of bytes; a byte that makes none is replaced. -/
def charsOf (bs : List Nat) : List Char :=
  match bs with
  | [] => []
  | b :: rest =>
    match firstChar? b rest with
    | some (c, count) => c :: charsOf (rest.drop count)
    | none => '\uFFFD' :: charsOf rest
termination_by bs.length
decreasing_by all_goals grind

/-- The path of an address, resolved. -/
def pathOf (address : String) : String :=
  let path := String.ofList (address.toList.takeWhile fun c => c != '?' && c != '#')
  String.ofList (charsOf ((bytesOf (Address.resolvePath path).toList).map UInt8.toNat))

/-! ## Where paths lead -/

/-- Where the segments of a path lead. -/
def Route.ofSegments : List String → Option Route
  | ["webhooks", "messages"] => some .messages
  | ["flows"] => some .flows
  | ["flows", id] => if id.isEmpty then none else some (.flow id)
  | ["flows", id, "stats"] => if id.isEmpty then none else some (.stats id)
  | ["flows", id, "test"] => if id.isEmpty then none else some (.test id)
  | _ => none

/-- Where a path leads. -/
def Route.ofPath (path : String) : Option Route :=
  match path.splitOn "/" with
  | "" :: segments => ofSegments segments
  | _ => none

/-- Whether a path that leads nowhere leads somewhere without the slashes at its end. -/
def isSentOn (path : String) : Bool :=
  path.endsWith "/" && path != "/" && (Route.ofPath (Address.withoutSlashes path)).isSome

/-- The methods by which a place can be asked. -/
def Route.methods : Route → List Method
  | messages | test _ => [.post]
  | flows => [.get, .post]
  | flow _ => [.get, .patch, .delete]
  | stats _ => [.get]

end FrontDesk.Web
