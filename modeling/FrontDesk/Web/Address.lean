/-
Addresses on the web, as they are written in a request.

In the path, segments that stand for the place itself or for the one above are resolved; characters
that cannot stand where they are get percent signs and the hexadecimal digits of their bytes.
-/
import FrontDesk.Text.Quoted

namespace FrontDesk.Web.Address

/-- Whether a character of the alphabet of addresses is none of the given ones. -/
def isPlainBut (special : List Char) (c : Char) : Bool :=
  0x20 < c.toNat && c.toNat < 0x7F && !special.contains c

/-- Characters that can stand in a path. -/
def isPathChar : Char → Bool := isPlainBut ['"', '#', '<', '>', '?', '\x60', '\x7b', '\x7d']

/-- Characters that can stand in a query. -/
def isQueryChar : Char → Bool := isPlainBut ['"', '#', '<', '>']

/-- Characters that can stand in a fragment. -/
def isFragmentChar : Char → Bool := isPlainBut ['"', '<', '>', '\x60']

/-- The bytes of a character, each with a percent sign. -/
def percentBytes (c : Char) : List Char :=
  (String.singleton c).toUTF8.toList.flatMap fun b =>
    '%' :: (Text.hexDigits 2 b.toNat).map Char.toUpper

/-- A part of an address in which some characters can stand as they are. -/
def encode (plain : Char → Bool) (cs : List Char) : List Char :=
  cs.flatMap fun c => if plain c then [c] else percentBytes c

/-- The segments of a path, resolved. -/
def resolve (segments : List String) : List String :=
  (segments.foldl (fun (done : List String) s =>
    if s == "." then done
    else if s == ".." then
      (match done with
        | [] | [""] => done
        | _ :: above => above)
    else s :: done) []).reverse

/-- A path, resolved. -/
def resolvePath (path : String) : String := "/".intercalate (resolve (path.splitOn "/"))

/-- A text without slashes at its end. -/
def withoutSlashes (s : String) : String :=
  String.ofList (s.toList.reverse.dropWhile (· == '/')).reverse

/-- A text up to the first of a character, and what follows it, if it is there. -/
def cutAt (c : Char) (cs : List Char) : List Char × Option (List Char) :=
  let rest := cs.dropWhile (· != c)
  (cs.takeWhile (· != c), if rest.isEmpty then none else some (rest.drop 1))

/-- A part after its mark, if it is there. -/
def marked (mark : Char) (plain : Char → Bool) : Option (List Char) → List Char
  | some cs => mark :: encode plain cs
  | none => []

/-- What follows the host in an address. -/
def writeRest (cs : List Char) : List Char :=
  let (cs, fragment) := cutAt '#' cs
  let (path, query) := cutAt '?' cs
  encode isPathChar (resolvePath (String.ofList path)).toList
    ++ marked '?' isQueryChar query ++ marked '#' isFragmentChar fragment

/-- What goes without saying at the end of a host, by the scheme. -/
def impliedEnds : List (String × String) := [("http", ":80"), ("https", ":443")]

/-- The scheme and the host, in small letters, without an end that goes without saying. -/
def writeHost (scheme host : String) : String :=
  let scheme := scheme.toLower
  let host := host.toLower
  let host := match impliedEnds.lookup scheme with
    | some text => if host.endsWith text then (host.dropEnd text.length).toString else host
    | none => host
  scheme ++ "://" ++ host

/-- An address. -/
def write (address : String) : String :=
  match address.splitOn "://" with
  | scheme :: rest =>
    let cs := ("://".intercalate rest).toList
    let isHost (c : Char) := c != '/' && c != '?' && c != '#'
    writeHost scheme (String.ofList (cs.takeWhile isHost))
      ++ String.ofList (writeRest (cs.dropWhile isHost))
  | [] => address

end FrontDesk.Web.Address
