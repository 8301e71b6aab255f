/-
The shortest decimal that reads back as a given floating-point number, and its text.

Of all decimals that round to the number, one with the fewest digits is taken, and of those the
nearest. `FloatStyle` holds what is a matter of taste: when an exponent is written and what a whole
number ends in.
-/
import FrontDesk.Number.Binary64

namespace FrontDesk.Number

/-- How many decimal digits a natural number has; zero has none. -/
def decimalLength (n : Nat) : Nat :=
  if h : n = 0 then 0 else decimalLength (n / 10) + 1
termination_by n
decreasing_by omega

/-- The exponent of the leading decimal digit of a positive fraction. -/
def leadingExponent (num den : Nat) : Int :=
  if den ≤ num then (decimalLength (num / den) : Int) - 1
  else -(decimalLength ((den - 1) / num) : Int)

/-- A decimal: the number `digits · 10^exponent`. -/
structure Decimal where
  digits : Nat
  exponent : Int
  deriving DecidableEq, Repr

namespace Shortest

/-- The decimals that round to a number: those between two bounds over a common denominator. -/
structure Interval where
  low : Nat
  value : Nat
  high : Nat
  den : Nat
  closed : Bool

/-- The interval of a positive finite number. Below a power of two the neighbours lie closer. -/
def interval (mantissa : Nat) (exponent : Int) : Interval :=
  let gap :=
    if mantissa == Binary64.mantissaLimit / 2 && Binary64.minExponent < exponent then 1 else 2
  let (scale, den) := Binary64.ratio 1 (exponent - 2)
  { low := (4 * mantissa - gap) * scale
    value := 4 * mantissa * scale
    high := (4 * mantissa + 2) * scale
    den := den
    closed := mantissa % 2 == 0 }

/-- Whether `digits · num / den` lies in the interval. -/
def Interval.holds (i : Interval) (digits num den : Nat) : Bool :=
  let x := digits * num * i.den
  let low := i.low * den
  let high := i.high * den
  if i.closed then low ≤ x && x ≤ high else low < x && x < high

/-- Twice the distance of a multiple of the unit `num / den` from the value is compared through
this difference, taken over the common denominator. -/
def Interval.distance (i : Interval) (digits num den : Nat) : Nat :=
  let x := digits * num * i.den
  let v := i.value * den
  (x - v) + (v - x)

/-- The multiple of `10^exponent` in the interval that is nearest to the value, if there is one. -/
def nearest? (i : Interval) (exponent : Int) : Option Nat :=
  let (num, den) : Nat × Nat :=
    match exponent with
    | .ofNat e => (Binary64.tenTo e, 1)
    | .negSucc e => (1, Binary64.tenTo (e + 1))
  let below := i.value * den / (i.den * num)
  let above := below + 1
  match i.holds below num den, i.holds above num den with
  | true, true =>
    let a := i.distance below num den
    let b := i.distance above num den
    if a < b || (a == b && below % 2 == 0) then some below else some above
  | true, false => some below
  | false, true => some above
  | false, false => none

/-- Tries grids of more and more digits, down from the leading one. -/
def search (i : Interval) (leading : Int) : Nat → Nat → Decimal
  | 0, tried => ⟨i.value / i.den, leading - tried⟩
  | left + 1, tried =>
    match nearest? i (leading - tried) with
    | some digits => ⟨digits, leading - tried⟩
    | none => search i leading left (tried + 1)

/-- Seventeen digits always suffice. -/
def maxPlaces : Nat := 17

/-- Drops zeros from the end of the digits. -/
def dropZeros (digits : Nat) (exponent : Int) : Nat → Decimal
  | 0 => ⟨digits, exponent⟩
  | fuel + 1 =>
    if digits != 0 && digits % 10 == 0 then dropZeros (digits / 10) (exponent + 1) fuel
    else ⟨digits, exponent⟩

end Shortest

/-- The shortest decimal that rounds to the positive number `mantissa · 2^exponent`. -/
def shortest (mantissa : Nat) (exponent : Int) : Decimal :=
  let i := Shortest.interval mantissa exponent
  let found := Shortest.search i (leadingExponent i.value i.den) Shortest.maxPlaces 0
  Shortest.dropZeros found.digits found.exponent Shortest.maxPlaces

/-- How a floating-point number is written. -/
structure FloatStyle where
  /-- Leading exponents from here on are written out. -/
  smallest : Int
  /-- Leading exponents below this one are written out. -/
  largest : Int
  /-- Written behind a number without a fraction, unless an exponent follows. -/
  wholeSuffix : String
  /-- An exponent has at least this many digits. -/
  exponentDigits : Nat
  infinity : String
  nan : String

/-- Zeros in front of a text until it has the given length. -/
def padZeros (width : Nat) (s : String) : String :=
  "".pushn '0' (width - s.length) ++ s

/-- The text of a decimal whose digits are not zero. -/
def FloatStyle.decimal (style : FloatStyle) (d : Decimal) : String :=
  let ds := toString d.digits
  let leading := d.exponent + ds.length - 1
  if style.smallest ≤ leading && leading < style.largest then
    if 0 ≤ d.exponent then ds ++ "".pushn '0' d.exponent.toNat ++ style.wholeSuffix
    else if 0 ≤ leading then
      let whole := leading.toNat + 1
      String.ofList (ds.toList.take whole) ++ "." ++ String.ofList (ds.toList.drop whole)
    else "0." ++ "".pushn '0' (-leading - 1).toNat ++ ds
  else
    let fraction := ds.toList.drop 1
    String.ofList (ds.toList.take 1)
      ++ (if fraction.isEmpty then "" else "." ++ String.ofList fraction)
      ++ "e" ++ (if leading < 0 then "-" else "+")
      ++ padZeros style.exponentDigits (toString leading.natAbs)

/-- The text of a floating-point number. -/
def FloatStyle.write (style : FloatStyle) : Binary64 → String
  | .nan => style.nan
  | .infinite negative => (if negative then "-" else "") ++ style.infinity
  | .finite negative mantissa exponent =>
    (if negative then "-" else "") ++
      if mantissa == 0 then "0" ++ style.wholeSuffix else style.decimal (shortest mantissa exponent)

end FrontDesk.Number
