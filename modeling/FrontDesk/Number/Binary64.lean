/-
Binary floating-point numbers of 64 bits, in exact arithmetic.

A finite number is ± mantissa · 2^exponent. `ofRatio` is the one place where rounding happens: it
gives the number nearest to a fraction, a tie going to the even mantissa; the operations work out
the exact result and round it.
-/

namespace FrontDesk.Number

/-- A floating-point number with 53 bits of mantissa and exponents from -1074 to 971. -/
inductive Binary64 where
  | finite (negative : Bool) (mantissa : Nat) (exponent : Int)
  | infinite (negative : Bool)
  | nan
  deriving DecidableEq, Repr, Inhabited

namespace Binary64

/-- The exponent of the smallest positive number, `2 ^ minExponent`. -/
def minExponent : Int := -1074

/-- The exponent of the largest finite numbers. -/
def maxExponent : Int := 971

/-- Mantissas have 53 bits. -/
def mantissaLimit : Nat := 1 <<< 53

/-- A power of ten. -/
def tenTo (e : Nat) : Nat := Nat.pow 10 e

/-- Zero with the given sign. -/
def signedZero (negative : Bool) : Binary64 := finite negative 0 minExponent

/-- `num / (den · 2^exponent)` as a fraction of natural numbers. -/
def unscale (num den : Nat) (exponent : Int) : Nat × Nat :=
  match exponent with
  | .ofNat e => (num, den <<< e)
  | .negSucc e => (num <<< (e + 1), den)

/-- The natural number nearest to a fraction, a tie going to the even one. -/
def roundDiv (num den : Nat) : Nat :=
  let q := num / den
  let twice := 2 * (num % den)
  if twice < den then q
  else if den < twice then q + 1
  else q + q % 2

/-- The number nearest to `num / den`, or an infinity if that is out of range. -/
def ofRatio (negative : Bool) (num den : Nat) : Binary64 :=
  if num == 0 || den == 0 then signedZero negative
  else
    let guess : Int := num.log2 - den.log2 - 53
    let (n, d) := unscale num den guess
    let exponent := max minExponent (if n / d < mantissaLimit then guess else guess + 1)
    let (n, d) := unscale num den exponent
    let mantissa := roundDiv n d
    let (mantissa, exponent) :=
      if mantissa == mantissaLimit then (mantissaLimit / 2, exponent + 1) else (mantissa, exponent)
    if maxExponent < exponent then infinite negative else finite negative mantissa exponent

/-- The magnitude of a finite number as a fraction. -/
def ratio (mantissa : Nat) (exponent : Int) : Nat × Nat :=
  match exponent with
  | .ofNat e => (mantissa <<< e, 1)
  | .negSucc e => (mantissa, 1 <<< (e + 1))

/-- The number nearest to a whole number. -/
def ofInt (n : Int) : Binary64 := ofRatio (n < 0) n.natAbs 1

/-- The number nearest to the quotient of two whole numbers. -/
def ofQuotient (n : Int) (d : Nat) : Binary64 := ofRatio (n < 0) n.natAbs d

/-- `± n` as a whole number. -/
def signed (negative : Bool) (n : Nat) : Int := if negative then -(n : Int) else n

/-- The sum of two finite numbers, rounded; what is not finite wins. -/
def add : Binary64 → Binary64 → Binary64
  | finite s m e, finite t n f =>
    let (a, b) := ratio m e
    let (c, d) := ratio n f
    ofQuotient (signed s (a * d) + signed t (c * b)) (b * d)
  | finite .., y => y
  | x, finite .. => x
  | infinite s, infinite t => if s == t then infinite s else nan
  | _, _ => nan

/-- The number times a natural number, rounded. -/
def mulNat : Binary64 → Nat → Binary64
  | finite s m e, k =>
    let (a, b) := ratio m e
    ofRatio s (a * k) b
  | x, _ => x

/-- The number divided by a natural number, rounded. -/
def divNat : Binary64 → Nat → Binary64
  | finite s m e, k =>
    let (a, b) := ratio m e
    ofRatio s a (b * k)
  | x, _ => x

/-- The nearest whole number, a half going to the even neighbour. -/
def round : Binary64 → Int
  | finite s m e =>
    let (a, b) := ratio m e
    signed s (roundDiv a b)
  | _ => 0

/-- The whole part of a finite number. -/
def truncate? : Binary64 → Option Int
  | finite s m e =>
    let (a, b) := ratio m e
    some (signed s (a / b))
  | _ => none

/-- The number, if it is a whole one. -/
def whole? : Binary64 → Option Int
  | finite s m e =>
    let (a, b) := ratio m e
    if a % b == 0 then some (signed s (a / b)) else none
  | _ => none

/-- Whether the number is the given natural number. -/
def isNat (x : Binary64) (n : Nat) : Bool :=
  match x with
  | finite s m e =>
    let (a, b) := ratio m e
    a == n * b && (n == 0 || !s)
  | _ => false

/-- Decimal exponents beyond this range leave no finite number other than zero. -/
def exponentGuard : Int := 400

/-- The number nearest to `± digits · 10^exponent`, `digits` being written with `length` digits. -/
def ofDecimal (negative : Bool) (digits length : Nat) (exponent : Int) : Binary64 :=
  if digits == 0 then signedZero negative
  else if exponentGuard < exponent + length then infinite negative
  else if exponent + length < -exponentGuard then signedZero negative
  else
    match exponent with
    | .ofNat e => ofRatio negative (digits * tenTo e) 1
    | .negSucc e => ofRatio negative digits (tenTo (e + 1))

end Binary64

end FrontDesk.Number
