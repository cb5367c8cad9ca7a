/-!
# Double-precision numbers

A double is kept by its value, as a sign and a magnitude
`mantissa * 2 ^ exponent`, so that comparing it with an integer or a decimal
is comparing rationals and nothing is lost on the way. Two exceptional
magnitudes remain: the infinities, and *not a number*, which differs from
everything.

The one operation that rounds is `Double.ofRatio`; reading a decimal, adding
and multiplying all go through it.
-/

namespace ContentGraph

/-- A double-precision binary number. A finite one has a sign, which zero
keeps too, and the magnitude `mantissa * 2 ^ exponent`. -/
inductive Double where
  /-- Not a number. -/
  | nan
  /-- One of the two infinities. -/
  | infinite (negative : Bool)
  /-- A finite number. -/
  | finite (negative : Bool) (mantissa : Nat) (exponent : Int)
deriving DecidableEq, Repr, Inhabited

/-- The value of a number that is ordered against others: an infinity or a
rational. -/
inductive Magnitude where
  | negativeInfinity
  | rational (q : Rat)
  | positiveInfinity
deriving DecidableEq

namespace Magnitude

/-- The order of magnitudes, strictly. -/
def lt : Magnitude → Magnitude → Bool
  | rational a, rational b => a < b
  | negativeInfinity, negativeInfinity => false
  | negativeInfinity, _ => true
  | _, negativeInfinity => false
  | positiveInfinity, _ => false
  | _, positiveInfinity => true

end Magnitude

/-- The natural number nearest to `num / den`; a half goes to the even
neighbour. -/
def roundHalfEven (num den : Nat) : Nat :=
  let quotient := num / den
  let twice := 2 * (num % den)
  if twice > den ∨ (twice = den ∧ quotient % 2 = 1) then quotient + 1 else quotient

/-- A power of two as a rational. -/
def twoPower (exponent : Int) : Rat :=
  if exponent < 0 then mkRat 1 (Nat.pow 2 exponent.natAbs) else mkRat (Nat.pow 2 exponent.natAbs) 1

namespace Double

/-- Zero, with a sign. -/
def zero (negative : Bool) : Double := finite negative 0 0

/-- The exponent `e` with `2 ^ e ≤ num / den < 2 ^ (e + 1)`, both numbers
being positive. -/
def binaryExponent (num den : Nat) : Int :=
  let guess : Int := (num.log2 : Int) - den.log2
  let reached :=
    if guess < 0 then den ≤ num * Nat.pow 2 guess.natAbs else den * Nat.pow 2 guess.natAbs ≤ num
  if reached then guess else guess - 1

/-- The double nearest to `num / den`, with a sign; of two that are equally
near, the one with the even mantissa. What lies beyond the largest double by
half a step or more is infinite. -/
def ofRatio (negative : Bool) (num den : Nat) : Double :=
  if num = 0 ∨ den = 0 then zero negative
  else
    let exponent := max (binaryExponent num den - 52) (-1074)
    let rounded :=
      if exponent < 0 then roundHalfEven (num * Nat.pow 2 exponent.natAbs) den
      else roundHalfEven num (den * Nat.pow 2 exponent.natAbs)
    if rounded = 0 then zero negative
    else
      let carried := rounded = Nat.pow 2 53
      let mantissa := if carried then Nat.pow 2 52 else rounded
      let exponent := if carried then exponent + 1 else exponent
      if exponent > 971 then infinite negative else finite negative mantissa exponent

/-- The double nearest to `digits * 10 ^ exponent`, with a sign. Exponents
that are out of all range are cut off before any power is taken. -/
def ofDecimal (negative : Bool) (digits : Nat) (exponent : Int) : Double :=
  if digits = 0 then zero negative
  else
    let size : Int := (Nat.toDigits 10 digits).length
    if size + exponent > 400 then infinite negative
    else if size + exponent < -400 then zero negative
    else if exponent < 0 then ofRatio negative digits (Nat.pow 10 exponent.natAbs)
    else ofRatio negative (digits * Nat.pow 10 exponent.natAbs) 1

/-- The rational value of a finite number. -/
def toRat? : Double → Option Rat
  | finite negative mantissa exponent =>
    let magnitude := (mantissa : Rat) * twoPower exponent
    some (if negative then -magnitude else magnitude)
  | _ => none

/-- The place of a number in the order, if it has one. -/
def magnitude? : Double → Option Magnitude
  | nan => none
  | infinite true => some .negativeInfinity
  | infinite false => some .positiveInfinity
  | finite negative mantissa exponent =>
    let magnitude := (mantissa : Rat) * twoPower exponent
    some (.rational (if negative then -magnitude else magnitude))

/-- Whether this is not a number. -/
def isNaN : Double → Bool
  | nan => true
  | _ => false

/-- Whether this is zero, of either sign. -/
def isZero : Double → Bool
  | finite _ mantissa _ => mantissa == 0
  | _ => false

/-- Whether the sign is negative. -/
def isNegative : Double → Bool
  | nan => false
  | infinite negative => negative
  | finite negative _ _ => negative

/-- The double nearest to a rational. A zero is positive. -/
def ofRat (q : Rat) : Double := ofRatio (q < 0) q.num.natAbs q.den

/-- The number with the opposite sign. -/
def neg : Double → Double
  | nan => nan
  | infinite negative => infinite !negative
  | finite negative mantissa exponent => finite (!negative) mantissa exponent

/-- The sum, rounded. -/
def add (x y : Double) : Double :=
  match x.toRat?, y.toRat? with
  | some a, some b =>
    if x.isZero && y.isZero then zero (x.isNegative && y.isNegative) else ofRat (a + b)
  | _, _ =>
    match x, y with
    | infinite a, infinite b => if a = b then infinite a else nan
    | infinite a, finite .. => infinite a
    | finite .., infinite b => infinite b
    | _, _ => nan

/-- The product, rounded. -/
def mul (x y : Double) : Double :=
  let negative := x.isNegative != y.isNegative
  match x.toRat?, y.toRat? with
  | some a, some b => ofRatio negative (a * b).num.natAbs (a * b).den
  | _, _ => if x.isNaN || y.isNaN || x.isZero || y.isZero then nan else infinite negative

end Double

end ContentGraph
