import ContentGraph.Number.Double

/-!
# The shortest decimal of a double

A double stands for every real number that rounds to it, an interval around
its value. The shortest decimal is the one with the fewest digits in that
interval, and of those the nearest to the value. If any point of a decimal
grid lies in the interval then one of the two grid points next to the value
does, so for each number of digits only these two are tried.

`Double.text` writes that decimal with a point, unless the exponent is below
-4 or at least 16.
-/

namespace ContentGraph

/-- The interval of reals that round to a double, all in units of
`2 ^ exponent`: the value, and the two ends. The ends belong to it if the
mantissa is even. -/
structure RoundingInterval where
  /-- The lower end. -/
  low : Nat
  /-- The value. -/
  value : Nat
  /-- The upper end. -/
  high : Nat
  /-- The exponent of the unit. -/
  exponent : Int
  /-- Whether the ends round to the double too. -/
  closed : Bool

namespace RoundingInterval

/-- The interval of `mantissa * 2 ^ exponent`. Below a power of two the
doubles lie twice as dense. -/
def ofMantissa (mantissa : Nat) (exponent : Int) : RoundingInterval :=
  { low := if mantissa = Nat.pow 2 52 ∧ exponent > -1074 then 4 * mantissa - 1 else 4 * mantissa - 2
    value := 4 * mantissa
    high := 4 * mantissa + 2
    exponent := exponent - 2
    closed := mantissa % 2 == 0 }

/-- The factors `(a, b)` with which `n * 2 ^ exponent` and `d * 10 ^ grid`
compare as `n * a` and `d * b`. -/
def factors (exponent grid : Int) : Nat × Nat :=
  ((if exponent < 0 then 1 else Nat.pow 2 exponent.natAbs)
      * (if grid < 0 then Nat.pow 10 grid.natAbs else 1),
    (if exponent < 0 then Nat.pow 2 exponent.natAbs else 1)
      * (if grid < 0 then 1 else Nat.pow 10 grid.natAbs))

/-- The point of the grid `10 ^ grid` in the interval that is nearest to the
value, if there is one; of two that are equally near, the even one. -/
def nearestOnGrid (i : RoundingInterval) (grid : Int) : Option Nat :=
  let (a, b) := factors i.exponent grid
  let value := i.value * a
  let below := value / b
  let above := below + 1
  let inside (d : Nat) : Bool :=
    let x := d * b
    if i.closed then i.low * a ≤ x && x ≤ i.high * a else i.low * a < x && x < i.high * a
  let toBelow := value - below * b
  let toAbove := above * b - value
  match decide (below > 0) && inside below, inside above with
  | true, true =>
    if toBelow < toAbove ∨ (toBelow = toAbove ∧ below % 2 = 0) then some below else some above
  | true, false => some below
  | false, true => some above
  | false, false => none

/-- The first of the given grids, from coarse to fine, that has a point in
the interval. -/
def firstGrid (i : RoundingInterval) (grid : Int) : Nat → Nat × Int
  | 0 => (i.value, grid)
  | tries + 1 =>
    match i.nearestOnGrid grid with
    | some digits => (digits, grid)
    | none => firstGrid i (grid - 1) tries

end RoundingInterval

namespace Double

/-- The exponent of the first decimal digit of `mantissa * 2 ^ exponent`, or
one more than it. -/
def decimalExponent (mantissa : Nat) (exponent : Int) : Int :=
  if exponent < 0 then
    let scaled := mantissa * Nat.pow 10 400 / Nat.pow 2 exponent.natAbs
    ((Nat.toDigits 10 scaled).length : Int) - 400
  else (Nat.toDigits 10 (mantissa * Nat.pow 2 exponent.natAbs)).length

/-- Digits without the zeros at their end, and how many these were. -/
def dropTrailingZeros : List Char → List Char × Nat
  | [] => ([], 0)
  | c :: rest =>
    match dropTrailingZeros rest with
    | ([], zeros) => if c = '0' then ([], zeros + 1) else ([c], zeros)
    | (kept, zeros) => (c :: kept, zeros)

/-- The digits of the shortest decimal, and the exponent that a point before
the first of them stands for: `0.ddd * 10 ^ point`. -/
def shortestDigits (mantissa : Nat) (exponent : Int) : List Char × Int :=
  let interval := RoundingInterval.ofMantissa mantissa exponent
  let (digits, grid) := interval.firstGrid (decimalExponent mantissa exponent) 20
  let text := Nat.toDigits 10 digits
  ((dropTrailingZeros text).1, text.length + grid)

/-- Digits with the point at a place that lies before, inside or after
them. -/
def positional (digits : List Char) (point : Int) : List Char :=
  if point ≤ 0 then ['0', '.'] ++ List.replicate point.natAbs '0' ++ digits
  else
    let whole := point.natAbs
    if digits.length ≤ whole then
      digits ++ List.replicate (whole - digits.length) '0' ++ ['.', '0']
    else digits.take whole ++ ['.'] ++ digits.drop whole

/-- An exponent with its sign and at least two digits. -/
def exponentText (e : Int) : List Char :=
  let digits := Nat.toDigits 10 e.natAbs
  (if e < 0 then '-' else '+') :: (if digits.length < 2 then '0' :: digits else digits)

/-- Digits with the point after the first, and an exponent. -/
def scientific (digits : List Char) (point : Int) : List Char :=
  let fraction := digits.drop 1
  digits.take 1 ++ (if fraction.isEmpty then [] else '.' :: fraction)
    ++ 'e' :: exponentText (point - 1)

/-- A positive finite number in decimal. -/
def magnitudeText (mantissa : Nat) (exponent : Int) : List Char :=
  if mantissa = 0 then ['0', '.', '0']
  else
    let (digits, point) := shortestDigits mantissa exponent
    if -4 < point ∧ point ≤ 16 then positional digits point else scientific digits point

/-- The text of a number: the fewest digits that read back, positional for
decimal exponents from -4 to 15 and with an exponent beyond. -/
def text : Double → String
  | nan => "nan"
  | infinite true => "-inf"
  | infinite false => "inf"
  | finite negative mantissa exponent =>
    String.ofList ((if negative then ['-'] else []) ++ magnitudeText mantissa exponent)

end Double

end ContentGraph
