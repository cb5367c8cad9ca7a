import ContentGraph.Number.Numeral

/-!
# Decimal numbers

A decimal keeps its digits: `1.50` and `1.5` are equal in value and differ in
their text.
-/

namespace ContentGraph

/-- A decimal number: a sign and `coefficient * 10 ^ exponent`. -/
structure Decimal where
  /-- Whether the number has a minus sign; zero keeps it. -/
  negative : Bool
  /-- The digits, as a number. -/
  coefficient : Nat
  /-- The exponent of ten. -/
  exponent : Int
deriving DecidableEq, Repr, Inhabited

namespace Decimal

/-- The value. -/
def toRat (d : Decimal) : Rat :=
  let scale : Rat :=
    if d.exponent < 0 then mkRat 1 (Nat.pow 10 d.exponent.natAbs)
    else mkRat (Nat.pow 10 d.exponent.natAbs) 1
  let magnitude := (d.coefficient : Rat) * scale
  if d.negative then -magnitude else magnitude

/-- A decimal numeral. Low lines are dropped wherever they stand. -/
def ofText? (s : String) : Option Decimal :=
  let plain := ((Numeral.trimmed s.toList).filter (· ≠ '_')).map Numeral.asciiDigit
  let (negative, rest) := Numeral.splitSign plain
  (Numeral.decimal? rest).bind fun d =>
    (Numeral.digitsValue? 10 0 d.digits).map fun n => ⟨negative, n, d.exponent⟩

/-- The text of a decimal: positional if the exponent is not positive and at
most six zeros follow the point, else with an exponent. -/
def text (d : Decimal) : String :=
  let digits := Nat.toDigits 10 d.coefficient
  let point : Int := digits.length + d.exponent
  let body :=
    if d.exponent ≤ 0 ∧ point > -6 then
      if d.exponent = 0 then digits
      else if point ≤ 0 then ['0', '.'] ++ List.replicate point.natAbs '0' ++ digits
      else digits.take point.natAbs ++ '.' :: digits.drop point.natAbs
    else
      let fraction := digits.drop 1
      let e := point - 1
      digits.take 1 ++ (if fraction.isEmpty then [] else '.' :: fraction)
        ++ 'E' :: (if e < 0 then '-' else '+') :: Nat.toDigits 10 e.natAbs
  String.ofList ((if d.negative then ['-'] else []) ++ body)

end Decimal

end ContentGraph
