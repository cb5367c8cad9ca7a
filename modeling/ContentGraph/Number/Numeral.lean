import ContentGraph.Number.Double
import ContentGraph.Text.Character

/-!
# Numerals

The texts of numbers: an integer in some base, or a decimal with an optional
fraction and exponent. Blanks around a numeral are dropped, its digits may be
of any script, and a single low line may stand between two digits.
-/

namespace ContentGraph.Numeral

/-- The value of an ASCII digit in a base up to 36. -/
def digitValue? (base : Nat) (c : Char) : Option Nat :=
  let value :=
    if '0' ≤ c ∧ c ≤ '9' then some (c.toNat - 48)
    else if 'a' ≤ c ∧ c ≤ 'z' then some (c.toNat - 87)
    else if 'A' ≤ c ∧ c ≤ 'Z' then some (c.toNat - 55)
    else none
  value.filter (· < base)

/-- The number that digits of a base stand for, read after a number that is
already known. -/
def digitsValue? (base : Nat) (known : Nat) : List Char → Option Nat
  | [] => some known
  | c :: rest =>
    match digitValue? base c with
    | some d => digitsValue? base (known * base + d) rest
    | none => none

/-- A decimal digit of any script as the ASCII digit of its value. -/
def asciiDigit (c : Char) : Char :=
  match Text.decimalValue? c with
  | some d => Char.ofNat (48 + d)
  | none => c

/-- A text without the blanks around it. -/
def trimmed (s : List Char) : List Char :=
  ((s.dropWhile Text.isBlank).reverse.dropWhile Text.isBlank).reverse

/-- An ASCII letter or digit. -/
def isAsciiAlphanumeric (c : Char) : Bool := c.isAlphanum

/-- A text without its low lines, if each of them stands between two
characters of which `isDigit` holds. -/
def withoutLowLines (isDigit : Char → Bool) : List Char → Option (List Char)
  | [] => some []
  | c :: '_' :: d :: rest =>
    if c = '_' then none
    else if isDigit c && isDigit d then (withoutLowLines isDigit (d :: rest)).map (c :: ·)
    else none
  | c :: rest => if c = '_' then none else (withoutLowLines isDigit rest).map (c :: ·)

/-- A sign, if there is one, and the rest; the sign is true for minus. -/
def splitSign : List Char → Bool × List Char
  | '-' :: rest => (true, rest)
  | '+' :: rest => (false, rest)
  | s => (false, s)

/-- A natural number with the sign that was read before it. -/
def signed (negative : Bool) (n : Nat) : Int := if negative then -(n : Int) else n

/-- The digits of a decimal integer: no text at all is none. -/
def naturalDigits? (s : List Char) : Option (List Char) :=
  match withoutLowLines Char.isDigit s with
  | some [] => none
  | some digits => if digits.all Char.isDigit then some digits else none
  | none => none

/-- A decimal integer as its sign and its digits, the number of which may be
limited by the reader. -/
def decimalParts? (s : List Char) : Option (Bool × List Char) :=
  let (negative, rest) := splitSign ((trimmed s).map asciiDigit)
  (naturalDigits? rest).map (negative, ·)

/-- A decimal integer. -/
def integer? (s : List Char) : Option Int :=
  match decimalParts? s with
  | some (negative, digits) => (digitsValue? 10 0 digits).map (signed negative)
  | none => none

/-- Digits without the mark of their base, which may stand before them. -/
def withoutBaseMark (base : Nat) : List Char → List Char
  | '0' :: mark :: rest =>
    let marks := if base = 2 then ['b', 'B'] else if base = 8 then ['o', 'O']
      else if base = 16 then ['x', 'X'] else []
    if marks.contains mark then rest else '0' :: mark :: rest
  | s => s

/-- An integer in a base other than ten, after an optional sign. -/
def integerInBase? (base : Nat) (s : List Char) : Option Int :=
  let (negative, rest) := splitSign ((trimmed s).map asciiDigit)
  match withoutLowLines isAsciiAlphanumeric (withoutBaseMark base rest) with
  | some [] => none
  | some digits => (digitsValue? base 0 digits).map (signed negative)
  | none => none

/-- The parts of a decimal number: all its digits, and the exponent of the
last of them. -/
structure Decimal where
  /-- The digits before and after the point. -/
  digits : List Char
  /-- The exponent of ten that the last digit is multiplied by. -/
  exponent : Int

/-- An exponent: nothing, or an `e` with an integer. -/
def exponent? : List Char → Option Int
  | [] => some 0
  | e :: rest =>
    if e = 'e' ∨ e = 'E' then
      let (negative, digits) := splitSign rest
      if digits.isEmpty then none else (digitsValue? 10 0 digits).map (signed negative)
    else none

/-- An unsigned decimal number without low lines: digits with an optional
point among or beside them, and an optional exponent. -/
def decimal? (s : List Char) : Option Decimal :=
  let whole := s.takeWhile Char.isDigit
  let afterWhole := s.dropWhile Char.isDigit
  let (fraction, tail) :=
    match afterWhole with
    | '.' :: rest => (rest.takeWhile Char.isDigit, rest.dropWhile Char.isDigit)
    | rest => ([], rest)
  if whole.isEmpty && fraction.isEmpty then none
  else (exponent? tail).map fun e => ⟨whole ++ fraction, e - fraction.length⟩

/-- The double nearest to a decimal numeral. The infinities and *not a
number* have names, in any case. -/
def double? (s : List Char) : Option Double :=
  match withoutLowLines Char.isDigit ((trimmed s).map asciiDigit) with
  | none => none
  | some plain =>
    let (negative, rest) := splitSign plain
    let name := String.ofList (rest.map Char.toLower)
    if name = "inf" ∨ name = "infinity" then some (.infinite negative)
    else if name = "nan" then some .nan
    else
      (decimal? rest).bind fun d =>
        (digitsValue? 10 0 d.digits).map fun n => .ofDecimal negative n d.exponent

end ContentGraph.Numeral
