import ContentGraph.Document.Error
import ContentGraph.Number.Double
import ContentGraph.Text.Case

/-!
# Numbers of YAML

The values of scalars that are integers or other numbers. An integer may be
binary, octal or hexadecimal by what it begins with, and both sorts may be
written to base sixty, with colons between the digits. Low lines are dropped
wherever they stand. A scalar may be marked as a number and be none, which is
a fault of its own.

Only decimal digits are limited in their number. In another base an integer may
be so large that it could not be written out in decimal ones, and then it is not
read.
-/

namespace ContentGraph.Document.Yaml

/-- A text without its low lines. -/
def withoutLines (text : String) : List Char := text.toList.filter (· ≠ '_')

/-- The parts of a text between colons. -/
def colonParts (s : List Char) : List (List Char) :=
  s.foldr
    (fun c parts =>
      if c = ':' then [] :: parts
      else
        match parts with
        | [] => [[c]]
        | part :: rest => (c :: part) :: rest)
    [[]]

/-- A decimal integer of limited length. -/
def decimalInt (s : List Char) : Except Error Int :=
  match Numeral.decimalParts? s with
  | some (negative, digits) =>
    if digits.length > digitLimit then .error (.tooManyDigits digits.length)
    else .ok (Numeral.signed negative ((Numeral.digitsValue? 10 0 digits).getD 0))
  | none => .error (.notAnInteger 10 (String.ofList s))

/-- An integer in a base of few digits. -/
def intInBase (base : Nat) (s : List Char) : Except Error Int :=
  match Numeral.integerInBase? base s with
  | some n => .ok n
  | none => .error (.notAnInteger base (String.ofList s))

/-- An integer of which the sign has been read. -/
def unsignedInt (s : List Char) : Except Error Int :=
  match s with
  | [] => .error .emptyNumber
  | ['0'] => .ok 0
  | '0' :: 'b' :: rest => intInBase 2 rest
  | '0' :: 'x' :: rest => intInBase 16 rest
  | '0' :: rest => intInBase 8 ('0' :: rest)
  | s =>
    if s.contains ':' then
      ((colonParts s).mapM decimalInt).map fun parts =>
        parts.foldl (fun total part => total * 60 + part) 0
    else decimalInt s

/-- An integer that can be written out. -/
def writable (n : Int) : Except Error Int :=
  if n.natAbs < Nat.pow 10 digitLimit then .ok n else .error (.unread .longInteger)

/-- The value of an integer. -/
def intValue (text : String) : Except Error Int := do
  match withoutLines text with
  | [] => .error .emptyNumber
  | '-' :: rest => writable (-(← unsignedInt rest))
  | '+' :: rest => writable (← unsignedInt rest)
  | s => writable (← unsignedInt s)

/-- A decimal number that is no integer. -/
def decimalFloat (s : List Char) : Except Error Double :=
  match Numeral.double? s with
  | some x => .ok x
  | none => .error (.notANumber (String.ofList s))

/-- The sum of the parts of a number to base sixty, the last one first, from
a power of sixty on. Every step is rounded, and every power must be a double. -/
def sumSixtieths (power : Nat) (total : Double) : List Double → Except Error Double
  | [] => .ok total
  | part :: rest =>
    match Double.ofRatio false power 1 with
    | .infinite _ => .error .tooManyParts
    | weight => sumSixtieths (power * 60) (total.add (part.mul weight)) rest

/-- A number of which the sign has been read. -/
def unsignedFloat (s : List Char) : Except Error Double :=
  if s = ".inf".toList then .ok (.infinite false)
  else if s = ".nan".toList then .ok .nan
  else if s.contains ':' then do
    let parts ← (colonParts s).mapM decimalFloat
    sumSixtieths 1 (Double.zero false) parts.reverse
  else decimalFloat s

/-- The value of a number, in any case of its letters. -/
def floatValue (text : String) : Except Error Double :=
  match Text.lower (withoutLines text) with
  | [] => .error .emptyNumber
  | '-' :: rest => (unsignedFloat rest).map Double.neg
  | '+' :: rest => unsignedFloat rest
  | s => unsignedFloat s

end ContentGraph.Document.Yaml
