import ContentGraph.Value.Equality

/-!
# Order of scalars

Numbers are ordered by size, texts by the codes of their characters, bytes
and dates in the usual way, and moments if both or neither have an offset.
Values of unlike kinds have no order, and neither have containers.

Not a number is smaller than no number and no number is smaller than it, but for
decimals, which cannot even be compared with it (`Value.isIncomparable`).
-/

namespace ContentGraph.Value

/-- Whether a sequence of bytes comes before another. -/
def bytesLt : List UInt8 → List UInt8 → Bool
  | _, [] => false
  | [], _ :: _ => true
  | a :: as, b :: bs => a < b || (a == b && bytesLt as bs)

/-- Whether a value has the type of a number. -/
def isNumber : Value → Bool
  | bool _ => true
  | int _ => true
  | float _ => true
  | decimal _ => true
  | _ => false

/-- Whether one number is smaller than another; not a number never is. -/
def ltNumber (a b : Value) : Bool :=
  match a.magnitude?, b.magnitude? with
  | some p, some q => p.lt q
  | _, _ => false

/-- Whether one of two values is a decimal and the other not a number. -/
def isIncomparable : Value → Value → Bool
  | decimal _, float x => x.isNaN
  | float x, decimal _ => x.isNaN
  | _, _ => false

/-- Whether a value is smaller than another, if the two have an order. Of values
that cannot be compared it is not to be asked (`isIncomparable`). -/
def lt? : Value → Value → Option Bool
  | string a, string b => some (decide (a < b))
  | bytes a, bytes b => some (bytesLt a b)
  | date a, date b => some (a.lt b)
  | moment a, moment b => (a.comparable? b).map fun (p, q) => decide (p < q)
  | a, b => if a.isNumber && b.isNumber then some (ltNumber a b) else none

/-- Whether a value is at most another, if the two have an order. -/
def le? (a b : Value) : Option Bool := (lt? a b).map fun less => less || a.eq b

end ContentGraph.Value
