/-!
# Spans of character codes

A class of characters is given by *spans* of codes, in increasing order. A
span has a first code, a last code and a step, so that one span covers an
alphabet whose two cases alternate. A *shift* is a span with the distance
from each of its codes to the code it is mapped to.
-/

namespace ContentGraph.Text

/-- A span of codes: the first, the last, and the step between them. -/
abbrev Span := Nat × Nat × Nat

/-- A span of codes with the distance each of them is moved by. -/
abbrev Shift := Nat × Nat × Nat × Int

/-- Whether a code lies in one of the spans, which are in increasing order:
the search ends at the first span that reaches the code. -/
def inSpans : List Span → Nat → Bool
  | [], _ => false
  | (first, last, step) :: rest, c =>
    if c < first then false
    else if c ≤ last then (c - first) % step == 0
    else inSpans rest c

/-- The distance a code is moved by, if one of the shifts covers it. -/
def shiftOf? : List Shift → Nat → Option Int
  | [], _ => none
  | (first, last, step, distance) :: rest, c =>
    if c < first then none
    else if c ≤ last then
      if (c - first) % step == 0 then some distance else none
    else shiftOf? rest c

/-- The code moved by the shift that covers it; other codes stay. -/
def shifted (shifts : List Shift) (c : Nat) : Nat :=
  match shiftOf? shifts c with
  | some distance => (c + distance).toNat
  | none => c

end ContentGraph.Text
