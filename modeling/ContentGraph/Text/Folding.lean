import ContentGraph.Text.Character
import ContentGraph.Text.Class.CaseMapping
import ContentGraph.Text.Class.Folding

/-!
# Comparing codes without regard to case

Patterns that ignore case compare the simple lower-case forms of codes, and
treat lower-case codes with a common upper-case form as one letter. Within
ASCII only the letters of ASCII are folded.
-/

namespace ContentGraph.Text

/-- The simple lower-case form of a code. -/
def simpleLower (c : Nat) : Nat := shifted simpleLowerShifts c

/-- The other lower-case codes with the same upper-case form. -/
def companions (c : Nat) : List Nat := (caseCompanions.lookup c).getD []

/-- Whether a code differs from one of its simple case forms. -/
def hasCaseVariant (c : Nat) : Bool := inSpans caseVariantSpans c

/-- Whether a code is a letter of ASCII. -/
def isAsciiLetter (c : Nat) : Bool := (65 ≤ c && c ≤ 90) || (97 ≤ c && c ≤ 122)

/-- The lower-case form of a code, for letters of ASCII alone. -/
def asciiLower (c : Nat) : Nat := if 65 ≤ c ∧ c ≤ 90 then c + 32 else c

/-- The codes below a limit that a shift table maps to a code. -/
def preimages (shifts : List Shift) (target : Nat) : List Nat :=
  shifts.filterMap fun (first, last, step, distance) =>
    let source : Int := (target : Int) - distance
    if (first : Int) ≤ source ∧ source ≤ (last : Int) ∧ (source.toNat - first) % step = 0 then
      some source.toNat
    else none

/-- The codes whose simple lower-case form is a given one: the code itself,
unless it has another lower-case form, and the codes shifted to it. -/
def simpleLowerSources (c : Nat) : List Nat :=
  (if simpleLower c = c then [c] else []) ++ preimages simpleLowerShifts c

end ContentGraph.Text
