import ContentGraph.Node.Collection

/-!
# Slices of a collection

A slice runs from a start to a stop in steps, forwards or backwards. Negative
bounds are counted from the end, bounds that lie outside are moved to the
nearest end, and a missing bound is the end that the direction implies.
-/

namespace ContentGraph

/-- The bounds of a slice, each of which may be left out. -/
structure Slice where
  /-- Where to start. -/
  start : Option Int
  /-- Where to stop; this place is not taken. -/
  stop : Option Int
  /-- The distance from one place to the next. -/
  step : Int

namespace Slice

/-- A bound counted from the front and moved between two limits. -/
def clamp (size low high : Int) (bound : Int) : Int :=
  let place := if bound < 0 then bound + size else bound
  max low (min high place)

/-- The place of the first item. -/
def first (s : Slice) (size : Nat) : Int :=
  if s.step < 0 then (s.start.map (clamp size (-1) (size - 1))).getD (size - 1)
  else (s.start.map (clamp size 0 size)).getD 0

/-- The place before which the slice ends. -/
def limit (s : Slice) (size : Nat) : Int :=
  if s.step < 0 then (s.stop.map (clamp size (-1) (size - 1))).getD (-1)
  else (s.stop.map (clamp size 0 size)).getD size

/-- How many items there are between two places, both in the direction of the
step. -/
def count (first limit step : Int) : Nat :=
  let distance := if step < 0 then first - limit else limit - first
  if distance ≤ 0 then 0 else ((distance - 1) / step.natAbs + 1).toNat

/-- The places of the items. -/
def places (s : Slice) (size : Nat) : List Int :=
  (List.range (count (s.first size) (s.limit size) s.step)).map
    fun (k : Nat) => s.first size + s.step * (k : Int)

end Slice

/-- The members of a slice; a step of zero has none that could be told. -/
def Collection.slice? (c : Collection) (s : Slice) : Option (List Member) :=
  if s.step = 0 then none
  else some ((s.places c.size).filterMap fun place => c.members[place.toNat]?)

end ContentGraph
