import ContentGraph.Value

/-!
# Equality in value

Two values are equal if they denote the same thing: `1`, `1.0` and `true` are
one number, and a map is equal to another with the same entries in any order.
Not a number equals nothing, itself included. A list never equals a tuple,
and a date never a moment.
-/

namespace ContentGraph.Value

/-- The number that a value denotes. Truth values count as zero and one. -/
def magnitude? : Value → Option Magnitude
  | bool b => some (.rational (if b then 1 else 0))
  | int n => some (.rational n)
  | float x => x.magnitude?
  | decimal d => some (.rational d.toRat)
  | _ => none

/-- Whether two values denote the same number. -/
def eqNumber (a b : Value) : Bool :=
  match a.magnitude?, b.magnitude? with
  | some p, some q => p == q
  | _, _ => false

/-- Whether two moments are the same. -/
def eqMoment (a b : Moment) : Bool :=
  match a.comparable? b with
  | some (p, q) => p == q
  | none => false

mutual

/-- Equality in value. -/
def eq : Value → Value → Bool
  | null, null => true
  | string a, string b => a == b
  | bytes a, bytes b => a == b
  | date a, date b => a == b
  | moment a, moment b => eqMoment a b
  | list a, list b => eqList a b
  | tuple a, tuple b => eqList a b
  | map a, map b => a.length == b.length && eqEntries a b
  | a, b => eqNumber a b

/-- Equality of lists, item by item. -/
def eqList : List Value → List Value → Bool
  | [], [] => true
  | a :: as, b :: bs => eq a b && eqList as bs
  | _, _ => false

/-- Whether every entry has an equal one among the others. -/
def eqEntries : List (Value × Value) → List (Value × Value) → Bool
  | [], _ => true
  | (k, v) :: rest, others =>
    (others.any fun other => eq k other.1 && eq v other.2) && eqEntries rest others

end

/-- Whether a value equals one of a list. -/
def memberOf (a : Value) (choices : List Value) : Bool := choices.any (eq a)

end ContentGraph.Value

namespace ContentGraph.Entries

/-- The value under a key, by equality in value. -/
def find? (key : Value) (entries : Entries) : Option Value :=
  (List.find? (fun entry => entry.1.eq key) entries).map fun entry => entry.2

/-- The entries after writing a value under a key: an equal key keeps its
place and its first spelling, a new one comes last. -/
def insert (key value : Value) : Entries → Entries
  | [] => [(key, value)]
  | (k, v) :: rest =>
    if k.eq key then (k, value) :: rest else (k, v) :: insert key value rest

/-- The entries written one after the other. -/
def ofPairs (pairs : List (Value × Value)) : Entries :=
  pairs.foldl (fun entries pair => insert pair.1 pair.2 entries) []

end ContentGraph.Entries
