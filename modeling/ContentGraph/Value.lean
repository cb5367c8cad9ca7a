import ContentGraph.Calendar.Date
import ContentGraph.Number.Decimal

/-!
# Values

Content records are untyped: what a field holds is only discovered by looking
at it. A `Value` is everything that a record can hold: the scalars of data
files, lists and tuples, and maps. A map keeps the order in which its keys
were first written, and its keys are values too.
-/

namespace ContentGraph

/-- A value of a content record. -/
inductive Value where
  /-- No value. -/
  | null
  /-- A truth value. -/
  | bool (b : Bool)
  /-- An integer of any size. -/
  | int (n : Int)
  /-- A double-precision number. -/
  | float (x : Double)
  /-- A decimal number. -/
  | decimal (d : Decimal)
  /-- A text. -/
  | string (s : String)
  /-- A sequence of bytes. -/
  | bytes (bs : List UInt8)
  /-- A date. -/
  | date (d : Date)
  /-- A date with a time. -/
  | moment (m : Moment)
  /-- A list. -/
  | list (items : List Value)
  /-- A list of fixed length. -/
  | tuple (items : List Value)
  /-- A map, as its entries in order. -/
  | map (entries : List (Value × Value))
deriving Inhabited

/-- The entries of a map, in order. -/
abbrev Entries := List (Value × Value)

namespace Value

mutual

/-- Whether two values are written alike. -/
def same : Value → Value → Bool
  | null, null => true
  | bool a, bool b => a == b
  | int a, int b => a == b
  | float a, float b => a == b
  | decimal a, decimal b => a == b
  | string a, string b => a == b
  | bytes a, bytes b => a == b
  | date a, date b => a == b
  | moment a, moment b => a == b
  | list a, list b => sameList a b
  | tuple a, tuple b => sameList a b
  | map a, map b => sameEntries a b
  | _, _ => false

/-- Whether two lists of values are written alike. -/
def sameList : List Value → List Value → Bool
  | [], [] => true
  | a :: as, b :: bs => same a b && sameList as bs
  | _, _ => false

/-- Whether two lists of entries are written alike. -/
def sameEntries : List (Value × Value) → List (Value × Value) → Bool
  | [], [] => true
  | (k, v) :: as, (l, w) :: bs => same k l && same v w && sameEntries as bs
  | _, _ => false

end

mutual

theorem same_iff_eq : (a b : Value) → (same a b = true ↔ a = b)
  | null, b | bool _, b | int _, b | float _, b | decimal _, b | string _, b | bytes _, b
  | date _, b | moment _, b => by cases b <;> simp [same]
  | list xs, b => by cases b <;> simp [same, sameList_iff_eq xs]
  | tuple xs, b => by cases b <;> simp [same, sameList_iff_eq xs]
  | map es, b => by cases b <;> simp [same, sameEntries_iff_eq es]

theorem sameList_iff_eq : (as bs : List Value) → (sameList as bs = true ↔ as = bs)
  | [], bs => by cases bs <;> simp [sameList]
  | a :: as, bs => by
    cases bs with
    | nil => simp [sameList]
    | cons b bs => simp [sameList, same_iff_eq a b, sameList_iff_eq as bs]

theorem sameEntries_iff_eq :
    (as bs : List (Value × Value)) → (sameEntries as bs = true ↔ as = bs)
  | [], bs => by cases bs <;> simp [sameEntries]
  | (k, v) :: as, bs => by
    cases bs with
    | nil => simp [sameEntries]
    | cons b bs =>
      obtain ⟨l, w⟩ := b
      simp [sameEntries, same_iff_eq k l, same_iff_eq v w, sameEntries_iff_eq as bs]

end

/-- Two values are the same if they are written alike. This is finer than
their equality in value, which `Value.eq` decides. -/
instance : DecidableEq Value := fun a b => decidable_of_iff _ (same_iff_eq a b)

/-- The name of the kind of a value, as diagnostics call it. -/
def typeName : Value → String
  | null => "NoneType"
  | bool _ => "bool"
  | int _ => "int"
  | float _ => "float"
  | decimal _ => "Decimal"
  | string _ => "str"
  | bytes _ => "bytes"
  | date _ => "date"
  | moment _ => "datetime"
  | list _ => "list"
  | tuple _ => "tuple"
  | map _ => "dict"

/-- The text of a string value. -/
def string? : Value → Option String
  | string s => some s
  | _ => none

/-- The entries of a map. -/
def entries? : Value → Option Entries
  | map entries => some entries
  | _ => none

/-- The items of a list or tuple. -/
def items? : Value → Option (List Value)
  | list items => some items
  | tuple items => some items
  | _ => none

/-- Whether this is a string. -/
def isString : Value → Bool
  | string _ => true
  | _ => false

/-- Whether this is a map. -/
def isMap : Value → Bool
  | map _ => true
  | _ => false

/-- Whether this is a list or a tuple. -/
def isSequence : Value → Bool
  | list _ => true
  | tuple _ => true
  | _ => false

/-- A value counts as false if it is null, false, a zero or empty. -/
def isFalsy : Value → Bool
  | null => true
  | bool b => !b
  | int n => n == 0
  | float x => x.isZero
  | decimal d => d.coefficient == 0
  | string s => s.isEmpty
  | bytes bs => bs.isEmpty
  | date _ => false
  | moment _ => false
  | list items => items.isEmpty
  | tuple items => items.isEmpty
  | map entries => entries.isEmpty

/-- A missing value: null, or not a number. -/
def isMissing : Value → Bool
  | null => true
  | float x => x.isNaN
  | _ => false

mutual

/-- Whether a value can be a key: lists and maps cannot, and neither can a
tuple that holds one. -/
def canBeKey : Value → Bool
  | list _ => false
  | map _ => false
  | tuple items => allCanBeKeys items
  | _ => true

/-- Whether every value of a list can be a key. -/
def allCanBeKeys : List Value → Bool
  | [] => true
  | item :: rest => canBeKey item && allCanBeKeys rest

end

end Value

namespace Entries

/-- The value under a name, the first one if the name is repeated. -/
def get? (name : String) : Entries → Option Value
  | [] => none
  | (k, v) :: rest => if k = .string name then some v else get? name rest

/-- Whether an entry has the name for its key. -/
def hasName (name : String) (entries : Entries) : Bool := (get? name entries).isSome

end Entries

end ContentGraph
