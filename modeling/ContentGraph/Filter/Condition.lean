import ContentGraph.Schema.Kind
import ContentGraph.Value.Display

/-!
# Filter conditions

A filter is a nested map that mirrors the structure of a node, with maps from
operators to operands at its leaves. `flatten` turns it into conditions, each
a path, an operator and an operand, in the order in which they are written. A
map is a leaf if it is not empty and all its keys are operators; every other
value on the way must be a map that is not empty.
-/

namespace ContentGraph

/-- A condition on the value at a path. -/
structure Condition where
  /-- The names that lead to the value. -/
  path : List Value
  /-- The test. -/
  op : Operator
  /-- What the value is tested against. -/
  operand : Value
deriving DecidableEq

/-- Why a filter cannot be applied. -/
inductive FilterError where
  /-- The filter as a whole is no map. -/
  | notAMap
  /-- A value on the way to a leaf is not a map that is not empty. -/
  | malformed (path : String) (value : Value)
  /-- A name on a path is not a text. -/
  | unnamed
  /-- A pattern is no regular expression. -/
  | badPattern (pattern : String)
  /-- A pattern asks for too many repetitions. -/
  | tooManyRepetitions
  /-- A pattern asks for the classes of ASCII and for those of all scripts. -/
  | incompatibleFlags
  /-- A decimal is put in an order with what is not a number. -/
  | incomparable
deriving DecidableEq

namespace FilterError

/-- How a list of names is shown. -/
def namesShown (names : List String) : String :=
  "[" ++ joinWith ", " (names.map Text.quoted) ++ "]"

/-- The wording of an error. -/
def message : FilterError → String
  | notAMap => "A filter must be a mapping"
  | malformed path value =>
    "Invalid filter for '" ++ path ++ "': expected an operator mapping with one of "
      ++ namesShown Operator.sortedNames ++ ", got " ++ value.shown
  | unnamed => "Every name on a path must be a text"
  | badPattern pattern => "Invalid regex filter " ++ Text.quoted pattern ++ ": <regex error>"
  | tooManyRepetitions => "the repetition number is too large"
  | incompatibleFlags => "ASCII and UNICODE flags are incompatible"
  | incomparable => "comparison involving NaN"

end FilterError

namespace Filter

/-- The names of a path, if all of them are texts. -/
def pathNames? : List Value → Option (List String)
  | [] => some []
  | .string name :: rest => (pathNames? rest).map (name :: ·)
  | _ :: _ => none

/-- A path written with points between its names. -/
def dotted (path : List Value) : Except FilterError String :=
  match pathNames? path with
  | some names => .ok (joinWith "." names)
  | none => .error .unnamed

/-- The operator that a key names. -/
def operatorOfKey? : Value → Option Operator
  | .string name => Operator.ofName? name
  | _ => none

/-- The operators of a map with their operands, if all its keys are
operators. -/
def operands? : Entries → Option (List (Operator × Value))
  | [] => some []
  | (key, operand) :: rest =>
    match operatorOfKey? key, operands? rest with
    | some op, some others => some ((op, operand) :: others)
    | _, _ => none

/-- The conditions of a leaf, which is not empty. -/
def leaf? (path : List Value) (entries : Entries) : Option (List Condition) :=
  match entries with
  | [] => none
  | _ :: _ => (operands? entries).map fun pairs => pairs.map fun (op, x) => ⟨path, op, x⟩

/-- A value that has no place on a path. -/
def malformedAt {α : Type} (path : List Value) (value : Value) : Except FilterError α :=
  (dotted path).bind fun name => .error (.malformed name value)

mutual

/-- The conditions of the value at a path. -/
def flattenValue (path : List Value) : Value → Except FilterError (List Condition)
  | .map entries =>
    match leaf? path entries with
    | some conditions => .ok conditions
    | none =>
      if entries.isEmpty then malformedAt path (.map entries) else flattenEntries path entries
  | value => malformedAt path value

/-- The conditions of the entries of a map at a path. -/
def flattenEntries (path : List Value) :
    List (Value × Value) → Except FilterError (List Condition)
  | [] => .ok []
  | (key, value) :: rest => do
    let here ← flattenValue (path ++ [key]) value
    let others ← flattenEntries path rest
    return here ++ others

end

/-- The conditions of a filter. -/
def flatten : Value → Except FilterError (List Condition)
  | .map entries => flattenEntries [] entries
  | _ => .error .notAMap

end Filter

end ContentGraph
