import ContentGraph.Calendar.Iso
import ContentGraph.Schema.Kind
import ContentGraph.Value.Equality

/-!
# Columns

The values that a sample of records holds under one name form a column. Its
values are classified together: they may all be lists, all be objects, or
mixed with such; otherwise they are scalars, of one class if all of them have
it, and of none in common if not. Texts that are all dates are dates.
-/

namespace ContentGraph

/-- What the containers in a column have in common. -/
inductive Container where
  /-- Every value is a list. -/
  | lists
  /-- Every value is an object. -/
  | objects
  /-- Some value is a list or an object, and not every one is alike. -/
  | mixed
deriving DecidableEq, Repr

/-- The class of the scalars in a column. -/
inductive ScalarClass where
  | string
  | int
  | float
  | boolean
  | date
  /-- No class in common. -/
  | other
deriving DecidableEq, Repr

namespace ScalarClass

/-- The kind of a field with values of this class. -/
def kind : ScalarClass → FieldKind
  | string => .string
  | int => .int
  | float => .float
  | boolean => .boolean
  | date => .date
  | other => .json

theorem kind_ne_list (c : ScalarClass) : c.kind ≠ .list := by cases c <;> decide

end ScalarClass

/-- The kind of a field with such containers. -/
def Container.kind : Container → FieldKind
  | lists => .list
  | objects => .object
  | mixed => .json

namespace Column

/-- The values that are not missing. -/
def present (values : List Value) : List Value := values.filter fun v => !v.isMissing

/-- What the containers of a column have in common; scalars alone have no
containers. -/
def container? (values : List Value) : Option Container :=
  if values.isEmpty then none
  else if values.all Value.isSequence then some .lists
  else if values.all Value.isMap then some .objects
  else if values.any fun v => v.isSequence || v.isMap then some .mixed
  else none

/-- The items of all lists of a column that are not missing. -/
def items (values : List Value) : List Value :=
  present (values.flatMap fun v => v.items?.getD [])

/-- Whether a value is a text with a date in it. -/
def isDateString : Value → Bool
  | .string s => isDateText s
  | _ => false

/-- Whether every value is a text with a date in it; an empty column is none
of dates. -/
def isDates (values : List Value) : Bool := !values.isEmpty && values.all isDateString

/-- Whether a value is an integer, truth values not counted. -/
def isInt : Value → Bool
  | .int _ => true
  | _ => false

/-- Whether a value is an integer or a double. -/
def isIntOrFloat : Value → Bool
  | .int _ => true
  | .float _ => true
  | _ => false

/-- Whether a value is a truth value. -/
def isBool : Value → Bool
  | .bool _ => true
  | _ => false

/-- Whether a value is a decimal. -/
def isDecimal : Value → Bool
  | .decimal _ => true
  | _ => false

/-- Whether a value is a date, with a time or without. -/
def isDate : Value → Bool
  | .date _ => true
  | .moment _ => true
  | _ => false

/-- The class of the scalars of a column. -/
def scalarClass (values : List Value) : ScalarClass :=
  if values.isEmpty then .other
  else if values.all Value.isString then if isDates values then .date else .string
  else if values.all isInt then .int
  else if values.all isIntOrFloat then .float
  else if values.all isDecimal then .float
  else if values.all isBool then .boolean
  else if values.all isDate then .date
  else .other

end Column

end ContentGraph
