/-!
# Kinds of fields and filter operators

Every field has a kind, by which its values are classified, and the kind
decides with which operators the field can be filtered.
-/

namespace ContentGraph

/-- The kind of the values of a field. -/
inductive FieldKind where
  /-- The identifier of a node. -/
  | id
  /-- A text. -/
  | string
  /-- An integer. -/
  | int
  /-- A number. -/
  | float
  /-- A truth value. -/
  | boolean
  /-- A date, or a date with a time. -/
  | date
  /-- Values of no common kind. -/
  | json
  /-- A list of values of one kind. -/
  | list
  /-- A map whose entries have fields of their own. -/
  | object
  /-- Another node. -/
  | node
deriving DecidableEq, Repr, Inhabited

namespace FieldKind

/-- All kinds. -/
def all : List FieldKind :=
  [id, string, int, float, boolean, date, json, list, object, node]

/-- The name of a kind. -/
def name : FieldKind → String
  | id => "ID"
  | string => "String"
  | int => "Int"
  | float => "Float"
  | boolean => "Boolean"
  | date => "Date"
  | json => "JSON"
  | list => "List"
  | object => "Object"
  | node => "Node"

/-- The kind with a given name. -/
def ofName? (s : String) : Option FieldKind := all.find? fun kind => kind.name == s

end FieldKind

/-- A test that a filter makes of the value of a field. -/
inductive Operator where
  /-- The value equals the operand. -/
  | eq
  /-- The value differs from the operand. -/
  | ne
  /-- The value is one of the operand's items. -/
  | oneOf
  /-- The value is none of the operand's items. -/
  | noneOf
  /-- The value holds a match of a regular expression. -/
  | regex
  /-- The value as a whole matches a wildcard pattern. -/
  | glob
  /-- The value is greater than the operand. -/
  | gt
  /-- The value is at least the operand. -/
  | gte
  /-- The value is smaller than the operand. -/
  | lt
  /-- The value is at most the operand. -/
  | lte
deriving DecidableEq, Repr, Inhabited

namespace Operator

/-- All operators. -/
def all : List Operator := [eq, ne, oneOf, noneOf, regex, glob, gt, gte, lt, lte]

/-- The name of an operator. -/
def name : Operator → String
  | eq => "eq"
  | ne => "ne"
  | oneOf => "in"
  | noneOf => "nin"
  | regex => "regex"
  | glob => "glob"
  | gt => "gt"
  | gte => "gte"
  | lt => "lt"
  | lte => "lte"

/-- The operator with a given name. -/
def ofName? (s : String) : Option Operator := all.find? fun op => op.name == s

/-- The names of all operators, in the order of a dictionary. -/
def sortedNames : List String :=
  ["eq", "glob", "gt", "gte", "in", "lt", "lte", "ne", "nin", "regex"]

/-- The operators on texts. -/
def ofTexts : List Operator := [eq, ne, oneOf, noneOf, regex, glob]

/-- The operators on numbers. -/
def ofNumbers : List Operator := [eq, ne, oneOf, noneOf, gt, gte, lt, lte]

end Operator

/-- The operators with which a field of a kind can be filtered. Kinds without
any cannot. -/
def FieldKind.operators : FieldKind → List Operator
  | id => Operator.ofTexts
  | string => Operator.ofTexts
  | date => Operator.ofTexts
  | int => Operator.ofNumbers
  | float => Operator.ofNumbers
  | boolean => [.eq, .ne]
  | json => []
  | list => []
  | object => []
  | node => []

end ContentGraph
