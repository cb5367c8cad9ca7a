import ContentGraph.Filter.Test
import ContentGraph.Node

/-!
# Selecting nodes

A filter selects the nodes that meet all its conditions, in their order. The
values that a condition tests form a column, with one value for each node;
columns are named by the path with points between its names, and of two paths
with one such name the later fills the column. A mask that says which nodes
are still selected is narrowed by one condition after the other, over all
nodes each time.
-/

namespace ContentGraph.Filter

/-- The value reached from another one by the names of a path. -/
def descend (value : Value) : List Value → Value
  | [] => value
  | name :: rest =>
    match value with
    | .map entries => descend ((Entries.find? name entries).getD .null) rest
    | _ => .null

/-- The value of a node at a path, null if there is none. -/
def valueAt (n : Node) : List Value → Value
  | .string name :: rest => descend (n.get name) rest
  | _ => .null

/-- A column put under its name, over an earlier one of the same name. -/
def putColumn (name : String) (column : List Value) :
    List (String × List Value) → List (String × List Value)
  | [] => [(name, column)]
  | (n, c) :: rest =>
    if n = name then (name, column) :: rest else (n, c) :: putColumn name column rest

/-- The columns that conditions test. -/
def columns (nodes : List Node) (conditions : List Condition) :
    Except FilterError (List (String × List Value)) :=
  conditions.foldlM
    (fun known condition =>
      (dotted condition.path).map fun name =>
        putColumn name (nodes.map fun n => valueAt n condition.path) known)
    []

/-- A mask narrowed by a condition on a column. -/
def narrow (frame : List (String × List Value)) (mask : List Bool) (condition : Condition) :
    Except FilterError (List Bool) := do
  let name ← dotted condition.path
  let column := (frame.lookup name).getD []
  let passed ← column.mapM (test condition.op condition.operand)
  return List.zipWith (· && ·) mask passed

/-- Which nodes meet all conditions. -/
def mask (nodes : List Node) (conditions : List Condition) : Except FilterError (List Bool) := do
  let frame ← columns nodes conditions
  conditions.foldlM (narrow frame) (nodes.map fun _ => true)

/-- The items that a mask keeps. -/
def keep {α : Type} : List α → List Bool → List α
  | item :: items, kept :: mask => if kept then item :: keep items mask else keep items mask
  | _, _ => []

/-- The conditions of a filter; one that counts as false has none. -/
def conditionsOf (args : Value) : Except FilterError (List Condition) :=
  if args.isFalsy then .ok [] else flatten args

/-- The items whose nodes a filter selects, in order. -/
def select {α : Type} (node : α → Node) (args : Value) (items : List α) :
    Except FilterError (List α) := do
  let conditions ← conditionsOf args
  if conditions.isEmpty || items.isEmpty then return items
  else return keep items (← mask (items.map node) conditions)

end ContentGraph.Filter
