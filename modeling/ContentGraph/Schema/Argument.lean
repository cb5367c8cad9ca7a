import ContentGraph.Schema.Field

/-!
# Filter arguments

The look-up of a type takes arguments that mirror its fields: a field that
can be filtered has an argument with the operators of its kind, and a field
with objects has an argument for each of theirs, under names joined with
points. A field without any operators below it has no argument.
-/

namespace ContentGraph

/-- A filter argument. -/
inductive Argument where
  /-- An argument for a field of some kind, with its operators. -/
  | leaf (name : String) (kind : FieldKind) (operators : List Operator)
  /-- The arguments for the fields of an object. -/
  | group (name : String) (arguments : List (String × Argument))
deriving Inhabited

/-- The arguments of a look-up, by name and in order. -/
abbrev ArgumentMap := List (String × Argument)

namespace ArgumentMap

/-- The arguments after writing one under a name: a name that is there keeps
its place, a new one comes last. -/
def insert (name : String) (a : Argument) : ArgumentMap → ArgumentMap
  | [] => [(name, a)]
  | (n, b) :: rest => if n = name then (n, a) :: rest else (n, b) :: insert name a rest

/-- The arguments of one map written over those of another. -/
def update (base more : ArgumentMap) : ArgumentMap :=
  more.foldl (fun arguments entry => insert entry.1 entry.2 arguments) base

end ArgumentMap

namespace Argument

/-- A name below a path. -/
def joinPath (path name : String) : String := if path = "" then name else path ++ "." ++ name

/-- Whether the values of a type of field are objects. -/
def holdsObjects : FieldType → Bool
  | .one .object _ => true
  | .listOf .object => true
  | _ => false

/-- The kind by which a field is filtered: that of its items if it is a
list. -/
def filteredKind (type : FieldType) : FieldKind := type.itemKind?.getD type.kind

mutual

/-- The argument of a field at a path, if there is one. -/
def ofField (path : String) : Field → Option Argument
  | ⟨type, _, _, _, fields, _⟩ =>
    if holdsObjects type then
      match fields with
      | none => none
      | some fields =>
        match ofFields path fields with
        | [] => none
        | arguments => some (.group path arguments)
    else
      match (filteredKind type).operators with
      | [] => none
      | operators => some (.leaf path (filteredKind type) operators)

/-- The arguments of the fields below a path. -/
def ofFields (path : String) : List (String × Field) → ArgumentMap
  | [] => []
  | (name, f) :: rest =>
    match ofField (joinPath path name) f with
    | some argument => (name, argument) :: ofFields path rest
    | none => ofFields path rest

end

/-- The arguments for the identity of a node, which every look-up takes. -/
def ofIdentity (path : String) : ArgumentMap :=
  [("id", .leaf (joinPath path "id") .id FieldKind.id.operators),
    ("type", .leaf (joinPath path "type") .string FieldKind.string.operators)]

end Argument

end ContentGraph
