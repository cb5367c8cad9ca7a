import ContentGraph.Schema.Kind
import ContentGraph.Value.Display

/-!
# Fields

A field of a type has one value of a kind, or a list of values of a kind; the
kind of a list's items is part of the type of the field and of no other. A
field may also say to which type it links, which fields the objects in it
have, and whether its value is found by following a reference.

Field maps keep the order in which their names were first written. Merging
them keeps that order too, and of several fields of one name the last one
counts.
-/

namespace ContentGraph

/-- The type of the values of a field. -/
inductive FieldType where
  /-- One value of a kind other than a list. -/
  | one (kind : FieldKind) (ne_list : kind ≠ .list := by decide)
  /-- A list of values of a kind. -/
  | listOf (items : FieldKind)
deriving DecidableEq

namespace FieldType

/-- The type of a link to a node. -/
def node : FieldType := one .node

/-- The kind of a field of this type. -/
def kind : FieldType → FieldKind
  | one k _ => k
  | listOf _ => .list

/-- The kind of the items of a list. -/
def itemKind? : FieldType → Option FieldKind
  | one _ _ => none
  | listOf k => some k

end FieldType

/-- A field of a type. -/
structure Field where
  /-- The type of its values. -/
  type : FieldType
  /-- A description for readers. -/
  description : String := ""
  /-- Whether there always is a value. -/
  nonNull : Bool := false
  /-- The type of the nodes that the field links to. -/
  targetType : Option String := none
  /-- The fields of the objects that the field holds. -/
  fields : Option (List (String × Field)) := none
  /-- Whether the value is found by following the reference in the node. -/
  followsReference : Bool := false

/-- The fields of a type, by name and in order. -/
abbrev FieldMap := List (String × Field)

/-- Why something is no field. -/
inductive FieldError where
  /-- A value is not the name of a kind. -/
  | unknownKind (given : Value)
  /-- A list without the kind of its items. -/
  | listWithoutItems
  /-- A kind for the items of something that is no list. -/
  | itemsOfNoList (kind : FieldKind)
deriving DecidableEq

namespace FieldError

/-- The wording of an error. -/
def message : FieldError → String
  | unknownKind given => given.shown ++ " is not a valid FieldKind"
  | listWithoutItems => "LIST fields require of_kind"
  | itemsOfNoList kind => "of_kind is only valid for LIST fields, not " ++ kind.name

end FieldError

/-- The kind that a value names. -/
def FieldKind.ofValue (v : Value) : Except FieldError FieldKind :=
  match v.string?.bind FieldKind.ofName? with
  | some kind => .ok kind
  | none => .error (.unknownKind v)

/-- The type of a field of a kind, with the kind of its items if it is a
list. -/
def FieldType.make (kind : FieldKind) (items : Option FieldKind) : Except FieldError FieldType :=
  match items with
  | none => if h : kind = .list then .error .listWithoutItems else .ok (.one kind h)
  | some k => if kind = .list then .ok (.listOf k) else .error (.itemsOfNoList kind)

namespace Field

/-- The type that a field links to, unless its name is empty. -/
def namedTarget (f : Field) : Option String := f.targetType.filter fun name => name ≠ ""

/-- A short label of a field's type: a list in brackets, a link by the name
of its target, and an exclamation mark if there always is a value. -/
def label (f : Field) : String :=
  let name :=
    match f.type with
    | .listOf .node => "[" ++ f.namedTarget.getD FieldKind.node.name ++ "]"
    | .listOf kind => "[" ++ kind.name ++ "]"
    | .one .node _ => f.namedTarget.getD FieldKind.node.name
    | .one kind _ => kind.name
  if f.nonNull then name ++ "!" else name

end Field

namespace FieldMap

/-- The field of a name. -/
def get? (name : String) (fields : FieldMap) : Option Field := fields.lookup name

/-- The names of the fields, in order. -/
def names (fields : FieldMap) : List String := fields.map fun entry => entry.1

/-- The fields after writing one under a name: a name that is there keeps its
place, a new one comes last. -/
def insert (name : String) (f : Field) : FieldMap → FieldMap
  | [] => [(name, f)]
  | (n, g) :: rest => if n = name then (n, f) :: rest else (n, g) :: insert name f rest

/-- The fields of one map written over those of another. -/
def update (base more : FieldMap) : FieldMap :=
  more.foldl (fun fields entry => insert entry.1 entry.2 fields) base

/-- The map of a list of fields written one after the other. -/
def ofList (entries : List (String × Field)) : FieldMap := update [] entries

/-- Several maps merged into one; of several fields of one name the last one
counts. A missing map adds nothing. -/
def merge (sources : List (Option FieldMap)) : FieldMap :=
  sources.foldl (fun fields source => update fields (source.getD [])) []

end FieldMap

/-- The fields that every type has: the identity of its nodes and their place
in the hierarchy. -/
def defaultFields : FieldMap :=
  [("id", { type := .one .id, nonNull := true, description := "The id of this node." }),
    ("type", { type := .one .string, description := "The type of this node" }),
    ("parent", { type := .node, description := "The parent of this node." }),
    ("children", { type := .listOf .node, description := "The children of this node." })]

/-- The fields of a type: the default ones, over them the ones inferred from
its nodes, and over these the ones that plugins add. -/
def typeFields (inferred fromPlugins : FieldMap) : FieldMap :=
  FieldMap.merge [some defaultFields, some inferred, some fromPlugins]

end ContentGraph
