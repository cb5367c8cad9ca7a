import ContentGraph.Inference.Shape
import ContentGraph.Link.Media
import ContentGraph.Log
import ContentGraph.Node
import ContentGraph.Schema.Argument
import ContentGraph.Text.Case
import ContentGraph.Text.TypedName

/-!
# Fields from shapes

A field map is read off the shapes of a sample. A column of scalars at the
top becomes a link if its name ends in a registered type, or if it holds
texts, its name ends in no type, its first value names a file and files are
registered. Keys of nested objects never link, for a reference is followed
from the node itself.

The arguments of a look-up are read off the same shapes, without any links.
-/

namespace ContentGraph

/-- A type that fields can link to. -/
structure LinkTarget where
  /-- The type. -/
  name : String
  /-- Whether references to it can be followed. -/
  hasField : Bool
deriving DecidableEq, Repr

/-- The type of the nodes that are files. -/
def fileType : String := "File"

namespace LinkTarget

/-- The first type of a name, if references to it can be followed. -/
def find? (targets : List LinkTarget) (name : String) : Option LinkTarget :=
  (targets.find? fun t => t.name == name).filter fun t => t.hasField

end LinkTarget

namespace Shape

/-- A field that links to a type. -/
def linkTo (type : String) : Field :=
  { type := .node
    targetType := some type
    description := "Link to a " ++ type ++ " node."
    followsReference := true }

/-- Whether a value is a text that names a file. -/
def isFileLink : Value → Bool
  | .string s => Media.namesFile s
  | _ => false

/-- The link that a column of scalars is, if it is one. -/
def link? (targets : List LinkTarget) (name : String) (cls : ScalarClass) (first : Value) :
    Option Field :=
  match Text.typeSuffix? name with
  | some suffix =>
    (LinkTarget.find? targets (Text.capitalize suffix)).map fun t => linkTo t.name
  | none =>
    if cls = .string ∧ isFileLink first then
      (LinkTarget.find? targets fileType).map fun t => linkTo t.name
    else none

/-- The field of a column of scalars that is no link. -/
def plain (cls : ScalarClass) : Field := { type := .one cls.kind cls.kind_ne_list }

mutual

/-- The field of a column. -/
def field (targets : List LinkTarget) (name : String) : Shape → Field
  | scalar cls first => (link? targets name cls first).getD (plain cls)
  | scalars cls => { type := .listOf cls.kind }
  | anything => { type := .listOf .json }
  | mixed => { type := .one .json }
  | object columns => { type := .one .object, fields := some (nestedFields [] columns) }
  | objects columns => { type := .listOf .object, fields := some (nestedFields [] columns) }

/-- The fields of the columns of nested objects, written over those already
there. -/
def nestedFields (written : FieldMap) : List (String × Shape) → FieldMap
  | [] => written
  | (name, shape) :: rest =>
    nestedFields (FieldMap.insert name (field [] name shape) written) rest

end

/-- The fields of columns, given the types that they can link to. -/
def fields (targets : List LinkTarget) (columns : List (String × Shape)) : FieldMap :=
  FieldMap.ofList (columns.map fun (name, shape) => (name, field targets name shape))

/-- What is noted of a column whose name ends in a type that it cannot link
to. -/
def unlinkedNote (targets : List LinkTarget) (name : String) : List LogEntry :=
  match Text.typeSuffix? name with
  | none => []
  | some suffix =>
    let type := Text.capitalize suffix
    match LinkTarget.find? targets type with
    | some _ => []
    | none => [⟨.debug, "Field '" ++ name ++ "' names type " ++ type ++ " which has no nodes"⟩]

mutual

/-- What is noted of a column. -/
def notes (targets : List LinkTarget) (name : String) : Shape → List LogEntry
  | scalar _ _ => unlinkedNote targets name
  | scalars _ => []
  | anything => []
  | mixed => []
  | object columns => allNotes [] columns
  | objects columns => allNotes [] columns

/-- What is noted of columns. -/
def allNotes (targets : List LinkTarget) : List (String × Shape) → List LogEntry
  | [] => []
  | (name, shape) :: rest => notes targets name shape ++ allNotes targets rest

end

end Shape

namespace Inference

/-- The first values of a list; a negative number is counted from the end. -/
def firstValues (count : Int) (values : List Value) : List Value :=
  if count < 0 then values.take (values.length - count.natAbs) else values.take count.toNat

/-- The columns of records, of which a number is sampled. -/
def columnsOf (size : Int) (records : List Value) : List (String × Shape) :=
  Shape.ofRecords (firstValues size records)

/-- The open-ended attributes of nodes, as records. -/
def nodeRecords (nodes : List Node) : List Value :=
  nodes.map fun n => .map (n.fields.filter Node.isField)

/-- The fields of records, given the types that they can link to. -/
def fieldsOfRecords (targets : List LinkTarget) (size : Int) (records : List Value) : FieldMap :=
  Shape.fields targets (columnsOf size records)

/-- The fields of nodes, given the types that they can link to. -/
def fieldsOfNodes (targets : List LinkTarget) (size : Int) (nodes : List Node) : FieldMap :=
  fieldsOfRecords targets size (nodeRecords nodes)

/-- What is noted while the fields of nodes are inferred. -/
def notesOfNodes (targets : List LinkTarget) (size : Int) (nodes : List Node) : List LogEntry :=
  Shape.allNotes targets (columnsOf size (nodeRecords nodes))
    ++ [⟨.debug, "Inferred " ++ toString (fieldsOfNodes targets size nodes).length
          ++ " fields from " ++ toString (min (nodes.length : Int) size) ++ " nodes"⟩]

/-- The arguments of a look-up among nodes, below a path. -/
def argumentsOfNodes (path : String) (nodes : List Node) : ArgumentMap :=
  ArgumentMap.update (Argument.ofIdentity path)
    (Argument.ofFields path (fieldsOfNodes [] sampleSize nodes))

/-- What is noted while the arguments of a look-up are inferred. -/
def argumentNotes (nodes : List Node) : List LogEntry :=
  Shape.allNotes [] (columnsOf sampleSize (nodeRecords nodes))

end Inference

end ContentGraph
