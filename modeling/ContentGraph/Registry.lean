import ContentGraph.Filter.Select
import ContentGraph.Inference.Fields
import ContentGraph.Node.Grouping
import ContentGraph.Reference.Follow
import ContentGraph.Text.Word

/-!
# The registry of types

A registry holds what was built for each type of node: its nodes, the fields
that plugins add to it, the arguments of its look-up. A type is found by its
name or by its key, which is the name in camel case, and the types stand in
the order in which they were finished.

The fields of a type are computed from the whole registry, because a field may
link to any type in it.
-/

namespace ContentGraph

/-- How types are inferred from nodes, and how nodes are looked up. -/
structure Engine where
  /-- The fields of nodes, given the types that they can link to. -/
  fields : List LinkTarget → List Node → FieldMap
  /-- What is noted while fields are inferred. -/
  fieldNotes : List LinkTarget → List Node → List LogEntry
  /-- The arguments of a look-up among nodes. -/
  arguments : List Node → ArgumentMap
  /-- What is noted while arguments are inferred. -/
  argumentNotes : List Node → List LogEntry
  /-- The members that a filter selects. -/
  select : Value → List Member → Except FilterError (List Member)

/-- The engine that infers everything from a sample of the nodes and filters
by conditions. -/
def Engine.standard : Engine where
  fields := fun targets nodes => Inference.fieldsOfNodes targets sampleSize nodes
  fieldNotes := fun targets nodes => Inference.notesOfNodes targets sampleSize nodes
  arguments := Inference.argumentsOfNodes ""
  argumentNotes := Inference.argumentNotes
  select := Filter.select Member.node

/-- What was built for one type. -/
structure TypeDescriptor where
  /-- The type with its nodes. -/
  group : Group
  /-- The fields that plugins add. -/
  pluginFields : FieldMap
  /-- The arguments of the look-up. -/
  arguments : ArgumentMap

namespace TypeDescriptor

/-- The type as it stands on the nodes. -/
def name (d : TypeDescriptor) : String := d.group.type

/-- The key of the type: its name in camel case. -/
def key (d : TypeDescriptor) : String := Text.camelCase d.name

/-- The nodes of the type. -/
def members (d : TypeDescriptor) : List Member := d.group.members

/-- The nodes of the type, without their places. -/
def nodes (d : TypeDescriptor) : List Node := d.members.map (·.node)

/-- A description for readers. -/
def description (d : TypeDescriptor) : String := "Node of type " ++ d.name

/-- The name of the field by which references to the type are followed. -/
def referenceName (d : TypeDescriptor) : String := Text.camelCase (d.name ++ " field")

/-- Whether a node is one of the type. -/
def accepts (d : TypeDescriptor) (n : Node) : Bool := n.type == d.name

/-- Whether a value is one of the type: a record that has the type's name for
its type. -/
def acceptsValue (d : TypeDescriptor) : Value → Bool
  | .map entries => ((Entries.get? "type" entries).getD .null).eq (.string d.name)
  | _ => false

/-- The type as one that fields can link to. -/
def target (d : TypeDescriptor) : LinkTarget := ⟨d.name, true⟩

end TypeDescriptor

/-- The interfaces that every type of nodes has. -/
def nodeInterfaces : List String := ["Node"]

/-- Everything that was built. -/
structure Registry where
  /-- The types, in the order in which they were finished. -/
  descriptors : List TypeDescriptor
  /-- The nodes and the configuration of the build. -/
  context : Context
  /-- The engine of the build. -/
  engine : Engine

namespace Registry

/-- The keys of the types, in order. -/
def keys (r : Registry) : List String := r.descriptors.map (·.key)

/-- How many types there are. -/
def size (r : Registry) : Nat := r.descriptors.length

/-- The names of the types, in order. -/
def tags (r : Registry) : List String := r.descriptors.map (·.name)

/-- The type of a key. -/
def get? (r : Registry) (key : String) : Option TypeDescriptor :=
  r.descriptors.find? fun d => d.key == key

/-- The type of a name. -/
def byTag? (r : Registry) (name : String) : Option TypeDescriptor :=
  r.descriptors.find? fun d => d.name == name

/-- The types that fields can link to: all of them. -/
def targets (r : Registry) : List LinkTarget := r.descriptors.map (·.target)

/-- The fields of a type. -/
def fields (r : Registry) (d : TypeDescriptor) : FieldMap :=
  typeFields (r.engine.fields r.targets d.nodes) d.pluginFields

/-- What is noted while the fields of a type are computed. -/
def fieldNotes (r : Registry) (d : TypeDescriptor) : List LogEntry :=
  r.engine.fieldNotes r.targets d.nodes

/-- The first node of a type that a filter selects. Arguments that count as
false are none. -/
def lookup (r : Registry) (d : TypeDescriptor) (args : Value) :
    Except FilterError (Option Member) :=
  (r.engine.select (if args.isFalsy then .map [] else args) d.members).map List.head?

/-- Texts in the order of their characters' codes. -/
def sorted (texts : List String) : List String := texts.mergeSort fun a b => decide (a ≤ b)

/-- The types in the order of their keys. -/
def sortedDescriptors (r : Registry) : List TypeDescriptor :=
  (sorted r.keys).filterMap r.get?

/-- A line about a type: its key and name, and how many nodes and fields it
has. -/
def summaryLine (r : Registry) (d : TypeDescriptor) : String :=
  d.key ++ " (" ++ d.name ++ "): " ++ toString d.members.length ++ " nodes, "
    ++ toString (r.fields d).length ++ " fields"

/-- A line about every type, in the order of the keys. -/
def summary (r : Registry) : List String := r.sortedDescriptors.map r.summaryLine

end Registry

end ContentGraph
