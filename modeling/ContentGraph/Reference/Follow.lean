import ContentGraph.Inference.Fields
import ContentGraph.Link.Path
import ContentGraph.Node.Collection
import ContentGraph.Reference.Resolution
import ContentGraph.Site

/-!
# Following references

A field of a node may refer to another node. A value that names a file is
followed first, whatever the field is called, from the directory of the file
that the node was made from, which itself may have to be taken from the working
directory. Then the type that the field links to is found,
by the end of its name or in the configuration, and the value is looked up as
the identifier of a node of that type; for files it is also tried as a path.
An empty value refers to nothing, and no look-up is made for it.
-/

namespace ContentGraph

/-- What is known when references are followed. -/
structure Context where
  /-- All nodes. -/
  nodes : Collection
  /-- The configuration of the site. -/
  config : SiteConfig

namespace Reference

/-- Whether a value refers to nothing. -/
def isEmpty : Value → Bool
  | .null => true
  | .bool b => !b
  | .int n => n == 0
  | .float x => x.isZero || x.isNaN
  | .string s => s.isEmpty
  | .list items => items.isEmpty
  | .tuple items => items.isEmpty
  | .map entries => entries.isEmpty
  | _ => false

/-- The directory of the file that a node was made from, if it is known. -/
def sourceDirectory? (context : Context) (n : Node) : Option String :=
  (context.nodes.find? fileType n.sourceNodeId).bind fun source =>
    match source.node.get "dir" with
    | .string directory => if directory = "" then none else some directory
    | _ => none

/-- The type that a field links to: the end of its name decides, and without
one the configuration, asked first by type and then by path. -/
def linkedType? (config : SiteConfig) (n : Node) (field : String) : Option String :=
  match Text.typeSuffix? field with
  | some suffix => some (Text.capitalize suffix)
  | none =>
    config.mappedType?
      [some (n.type ++ "." ++ field),
        if n.path.isFalsy then none else some (n.path.text ++ "." ++ field)]

/-- The path that a value leads to, if it is a text and the directory to
start from is known. -/
def linkPath? (working : String) (directory : Option String) : Value → Option String
  | .string s => directory.map fun d => Path.resolve working d s
  | _ => none

/-- The file at a path. -/
def fileAt? (context : Context) (path : Option String) : Option Member :=
  path.bind fun p => context.nodes.find? fileType (.string p)

/-- Follows the path of a value that is not the name of a file. -/
def resolvePath (context : Context) (targetType : Option String) (path : Option String) :
    Resolution Member :=
  if targetType = some fileType then
    match fileAt? context path with
    | some file => ⟨.linked .pathFallback file, targetType, path⟩
    | none => ⟨.unresolved, targetType, path⟩
  else ⟨.unresolved, targetType, none⟩

/-- Follows a value to a node of the type linked to. -/
def resolveTyped (context : Context) (targetType : Option String) (value : Value)
    (path : Option String) : Resolution Member :=
  match (targetType.filter fun t => t ≠ "").bind fun t => context.nodes.find? t value with
  | some n => ⟨.linked .directId n, targetType, none⟩
  | none => resolvePath context targetType path

/-- Follows a value that is not empty. -/
def resolveValue (working : String) (context : Context) (n : Node) (field : String)
    (value : Value) : Resolution Member :=
  let path := linkPath? working (sourceDirectory? context n) value
  let targetType := linkedType? context.config n field
  match if Shape.isFileLink value then fileAt? context path else none with
  | some file => ⟨.linked .fileLink file, some fileType, path⟩
  | none => resolveTyped context targetType value path

/-- Where the reference in a field of a node leads, while the program works in a
directory. -/
def resolve (working : String) (context : Context) (n : Node) (field : String) :
    Resolution Member :=
  let value := n.get field
  if isEmpty value then ⟨.empty, linkedType? context.config n field, none⟩
  else resolveValue working context n field value

/-- What is said of a reference that leads nowhere. -/
def unresolvedMessage (n : Node) (field : String) (targetType : Option String) : String :=
  "Unable to load the linked " ++ (targetType.filter fun t => t ≠ "").getD "node"
    ++ " for field '" ++ field ++ "' of node " ++ n.id ++ " ("
    ++ (if n.path.isFalsy then n.type else n.path.text) ++ ")"

/-- What is logged of a result. -/
def logOf (n : Node) (field : String) (r : Resolution Member) : List LogEntry :=
  match r.outcome with
  | .unresolved => [⟨.error, unresolvedMessage n field r.targetType⟩]
  | _ => []

/-- The node that the reference in a field leads to, with what is logged. -/
def follow (working : String) (context : Context) (n : Node) (field : String) :
    Option Member × List LogEntry :=
  let r := resolve working context n field
  (r.outcome.node?, logOf n field r)

end Reference

end ContentGraph
