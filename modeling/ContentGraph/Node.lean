import ContentGraph.Value.Display
import ContentGraph.Value.Equality

/-!
# Nodes

A node is a content record whose identity and place in the hierarchy have
been read off: `Node.ofRecord` takes them out of a raw record, `Node.toRecord`
puts them back, and `Node.get` reads any attribute under the name it has in
the record. What is left of the record are the node's fields.
-/

namespace ContentGraph

/-- A content record with its identity and hierarchy attributes apart from
its fields. Only the identifier and the type are known to be texts; the other
attributes hold whatever the record held. -/
structure Node where
  /-- The identifier. -/
  id : String
  /-- The type, which groups a node with others of its kind. -/
  type : String
  /-- The identifier of the parent, or null. -/
  parent : Value
  /-- The identifiers of the children. -/
  children : List Value
  /-- The structural path, or null. -/
  path : Value
  /-- The identifier of the node this one was made from, or null. -/
  sourceNodeId : Value
  /-- Every other attribute. -/
  fields : Entries
  /-- An identifier is not empty. -/
  id_ne_empty : id ≠ ""
  /-- A type is not empty. -/
  type_ne_empty : type ≠ ""
deriving DecidableEq

/-- Why a record is no node. -/
inductive NodeError where
  /-- The record is not a map but a value with this name of its kind. -/
  | notAMap (typeName : String)
  /-- The record has no identifier or no type. -/
  | unidentified (record : Entries)
  /-- The identifier is not a text, or it is empty. -/
  | badId (id : Value)
  /-- The type is not a text, or it is empty. -/
  | badType (id : String)
  /-- The children are no collection of values. -/
  | badChildren
  /-- A child is a record without an identifier. -/
  | childWithoutId
deriving DecidableEq

namespace NodeError

/-- The wording of an error. -/
def message : NodeError → String
  | notAMap typeName => "Node record must be a mapping, got " ++ typeName
  | unidentified record =>
    "Node record is missing 'id' or 'type': " ++ (Value.map record).shown
  | badId id => "Node id must be a non-empty string, got " ++ id.shown
  | badType id => "Node " ++ Text.quoted id ++ " has no type tag"
  | badChildren => "Node children must be a collection"
  | childWithoutId => "Node child has no 'id'"

end NodeError

namespace Node

/-- The names under which a record holds the attributes that are no fields. -/
def reservedNames : List String :=
  ["id", "type", "parent", "children", "___path", "_sourceNodeId"]

/-- Whether an entry is a field, and not one of the reserved attributes. -/
def isField (entry : Value × Value) : Bool :=
  match entry.1 with
  | .string name => !reservedNames.contains name
  | _ => true

/-- A node of given attributes, whose identifier and type must be texts that
are not empty. -/
def make (id type parent : Value) (children : List Value) (path sourceNodeId : Value)
    (fields : Entries) : Except NodeError Node :=
  match id with
  | .string i =>
    if hi : i = "" then .error (.badId id)
    else
      match type with
      | .string t =>
        if ht : t = "" then .error (.badType i)
        else
          .ok
            { id := i, type := t, parent, children, path, sourceNodeId, fields
              id_ne_empty := hi, type_ne_empty := ht }
      | _ => .error (.badType i)
  | _ => .error (.badId id)

/-- The values that children are read from: the items of a list, the keys of
a map, the characters of a text or the numbers of bytes. -/
def childValues : Value → Except NodeError (List Value)
  | .list items => .ok items
  | .tuple items => .ok items
  | .map entries => .ok (entries.map (·.1))
  | .string s => .ok (s.toList.map fun c => .string (String.ofList [c]))
  | .bytes bs => .ok (bs.map fun b => .int b.toNat)
  | _ => .error .badChildren

/-- The identifier of a child. A child may be given as a record, of which
only the identifier is kept, and as it is; every other value is turned into
text. -/
def childId : Value → Except NodeError Value
  | .map entries =>
    match Entries.get? "id" entries with
    | some id => .ok id
    | none => .error .childWithoutId
  | v => .ok (.string v.text)

/-- The identifiers of the children given in a record. A value that counts as
false gives none. -/
def readChildren (v : Value) : Except NodeError (List Value) :=
  if v.isFalsy then .ok []
  else (childValues v).bind fun values => values.mapM childId

/-- The identifier of the parent given in a record: a parent may be given as
a record too. -/
def readParent : Value → Value
  | .map entries => (Entries.get? "id" entries).getD .null
  | v => v

/-- The node of a raw record. -/
def ofRecord : Value → Except NodeError Node
  | .map record =>
    match Entries.get? "id" record, Entries.get? "type" record with
    | some id, some type => do
      let children ← readChildren ((Entries.get? "children" record).getD .null)
      make id type (readParent ((Entries.get? "parent" record).getD .null)) children
        ((Entries.get? "___path" record).getD .null)
        ((Entries.get? "_sourceNodeId" record).getD .null)
        (record.filter isField)
    | _, _ => .error (.unidentified record)
  | v => .error (.notAMap v.typeName)

/-- An attribute that is written only if it is not null. -/
def optionalEntry (name : String) (v : Value) : Entries :=
  if v = .null then [] else [(.string name, v)]

/-- Entries written over others: an entry under a key that is already there
replaces the value at its place, and a new one comes last. Only fields that
were not read from a record can meet a reserved name. -/
def overwrite (base : Entries) (entries : Entries) : Entries :=
  entries.foldl (fun written entry => Entries.insert entry.1 entry.2 written) base

/-- The raw record of a node: its identity, the hierarchy attributes it has,
and its fields. -/
def toRecord (n : Node) : Entries :=
  overwrite
    ([(.string "id", .string n.id), (.string "type", .string n.type)]
      ++ optionalEntry "parent" n.parent
      ++ (if n.children.isEmpty then [] else [(.string "children", .list n.children)])
      ++ optionalEntry "___path" n.path
      ++ optionalEntry "_sourceNodeId" n.sourceNodeId)
    n.fields

/-- An attribute under the name it has in a record, if the node has it. The
reserved attributes are always there. -/
def get? (n : Node) (name : String) : Option Value :=
  if name = "id" then some (.string n.id)
  else if name = "type" then some (.string n.type)
  else if name = "parent" then some n.parent
  else if name = "children" then some (.list n.children)
  else if name = "___path" then some n.path
  else if name = "_sourceNodeId" then some n.sourceNodeId
  else Entries.get? name n.fields

/-- An attribute under the name it has in a record, or null. -/
def get (n : Node) (name : String) : Value := (n.get? name).getD .null

/-- What a node has under any key that a record can have. A key that is no text
is none of the reserved names, and it is looked up by equality in value. -/
def getKey? (n : Node) : Value → Option Value
  | .string name => n.get? name
  | key => Entries.find? key n.fields

end Node

end ContentGraph
