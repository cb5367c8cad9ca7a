import ContentGraph.Document.File
import ContentGraph.Document.FileName
import ContentGraph.Node.Collection

/-!
# Loading nodes

A file of nodes holds a list of records, or a map with such a list under
`nodes`. Its name decides in which notation it is read.
-/

namespace ContentGraph

/-- Why no nodes were loaded. -/
inductive LoadError where
  /-- There is no document under a name. -/
  | file (name : String) (error : Document.FileError)
  /-- The document holds no list. -/
  | notAList (name : String)
  /-- A record is no node. -/
  | node (error : NodeError)
deriving DecidableEq

namespace LoadError

/-- The wording of an error. -/
def message : LoadError → String
  | file name .notFound => "Nodes file not found: " ++ name
  | file name error =>
    if error.blamesFile then "Failed to read nodes file " ++ name ++ ": " ++ error.message
    else error.message
  | notAList name => "Nodes file " ++ name ++ " must contain a list of nodes"
  | node error => error.message

end LoadError

namespace Collection

/-- The records that a document holds, if it holds any. -/
def recordsIn? : Value → Option (List Value)
  | .list records => some records
  | .map entries =>
    match Entries.get? "nodes" entries with
    | some (.list records) => some records
    | _ => none
  | _ => none

/-- The nodes in the document found under a name, with room for some levels of
nesting. -/
def load (room : Nat) (name : String) (found : Document.Found) :
    Except LoadError Collection := do
  let shown := Document.FileName.shown name
  let document ←
    (found.read room (Document.FileName.format name)).mapError (LoadError.file shown)
  match recordsIn? document with
  | none => throw (.notAList shown)
  | some records => (ofRecords records).mapError .node

end Collection

end ContentGraph
