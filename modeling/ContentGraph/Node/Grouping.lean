import ContentGraph.Node.Collection

/-!
# Grouping by type

The nodes of a collection are grouped by their types. Groups appear where
their type is first met and keep the order of the collection. The types that
mark the root of the node tree hold no content, so their groups are dropped.
-/

namespace ContentGraph

/-- The types that mark the root of the node tree. -/
def reservedRootTypes : List String := ["root", "rootDirectory"]

/-- Whether a type marks the root of the node tree. -/
def isReservedRoot (type : String) : Bool := reservedRootTypes.contains type

/-- The nodes of one type. -/
structure Group where
  /-- The type. -/
  type : String
  /-- The nodes, in the order of the collection. -/
  members : List Member
deriving DecidableEq

namespace Group

/-- A member added to the group of its type, which is opened at the end if
there is none yet. -/
def add (m : Member) : List Group → List Group
  | [] => [⟨m.node.type, [m]⟩]
  | g :: rest =>
    if g.type = m.node.type then ⟨g.type, g.members ++ [m]⟩ :: rest else g :: add m rest

/-- The groups of a list of members. -/
def ofMembers (members : List Member) : List Group :=
  members.foldl (fun groups m => add m groups) []

end Group

/-- The groups of a collection, without the roots. -/
def Collection.groups (c : Collection) : List Group :=
  (Group.ofMembers c.members).filter fun g => !isReservedRoot g.type

end ContentGraph
