import ContentGraph.Node
import Std.Data.HashMap

/-!
# Collections of nodes

All nodes of one pass, in order. Two nodes with equal contents are still two,
so the members of a collection carry their place in it. A collection answers
two look-ups, by identifier and by type and identifier, from indexes that are
built once; identifiers may repeat, and the first node in order is the one
that is found.
-/

namespace ContentGraph

/-- A node at its place in a collection. -/
structure Member where
  /-- The place, counted from zero. -/
  index : Nat
  /-- The node. -/
  node : Node
deriving DecidableEq

/-- All nodes of one pass, in order, with the indexes for look-ups. -/
structure Collection where
  /-- The nodes at their places. -/
  members : List Member
  /-- The first member with each identifier. -/
  byId : Std.HashMap String Member
  /-- The first member with each pair of a type and an identifier. -/
  byTypeId : Std.HashMap (String × String) Member

namespace Collection

/-- The nodes at their places. -/
def enumerate (nodes : List Node) : List Member :=
  nodes.zipIdx.map fun (node, index) => ⟨index, node⟩

/-- The collection of a list of nodes. -/
def ofNodes (nodes : List Node) : Collection :=
  let members := enumerate nodes
  { members
    byId := members.foldl (fun index m => index.insertIfNew m.node.id m) ∅
    byTypeId := members.foldl (fun index m => index.insertIfNew (m.node.type, m.node.id) m) ∅ }

/-- The collection of a list of raw records. -/
def ofRecords (records : List Value) : Except NodeError Collection :=
  (records.mapM Node.ofRecord).map ofNodes

/-- The nodes in order. -/
def nodes (c : Collection) : List Node := c.members.map (·.node)

/-- How many nodes there are. -/
def size (c : Collection) : Nat := c.members.length

/-- The member at a place. A negative place is counted from the end. -/
def at? (c : Collection) (i : Int) : Option Member :=
  if i < 0 then
    if i.natAbs ≤ c.size then c.members[c.size - i.natAbs]? else none
  else c.members[i.natAbs]?

/-- The first node with an identifier. -/
def get? (c : Collection) (id : String) : Option Member := c.byId[id]?

/-- The first node whose identifier is the given value. Only a text is one;
a value that cannot be a key cannot be looked up at all. -/
def lookup (c : Collection) (id : Value) : Option (Option Member) :=
  match id with
  | .string s => some (c.get? s)
  | v => if v.canBeKey then some none else none

/-- The first node of a type whose identifier is the given value. -/
def find? (c : Collection) (type : String) (id : Value) : Option Member :=
  match id with
  | .string s => c.byTypeId[(type, s)]?
  | _ => none

/-- All nodes of a type, in order. -/
def ofType (c : Collection) (type : String) : List Member :=
  c.members.filter fun m => m.node.type == type

/-- Texts without those that occurred before, by a list of the ones seen. -/
def distinctAfter (seen : List String) : List String → List String
  | [] => []
  | s :: rest =>
    if seen.contains s then distinctAfter seen rest else s :: distinctAfter (s :: seen) rest

/-- The types of the nodes, each one where it is first met. -/
def types (c : Collection) : List String := distinctAfter [] (c.members.map (·.node.type))

end Collection

end ContentGraph
