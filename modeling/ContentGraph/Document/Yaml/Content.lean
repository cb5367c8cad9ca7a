import ContentGraph.Document.Yaml.Cursor
import ContentGraph.Document.Yaml.Number
import ContentGraph.Document.Yaml.Tree
import ContentGraph.Text.Base64
import ContentGraph.Value.Equality

/-!
# The values of nodes

What a tree stands for. Mappings that are to be merged into others are put
there first, before the other entries, so that these count more. Then every
node is given the value that its tag asks for.

Several nodes may be at fault. The fault that is nearest to the root is the
one that is reported, and of equally near ones the first. That a node is no
collection although its tag says so counts as a fault of what is in it, and so
does that something is to be merged into it that is no mapping.
-/

namespace ContentGraph.Document.Yaml

/-! ## Merging -/

/-- Whether a tag is that of a sequence of pairs. -/
def Tag.holdsPairs (tag : Tag) : Bool := tag == .orderedMapping || tag == .pairs

namespace Tree

mutual

/-- The entries that are merged into a mapping with some entries, and those
that are its own; nothing if one of the former is no mapping. -/
def mergeEntries? : List (Tree × Tree) → Option (List (Tree × Tree) × List (Tree × Tree))
  | [] => some ([], [])
  | (key, value) :: rest =>
    if key.isMerge then do
      let first ← mergedIn? value
      let (more, own) ← mergeEntries? rest
      return (first ++ more, own)
    else do
      let (more, own) ← mergeEntries? rest
      return (more, (key, value) :: own)

/-- The entries that are merged in by a value: those of a mapping, or of
several mappings of which the first counts most. -/
def mergedIn? : Tree → Option (List (Tree × Tree))
  | .scalar _ _ => none
  | .sequence _ items => (mergedInAll? items).map fun lists => lists.reverse.flatten
  | .mapping _ entries => (mergeEntries? entries).map fun (more, own) => more ++ own

/-- The entries of some mappings, each after those that are merged into it. -/
def mergedInAll? : List Tree → Option (List (List (Tree × Tree)))
  | [] => some []
  | .mapping _ entries :: rest => do
    let (more, own) ← mergeEntries? entries
    return (more ++ own) :: (← mergedInAll? rest)
  | _ :: _ => none

end

/-- What becomes of a mapping into which something is to be merged that is no
mapping: it has an entry under a key that has no value. -/
def unmerged : List (Tree × Tree) := [(.scalar .merge "", .scalar .null "")]

/-- The entries of a mapping after those that are merged into it. -/
def mergeEntries (entries : List (Tree × Tree)) : List (Tree × Tree) :=
  match mergeEntries? entries with
  | some (more, own) => more ++ own
  | none => unmerged

mutual

/-- A tree in which everything is merged that is to be merged. -/
def merged : Tree → Tree
  | .scalar tag text => .scalar tag text
  | .sequence tag items =>
    .sequence tag (if tag.holdsPairs then mergedPairs items else mergedItems items)
  | .mapping tag entries =>
    .mapping tag
      (if tag == .mapping then mergeEntries (mergedEntries entries) else mergedEntries entries)

/-- Nodes in which everything is merged. -/
def mergedItems : List Tree → List Tree
  | [] => []
  | item :: rest => merged item :: mergedItems rest

/-- Pairs in which everything is merged. Nothing is merged into a pair. -/
def mergedPairs : List Tree → List Tree
  | [] => []
  | .mapping tag entries :: rest => .mapping tag (mergedEntries entries) :: mergedPairs rest
  | item :: rest => merged item :: mergedPairs rest

/-- Entries in which everything is merged. -/
def mergedEntries : List (Tree × Tree) → List (Tree × Tree)
  | [] => []
  | (key, value) :: rest => (merged key, merged value) :: mergedEntries rest

end

end Tree

/-! ## Faults by their depth -/

/-- A fault at a depth below the root. -/
structure Fault where
  /-- The depth. -/
  depth : Nat
  /-- What is wrong. -/
  error : Error

/-- A result, or the fault that counts. -/
abbrev Checked (α : Type) := Except Fault α

namespace Checked

/-- A fault of the notation at a depth. -/
def fault {α : Type} (depth : Nat) : Checked α := .error ⟨depth, .malformed .yaml⟩

/-- A result at a depth. -/
def atDepth {α : Type} (depth : Nat) (r : Except Error α) : Checked α :=
  r.mapError fun e => ⟨depth, e⟩

/-- Two results. Of two faults the less deep counts, and of equally deep ones
the first. -/
def both {α β : Type} (first : Checked α) (second : Checked β) : Checked (α × β) :=
  match first, second with
  | .ok a, .ok b => .ok (a, b)
  | .error e, .ok _ => .error e
  | .ok _, .error f => .error f
  | .error e, .error f => .error (if f.depth < e.depth then f else e)

/-- A list of results from its first one and the others. -/
def cons {α : Type} (first : Checked α) (others : Checked (List α)) : Checked (List α) :=
  (both first others).map fun (a, more) => a :: more

end Checked

/-! ## Values -/

/-- The truth value that a word stands for, in any case. -/
def truthValue (text : String) : Except Error Value :=
  let word := Text.toLower text
  if ["yes", "true", "on"].contains word then .ok (.bool true)
  else if ["no", "false", "off"].contains word then .ok (.bool false)
  else .error (.notATruthValue text)

/-- The value of a timestamp. -/
def timestampValue (text : String) : Except Error Value :=
  match Timestamp.ofText? (Tag.withoutBreak text.toList) with
  | some t => t.value
  | none => .error .notATimestamp

/-- The bytes that a text stands for. -/
def binaryValue (text : String) : Except Error Value :=
  if text.toList.all fun c => c.toNat < 128 then
    match Text.Base64.decode? text.toList with
    | some bytes => .ok (.bytes bytes)
    | none => malformed
  else malformed

/-- The value of a text under the tag of a scalar. -/
def textValue (tag : Tag) (text : String) : Except Error Value :=
  match tag with
  | .null => .ok .null
  | .bool => truthValue text
  | .int => (intValue text).map .int
  | .float => (floatValue text).map .float
  | .binary => binaryValue text
  | .timestamp => timestampValue text
  | .string => .ok (.string text)
  | _ => malformed

/-- Whether a tag is that of a collection. -/
def Tag.isCollection : Tag → Bool
  | .sequence => true
  | .mapping => true
  | .orderedMapping => true
  | .pairs => true
  | .members => true
  | _ => false

/-- The depth at which it shows that a node is none that its tag asks for. -/
def mismatchDepth (tag : Tag) (depth : Nat) : Nat := if tag.isCollection then depth + 1 else depth

/-- The value of a scalar at a depth. -/
def scalarValue (depth : Nat) (tag : Tag) (text : String) : Checked Value :=
  .atDepth (mismatchDepth tag depth) (textValue tag text)

/-- The fault of a mapping where none may stand. Not even this is sure if one of
its keys stands for something else. -/
def misplaced {α : Type} (depth : Nat) (entries : List (Tree × Tree)) : Checked α :=
  if entries.any fun entry => entry.1.isSpecial then .error ⟨depth, .unread .specialKey⟩
  else .fault depth

/-- The value of a key. Collections are no keys. -/
def keyValue (depth : Nat) : Tree → Checked Value
  | .scalar .representative text => .ok (.string text)
  | .scalar tag text => scalarValue depth tag text
  | .sequence _ _ => .fault depth
  | .mapping tag entries => if tag.isCollection then .fault depth else misplaced depth entries

mutual

/-- The value of a node at a depth. -/
def valueAt (depth : Nat) : Tree → Checked Value
  | .scalar tag text => scalarValue depth tag text
  | .sequence tag items =>
    match tag with
    | .sequence => (itemsAt (depth + 1) items).map .list
    | .orderedMapping => (pairsAt (depth + 1) items).map .list
    | .pairs => (pairsAt (depth + 1) items).map .list
    | _ => .fault (mismatchDepth tag depth)
  | .mapping tag entries =>
    match tag with
    | .mapping => (entriesAt (depth + 1) entries).map fun pairs => .map (Entries.ofPairs pairs)
    | .members => .error ⟨depth, .unread .set⟩
    | _ => if tag.isCollection then .fault (depth + 1) else misplaced depth entries

/-- The values of items at a depth. -/
def itemsAt (depth : Nat) : List Tree → Checked (List Value)
  | [] => .ok []
  | item :: rest => .cons (valueAt depth item) (itemsAt depth rest)

/-- The values of entries at a depth. -/
def entriesAt (depth : Nat) : List (Tree × Tree) → Checked (List (Value × Value))
  | [] => .ok []
  | (key, value) :: rest =>
    .cons (.both (keyValue depth key) (valueAt depth value)) (entriesAt depth rest)

/-- The values of items at a depth that are mappings of one entry each, as
pairs. -/
def pairsAt (depth : Nat) : List Tree → Checked (List Value)
  | [] => .ok []
  | .mapping _ entries :: rest =>
    .cons (pairAt depth entries) (pairsAt depth rest)
  | _ :: rest => .cons (.fault depth) (pairsAt depth rest)

/-- The value of a single entry at a depth, as a pair. -/
def pairAt (depth : Nat) : List (Tree × Tree) → Checked Value
  | [(key, value)] =>
    if key.isSpecial then .error ⟨depth, .unread .specialKey⟩
    else (Checked.both (valueAt depth key) (valueAt depth value)).map fun (k, v) => .tuple [k, v]
  | entries => misplaced depth entries

end

/-- The value of a tree. -/
def Tree.value (t : Tree) : Except Error Value := (valueAt 0 t.merged).mapError (·.error)

end ContentGraph.Document.Yaml
