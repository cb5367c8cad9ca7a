import ContentGraph.Document.Yaml.Tag
import ContentGraph.Document.Yaml.Token

/-!
# The tree of a document

A document is a tree of nodes, each a scalar, a sequence or a mapping with a
tag. `Tree.ofTokens?` reads it by the grammar of the notation. An alias stands
for the node that has its anchor, so the tree has that node in both places. A
node may have an alias for itself inside, but then it has no tree, and the
document is not read.

A rule of the grammar either takes a token or calls one that does, so their
number bounds the depth of the calls. Like in JSON there is room for so many
collections inside each other, and the text is given up at the first for which
there is none.
-/

namespace ContentGraph.Document.Yaml

/-- A node of a document with all that is below it. -/
inductive Tree where
  | scalar (tag : Tag) (text : String)
  | sequence (tag : Tag) (items : List Tree)
  | mapping (tag : Tag) (entries : List (Tree × Tree))

namespace Tree

/-- The tag of a node. -/
def tag : Tree → Tag
  | scalar tag _ => tag
  | sequence tag _ => tag
  | mapping tag _ => tag

/-- Whether a node is a key under which other mappings are merged in. -/
def isMerge (t : Tree) : Bool := t.tag == .merge

/-- Whether a node is a key that stands for something else. -/
def isSpecial (t : Tree) : Bool := t.isMerge || t.tag == .representative

mutual

/-- How many collections are inside each other, where they are most. -/
def depth : Tree → Nat
  | scalar _ _ => 0
  | sequence _ items => itemsDepth items + 1
  | mapping _ entries => entriesDepth entries + 1

/-- The depth of the deepest of some nodes. -/
def itemsDepth : List Tree → Nat
  | [] => 0
  | item :: rest => max item.depth (itemsDepth rest)

/-- The depth of the deepest node in some entries. -/
def entriesDepth : List (Tree × Tree) → Nat
  | [] => 0
  | (key, value) :: rest => max (max key.depth value.depth) (entriesDepth rest)

end

end Tree

/-- What is known while a tree is read. -/
structure Grammar where
  /-- The tokens that are left. -/
  tokens : List Token
  /-- The fault after the last of them, if there is one. -/
  fault : Option Error
  /-- The nodes with anchors; one that is still being read has no tree. -/
  anchors : List (String × Option Tree)
  /-- The handles of tags with what they stand for. -/
  handles : List (String × String)
  /-- For how many more collections inside each other there is room. -/
  room : Nat

namespace Grammar

/-- The handles that need no directive. -/
def commonHandles : List (String × String) := [("!", "!"), ("!!", Tag.commonStart)]

/-- A step of reading. -/
abbrev Step := StateT Grammar (Except Error)

/-- The text is not YAML. -/
def fail {α : Type} : Step α := throw (.malformed .yaml)

/-- The next token, if there is one. -/
def peek : Step (Option Token) := do
  let g ← get
  match g.tokens, g.fault with
  | [], some fault => throw fault
  | [], none => return none
  | token :: _, _ => return some token

/-- Goes on to the token after the next. -/
def advance : Step Unit := modify fun g => { g with tokens := g.tokens.tail }

/-- A node that is not written. -/
def nothing : Tree := .scalar (Tag.ofPlain "") ""

/-- The full name of a tag, of which the handle must be known. -/
def fullName (handle : Option String) (ending : String) : Step String := do
  match handle with
  | none => return ending
  | some h =>
    match (← get).handles.lookup h with
    | some start => return start ++ ending
    | none => fail

/-- A tag as it is written, by its handle and its ending, if one is next. -/
def takeTag? : Step (Option (Option String × String)) := do
  match ← peek with
  | some (.tag handle ending) =>
    advance
    return some (handle, ending)
  | _ => return none

/-- The name of an anchor, if one is next. -/
def takeAnchor? : Step (Option String) := do
  match ← peek with
  | some (.anchor name) =>
    advance
    return some name
  | _ => return none

/-- The anchor and the tag of a node, in either order. -/
def properties : Step (Option String × Option String) := do
  let (anchor, tag) ←
    match ← takeAnchor? with
    | some anchor => pure (some anchor, ← takeTag?)
    | none =>
      match ← takeTag? with
      | some tag => pure (← takeAnchor?, some tag)
      | none => pure (none, none)
  match tag with
  | some (handle, ending) => return (anchor, some (← fullName handle ending))
  | none => return (anchor, none)

/-- Notes that a node with an anchor begins; no other node has it. -/
def openAnchor (anchor : Option String) : Step Unit := do
  match anchor with
  | none => return ()
  | some name =>
    if ((← get).anchors.lookup name).isSome then fail
    else modify fun g => { g with anchors := (name, none) :: g.anchors }

/-- Notes the tree of a node with an anchor. -/
def closeAnchor (anchor : Option String) (tree : Tree) : Step Unit :=
  match anchor with
  | none => return ()
  | some name => modify fun g => { g with anchors := (name, some tree) :: g.anchors }

/-- The tree of an alias, which is not inside the node that it stands for. -/
def aliased (name : String) : Step Tree := do
  match (← get).anchors.lookup name with
  | some (some tree) =>
    if tree.tag == .representative then throw (.unread .specialKey) else return tree
  | some none => throw (.unread .cycle)
  | none => fail

/-- A step inside a collection, for which there must be room. -/
def inside {α : Type} (step : Step α) : Step α := do
  let outer := (← get).room
  if outer = 0 then throw (.unread .depth)
  else
    modify fun g => { g with room := outer - 1 }
    let result ← step
    modify fun g => { g with room := outer }
    return result

/-- Whether a tag leaves what a value is to the form of its node. -/
def isOpen (tag : Option String) : Bool := tag == none || tag == some "!"

/-- The tag of a collection. -/
def collectionTag (form : Tag) (tag : Option String) : Tag :=
  if isOpen tag then form else (tag.map Tag.ofName).getD form

/-- The tag of a scalar. The text of a plain one decides if it has no tag,
and the text of any if its tag says so. -/
def scalarTag (tag : Option String) (text : String) (plain : Bool) : Tag :=
  match tag with
  | none => if plain then Tag.ofPlain text else .string
  | some name => if name = "!" then Tag.ofPlain text else Tag.ofName name

mutual

/-- A node; whether one in block style is read too, and whether a sequence
need not be indented. -/
def node (block unindented : Bool) : Nat → Step Tree
  | 0 => fail
  | fuel + 1 => do
    match ← peek with
    | some (.alias name) =>
      advance
      aliased name
    | _ =>
      let (anchor, tag) ← properties
      -- The next token is read before the anchor is looked up.
      let _ ← peek
      openAnchor anchor
      let tree ← content block unindented anchor.isSome tag fuel
      closeAnchor anchor tree
      return tree

/-- The content of a node with or without an anchor and a tag. -/
def content (block unindented anchored : Bool) (tag : Option String) : Nat → Step Tree
  | 0 => fail
  | fuel + 1 => do
    match ← peek with
    | some .blockEntry =>
      if unindented then
        return .sequence (collectionTag .sequence tag) (← inside (unindentedItems fuel))
      else unwritten anchored tag
    | some (.scalar text plain) =>
      advance
      return .scalar (scalarTag tag text plain) text
    | some .flowSequenceStart =>
      advance
      return .sequence (collectionTag .sequence tag) (← inside (flowItems true fuel))
    | some .flowMappingStart =>
      advance
      return .mapping (collectionTag .mapping tag) (← inside (flowEntries true fuel))
    | some .blockSequenceStart =>
      if block then
        advance
        return .sequence (collectionTag .sequence tag) (← inside (blockItems fuel))
      else unwritten anchored tag
    | some .blockMappingStart =>
      if block then
        advance
        return .mapping (collectionTag .mapping tag) (← inside (blockEntries fuel))
      else unwritten anchored tag
    | _ => unwritten anchored tag

/-- A node that is not written but has an anchor or a tag. -/
def unwritten (anchored : Bool) (tag : Option String) : Step Tree :=
  if anchored || tag.isSome then return .scalar (scalarTag tag "" true) "" else fail

/-- The items of a block sequence, to its end. -/
def blockItems : Nat → Step (List Tree)
  | 0 => fail
  | fuel + 1 => do
    match ← peek with
    | some .blockEntry =>
      advance
      let item ←
        match ← peek with
        | some .blockEntry => pure nothing
        | some .blockEnd => pure nothing
        | _ => node true false fuel
      return item :: (← blockItems fuel)
    | some .blockEnd =>
      advance
      return []
    | _ => fail

/-- The items of a sequence that is not indented. -/
def unindentedItems : Nat → Step (List Tree)
  | 0 => fail
  | fuel + 1 => do
    match ← peek with
    | some .blockEntry =>
      advance
      let item ←
        match ← peek with
        | some .blockEntry => pure nothing
        | some .key => pure nothing
        | some .value => pure nothing
        | some .blockEnd => pure nothing
        | _ => node true false fuel
      return item :: (← unindentedItems fuel)
    | _ => return []

/-- A key or a value of a block mapping after its mark. -/
def blockPart : Nat → Step Tree
  | 0 => fail
  | fuel + 1 => do
    match ← peek with
    | some .key => return nothing
    | some .value => return nothing
    | some .blockEnd => return nothing
    | _ => node true true fuel

/-- The entries of a block mapping, to its end. -/
def blockEntries : Nat → Step (List (Tree × Tree))
  | 0 => fail
  | fuel + 1 => do
    match ← peek with
    | some .key =>
      advance
      let key ← blockPart fuel
      let value ←
        match ← peek with
        | some .value => do
          advance
          blockPart fuel
        | _ => pure nothing
      return (key, value) :: (← blockEntries fuel)
    | some .blockEnd =>
      advance
      return []
    | _ => fail

/-- A key or a value in a flow collection after its mark, up to the given
token at the latest. -/
def flowPart (ends : Token → Bool) : Nat → Step Tree
  | 0 => fail
  | fuel + 1 => do
    match ← peek with
    | some token => if ends token then return nothing else node false false fuel
    | none => node false false fuel

/-- The value of an entry in a flow collection, if its mark is next. -/
def flowValue (closing : Token) : Nat → Step Tree
  | 0 => fail
  | fuel + 1 => do
    match ← peek with
    | some .value =>
      advance
      flowPart (fun token => token == .flowEntry || token == closing) fuel
    | _ => return nothing

/-- The entry of a mapping without braces in a flow sequence, after the mark of
its key. -/
def flowEntry : Nat → Step (Tree × Tree)
  | 0 => fail
  | fuel + 1 => do
    let key ←
      flowPart (fun token => token == .value || token == .flowEntry
        || token == .flowSequenceEnd) fuel
    let value ← flowValue .flowSequenceEnd fuel
    return (key, value)

/-- The items of a flow sequence, to its end. An item may be a mapping of a
single entry without its braces. -/
def flowItems (first : Bool) : Nat → Step (List Tree)
  | 0 => fail
  | fuel + 1 => do
    match ← peek with
    | some .flowSequenceEnd =>
      advance
      return []
    | next =>
      if !first then
        if next == some .flowEntry then advance else fail
      match ← peek with
      | some .flowSequenceEnd =>
        advance
        return []
      | some .key =>
        advance
        let entry ← inside (flowEntry fuel)
        return .mapping .mapping [entry] :: (← flowItems false fuel)
      | _ =>
        let item ← node false false fuel
        return item :: (← flowItems false fuel)

/-- The entries of a flow mapping, to its end. An entry may be a key
alone. -/
def flowEntries (first : Bool) : Nat → Step (List (Tree × Tree))
  | 0 => fail
  | fuel + 1 => do
    match ← peek with
    | some .flowMappingEnd =>
      advance
      return []
    | next =>
      if !first then
        if next == some .flowEntry then advance else fail
      match ← peek with
      | some .flowMappingEnd =>
        advance
        return []
      | some .key =>
        advance
        let key ←
          flowPart (fun token => token == .value || token == .flowEntry
            || token == .flowMappingEnd) fuel
        let value ← flowValue .flowMappingEnd fuel
        return (key, value) :: (← flowEntries false fuel)
      | _ =>
        let key ← node false false fuel
        return (key, nothing) :: (← flowEntries false fuel)

end

/-- The directives in front of a document: at most one version, which must be
a first one, and handles of which none is repeated. -/
def directives (versioned : Bool) (handles : List (String × String)) :
    Nat → Step (List (String × String))
  | 0 => fail
  | fuel + 1 => do
    match ← peek with
    | some (.directive d) =>
      advance
      match d with
      | .version major =>
        if versioned || major != 1 then fail else directives true handles fuel
      | .tag handle start =>
        if (handles.lookup handle).isSome then fail
        else directives versioned ((handle, start) :: handles) fuel
      | .other => directives versioned handles fuel
    | _ => return handles

/-- A document that begins with its mark, after its directives. -/
def markedDocument (fuel : Nat) : Step Tree := do
  let handles ← directives false [] fuel
  modify fun g => { g with handles := handles ++ commonHandles }
  match ← peek with
  | some .documentStart =>
    advance
    match ← peek with
    | none => return nothing
    | some (.directive _) => return nothing
    | some .documentStart => return nothing
    | some .documentEnd => return nothing
    | _ => node true false fuel
  | _ => fail

/-- Skips the marks at the end of a document. -/
def documentEnds : Nat → Step Unit
  | 0 => return ()
  | fuel + 1 => do
    match ← peek with
    | some .documentEnd =>
      advance
      documentEnds fuel
    | _ => return ()

/-- The only document of a text, if there is one. -/
def document (fuel : Nat) : Step (Option Tree) := do
  match ← peek with
  | none => return none
  | next =>
    let tree ←
      match next with
      | some (.directive _) => markedDocument fuel
      | some .documentStart => markedDocument fuel
      | _ => node true false fuel
    documentEnds fuel
    match ← peek with
    | none => return some tree
    | some _ =>
      -- A second document is one too many, once it begins.
      let _ ← directives false [] fuel
      fail

end Grammar

/-- The tree of the only document among tokens, if there is a document, with
room for some levels of nesting. -/
def Tree.ofTokens? (room : Nat) (t : Tokens) : Except Error (Option Tree) :=
  (Grammar.document (5 * t.tokens.length + 8)).run'
    ⟨t.tokens, t.fault, [], Grammar.commonHandles, room⟩

end ContentGraph.Document.Yaml
