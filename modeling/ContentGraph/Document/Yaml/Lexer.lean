import ContentGraph.Document.Yaml.Property
import ContentGraph.Document.Yaml.Scalar

/-!
# The tokens of a text

Reads the tokens of a YAML text one after the other. Two things are not
written in a text and are found by their place: a collection in block style
begins where the column grows and ends where it shrinks, and a simple key is
only known to be one when the colon after it is met. So what may begin a key is
remembered by its place among the tokens, one for every level of flow
collections, and the mark of the key is put in front of it later. A simple key
stands on one line and is not too long.

What may still be a key is not given out, and nothing after it. So if a text is at
fault, the grammar comes to know of the fault before it has seen these tokens.
-/

namespace ContentGraph.Document.Yaml

/-- Something that may turn out to be a simple key. -/
structure PossibleKey where
  /-- How many tokens stand before it. -/
  place : Nat
  /-- Whether it must be one. -/
  required : Bool
  /-- Where it begins. -/
  start : Cursor

/-- What is known between two tokens. -/
structure Reading where
  /-- The place in the text. -/
  cursor : Cursor
  /-- The tokens so far, the last one first. -/
  made : List Token
  /-- How many tokens there are so far. -/
  count : Nat
  /-- The column of the block collection that is open, before the first
  column if there is none. -/
  indent : Int
  /-- The columns of the block collections around it. -/
  outer : List Int
  /-- Whether a simple key may begin here. -/
  keyAllowed : Bool
  /-- The possible keys, one for each flow collection that is open and a last
  one for what is outside. -/
  keys : List (Option PossibleKey)

/-- The largest length of a simple key. -/
def keyLimit : Nat := 1024

/-- A token put behind the given number of tokens, counted from the end of
a list that begins with the last. -/
def insertBehind : Nat → Token → List Token → List Token
  | 0, token, tokens => token :: tokens
  | _ + 1, token, [] => [token]
  | n + 1, token, last :: tokens => last :: insertBehind n token tokens

namespace Reading

/-- Before the first token. -/
def start (text : List Char) : Reading :=
  let c := Cursor.start text
  { cursor := if text.head? = some '\uFEFF' then c.next else c
    made := []
    count := 0
    indent := -1
    outer := []
    keyAllowed := true
    keys := [none] }

/-- Whether a flow collection is open. -/
def inFlow (r : Reading) : Bool := 1 < r.keys.length

/-- A token read, and the place after it. -/
def add (r : Reading) (token : Token) (after : Cursor) : Reading :=
  { r with made := token :: r.made, count := r.count + 1, cursor := after }

/-- A token put in front of others. -/
def insert (r : Reading) (place : Nat) (token : Token) : Reading :=
  { r with made := insertBehind (r.count - place) token r.made, count := r.count + 1 }

/-- Forgets the possible key of the innermost collection. -/
def forgetKey (r : Reading) : Except Error Reading :=
  match r.keys with
  | some key :: rest => if key.required then malformed else .ok { r with keys := none :: rest }
  | _ => .ok r

/-- Remembers that what begins here may be a key. Where the column of a block
collection is met again, it must be one. -/
def rememberKey (r : Reading) : Except Error Reading :=
  if r.keyAllowed then do
    let required := !r.inFlow && r.indent == (r.cursor.column : Int)
    let r ← r.forgetKey
    return { r with keys := some ⟨r.count, required, r.cursor⟩ :: r.keys.tail }
  else .ok r

/-- A possible key if it still is one: on the line it began on, and not too
long. -/
def freshKey (c : Cursor) : Option PossibleKey → Except Error (Option PossibleKey)
  | none => .ok none
  | some key =>
    if key.start.line ≠ c.line ∨ c.index - key.start.index > keyLimit then
      if key.required then malformed else .ok none
    else .ok (some key)

/-- Forgets what can be no key any more. -/
def forgetStaleKeys (r : Reading) : Except Error Reading := do
  return { r with keys := ← r.keys.mapM (freshKey r.cursor) }

/-- Ends the block collections that are indented more than a column, given
those around them. -/
def closeBlocks (column : Int) : List Int → Reading → Reading
  | [], r => r
  | around :: rest, r =>
    if r.indent > column then
      closeBlocks column rest { r.add .blockEnd r.cursor with indent := around, outer := rest }
    else r

/-- Ends the block collections that are indented more than a column. Inside a
flow collection there are none. -/
def unwind (r : Reading) (column : Int) : Reading :=
  if r.inFlow then r else closeBlocks column r.outer r

/-- Opens a block collection at a column, with its token at a place, unless
one is open there already. -/
def openBlock (r : Reading) (column : Nat) (place : Nat) (token : Token) : Reading :=
  if r.indent < column then
    { r.insert place token with indent := column, outer := r.indent :: r.outer }
  else r

/-- The end of the text. -/
def finish (r : Reading) : Except Error Reading := (r.unwind (-1)).forgetKey

/-- A token that belongs to no collection: a directive, or a mark that
separates documents. -/
def topLevel (r : Reading) (token : Token) (after : Cursor) : Except Error Reading := do
  let r ← (r.unwind (-1)).forgetKey
  return { r.add token after with keyAllowed := false }

/-- The beginning of a flow collection. -/
def flowStart (r : Reading) (token : Token) : Except Error Reading := do
  let r ← r.rememberKey
  return { r.add token r.cursor.next with keyAllowed := true, keys := none :: r.keys }

/-- The end of a flow collection. One that was not begun is left to the
grammar. -/
def flowEnd (r : Reading) (token : Token) : Except Error Reading := do
  let r ← r.forgetKey
  let keys := if r.inFlow then r.keys.tail else r.keys
  return { r.add token r.cursor.next with keyAllowed := false, keys }

/-- A comma between two items of a flow collection. -/
def flowEntry (r : Reading) : Except Error Reading := do
  let r ← r.forgetKey
  return { r.add .flowEntry r.cursor.next with keyAllowed := true }

/-- The mark of an item of a block sequence. -/
def blockEntry (r : Reading) : Except Error Reading := do
  if !r.inFlow && !r.keyAllowed then malformed
  else
    let r :=
      if r.inFlow then r else r.openBlock r.cursor.column r.count .blockSequenceStart
    let r ← r.forgetKey
    return { r.add .blockEntry r.cursor.next with keyAllowed := true }

/-- The mark of a key. -/
def keyMark (r : Reading) : Except Error Reading := do
  if !r.inFlow && !r.keyAllowed then malformed
  else
    let r := if r.inFlow then r else r.openBlock r.cursor.column r.count .blockMappingStart
    let r ← r.forgetKey
    return { r.add .key r.cursor.next with keyAllowed := !r.inFlow }

/-- The mark of a value after a simple key: the mark of the key is put in
front of it, and the beginning of a mapping if it is the first one. -/
def simpleValue (r : Reading) (key : PossibleKey) : Reading :=
  let r := { r with keys := none :: r.keys.tail }
  let r := r.insert key.place .key
  let r :=
    if r.inFlow then r else r.openBlock key.start.column key.place .blockMappingStart
  { r.add .value r.cursor.next with keyAllowed := false }

/-- The mark of a value. -/
def valueMark (r : Reading) : Except Error Reading :=
  match r.keys with
  | some key :: _ => .ok (r.simpleValue key)
  | _ =>
    if !r.inFlow && !r.keyAllowed then malformed
    else do
      let r := if r.inFlow then r else r.openBlock r.cursor.column r.count .blockMappingStart
      let r ← r.forgetKey
      return { r.add .value r.cursor.next with keyAllowed := !r.inFlow }

/-- A token that may be a key or stand in front of one. -/
def keyLike (r : Reading) (read : Cursor → Except Error (Token × Cursor)) :
    Except Error Reading := do
  let r ← r.rememberKey
  let (token, after) ← read r.cursor
  return { r.add token after with keyAllowed := false }

/-- An anchor or an alias. -/
def named (make : String → Token) (c : Cursor) : Except Error (Token × Cursor) :=
  (nodeName c.next).map fun (name, after) => (make name, after)

/-- A scalar in quotation marks. -/
def quoted (mark : Char) (c : Cursor) : Except Error (Token × Cursor) :=
  (quotedScalar mark c).map fun (text, after) => (.scalar text false, after)

/-- A scalar in a block. -/
def block (r : Reading) (fold : Bool) : Except Error Reading := do
  let r ← r.forgetKey
  let (text, after) ← blockScalar fold r.indent r.cursor
  return { r.add (.scalar text false) after with keyAllowed := true }

/-- A plain scalar. A key may begin after it if it ended its line. -/
def plain (r : Reading) : Except Error Reading := do
  let r ← r.rememberKey
  let (text, ended, after) := plainScalar r.inFlow r.indent r.cursor
  return { r.add (.scalar text true) after with keyAllowed := ended }

/-- Whether a plain scalar may begin with a text. -/
def startsPlain (inFlow : Bool) : List Char → Bool
  | [] => false
  | c :: rest =>
    !(isBlank c || isBreak c || "-?:,[]\x7b\x7d#&*!|>\x27\x22%@\x60".toList.contains c)
      || (!atGap rest && (c == '-' || (!inFlow && (c == '?' || c == ':'))))

/-- The token that begins with a character, which is the first one of the
text that is left. -/
def token (r : Reading) (c : Char) (rest : List Char) : Except Error Reading :=
  let s := r.cursor.rest
  let atStart := r.cursor.column == 0
  if c = '%' ∧ atStart then do
    let (directive, after) ← directiveToken r.cursor
    r.topLevel directive after
  else if atStart && atMark '-' s then r.topLevel .documentStart (r.cursor.skip 3)
  else if atStart && atMark '.' s then r.topLevel .documentEnd (r.cursor.skip 3)
  else if c = '[' then r.flowStart .flowSequenceStart
  else if c = '\x7b' then r.flowStart .flowMappingStart
  else if c = ']' then r.flowEnd .flowSequenceEnd
  else if c = '\x7d' then r.flowEnd .flowMappingEnd
  else if c = ',' then r.flowEntry
  else if c = '-' ∧ atGap rest then r.blockEntry
  else if c = '?' ∧ (r.inFlow ∨ atGap rest) then r.keyMark
  else if c = ':' ∧ (r.inFlow ∨ atGap rest) then r.valueMark
  else if c = '*' then r.keyLike (named .alias)
  else if c = '&' then r.keyLike (named .anchor)
  else if c = '!' then r.keyLike tagToken
  else if c = '|' ∧ !r.inFlow then r.block false
  else if c = '>' ∧ !r.inFlow then r.block true
  else if c = '\x27' ∨ c = '\x22' then r.keyLike (quoted c)
  else if startsPlain r.inFlow s then r.plain
  else malformed

/-- The place of the next token, once the blocks that end before it are
closed. A key may begin on a new line unless a flow collection is open. -/
def approach (r : Reading) : Except Error Reading := do
  let (c, ended) := r.cursor.skipGap (r.cursor.rest.length + 1) false
  let r := { r with cursor := c, keyAllowed := r.keyAllowed || (ended && !r.inFlow) }
  let r ← r.forgetStaleKeys
  return r.unwind r.cursor.column

/-- All further tokens, and the fault after them. Every token that is written
takes a character, which bounds their number. -/
def run : Nat → Reading → Reading × Option Error
  | 0, r => (r, none)
  | fuel + 1, r =>
    match r.approach with
    | .error e => (r, some e)
    | .ok ready =>
      match ready.cursor.rest with
      | [] =>
        match ready.finish with
        | .error e => (r, some e)
        | .ok last => (last, none)
      | c :: rest =>
        match ready.token c rest with
        | .error e => (r, some e)
        | .ok next => run fuel next

/-- How many tokens stand before the first one that may still be a key. -/
def settled (r : Reading) : Nat :=
  r.keys.foldl (fun count key =>
    match freshKey r.cursor key with
    | .ok (some fresh) => min count fresh.place
    | _ => count) r.count

end Reading

/-- The tokens of a text. -/
def Tokens.ofText (text : List Char) : Tokens :=
  match Reading.run (text.length + 1) (Reading.start text) with
  | (r, none) => ⟨r.made.reverse, none⟩
  | (r, some fault) => ⟨r.made.reverse.take r.settled, some fault⟩

end ContentGraph.Document.Yaml
