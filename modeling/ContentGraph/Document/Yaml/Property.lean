import ContentGraph.Document.Yaml.Cursor
import ContentGraph.Document.Yaml.Token

/-!
# Anchors, tags and directives

The tokens of YAML that are read from a single line and say something about
what follows them: the names of nodes, their tags, and the directives in front
of a document.
-/

namespace ContentGraph.Document.Yaml

/-! ## Names of nodes -/

/-- Whether the name of a node may end here. -/
def endsName (s : List Char) : Bool := atGap s || s.head?.any "?:,]\x7d%@\x60".toList.contains

/-- The name of a node after its mark. -/
def nodeName (c : Cursor) : Except Error (String × Cursor) :=
  let (name, d) := c.span isNameCharacter
  if name.isEmpty || !endsName d.rest then malformed else .ok (String.ofList name, d)

/-! ## Tags -/

/-- The number of two hexadecimal digits at the front of a text. -/
def hexByte? : List Char → Option UInt8
  | a :: b :: _ => (Numeral.digitsValue? 16 0 [a, b]).map UInt8.ofNat
  | _ => none

/-- The bytes that escapes at a place stand for, and the place after them. -/
def escapedBytes : Nat → Cursor → Except Error (List UInt8 × Cursor)
  | 0, c => .ok ([], c)
  | fuel + 1, c =>
    match c.rest with
    | '%' :: rest =>
      match hexByte? rest with
      | some b => (escapedBytes fuel (c.skip 3)).map fun (more, d) => (b :: more, d)
      | none => malformed
    | _ => .ok ([], c)

/-- The characters of a tag at a place, with its escapes resolved, and the
place after them. -/
def tagCharacters : Nat → Cursor → Except Error (List Char × Cursor)
  | 0, c => .ok ([], c)
  | fuel + 1, c =>
    match c.rest with
    | [] => .ok ([], c)
    | d :: _ =>
      if d = '%' then do
        let (bytes, e) ← escapedBytes (c.rest.length + 1) c
        match String.fromUTF8? ⟨bytes.toArray⟩ with
        | none => malformed
        | some s =>
          let (more, f) ← tagCharacters fuel e
          return (s.toList ++ more, f)
      else if isTagCharacter d then do
        let (more, e) ← tagCharacters fuel c.next
        return (d :: more, e)
      else .ok ([], c)

/-- The end of a tag, or a tag in full, of one character at least. -/
def tagEnding (c : Cursor) : Except Error (String × Cursor) := do
  let (characters, d) ← tagCharacters (c.rest.length + 1) c
  if d.index = c.index then malformed else return (String.ofList characters, d)

/-- A handle: an exclamation mark, or a name between two. -/
def tagHandle (c : Cursor) : Except Error (String × Cursor) :=
  match c.rest with
  | '!' :: ' ' :: _ => .ok ("!", c.next)
  | '!' :: _ =>
    let (name, d) := c.next.span isNameCharacter
    if d.rest.head? = some '!' then .ok (String.ofList ('!' :: name ++ ['!']), d.next)
    else malformed
  | _ => malformed

/-- Whether a word has a second exclamation mark after its first
character. -/
def hasHandle (s : List Char) : Bool :=
  ((s.drop 1).takeWhile fun c => c ≠ ' ' ∧ !isBreak c).contains '!'

/-- The parts of a tag at a place, where its exclamation mark stands. -/
def tagParts (c : Cursor) : Except Error (Option String × String × Cursor) :=
  match c.next.rest with
  | '<' :: _ => do
    let (ending, d) ← tagEnding (c.skip 2)
    if d.rest.head? = some '>' then return (none, ending, d.next) else malformed
  | rest =>
    if atGap rest then .ok (none, "!", c.next)
    else do
      let (handle, d) ← if hasHandle c.rest then tagHandle c else pure ("!", c.next)
      let (ending, e) ← tagEnding d
      return (some handle, ending, e)

/-- The tag at a place, which a space or the end of its line follows. -/
def tagToken (c : Cursor) : Except Error (Token × Cursor) := do
  let (handle, ending, d) ← tagParts c
  if atSpace d.rest then return (.tag handle ending, d) else malformed

/-! ## Directives -/

/-- A number of a version. -/
def versionNumber (c : Cursor) : Except Error (Nat × Cursor) :=
  let (digits, d) := c.span Char.isDigit
  if digits.length > digitLimit then .error (.tooManyDigits digits.length)
  else
    match digits, Numeral.digitsValue? 10 0 digits with
    | _ :: _, some n => .ok (n, d)
    | _, _ => malformed

/-- The version that a directive gives. -/
def versionDirective (c : Cursor) : Except Error (Directive × Cursor) := do
  let (major, d) ← versionNumber c.skipSpaces
  if d.rest.head? ≠ some '.' then malformed
  else
    let (_, e) ← versionNumber d.next
    if atSpace e.rest then return (.version major, e) else malformed

/-- The short form that a directive gives. -/
def tagDirective (c : Cursor) : Except Error (Directive × Cursor) := do
  let (handle, d) ← tagHandle c.skipSpaces
  if d.rest.head? ≠ some ' ' then malformed
  else
    let (start, e) ← tagEnding d.skipSpaces
    if atSpace e.rest then return (.tag handle start, e) else malformed

/-- The directive at a place, where its percent sign stands, and the place
after its line. -/
def directiveToken (c : Cursor) : Except Error (Token × Cursor) := do
  let (name, d) := c.next.span isNameCharacter
  if name.isEmpty || !atSpace d.rest then malformed
  else
    let (directive, e) ←
      match String.ofList name with
      | "YAML" => versionDirective d
      | "TAG" => tagDirective d
      | _ => pure (.other, d.skipWhile fun f => !isBreak f)
    return (.directive directive, ← e.finishLine)

end ContentGraph.Document.Yaml
