import ContentGraph.Document.Error

/-!
# Places in a YAML text

YAML is sensitive to lines and columns, so a reader keeps the text that is
left together with where it begins. This module holds such places, the
classes of characters that the rest of the reader asks for, and the steps
from one place to another.

The ends of lines are made alike before anything is read. Three characters
are left that end a line; a byte order mark takes up no column.
-/

namespace ContentGraph.Document.Yaml

/-- The text is not YAML, or not the YAML that is read here. -/
def malformed {α : Type} : Except Error α := .error (.malformed .yaml)

/-- A text in which all ends of lines are alike. -/
def normalizeBreaks : List Char → List Char
  | [] => []
  | '\r' :: '\n' :: rest => '\n' :: normalizeBreaks rest
  | c :: rest => (if c = '\r' ∨ c = '\x85' then '\n' else c) :: normalizeBreaks rest

/-- A character that may stand in a document. -/
def isAllowed (c : Char) : Bool :=
  let n := c.toNat
  n == 0x9 || n == 0xA || n == 0xD || n == 0x85 || (0x20 ≤ n && n ≤ 0x7E)
    || (0xA0 ≤ n && n ≤ 0xFFFD) || 0x10000 ≤ n

/-- A character that ends a line. -/
def isBreak (c : Char) : Bool := c == '\n' || c == '\u2028' || c == '\u2029'

/-- A space or a tab. -/
def isBlank (c : Char) : Bool := c == ' ' || c == '\t'

/-- A character of the names of anchors, directives and tag handles. -/
def isNameCharacter (c : Char) : Bool := c.isAlphanum || c == '-' || c == '_'

/-- A character of a tag, the escapes apart. -/
def isTagCharacter (c : Char) : Bool :=
  c.isAlphanum || "-;/?:@&=+$,_.!~*\x27()[]".toList.contains c

/-- Whether a text is at its end or at the end of a line. -/
def atLineEnd : List Char → Bool
  | [] => true
  | c :: _ => isBreak c

/-- Whether a text is at its end, at the end of a line, or at a space. -/
def atSpace : List Char → Bool
  | [] => true
  | c :: _ => c == ' ' || isBreak c

/-- Whether a text is at its end, at the end of a line, or at a blank. -/
def atGap : List Char → Bool
  | [] => true
  | c :: _ => isBlank c || isBreak c

/-- Whether a text begins with a mark of three characters that stands
alone. -/
def atMark (mark : Char) : List Char → Bool
  | a :: b :: c :: rest => a == mark && b == mark && c == mark && atGap rest
  | _ => false

/-- Whether a text begins with a mark that separates documents. -/
def atSeparator (s : List Char) : Bool := atMark '-' s || atMark '.' s

/-- A place in a text: what is left of it, and where that begins. -/
structure Cursor where
  /-- The text that is left. -/
  rest : List Char
  /-- How many characters were read. -/
  index : Nat
  /-- How many lines were read. -/
  line : Nat
  /-- The column. -/
  column : Nat

namespace Cursor

/-- The beginning of a text. -/
def start (text : List Char) : Cursor := ⟨text, 0, 0, 0⟩

/-- The place after the next character. -/
def next (c : Cursor) : Cursor :=
  match c.rest with
  | [] => c
  | d :: rest =>
    if isBreak d then ⟨rest, c.index + 1, c.line + 1, 0⟩
    else ⟨rest, c.index + 1, c.line, if d = '\uFEFF' then c.column else c.column + 1⟩

/-- The place after a number of characters. -/
def skip : Nat → Cursor → Cursor
  | 0, c => c
  | n + 1, c => skip n c.next

/-- The place after the characters of a class. -/
def skipWhile (p : Char → Bool) (c : Cursor) : Cursor := c.skip (c.rest.takeWhile p).length

/-- The characters of a class at a place, and the place after them. -/
def span (p : Char → Bool) (c : Cursor) : List Char × Cursor :=
  (c.rest.takeWhile p, c.skipWhile p)

/-- The place after spaces. -/
def skipSpaces (c : Cursor) : Cursor := c.skipWhile (· == ' ')

/-- The place after a comment, if there is one. -/
def skipComment (c : Cursor) : Cursor :=
  match c.rest with
  | '#' :: _ => c.skipWhile fun d => !isBreak d
  | _ => c

/-- The end of a line, and the place after it. -/
def takeBreak? (c : Cursor) : Option (Char × Cursor) :=
  match c.rest with
  | d :: _ => if isBreak d then some (d, c.next) else none
  | [] => none

/-- The place after the rest of a line on which nothing but a comment may
stand. -/
def finishLine (c : Cursor) : Except Error Cursor :=
  let c := c.skipSpaces.skipComment
  if atLineEnd c.rest then .ok ((c.takeBreak?.map (·.2)).getD c) else malformed

/-- The next token's place, after spaces, comments and ends of lines, and
whether a line was ended on the way. Every round ends a line. -/
def skipGap : Nat → Bool → Cursor → Cursor × Bool
  | 0, ended, c => (c, ended)
  | fuel + 1, ended, c =>
    let c := c.skipSpaces.skipComment
    match c.takeBreak? with
    | some (_, d) => skipGap fuel true d
    | none => (c, ended)

/-- The ends of lines at a place, each with the blanks before it, up to
something else, and the place after these blanks. There are none to read when
a mark that separates documents begins a line. -/
def lineBreaks (isBlank : Char → Bool) : Nat → Cursor → Option (List Char) × Cursor
  | 0, c => (some [], c)
  | fuel + 1, c =>
    if atSeparator c.rest then (none, c)
    else
      let d := c.skipWhile isBlank
      match d.takeBreak? with
      | none => (some [], d)
      | some (b, e) =>
        let (more, f) := lineBreaks isBlank fuel e
        (more.map (b :: ·), f)

end Cursor

/-- What the ends of lines between two words become: a single end of a line
is a space, and of several the first is dropped, unless it is a special one. -/
def folded (first : Char) (more : List Char) : List Char :=
  if first ≠ '\n' then first :: more else if more.isEmpty then [' '] else more

end ContentGraph.Document.Yaml
