import ContentGraph.Document.Yaml.Cursor

/-!
# Scalars of YAML

The texts of scalars, as they stand in a document, in its four styles: plain,
in single or double quotation marks, and in a block of lines that is kept or
folded. Each reader gives the text and the place after it.

Each round of a reader's loop takes at least one character, so the length of
the text that is left bounds the number of rounds.
-/

namespace ContentGraph.Document.Yaml

/-! ## Plain scalars -/

/-- Whether a word of a plain scalar ends here. Among the items of a flow
collection the marks of the collection end it too. -/
def endsPlainWord (inFlow : Bool) : List Char → Bool
  | [] => true
  | c :: rest =>
    isBlank c || isBreak c
      || (c == ':'
        && (atGap rest || (inFlow && (rest.head?.any [',', '[', ']', '{', '}'].contains))))
      || (inFlow && [',', '?', '[', ']', '{', '}'].contains c)

/-- The length of the word of a plain scalar at the front of a text. -/
def plainWordLength (inFlow : Bool) : List Char → Nat
  | [] => 0
  | c :: rest => if endsPlainWord inFlow (c :: rest) then 0 else plainWordLength inFlow rest + 1

/-- What stands between two words of a plain scalar. -/
structure PlainGap where
  /-- What it becomes in the text; nothing if there is no next word. -/
  text : List Char
  /-- Whether a line was ended. -/
  endsLine : Bool
  /-- The place after it. -/
  after : Cursor

/-- The gap after a word of a plain scalar. Tabs are no part of it. -/
def plainGap (c : Cursor) : PlainGap :=
  let (spaces, d) := c.span (· == ' ')
  match d.takeBreak? with
  | none => ⟨spaces, false, d⟩
  | some (first, e) =>
    match e.lineBreaks (· == ' ') (e.rest.length + 1) with
    | (some more, f) => ⟨folded first more, true, f⟩
    | (none, f) => ⟨[], true, f⟩

/-- A plain scalar with words from a column on: its text, whether a line was
ended after it, and the place after it. -/
def plainWords (inFlow : Bool) (column : Int) :
    Nat → List Char → List Char → Bool → Cursor → String × Bool × Cursor
  | 0, read, _, ended, c => (String.ofList read, ended, c)
  | fuel + 1, read, gap, ended, c =>
    let length := if c.rest.head? = some '#' then 0 else plainWordLength inFlow c.rest
    if length = 0 then (String.ofList read, ended, c)
    else
      let read := read ++ gap ++ c.rest.take length
      let next := plainGap (c.skip length)
      if next.text.isEmpty || next.after.rest.head? = some '#'
          || (!inFlow && decide ((next.after.column : Int) < column)) then
        (String.ofList read, next.endsLine, next.after)
      else plainWords inFlow column fuel read next.text next.endsLine next.after

/-- The plain scalar at a place. -/
def plainScalar (inFlow : Bool) (indent : Int) (c : Cursor) : String × Bool × Cursor :=
  plainWords inFlow (indent + 1) (c.rest.length + 1) [] [] false c

/-! ## Quoted scalars -/

/-- The character that an escape of one letter stands for. -/
def shortEscape? (c : Char) : Option Char :=
  [('0', '\x00'), ('a', '\x07'), ('b', '\x08'), ('t', '\x09'), ('\t', '\x09'), ('n', '\x0A'),
    ('v', '\x0B'), ('f', '\x0C'), ('r', '\x0D'), ('e', '\x1B'), (' ', ' '), ('\x22', '\x22'),
    ('\x5c', '\x5c'), ('/', '/'), ('N', '\x85'), ('_', '\xA0'), ('L', '\u2028'),
    ('P', '\u2029')].lookup c

/-- The number of digits of an escape by code. -/
def escapeDigits? (c : Char) : Option Nat := [('x', 2), ('u', 4), ('U', 8)].lookup c

/-- The character of a code. Half a pair of codes is not read. -/
def characterOfCode (code : Nat) : Except Error Char :=
  if code > 0x10FFFF then .error (.noCharacter code)
  else if 0xD800 ≤ code ∧ code < 0xE000 then .error (.unread (.half code))
  else .ok (Char.ofNat code)

/-- An escape after its mark: the characters it stands for, and the place
after it. An escaped end of a line joins the lines. -/
def escape (c : Cursor) : Except Error (List Char × Cursor) :=
  match c.rest with
  | [] => malformed
  | e :: rest =>
    match shortEscape? e, escapeDigits? e with
    | some d, _ => .ok ([d], c.next)
    | none, some digits =>
      match Numeral.digitsValue? 16 0 (rest.take digits) with
      | some code =>
        if rest.length < digits then malformed
        else (characterOfCode code).map fun d => ([d], c.next.skip digits)
      | none => malformed
    | none, none =>
      if isBreak e then
        match c.next.lineBreaks isBlank (c.rest.length + 1) with
        | (some more, d) => .ok (more, d)
        | (none, _) => malformed
      else malformed

/-- The blanks and ends of lines between two words of a quoted scalar. -/
def quotedGap (c : Cursor) : Except Error (List Char × Cursor) :=
  let (blanks, d) := c.span isBlank
  match d.takeBreak? with
  | none => .ok (blanks, d)
  | some (first, e) =>
    match e.lineBreaks isBlank (e.rest.length + 1) with
    | (some more, f) => .ok (folded first more, f)
    | (none, _) => malformed

/-- The rest of a quoted scalar after its opening mark; what was read so far
is in reverse. In single marks, a mark is written twice; in double marks,
there are escapes. -/
def quotedBody (mark : Char) : Nat → List Char → Cursor → Except Error (String × Cursor)
  | 0, _, _ => malformed
  | fuel + 1, read, c =>
    match c.rest with
    | [] => malformed
    | d :: rest =>
      if d = mark then
        if mark = '\x27' ∧ rest.head? = some '\x27' then
          quotedBody mark fuel ('\x27' :: read) (c.skip 2)
        else .ok (String.ofList read.reverse, c.next)
      else if d = '\x5c' ∧ mark = '\x22' then do
        let (characters, e) ← escape c.next
        quotedBody mark fuel (characters.reverse ++ read) e
      else if isBlank d || isBreak d then do
        let (gap, e) ← quotedGap c
        quotedBody mark fuel (gap.reverse ++ read) e
      else quotedBody mark fuel (d :: read) c.next

/-- The quoted scalar at a place, where its opening mark stands. -/
def quotedScalar (mark : Char) (c : Cursor) : Except Error (String × Cursor) :=
  quotedBody mark (c.rest.length + 1) [] c.next

/-! ## Block scalars -/

/-- What becomes of the ends of lines at the end of a block. -/
inductive Chomping where
  /-- All are dropped. -/
  | strip
  /-- One is kept. -/
  | clip
  /-- All are kept. -/
  | keep
deriving DecidableEq, Repr

/-- The chomping that a sign asks for. -/
def chomping? (c : Char) : Option Chomping :=
  if c = '+' then some .keep else if c = '-' then some .strip else none

/-- The number of columns that a digit asks for; zero is none. -/
def increment? (c : Char) : Option Nat :=
  if c.isDigit && c != '0' then some (c.toNat - 48) else none

/-- The header of a block after its mark: the chomping, the columns asked
for, and how many characters it has. -/
def blockHeader : List Char → Except Error (Chomping × Option Nat × Nat)
  | [] => .ok (.clip, none, 0)
  | c :: rest =>
    match chomping? c with
    | some chomping =>
      match rest with
      | d :: _ =>
        if d.isDigit then
          match increment? d with
          | some n => .ok (chomping, some n, 2)
          | none => malformed
        else .ok (chomping, none, 1)
      | [] => .ok (chomping, none, 1)
    | none =>
      if c.isDigit then
        match increment? c with
        | none => malformed
        | some n =>
          match rest.head?.bind chomping? with
          | some chomping => .ok (chomping, some n, 2)
          | none => .ok (.clip, some n, 1)
      else .ok (.clip, none, 0)

/-- The ends of lines before the first line of a block, the largest column
that the spaces among them reach, and the place after them. -/
def blockStart : Nat → Nat → Cursor → List Char × Nat × Cursor
  | 0, reached, c => ([], reached, c)
  | fuel + 1, reached, c =>
    let d := c.skipSpaces
    let reached := if d.index = c.index then reached else max reached d.column
    match d.takeBreak? with
    | none => ([], reached, d)
    | some (b, e) =>
      let (more, reached, f) := blockStart fuel reached e
      (b :: more, reached, f)

/-- The place after the spaces that lead up to a column at most. -/
def skipIndent : Nat → Cursor → Cursor
  | 0, c => c
  | n + 1, c => if c.rest.head? = some ' ' then skipIndent n c.next else c

/-- The ends of empty lines in a block that is indented to a column, and the
place after them. -/
def blockBreaks (column : Nat) : Nat → Cursor → List Char × Cursor
  | 0, c => ([], c)
  | fuel + 1, c =>
    let d := skipIndent (column - c.column) c
    match d.takeBreak? with
    | none => ([], d)
    | some (b, e) =>
      let (more, f) := blockBreaks column fuel e
      (b :: more, f)

/-- Whether the next line belongs to a block that is indented to a column. -/
def inBlock (column : Nat) (c : Cursor) : Bool := c.column == column && !c.rest.isEmpty

/-- Whether a text begins with a blank. -/
def startsBlank (s : List Char) : Bool := s.head?.any isBlank

/-- The lines of a block from one that belongs to it: what was read, the end
of the last line, the ends of empty lines after it, and the place after all. In
a folded block, the end of a line between two lines that begin with no blank
is a space, or nothing if empty lines follow. -/
def blockLines (fold : Bool) (column : Nat) :
    Nat → List Char → List Char → Cursor → List Char × List Char × List Char × Cursor
  | 0, read, breaks, c => (read, [], breaks, c)
  | fuel + 1, read, breaks, c =>
    let (line, d) := c.span fun e => !isBreak e
    let read := read ++ breaks ++ line
    let (lineEnd, e) :=
      match d.takeBreak? with
      | some (b, e) => ([b], e)
      | none => ([], d)
    let (breaks, f) := blockBreaks column (e.rest.length + 1) e
    if inBlock column f then
      let joined :=
        if fold && lineEnd == ['\n'] && !startsBlank c.rest && !startsBlank f.rest then
          if breaks.isEmpty then [' '] else []
        else lineEnd
      blockLines fold column fuel (read ++ joined) breaks f
    else (read, lineEnd, breaks, f)

/-- The block scalar at a place, where its mark stands, inside a collection
that is indented to a column. -/
def blockScalar (fold : Bool) (indent : Int) (c : Cursor) : Except Error (String × Cursor) := do
  let (chomping, increment, length) ← blockHeader c.next.rest
  let header := c.next.skip length
  if !atSpace header.rest then malformed
  else
    let first ← header.finishLine
    let least := (max (indent + 1) 1).toNat
    let (breaks, column, start) :=
      match increment with
      | none =>
        let (breaks, reached, d) := blockStart (first.rest.length + 1) 0 first
        (breaks, max least reached, d)
      | some n =>
        let column := least + n - 1
        let (breaks, d) := blockBreaks column (first.rest.length + 1) first
        (breaks, column, d)
    let (read, lineEnd, breaks, after) :=
      if inBlock column start then
        blockLines fold column (start.rest.length + 1) [] breaks start
      else ([], [], breaks, start)
    let tail :=
      match chomping with
      | .strip => []
      | .clip => lineEnd
      | .keep => lineEnd ++ breaks
    return (String.ofList (read ++ tail), after)

end ContentGraph.Document.Yaml
