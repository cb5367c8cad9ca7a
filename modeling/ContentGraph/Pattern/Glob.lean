/-!
# Wildcard patterns

A wildcard pattern matches a text as a whole. A star stands for any text, a
question mark for any character, and a set in brackets for one of its
characters, or for one that is not in it if it begins with an exclamation
mark. A bracket that is never closed stands for itself.

In a set a hyphen makes a range of its two neighbours. A range that ends
before it starts is dropped together with the two, and what is left of the
set is then read anew.
-/

namespace ContentGraph

/-- One item of a set: the characters between two, both included. -/
abbrev GlobRange := Char × Char

/-- One piece of a wildcard pattern. -/
inductive GlobPiece where
  /-- Any text. -/
  | anyText
  /-- Any character. -/
  | anyCharacter
  /-- One character. -/
  | character (c : Char)
  /-- One character of a set, or one that is not in it. -/
  | set (negated : Bool) (ranges : List GlobRange)
deriving DecidableEq, Repr

namespace Glob

/-- The text of a set after its opening bracket, and what follows the closing
one. An exclamation mark and then a bracket at the front belong to the set. -/
def setText? (s : List Char) : Option (List Char × List Char) :=
  let (mark, s) := match s with
    | '!' :: rest => (['!'], rest)
    | rest => ([], rest)
  let (bracket, s) := match s with
    | ']' :: rest => ([']'], rest)
    | rest => ([], rest)
  match s.dropWhile (· ≠ ']') with
  | [] => none
  | _ :: rest => some (mark ++ bracket ++ s.takeWhile (· ≠ ']'), rest)

/-- What stands before the first hyphen at or after a place, and what stands
after it, if there is one. -/
def splitAtHyphen? : Nat → List Char → Option (List Char × List Char)
  | _, [] => none
  | 0, c :: rest =>
    if c = '-' then some ([], rest)
    else (splitAtHyphen? 0 rest).map fun (before, after) => (c :: before, after)
  | skip + 1, c :: rest =>
    (splitAtHyphen? skip rest).map fun (before, after) => (c :: before, after)

/-- The chunks of a set between the hyphens that make ranges. The first such
hyphen has a character before it, and any other has two after the one
before. -/
def chunksFrom : Nat → Nat → List Char → List (List Char)
  | 0, _, s => [s]
  | fuel + 1, skip, s =>
    match splitAtHyphen? skip s with
    | some (before, after) => before :: chunksFrom fuel 2 after
    | none => [s]

/-- Chunks whose last one is not empty: a hyphen at the end stands for
itself. -/
def closeChunks : List (List Char) → List (List Char)
  | [] => []
  | [chunk, []] => [chunk ++ ['-']]
  | chunk :: rest => chunk :: closeChunks rest

/-- A chunk put in front of others. If the range between them ends before it
starts, it is dropped and the two chunks are joined. -/
def joinChunk (chunk : List Char) : List (List Char) → List (List Char)
  | [] => [chunk]
  | next :: rest =>
    match chunk.getLast?, next.head? with
    | some low, some high =>
      if low > high then (chunk.dropLast ++ next.tail) :: rest else chunk :: next :: rest
    | _, _ => chunk :: next :: rest

/-- The chunks of a set without ranges that end before they start. -/
def chunks (s : List Char) : List (List Char) :=
  let skip := if s.head? = some '!' then 2 else 1
  (closeChunks (chunksFrom s.length skip s)).foldr joinChunk []

/-- A character of a set that is taken apart: itself, or a hyphen that makes
a range. -/
inductive SetMark where
  | character (c : Char)
  | hyphen
deriving DecidableEq

/-- The marks of chunks, with a hyphen between two of them. -/
def marks : List (List Char) → List SetMark
  | [] => []
  | [chunk] => chunk.map .character
  | chunk :: rest => chunk.map .character ++ .hyphen :: marks rest

/-- The ranges of marks. A hyphen makes a range of the characters beside it,
unless one of them belongs to a range already. -/
def ranges : List SetMark → List GlobRange
  | [] => []
  | .character low :: .hyphen :: .character high :: rest => (low, high) :: ranges rest
  | .character c :: rest => (c, c) :: ranges rest
  | .hyphen :: rest => ('-', '-') :: ranges rest

/-- The set of a text between brackets. If nothing is left of it, it matches
nothing, and if only the exclamation mark is, it matches everything. -/
def pieceOfSet (s : List Char) : GlobPiece :=
  match marks (if s.contains '-' then chunks s else [s]) with
  | [] => .set false []
  | [.character '!'] => .anyCharacter
  | .character '!' :: rest => .set true (ranges rest)
  | all => .set false (ranges all)

/-- The pieces of a pattern. -/
def piecesFrom : Nat → List Char → List GlobPiece
  | 0, _ => []
  | _, [] => []
  | fuel + 1, c :: rest =>
    if c = '*' then .anyText :: piecesFrom fuel rest
    else if c = '?' then .anyCharacter :: piecesFrom fuel rest
    else if c = '[' then
      match setText? rest with
      | some (inside, after) => pieceOfSet inside :: piecesFrom fuel after
      | none => .character '[' :: piecesFrom fuel rest
    else .character c :: piecesFrom fuel rest

/-- The pieces of a pattern. -/
def pieces (pattern : String) : List GlobPiece :=
  piecesFrom pattern.toList.length pattern.toList

/-- Whether some end of a text passes a test, the text itself included. -/
def someTail (test : List Char → Bool) : List Char → Bool
  | [] => test []
  | c :: rest => test (c :: rest) || someTail test rest

/-- Whether a character is in one of some ranges. -/
def inRanges (ranges : List GlobRange) (c : Char) : Bool :=
  ranges.any fun (low, high) => low ≤ c && c ≤ high

/-- Whether pieces match a text as a whole. -/
def matchesPieces : List GlobPiece → List Char → Bool
  | [], s => s.isEmpty
  | .anyText :: rest, s => someTail (matchesPieces rest) s
  | _ :: _, [] => false
  | .anyCharacter :: rest, _ :: s => matchesPieces rest s
  | .character d :: rest, c :: s => c == d && matchesPieces rest s
  | .set negated ranges :: rest, c :: s => inRanges ranges c != negated && matchesPieces rest s

/-- Whether a wildcard pattern matches a text as a whole. -/
def matchesText (pattern text : String) : Bool := matchesPieces (pieces pattern) text.toList

end Glob

end ContentGraph
