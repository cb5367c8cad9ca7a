import ContentGraph.Document.Yaml.Content
import ContentGraph.Document.Yaml.Lexer

/-!
# Reading YAML

A reader of YAML texts with a single document, in version 1.1 of the
notation. A text is made into tokens, the tokens into a tree, and the tree
into a value. A text without a document has the value null.

There is room for some levels of nesting, in the tree as in the text: an alias
can make the tree deeper than the text.

Not all that the notation can say is read here. A node that contains itself, a
set, half of a character and an integer that is too long to be written are no
values, and a document with one of them is told apart from those that are at fault
(`Document.Unread`). So is one with a key that stands for something else, where
what becomes of the key depends on what was read before. Tags that are no part of
the common types are at fault.

A long text is read in pieces. A character that may not stand in a document is
found at once in the first piece; in a later one it may be found after another
fault, and the document is not read either.
-/

namespace ContentGraph.Document.Yaml

/-- How many characters, or bytes, are read before the first token. -/
def firstPiece : Nat := 8192

/-- The value of a text, with room for some levels of nesting. -/
def read (room : Nat) (text : List Char) : Except Error Value :=
  let lines := normalizeBreaks text
  if lines.all isAllowed then do
    match ← Tree.ofTokens? room (Tokens.ofText lines) with
    | some tree => if tree.depth ≤ room then tree.value else .error (.unread .depth)
    | none => return .null
  else if (lines.take firstPiece).all isAllowed then .error (.unread .laterPiece)
  else malformed

end ContentGraph.Document.Yaml
