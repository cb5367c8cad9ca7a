import ContentGraph.Document.Error

/-!
# Tokens of YAML

What a YAML text is made of once its indentation has been understood: the
beginnings and ends of collections, the marks of entries, keys and values, and
scalars with what may stand before them.
-/

namespace ContentGraph.Document.Yaml

/-- A line that says something about the document after it. -/
inductive Directive where
  /-- The version of the notation. -/
  | version (major : Nat)
  /-- A short form for the tags that begin alike. -/
  | tag (handle start : String)
  /-- Anything else. -/
  | other
deriving DecidableEq, Repr

/-- A token. -/
inductive Token where
  | directive (d : Directive)
  | documentStart
  | documentEnd
  | blockSequenceStart
  | blockMappingStart
  | blockEnd
  | flowSequenceStart
  | flowMappingStart
  | flowSequenceEnd
  | flowMappingEnd
  | blockEntry
  | flowEntry
  /-- The mark of a key; where a key is simple, it is not written. -/
  | key
  | value
  /-- A reference to a node with an anchor. -/
  | alias (name : String)
  | anchor (name : String)
  /-- A tag, with the handle that it begins with unless it is written in
  full. -/
  | tag (handle : Option String) (ending : String)
  /-- A scalar, plain or in another style. -/
  | scalar (text : String) (plain : Bool)
deriving DecidableEq, Repr

/-- The tokens of a text, up to its end or to a fault. -/
structure Tokens where
  /-- The tokens. -/
  tokens : List Token
  /-- The fault after them, if there is one. -/
  fault : Option Error

end ContentGraph.Document.Yaml
