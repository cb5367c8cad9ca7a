import ContentGraph.Document.Yaml.Timestamp

/-!
# Tags of YAML

Every node has a tag that says what its value is. A collection or a quoted
scalar without a tag has the tag of its form; for a plain scalar it is found
from the text. `Tag.ofPlain` gives the forms of null, truth values, integers,
numbers and timestamps; every other text is a string.
-/

namespace ContentGraph.Document.Yaml

/-- What the value of a node is. -/
inductive Tag where
  | null
  | bool
  | int
  | float
  | binary
  | timestamp
  | string
  | sequence
  | mapping
  /-- A sequence of pairs in which no key is repeated. -/
  | orderedMapping
  /-- A sequence of pairs. -/
  | pairs
  /-- A mapping without values. -/
  | members
  /-- The key under which other mappings are merged in. -/
  | merge
  /-- The key of the value by which a mapping is represented. -/
  | representative
  /-- A tag that is not known. -/
  | unknown
deriving DecidableEq, Repr

namespace Tag

/-- What the tags that are known begin with. -/
def commonStart : String := "tag:yaml.org,2002:"

/-- The tags that can be named, by the ends of their names. -/
def names : List (String × Tag) :=
  [("null", null), ("bool", bool), ("int", int), ("float", float), ("binary", binary),
    ("timestamp", timestamp), ("str", string), ("seq", sequence), ("map", mapping),
    ("omap", orderedMapping), ("pairs", pairs), ("set", members), ("merge", merge),
    ("value", representative)]

/-- The tag of a full name. -/
def ofName (name : String) : Tag :=
  ((names.find? fun entry => commonStart ++ entry.1 == name).map (·.2)).getD unknown

/-- A digit or a low line. -/
def isDigitOrLine (c : Char) : Bool := c.isDigit || c == '_'

/-- A text without a sign in front. -/
def unsigned : List Char → List Char
  | '+' :: rest => rest
  | '-' :: rest => rest
  | s => s

/-- A digit below six. -/
def isSixth (c : Char) : Bool := '0' ≤ c && c ≤ '5'

/-- The rest of a text after the colons with numbers below sixty at its
front. -/
def afterSixtieths : List Char → List Char
  | ':' :: a :: b :: rest =>
    if isSixth a && b.isDigit then afterSixtieths rest
    else if a.isDigit then afterSixtieths (b :: rest)
    else ':' :: a :: b :: rest
  | [':', a] => if a.isDigit then [] else [':', a]
  | s => s

/-- Whether a text is the rest of a number to base sixty, up to an end of
some form. -/
def isSixtieths (isEnd : List Char → Bool) (s : List Char) : Bool :=
  let rest := afterSixtieths s
  rest.length < s.length && isEnd rest

/-- Whether every character is of a class and there is one at least. -/
def isRun (p : Char → Bool) (s : List Char) : Bool := !s.isEmpty && s.all p

/-- Whether a text without a sign is an integer: binary, octal, decimal,
hexadecimal, or to base sixty. -/
def isUnsignedInt : List Char → Bool
  | [] => false
  | ['0'] => true
  | '0' :: 'b' :: rest => isRun (fun c => c == '0' || c == '1' || c == '_') rest
  | '0' :: 'x' :: rest => isRun (fun c => (Numeral.digitValue? 16 c).isSome || c == '_') rest
  | '0' :: rest => isRun (fun c => ('0' ≤ c && c ≤ '7') || c == '_') rest
  | c :: rest =>
    c.isDigit
      && (rest.all isDigitOrLine || isSixtieths List.isEmpty (rest.dropWhile isDigitOrLine))

/-- Whether a text is empty or an exponent. Its sign must be written. -/
def isExponent : List Char → Bool
  | [] => true
  | e :: sign :: digits =>
    (e == 'e' || e == 'E') && (sign == '+' || sign == '-') && isRun Char.isDigit digits
  | _ => false

/-- Whether a text is a point with a fraction, which may be empty. -/
def isFraction (isEnd : List Char → Bool) : List Char → Bool
  | '.' :: rest => isEnd (rest.dropWhile isDigitOrLine)
  | _ => false

/-- Whether a text without a sign is a number with digits before its
point. -/
def isUnsignedFloat : List Char → Bool
  | c :: rest =>
    let tail := rest.dropWhile isDigitOrLine
    c.isDigit
      && (isFraction isExponent tail || isSixtieths (isFraction List.isEmpty) tail)
  | [] => false

/-- Whether a text is a number that begins with a point. -/
def isBareFraction : List Char → Bool
  | '.' :: c :: rest => c.isDigit && isExponent (rest.dropWhile isDigitOrLine)
  | _ => false

/-- Whether a text is an infinity, or not a number. -/
def isSpecial (s : List Char) : Bool :=
  [".inf", ".Inf", ".INF"].contains (String.ofList (unsigned s))
    || [".nan", ".NaN", ".NAN"].contains (String.ofList s)

/-- Whether a text is a number that is no integer. -/
def isFloat (s : List Char) : Bool :=
  isUnsignedFloat (unsigned s) || isBareFraction s || isSpecial s

/-- The words for nothing. -/
def nullWords : List String := ["", "~", "null", "Null", "NULL"]

/-- The words for truth values. -/
def truthWords : List String :=
  ["yes", "Yes", "YES", "no", "No", "NO", "true", "True", "TRUE", "false", "False", "FALSE",
    "on", "On", "ON", "off", "Off", "OFF"]

/-- A text without an end of line after it. -/
def withoutBreak (s : List Char) : List Char :=
  if s.length > 1 ∧ s.getLast? = some '\n' then s.dropLast else s

/-- The tag of a scalar whose text decides it. -/
def ofPlain (text : String) : Tag :=
  let s := withoutBreak text.toList
  let word := String.ofList s
  if nullWords.contains word then null
  else if truthWords.contains word then bool
  else if isFloat s then float
  else if isUnsignedInt (unsigned s) then int
  else if Timestamp.isPlain s then timestamp
  else if word = "<<" then merge
  else if word = "=" then representative
  else if word = "!" ∨ word = "&" ∨ word = "*" then unknown
  else string

end Tag

end ContentGraph.Document.Yaml
