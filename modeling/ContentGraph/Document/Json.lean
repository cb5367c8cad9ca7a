import ContentGraph.Document.Error
import ContentGraph.Value.Equality

/-!
# Reading JSON

A reader of JSON texts. Beside the standard it takes `NaN`, `Infinity` and
`-Infinity`. A number with a point or an exponent is a double, every other
one an integer. Of a repeated key the last value counts, at the place of the
first.

Reading a value calls itself for what is nested inside; every call has read
at least one character more, so the length of the text bounds the calls. How
deep the nesting may be is another matter. Lists and maps are read on the
stack, and there is room for so many of them inside each other, in what is done
with the value later as in reading it. A text that is nested more deeply is given
up at the bracket for which there is no room, whatever comes after it.
-/

namespace ContentGraph.Document.Json

/-- The text is not JSON. -/
def malformed {α : Type} : Except Error α := .error (.malformed .json)

/-- The text is nested too deeply. -/
def tooDeep {α : Type} : Except Error α := .error (.unread .depth)

/-- The blanks that may stand between two tokens. -/
def isBlank (c : Char) : Bool := c == ' ' || c == '\t' || c == '\n' || c == '\r'

/-- The rest of a text after the blanks at its front. -/
def skipBlanks (s : List Char) : List Char := s.dropWhile isBlank

/-- The number of four hexadecimal digits, and the rest. -/
def hexCode : List Char → Except Error (Nat × List Char)
  | a :: b :: c :: d :: rest =>
    match Numeral.digitsValue? 16 0 [a, b, c, d] with
    | some n => .ok (n, rest)
    | none => malformed
  | _ => malformed

/-- A character escaped by its code. A code in the range of high halves is
joined with the low half that follows it; a lone half is not read. -/
def escapedCharacter (s : List Char) : Except Error (Char × List Char) := do
  let (high, rest) ← hexCode s
  if 0xD800 ≤ high ∧ high < 0xDC00 then
    match rest with
    | '\x5c' :: 'u' :: more =>
      let (low, rest') ← hexCode more
      if 0xDC00 ≤ low ∧ low < 0xE000 then
        return (Char.ofNat (0x10000 + (high - 0xD800) * 0x400 + (low - 0xDC00)), rest')
      else .error (.unread (.half high))
    | _ => .error (.unread (.half high))
  else if 0xDC00 ≤ high ∧ high < 0xE000 then .error (.unread (.half high))
  else return (Char.ofNat high, rest)

/-- The character of a short escape. -/
def shortEscape? (c : Char) : Option Char :=
  if c = '\x22' ∨ c = '\x5c' ∨ c = '/' then some c
  else if c = 'b' then some '\x08'
  else if c = 'f' then some '\x0c'
  else if c = 'n' then some '\n'
  else if c = 'r' then some '\r'
  else if c = 't' then some '\t'
  else none

/-- The rest of a string after its opening mark; the characters read so far
are in reverse. -/
def stringBody : Nat → List Char → List Char → Except Error (String × List Char)
  | 0, _, _ => malformed
  | _, _, [] => malformed
  | fuel + 1, read, c :: rest =>
    if c = '\x22' then .ok (String.ofList read.reverse, rest)
    else if c = '\x5c' then
      match rest with
      | [] => malformed
      | e :: rest =>
        if e = 'u' then do
          let (d, rest) ← escapedCharacter rest
          stringBody fuel (d :: read) rest
        else
          match shortEscape? e with
          | some d => stringBody fuel (d :: read) rest
          | none => malformed
    else if c.toNat < 32 then malformed
    else stringBody fuel (c :: read) rest

/-- The digits at the front of a text, and the rest. -/
def spanDigits (s : List Char) : List Char × List Char :=
  (s.takeWhile Char.isDigit, s.dropWhile Char.isDigit)

/-- A fraction at the front of a text with its point, or nothing. -/
def spanFraction (s : List Char) : List Char × List Char :=
  match s with
  | '.' :: rest =>
    match spanDigits rest with
    | ([], _) => ([], s)
    | (digits, more) => ('.' :: digits, more)
  | _ => ([], s)

/-- An exponent at the front of a text with its letter, or nothing. -/
def spanExponent (s : List Char) : List Char × List Char :=
  match s with
  | e :: rest =>
    if e = 'e' ∨ e = 'E' then
      let (sign, afterSign) :=
        match rest with
        | '+' :: more => (['+'], more)
        | '-' :: more => (['-'], more)
        | more => ([], more)
      match spanDigits afterSign with
      | ([], _) => ([], s)
      | (digits, more) => (e :: sign ++ digits, more)
    else ([], s)
  | [] => ([], s)

/-- A number after its sign. A zero is not followed by another digit. -/
def unsignedNumber (negative : Bool) (s : List Char) : Except Error (Value × List Char) :=
  let (whole, afterWhole) :=
    match s with
    | '0' :: rest => (['0'], rest)
    | _ => spanDigits s
  match whole with
  | [] => malformed
  | _ :: _ =>
    let (fraction, afterFraction) := spanFraction afterWhole
    let (exponent, rest) := spanExponent afterFraction
    if fraction.isEmpty && exponent.isEmpty then
      if whole.length > digitLimit then .error (.tooManyDigits whole.length)
      else
        match Numeral.digitsValue? 10 0 whole with
        | some n => .ok (.int (Numeral.signed negative n), rest)
        | none => malformed
    else
      match Numeral.double? ((if negative then ['-'] else []) ++ whole ++ fraction ++ exponent) with
      | some x => .ok (.float x, rest)
      | none => malformed

/-- The rest after a word at the front of a text. -/
def afterWord? (word s : List Char) : Option (List Char) :=
  if word.isPrefixOf s then some (s.drop word.length) else none

/-- A value that is a word. -/
def wordValue? (s : List Char) : Option (Value × List Char) :=
  let words : List (String × Value) :=
    [("null", .null), ("true", .bool true), ("false", .bool false), ("NaN", .float .nan),
      ("Infinity", .float (.infinite false)), ("-Infinity", .float (.infinite true))]
  words.findSome? fun (word, v) => (afterWord? word.toList s).map (v, ·)

mutual

/-- The value at the front of a text, which has no blanks before it. -/
def value (room : Nat) : Nat → List Char → Except Error (Value × List Char)
  | 0, _ => malformed
  | fuel + 1, s =>
    match s with
    | '\x22' :: rest => do
      let (text, rest) ← stringBody (rest.length + 1) [] rest
      return (.string text, rest)
    | '\x5b' :: rest =>
      if room = 0 then tooDeep
      else
        match skipBlanks rest with
        | '\x5d' :: more => .ok (.list [], more)
        | rest => do
          let (items, rest) ← items (room - 1) fuel rest
          return (.list items, rest)
    | '\x7b' :: rest =>
      if room = 0 then tooDeep
      else
        match skipBlanks rest with
        | '\x7d' :: more => .ok (.map [], more)
        | rest => do
          let (pairs, rest) ← members (room - 1) fuel rest
          return (.map (Entries.ofPairs pairs), rest)
    | _ =>
      match wordValue? s with
      | some found => .ok found
      | none =>
        match s with
        | '-' :: rest => unsignedNumber true rest
        | _ => unsignedNumber false s

/-- The items of a list that has at least one, up to its closing bracket. -/
def items (room : Nat) : Nat → List Char → Except Error (List Value × List Char)
  | 0, _ => malformed
  | fuel + 1, s => do
    let (first, rest) ← value room fuel s
    match skipBlanks rest with
    | ',' :: rest => do
      let (others, rest) ← items room fuel (skipBlanks rest)
      return (first :: others, rest)
    | '\x5d' :: rest => return ([first], rest)
    | _ => malformed

/-- The members of a map that has at least one, up to its closing brace. -/
def members (room : Nat) : Nat → List Char → Except Error (List (Value × Value) × List Char)
  | 0, _ => malformed
  | fuel + 1, s =>
    match s with
    | '\x22' :: rest => do
      let (key, rest) ← stringBody (rest.length + 1) [] rest
      match skipBlanks rest with
      | ':' :: rest => do
        let (v, rest) ← value room fuel (skipBlanks rest)
        match skipBlanks rest with
        | ',' :: rest => do
          let (others, rest) ← members room fuel (skipBlanks rest)
          return ((.string key, v) :: others, rest)
        | '\x7d' :: rest => return ([(.string key, v)], rest)
        | _ => malformed
      | _ => malformed
    | _ => malformed

end

/-- The value of a whole text with room for some levels of nesting: nothing but
blanks may stand around it, and no byte order mark before it. -/
def read (room : Nat) (s : List Char) : Except Error Value :=
  if s.head? = some '\uFEFF' then malformed
  else do
    let (v, rest) ← value room (2 * s.length + 2) (skipBlanks s)
    if (skipBlanks rest).isEmpty then return v else malformed

end ContentGraph.Document.Json
