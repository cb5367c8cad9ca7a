import ContentGraph.Text.Character

/-!
# Quoted text

A text is quoted with apostrophes, or with quotation marks if it holds an
apostrophe and no quotation mark. Inside, the mark in use and the backslash
are escaped, tab and line breaks have short escapes, and every character
that is not printable is written by its code.
-/

namespace ContentGraph.Text

/-- The digit of a value below sixteen, in lower case. -/
def hexDigit (n : Nat) : Char :=
  if n < 10 then Char.ofNat (48 + n) else Char.ofNat (87 + n)

/-- The last `width` hexadecimal digits of a number. -/
def hexDigits (width n : Nat) : List Char :=
  match width with
  | 0 => []
  | w + 1 => hexDigits w (n / 16) ++ [hexDigit (n % 16)]

/-- A code escaped with as many digits as it needs: two, four or eight. -/
def escapedCode (n : Nat) : List Char :=
  if n < 0x100 then ['\x5c', 'x'] ++ hexDigits 2 n
  else if n < 0x10000 then ['\x5c', 'u'] ++ hexDigits 4 n
  else ['\x5c', 'U'] ++ hexDigits 8 n

/-- How one character is written between two marks. -/
def quotedCharacter (mark c : Char) : List Char :=
  if c = mark ∨ c = '\x5c' then ['\x5c', c]
  else if c = '\t' then ['\x5c', 't']
  else if c = '\n' then ['\x5c', 'n']
  else if c = '\r' then ['\x5c', 'r']
  else if isPrintable c then [c]
  else escapedCode c.toNat

/-- The mark a text is quoted with. -/
def quotationMark (s : List Char) : Char :=
  if s.contains '\x27' && !s.contains '\x22' then '\x22' else '\x27'

/-- A text in quotes. -/
def quoted (s : String) : String :=
  let mark := quotationMark s.toList
  String.ofList (mark :: s.toList.flatMap (quotedCharacter mark) ++ [mark])

end ContentGraph.Text
