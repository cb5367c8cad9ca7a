import ContentGraph.Text.Character
import ContentGraph.Text.Class.CaseMapping

/-!
# Changing case

The full case mappings: a character may become several (`ß` in upper case is
`SS`), and a capital sigma at the end of a word has a lower-case form of its
own.
-/

namespace ContentGraph.Text

/-- The characters of a code's full mapping, out of a list of expansions and
one of shifts. -/
def mappedCharacters (expansions : List (Nat × List Nat)) (shifts : List Shift) (c : Char) :
    List Char :=
  match expansions.lookup c.toNat with
  | some codes => codes.map Char.ofNat
  | none => [Char.ofNat (shifted shifts c.toNat)]

/-- The upper-case form of a character. -/
def upperCharacter (c : Char) : List Char := mappedCharacters upperExpansions upperShifts c

/-- The lower-case form of a character, whatever stands around it. -/
def lowerCharacter (c : Char) : List Char := mappedCharacters lowerExpansions lowerShifts c

/-- Whether the nearest character that is not case-ignorable is cased. -/
def meetsCased (s : List Char) : Bool :=
  match s.dropWhile isCaseIgnorable with
  | [] => false
  | c :: _ => isCased c

/-- The lower-case form of a character between the text before it, read
backwards, and the text after it. A capital sigma is final if a cased
character comes before it and none after it. -/
def lowerBetween (before : List Char) (c : Char) (after : List Char) : List Char :=
  if c = 'Σ' then
    if meetsCased before && !meetsCased after then ['ς'] else ['σ']
  else lowerCharacter c

/-- The lower-case form of a text that follows `before`, read backwards. -/
def lowerAfter (before : List Char) : List Char → List Char
  | [] => []
  | c :: rest => lowerBetween before c rest ++ lowerAfter (c :: before) rest

/-- The lower-case form of a text. -/
def lower (s : List Char) : List Char := lowerAfter [] s

/-- The first character in upper case and the rest in lower case. -/
def capitalizeCharacters : List Char → List Char
  | [] => []
  | c :: rest => upperCharacter c ++ lower rest

/-- The first character in upper case and the rest in lower case. -/
def capitalize (s : String) : String := String.ofList (capitalizeCharacters s.toList)

/-- The lower-case form of a string. -/
def toLower (s : String) : String := String.ofList (lower s.toList)

end ContentGraph.Text
