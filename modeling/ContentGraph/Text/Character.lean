import ContentGraph.Text.Class.Alphanumeric
import ContentGraph.Text.Class.Blank
import ContentGraph.Text.Class.CaseContext
import ContentGraph.Text.Class.Digit
import ContentGraph.Text.Class.Identifier
import ContentGraph.Text.Class.LetterCase
import ContentGraph.Text.Class.Printable

/-!
# Classes of characters

The predicates that the rest of the library asks of a character. Each of
them is the membership in the spans of one Unicode property.
-/

namespace ContentGraph.Text

/-- A letter of any script, or a character with a numeric value. -/
def isAlphanumeric (c : Char) : Bool := inSpans alphanumericSpans c.toNat

/-- A digit, superscripts and circled digits included. -/
def isDigit (c : Char) : Bool := inSpans digitSpans c.toNat

/-- A digit of a decimal notation of some script. -/
def isDecimal (c : Char) : Bool := inSpans decimalSpans c.toNat

/-- A lower-case character. -/
def isLower (c : Char) : Bool := inSpans lowercaseSpans c.toNat

/-- An upper-case character. -/
def isUpper (c : Char) : Bool := inSpans uppercaseSpans c.toNat

/-- White space. -/
def isBlank (c : Char) : Bool := inSpans blankSpans c.toNat

/-- A character that a quoted text shows as itself. -/
def isPrintable (c : Char) : Bool := inSpans printableSpans c.toNat

/-- A character that may begin a name. -/
def isIdentifierStart (c : Char) : Bool := inSpans identifierStartSpans c.toNat

/-- A character that may continue a name. -/
def isIdentifierContinue (c : Char) : Bool := inSpans identifierContinueSpans c.toNat

/-- A name: a character that may begin one, and then such as may continue it. -/
def isIdentifier : List Char → Bool
  | [] => false
  | c :: rest => isIdentifierStart c && rest.all isIdentifierContinue

/-- A character of a word in a pattern: alphanumeric, or the low line. -/
def isWordCharacter (c : Char) : Bool := isAlphanumeric c || c == '_'

/-- A cased character that is not case-ignorable. -/
def isCased (c : Char) : Bool := inSpans casedSpans c.toNat

/-- A character that is skipped in the search for a cased neighbour. -/
def isCaseIgnorable (c : Char) : Bool := inSpans caseIgnorableSpans c.toNat

/-- The value of a decimal digit of any script. Every span of decimal digits
starts with a zero and holds whole decades. -/
def decimalValue? (c : Char) : Option Nat :=
  (decimalSpans.find? fun span => span.1 ≤ c.toNat && c.toNat ≤ span.2.1).map
    fun span => (c.toNat - span.1) % 10

end ContentGraph.Text
