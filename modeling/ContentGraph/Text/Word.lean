import ContentGraph.Text.Case

/-!
# Words of a name

A name is cut into words at separators, between a digit and a character that
is none, and where the case changes: before a capital that follows a small
letter, and before the last capital of a run that a small letter follows, so
that `HTMLNode` has the words `HTML` and `Node`. Joined again in camel case,
the words give the key under which a type is registered.
-/

namespace ContentGraph.Text

/-- A separator: every character that is neither a letter nor a number. -/
def isSeparator (c : Char) : Bool := !isAlphanumeric c

/-- Whether a word ends between two neighbours, given the character after
them, if there is one. -/
def isBoundary (before after : Char) (next : Option Char) : Bool :=
  isDigit before != isDigit after
    || (isLower before && isUpper after)
    || (isUpper before && isUpper after && next.any isLower)

/-- A character put in front of the first word. -/
def joinFirst (c : Char) : List (List Char) → List (List Char)
  | [] => [[c]]
  | word :: words => (c :: word) :: words

/-- The words of a chunk without separators: it is cut at every boundary. -/
def cutWords : List Char → List (List Char)
  | [] => []
  | [c] => [[c]]
  | before :: after :: rest =>
    if isBoundary before after rest.head? then [before] :: cutWords (after :: rest)
    else joinFirst before (cutWords (after :: rest))

/-- The stretches between separators, empty ones included. -/
def stretches : List Char → List (List Char)
  | [] => [[]]
  | c :: rest =>
    if isSeparator c then [] :: stretches rest
    else
      match stretches rest with
      | [] => [[c]]
      | stretch :: more => (c :: stretch) :: more

/-- The words of a name, in order. An empty stretch has none. -/
def splitCharacters (s : List Char) : List (List Char) := (stretches s).flatMap cutWords

/-- The words of a name, in order. -/
def splitWords (s : String) : List String := (splitCharacters s.toList).map String.ofList

/-- Words joined in camel case: the first in lower case, the others
capitalized. -/
def joinCamel : List (List Char) → List Char
  | [] => []
  | word :: words => lower word ++ words.flatMap capitalizeCharacters

/-- A name in camel case. -/
def camelCase (s : String) : String := String.ofList (joinCamel (splitCharacters s.toList))

end ContentGraph.Text
