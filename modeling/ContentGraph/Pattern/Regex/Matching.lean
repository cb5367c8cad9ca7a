import ContentGraph.Pattern.Regex

/-!
# Matching regular expressions

A match is searched for by backtracking: `Regex.run` tries an expression at a
place and hands every place it can end at, in order of preference, to a
continuation, until the continuation succeeds. The recursion is on the
expression. A repetition goes round again only if the last round read
something, so what is left of the text bounds it.
-/

namespace ContentGraph

/-- A place in the text, with what the groups have matched so far, the latest
match first. -/
structure RegexPlace where
  /-- The place, counted in characters. -/
  position : Nat
  /-- For a group, where its match starts and where it ends. -/
  groups : List (Nat × Nat × Nat)

/-- What becomes of a place that an expression ended at. -/
abbrev RegexContinuation := RegexPlace → Option RegexPlace

/-- An expression made ready for a text: it hands the places it can end at to
a continuation, until one succeeds. -/
abbrev RegexMatcher := RegexPlace → RegexContinuation → Option RegexPlace

namespace CharacterClass

/-- Whether a code is in a class, among all scripts or in ASCII alone. -/
def contains (ascii : Bool) (cls : CharacterClass) (code : Nat) : Bool :=
  let c := Char.ofNat code
  match cls, ascii with
  | digit, false => Text.isDecimal c
  | space, false => Text.isBlank c
  | word, false => Text.isWordCharacter c
  | digit, true => 48 ≤ code && code ≤ 57
  | space, true => code == 32 || (9 ≤ code && code ≤ 13)
  | word, true => Text.isAsciiLetter code || (48 ≤ code && code ≤ 57) || code == 95

end CharacterClass

namespace SetItem

/-- Whether an item holds a code as it is. -/
def contains (ascii : Bool) : SetItem → Nat → Bool
  | code c, x => x == c
  | range low high, x => low ≤ x && x ≤ high
  | ofClass cls negated, x => cls.contains ascii x != negated

/-- Whether an item holds a code that has case forms. -/
def hasCase (ascii : Bool) : SetItem → Bool
  | code c => if ascii then Text.isAsciiLetter c else c ≥ 0x10000 || Text.hasCaseVariant c
  | range low high =>
    if ascii then (low ≤ 90 && 65 ≤ high) || (low ≤ 122 && 97 ≤ high)
    else
      high ≥ 0x10000 || Text.caseVariantSpans.any fun (first, last, step) =>
        let start := max first low
        let aligned := first + (start - first + step - 1) / step * step
        aligned ≤ min last high
  | ofClass _ _ => false

/-- Whether a lower-case code stands for a letter that some code of an item
folds to. Beyond the basic plane a single code is compared as it is, and a
range also by the upper-case form. -/
def containsFolded : SetItem → Nat → Bool
  | code c, x =>
    let lower := Text.simpleLower c
    if lower ≥ 0x10000 then x == c else x == lower || (Text.companions lower).contains x
  | range low high, x =>
    let targets := x :: Text.companions x
    (targets.any fun t => (Text.simpleLowerSources t).any fun source =>
        low ≤ source && source ≤ high && source < 0x10000)
      || (high ≥ 0x10000
          && ((low ≤ x && x ≤ high)
            || (low ≤ Text.shifted Text.upperShifts x && Text.shifted Text.upperShifts x ≤ high)))
  | ofClass cls negated, x => cls.contains false x != negated

/-- Whether a code in lower case stands for a letter of an item, within
ASCII. -/
def containsFoldedAscii : SetItem → Nat → Bool
  | code c, x => x == Text.asciiLower c
  | range low high, x =>
    (low ≤ x && x ≤ high && Text.asciiLower x == x)
      || (97 ≤ x && x ≤ 122 && low ≤ x - 32 && x - 32 ≤ high)
  | ofClass cls negated, x => cls.contains true x != negated

end SetItem

namespace Regex

/-- Whether a code matches a literal. -/
def matchesLiteral (flags : RegexFlags) (literal code : Nat) : Bool :=
  if !flags.ignoreCase then code == literal
  else if flags.ascii then
    if Text.isAsciiLetter literal then Text.asciiLower code == Text.asciiLower literal
    else code == literal
  else if Text.hasCaseVariant literal then
    let lower := Text.simpleLower literal
    Text.simpleLower code == lower || (Text.companions lower).contains (Text.simpleLower code)
  else code == literal

/-- Whether a code is in a set. -/
def inSet (flags : RegexFlags) (items : List SetItem) (code : Nat) : Bool :=
  if flags.ignoreCase && items.any (·.hasCase flags.ascii) then
    if flags.ascii then items.any (·.containsFoldedAscii (Text.asciiLower code))
    else items.any (·.containsFolded (Text.simpleLower code))
  else items.any (·.contains flags.ascii code)

/-- The form of a code by which a repeated text is compared. -/
def folded (flags : RegexFlags) (code : Nat) : Nat :=
  if !flags.ignoreCase then code
  else if flags.ascii then Text.asciiLower code
  else Text.simpleLower code

/-- Whether the character before a place belongs to a word. -/
def wordBefore (text : Array Char) (ascii : Bool) (position : Nat) : Bool :=
  if position = 0 then false
  else
    match text[position - 1]? with
    | some c => CharacterClass.word.contains ascii c.toNat
    | none => false

/-- Whether the character at a place belongs to a word. -/
def wordAt (text : Array Char) (ascii : Bool) (position : Nat) : Bool :=
  match text[position]? with
  | some c => CharacterClass.word.contains ascii c.toNat
  | none => false

/-- Whether an anchor holds at a place. An empty text has neither boundaries
nor places between them. -/
def holdsAt (text : Array Char) (flags : RegexFlags) (position : Nat) : Anchor → Bool
  | .textStart => position == 0
  | .textEnd => position == text.size
  | .lineStart =>
    position == 0 || (flags.multiline && text[position - 1]? == some '\n')
  | .lineEnd =>
    position == text.size
      || (text[position]? == some '\n' && (flags.multiline || position + 1 == text.size))
  | .boundary =>
    !text.isEmpty && wordBefore text flags.ascii position != wordAt text flags.ascii position
  | .noBoundary =>
    !text.isEmpty && wordBefore text flags.ascii position == wordAt text flags.ascii position

/-- Reads one character of which a test holds. -/
def runOne (text : Array Char) (test : Nat → Bool) : RegexMatcher := fun place k =>
  match text[place.position]? with
  | some c => if test c.toNat then k { place with position := place.position + 1 } else none
  | none => none

/-- Whether the text from one place on repeats `length` characters from
another place on. -/
def repeats (text : Array Char) (flags : RegexFlags) (earlier later : Nat) : Nat → Bool
  | 0 => true
  | length + 1 =>
    match text[earlier]?, text[later]? with
    | some a, some b =>
      folded flags a.toNat == folded flags b.toNat
        && repeats text flags (earlier + 1) (later + 1) length
    | _, _ => false

/-- A matcher run a fixed number of times. -/
def runTimes (body : RegexMatcher) : Nat → RegexMatcher
  | 0 => fun place k => k place
  | n + 1 => fun place k => body place fun next => runTimes body n next k

/-- The number of rounds left after one. -/
def roundsAfter : Option Nat → Option Nat
  | none => none
  | some n => some (n - 1)

/-- Any number of rounds, as many as possible first. -/
def runGreedy (size : Nat) (body : RegexMatcher) (rounds : Option Nat) (place : RegexPlace)
    (k : RegexContinuation) : Option RegexPlace :=
  if rounds = some 0 then k place
  else
    (body place fun next =>
      if _h : place.position < next.position ∧ next.position ≤ size then
        runGreedy size body (roundsAfter rounds) next k
      else k next).or (k place)
termination_by size - place.position

/-- Any number of rounds, as few as possible first. -/
def runLazy (size : Nat) (body : RegexMatcher) (rounds : Option Nat) (place : RegexPlace)
    (k : RegexContinuation) : Option RegexPlace :=
  (k place).or
    (if rounds = some 0 then none
    else
      body place fun next =>
        if _h : place.position < next.position ∧ next.position ≤ size then
          runLazy size body (roundsAfter rounds) next k
        else k next)
termination_by size - place.position

/-- The first place at which a matcher ends. -/
def firstEnd (body : RegexMatcher) (place : RegexPlace) : Option RegexPlace := body place some

/-- As many rounds as possible, each of them final. -/
def runPossessive (size : Nat) (body : RegexMatcher) (rounds : Option Nat)
    (place : RegexPlace) : RegexPlace :=
  if rounds = some 0 then place
  else
    match firstEnd body place with
    | none => place
    | some next =>
      if _h : place.position < next.position ∧ next.position ≤ size then
        runPossessive size body (roundsAfter rounds) next
      else next
termination_by size - place.position

/-- A matcher run a fixed number of times, each round being final. -/
def firstEnds (body : RegexMatcher) : Nat → RegexPlace → Option RegexPlace
  | 0, place => some place
  | n + 1, place => (firstEnd body place).bind (firstEnds body n)

/-- The rounds left once the necessary ones are done. -/
def roundsBeyond (least : Nat) : Option Nat → Option Nat
  | none => none
  | some most => some (most - least)

/-- An expression made ready for a text, given the widths of its groups. -/
def run (widths : List (Nat × Nat × Nat)) (text : Array Char) :
    RegexFlags → Regex → RegexMatcher
  | _, empty => fun place k => k place
  | flags, literal code => runOne text (matchesLiteral flags code)
  | flags, otherThan code => runOne text fun c => !matchesLiteral flags code c
  | flags, characterSet negated items => runOne text fun c => inSet flags items c != negated
  | flags, any => runOne text fun c => flags.dotAll || c != 10
  | flags, anchor a => fun place k =>
    if holdsAt text flags place.position a then k place else none
  | flags, seq a b =>
    let first := run widths text flags a
    let second := run widths text flags b
    fun place k => first place fun next => second next k
  | flags, alt a b =>
    let first := run widths text flags a
    let second := run widths text flags b
    fun place k => (first place k).or (second place k)
  | flags, repeated mode least most body =>
    let inner := run widths text flags body
    let rest := roundsBeyond least most
    match mode with
    | .greedy => fun place k =>
      runTimes inner least place fun next => runGreedy text.size inner rest next k
    | .lazy => fun place k =>
      runTimes inner least place fun next => runLazy text.size inner rest next k
    | .possessive => fun place k =>
      (firstEnds inner least place).bind fun next => k (runPossessive text.size inner rest next)
  | flags, group number body =>
    let inner := run widths text flags body
    fun place k => inner place fun next =>
      k { next with groups := (number, place.position, next.position) :: next.groups }
  | flags, withFlags change body => run widths text (change.apply flags) body
  | flags, atomic body =>
    let inner := run widths text flags body
    fun place k => (firstEnd inner place).bind k
  | flags, backreference number => fun place k =>
    match place.groups.lookup number with
    | none => none
    | some (start, stop) =>
      if repeats text flags start place.position (stop - start) then
        k { place with position := place.position + (stop - start) }
      else none
  | flags, lookAhead negated body =>
    let inner := run widths text flags body
    fun place k =>
      match firstEnd inner place with
      | some next => if negated then none else k { next with position := place.position }
      | none => if negated then k place else none
  | flags, lookBehind negated body =>
    let inner := run widths text flags body
    let width := (body.width fun number => (widths.lookup number).getD (0, 0)).1
    fun place k =>
      let found :=
        if width ≤ place.position then
          firstEnd inner { place with position := place.position - width }
        else none
      match found with
      | some next => if negated then none else k { next with position := place.position }
      | none => if negated then k place else none
  | flags, conditional number yes no =>
    let ifMatched := run widths text flags yes
    let otherwise := run widths text flags no
    fun place k =>
      match place.groups.lookup number with
      | some _ => ifMatched place k
      | none => otherwise place k

/-- Whether an expression matches somewhere in a text. -/
def matchesIn (flags : RegexFlags) (r : Regex) (text : String) : Bool :=
  let characters := text.toList.toArray
  let matcher := run (groupWidths [] r) characters flags r
  (List.range (characters.size + 1)).any fun start =>
    (firstEnd matcher ⟨start, []⟩).isSome

end Regex

end ContentGraph
