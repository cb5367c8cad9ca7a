import ContentGraph.Text.Folding

/-!
# Regular expressions

A regular expression is a tree. What a leaf matches depends on the flags that
are in force where it stands: the flags of the whole expression, changed by
the scoped flags around the leaf.
-/

namespace ContentGraph

/-- How an expression is to be read and matched. -/
structure RegexFlags where
  /-- Letters match without regard to case. -/
  ignoreCase : Bool
  /-- Lines have a start and an end of their own. -/
  multiline : Bool
  /-- The point matches a line break too. -/
  dotAll : Bool
  /-- Blanks and comments in the expression are skipped. -/
  verbose : Bool
  /-- Classes of characters and letter case are those of ASCII. -/
  ascii : Bool
deriving DecidableEq, Repr

namespace RegexFlags

/-- No flags. -/
def none : RegexFlags := ⟨false, false, false, false, false⟩

end RegexFlags

/-- A change of flags for a part of an expression. -/
structure FlagChange where
  /-- Flags that are turned on. -/
  on : RegexFlags
  /-- Flags that are turned off. -/
  off : RegexFlags
  /-- Whether the classes of all scripts are turned on. -/
  unicode : Bool
deriving DecidableEq, Repr

/-- The flags after a change. -/
def FlagChange.apply (change : FlagChange) (flags : RegexFlags) : RegexFlags :=
  { ignoreCase := (flags.ignoreCase || change.on.ignoreCase) && !change.off.ignoreCase
    multiline := (flags.multiline || change.on.multiline) && !change.off.multiline
    dotAll := (flags.dotAll || change.on.dotAll) && !change.off.dotAll
    verbose := (flags.verbose || change.on.verbose) && !change.off.verbose
    ascii := (flags.ascii && !change.unicode) || change.on.ascii }

/-- A class of characters that has a letter of its own. -/
inductive CharacterClass where
  | digit
  | space
  | word
deriving DecidableEq, Repr

/-- One item of a set of characters. -/
inductive SetItem where
  /-- A single code. -/
  | code (c : Nat)
  /-- All codes between two, both included. -/
  | range (low high : Nat)
  /-- A class of characters, or all that are not in it. -/
  | ofClass (c : CharacterClass) (negated : Bool)
deriving DecidableEq, Repr

/-- A condition on a place in the text. -/
inductive Anchor where
  /-- At the start of the text, or of a line. -/
  | lineStart
  /-- At the end of the text or before a final line break, or of a line. -/
  | lineEnd
  /-- At the start of the text. -/
  | textStart
  /-- At the end of the text. -/
  | textEnd
  /-- Between a character of a word and one that is none. -/
  | boundary
  /-- Not at a boundary. -/
  | noBoundary
deriving DecidableEq, Repr

/-- In which order repetitions are tried. -/
inductive RepeatMode where
  /-- As many as possible first. -/
  | greedy
  /-- As few as possible first. -/
  | lazy
  /-- As many as possible, never fewer. -/
  | possessive
deriving DecidableEq, Repr

/-- A regular expression. -/
inductive Regex where
  /-- Matches the empty text. -/
  | empty
  /-- Matches one code. -/
  | literal (code : Nat)
  /-- Matches every code but one. -/
  | otherThan (code : Nat)
  /-- Matches one character of a set, or one that is not in it. -/
  | characterSet (negated : Bool) (items : List SetItem)
  /-- Matches any character. -/
  | any
  /-- Matches nothing, at certain places. -/
  | anchor (a : Anchor)
  /-- One expression after the other. -/
  | seq (first second : Regex)
  /-- One expression or the other, tried in this order. -/
  | alt (first second : Regex)
  /-- An expression repeated; no upper bound means any number. -/
  | repeated (mode : RepeatMode) (least : Nat) (most : Option Nat) (body : Regex)
  /-- A numbered group, whose match is remembered. -/
  | group (number : Nat) (body : Regex)
  /-- An expression under changed flags. -/
  | withFlags (change : FlagChange) (body : Regex)
  /-- An expression of which only the first match counts. -/
  | atomic (body : Regex)
  /-- What the group of a number matched. -/
  | backreference (number : Nat)
  /-- A condition on what follows. -/
  | lookAhead (negated : Bool) (body : Regex)
  /-- A condition on what comes before. -/
  | lookBehind (negated : Bool) (body : Regex)
  /-- One expression if the group of a number has matched, else the other. -/
  | conditional (number : Nat) (yes no : Regex)
deriving Repr, Inhabited

namespace Regex

/-- Expressions one after the other. -/
def sequence : List Regex → Regex
  | [] => empty
  | [r] => r
  | r :: rest => seq r (sequence rest)

/-- The largest number of repetitions that can be asked for. -/
def repeatLimit : Nat := 4294967295

/-- The largest width that is told from wider ones. -/
def widthLimit : Nat := Nat.pow 2 64

/-- The least and the greatest width of a match, given those of the groups
that are referred to. -/
def width (groupWidth : Nat → Nat × Nat) : Regex → Nat × Nat
  | empty => (0, 0)
  | literal _ => (1, 1)
  | otherThan _ => (1, 1)
  | characterSet _ _ => (1, 1)
  | any => (1, 1)
  | anchor _ => (0, 0)
  | seq a b =>
    let (l, h) := a.width groupWidth
    let (l', h') := b.width groupWidth
    (min (l + l') widthLimit, min (h + h') widthLimit)
  | alt a b =>
    let (l, h) := a.width groupWidth
    let (l', h') := b.width groupWidth
    (min l l', max h h')
  | repeated _ least most body =>
    let (l, h) := body.width groupWidth
    let high := match most with
      | some n => h * n
      | none => if h = 0 then 0 else widthLimit
    (min (l * least) widthLimit, min high widthLimit)
  | group _ body => body.width groupWidth
  | withFlags _ body => body.width groupWidth
  | atomic body => body.width groupWidth
  | backreference n => groupWidth n
  | lookAhead _ _ => (0, 0)
  | lookBehind _ _ => (0, 0)
  | conditional _ yes no =>
    let (l, h) := yes.width groupWidth
    let (l', h') := no.width groupWidth
    (min l l', max h h')

/-- Whether every condition on what comes before has one width, so that it is
known where to start looking. -/
def hasFixedLookBehind (groupWidth : Nat → Nat × Nat) : Regex → Bool
  | seq a b => a.hasFixedLookBehind groupWidth && b.hasFixedLookBehind groupWidth
  | alt a b => a.hasFixedLookBehind groupWidth && b.hasFixedLookBehind groupWidth
  | repeated _ _ _ body => body.hasFixedLookBehind groupWidth
  | group _ body => body.hasFixedLookBehind groupWidth
  | withFlags _ body => body.hasFixedLookBehind groupWidth
  | atomic body => body.hasFixedLookBehind groupWidth
  | lookAhead _ body => body.hasFixedLookBehind groupWidth
  | lookBehind _ body =>
    let (l, h) := body.width groupWidth
    l == h && l < Nat.pow 2 32 && body.hasFixedLookBehind groupWidth
  | conditional _ yes no =>
    yes.hasFixedLookBehind groupWidth && no.hasFixedLookBehind groupWidth
  | _ => true

/-- Whether anything is repeated. -/
def hasRepeat : Regex → Bool
  | repeated _ _ _ _ => true
  | seq a b => a.hasRepeat || b.hasRepeat
  | alt a b => a.hasRepeat || b.hasRepeat
  | group _ body => body.hasRepeat
  | withFlags _ body => body.hasRepeat
  | atomic body => body.hasRepeat
  | lookAhead _ body => body.hasRepeat
  | lookBehind _ body => body.hasRepeat
  | conditional _ yes no => yes.hasRepeat || no.hasRepeat
  | _ => false

/-- The widths of the groups of an expression, by number: a group that is
inside another one is closed first, and a reference is to a closed group. -/
def groupWidths (known : List (Nat × Nat × Nat)) : Regex → List (Nat × Nat × Nat)
  | seq a b => groupWidths (groupWidths known a) b
  | alt a b => groupWidths (groupWidths known a) b
  | repeated _ _ _ body => groupWidths known body
  | group n body =>
    let inner := groupWidths known body
    (n, body.width fun m => (inner.lookup m).getD (0, 0)) :: inner
  | withFlags _ body => groupWidths known body
  | atomic body => groupWidths known body
  | lookAhead _ body => groupWidths known body
  | lookBehind _ body => groupWidths known body
  | conditional _ yes no => groupWidths (groupWidths known yes) no
  | _ => known

end Regex

end ContentGraph
