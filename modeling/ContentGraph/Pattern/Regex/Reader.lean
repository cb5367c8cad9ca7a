import ContentGraph.Number.Numeral
import ContentGraph.Pattern.Regex

/-!
# Reading regular expressions

The text of an expression is first cut into tokens, so that an escaped
character is one token, and then read by recursive descent. The reader keeps
the groups met so far, because a reference is only allowed to a group that is
closed already, and the flags set for the whole expression, which are only
allowed at its start.

Every call reads a token or is one of the two calls that a nested group
costs, so the number of tokens bounds the depth of the recursion.
-/

namespace ContentGraph

/-- Why a text is no regular expression. -/
inductive RegexError where
  /-- The text does not follow the notation. -/
  | malformed
  /-- A number of repetitions is too large. -/
  | tooManyRepetitions
  /-- The classes of ASCII and those of all scripts are both asked for. -/
  | incompatibleFlags
deriving DecidableEq, Repr

namespace Regex.Reader

/-- A token: a character, or a character behind a backslash. -/
inductive Token where
  | plain (c : Char)
  | escaped (c : Char)
deriving DecidableEq, Repr

/-- The tokens of a text. A backslash at the end escapes nothing. -/
def tokens : List Char → Option (List Token)
  | [] => some []
  | '\x5c' :: c :: rest => (tokens rest).map (.escaped c :: ·)
  | c :: rest => if c = '\x5c' then none else (tokens rest).map (.plain c :: ·)

/-- What the reader keeps while it reads. -/
structure State where
  /-- The tokens that are left. -/
  input : List Token
  /-- The flags of the whole expression. -/
  flags : RegexFlags
  /-- Whether the classes of all scripts were asked for. -/
  unicode : Bool
  /-- Whether repetitions are forbidden. -/
  plainOnly : Bool
  /-- How many groups were opened, the whole expression included. -/
  groups : Nat
  /-- The groups that are closed. -/
  closed : List Nat
  /-- The numbers of the named groups. -/
  names : List (List Char × Nat)
  /-- Inside a condition on what comes before, the groups opened until then. -/
  lookBehindGroups : Option Nat
  /-- The numbers that conditions refer to, whose groups may follow later. -/
  conditions : List Nat

/-- A step of the reader. -/
abbrev Read (α : Type) := StateT State (Except RegexError) α

/-- The text is malformed. -/
def fail {α : Type} : Read α := throw .malformed

/-- The next token, which stays. -/
def peek : Read (Option Token) := do return (← get).input.head?

/-- The next token, which is taken. -/
def next : Read (Option Token) := do
  let s ← get
  match s.input with
  | [] => return none
  | t :: rest =>
    set { s with input := rest }
    return some t

/-- Takes the next token if it is the given character. -/
def accept (c : Char) : Read Bool := do
  let s ← get
  match s.input with
  | .plain d :: rest =>
    if d = c then
      set { s with input := rest }
      return true
    else return false
  | _ => return false

/-- Takes the given character, which must come next. -/
def expect (c : Char) : Read Unit := do
  if ← accept c then return () else fail

/-- The plain characters at the front, at most `count` of them, for which a
test holds. -/
def spanPlain (test : Char → Bool) : Nat → List Token → List Char × List Token
  | count + 1, .plain c :: rest =>
    if test c then
      let (taken, left) := spanPlain test count rest
      (c :: taken, left)
    else ([], .plain c :: rest)
  | _, input => ([], input)

/-- Takes at most `count` characters for which a test holds. -/
def takeWhile (count : Nat) (test : Char → Bool) : Read (List Char) := do
  let s ← get
  let (taken, left) := spanPlain test count s.input
  set { s with input := left }
  return taken

/-- Whether a character is an octal digit. -/
def isOctal (c : Char) : Bool := '0' ≤ c && c ≤ '7'

/-- Whether a character is a hexadecimal digit. -/
def isHexadecimal (c : Char) : Bool := (Numeral.digitValue? 16 c).isSome

/-- The number of some digits in a base. -/
def numberIn (base : Nat) (digits : List Char) : Nat :=
  (Numeral.digitsValue? base 0 digits).getD 0

/-- A code written with exactly `count` hexadecimal digits. -/
def hexCode (count : Nat) : Read Nat := do
  let digits ← takeWhile count isHexadecimal
  if digits.length ≠ count then fail
  else
    let code := numberIn 16 digits
    if code < 0x110000 then return code else fail

/-- The control character of an escape that means the same everywhere. -/
def controlEscape? (c : Char) : Option Nat :=
  match c with
  | 'a' => some 7
  | 'f' => some 12
  | 'n' => some 10
  | 'r' => some 13
  | 't' => some 9
  | 'v' => some 11
  | '\x5c' => some 92
  | _ => none

/-- The class of an escape, and whether it is negated. -/
def classEscape? (c : Char) : Option (CharacterClass × Bool) :=
  match c with
  | 'd' => some (.digit, false)
  | 'D' => some (.digit, true)
  | 's' => some (.space, false)
  | 'S' => some (.space, true)
  | 'w' => some (.word, false)
  | 'W' => some (.word, true)
  | _ => none

/-- The anchor of an escape. -/
def anchorEscape? (c : Char) : Option Anchor :=
  match c with
  | 'A' => some .textStart
  | 'Z' => some .textEnd
  | 'b' => some .boundary
  | 'B' => some .noBoundary
  | _ => none

/-- The code of an escape by number, if the letter asks for one. -/
def codeEscape? (c : Char) : Option (Read Nat) :=
  match c with
  | 'x' => some (hexCode 2)
  | 'u' => some (hexCode 4)
  | 'U' => some (hexCode 8)
  | _ => none

/-- The code of any other escape: a letter must have a meaning, every other
character stands for itself. -/
def plainEscape (c : Char) : Read Nat :=
  if Text.isAsciiLetter c.toNat then fail else return c.toNat

/-- The item that an escape stands for inside a set. -/
def setEscape (c : Char) : Read SetItem := do
  if c = 'b' then return .code 8
  else
    match controlEscape? c, classEscape? c, codeEscape? c with
    | some code, _, _ => return .code code
    | _, some (cls, negated), _ => return .ofClass cls negated
    | _, _, some code => return .code (← code)
    | none, none, none =>
      if isOctal c then
        let code := numberIn 8 (c :: (← takeWhile 2 isOctal))
        if code > 255 then fail else return .code code
      else if c.isDigit then fail
      else return .code (← plainEscape c)

/-- Whether a group may be referred to: it must be closed, and inside a
condition on what comes before it must have been opened before it. -/
def checkGroup (number : Nat) : Read Unit := do
  let s ← get
  match s.lookBehindGroups with
  | none => return ()
  | some limit =>
    if s.closed.contains number && number < limit then return () else fail

/-- A reference to a group by number. -/
def reference (number : Nat) : Read Regex := do
  let s ← get
  if number < s.groups && s.closed.contains number then
    checkGroup number
    return .backreference number
  else fail

/-- What an escape that begins with a digit other than zero stands for: three
octal digits are a code, everything else is a reference to a group. -/
def digitEscape (c : Char) : Read Regex := do
  match ← peek with
  | some (.plain d) =>
    if d.isDigit then
      let _ ← next
      let third ← peek
      match third with
      | some (.plain e) =>
        if isOctal c && isOctal d && isOctal e then
          let _ ← next
          let code := numberIn 8 [c, d, e]
          if code > 255 then fail else return .literal code
        else reference (numberIn 10 [c, d])
      | _ => reference (numberIn 10 [c, d])
    else reference (numberIn 10 [c])
  | _ => reference (numberIn 10 [c])

/-- What an escape outside of a set stands for. -/
def escape (c : Char) : Read Regex := do
  match classEscape? c, anchorEscape? c with
  | some (cls, negated), _ => return .characterSet false [.ofClass cls negated]
  | _, some a => return .anchor a
  | none, none =>
    match controlEscape? c, codeEscape? c with
    | some code, _ => return .literal code
    | _, some code => return .literal (← code)
    | none, none =>
      if c = '0' then return .literal (numberIn 8 (c :: (← takeWhile 2 isOctal)))
      else if c.isDigit then digitEscape c
      else return .literal (← plainEscape c)

/-- One end of an item of a set. -/
def setEnd (t : Token) : Read SetItem :=
  match t with
  | .plain c => return .code c.toNat
  | .escaped c => setEscape c

/-- The items of a set up to its closing bracket, which as the first item
stands for itself. A hyphen between two codes makes a range. -/
def setItems : Nat → List SetItem → Read (List SetItem)
  | 0, _ => fail
  | fuel + 1, items => do
    match ← next with
    | none => fail
    | some t =>
      if t = .plain ']' ∧ items ≠ [] then return items
      else
        let first ← setEnd t
        if ← accept '-' then
          match ← next with
          | none => fail
          | some t =>
            if t = .plain ']' then return items ++ [first, .code 45]
            else
              match first, ← setEnd t with
              | .code low, .code high =>
                if high < low then fail else setItems fuel (items ++ [.range low high])
              | _, _ => fail
        else setItems fuel (items ++ [first])

/-- A set after its opening bracket. One code alone is a literal. -/
def characterSet : Read Regex := do
  let negated ← accept '^'
  let s ← get
  let items ← setItems (s.input.length + 1) []
  match items.eraseDups with
  | [.code c] => return if negated then .otherThan c else .literal c
  | items => return .characterSet negated items

/-- The bounds of a repetition after its opening brace, if they are
well-formed; otherwise nothing is taken and the brace stands for itself. -/
def bounds : Read (Option (Nat × Option Nat)) := do
  let before ← get
  let low ← takeWhile before.input.length Char.isDigit
  let high ←
    if ← accept ',' then takeWhile before.input.length Char.isDigit else pure low
  if ← accept '}' then
    let least := if low.isEmpty then 0 else numberIn 10 low
    if least ≥ repeatLimit then throw .tooManyRepetitions
    if high.isEmpty then return some (least, none)
    else
      let most := numberIn 10 high
      if most ≥ repeatLimit then throw .tooManyRepetitions
      if most < least then fail else return some (least, some most)
  else
    MonadStateOf.set before
    return none

/-- The characters up to a mark, which is taken too. There must be at least
one. -/
def untilMark (mark : Char) : Nat → List Char → Read (List Char)
  | 0, _ => fail
  | fuel + 1, read => do
    match ← next with
    | none => fail
    | some (.plain c) =>
      if c = mark then if read.isEmpty then fail else return read.reverse
      else untilMark mark fuel (c :: read)
    | some (.escaped c) => untilMark mark fuel (c :: '\x5c' :: read)

/-- The characters up to a mark. -/
def textUntil (mark : Char) : Read (List Char) := do
  let s ← get
  untilMark mark (s.input.length + 1) []

/-- The name of a group up to a mark. -/
def groupName (mark : Char) : Read (List Char) := do
  let name ← textUntil mark
  if Text.isIdentifier name then return name else fail

/-- Skips a comment up to its closing parenthesis. -/
def skipComment : Nat → Read Unit
  | 0 => fail
  | fuel + 1 => do
    match ← next with
    | none => fail
    | some t => if t = .plain ')' then return () else skipComment fuel

/-- Skips the rest of a line. -/
def skipLine : Nat → Read Unit
  | 0 => return ()
  | fuel + 1 => do
    match ← next with
    | none => return ()
    | some t => if t = .plain '\n' then return () else skipLine fuel

/-- Flags as they are collected: those of the matching, whether the classes
of all scripts are asked for, and whether repetitions are forbidden. -/
structure FlagLetters where
  /-- The flags of the matching. -/
  flags : RegexFlags
  /-- Whether the classes of all scripts are asked for. -/
  unicode : Bool
  /-- Whether repetitions are forbidden. -/
  plainOnly : Bool

/-- A flag added by its letter. -/
def FlagLetters.add (f : FlagLetters) (c : Char) : Option FlagLetters :=
  match c with
  | 'i' => some { f with flags := { f.flags with ignoreCase := true } }
  | 'm' => some { f with flags := { f.flags with multiline := true } }
  | 's' => some { f with flags := { f.flags with dotAll := true } }
  | 'x' => some { f with flags := { f.flags with verbose := true } }
  | 'a' => if f.unicode then none else some { f with flags := { f.flags with ascii := true } }
  | 'u' => if f.flags.ascii then none else some { f with unicode := true }
  | 't' => some { f with plainOnly := true }
  | _ => none

/-- The flags turned on, from a first letter up to the character that ends
them. -/
def lettersOn : Nat → FlagLetters → Char → Read (FlagLetters × Char)
  | 0, _, _ => fail
  | fuel + 1, f, c => do
    match f.add c with
    | none => fail
    | some f =>
      match ← next with
      | some (.plain d) =>
        if d = ')' ∨ d = '-' ∨ d = ':' then return (f, d) else lettersOn fuel f d
      | _ => fail

/-- The flags turned off, up to the colon. The classes of characters cannot
be turned off. -/
def lettersOff : Nat → FlagLetters → Char → Read FlagLetters
  | 0, _, _ => fail
  | fuel + 1, f, c => do
    if c = 'a' ∨ c = 'u' then fail
    match f.add c with
    | none => fail
    | some f =>
      match ← next with
      | some (.plain d) => if d = ':' then return f else lettersOff fuel f d
      | _ => fail

/-- Whether two sets of flags have one in common. -/
def overlap (a b : RegexFlags) : Bool :=
  (a.ignoreCase && b.ignoreCase) || (a.multiline && b.multiline) || (a.dotAll && b.dotAll)
    || (a.verbose && b.verbose)

/-- The flags in a group from their first letter: those of the whole
expression, which the reader keeps, or a change for the group. -/
def flags (c : Char) : Read (Option FlagChange) := do
  let s ← get
  let noLetters : FlagLetters := ⟨.none, false, false⟩
  let (on, stop) ←
    if c = '-' then pure (noLetters, '-') else lettersOn (s.input.length + 1) noLetters c
  if stop = ')' then
    modify fun s =>
      { s with
        flags := FlagChange.apply ⟨on.flags, .none, false⟩ s.flags
        unicode := s.unicode || on.unicode
        plainOnly := s.plainOnly || on.plainOnly }
    return none
  else if on.plainOnly then fail
  else if stop = '-' then
    match ← next with
    | some (.plain d) =>
      let off ← lettersOff (s.input.length + 1) noLetters d
      if off.plainOnly || overlap on.flags off.flags then fail
      else return some ⟨on.flags, off.flags, on.unicode⟩
    | _ => fail
  else return some ⟨on.flags, .none, on.unicode⟩

/-- Opens the next group. -/
def openGroup (name : Option (List Char)) : Read Nat := do
  let s ← get
  let number := s.groups
  match name with
  | none => MonadStateOf.set { s with groups := number + 1 }
  | some name =>
    if (s.names.lookup name).isSome then fail
    else
      MonadStateOf.set { s with groups := number + 1, names := (name, number) :: s.names }
  return number

/-- Closes a group. -/
def closeGroup (number : Nat) : Read Unit :=
  modify fun s => { s with closed := number :: s.closed }

/-- The group that a condition refers to, by name or number. -/
def conditionGroup : Read Nat := do
  let text ← textUntil ')'
  let s ← get
  let number ←
    if Text.isIdentifier text then
      match s.names.lookup text with
      | some n => pure n
      | none => fail
    else
      match Numeral.integer? text with
      | some n =>
        if 0 < n ∧ n < 1073741823 then
          modify fun s => { s with conditions := n.toNat :: s.conditions }
          pure n.toNat
        else fail
      | none => fail
  checkGroup number
  return number

/-- An item that was read, and what may follow it: an anchor cannot be
repeated, and a repetition not again. -/
structure Item where
  /-- The expression. -/
  regex : Regex
  /-- Whether it may be repeated. -/
  repeatable : Bool

/-- The flags of the notation that blanks are skipped under. -/
def isVerboseBlank (c : Char) : Bool :=
  c = ' ' || c = '\t' || c = '\n' || c = '\r' || c = '\x0b' || c = '\x0c'

/-- The last item repeated. -/
def repeatLast (items : List Item) (least : Nat) (most : Option Nat) : Read (List Item) := do
  match items with
  | [] => fail
  | last :: before =>
    if last.repeatable then
      let isLazy ← accept '?'
      let isPossessive ← if isLazy then pure false else accept '+'
      let mode : RepeatMode :=
        if isLazy then .lazy else if isPossessive then .possessive else .greedy
      return ⟨.repeated mode least most last.regex, false⟩ :: before
    else fail

/-- The expression of items read, the last one first. -/
def joined (items : List Item) : Regex := .sequence (items.reverse.map (·.regex))

/-- What stands behind an opening parenthesis with a question mark, when it
is not read as a group of its own kind. -/
inductive Opening where
  /-- A group, numbered or not, atomic or not, with a change of flags. -/
  | group (number : Option Nat) (isAtomic : Bool) (change : Option FlagChange)
  /-- A finished expression, or nothing. -/
  | done (regex : Option Regex)
  /-- Flags of the whole expression. -/
  | global
  /-- A condition on what follows or comes before. -/
  | look (ahead negated : Bool)
  /-- A condition on a group. -/
  | condition

/-- Reads what tells the kind of a group after its opening parenthesis. -/
def opening : Read Opening := do
  if ← accept '?' then
    match ← next with
    | some (.plain c) =>
      if c = 'P' then
        if ← accept '<' then
          return .group (some (← openGroup (some (← groupName '>')))) false none
        else if ← accept '=' then
          let name ← groupName ')'
          match (← get).names.lookup name with
          | some n => return .done (some (← reference n))
          | none => fail
        else fail
      else if c = ':' then return .group none false none
      else if c = '#' then
        skipComment ((← get).input.length + 1)
        return .done none
      else if c = '=' then return .look true false
      else if c = '!' then return .look true true
      else if c = '<' then
        match ← next with
        | some (.plain d) =>
          if d = '=' then return .look false false
          else if d = '!' then return .look false true
          else fail
        | _ => fail
      else if c = '(' then return .condition
      else if c = '>' then return .group none true none
      else if c = '-' ∨ (FlagLetters.add ⟨.none, false, false⟩ c).isSome then
        match ← flags c with
        | none => return .global
        | some change => return .group none false (some change)
      else fail
    | _ => fail
  else return .group (some (← openGroup none)) false none

/-- The verbose flag inside a group. -/
def innerVerbose (verbose : Bool) (change : Option FlagChange) : Bool :=
  match change with
  | none => verbose
  | some c => (verbose || c.on.verbose) && !c.off.verbose

/-- An expression wrapped as its group asks for. -/
def wrapped (number : Option Nat) (isAtomic : Bool) (change : Option FlagChange) (body : Regex) :
    Regex :=
  let body := match change with
    | none => body
    | some c => .withFlags c body
  let body := if isAtomic then .atomic body else body
  match number with
  | none => body
  | some n => .group n body

mutual

/-- Alternatives, up to a closing parenthesis or the end. At the outermost
level the verbose flag may change with the flags of the whole expression. -/
def alternatives : Nat → Bool → Bool → Bool → Read Regex
  | 0, _, _, _ => fail
  | fuel + 1, verbose, outermost, first => do
    let branch ← branch fuel verbose (outermost && first) []
    if ← accept '|' then
      let s ← get
      let verbose := if outermost then s.flags.verbose else verbose
      return .alt branch (← alternatives fuel verbose outermost false)
    else return branch

/-- The items of one alternative, up to a bar, a closing parenthesis or the
end. The items read so far come last first. -/
def branch : Nat → Bool → Bool → List Item → Read Regex
  | 0, _, _, _ => fail
  | fuel + 1, verbose, first, items => do
    match ← peek with
    | none => return joined items
    | some (.escaped c) =>
      let _ ← next
      let r ← escape c
      let repeatable := match r with
        | .anchor _ => false
        | _ => true
      branch fuel verbose first (⟨r, repeatable⟩ :: items)
    | some (.plain c) =>
      if c = '|' ∨ c = ')' then return joined items
      else
        let _ ← next
        if verbose && isVerboseBlank c then branch fuel verbose first items
        else if verbose && c = '#' then
          skipLine (← get).input.length
          branch fuel verbose first items
        else if c = '[' then
          branch fuel verbose first (⟨← characterSet, true⟩ :: items)
        else if c = '.' then branch fuel verbose first (⟨.any, true⟩ :: items)
        else if c = '^' then branch fuel verbose first (⟨.anchor .lineStart, false⟩ :: items)
        else if c = '$' then branch fuel verbose first (⟨.anchor .lineEnd, false⟩ :: items)
        else if c = '*' then branch fuel verbose first (← repeatLast items 0 none)
        else if c = '+' then branch fuel verbose first (← repeatLast items 1 none)
        else if c = '?' then branch fuel verbose first (← repeatLast items 0 (some 1))
        else if c = '\x7b' then
          if (← peek) = some (.plain '\x7d') then
            branch fuel verbose first (⟨.literal c.toNat, true⟩ :: items)
          else
            match ← bounds with
            | none => branch fuel verbose first (⟨.literal c.toNat, true⟩ :: items)
            | some (least, most) => branch fuel verbose first (← repeatLast items least most)
        else if c = '(' then
          match ← opening with
          | .done none => branch fuel verbose first items
          | .done (some r) => branch fuel verbose first (⟨r, true⟩ :: items)
          | .global =>
            if first && items.isEmpty then
              let s ← get
              branch fuel s.flags.verbose first items
            else fail
          | .look ahead negated =>
            let outer := (← get).lookBehindGroups
            if !ahead && outer.isNone then
              modify fun s => { s with lookBehindGroups := some s.groups }
            let body ← alternatives fuel verbose false true
            modify fun s => { s with lookBehindGroups := outer }
            expect ')'
            let r := if ahead then .lookAhead negated body else .lookBehind negated body
            branch fuel verbose first (⟨r, true⟩ :: items)
          | .condition =>
            let number ← conditionGroup
            let yes ← branch fuel verbose false []
            let no ←
              if ← accept '|' then
                let no ← branch fuel verbose false []
                if (← peek) = some (.plain '|') then fail else pure no
              else pure .empty
            expect ')'
            branch fuel verbose first (⟨.conditional number yes no, true⟩ :: items)
          | .group number isAtomic change =>
            let body ← alternatives fuel (innerVerbose verbose change) false true
            expect ')'
            match number with
            | none => pure ()
            | some n => closeGroup n
            branch fuel verbose first (⟨wrapped number isAtomic change body, true⟩ :: items)
        else branch fuel verbose first (⟨.literal c.toNat, true⟩ :: items)

end

/-- What the reader keeps at the start. The whole expression counts as a
group that is never closed. -/
def initial (input : List Token) (flags : RegexFlags) : State :=
  { input, flags, unicode := false, plainOnly := false, groups := 1, closed := [], names := []
    lookBehindGroups := none, conditions := [] }

end Regex.Reader

namespace Regex

open Reader in
/-- The expression of a text, with the flags for the whole of it. -/
def ofCharacters (text : List Char) (flags : RegexFlags) :
    Except RegexError (Regex × RegexFlags) := do
  match tokens text with
  | none => throw .malformed
  | some input =>
    let (r, s) ← (alternatives (3 * input.length + 4) flags.verbose true true).run
      (initial input flags)
    if s.flags.ascii && s.unicode then throw .incompatibleFlags
    let widths := groupWidths [] r
    if !s.input.isEmpty || s.conditions.any (· ≥ s.groups) || (s.plainOnly && r.hasRepeat)
        || !r.hasFixedLookBehind (fun n => (widths.lookup n).getD (0, 0)) then
      throw .malformed
    else return (r, s.flags)

end Regex

end ContentGraph
