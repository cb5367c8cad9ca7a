import ContentGraph.Filter.Condition
import ContentGraph.Pattern.Glob
import ContentGraph.Pattern.Regex.Matching
import ContentGraph.Pattern.Regex.Reader
import ContentGraph.Value.Order

/-!
# Testing one value

Whether a value passes the test of an operator. A list passes if one of its
items does, at any depth; the two negative operators look at the list as a
whole instead, and ask whether none of its items is the operand or one of the
choices. The order operators are false between values that have no order, and
come to no answer between a decimal and what is not a number.

An operand in the place of a pattern is written out first. So is an integer of any
length (`Value.text`), whatever limit there may be where the program runs.
-/

namespace ContentGraph.Filter

/-- The values that an operand lists: its items, or the operand alone. -/
def choices : Value → List Value
  | .list items => items
  | .tuple items => items
  | operand => [operand]

/-- A pattern between slashes with letters for flags after the second, taken
apart; every other pattern stands for itself. The second slash is the last
one, and letters that name no flag are skipped. -/
def splitPattern (pattern : List Char) : List Char × List Char :=
  match pattern with
  | '/' :: rest =>
    match rest.reverse.span (· ≠ '/') with
    | (letters, _ :: body) => (body.reverse, letters.reverse)
    | (_, []) => (pattern, [])
  | _ => (pattern, [])

/-- The flags that letters name. -/
def flagsOf (letters : List Char) : RegexFlags :=
  { RegexFlags.none with
    ignoreCase := letters.contains 'i'
    multiline := letters.contains 'm'
    dotAll := letters.contains 's' }

/-- The regular expression of a pattern. -/
def regexOf (pattern : String) : Except FilterError (Regex × RegexFlags) :=
  let (body, letters) := splitPattern pattern.toList
  match Regex.ofCharacters body (flagsOf letters) with
  | .ok r => .ok r
  | .error .malformed => .error (.badPattern pattern)
  | .error .tooManyRepetitions => .error .tooManyRepetitions
  | .error .incompatibleFlags => .error .incompatibleFlags

/-- Whether a text holds a match of a pattern. -/
def matchesRegex (pattern text : String) : Except FilterError Bool :=
  (regexOf pattern).map fun (r, flags) => r.matchesIn flags text

/-- Whether two values are in an order, neither of them being null. -/
def compares (less : Value → Value → Option Bool) (a b : Value) : Except FilterError Bool :=
  if a = .null ∨ b = .null then .ok false
  else if a.isIncomparable b then .error .incomparable
  else .ok ((less a b).getD false)

/-- Whether a value that is not descended into passes a test. -/
def testOne (op : Operator) (operand : Value) (value : Value) : Except FilterError Bool :=
  match op with
  | .eq => .ok (value.eq operand)
  | .ne =>
    match value.items? with
    | some items => .ok !(operand.memberOf items)
    | none => .ok !(value.eq operand)
  | .oneOf => .ok (value.memberOf (choices operand))
  | .noneOf =>
    match value.items? with
    | some items => .ok !(items.any fun item => item.memberOf (choices operand))
    | none => .ok !(value.memberOf (choices operand))
  | .regex =>
    match value with
    | .string text => matchesRegex operand.text text
    | _ => .ok false
  | .glob =>
    match value with
    | .string text => .ok (Glob.matchesText operand.text text)
    | _ => .ok false
  | .gt => compares (fun a b => b.lt? a) value operand
  | .gte => compares (fun a b => b.le? a) value operand
  | .lt => compares (fun a b => a.lt? b) value operand
  | .lte => compares (fun a b => a.le? b) value operand

/-- Whether an operator looks at the items of a list one by one. -/
def descends : Operator → Bool
  | .ne => false
  | .noneOf => false
  | _ => true

mutual

/-- Whether a value passes a test. -/
def test (op : Operator) (operand : Value) : Value → Except FilterError Bool
  | .list items =>
    if descends op then testAny op operand items else testOne op operand (.list items)
  | .tuple items =>
    if descends op then testAny op operand items else testOne op operand (.tuple items)
  | value => testOne op operand value

/-- Whether one of some items passes a test. Those after the first that does
are not looked at. -/
def testAny (op : Operator) (operand : Value) : List Value → Except FilterError Bool
  | [] => .ok false
  | item :: rest => do
    if ← test op operand item then return true else testAny op operand rest

end

end ContentGraph.Filter
