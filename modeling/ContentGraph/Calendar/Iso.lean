import ContentGraph.Calendar.Date
import ContentGraph.Number.Numeral

/-!
# Reading dates

Two readers. `Date.ofText?` and `Moment.ofText?` read back what the calendar
writes. `isDateText` is the wider notation that marks a text as a date: a
calendar date, optionally with a time after a `T` or a blank, seconds and a
fraction being optional, and then an optional `Z` or offset. The date and the
time must exist. A line end after a time is passed over; after a date alone it
is not.
-/

namespace ContentGraph

/-- The number that exactly `count` ASCII digits at the front stand for, and
the rest. -/
def takeDigits? (count : Nat) (s : List Char) : Option (Nat × List Char) :=
  let digits := s.take count
  if digits.length = count ∧ digits.all Char.isDigit then
    (Numeral.digitsValue? 10 0 digits).map (·, s.drop count)
  else none

/-- The rest after a given character. -/
def expect? (c : Char) : List Char → Option (List Char)
  | [] => none
  | d :: rest => if d = c then some rest else none

/-- A date at the front of a text, and the rest. -/
def takeDate? (s : List Char) : Option (Date × List Char) := do
  let (year, s) ← takeDigits? 4 s
  let s ← expect? '-' s
  let (month, s) ← takeDigits? 2 s
  let s ← expect? '-' s
  let (day, s) ← takeDigits? 2 s
  return (⟨year, month, day⟩, s)

/-- Hours and minutes with a colon between them, and the rest. -/
def takeClock? (s : List Char) : Option ((Nat × Nat) × List Char) := do
  let (hour, s) ← takeDigits? 2 s
  let s ← expect? ':' s
  let (minute, s) ← takeDigits? 2 s
  return ((hour, minute), s)

/-- A date as the calendar writes it. -/
def Date.ofText? (s : String) : Option Date :=
  match takeDate? s.toList with
  | some (d, []) => if d.exists? then some d else none
  | _ => none

/-- An offset as the calendar writes it, or none at all. -/
def takeOffset? : List Char → Option (Option Int)
  | [] => some none
  | sign :: rest =>
    if sign = '+' ∨ sign = '-' then do
      let ((hour, minute), rest) ← takeClock? rest
      let second ←
        match rest with
        | [] => some 0
        | ':' :: digits =>
          match takeDigits? 2 digits with
          | some (second, []) => some second
          | _ => none
        | _ => none
      let size : Int := (hour * 3600 + minute * 60 + second : Nat)
      return some (if sign = '-' then -size else size)
    else none

/-- A moment as the calendar writes it. -/
def Moment.ofText? (s : String) : Option Moment := do
  let (date, rest) ← takeDate? s.toList
  match rest with
  | [] => return ⟨date, 0, 0, 0, 0, none⟩
  | _ :: rest =>
    let ((hour, minute), rest) ← takeClock? rest
    let (second, rest) ←
      match rest with
      | ':' :: digits => takeDigits? 2 digits
      | _ => some (0, rest)
    let (microsecond, rest) ←
      match rest with
      | '.' :: digits => takeDigits? 6 digits
      | _ => some (0, rest)
    let offset ← takeOffset? rest
    return ⟨date, hour, minute, second, microsecond, offset⟩

/-- The parts of a text in the notation of dates. -/
structure DateText where
  /-- The date. -/
  date : Date
  /-- The hour, minute and second, if there is a time. -/
  clock : Option (Nat × Nat × Nat)
  /-- The hour and minute of the offset. -/
  offset : Nat × Nat

/-- The rest after an optional fraction: a point with one to eighteen
digits. -/
def dropFraction? : List Char → Option (List Char)
  | '.' :: rest =>
    let count := (rest.takeWhile Char.isDigit).length
    if 1 ≤ count ∧ count ≤ 18 then some (rest.dropWhile Char.isDigit) else none
  | rest => some rest

/-- An optional zone at the end of a text: nothing, a `Z`, or a signed offset
whose colon may be missing. -/
def zoneAtEnd? : List Char → Option (Nat × Nat)
  | [] => some (0, 0)
  | ['Z'] => some (0, 0)
  | sign :: rest =>
    if sign = '+' ∨ sign = '-' then
      (takeDigits? 2 rest).bind fun (hour, rest) =>
        let rest := match rest with
          | ':' :: more => more
          | more => more
        match takeDigits? 2 rest with
        | some (minute, []) => some (hour, minute)
        | _ => none
    else none

namespace DateText

/-- A text in the notation of dates, taken apart. -/
def ofCharacters? (s : List Char) : Option DateText := do
  let (date, rest) ← takeDate? s
  match rest with
  | [] => return ⟨date, none, (0, 0)⟩
  | mark :: rest =>
    if mark = 'T' ∨ mark = ' ' then
      let ((hour, minute), rest) ← takeClock? rest
      match rest with
      | ':' :: rest =>
        let (second, rest) ← takeDigits? 2 rest
        let rest ← dropFraction? rest
        let offset ← zoneAtEnd? rest
        return ⟨date, some (hour, minute, second), offset⟩
      | rest =>
        let offset ← zoneAtEnd? rest
        return ⟨date, some (hour, minute, 0), offset⟩
    else none

/-- A text in the notation of dates, or one with a time and a line end, taken
apart. -/
def ofLine? (s : List Char) : Option DateText :=
  if s.getLast? = some '\n' then (ofCharacters? s.dropLast).filter (·.clock.isSome)
  else ofCharacters? s

/-- Whether the date and the time exist. A reader that counts nanoseconds, as it
may for a fraction of seven or more digits, has no number for a year that is far
away; this is left out. -/
def exists? (t : DateText) : Bool :=
  t.date.exists?
    && (t.clock.all fun (hour, minute, second) => hour ≤ 23 && minute ≤ 59 && second ≤ 59)
    && t.offset.1 ≤ 23 && t.offset.2 ≤ 59

end DateText

/-- Whether a text is a date or a moment that exists. -/
def isDateText (s : String) : Bool := (DateText.ofLine? s.toList).any DateText.exists?

end ContentGraph
