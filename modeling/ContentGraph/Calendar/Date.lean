/-!
# Dates and moments

A date of the Gregorian calendar, extended to all years, and a moment of a
day with a microsecond and, if it is known, an offset from universal time.
Two moments with an offset are compared by the instant they denote, two
without one by their reading; between a moment with and one without an
offset there is no order, and they are never equal.
-/

namespace ContentGraph

/-- A date: year, month and day. -/
structure Date where
  /-- The year. -/
  year : Nat
  /-- The month, from 1. -/
  month : Nat
  /-- The day of the month, from 1. -/
  day : Nat
deriving DecidableEq, Repr, Inhabited

/-- A date with a time of day, and the offset from universal time in
seconds. -/
structure Moment where
  /-- The date. -/
  date : Date
  /-- The hour of the day. -/
  hour : Nat
  /-- The minute of the hour. -/
  minute : Nat
  /-- The second of the minute. -/
  second : Nat
  /-- The microsecond of the second. -/
  microsecond : Nat
  /-- The offset from universal time, in seconds, if it is known. -/
  offset : Option Int
deriving DecidableEq, Repr, Inhabited

namespace Date

/-- Every fourth year is a leap year, but of the full centuries only every
fourth. -/
def isLeapYear (year : Nat) : Bool :=
  year % 4 == 0 && (year % 100 != 0 || year % 400 == 0)

/-- The number of days of a month. -/
def daysInMonth (year month : Nat) : Nat :=
  if month = 2 then if isLeapYear year then 29 else 28
  else if month = 4 ∨ month = 6 ∨ month = 9 ∨ month = 11 then 30
  else 31

/-- Whether the month and the day exist. -/
def exists? (d : Date) : Bool :=
  1 ≤ d.month && d.month ≤ 12 && 1 ≤ d.day && d.day ≤ daysInMonth d.year d.month

/-- The days of the months before a month. -/
def daysBeforeMonth (year : Nat) : Nat → Nat
  | 0 => 0
  | 1 => 0
  | month + 1 => daysBeforeMonth year month + daysInMonth year month

/-- The number of a day, counted from the first day of year one. -/
def ordinal (d : Date) : Int :=
  let before : Int := (d.year : Int) - 1
  365 * before + before / 4 - before / 100 + before / 400
    + daysBeforeMonth d.year d.month + d.day

/-- Earlier by year, then month, then day. -/
def lt (a b : Date) : Bool :=
  a.year < b.year
    || (a.year == b.year && (a.month < b.month || (a.month == b.month && a.day < b.day)))

end Date

/-- A number with zeros in front, at least `width` digits in all. -/
def paddedNumber (width n : Nat) : String :=
  let digits := Nat.toDigits 10 n
  String.ofList (List.replicate (width - digits.length) '0' ++ digits)

namespace Date

/-- The text of a date, such as `2020-01-31`. -/
def text (d : Date) : String :=
  paddedNumber 4 d.year ++ "-" ++ paddedNumber 2 d.month ++ "-" ++ paddedNumber 2 d.day

end Date

namespace Moment

/-- The microseconds of a reading, counted from the first day of year one. -/
def reading (m : Moment) : Int :=
  (((m.date.ordinal * 24 + m.hour) * 60 + m.minute) * 60 + m.second) * 1000000 + m.microsecond

/-- The instant that a moment with an offset denotes. -/
def instant (m : Moment) (offset : Int) : Int := m.reading - offset * 1000000

/-- The two numbers by which moments are compared, if they can be. -/
def comparable? (a b : Moment) : Option (Int × Int) :=
  match a.offset, b.offset with
  | none, none => some (a.reading, b.reading)
  | some p, some q => some (a.instant p, b.instant q)
  | _, _ => none

/-- The text of an offset, such as `+05:30`. -/
def offsetText (offset : Int) : String :=
  let size := offset.natAbs
  (if offset < 0 then "-" else "+") ++ paddedNumber 2 (size / 3600) ++ ":"
    ++ paddedNumber 2 (size / 60 % 60)
    ++ (if size % 60 = 0 then "" else ":" ++ paddedNumber 2 (size % 60))

/-- The text of a moment, with a mark between the date and the time. A
fraction is written if it is not zero, with six digits. -/
def textWith (mark : String) (m : Moment) : String :=
  m.date.text ++ mark ++ paddedNumber 2 m.hour ++ ":" ++ paddedNumber 2 m.minute ++ ":"
    ++ paddedNumber 2 m.second
    ++ (if m.microsecond = 0 then "" else "." ++ paddedNumber 6 m.microsecond)
    ++ (match m.offset with
        | none => ""
        | some offset => offsetText offset)

/-- The text of a moment in the form of an interchange standard. -/
def text (m : Moment) : String := m.textWith "T"

/-- The text of a moment for a reader. -/
def plainText (m : Moment) : String := m.textWith " "

end Moment

end ContentGraph
