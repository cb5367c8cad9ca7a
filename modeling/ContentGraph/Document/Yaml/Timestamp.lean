import ContentGraph.Document.Error

/-!
# Timestamps of YAML

A date, or a date with a time of day, as a document writes it: the time is
set off by a letter or by blanks, its seconds may have a fraction, and an
offset may follow. The parts are read first; whether such a date or time
exists is decided by `Timestamp.value`.
-/

namespace ContentGraph.Document.Yaml

/-- The time of a timestamp. -/
structure TimeParts where
  hour : Nat
  minute : Nat
  second : Nat
  /-- The digits after the point. -/
  fraction : List Char
  /-- The offset in seconds, if one is written. -/
  offset : Option Int

/-- The parts of a timestamp. -/
structure Timestamp where
  date : Date
  time : Option TimeParts

namespace Timestamp

/-- A number of digits at the front of a text, at most as many as given, and
the rest. -/
def takeDigits (least most : Nat) (s : List Char) : Option (Nat × List Char) :=
  let digits := (s.take most).takeWhile Char.isDigit
  if digits.length < least then none
  else (Numeral.digitsValue? 10 0 digits).map fun n => (n, s.drop digits.length)

/-- The rest of a text after a character. -/
def after? (c : Char) : List Char → Option (List Char)
  | d :: rest => if d = c then some rest else none
  | [] => none

/-- The rest of a text after the mark between a date and a time: a letter, or
blanks. -/
def afterMark? (s : List Char) : Option (List Char) :=
  match s with
  | c :: rest =>
    if c = 'T' ∨ c = 't' then some rest
    else if c = ' ' ∨ c = '\t' then some (s.dropWhile fun d => d == ' ' || d == '\t')
    else none
  | [] => none

/-- An offset in seconds, to the end of a text. -/
def offset? : List Char → Option Int
  | ['Z'] => some 0
  | sign :: rest => do
    if sign ≠ '+' ∧ sign ≠ '-' then none
    else
      let (hours, rest) ← takeDigits 1 2 rest
      let minutes ←
        match rest with
        | [] => some 0
        | _ => do
          let (minutes, rest) ← takeDigits 2 2 (← after? ':' rest)
          if rest.isEmpty then some minutes else none
      let seconds : Int := (hours * 60 + minutes) * 60
      some (if sign = '-' then -seconds else seconds)
  | [] => none

/-- A time to the end of a text. -/
def time? (s : List Char) : Option TimeParts := do
  let (hour, s) ← takeDigits 1 2 s
  let (minute, s) ← takeDigits 2 2 (← after? ':' s)
  let (second, s) ← takeDigits 2 2 (← after? ':' s)
  let (fraction, s) :=
    match s with
    | '.' :: rest => (rest.takeWhile Char.isDigit, rest.dropWhile Char.isDigit)
    | s => ([], s)
  if s.isEmpty then some ⟨hour, minute, second, fraction, none⟩
  else
    let offset ← offset? (s.dropWhile fun c => c == ' ' || c == '\t')
    some ⟨hour, minute, second, fraction, some offset⟩

/-- The parts of a timestamp. -/
def ofText? (s : List Char) : Option Timestamp := do
  let (year, s) ← takeDigits 4 4 s
  let (month, s) ← takeDigits 1 2 (← after? '-' s)
  let (day, s) ← takeDigits 1 2 (← after? '-' s)
  if s.isEmpty then some ⟨⟨year, month, day⟩, none⟩
  else
    let time ← time? (← afterMark? s)
    some ⟨⟨year, month, day⟩, some time⟩

/-- Whether a plain text is a timestamp. A date alone is written in full. -/
def isPlain (s : List Char) : Bool :=
  match ofText? s with
  | none => false
  | some t => t.time.isSome || s.length == 10

/-- The part of a date that does not exist, if any. -/
def dateFault? (d : Date) : Option CalendarFault :=
  if d.year < 1 ∨ 9999 < d.year then some (.year d.year)
  else if d.month < 1 ∨ 12 < d.month then some .month
  else if d.day < 1 ∨ Date.daysInMonth d.year d.month < d.day then some .day
  else none

/-- The part of a time that does not exist, if any. -/
def timeFault? (t : TimeParts) : Option CalendarFault :=
  if 23 < t.hour then some .hour
  else if 59 < t.minute then some .minute
  else if 59 < t.second then some .second
  else none

/-- The offset of a time, if it does not exist: it is less than a day. -/
def offsetFault? (t : TimeParts) : Option CalendarFault :=
  t.offset.bind fun seconds => if 86400 ≤ seconds.natAbs then some (.offset seconds) else none

/-- The microseconds of a fraction, of which six digits count. -/
def microseconds (fraction : List Char) : Nat :=
  (Numeral.digitsValue? 10 0 ((fraction ++ List.replicate 6 '0').take 6)).getD 0

/-- The value of a timestamp. The offset is checked first, then the date,
then the time. -/
def value (t : Timestamp) : Except Error Value :=
  match t.time with
  | none =>
    match dateFault? t.date with
    | some fault => .error (.calendar fault)
    | none => .ok (.date t.date)
  | some time =>
    match (offsetFault? time <|> dateFault? t.date) <|> timeFault? time with
    | some fault => .error (.calendar fault)
    | none =>
      .ok (.moment ⟨t.date, time.hour, time.minute, time.second, microseconds time.fraction,
        time.offset⟩)

end Timestamp

end ContentGraph.Document.Yaml
