import ContentGraph.Calendar.Date
import ContentGraph.Text.Quoted
import ContentGraph.Value.Display

/-!
# Why a document cannot be read

A document can be malformed, or well formed and name a value that does not
exist. The two are told apart because only the first is blamed on the file
that holds the document.

A third sort of document is not read here: what it says is no value, or what is
wrong with it cannot be told from the document alone (`Unread`).
-/

namespace ContentGraph.Document

/-- The two notations of documents. -/
inductive Format where
  | json
  | yaml
deriving DecidableEq, Repr

/-- The part of a date or time that does not exist. -/
inductive CalendarFault where
  /-- A year before the first or after the last. -/
  | year (n : Nat)
  | month
  | day
  | hour
  | minute
  | second
  /-- An offset, in seconds, of a day or more. -/
  | offset (seconds : Int)
deriving DecidableEq, Repr

/-- What a document can say that is not read here. -/
inductive Unread where
  /-- Half of a character, given by its code, without its other half. No text
  has it. -/
  | half (code : Nat)
  /-- An integer with more digits than are written out. -/
  | longInteger
  /-- A set. -/
  | set
  /-- The key `=` or `<<` in a place where what becomes of it depends on what was
  read before. -/
  | specialKey
  /-- A node that contains itself. -/
  | cycle
  /-- Something nested more deeply than there is room for. -/
  | depth
  /-- Something that is no text, in a part of a document that is read only after
  the parts before it. -/
  | laterPiece
deriving DecidableEq, Repr

/-- Why a document cannot be read. -/
inductive Error where
  /-- The text does not follow the notation. -/
  | malformed (format : Format)
  /-- An integer has more digits than the reader takes. -/
  | tooManyDigits (count : Nat)
  /-- A text in the place of an integer is none in its base. -/
  | notAnInteger (base : Nat) (text : String)
  /-- A text in the place of a number is none. -/
  | notANumber (text : String)
  /-- There is no text in the place of a number. -/
  | emptyNumber
  /-- A number to base sixty has so many parts that the power for one of them is
  no double. -/
  | tooManyParts
  /-- A code is that of no character. -/
  | noCharacter (code : Nat)
  /-- A date or time does not exist. -/
  | calendar (fault : CalendarFault)
  /-- A text marked as a truth value is none. -/
  | notATruthValue (text : String)
  /-- A text marked as a timestamp is none. -/
  | notATimestamp
  /-- The document says something that is not read here. -/
  | unread (what : Unread)
deriving DecidableEq, Repr

/-- The largest number of digits of a decimal integer. -/
def digitLimit : Nat := 4300

/-- How much of a text that is no integer is shown. -/
def shownLimit : Nat := 200

/-- How a span of seconds is shown. -/
def spanShown (seconds : Int) : String :=
  let days := Int.fdiv seconds 86400
  let rest := seconds - days * 86400
  let parts :=
    (if days = 0 then [] else ["days=" ++ toString days])
      ++ (if rest = 0 then [] else ["seconds=" ++ toString rest])
  "datetime.timedelta(" ++ joinWith ", " parts ++ ")"

/-- The wording of a calendar fault. -/
def CalendarFault.message : CalendarFault → String
  | year n => "year " ++ toString n ++ " is out of range"
  | month => "month must be in 1..12"
  | day => "day is out of range for month"
  | hour => "hour must be in 0..23"
  | minute => "minute must be in 0..59"
  | second => "second must be in 0..59"
  | offset seconds =>
    "offset must be a timedelta strictly between -timedelta(hours=24) and "
      ++ "timedelta(hours=24), not " ++ spanShown seconds ++ "."

/-- The wording of what is not read. -/
def Unread.message : Unread → String
  | half _ => "half of a character"
  | longInteger => "an integer that is too long to be written"
  | set => "a set"
  | specialKey => "a key that stands for something else"
  | cycle => "a node that contains itself"
  | depth => "maximum recursion depth exceeded"
  | laterPiece => "no text"

/-- The wording of an error. -/
def Error.message : Error → String
  | malformed .json => "<json error>"
  | malformed .yaml => "<yaml error>"
  | tooManyDigits count =>
    "Exceeds the limit (" ++ toString digitLimit
      ++ " digits) for integer string conversion: value has " ++ toString count
      ++ " digits; use sys.set_int_max_str_digits() to increase the limit"
  | notAnInteger base text =>
    "invalid literal for int() with base " ++ toString base ++ ": "
      ++ String.ofList ((Text.quoted text).toList.take shownLimit)
  | notANumber text => "could not convert string to float: " ++ Text.quoted text
  | emptyNumber => "string index out of range"
  | tooManyParts => "int too large to convert to float"
  | noCharacter _ => "chr() arg not in range(0x110000)"
  | calendar fault => fault.message
  | notATruthValue text => Text.quoted text
  | notATimestamp => "not a timestamp"
  | unread what => what.message

end ContentGraph.Document
