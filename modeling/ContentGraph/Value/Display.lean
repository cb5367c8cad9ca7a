import ContentGraph.Number.Shortest
import ContentGraph.Text.Quoted
import ContentGraph.Value

/-!
# Text of a value

`Value.shown` writes a value so that its kind can be told: texts are quoted
and dates are written as constructors. `Value.text` writes it for a reader,
which differs for texts, dates and decimals alone; what stands inside a
container is always shown.

Every integer is written out, however long it is. Where the program runs this may
be refused for one of more than 4300 digits.
-/

namespace ContentGraph

/-- Texts with a separator between them. -/
def joinWith (separator : String) : List String → String
  | [] => ""
  | [s] => s
  | s :: rest => s ++ separator ++ joinWith separator rest

/-- How an offset is shown: the one of zero has a name, and others are
counted from the whole day below. -/
def offsetShown (offset : Int) : String :=
  if offset = 0 then "datetime.timezone.utc"
  else
    let days := Int.fdiv offset 86400
    let seconds := offset - days * 86400
    let parts :=
      (if days = 0 then [] else ["days=" ++ toString days])
        ++ (if seconds = 0 then [] else ["seconds=" ++ toString seconds])
    "datetime.timezone(datetime.timedelta(" ++ joinWith ", " parts ++ "))"

/-- How a date is shown. -/
def Date.shown (d : Date) : String :=
  "datetime.date(" ++ joinWith ", " ([d.year, d.month, d.day].map toString) ++ ")"

/-- How a moment is shown: seconds and microseconds only if they matter. -/
def Moment.shown (m : Moment) : String :=
  let parts :=
    [m.date.year, m.date.month, m.date.day, m.hour, m.minute]
      ++ (if m.microsecond ≠ 0 then [m.second, m.microsecond]
          else if m.second ≠ 0 then [m.second] else [])
  let zone :=
    match m.offset with
    | none => []
    | some offset => ["tzinfo=" ++ offsetShown offset]
  "datetime.datetime(" ++ joinWith ", " (parts.map toString ++ zone) ++ ")"

/-- How one byte is written between two marks. -/
def quotedByte (mark : Char) (b : UInt8) : List Char :=
  let c := Char.ofNat b.toNat
  if c = mark ∨ c = '\x5c' then ['\x5c', c]
  else if c = '\t' then ['\x5c', 't']
  else if c = '\n' then ['\x5c', 'n']
  else if c = '\r' then ['\x5c', 'r']
  else if 32 ≤ b.toNat ∧ b.toNat < 127 then [c]
  else ['\x5c', 'x'] ++ Text.hexDigits 2 b.toNat

/-- How bytes are shown: as a quoted text after a letter, with every byte
that is no printable ASCII character written by its code. -/
def bytesShown (bs : List UInt8) : String :=
  let mark := Text.quotationMark (bs.map fun b => Char.ofNat b.toNat)
  String.ofList ('b' :: mark :: bs.flatMap (quotedByte mark) ++ [mark])

namespace Value

/-- How a truth value is shown. -/
def boolShown (b : Bool) : String := if b then "True" else "False"

mutual

/-- A value with its kind made visible. -/
def shown : Value → String
  | null => "None"
  | bool b => boolShown b
  | int n => toString n
  | float x => x.text
  | decimal d => "Decimal('" ++ d.text ++ "')"
  | string s => Text.quoted s
  | bytes bs => bytesShown bs
  | date d => d.shown
  | moment m => m.shown
  | list items => "[" ++ joinWith ", " (shownItems items) ++ "]"
  | tuple items =>
    match shownItems items with
    | [item] => "(" ++ item ++ ",)"
    | texts => "(" ++ joinWith ", " texts ++ ")"
  | map entries => "\x7b" ++ joinWith ", " (shownEntries entries) ++ "\x7d"

/-- The items of a list, each one shown. -/
def shownItems : List Value → List String
  | [] => []
  | item :: rest => shown item :: shownItems rest

/-- The entries of a map, each one shown. -/
def shownEntries : List (Value × Value) → List String
  | [] => []
  | (k, v) :: rest => (shown k ++ ": " ++ shown v) :: shownEntries rest

end

/-- The text of a value for a reader. -/
def text : Value → String
  | string s => s
  | date d => d.text
  | moment m => m.plainText
  | decimal d => d.text
  | v => v.shown

end Value

end ContentGraph
