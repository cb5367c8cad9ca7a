import ContentGraph.Document.Json
import ContentGraph.Document.Yaml

/-!
# Documents in files

What is found under the name of a file is looked up outside; here it is read.
There may be nothing, something that is no file, or bytes, which must be a
text in UTF-8 and a document in some notation. Bytes in YAML are read in pieces,
and of those that are no text only the first piece shows this before all else.
-/

namespace ContentGraph.Document

/-- What is found under the name of a file. -/
inductive Found where
  /-- Nothing. -/
  | nothing
  /-- Something that cannot be read, such as a directory. -/
  | unreadable
  /-- A file with these bytes. -/
  | bytes (content : ByteArray)

/-- Why there is no document. -/
inductive FileError where
  /-- There is nothing under the name. -/
  | notFound
  /-- What is there cannot be read. -/
  | unreadable
  /-- It is not a text. -/
  | notText
  /-- The text cannot be read as a document. -/
  | badDocument (error : Error)
deriving DecidableEq, Repr

namespace FileError

/-- Whether the file is blamed by its name. It is if it cannot be read or
does not follow its notation; what else is wrong with its contents is
reported as such. -/
def blamesFile : FileError → Bool
  | notFound => false
  | unreadable => true
  | notText => false
  | badDocument (.malformed _) => true
  | badDocument _ => false

/-- The wording of an error. -/
def message : FileError → String
  | notFound => "not found"
  | unreadable => "<os error>"
  | notText => "<unicode error>"
  | badDocument error => error.message

end FileError

/-- The value of a text in a notation, with room for some levels of nesting. -/
def Format.read (room : Nat) : Format → List Char → Except Error Value
  | json => Json.read room
  | yaml => Yaml.read room

/-- Whether the first piece of some bytes is a text, up to a character that may go
on after it. -/
def startsAsText (content : ByteArray) : Bool :=
  (List.range 4).any fun n =>
    (String.fromUTF8? (content.extract 0 (Yaml.firstPiece - n))).isSome

/-- What is wrong with bytes that are no text. -/
def Format.faultOfBytes : Format → ByteArray → FileError
  | json, _ => .notText
  | yaml, content => if startsAsText content then .badDocument (.unread .laterPiece) else .notText

/-- The value of the document that was found. -/
def Found.read (room : Nat) (format : Format) : Found → Except FileError Value
  | nothing => .error .notFound
  | unreadable => .error .unreadable
  | bytes content =>
    match String.fromUTF8? content with
    | none => .error (format.faultOfBytes content)
    | some text => (format.read room text.toList).mapError .badDocument

end ContentGraph.Document
