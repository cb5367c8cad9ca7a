import ContentGraph.CommandLine.Run
import ContentGraph.Proofs.Document.Json
import ContentGraph.Proofs.Node.Children

/-!
# Nodes that cannot be loaded

A request whose nodes cannot be loaded is refused: the program ends with status
2 and logs one error, which says why. There are exceptions. Some faults of
documents and of records are foreseen nowhere, and then the program ends without
a report.

Which files these are is said of what is in them (`Collection.Unreported`). A
file in JSON can only be at fault in ways that are reported, so if there is an
exception it is in YAML: a number without digits or with too many parts, a
character by a code far out of range, a text that is marked as a truth value or a
timestamp and is none. And in either notation the first record that is no node may
be one whose children cannot be read. All other files that cannot be loaded are
refused (`CommandLine.Invocation.run_of_load`).

Nothing is said of a file with a document that is not read at all, be it in JSON
or in YAML (`Document.Found.IsUnread`).
-/

namespace ContentGraph

namespace Document

/-- **A fault of a document that no report is made of.** -/
inductive Error.Unreported : Error → Prop
  | emptyNumber : Unreported .emptyNumber
  | tooManyParts : Unreported .tooManyParts
  | noCharacter {code : Nat} (h : Nat.pow 2 31 ≤ code) : Unreported (.noCharacter code)
  | notATruthValue (text : String) : Unreported (.notATruthValue text)
  | notATimestamp : Unreported .notATimestamp

end Document

namespace Collection

open Document

/-- **A file of nodes that no report is made of**, by its name and what is found
under it. -/
inductive Unreported (room : Nat) (name : String) (content : Found) : Prop
  /-- A text in YAML with a fault that no report is made of. -/
  | document {bytes : ByteArray} {text : String} {e : Error}
      (hformat : FileName.format name = .yaml) (hcontent : content = .bytes bytes)
      (htext : String.fromUTF8? bytes = some text) (hread : Yaml.read room text.toList = .error e)
      (he : e.Unreported)
  /-- A document with records, of which the first that is no node has children
  that cannot be read. -/
  | record {document r : Value} {before after : List Value}
      (hread : content.read room (FileName.format name) = .ok document)
      (hrecords : recordsIn? document = some (before ++ r :: after))
      (hbefore : ∀ s ∈ before, ∃ n, Node.ofRecord s = .ok n) (hr : Node.HasUnreadableChildren r)

variable {room : Nat} {name : String} {content : Found}

theorem load_of_read_eq_error {fault : FileError}
    (h : content.read room (FileName.format name) = .error fault) :
    load room name content = .error (.file (FileName.shown name) fault) := by
  rw [load, h]
  rfl

theorem load_of_read_eq_ok {document : Value}
    (h : content.read room (FileName.format name) = .ok document) :
    load room name content = (recordsIn? document).elim (.error (.notAList (FileName.shown name)))
      fun records => (ofRecords records).mapError .node := by
  have hnext (next : Value → Except LoadError Collection) :
      ((Except.ok document).mapError (LoadError.file (FileName.shown name)) >>= next)
        = next document := rfl
  rw [load, h, hnext]
  cases recordsIn? document <;> rfl

end Collection

namespace CommandLine

variable {env : Environment} {i : Invocation}

section Request

variable {request : Request}

theorem Request.run_of_loaded {nodes : Collection} {config : SiteConfig}
    (h : loadInputs env request = .ok (.ok (nodes, config))) :
    request.run env = (request.report env.working nodes config).written env.encodes := by
  rw [Request.run, h]
  rfl

end Request

/-- A file with a text in it. -/
def textFile (text : String) : Document.Found := .bytes text.toUTF8

theorem read_textFile {room : Nat} {format : Document.Format} {text : String} {v : Value}
    (h : format.read room text.toList = .ok v) : (textFile text).read room format = .ok v := by
  have htext : String.fromUTF8? text.toUTF8 = some text := dif_pos text.isValidUTF8
  rw [textFile, Document.Found.read, htext]
  dsimp only
  rw [h]
  rfl

theorem eq_ok_of_toOption {ε α : Type} {result : Except ε α} {a : α}
    (h : result.toOption = some a) : result = .ok a := by
  cases result with
  | error _ => cases h
  | ok b => exact congrArg Except.ok (Option.some.inj h)

/-- Where every file has one text, there is room for two levels of nesting and the
output has a code for every character. -/
def allFiles (text : String) : Environment := ⟨fun _ => textFile text, 2, "/", fun _ => true⟩

end CommandLine

end ContentGraph
