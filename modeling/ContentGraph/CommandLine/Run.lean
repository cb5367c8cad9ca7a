import ContentGraph.CommandLine.Request
import ContentGraph.Node.Load
import ContentGraph.Registry.Build
import ContentGraph.Site.Load

/-!
# Carrying out a request

What a request comes to, given the environment: the status that the program ends
with, what it writes, and what it logs. The status is 2 if the input cannot be
used and 3 if no registry can be built.

A document can be at fault in a way that no report is made of; the program
then ends without one. So it does if the output has no code for a character that
is to be written, and then nothing is written.
-/

namespace ContentGraph.CommandLine

/-- What the program finds around it. -/
structure Environment where
  /-- What is found under the name of a file. -/
  found : String → Document.Found
  /-- For how many levels of nesting there is room, in reading a document and in
  all that is done with its value. -/
  room : Nat
  /-- The directory that relative ones are taken from. -/
  working : String
  /-- Which characters the output has codes for. -/
  encodes : Char → Bool

/-- What a request comes to. -/
structure Report where
  /-- The status that the program ends with. -/
  status : Nat
  /-- What is written. -/
  output : String
  /-- What is logged. -/
  log : List LogEntry
deriving DecidableEq, Repr

/-- Why a request comes to nothing that is reported. -/
inductive Failure where
  | nodes (error : LoadError)
  | config (error : SiteLoadError)
  /-- The output has no code for a character of a text. -/
  | unwritten (output : String)
deriving DecidableEq

/-- A report that the input cannot be used. -/
def Report.refusal (message : String) : Report := ⟨2, "", [⟨.error, message⟩]⟩

/-- A report with entries logged before its own. -/
def Report.after (log : List LogEntry) (r : Report) : Report := { r with log := log ++ r.log }

/-- A report of which the output is written, if there are codes for all of it. -/
def Report.written (encodes : Char → Bool) (r : Report) : Except Failure Report :=
  if r.output.toList.all encodes then .ok r else .error (.unwritten r.output)

/-- Whether a document at fault is reported. One that is not read never is. -/
def isReported : Document.Error → Bool
  | .emptyNumber => false
  | .tooManyParts => false
  | .noCharacter code => code < Nat.pow 2 31
  | .notATruthValue _ => false
  | .notATimestamp => false
  | .unread _ => false
  | _ => true

/-- Whether a file at fault is reported. -/
def isReportedFile : Document.FileError → Bool
  | .badDocument e => isReported e
  | _ => true

/-- Whether it is reported that nodes could not be loaded. -/
def isReportedLoad : LoadError → Bool
  | .file _ e => isReportedFile e
  | .notAList _ => true
  | .node .badChildren => false
  | .node .childWithoutId => false
  | .node _ => true

/-- Whether it is reported that a configuration could not be loaded. -/
def isReportedSite : SiteLoadError → Bool
  | .file _ e => isReportedFile e
  | _ => true

/-- What nodes and configuration come to, or the report that they cannot be
used. -/
def loadInputs (env : Environment) (request : Request) :
    Except Failure (Except Report (Collection × SiteConfig)) :=
  match Collection.load env.room request.nodes (env.found request.nodes) with
  | .error e =>
    if isReportedLoad e then .ok (.error (.refusal ("Failed to load nodes: " ++ e.message)))
    else .error (.nodes e)
  | .ok nodes =>
    match request.config? with
    | none => .ok (.ok (nodes, .empty))
    | some name =>
      match SiteConfig.load env.room name (env.found name) with
      | .ok config => .ok (.ok (nodes, config))
      | .error e =>
        if isReportedSite e then
          .ok (.error (.refusal ("Failed to load site config: " ++ e.message)))
        else .error (.config e)

/-- The report that no registry can be built. -/
def buildRefusal (e : BuildError) : Report :=
  ⟨3, "", [⟨.error, "Schema construction failed: " ++ e.message⟩]⟩

/-- The lines about the fields of a type, with what is noted while they are
computed. -/
def fieldLog (r : Registry) (d : TypeDescriptor) : List LogEntry :=
  ⟨.info, d.name ++ ":"⟩ :: r.fieldNotes d
    ++ (r.fields d).map fun (name, field) => ⟨.info, "  " ++ name ++ ": " ++ field.label⟩

/-- What is logged about the types of a registry. -/
def describeLog (r : Registry) (fields : Bool) : List LogEntry :=
  ⟨.info, "Node types (" ++ toString r.size ++ "):"⟩
    :: r.sortedDescriptors.flatMap r.fieldNotes
    ++ r.summary.map (fun line => ⟨.info, "  " ++ line⟩)
    ++ (if fields then r.sortedDescriptors.flatMap (fieldLog r) else [])

/-- The report on the types of nodes. -/
def describe (file : String) (fields : Bool) (nodes : Collection) (config : SiteConfig) : Report :=
  match Build.run nodes { config } with
  | .error e => buildRefusal e
  | .ok b =>
    let r := b.registry
    let log :=
      if r.size = 0 then [⟨.warning, "No node types found in " ++ file⟩]
      else describeLog r fields
    ⟨0, "", b.notes ++ log⟩

/-- The report on a field of a node. -/
def resolve (working id field : String) (nodes : Collection) (config : SiteConfig) : Report :=
  match nodes.get? id with
  | none => .refusal ("Node not found: " ++ id)
  | some m =>
    match Build.run nodes { config } with
    | .error e => buildRefusal e
    | .ok b =>
      match b.registry.byTag? m.node.type with
      | none =>
        (Report.refusal ("Node " ++ m.node.id ++ " has no registered type (" ++ m.node.type
          ++ ")")).after b.notes
      | some _ =>
        let (linked, log) := Reference.follow working b.registry.context m.node field
        let text := (linked.map (·.node.id)).getD "null"
        ⟨0, text ++ "\n", b.notes ++ log⟩

/-- What a request comes to once nodes and configuration are loaded. -/
def Request.report (working : String) (nodes : Collection) (config : SiteConfig) :
    Request → Report
  | .describe file _ fields => CommandLine.describe file fields nodes config
  | .resolve _ id field _ => CommandLine.resolve working id field nodes config

/-- What a request comes to, with the whole log. -/
def Request.run (env : Environment) (request : Request) : Except Failure Report := do
  match ← loadInputs env request with
  | .error report => return report
  | .ok (nodes, config) => (request.report env.working nodes config).written env.encodes

/-- What an invocation comes to, with the part of the log that it shows. -/
def Invocation.run (env : Environment) (i : Invocation) : Except Failure Report :=
  (i.request.run env).map fun report =>
    { report with log := LogEntry.atLeast i.level report.log }

end ContentGraph.CommandLine
