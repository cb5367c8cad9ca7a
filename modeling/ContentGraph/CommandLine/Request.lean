import ContentGraph.CommandLine.Option
import ContentGraph.Log

/-!
# Requests

What the program is asked to do. The options of all requests, which say how
much of the log is shown, stand before the name of the request; its own
options may stand anywhere after the name. After two hyphens alone no word is
an option.
-/

namespace ContentGraph.CommandLine

/-- What the program is asked to do. -/
inductive Request where
  /-- To build the types of the nodes in a file and to list them, and their
  fields too if asked for. -/
  | describe (nodes : String) (config : Option String) (fields : Bool)
  /-- To follow a field of a node. -/
  | resolve (nodes id field : String) (config : Option String)
deriving DecidableEq, Repr

namespace Request

/-- The name of the file of nodes. -/
def nodes : Request → String
  | describe nodes _ _ => nodes
  | resolve nodes _ _ _ => nodes

/-- The name of the file of the configuration, if there is one. An empty name
is none. -/
def config? (r : Request) : Option String :=
  let given :=
    match r with
    | describe _ config _ => config
    | resolve _ _ _ config => config
  given.filter (· ≠ "")

end Request

/-- A request, with the least level of the log that is shown. -/
structure Invocation where
  level : Level
  request : Request
deriving DecidableEq, Repr

/-- The options of all requests. -/
inductive GlobalOption where
  | verbose
  | warningsOnly
  | errorsOnly
deriving DecidableEq, Repr

/-- The options of single requests. -/
inductive RequestOption where
  | config
  | fields
deriving DecidableEq, Repr

/-- The option that asks for help. -/
def helpForm {α : Type} : OptionForm α := ⟨["-h", "--help"], none, false⟩

/-- The options of all requests, with their names. -/
def globalForms : List (OptionForm GlobalOption) :=
  [helpForm, ⟨["-v", "--verbose"], some .verbose, false⟩,
    ⟨["--warnings-only"], some .warningsOnly, false⟩,
    ⟨["--errors-only"], some .errorsOnly, false⟩]

/-- The option that names a configuration. -/
def configForm : OptionForm RequestOption := ⟨["--config"], some .config, true⟩

/-- The options of the request to describe. -/
def describeForms : List (OptionForm RequestOption) :=
  [helpForm, configForm, ⟨["--fields"], some .fields, false⟩]

/-- The options of the request to resolve. -/
def resolveForms : List (OptionForm RequestOption) := [helpForm, configForm]

/-- The least level that is shown with some options: the strictest counts. -/
def levelOf (options : List GlobalOption) : Level :=
  if options.contains .errorsOnly then .error
  else if options.contains .warningsOnly then .warning
  else if options.contains .verbose then .debug
  else .info

/-- The options at the front of the words, whether there is one that is not
known, and the words from the first that is no option. -/
def globalWords : List String → Except Stop (List GlobalOption × Bool × List String)
  | [] => .ok ([], false, [])
  | word :: rest => do
    if word = "--" then .error .misuse
    else
      match ← classify globalForms word with
      | .plain => return ([], false, word :: rest)
      | .unknown =>
        let (options, _, words) ← globalWords rest
        return (options, true, words)
      | .option form attached =>
        let read ← readOption globalForms form attached none
        let (options, surplus, words) ← globalWords rest
        return (read.meanings.map (·.1) ++ options, read.surplus || surplus, words)

/-- What the words after the name of a request come to. -/
structure RequestWords where
  /-- The options with their values. -/
  options : List (RequestOption × Option String)
  /-- The words that are no options. -/
  plain : List String
  /-- Whether there is a word that is nothing. -/
  surplus : Bool

/-- A word that can be the value of the option before it. -/
def valueWord? (forms : List (OptionForm RequestOption)) :
    List String → Except Stop (Option String)
  | [] => .ok none
  | word :: _ =>
    if word = "--" then .ok none
    else
      (classify forms word).map fun w =>
        match w with
        | .plain => some word
        | _ => none

/-- The words after the name of a request; whether the word before them is no
option, and whether it is the value of one. Two hyphens alone must stand next
to a word that is no option. -/
def requestWords (forms : List (OptionForm RequestOption)) (afterPlain skip : Bool) :
    List String → Except Stop RequestWords
  | [] => .ok ⟨[], [], false⟩
  | word :: rest => do
    if skip then requestWords forms false false rest
    else if word = "--" then return ⟨[], rest, !afterPlain && rest.isEmpty⟩
    else
      match ← classify forms word with
      | .plain =>
        let w ← requestWords forms true false rest
        return { w with plain := word :: w.plain }
      | .unknown =>
        let w ← requestWords forms false false rest
        return { w with surplus := true }
      | .option form attached =>
        let next ← valueWord? forms rest
        let read ← readOption forms form attached next
        let w ← requestWords forms false read.takesNext rest
        let surplus := read.surplus || w.surplus
        return { w with options := read.meanings ++ w.options, surplus }

/-- The value of the last option that names a configuration. -/
def configOf (options : List (RequestOption × Option String)) : Option String :=
  (options.reverse.find? fun option => option.1 == .config).bind (·.2)

/-- The request of a name with its words. -/
def requestOf (name : String) (words : List String) : Except Stop (Request × Bool) := do
  if name = "describe" then
    checkWords describeForms words
    let w ← requestWords describeForms false false words
    match w.plain with
    | [] => .error .misuse
    | nodes :: more =>
      let fields := w.options.any fun option => option.1 == .fields
      return (.describe nodes (configOf w.options) fields, w.surplus || !more.isEmpty)
  else if name = "resolve" then
    checkWords resolveForms words
    let w ← requestWords resolveForms false false words
    match w.plain with
    | nodes :: id :: field :: more =>
      return (.resolve nodes id field (configOf w.options), w.surplus || !more.isEmpty)
    | _ => .error .misuse
  else .error .misuse

/-- The invocation that the words of a command line spell. Words that are
nothing make it none, but only after help could be asked for. -/
def Invocation.ofWords (words : List String) : Except Stop Invocation := do
  checkWords globalForms words
  let (options, unknown, rest) ← globalWords words
  match rest with
  | [] => .error .misuse
  | name :: more =>
    let (request, surplus) ← requestOf name more
    if unknown || surplus then .error .misuse else return ⟨levelOf options, request⟩

end ContentGraph.CommandLine
