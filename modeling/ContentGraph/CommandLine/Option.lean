import ContentGraph.Text.Character

/-!
# Options on a command line

How words of a command line are told apart, and how options are read. A long
option may be shortened as long as it is clear which one is meant, and its
value may be written after an equals sign. Short options without a value may
share a word. Help ends the reading where it is met.
-/

namespace ContentGraph.CommandLine

/-- Why the words of a command line are no request. -/
inductive Stop where
  /-- Help was asked for. -/
  | help
  /-- The words are no request. -/
  | misuse
deriving DecidableEq, Repr

namespace Stop

/-- The status that the program ends with. -/
def status : Stop → Nat
  | help => 0
  | misuse => 2

end Stop

/-- An option, with what it means. -/
structure OptionForm (α : Type) where
  /-- Its names, each with its hyphens. -/
  names : List String
  /-- What it means; nothing for the option that asks for help. -/
  meaning : Option α
  /-- Whether a value follows. -/
  takesValue : Bool

/-- What stands in the same word after the name of an option. -/
inductive Attached where
  | nothing
  /-- A value, after an equals sign. -/
  | value (v : String)
  /-- More letters, directly after a short option. -/
  | letters (rest : List Char)

/-- What a word of a command line may be. -/
inductive Word (α : Type) where
  /-- No option. -/
  | plain
  /-- An option, with what stands in the same word after it. -/
  | option (form : OptionForm α) (attached : Attached)
  /-- An option that is not known. -/
  | unknown

variable {α : Type}

/-- The option of a name. -/
def formOf? (forms : List (OptionForm α)) (name : String) : Option (OptionForm α) :=
  forms.find? fun form => form.names.contains name

/-- The parts of a word before and after its first equals sign, if it has
one. -/
def splitAtEquals (word : List Char) : List Char × Option String :=
  match word.dropWhile (· ≠ '=') with
  | _ :: value => (word.takeWhile (· ≠ '='), some (String.ofList value))
  | [] => (word, none)

/-- The options with a name that begins as given. -/
def startingWith (forms : List (OptionForm α)) (start : List Char) : List (OptionForm α) :=
  forms.flatMap fun form =>
    (form.names.filter fun name => start.isPrefixOf name.toList).map fun _ => form

/-- Whether a text is a number with a minus sign. A line end may follow the
last digit. -/
def isNegativeNumber : List Char → Bool
  | '-' :: rest =>
    let isEnd := fun tail : List Char => tail.isEmpty || tail == ['\n']
    let whole := rest.takeWhile Text.isDecimal
    match rest.dropWhile Text.isDecimal with
    | '.' :: fraction =>
      fraction.head?.any Text.isDecimal && isEnd (fraction.dropWhile Text.isDecimal)
    | tail => !whole.isEmpty && isEnd tail
  | _ => false

/-- What a word is that begins with a hyphen and is no option as it
stands. It is an option that is not known unless it is a number or has a space
in it. -/
def otherWord (word : List Char) : Word α :=
  if isNegativeNumber word || word.contains ' ' then .plain else .unknown

/-- The value after an equals sign, if there is one, as it is attached. -/
def attachedValue : Option String → Attached
  | none => .nothing
  | some v => .value v

/-- What a word is. There is nothing that it is if it could be several
options. -/
def classify (forms : List (OptionForm α)) (word : String) : Except Stop (Word α) :=
  let characters := word.toList
  let (name, value) := splitAtEquals characters
  match characters with
  | '-' :: second :: more =>
    match formOf? forms word with
    | some form => .ok (.option form .nothing)
    | none =>
      match value.bind fun v => (formOf? forms (String.ofList name)).map fun form => (form, v) with
      | some (form, v) => .ok (.option form (.value v))
      | none =>
        if second = '-' then
          match startingWith forms name with
          | [] => .ok (otherWord characters)
          | [form] => .ok (.option form (attachedValue value))
          | _ => .error .misuse
        else
          match formOf? forms (String.ofList ['-', second]) with
          | some form => .ok (.option form (.letters more))
          | none => .ok (otherWord characters)
  | _ => .ok .plain

/-- The options that share a word with a short one, from their letters, up to
the first letter that is none; whether there is such a letter. Only options
without a value may share a word, and no letter may be a hyphen or an equals
sign. -/
def sharedForms (forms : List (OptionForm α)) :
    List Char → Except Stop (List (OptionForm α) × Bool)
  | [] => .ok ([], false)
  | c :: rest =>
    if c = '-' || c = '=' then .error .misuse
    else
      match formOf? forms (String.ofList ['-', c]) with
      | some form =>
        if form.takesValue then .error .misuse
        else (sharedForms forms rest).map fun (more, surplus) => (form :: more, surplus)
      | none => .ok ([], true)

/-- What options mean that have no value, up to help. -/
def meanings : List (OptionForm α) → Except Stop (List (α × Option String))
  | [] => .ok []
  | form :: rest =>
    match form.meaning with
    | none => .error .help
    | some a => (meanings rest).map fun more => (a, none) :: more

/-- What the options of a word come to. -/
structure OptionRead (α : Type) where
  /-- What they mean, with their values. -/
  meanings : List (α × Option String)
  /-- Whether the word after them is the value of one. -/
  takesNext : Bool
  /-- Whether a letter among them is no option. -/
  surplus : Bool

/-- What the options of a word come to, given the word after it if it can be a
value. -/
def readOption (forms : List (OptionForm α)) (form : OptionForm α) (attached : Attached)
    (next : Option String) : Except Stop (OptionRead α) :=
  match form.takesValue, form.meaning with
  | true, some a =>
    match attached, next with
    | .value v, _ => .ok ⟨[(a, some v)], false, false⟩
    | .letters v, _ => .ok ⟨[(a, some (String.ofList v))], false, false⟩
    | .nothing, some v => .ok ⟨[(a, some v)], true, false⟩
    | .nothing, none => .error .misuse
  | _, _ =>
    match attached with
    | .nothing => (meanings [form]).map fun read => ⟨read, false, false⟩
    | .value _ => .error .misuse
    | .letters letters => do
      let (shared, surplus) ← sharedForms forms letters
      return ⟨← meanings (form :: shared), false, surplus⟩

/-- Whether no word before the first that separates the options from the
rest could be several options. -/
def checkWords (forms : List (OptionForm α)) : List String → Except Stop Unit
  | [] => .ok ()
  | word :: rest =>
    if word = "--" then .ok ()
    else (classify forms word).bind fun _ => checkWords forms rest

end ContentGraph.CommandLine
