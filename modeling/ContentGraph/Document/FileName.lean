import ContentGraph.Document.Error
import ContentGraph.Link.Path
import ContentGraph.Text.Case

/-!
# Names of document files

How the name of a file is shown, and which notation it says the file is in. A
name is shown without empty components and without those that stay in place;
steps to a parent are kept, because a link may stand in the way.
-/

namespace ContentGraph.Document.FileName

/-- The components of a name that lead somewhere. -/
def components (name : List Char) : List (List Char) :=
  (Path.components name).filter fun component => component ≠ [] ∧ component ≠ ['.']

/-- A name as it is shown; one without components is that of the directory
itself. -/
def shown (name : String) : String :=
  let characters := name.toList
  let start := if Path.isAbsolute characters then Path.root characters else []
  let shown := start ++ Path.joinComponents (components characters)
  if shown.isEmpty then "." else String.ofList shown

/-- The end of a component from its last point on. A point at either end of
the component begins none. -/
def ending (component : List Char) : List Char :=
  let after := (component.reverse.takeWhile (· ≠ '.')).reverse
  let before := component.length - after.length - 1
  if after.length = component.length ∨ before = 0 ∨ after.isEmpty then [] else '.' :: after

/-- The end of the last component of a name from its last point on. -/
def suffix (name : String) : String :=
  String.ofList (ending ((components name.toList).getLast?.getD []))

/-- The notation of a file by its name. -/
def format (name : String) : Format :=
  if [".yaml", ".yml"].contains (Text.toLower (suffix name)) then .yaml else .json

end ContentGraph.Document.FileName
