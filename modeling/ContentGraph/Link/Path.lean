/-!
# Paths of linked files

A link is followed from the directory of the file it stands in, and this from the
working directory if it is not absolute. The path is brought to a normal form, in
which no component is empty, `.` or `..`; at the root, `..` stays at the root. A
path that begins with exactly two slashes keeps them.
-/

namespace ContentGraph.Path

/-- The stretches between slashes, empty ones included. -/
def components : List Char → List (List Char)
  | [] => [[]]
  | c :: rest =>
    if c = '/' then [] :: components rest
    else
      match components rest with
      | [] => [[c]]
      | component :: more => (c :: component) :: more

/-- One step along a path, from the components above it, the nearest first. -/
def step (above : List (List Char)) (component : List Char) : List (List Char) :=
  if component = [] ∨ component = ['.'] then above
  else if component = ['.', '.'] then above.tail
  else component :: above

/-- The components of an absolute path in normal form. -/
def normalComponents (path : List Char) : List (List Char) :=
  ((components path).foldl step []).reverse

/-- The slashes an absolute path begins with in normal form: one, unless it
begins with exactly two. -/
def root : List Char → List Char
  | '/' :: '/' :: '/' :: _ => ['/']
  | '/' :: '/' :: _ => ['/', '/']
  | _ => ['/']

/-- Components with a slash between them. -/
def joinComponents : List (List Char) → List Char
  | [] => []
  | [component] => component
  | component :: rest => component ++ '/' :: joinComponents rest

/-- An absolute path in normal form. -/
def normal (path : List Char) : List Char :=
  root path ++ joinComponents (normalComponents path)

/-- Whether a path starts at the root. -/
def isAbsolute (path : List Char) : Bool := path.head? == some '/'

/-- A path followed from a directory: an absolute one replaces it. -/
def join (directory path : List Char) : List Char :=
  if isAbsolute path || directory.isEmpty then path
  else if directory.getLast? = some '/' then directory ++ path
  else directory ++ '/' :: path

/-- The normal form of a path followed from a directory, which itself is
taken from the working directory. -/
def resolveCharacters (working directory path : List Char) : List Char :=
  normal (join working (join directory path))

/-- The normal form of a path followed from a directory. -/
def resolve (working directory path : String) : String :=
  String.ofList (resolveCharacters working.toList directory.toList path.toList)

end ContentGraph.Path
