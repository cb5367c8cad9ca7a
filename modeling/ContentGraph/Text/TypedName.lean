/-!
# Typed field names

A field may name the type it links to: `author___Person` is the field
`author` and links to a `Person`. The name is cut at every separator, from
left to right, and what stands after the first one is the type.
-/

namespace ContentGraph.Text

/-- What stands before the first separator, and what stands after it, if
there is one. The separator is a run of three low lines; of a longer run the
first three count. -/
def splitAtSeparator : List Char → List Char × Option (List Char)
  | '_' :: '_' :: '_' :: rest => ([], some rest)
  | [] => ([], none)
  | c :: rest => ((c :: (splitAtSeparator rest).1), (splitAtSeparator rest).2)

/-- The type that a field name ends in, before it is capitalized. A name
without a separator, or with nothing between its first two, has none. -/
def typeSuffixCharacters (name : List Char) : Option (List Char) :=
  match (splitAtSeparator name).2 with
  | none => none
  | some rest =>
    match (splitAtSeparator rest).1 with
    | [] => none
    | target => some target

/-- The type that a field name ends in, before it is capitalized. -/
def typeSuffix? (name : String) : Option String :=
  (typeSuffixCharacters name.toList).map String.ofList

end ContentGraph.Text
