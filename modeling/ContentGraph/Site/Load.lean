import ContentGraph.Document.File
import ContentGraph.Document.FileName
import ContentGraph.Site

/-!
# Loading a site configuration

A configuration is a map in a YAML file, whatever the name of the file. A
document that counts as false is an empty one.
-/

namespace ContentGraph

/-- Why no configuration was loaded. -/
inductive SiteLoadError where
  /-- There is no document under a name. -/
  | file (name : String) (error : Document.FileError)
  /-- The document is no map. -/
  | notAMap (name : String)
  /-- The map is no configuration. -/
  | site (error : SiteError)
deriving DecidableEq

namespace SiteLoadError

/-- The wording of an error. -/
def message : SiteLoadError → String
  | file name .notFound => "Site config file not found: " ++ name
  | file name error =>
    if error.blamesFile then "Failed to read site config " ++ name ++ ": " ++ error.message
    else error.message
  | notAMap name => "Site config " ++ name ++ " must be a mapping"
  | site error => error.message

end SiteLoadError

namespace SiteConfig

/-- The configuration in the document found under a name, with room for some
levels of nesting. -/
def load (room : Nat) (name : String) (found : Document.Found) :
    Except SiteLoadError SiteConfig := do
  let shown := Document.FileName.shown name
  let document ← (found.read room .yaml).mapError (SiteLoadError.file shown)
  let document := if document.isFalsy then .map [] else document
  if document.isMap then (ofValue document).mapError .site else throw (.notAMap shown)

end SiteConfig

end ContentGraph
