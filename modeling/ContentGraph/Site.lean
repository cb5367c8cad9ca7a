import ContentGraph.Value.Display

/-!
# Site configuration

What a site says about its content beyond the nodes themselves. A field may
be mapped to the type it links to, by a selector that names the field together
with the type or the path of its node. Everything else in a configuration is
kept as it is.
-/

namespace ContentGraph

/-- The configuration of a site. -/
structure SiteConfig where
  /-- Selectors of fields with the types that they link to. -/
  mapping : List (String × String)
  /-- Everything else. -/
  extra : Entries

/-- Why a value is no configuration. -/
inductive SiteError where
  /-- The value is no map. -/
  | notAMap
  /-- What should map selectors to types is no map. -/
  | badMapping
deriving DecidableEq, Repr

namespace SiteError

/-- The wording of an error. -/
def message : SiteError → String
  | notAMap => "Site config must be a mapping"
  | badMapping => "Site config 'mapping' must be a mapping of selector to type"

end SiteError

namespace SiteConfig

/-- The configuration that says nothing. -/
def empty : SiteConfig := ⟨[], []⟩

/-- A type put under a selector: a selector that is there keeps its place. -/
def putSelector (selector type : String) : List (String × String) → List (String × String)
  | [] => [(selector, type)]
  | (s, t) :: rest =>
    if s = selector then (s, type) :: rest else (s, t) :: putSelector selector type rest

/-- The mapping that entries spell; selectors and types are turned into
text. -/
def mappingOf (entries : Entries) : List (String × String) :=
  entries.foldl (fun mapping entry => putSelector entry.1.text entry.2.text mapping) []

/-- The configuration that a value spells. A mapping that counts as false is
none. -/
def ofValue : Value → Except SiteError SiteConfig
  | .map entries =>
    let extra := entries.filter fun entry => entry.1 ≠ .string "mapping"
    let mapping := (Entries.get? "mapping" entries).getD .null
    if mapping.isFalsy then .ok ⟨[], extra⟩
    else
      match mapping with
      | .map selectors => .ok ⟨mappingOf selectors, extra⟩
      | _ => .error .badMapping
  | _ => .error .notAMap

/-- The type of the first selector that is mapped. A selector that is missing
or empty is none. -/
def mappedType? (config : SiteConfig) : List (Option String) → Option String
  | [] => none
  | none :: rest => mappedType? config rest
  | some selector :: rest =>
    if selector = "" then mappedType? config rest
    else
      match config.mapping.lookup selector with
      | some type => some type
      | none => mappedType? config rest

end SiteConfig

end ContentGraph
