import ContentGraph.Plugin.Schedule
import ContentGraph.Registry

/-!
# Building the registry

The nodes are grouped by type, every type is extended by the plugins, and
what comes of it is registered as the types are finished. A build is all or
nothing: two types with one key, or one plugin that fails, and there is no
registry. The keys are compared before any plugin is asked.
-/

namespace ContentGraph

/-- Where the fields that are added to a type come from. -/
inductive Extension where
  /-- From plugins, all types being extended side by side. -/
  | plugins (plugins : List Plugin)
  /-- From a single source of a name, which gives maps for each type at
  once. -/
  | source (name : String) (maps : String → List (Option FieldMap))

/-- What a registry is built from, beside the nodes. -/
structure BuildOptions where
  /-- Where added fields come from. -/
  extension : Extension := .plugins []
  /-- The configuration of the site. -/
  config : SiteConfig := .empty
  /-- How types are inferred and nodes looked up. -/
  engine : Engine := .standard

/-- Why there is no registry. -/
inductive BuildError where
  /-- Two types have one key. -/
  | sameKey (first second key : String)
  /-- A plugin failed. -/
  | extensionFailed (error : ExtensionError)
deriving DecidableEq, Repr

namespace BuildError

/-- The wording of an error. -/
def message : BuildError → String
  | sameKey first second key =>
    "Node types '" ++ first ++ "' and '" ++ second ++ "' both normalize to '" ++ key ++ "'"
  | extensionFailed error => error.message

end BuildError

/-- What a build comes to. -/
structure Build where
  /-- The registry. -/
  registry : Registry
  /-- The calls of plugins, in the order in which they were made. -/
  calls : List PluginCall

namespace Build

/-- Looks for two types with one key, given the types seen before. -/
def checkKeysAfter (seen : List String) : List String → Except BuildError Unit
  | [] => .ok ()
  | type :: rest =>
    match seen.find? fun other => Text.camelCase other == Text.camelCase type with
    | some other => .error (.sameKey other type (Text.camelCase type))
    | none => checkKeysAfter (seen ++ [type]) rest

/-- Checks that types have different keys. -/
def checkKeys (types : List String) : Except BuildError Unit := checkKeysAfter [] types

/-- A type that is finished, once the maps added to it are known. -/
def finish (engine : Engine) (group : Group) (maps : List (Option FieldMap)) : TypeDescriptor :=
  { group
    pluginFields := FieldMap.merge maps
    arguments := engine.arguments (group.members.map (·.node)) }

/-- All types in the order in which they are finished, with the calls made. -/
def finishAll (engine : Engine) (allNodes : List Member) (groups : List Group) :
    Extension → Except BuildError (List TypeDescriptor × List PluginCall)
  | .plugins plugins =>
    match Schedule.run allNodes plugins groups with
    | .error e => .error (.extensionFailed e)
    | .ok result =>
      .ok (result.finished.map fun e => finish engine e.group (e.maps.map some), result.calls)
  | .source name maps =>
    .ok (groups.map fun g => finish engine g (maps g.type),
      groups.map fun g => ⟨name, g.type, g.members, allNodes⟩)

/-- Builds the registry of a collection. -/
def run (nodes : Collection) (options : BuildOptions) : Except BuildError Build := do
  let groups := nodes.groups
  checkKeys (groups.map (·.type))
  let (descriptors, calls) ← finishAll options.engine nodes.members groups options.extension
  return ⟨⟨descriptors, ⟨nodes, options.config⟩, options.engine⟩, calls⟩

/-- What is noted when a type is finished. -/
def typeNotes (r : Registry) (d : TypeDescriptor) : List LogEntry :=
  r.engine.argumentNotes d.nodes
    ++ [⟨.debug, "Built node type " ++ d.name ++ " (" ++ toString d.members.length ++ " nodes)"⟩]

/-- What is noted of a build that came to a registry. -/
def notes (b : Build) : List LogEntry :=
  b.registry.descriptors.flatMap (typeNotes b.registry)
    ++ [⟨.info, "Built " ++ toString b.registry.size ++ " node types from "
          ++ toString b.registry.context.nodes.size ++ " nodes"⟩]

end Build

end ContentGraph
