import ContentGraph.Node.Grouping
import ContentGraph.Schema.Field

/-!
# Plugins

A plugin may add fields to a type while the type is built. Its hook is asked
once for each type; it may suspend a number of times before it answers, and
the answer is a field map or a failure. What a hook does depends on nothing
but the type, so a plugin is given by its answers.
-/

namespace ContentGraph

/-- What a hook does for a type. -/
inductive HookAnswer where
  /-- It adds fields; often none. -/
  | adds (fields : FieldMap)
  /-- It fails, with an error of some kind that says something. -/
  | fails (kind text : String)
  /-- It asks for the fields of the type, which are not known yet. -/
  | asksForFields

/-- The hook of a plugin. -/
structure Hook where
  /-- How often it suspends before it answers for a type. -/
  suspensions : String → Nat
  /-- What it does for a type. -/
  answer : String → HookAnswer

/-- A plugin; one without a hook is never asked. -/
structure Plugin where
  /-- The name of the plugin. -/
  name : String
  /-- Its hook, if it has one. -/
  hook : Option Hook

/-- That a plugin was asked about a type. -/
structure PluginCall where
  /-- The name of the plugin. -/
  plugin : String
  /-- The type. -/
  type : String
  /-- The nodes of the type that the plugin was shown. -/
  typeNodes : List Member
  /-- The nodes that it was shown in all. -/
  allNodes : List Member
deriving DecidableEq

/-- That a plugin failed for a type. -/
structure ExtensionError where
  /-- The type. -/
  type : String
  /-- The name of the plugin. -/
  plugin : String
  /-- The kind of the plugin's own error. -/
  kind : String
  /-- What the plugin's own error says. -/
  text : String
deriving DecidableEq, Repr

namespace ExtensionError

/-- The wording of an error. -/
def message (e : ExtensionError) : String :=
  "Failed to extend node type '" ++ e.type ++ "': " ++ e.plugin ++ ": " ++ e.text

end ExtensionError

/-- The answer of a hook as fields or as an error. -/
def HookAnswer.result (plugin type : String) : HookAnswer → Except ExtensionError FieldMap
  | adds fields => .ok fields
  | fails kind text => .error ⟨type, plugin, kind, text⟩
  | asksForFields =>
    .error ⟨type, plugin, "ValueError", "Type '" ++ type ++ "' has no object type yet"⟩

/-- The maps collected so far with one more, unless it adds nothing. -/
def collectMap (maps : List FieldMap) (fields : FieldMap) : List FieldMap :=
  if fields.isEmpty then maps else maps ++ [fields]

namespace Plugin

/-- The call of a plugin about a type. -/
def callFor (allNodes : List Member) (group : Group) (p : Plugin) : PluginCall :=
  ⟨p.name, group.type, group.members, allNodes⟩

/-- Asks plugins about one type, one after the other and up to the first that
fails: the maps that are not empty, after those collected before, and the
calls made. How often a hook suspends does not matter when nothing else
runs. -/
def collect (allNodes : List Member) (group : Group) :
    List Plugin → List FieldMap → Except ExtensionError (List FieldMap) × List PluginCall
  | [], maps => (.ok maps, [])
  | p :: rest, maps =>
    match p.hook with
    | none => collect allNodes group rest maps
    | some hook =>
      match (hook.answer group.type).result p.name group.type with
      | .error e => (.error e, [callFor allNodes group p])
      | .ok fields =>
        let (maps, calls) := collect allNodes group rest (collectMap maps fields)
        (maps, callFor allNodes group p :: calls)

/-- The map that plugins add to a type together: of several fields of one
name the one of the last plugin counts. -/
def merged (maps : List FieldMap) : FieldMap := FieldMap.merge (maps.map some)

end Plugin

end ContentGraph
