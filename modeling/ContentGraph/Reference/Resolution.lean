import ContentGraph.Value.Display

/-!
# Outcomes of following a reference

Following a reference ends with a node, found by one of three rules, or
without one: because the value names no node that exists, or because it is
empty. Only the outcomes of the first sort carry a node, and they always do.
-/

namespace ContentGraph

/-- The rule by which the node of a reference was found. -/
inductive LinkRule where
  /-- The value names a file. -/
  | fileLink
  /-- The value is the identifier of a node of the type linked to. -/
  | directId
  /-- The value is a path, and the type linked to is that of files. -/
  | pathFallback
deriving DecidableEq, Repr

/-- How following a reference ended, with a node of some form. -/
inductive Outcome (α : Type) where
  /-- At a node. -/
  | linked (rule : LinkRule) (node : α)
  /-- At no node, although there is a value. -/
  | unresolved
  /-- At no value. -/
  | empty
deriving DecidableEq, Repr

/-- The result of following a reference. -/
structure Resolution (α : Type) where
  /-- How it ended. -/
  outcome : Outcome α
  /-- The type linked to, as far as it is known. -/
  targetType : Option String
  /-- The path that was tried, if any. -/
  linkPath : Option String
deriving DecidableEq, Repr

/-- The outcomes of following a reference, without their nodes. -/
inductive ResolutionKind where
  | linked (rule : LinkRule)
  | unresolved
  | empty
deriving DecidableEq, Repr

namespace ResolutionKind

/-- All kinds of outcomes. -/
def all : List ResolutionKind :=
  [linked .fileLink, linked .directId, linked .pathFallback, unresolved, empty]

/-- The name of a kind. -/
def name : ResolutionKind → String
  | linked .fileLink => "file_link"
  | linked .directId => "direct_id"
  | linked .pathFallback => "path_fallback"
  | unresolved => "unresolved"
  | empty => "empty"

end ResolutionKind

/-- Why something is no result of following a reference. -/
inductive ResolutionError where
  /-- A value is not the name of a kind. -/
  | unknownKind (given : Value)
  /-- A node is missing. -/
  | nodeRequired (kind : ResolutionKind)
  /-- A node is too much. -/
  | nodeForbidden (kind : ResolutionKind)
deriving DecidableEq

namespace ResolutionError

/-- The wording of an error. -/
def message : ResolutionError → String
  | unknownKind given => given.shown ++ " is not a valid ResolutionKind"
  | nodeRequired kind => kind.name ++ " resolution requires a node"
  | nodeForbidden kind => kind.name ++ " resolution must not carry a node"

end ResolutionError

/-- The kind of outcome that a value names. -/
def ResolutionKind.ofValue (v : Value) : Except ResolutionError ResolutionKind :=
  match v.string?.bind fun s => all.find? fun kind => kind.name == s with
  | some kind => .ok kind
  | none => .error (.unknownKind v)

namespace Outcome

/-- The outcome of a kind, with a node or without. -/
def make {α : Type} (kind : ResolutionKind) (node : Option α) :
    Except ResolutionError (Outcome α) :=
  match kind, node with
  | .linked rule, some n => .ok (.linked rule n)
  | .linked _, none => .error (.nodeRequired kind)
  | .unresolved, none => .ok .unresolved
  | .empty, none => .ok .empty
  | _, some _ => .error (.nodeForbidden kind)

/-- The kind of an outcome. -/
def kind {α : Type} : Outcome α → ResolutionKind
  | linked rule _ => .linked rule
  | unresolved => .unresolved
  | empty => .empty

/-- The node of an outcome, if it has one. -/
def node? {α : Type} : Outcome α → Option α
  | linked _ n => some n
  | _ => none

/-- Every outcome can be made from its kind and its node. -/
theorem make_kind_node? {α : Type} (o : Outcome α) : make o.kind o.node? = .ok o := by
  cases o <;> rfl

end Outcome

end ContentGraph
