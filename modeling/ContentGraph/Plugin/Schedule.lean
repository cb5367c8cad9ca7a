import ContentGraph.Plugin

/-!
# Extending all types side by side

Every type has a task, which asks the plugins in the order in which they are
registered. The tasks start together, in the order of the groups. A task runs
until a hook suspends; when every task has finished or is suspended, the
suspended ones are resumed once each, round by round, in their order. So a
type finishes the earlier the less its hooks suspend, and types with the same
number of suspensions finish in the order of the groups. The first failure
ends all.

A round takes one suspension off every task that is left, which bounds the
number of rounds.
-/

namespace ContentGraph

/-- A task that is suspended in a hook. -/
structure SuspendedTask where
  /-- The type with its nodes. -/
  group : Group
  /-- How many more rounds the hook stays suspended after the next one. -/
  roundsAfter : Nat
  /-- The plugin of the hook. -/
  plugin : String
  /-- The hook. -/
  hook : Hook
  /-- The plugins still to be asked. -/
  rest : List Plugin
  /-- The maps collected so far. -/
  maps : List FieldMap

/-- A type for which all plugins have answered. -/
structure ExtendedType where
  /-- The type with its nodes. -/
  group : Group
  /-- The maps that are not empty, in the order of the plugins. -/
  maps : List FieldMap

/-- Where a task stands after it has run. -/
inductive TaskState where
  | suspended (task : SuspendedTask)
  | finished (type : ExtendedType)
  | failed (error : ExtensionError)

namespace Schedule

/-- The suspensions that plugins have left for a type. -/
def suspensionsLeft (type : String) : List Plugin → Nat
  | [] => 0
  | p :: rest =>
    (match p.hook with
      | some hook => hook.suspensions type
      | none => 0) + suspensionsLeft type rest

/-- The suspensions that a suspended task has left. -/
def weight (t : SuspendedTask) : Nat := t.roundsAfter + 1 + suspensionsLeft t.group.type t.rest

/-- The suspensions that suspended tasks have left together. -/
def totalWeight : List SuspendedTask → Nat
  | [] => 0
  | t :: rest => weight t + totalWeight rest

/-- Asks plugins one after the other, until one suspends or fails. -/
def ask (allNodes : List Member) (group : Group) :
    List Plugin → List FieldMap → TaskState × List PluginCall
  | [], maps => (.finished ⟨group, maps⟩, [])
  | p :: rest, maps =>
    match p.hook with
    | none => ask allNodes group rest maps
    | some hook =>
      let call := p.callFor allNodes group
      match hook.suspensions group.type with
      | n + 1 => (.suspended ⟨group, n, p.name, hook, rest, maps⟩, [call])
      | 0 =>
        match (hook.answer group.type).result p.name group.type with
        | .error e => (.failed e, [call])
        | .ok fields =>
          let (state, calls) := ask allNodes group rest (collectMap maps fields)
          (state, call :: calls)

/-- Resumes a suspended task. -/
def resume (allNodes : List Member) (t : SuspendedTask) : TaskState × List PluginCall :=
  match t.roundsAfter with
  | n + 1 => (.suspended { t with roundsAfter := n }, [])
  | 0 =>
    match (t.hook.answer t.group.type).result t.plugin t.group.type with
    | .error e => (.failed e, [])
    | .ok fields => ask allNodes t.group t.rest (collectMap t.maps fields)

/-- What the tasks of one round came to. -/
structure RoundResult where
  /-- The tasks that are suspended again. -/
  suspended : List SuspendedTask
  /-- The types that are finished. -/
  finished : List ExtendedType
  /-- The calls made. -/
  calls : List PluginCall

/-- Adds what a task came to in front of the others of its round. -/
def RoundResult.add (state : TaskState) (calls : List PluginCall) (r : RoundResult) :
    Except ExtensionError RoundResult :=
  match state with
  | .suspended t => .ok { r with suspended := t :: r.suspended, calls := calls ++ r.calls }
  | .finished e => .ok { r with finished := e :: r.finished, calls := calls ++ r.calls }
  | .failed e => .error e

/-- One round: the states of the tasks in their order, up to the first that
failed. -/
def gather : List (TaskState × List PluginCall) → Except ExtensionError RoundResult
  | [] => .ok ⟨[], [], []⟩
  | (.failed e, _) :: _ => .error e
  | (state, calls) :: rest => (gather rest).bind (RoundResult.add state calls)

theorem weight_ask {allNodes : List Member} {group : Group} {t : SuspendedTask}
    (plugins : List Plugin) (maps : List FieldMap)
    (h : (ask allNodes group plugins maps).1 = .suspended t) :
    weight t ≤ suspensionsLeft group.type plugins := by
  induction plugins generalizing maps with
  | nil => simp [ask] at h
  | cons p rest ih =>
    unfold ask at h
    unfold suspensionsLeft
    cases hp : p.hook with
    | none =>
      simp only [hp] at h ⊢
      have := ih maps h
      omega
    | some hook =>
      simp only [hp] at h ⊢
      cases hs : hook.suspensions group.type with
      | succ n =>
        simp only [hs] at h
        cases h
        simp [weight]
      | zero =>
        simp only [hs] at h
        cases hr : (hook.answer group.type).result p.name group.type with
        | error e => simp [hr] at h
        | ok fields =>
          simp only [hr] at h
          have := ih _ h
          omega

theorem weight_resume {allNodes : List Member} {s t : SuspendedTask}
    (h : (resume allNodes s).1 = .suspended t) : weight t < weight s := by
  unfold resume at h
  cases hr : s.roundsAfter with
  | succ n =>
    simp only [hr] at h
    cases h
    simp [weight, hr]
  | zero =>
    simp only [hr] at h
    cases ha : (s.hook.answer s.group.type).result s.plugin s.group.type with
    | error e => simp [ha] at h
    | ok fields =>
      simp only [ha] at h
      have := weight_ask _ _ h
      simp only [weight, hr] at this ⊢
      omega

theorem weight_gather {allNodes : List Member} (tasks : List SuspendedTask) {r : RoundResult}
    (h : gather (tasks.map (resume allNodes)) = .ok r) :
    totalWeight r.suspended ≤ totalWeight tasks
      ∧ (tasks ≠ [] → totalWeight r.suspended < totalWeight tasks) := by
  induction tasks generalizing r with
  | nil =>
    simp only [List.map_nil, gather, Except.ok.injEq] at h
    subst h
    simp
  | cons t rest ih =>
    rw [List.map_cons] at h
    rcases hs : resume allNodes t with ⟨state, calls⟩
    rw [hs] at h
    have hw : 0 < weight t := by unfold weight; omega
    cases hg : gather (rest.map (resume allNodes)) with
    | error e => cases state <;> simp [gather, hg, Except.bind] at h
    | ok r' =>
      have ih' := (ih hg).1
      cases state with
      | failed e => simp [gather] at h
      | finished e =>
        simp only [gather, hg, Except.bind, RoundResult.add, Except.ok.injEq] at h
        subst h
        simp only [totalWeight]
        omega
      | suspended u =>
        have hu := weight_resume (s := t) (by rw [hs])
        simp only [gather, hg, Except.bind, RoundResult.add, Except.ok.injEq] at h
        subst h
        simp only [totalWeight]
        omega

/-- What came of all rounds. -/
structure Result where
  /-- The types, in the order in which they were finished. -/
  finished : List ExtendedType
  /-- The calls, in the order in which they were made. -/
  calls : List PluginCall

/-- Resumes tasks round by round until all are finished. -/
def rounds (allNodes : List Member) (tasks : List SuspendedTask) : Except ExtensionError Result :=
  if hne : tasks = [] then .ok ⟨[], []⟩
  else
    match h : gather (tasks.map (resume allNodes)) with
    | .error e => .error e
    | .ok r =>
      have := (weight_gather tasks h).2 hne
      (rounds allNodes r.suspended).map fun later =>
        ⟨r.finished ++ later.finished, r.calls ++ later.calls⟩
termination_by totalWeight tasks

/-- Asks all plugins about all types. -/
def run (allNodes : List Member) (plugins : List Plugin) (groups : List Group) :
    Except ExtensionError Result := do
  let r ← gather (groups.map fun g => ask allNodes g plugins [])
  let later ← rounds allNodes r.suspended
  return ⟨r.finished ++ later.finished, r.calls ++ later.calls⟩

end Schedule

end ContentGraph
