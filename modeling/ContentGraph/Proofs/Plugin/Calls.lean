import ContentGraph.Proofs.Plugin.Failure
import Mathlib.Data.List.Nodup

/-!
# The calls of plugins

A plugin may count its calls or open a file at each of them, so it matters how
often it is asked. Alone, a type asks the plugins that have a hook in their order,
all of them (`Plugin.collect_eq_ok`) or those up to the first that fails
(`Plugin.collect_of_failsWith`).

Side by side, the calls about one type are mixed with those about the others, and
between two of them there may be any number of rounds. What is invariant is the
calls that a task has made together with those that it has left: asking plugins
until one suspends, and resuming a task, move calls from the second to the first
and change nothing else (`Schedule.calls_ask`, `Schedule.calls_resume`). The calls
about a type, picked from all calls, are therefore those of its own task
(`Schedule.callsAbout_run`), if no two tasks have one type.
-/

namespace ContentGraph

namespace Plugin

variable {allNodes : List Member} {group : Group}

theorem callsFor_append (before after : List Plugin) :
    callsFor allNodes group (before ++ after)
      = callsFor allNodes group before ++ callsFor allNodes group after := by
  rw [callsFor, List.filter_append, List.map_append, callsFor, callsFor]

theorem type_of_mem_callsFor {plugins : List Plugin} {call : PluginCall}
    (h : call ∈ callsFor allNodes group plugins) : call.type = group.type := by
  obtain ⟨p, -, rfl⟩ := List.mem_map.1 h
  rfl

/-! ## One type alone -/

/-- **If a plugin fails for a type, those up to the first that fails are asked**, and
none after it. -/
theorem collect_of_failsWith {before after : List Plugin} {p : Plugin} {e : ExtensionError}
    (hbefore : ∀ q ∈ before, q.Answers group.type) (hp : p.FailsWith group.type e) :
    collect allNodes group (before ++ p :: after) []
      = (.error e, callsFor allNodes group (before ++ [p])) := by
  obtain ⟨hook, hhook, hresult⟩ := hp
  rw [collect_append hbefore, collect]
  simp only [hhook, hresult, callsFor_append, callsFor_cons_of_some hhook]
  rfl

/-- If plugins fail for a type, one of them is the first to fail. -/
theorem exists_first_failsWith {type : String} {plugins : List Plugin}
    (h : ∃ p ∈ plugins, ∃ e, p.FailsWith type e) :
    ∃ before p after e, plugins = before ++ p :: after
      ∧ (∀ q ∈ before, ∀ e, ¬ q.FailsWith type e) ∧ p.FailsWith type e := by
  cases hfailure : failure? type plugins with
  | none =>
    obtain ⟨p, hp, e, he⟩ := h
    exact absurd he (failure?_eq_none_iff.1 hfailure p hp e)
  | some f =>
    obtain ⟨before, p, after, heq, hbefore, hp, -⟩ := failure?_eq_some_iff.1 hfailure
    exact ⟨before, p, after, f.error, heq, hbefore, hp⟩

end Plugin

/-! ## Types side by side -/

/-- The calls that a suspended task has left. -/
def SuspendedTask.callsLeft (allNodes : List Member) (t : SuspendedTask) : List PluginCall :=
  Plugin.callsFor allNodes t.group t.rest

/-- The task that is suspended, if it is. -/
def TaskState.suspended? : TaskState → Option SuspendedTask
  | .suspended t => some t
  | _ => none

/-- The calls that a task has left, wherever it stands. -/
def TaskState.callsLeft (allNodes : List Member) (state : TaskState) : List PluginCall :=
  state.suspended?.toList.flatMap (SuspendedTask.callsLeft allNodes)

namespace Schedule

open Plugin

variable {allNodes : List Member}

/-! ### Tasks -/

theorem group_of_ask_eq_suspended {group : Group} {plugins : List Plugin} {maps : List FieldMap}
    {t : SuspendedTask} (h : (ask allNodes group plugins maps).1 = .suspended t) :
    t.group = group := by
  induction plugins generalizing maps with
  | nil => cases h
  | cons p rest ih =>
    obtain ⟨-, hask⟩ | ⟨hook, -, ⟨n, -, hask⟩ | ⟨-, ⟨e, -, hask⟩ | ⟨fields, -, hask⟩⟩⟩ :=
      ask_cons_cases allNodes group p rest maps
    · exact ih (hask ▸ h)
    · rw [hask] at h
      cases h
      rfl
    · rw [hask] at h
      cases h
    · rw [hask] at h
      exact ih h

theorem group_of_resume_eq_suspended {s t : SuspendedTask}
    (h : (resume allNodes s).1 = .suspended t) : t.group = s.group := by
  obtain ⟨n, -, hresume⟩ | ⟨-, ⟨e, -, hresume⟩ | ⟨fields, -, hresume⟩⟩ :=
    resume_cases allNodes s
  · rw [hresume] at h
    cases h
    rfl
  · rw [hresume] at h
    cases h
  · exact group_of_ask_eq_suspended (hresume ▸ h)

/-- **Asking plugins until one suspends makes the first of the calls** and leaves the
others, unless one fails. -/
theorem calls_ask {group : Group} {plugins : List Plugin} {maps : List FieldMap}
    (h : ∀ e, (ask allNodes group plugins maps).1 ≠ .failed e) :
    (ask allNodes group plugins maps).2 ++ (ask allNodes group plugins maps).1.callsLeft allNodes
      = callsFor allNodes group plugins := by
  induction plugins generalizing maps with
  | nil => rfl
  | cons p rest ih =>
    obtain ⟨hp, hask⟩ | ⟨hook, hp, ⟨n, -, hask⟩ | ⟨-, ⟨e, -, hask⟩ | ⟨fields, -, hask⟩⟩⟩ :=
      ask_cons_cases allNodes group p rest maps
    · rw [hask] at h ⊢
      rw [ih h, callsFor_cons_of_none hp]
    · rw [hask, callsFor_cons_of_some hp]
      exact congrArg (_ :: ·) (List.append_nil _)
    · exact absurd (congrArg Prod.fst hask) (h e)
    · rw [hask] at h ⊢
      rw [callsFor_cons_of_some hp, ← ih h]
      rfl

/-- **Resuming a task makes the next of the calls that it has left**, unless one
fails. -/
theorem calls_resume {t : SuspendedTask} (h : ∀ e, (resume allNodes t).1 ≠ .failed e) :
    (resume allNodes t).2 ++ (resume allNodes t).1.callsLeft allNodes = t.callsLeft allNodes := by
  obtain ⟨n, -, hresume⟩ | ⟨-, ⟨e, -, hresume⟩ | ⟨fields, -, hresume⟩⟩ :=
    resume_cases allNodes t
  · rw [hresume]
    exact List.append_nil _
  · exact absurd (congrArg Prod.fst hresume) (h e)
  · rw [hresume] at h ⊢
    exact calls_ask h

/-! ### Rounds -/

/-- The calls about a type. -/
def callsAbout (type : String) (calls : List PluginCall) : List PluginCall :=
  calls.filter fun call => call.type == type

theorem callsAbout_append (type : String) (calls others : List PluginCall) :
    callsAbout type (calls ++ others) = callsAbout type calls ++ callsAbout type others :=
  List.filter_append ..

theorem callsAbout_eq_self {type : String} {calls : List PluginCall}
    (h : ∀ call ∈ calls, call.type = type) : callsAbout type calls = calls :=
  List.filter_eq_self.2 fun call hcall => beq_iff_eq.2 (h call hcall)

theorem callsAbout_eq_nil {type : String} {calls : List PluginCall}
    (h : ∀ call ∈ calls, call.type ≠ type) : callsAbout type calls = [] :=
  List.filter_eq_nil_iff.2 fun call hcall heq => h call hcall (beq_iff_eq.1 heq)

/-- **If a round goes well, none of its tasks has failed**, and what the first task came
to stands before what came of the others. -/
theorem gather_cons_eq_ok {x : TaskState × List PluginCall}
    {rest : List (TaskState × List PluginCall)} {r : RoundResult}
    (h : gather (x :: rest) = .ok r) :
    ∃ later, gather rest = .ok later ∧ (∀ e, x.1 ≠ .failed e)
      ∧ r.suspended = x.1.suspended?.toList ++ later.suspended
      ∧ r.calls = x.2 ++ later.calls := by
  obtain ⟨state, calls⟩ := x
  cases state with
  | failed e => cases h
  | suspended t =>
    simp only [gather] at h
    cases hrest : gather rest with
    | error e => rw [hrest] at h; cases h
    | ok later =>
      rw [hrest] at h
      cases h
      exact ⟨later, rfl, fun _ => TaskState.noConfusion, rfl, rfl⟩
  | finished e =>
    simp only [gather] at h
    cases hrest : gather rest with
    | error e => rw [hrest] at h; cases h
    | ok later =>
      rw [hrest] at h
      cases h
      exact ⟨later, rfl, fun _ => TaskState.noConfusion, rfl, rfl⟩

/-- **Tasks that keep to their calls**: a task makes the first of them and leaves the
others, unless it fails, all of them are about its type, and if it is suspended it
stays with its type. -/
structure KeepsCalls {α : Type} (allNodes : List Member) (f : α → TaskState × List PluginCall)
    (type : α → String) (calls : α → List PluginCall) : Prop where
  /-- The calls made and those left are all. -/
  append_eq : ∀ a, (∀ e, (f a).1 ≠ .failed e) → (f a).2 ++ (f a).1.callsLeft allNodes = calls a
  /-- They are about the type of the task. -/
  type_of_mem : ∀ a, ∀ call ∈ calls a, call.type = type a
  /-- A task that is suspended stays with its type. -/
  type_of_suspended : ∀ a t, (f a).1 = .suspended t → t.group.type = type a

theorem keepsCalls_ask (plugins : List Plugin) :
    KeepsCalls allNodes (fun g => ask allNodes g plugins []) Group.type
      (fun g => callsFor allNodes g plugins) where
  append_eq _ h := calls_ask h
  type_of_mem _ _ h := type_of_mem_callsFor h
  type_of_suspended _ _ h := congrArg Group.type (group_of_ask_eq_suspended h)

theorem keepsCalls_resume :
    KeepsCalls allNodes (resume allNodes) (fun t => t.group.type)
      (SuspendedTask.callsLeft allNodes) where
  append_eq _ h := calls_resume h
  type_of_mem _ _ h := type_of_mem_callsFor h
  type_of_suspended _ _ h := congrArg Group.type (group_of_resume_eq_suspended h)

section KeepsCalls

variable {α : Type} {f : α → TaskState × List PluginCall} {type : α → String}
  {calls : α → List PluginCall} (hf : KeepsCalls allNodes f type calls)
include hf

/-- Tasks with other types have no calls about a type. -/
theorem callsAbout_flatMap_eq_nil {tasks : List α} {about : String}
    (h : ∀ a ∈ tasks, type a ≠ about) : callsAbout about (tasks.flatMap calls) = [] := by
  refine callsAbout_eq_nil fun call hcall heq => ?_
  obtain ⟨a, ha, hcall⟩ := List.mem_flatMap.1 hcall
  exact h a ha ((hf.type_of_mem a call hcall).symm.trans heq)

/-- The tasks that a round suspends have types of its tasks, in their order. -/
theorem types_suspended_sublist {tasks : List α} {r : RoundResult}
    (h : gather (tasks.map f) = .ok r) :
    (r.suspended.map (·.group.type)).Sublist (tasks.map type) := by
  induction tasks generalizing r with
  | nil => cases h; exact .slnil
  | cons a rest ih =>
    obtain ⟨later, hlater, -, hsuspended, -⟩ := gather_cons_eq_ok h
    have hfirst : ((f a).1.suspended?.toList.map (·.group.type)).Sublist [type a] := by
      cases hstate : (f a).1 with
      | suspended t => exact (hf.type_of_suspended a t hstate).symm ▸ .refl _
      | _ => exact List.nil_sublist _
    rw [hsuspended, List.map_append]
    exact hfirst.append (ih hlater)

/-- **A round keeps the calls about each type**: those made in it come first, those
left to the tasks that are suspended after them, and no other task is about the
type. -/
theorem callsAbout_gather {tasks : List α} (hnodup : (tasks.map type).Nodup) {r : RoundResult}
    (h : gather (tasks.map f) = .ok r) (about : String) :
    callsAbout about r.calls
        ++ callsAbout about (r.suspended.flatMap (SuspendedTask.callsLeft allNodes))
      = callsAbout about (tasks.flatMap calls) := by
  induction tasks generalizing r with
  | nil => cases h; rfl
  | cons a rest ih =>
    obtain ⟨hnot, hrest⟩ := List.nodup_cons.1 hnodup
    obtain ⟨later, hlater, hfails, hsuspended, hcalls⟩ := gather_cons_eq_ok h
    have hlater := ih hrest hlater
    rw [hcalls, hsuspended, List.flatMap_append, List.flatMap_cons, ← hf.append_eq a hfails]
    change _ ++ callsAbout about ((f a).1.callsLeft allNodes ++ _) = _
    simp only [callsAbout_append]
    -- The calls about the type are those of this task, or they are those of the others.
    by_cases htype : type a = about
    · have hnone : callsAbout about (rest.flatMap calls) = [] := by
        refine callsAbout_eq_nil fun call hcall heq => ?_
        obtain ⟨b, hb, hcall⟩ := List.mem_flatMap.1 hcall
        have hb' := (hf.type_of_mem b call hcall).symm.trans (heq.trans htype.symm)
        exact hnot (hb' ▸ List.mem_map_of_mem hb)
      rw [hnone, List.append_eq_nil_iff] at hlater
      simp only [hnone, hlater, List.append_nil]
    · have hnone : callsAbout about (calls a) = [] :=
        callsAbout_eq_nil fun call hcall heq => htype ((hf.type_of_mem a call hcall).symm.trans heq)
      rw [← hf.append_eq a hfails, callsAbout_append, List.append_eq_nil_iff] at hnone
      simp only [hnone, List.nil_append, hlater]

end KeepsCalls

/-- **Rounds make the calls that their tasks have left**, those about each type in their
order. -/
theorem callsAbout_rounds {tasks : List SuspendedTask} (hnodup : (tasks.map (·.group.type)).Nodup)
    {r : Result} (h : rounds allNodes tasks = .ok r) (about : String) :
    callsAbout about r.calls
      = callsAbout about (tasks.flatMap (SuspendedTask.callsLeft allNodes)) := by
  -- The induction is on the rounds; `callsAbout_gather` is what one of them does.
  fun_induction rounds allNodes tasks generalizing r with
  | case1 => cases h; rfl
  | case2 tasks hne e hgather => cases h
  | case3 tasks hne round hgather hless ih =>
    cases hlater : rounds allNodes round.suspended with
    | error e => rw [hlater] at h; cases h
    | ok later =>
      rw [hlater] at h
      cases h
      have hsublist := types_suspended_sublist keepsCalls_resume hgather
      rw [callsAbout_append, ih (hsublist.nodup hnodup) hlater]
      exact callsAbout_gather keepsCalls_resume hnodup hgather about

/-- A schedule that ends well is a first round and the rounds after it. -/
theorem exists_rounds_of_run_eq_ok {plugins : List Plugin} {groups : List Group} {r : Result}
    (h : run allNodes plugins groups = .ok r) :
    ∃ round later, gather (groups.map fun g => ask allNodes g plugins []) = .ok round
      ∧ rounds allNodes round.suspended = .ok later
      ∧ r = ⟨round.finished ++ later.finished, round.calls ++ later.calls⟩ := by
  cases hgather : gather (groups.map fun g => ask allNodes g plugins []) with
  | error e => rw [run, hgather] at h; cases h
  | ok round =>
    rw [run, hgather] at h
    change (rounds allNodes round.suspended).bind _ = _ at h
    cases hlater : rounds allNodes round.suspended with
    | error e => rw [hlater] at h; cases h
    | ok later =>
      rw [hlater] at h
      cases h
      exact ⟨round, later, rfl, hlater, rfl⟩

section Run

variable {plugins : List Plugin} {groups : List Group} (hnodup : (groups.map (·.type)).Nodup)
  {r : Result} (h : run allNodes plugins groups = .ok r)
include hnodup h

theorem callsAbout_run_eq (about : String) :
    callsAbout about r.calls
      = callsAbout about (groups.flatMap fun g => callsFor allNodes g plugins) := by
  obtain ⟨round, later, hgather, hlater, rfl⟩ := exists_rounds_of_run_eq_ok h
  have hsublist := types_suspended_sublist (keepsCalls_ask plugins) hgather
  rw [callsAbout_append, callsAbout_rounds (hsublist.nodup hnodup) hlater]
  exact callsAbout_gather (keepsCalls_ask plugins) hnodup hgather about

/-- **A schedule makes the calls of each type in their order**, however the tasks are
mixed. -/
theorem callsAbout_run {g : Group} (hg : g ∈ groups) :
    callsAbout g.type r.calls = callsFor allNodes g plugins := by
  rw [callsAbout_run_eq hnodup h]
  obtain ⟨before, after, rfl⟩ := List.append_of_mem hg
  rw [List.map_append, List.map_cons, List.nodup_middle] at hnodup
  have hother : ∀ other ∈ before ++ after, other.type ≠ g.type := by
    intro other hmem heq
    rw [← List.map_append] at hnodup
    exact (List.nodup_cons.1 hnodup).1 (heq ▸ List.mem_map_of_mem hmem)
  have hnone {others : List Group} (hsubset : others ⊆ before ++ after) :
      callsAbout g.type (others.flatMap fun g => callsFor allNodes g plugins) = [] :=
    callsAbout_flatMap_eq_nil (keepsCalls_ask plugins) fun other hmem =>
      hother other (hsubset hmem)
  rw [List.flatMap_append, List.flatMap_cons, callsAbout_append, callsAbout_append,
    hnone (List.subset_append_left ..), hnone (List.subset_append_right ..), List.append_nil,
    List.nil_append, callsAbout_eq_self fun call hcall => type_of_mem_callsFor hcall]

/-- **A schedule makes no other calls.** -/
theorem type_mem_of_mem_calls_run {call : PluginCall} (hcall : call ∈ r.calls) :
    call.type ∈ groups.map (·.type) := by
  by_contra hnot
  have hnone : callsAbout call.type r.calls = [] := by
    rw [callsAbout_run_eq hnodup h]
    exact callsAbout_flatMap_eq_nil (keepsCalls_ask plugins) fun g hg heq =>
      hnot (List.mem_map.2 ⟨g, hg, heq⟩)
  exact List.filter_eq_nil_iff.1 hnone call hcall (beq_self_eq_true call.type)

end Run

end Schedule

end ContentGraph
