import ContentGraph.Plugin.Schedule

/-!
# Side by side or one after the other

The types are extended side by side, and how their tasks interleave depends on
how often the hooks suspend. What a task comes to does not: running it, or
resuming it in some round, leaves its *outcome* what it would be if the
plugins were asked about its type alone (`Schedule.outcome_ask`,
`Schedule.outcome_resume`). So if no plugin fails for any type, every round
goes well, and in the end every type is finished once, with the maps that the
plugins add to it (`Schedule.run_eq_ok`). Only the order in which the types
are finished is left to the suspensions.
-/

namespace ContentGraph

namespace Plugin

/-- **A plugin that never fails**: whatever the type, it answers with
fields. -/
def NeverFails (p : Plugin) : Prop :=
  ∀ hook, p.hook = some hook → ∀ type, ∃ fields, hook.answer type = .adds fields

/-- **A plugin does not fail for a type**: it answers with fields, if it is
asked at all. -/
def Answers (type : String) (p : Plugin) : Prop :=
  ∀ hook, p.hook = some hook → ∃ fields, hook.answer type = .adds fields

theorem NeverFails.answers {p : Plugin} (h : p.NeverFails) (type : String) : p.Answers type :=
  fun hook hhook => h hook hhook type

/-- The fields that a plugin adds to a type, if it does not fail. -/
def fieldsFor (type : String) (p : Plugin) : FieldMap :=
  match p.hook with
  | none => []
  | some hook =>
    match hook.answer type with
    | .adds fields => fields
    | _ => []

/-- Maps that are not empty. -/
def nonEmpty (maps : List FieldMap) : List FieldMap := maps.filter fun fields => !fields.isEmpty

/-- The maps that plugins add to a type, without the empty ones. -/
def addedMaps (type : String) (plugins : List Plugin) : List FieldMap :=
  nonEmpty (plugins.map (fieldsFor type))

theorem addedMaps_cons (type : String) (p : Plugin) (rest : List Plugin) :
    addedMaps type (p :: rest) = nonEmpty [p.fieldsFor type] ++ addedMaps type rest := by
  unfold addedMaps nonEmpty
  rw [← List.filter_append]
  rfl

theorem collectMap_eq_append (maps : List FieldMap) (fields : FieldMap) :
    collectMap maps fields = maps ++ nonEmpty [fields] := by
  unfold collectMap nonEmpty
  cases h : fields.isEmpty with
  | true => rw [if_pos rfl, List.filter_cons, h]; exact (List.append_nil maps).symm
  | false => rw [if_neg Bool.false_ne_true, List.filter_cons, h]; rfl

variable {allNodes : List Member} {group : Group}

/-- **The calls of plugins about a type**: those that have a hook are asked once, in
their order. -/
def callsFor (allNodes : List Member) (group : Group) (plugins : List Plugin) : List PluginCall :=
  (plugins.filter fun p => p.hook.isSome).map (callFor allNodes group)

/-- A plugin without a hook is not asked. -/
theorem callsFor_cons_of_none {p : Plugin} (h : p.hook = none) (rest : List Plugin) :
    callsFor allNodes group (p :: rest) = callsFor allNodes group rest := by
  rw [callsFor, List.filter_cons_of_neg (by rw [h]; exact Bool.false_ne_true), callsFor]

/-- A plugin with a hook is asked before the others. -/
theorem callsFor_cons_of_some {p : Plugin} {hook : Hook} (h : p.hook = some hook)
    (rest : List Plugin) :
    callsFor allNodes group (p :: rest)
      = p.callFor allNodes group :: callsFor allNodes group rest := by
  rw [callsFor, List.filter_cons_of_pos (by rw [h]; rfl), List.map_cons, callsFor]

/-- **Plugins that do not fail are all asked**, and what they add is collected,
before any others are asked. -/
theorem collect_append {before : List Plugin} (h : ∀ p ∈ before, p.Answers group.type)
    (rest : List Plugin) (maps : List FieldMap) :
    collect allNodes group (before ++ rest) maps
      = ((collect allNodes group rest (maps ++ addedMaps group.type before)).1,
        callsFor allNodes group before
          ++ (collect allNodes group rest (maps ++ addedMaps group.type before)).2) := by
  induction before generalizing maps with
  | nil => rw [show maps ++ addedMaps group.type [] = maps from List.append_nil maps]; rfl
  | cons p before ih =>
    have ih' := ih fun q hq => h q (List.mem_cons_of_mem p hq)
    rw [List.cons_append, collect, addedMaps_cons, ← List.append_assoc]
    cases hp : p.hook with
    | none =>
      simp only [ih', callsFor_cons_of_none hp, fieldsFor, hp]
      rw [← collectMap_eq_append]
      rfl
    | some hook =>
      obtain ⟨fields, hfields⟩ := h p List.mem_cons_self hook hp
      simp only [hfields, HookAnswer.result, ih', callsFor_cons_of_some hp, fieldsFor, hp,
        collectMap_eq_append, List.cons_append]

/-- **If no plugin fails for a type, all are asked**, and the maps that are not empty
come in their order. -/
theorem collect_eq_ok {plugins : List Plugin} (h : ∀ p ∈ plugins, p.Answers group.type) :
    collect allNodes group plugins []
      = (.ok (addedMaps group.type plugins), callsFor allNodes group plugins) := by
  have hall : collect allNodes group (plugins ++ []) [] = _ := collect_append h [] []
  rwa [List.append_nil, List.nil_append, collect, List.append_nil] at hall

end Plugin

/-! ## Outcomes -/

/-- What a suspended task comes to, if its plugins are asked about its type
alone. -/
def SuspendedTask.outcome (allNodes : List Member) (t : SuspendedTask) :
    Except ExtensionError ExtendedType :=
  ((t.hook.answer t.group.type).result t.plugin t.group.type).bind fun fields =>
    (Plugin.collect allNodes t.group t.rest (collectMap t.maps fields)).1.map
      (ExtendedType.mk t.group)

/-- What a task comes to, wherever it stands. -/
def TaskState.outcome (allNodes : List Member) : TaskState → Except ExtensionError ExtendedType
  | .suspended t => t.outcome allNodes
  | .finished e => .ok e
  | .failed e => .error e

namespace Schedule

variable {allNodes : List Member}

/-- **What asking a plugin comes to**: one without a hook is passed over, one with a
hook suspends, fails or answers, and only after an answer are the others asked. -/
theorem ask_cons_cases (allNodes : List Member) (group : Group) (p : Plugin)
    (rest : List Plugin) (maps : List FieldMap) :
    (p.hook = none ∧ ask allNodes group (p :: rest) maps = ask allNodes group rest maps)
      ∨ ∃ hook, p.hook = some hook
        ∧ ((∃ n, hook.suspensions group.type = n + 1
            ∧ ask allNodes group (p :: rest) maps
              = (.suspended ⟨group, n, p.name, hook, rest, maps⟩, [p.callFor allNodes group]))
          ∨ hook.suspensions group.type = 0
            ∧ ((∃ e, (hook.answer group.type).result p.name group.type = .error e
                ∧ ask allNodes group (p :: rest) maps = (.failed e, [p.callFor allNodes group]))
              ∨ ∃ fields, (hook.answer group.type).result p.name group.type = .ok fields
                ∧ ask allNodes group (p :: rest) maps
                  = ((ask allNodes group rest (collectMap maps fields)).1,
                    p.callFor allNodes group
                      :: (ask allNodes group rest (collectMap maps fields)).2))) := by
  rw [ask]
  cases p.hook with
  | none => exact Or.inl ⟨rfl, rfl⟩
  | some hook =>
    refine Or.inr ⟨hook, rfl, ?_⟩
    cases hs : hook.suspensions group.type with
    | succ n => exact Or.inl ⟨n, rfl, by simp only [hs]⟩
    | zero =>
      refine Or.inr ⟨rfl, ?_⟩
      cases hr : (hook.answer group.type).result p.name group.type with
      | error e => exact Or.inl ⟨e, rfl, by simp only [hs, hr]⟩
      | ok fields => exact Or.inr ⟨fields, rfl, by simp only [hs, hr]⟩

/-- **What resuming a task comes to**: its hook stays suspended, fails or answers, and
only after an answer are the others asked. -/
theorem resume_cases (allNodes : List Member) (t : SuspendedTask) :
    (∃ n, t.roundsAfter = n + 1
        ∧ resume allNodes t = (.suspended { t with roundsAfter := n }, []))
      ∨ t.roundsAfter = 0
        ∧ ((∃ e, (t.hook.answer t.group.type).result t.plugin t.group.type = .error e
            ∧ resume allNodes t = (.failed e, []))
          ∨ ∃ fields, (t.hook.answer t.group.type).result t.plugin t.group.type = .ok fields
            ∧ resume allNodes t = ask allNodes t.group t.rest (collectMap t.maps fields)) := by
  rw [resume]
  cases t.roundsAfter with
  | succ n => exact Or.inl ⟨n, rfl, rfl⟩
  | zero =>
    refine Or.inr ⟨rfl, ?_⟩
    cases (t.hook.answer t.group.type).result t.plugin t.group.type with
    | error e => exact Or.inl ⟨e, rfl, rfl⟩
    | ok fields => exact Or.inr ⟨fields, rfl, rfl⟩

/-- **Asking plugins until one suspends keeps the outcome.** -/
theorem outcome_ask (group : Group) (plugins : List Plugin) (maps : List FieldMap) :
    (ask allNodes group plugins maps).1.outcome allNodes
      = (Plugin.collect allNodes group plugins maps).1.map (ExtendedType.mk group) := by
  induction plugins generalizing maps with
  | nil => rfl
  | cons p rest ih =>
    rw [Plugin.collect]
    obtain ⟨hp, hask⟩ | ⟨hook, hp, ⟨n, -, hask⟩ | ⟨-, ⟨e, hr, hask⟩ | ⟨fields, hr, hask⟩⟩⟩ :=
      ask_cons_cases allNodes group p rest maps
    · simp only [hask, hp, ih]
    · simp only [hask, hp, TaskState.outcome, SuspendedTask.outcome]
      cases (hook.answer group.type).result p.name group.type <;> rfl
    · simp only [hask, hp, hr]
      rfl
    · simp only [hask, hp, hr, ih]

/-- **Resuming a task keeps its outcome.** -/
theorem outcome_resume (t : SuspendedTask) :
    (resume allNodes t).1.outcome allNodes = t.outcome allNodes := by
  rw [SuspendedTask.outcome]
  obtain ⟨n, -, hresume⟩ | ⟨-, ⟨e, hr, hresume⟩ | ⟨fields, hr, hresume⟩⟩ :=
    resume_cases allNodes t
  · rw [hresume]
    rfl
  · rw [hresume, hr]
    rfl
  · rw [hresume, hr, outcome_ask]
    rfl

/-! ## Rounds -/

/-- **A round in which no task fails keeps the outcomes of all**: of the
tasks that are finished and of those that are suspended again. The states are
those of tasks that may be given in any form. -/
theorem gather_eq_ok {α : Type} {f : α → TaskState × List PluginCall}
    {outcome : α → Except ExtensionError ExtendedType}
    (hf : ∀ a, (f a).1.outcome allNodes = outcome a) {tasks : List α}
    (h : ∀ a ∈ tasks, ∃ e, outcome a = .ok e) :
    ∃ r, gather (tasks.map f) = .ok r
      ∧ List.Perm (r.finished.map Except.ok ++ r.suspended.map (SuspendedTask.outcome allNodes))
          (tasks.map outcome) := by
  induction tasks with
  | nil => exact ⟨⟨[], [], []⟩, rfl, .nil⟩
  | cons a rest ih =>
    obtain ⟨r, hr, hperm⟩ := ih fun b hb => h b (List.mem_cons_of_mem a hb)
    obtain ⟨e, he⟩ := h a List.mem_cons_self
    have ha := hf a
    rw [List.map_cons, List.map_cons, ← ha]
    generalize f a = s at ha ⊢
    obtain ⟨state, calls⟩ := s
    cases state with
    | failed e' => cases ha.trans he
    | finished e' =>
      exact ⟨⟨r.suspended, e' :: r.finished, calls ++ r.calls⟩,
        by simp only [gather, hr, Except.bind, RoundResult.add], hperm.cons _⟩
    | suspended t =>
      exact ⟨⟨t :: r.suspended, r.finished, calls ++ r.calls⟩,
        by simp only [gather, hr, Except.bind, RoundResult.add],
        List.perm_middle.trans (hperm.cons _)⟩

/-- Tasks whose outcomes are among good ones do not fail. -/
theorem exists_outcome_of_perm {α : Type} {finished : List ExtendedType}
    {suspended : List SuspendedTask} {outcome : α → Except ExtensionError ExtendedType}
    {tasks : List α}
    (hperm : List.Perm (finished.map Except.ok ++ suspended.map (SuspendedTask.outcome allNodes))
      (tasks.map outcome))
    (h : ∀ a ∈ tasks, ∃ e, outcome a = .ok e) :
    ∀ t ∈ suspended, ∃ e, t.outcome allNodes = .ok e := by
  intro t ht
  have hmem := hperm.mem_iff.1 (List.mem_append_right _ (List.mem_map_of_mem ht))
  obtain ⟨a, ha, hat⟩ := List.mem_map.1 hmem
  obtain ⟨e, he⟩ := h a ha
  exact ⟨e, hat.symm.trans he⟩

/-- **Tasks that do not fail are all finished**, each with its outcome,
however many rounds it takes. -/
theorem rounds_eq_ok {tasks : List SuspendedTask}
    (h : ∀ t ∈ tasks, ∃ e, t.outcome allNodes = .ok e) :
    ∃ r, rounds allNodes tasks = .ok r
      ∧ List.Perm (r.finished.map Except.ok) (tasks.map (SuspendedTask.outcome allNodes)) := by
  -- The induction is on the rounds; `gather_eq_ok` is what one of them does.
  fun_induction rounds allNodes tasks with
  | case1 => exact ⟨⟨[], []⟩, rfl, .nil⟩
  | case2 tasks hne e hgather =>
    obtain ⟨r, hr, -⟩ := gather_eq_ok outcome_resume h
    cases hgather.symm.trans hr
  | case3 tasks hne r hgather hless ih =>
    obtain ⟨r', hr, hperm⟩ := gather_eq_ok outcome_resume h
    obtain rfl : r = r' := Except.ok.inj (hgather.symm.trans hr)
    obtain ⟨later, hlater, hperm'⟩ := ih (exists_outcome_of_perm hperm h)
    refine ⟨⟨r.finished ++ later.finished, r.calls ++ later.calls⟩, ?_, ?_⟩
    · rw [hlater]
      rfl
    · rw [List.map_append]
      exact (hperm'.append_left _).trans hperm

/-- **Plugins that fail for none of the types extend every type once**, each
with the maps that they add to it, whatever the order in which the types are
finished. -/
theorem run_eq_ok_of_answers (allNodes : List Member) {plugins : List Plugin} {groups : List Group}
    (h : ∀ g ∈ groups, ∀ p ∈ plugins, p.Answers g.type) :
    ∃ r, run allNodes plugins groups = .ok r
      ∧ List.Perm r.finished
          (groups.map fun g => ⟨g, Plugin.addedMaps g.type plugins⟩) := by
  have hask (g : Group) : (ask allNodes g plugins []).1.outcome allNodes
      = (Plugin.collect allNodes g plugins []).1.map (ExtendedType.mk g) :=
    outcome_ask g plugins []
  have houtcome : ∀ g ∈ groups, (Plugin.collect allNodes g plugins []).1.map (ExtendedType.mk g)
      = .ok ⟨g, Plugin.addedMaps g.type plugins⟩ := by
    intro g hg
    rw [Plugin.collect_eq_ok (h g hg)]
    rfl
  have hok : ∀ g ∈ groups, ∃ e,
      (Plugin.collect allNodes g plugins []).1.map (ExtendedType.mk g) = .ok e :=
    fun g hg => ⟨_, houtcome g hg⟩
  obtain ⟨r, hr, hperm⟩ := gather_eq_ok hask hok
  obtain ⟨later, hlater, hperm'⟩ := rounds_eq_ok (exists_outcome_of_perm hperm hok)
  refine ⟨⟨r.finished ++ later.finished, r.calls ++ later.calls⟩, ?_, ?_⟩
  · unfold run
    rw [hr]
    show (rounds allNodes r.suspended).bind _ = _
    rw [hlater]
    rfl
  · have hall := (hperm'.append_left _).trans hperm
    rw [← List.map_append, List.map_congr_left houtcome] at hall
    have htypes := hall.filterMap Except.toOption
    rw [List.filterMap_map, List.filterMap_map] at htypes
    simpa [Function.comp_def, Except.toOption] using htypes

theorem run_eq_ok (allNodes : List Member) {plugins : List Plugin}
    (h : ∀ p ∈ plugins, p.NeverFails) (groups : List Group) :
    ∃ r, run allNodes plugins groups = .ok r
      ∧ List.Perm r.finished
          (groups.map fun g => ⟨g, Plugin.addedMaps g.type plugins⟩) :=
  run_eq_ok_of_answers allNodes fun g _ p hp => (h p hp).answers g.type

/-- **Without plugins every type is finished at once**, in the order of the
groups. -/
theorem run_no_plugins (allNodes : List Member) (groups : List Group) :
    run allNodes [] groups = .ok ⟨groups.map fun g => ⟨g, []⟩, []⟩ := by
  have hround : gather (groups.map fun g => ask allNodes g [] [])
      = .ok ⟨[], groups.map fun g => ⟨g, []⟩, []⟩ := by
    induction groups with
    | nil => rfl
    | cons g rest ih =>
      rw [List.map_cons, ask, gather, ih]
      · rfl
      · intro e h
        cases h
  have hrounds : rounds allNodes [] = .ok ⟨[], []⟩ := by rw [rounds, dif_pos rfl]
  rw [run, hround]
  show (rounds allNodes []).bind _ = _
  rw [hrounds]
  exact congrArg (fun entries => Except.ok (Result.mk entries [])) (List.append_nil _)

end Schedule

end ContentGraph
