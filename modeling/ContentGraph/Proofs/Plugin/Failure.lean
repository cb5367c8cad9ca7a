import ContentGraph.Proofs.Plugin.Schedule

/-!
# Which failure ends a schedule

When plugins fail for several types, one failure is reported and the others
are not, so it matters which. Two orders decide. Within a type the plugins are
asked one after the other, and the first that fails ends the type; it does so
after all suspensions of the plugins before it and its own. Between the types
the fewest of these suspensions come first, and of equal ones the type that
comes first among the groups.

`Plugin.FailsAt` and `Schedule.IsFirstToFail` say this without a schedule. That
the schedule comes to the same (`Schedule.run_outcome`) is an induction on its
rounds, in which every round takes one suspension off every failure that is
still to come: a failure without any is one of this round.
-/

namespace ContentGraph

/-- That a type fails: after how many suspensions, and with which error. -/
structure Failure where
  /-- The suspensions before it. -/
  suspensions : Nat
  /-- The error. -/
  error : ExtensionError

namespace Failure

/-- A failure before which there are more suspensions. -/
def after (count : Nat) (f : Failure) : Failure := ⟨f.suspensions + count, f.error⟩

@[simp] theorem suspensions_after (count : Nat) (f : Failure) :
    (f.after count).suspensions = f.suspensions + count := rfl

theorem after_comp_after (m n : Nat) : after m ∘ after n = after (n + m) :=
  funext fun f => congrArg (Failure.mk · f.error) (Nat.add_assoc f.suspensions n m)

end Failure

namespace Plugin

/-! ## The first plugin that fails -/

/-- **A plugin fails for a type**, with the error that its hook ends in. -/
def FailsWith (p : Plugin) (type : String) (e : ExtensionError) : Prop :=
  ∃ hook, p.hook = some hook ∧ (hook.answer type).result p.name type = .error e

/-- **Plugins fail for a type**: the first of them that fails does so with the
error, after the suspensions of those before it and its own. -/
def FailsAt (type : String) (plugins : List Plugin) (f : Failure) : Prop :=
  ∃ before p after, plugins = before ++ p :: after
    ∧ (∀ q ∈ before, ∀ e, ¬ q.FailsWith type e)
    ∧ p.FailsWith type f.error
    ∧ f.suspensions = Schedule.suspensionsLeft type (before ++ [p])

/-- The failure of the first plugin that fails for a type. -/
def failure? (type : String) : List Plugin → Option Failure
  | [] => none
  | p :: rest =>
    match p.hook with
    | none => failure? type rest
    | some hook =>
      match (hook.answer type).result p.name type with
      | .error e => some ⟨hook.suspensions type, e⟩
      | .ok _ => (failure? type rest).map (Failure.after (hook.suspensions type))

/-- An error names the type and the plugin it is about. -/
theorem type_of_failsWith {p : Plugin} {type : String} {e : ExtensionError}
    (h : p.FailsWith type e) : e.type = type ∧ e.plugin = p.name := by
  obtain ⟨hook, -, hresult⟩ := h
  cases hanswer : hook.answer type with
  | adds fields => rw [hanswer] at hresult; cases hresult
  | fails kind text => rw [hanswer] at hresult; cases hresult; exact ⟨rfl, rfl⟩
  | asksForFields => rw [hanswer] at hresult; cases hresult; exact ⟨rfl, rfl⟩

theorem answers_of_not_failsWith {p : Plugin} {type : String} (h : ∀ e, ¬ p.FailsWith type e) :
    p.Answers type := by
  intro hook hhook
  cases hanswer : hook.answer type with
  | adds fields => exact ⟨fields, rfl⟩
  | fails kind text => exact absurd ⟨hook, hhook, by rw [hanswer]; rfl⟩ (h _)
  | asksForFields => exact absurd ⟨hook, hhook, by rw [hanswer]; rfl⟩ (h _)

section First

variable {type : String} {p : Plugin} {rest plugins : List Plugin} {f : Failure}

/-- The first plugin either fails, or puts the failure of the others off by
its own suspensions. -/
theorem failure?_cons_cases (type : String) (p : Plugin) (rest : List Plugin) :
    (∃ e, p.FailsWith type e
        ∧ failure? type (p :: rest) = some ⟨Schedule.suspensionsLeft type [p], e⟩)
      ∨ ((∀ e, ¬ p.FailsWith type e)
        ∧ failure? type (p :: rest)
          = (failure? type rest).map (Failure.after (Schedule.suspensionsLeft type [p]))) := by
  rw [failure?, Schedule.suspensionsLeft]
  unfold FailsWith
  cases p.hook with
  | none =>
    refine Or.inr ⟨fun e he => ?_, Option.map_id_apply.symm⟩
    obtain ⟨_, hsome, -⟩ := he
    cases hsome
  | some hook =>
    cases hresult : (hook.answer type).result p.name type with
    | error e => exact Or.inl ⟨e, ⟨hook, rfl, hresult⟩, by simp only [hresult]; rfl⟩
    | ok fields =>
      refine Or.inr ⟨fun e he => ?_, by simp only [hresult]; rfl⟩
      obtain ⟨_, hsome, he⟩ := he
      obtain rfl := Option.some.inj hsome
      cases hresult.symm.trans he

theorem failsWith_unique {e e' : ExtensionError} (h : p.FailsWith type e)
    (h' : p.FailsWith type e') : e = e' := by
  obtain ⟨hook, hsome, hresult⟩ := h
  obtain ⟨hook', hsome', hresult'⟩ := h'
  obtain rfl := Option.some.inj (hsome.symm.trans hsome')
  exact Except.error.inj (hresult.symm.trans hresult')

/-- Plugins fail where the first of them does, or where the others do if it
does not. -/
theorem failsAt_cons_iff :
    FailsAt type (p :: rest) f
      ↔ (p.FailsWith type f.error ∧ f.suspensions = Schedule.suspensionsLeft type [p])
        ∨ ((∀ e, ¬ p.FailsWith type e)
          ∧ ∃ g, FailsAt type rest g ∧ f = g.after (Schedule.suspensionsLeft type [p])) := by
  constructor
  · rintro ⟨before, q, after, heq, hbefore, hq, hcount⟩
    cases before with
    | nil =>
      obtain ⟨rfl, rfl⟩ := List.cons.inj heq
      exact Or.inl ⟨hq, hcount⟩
    | cons p' before =>
      obtain ⟨rfl, rfl⟩ := List.cons.inj heq
      obtain ⟨hp, hbefore⟩ := List.forall_mem_cons.1 hbefore
      refine Or.inr ⟨hp, ⟨Schedule.suspensionsLeft type (before ++ [q]), f.error⟩,
        ⟨before, q, after, rfl, hbefore, hq, rfl⟩, ?_⟩
      refine congrArg (Failure.mk · f.error) (hcount.trans ?_)
      exact Nat.add_comm _ _
  · rintro (⟨hp, hcount⟩ | ⟨hp, g, ⟨before, q, after, rfl, hbefore, hq, hcount⟩, rfl⟩)
    · exact ⟨[], p, rest, rfl, fun _ hq => absurd hq List.not_mem_nil, hp, hcount⟩
    · refine ⟨p :: before, q, after, rfl, List.forall_mem_cons.2 ⟨hp, hbefore⟩, hq, ?_⟩
      rw [Failure.suspensions_after, hcount]
      exact Nat.add_comm _ _

/-- **The failure that is computed is that of the first plugin that fails.** -/
theorem failure?_eq_some_iff : failure? type plugins = some f ↔ FailsAt type plugins f := by
  induction plugins generalizing f with
  | nil =>
    refine ⟨fun h => (nomatch h), fun h => ?_⟩
    obtain ⟨before, p, after, heq, -⟩ := h
    cases before <;> cases heq
  | cons p rest ih =>
    rw [failsAt_cons_iff]
    rcases failure?_cons_cases type p rest with ⟨e, he, heq⟩ | ⟨hp, heq⟩
    · rw [heq, Option.some.injEq]
      constructor
      · rintro rfl
        exact Or.inl ⟨he, rfl⟩
      · rintro (⟨he', hcount⟩ | ⟨hp, -⟩)
        · rw [failsWith_unique he he', ← hcount]
        · exact absurd he (hp e)
    · rw [heq, Option.map_eq_some_iff]
      constructor
      · rintro ⟨g, hg, rfl⟩
        exact Or.inr ⟨hp, g, ih.1 hg, rfl⟩
      · rintro (⟨he, -⟩ | ⟨-, g, hg, rfl⟩)
        · exact absurd he (hp _)
        · exact ⟨g, ih.2 hg, rfl⟩

/-- **None is computed if and only if no plugin fails.** -/
theorem failure?_eq_none_iff :
    failure? type plugins = none ↔ ∀ p ∈ plugins, ∀ e, ¬ p.FailsWith type e := by
  induction plugins with
  | nil => exact ⟨fun _ p hp => absurd hp List.not_mem_nil, fun _ => rfl⟩
  | cons p rest ih =>
    rw [List.forall_mem_cons, ← ih]
    rcases failure?_cons_cases type p rest with ⟨e, he, heq⟩ | ⟨hp, heq⟩
    · rw [heq]
      exact ⟨fun h => (nomatch h), fun h => absurd he (h.1 e)⟩
    · rw [heq, Option.map_eq_none_iff]
      exact ⟨fun h => ⟨hp, h⟩, fun h => h.2⟩

end First

end Plugin

/-! ## The earliest failure -/

namespace Failure

/-- The earlier of two failures; of two after equally many suspensions the
first. -/
def earlier : Option Failure → Option Failure → Option Failure
  | none, other => other
  | some f, none => some f
  | some f, some g => if g.suspensions < f.suspensions then some g else some f

/-- The earliest of some failures, and of equally early ones the first. -/
def earliest (failures : List (Option Failure)) : Option Failure := failures.foldr earlier none

theorem earlier_none (f : Option Failure) : earlier f none = f := by cases f <;> rfl

/-- No failure is earlier than one without any suspensions. -/
theorem earlier_zero (e : ExtensionError) (other : Option Failure) :
    earlier (some ⟨0, e⟩) other = some ⟨0, e⟩ := by
  cases other <;> rfl

theorem earlier_map_after (count : Nat) (f g : Option Failure) :
    earlier (f.map (after count)) (g.map (after count)) = (earlier f g).map (after count) := by
  cases f with
  | none => rfl
  | some f =>
    cases g with
    | none => rfl
    | some g =>
      simp only [Option.map_some, earlier, suspensions_after, Nat.add_lt_add_iff_right]
      split <;> rfl

/-- A failure that is still put off is not earlier than one without any
suspensions. -/
theorem earlier_after_zero (e : ExtensionError) (f : Option Failure) :
    earlier (f.map (after 1)) (some ⟨0, e⟩) = some ⟨0, e⟩ := by
  cases f with
  | none => rfl
  | some f =>
    show (if 0 < f.suspensions + 1 then some (Failure.mk 0 e) else some (after 1 f)) = _
    exact if_pos (Nat.succ_pos f.suspensions)

theorem earliest_eq_none_iff {failures : List (Option Failure)} :
    earliest failures = none ↔ ∀ f ∈ failures, f = none := by
  induction failures with
  | nil => exact ⟨fun _ f hf => absurd hf List.not_mem_nil, fun _ => rfl⟩
  | cons f rest ih =>
    rw [List.forall_mem_cons, ← ih, earliest, List.foldr_cons, ← earliest]
    cases f with
    | none => exact ⟨fun h => ⟨rfl, h⟩, fun h => h.2⟩
    | some f =>
      refine ⟨fun h => ?_, fun h => (nomatch h.1)⟩
      cases hrest : earliest rest with
      | none => rw [hrest] at h; cases h
      | some g => rw [hrest, earlier] at h; split at h <;> cases h

/-- **The earliest failure stands before no earlier one and after none that is
as early.** -/
theorem exists_append_of_earliest {failures : List (Option Failure)} {f : Failure}
    (h : earliest failures = some f) :
    ∃ before after, failures = before ++ some f :: after
      ∧ (∀ g, some g ∈ before → f.suspensions < g.suspensions)
      ∧ ∀ g, some g ∈ after → f.suspensions ≤ g.suspensions := by
  induction failures generalizing f with
  | nil => cases h
  | cons first rest ih =>
    rw [earliest, List.foldr_cons, ← earliest] at h
    cases first with
    | none =>
      obtain ⟨before, after, rfl, hbefore, hafter⟩ := ih h
      refine ⟨none :: before, after, rfl, fun g hg => ?_, hafter⟩
      exact hbefore g ((List.mem_cons.1 hg).resolve_left (Option.some_ne_none g))
    | some g =>
      cases hrest : earliest rest with
      | none =>
        rw [hrest, earlier_none, Option.some.injEq] at h
        subst h
        refine ⟨[], rest, rfl, fun _ hk => absurd hk List.not_mem_nil, fun k hk => ?_⟩
        cases earliest_eq_none_iff.1 hrest _ hk
      | some k =>
        obtain ⟨before, after, rfl, hbefore, hafter⟩ := ih hrest
        rw [hrest, earlier] at h
        -- The first failure yields only to one that is strictly earlier.
        by_cases hless : k.suspensions < g.suspensions
        · rw [if_pos hless, Option.some.injEq] at h
          subst h
          refine ⟨some g :: before, after, rfl, fun j hj => ?_, hafter⟩
          rcases List.mem_cons.1 hj with heq | hj
          · exact Option.some.inj heq ▸ hless
          · exact hbefore j hj
        · rw [if_neg hless, Option.some.injEq] at h
          subst h
          refine ⟨[], _, rfl, fun _ hj => absurd hj List.not_mem_nil, fun j hj => ?_⟩
          refine Nat.le_trans (Nat.le_of_not_lt hless) ?_
          rcases List.mem_append.1 hj with hj | hj
          · exact Nat.le_of_lt (hbefore j hj)
          · rcases List.mem_cons.1 hj with heq | hj
            · exact Nat.le_of_eq (congrArg suspensions (Option.some.inj heq).symm)
            · exact hafter j hj

end Failure

/-! ## The failure of a schedule -/

/-- The failure that a suspended task is to come to, by the suspensions that
are left after the next round. -/
def SuspendedTask.failure? (t : SuspendedTask) : Option Failure :=
  match (t.hook.answer t.group.type).result t.plugin t.group.type with
  | .error e => some ⟨t.roundsAfter, e⟩
  | .ok _ => (Plugin.failure? t.group.type t.rest).map (Failure.after t.roundsAfter)

/-- The failure that a task has come to or is to come to, by the suspensions
that are left. -/
def TaskState.failure? : TaskState → Option Failure
  | .suspended t => t.failure?.map (Failure.after 1)
  | .finished _ => none
  | .failed e => some ⟨0, e⟩

namespace Schedule

/-- **The failure that ends a schedule**: of all failures of the types the one
after the fewest suspensions, and of equally early ones that of the first
type. -/
def IsFirstToFail (plugins : List Plugin) (types : List String) (type : String) (f : Failure) :
    Prop :=
  Plugin.FailsAt type plugins f
    ∧ ∃ before after, types = before ++ type :: after
      ∧ (∀ t ∈ before, ∀ g, Plugin.FailsAt t plugins g → f.suspensions < g.suspensions)
      ∧ ∀ t ∈ after, ∀ g, Plugin.FailsAt t plugins g → f.suspensions ≤ g.suspensions

/-- What the failure of a schedule makes of it. -/
def verdict : Option Failure → Except ExtensionError Unit
  | none => .ok ()
  | some f => .error f.error

theorem verdict_map_after (count : Nat) (f : Option Failure) :
    verdict (f.map (Failure.after count)) = verdict f := by
  cases f <;> rfl

variable {allNodes : List Member}

/-- **The earliest of the failures that are computed is the first.** -/
theorem isFirstToFail_of_earliest {plugins : List Plugin} {types : List String} {f : Failure}
    (h : Failure.earliest (types.map fun t => Plugin.failure? t plugins) = some f) :
    ∃ type, IsFirstToFail plugins types type f := by
  obtain ⟨before, after, heq, hbefore, hafter⟩ := Failure.exists_append_of_earliest h
  obtain ⟨ts, rest, rfl, rfl, hrest⟩ := List.map_eq_append_iff.1 heq
  obtain ⟨type, us, rfl, htype, rfl⟩ := List.map_eq_cons_iff.1 hrest
  refine ⟨type, Plugin.failure?_eq_some_iff.1 htype, ts, us, rfl, ?_, ?_⟩
  · intro t ht g hg
    exact hbefore g (List.mem_map.2 ⟨t, ht, Plugin.failure?_eq_some_iff.2 hg⟩)
  · intro t ht g hg
    exact hafter g (List.mem_map.2 ⟨t, ht, Plugin.failure?_eq_some_iff.2 hg⟩)

theorem earliest_eq_none_iff {plugins : List Plugin} {types : List String} :
    Failure.earliest (types.map fun t => Plugin.failure? t plugins) = none
      ↔ ∀ t ∈ types, ∀ p ∈ plugins, ∀ e, ¬ p.FailsWith t e := by
  rw [Failure.earliest_eq_none_iff, List.forall_mem_map]
  simp only [Plugin.failure?_eq_none_iff]

/-- The error of a schedule names the type that failed first. -/
theorem IsFirstToFail.error_type {plugins : List Plugin} {types : List String} {type : String}
    {f : Failure} (h : IsFirstToFail plugins types type f) : f.error.type = type := by
  obtain ⟨⟨_, _, _, -, -, hfails, -⟩, -⟩ := h
  exact (Plugin.type_of_failsWith hfails).1

theorem IsFirstToFail.mem {plugins : List Plugin} {types : List String} {type : String}
    {f : Failure} (h : IsFirstToFail plugins types type f) : type ∈ types := by
  obtain ⟨-, before, after, rfl, -⟩ := h
  exact List.mem_append_right _ List.mem_cons_self

/-- No failure of the types is earlier. -/
theorem IsFirstToFail.le {plugins : List Plugin} {types : List String} {type t : String}
    {f g : Failure} (h : IsFirstToFail plugins types type f) (ht : t ∈ types)
    (hg : Plugin.FailsAt t plugins g) : f.suspensions ≤ g.suspensions := by
  obtain ⟨hfails, before, after, rfl, hbefore, hafter⟩ := h
  rcases List.mem_append.1 ht with ht | ht
  · exact Nat.le_of_lt (hbefore t ht g hg)
  · rcases List.mem_cons.1 ht with rfl | ht
    · have hsame := (Plugin.failure?_eq_some_iff.2 hfails).symm.trans
        (Plugin.failure?_eq_some_iff.2 hg)
      exact Nat.le_of_eq (congrArg Failure.suspensions (Option.some.inj hsame))
    · exact hafter t ht g hg

/-! ### Tasks -/

/-- **Asking plugins until one suspends keeps their failure.** -/
theorem failure?_ask (group : Group) (plugins : List Plugin) (maps : List FieldMap) :
    (ask allNodes group plugins maps).1.failure? = Plugin.failure? group.type plugins := by
  induction plugins generalizing maps with
  | nil => rfl
  | cons p rest ih =>
    rw [Plugin.failure?]
    obtain ⟨hp, hask⟩ | ⟨hook, hp, ⟨n, hs, hask⟩ | ⟨hs, ⟨e, hr, hask⟩ | ⟨fields, hr, hask⟩⟩⟩ :=
      ask_cons_cases allNodes group p rest maps
    · simp only [hask, hp, ih]
    · simp only [hask, hp, hs, TaskState.failure?, SuspendedTask.failure?]
      cases (hook.answer group.type).result p.name group.type with
      | error e => rfl
      | ok fields => simp only [Option.map_map, Failure.after_comp_after]
    · simp only [hask, hp, hs, hr, TaskState.failure?]
    · simp only [hask, hp, hs, hr, ih]
      exact Option.map_id_apply.symm

/-- **Resuming a task keeps its failure**, one suspension nearer. -/
theorem failure?_resume (t : SuspendedTask) :
    (resume allNodes t).1.failure? = t.failure? := by
  rw [SuspendedTask.failure?]
  obtain ⟨n, hn, hresume⟩ | ⟨hn, ⟨e, hr, hresume⟩ | ⟨fields, hr, hresume⟩⟩ :=
    resume_cases allNodes t
  · simp only [hresume, hn, TaskState.failure?, SuspendedTask.failure?]
    cases (t.hook.answer t.group.type).result t.plugin t.group.type with
    | error e => rfl
    | ok fields => simp only [Option.map_map, Failure.after_comp_after]
  · simp only [hresume, hn, hr, TaskState.failure?]
  · simp only [hresume, hn, hr, failure?_ask]
    exact Option.map_id_apply.symm

/-! ### Rounds -/

/-- **A round ends in the first failure without suspensions**, or else takes
one suspension off the failures of the tasks that are suspended again. -/
theorem gather_cases {α : Type} {f : α → TaskState × List PluginCall}
    {failure : α → Option Failure} (hf : ∀ a, (f a).1.failure? = failure a) (tasks : List α) :
    (∃ e, gather (tasks.map f) = .error e ∧ Failure.earliest (tasks.map failure) = some ⟨0, e⟩)
      ∨ ∃ r, gather (tasks.map f) = .ok r
        ∧ Failure.earliest (tasks.map failure)
          = (Failure.earliest (r.suspended.map SuspendedTask.failure?)).map (Failure.after 1) := by
  induction tasks with
  | nil => exact Or.inr ⟨⟨[], [], []⟩, rfl, rfl⟩
  | cons a rest ih =>
    have ha := hf a
    rw [List.map_cons, List.map_cons, Failure.earliest, List.foldr_cons, ← Failure.earliest, ← ha]
    generalize f a = s
    obtain ⟨state, calls⟩ := s
    cases state with
    | failed e => exact Or.inl ⟨e, rfl, Failure.earlier_zero e _⟩
    | finished e =>
      rcases ih with ⟨e', hgather, hearliest⟩ | ⟨r, hgather, hearliest⟩
      · exact Or.inl ⟨e', by simp only [gather, hgather, Except.bind], hearliest⟩
      · exact Or.inr ⟨⟨r.suspended, e :: r.finished, calls ++ r.calls⟩,
          by simp only [gather, hgather, Except.bind, RoundResult.add], hearliest⟩
    | suspended t =>
      rcases ih with ⟨e', hgather, hearliest⟩ | ⟨r, hgather, hearliest⟩
      · refine Or.inl ⟨e', by simp only [gather, hgather, Except.bind], ?_⟩
        rw [hearliest]
        exact Failure.earlier_after_zero e' t.failure?
      · refine Or.inr ⟨⟨t :: r.suspended, r.finished, calls ++ r.calls⟩,
          by simp only [gather, hgather, Except.bind, RoundResult.add], ?_⟩
        rw [hearliest]
        exact Failure.earlier_map_after 1 t.failure? _

/-- **The rounds end in the earliest failure of their tasks**, and well if
there is none. -/
theorem rounds_outcome (allNodes : List Member) (tasks : List SuspendedTask) :
    (rounds allNodes tasks).map (fun _ => ())
      = verdict (Failure.earliest (tasks.map SuspendedTask.failure?)) := by
  -- The induction is on the rounds; `gather_cases` is what one of them does.
  fun_induction rounds allNodes tasks with
  | case1 => rfl
  | case2 tasks hne e hgather =>
    rcases gather_cases failure?_resume tasks with ⟨e', he, hearliest⟩ | ⟨r, hr, -⟩
    · obtain rfl := Except.error.inj (hgather.symm.trans he)
      rw [hearliest]
      rfl
    · cases hgather.symm.trans hr
  | case3 tasks hne r hgather hless ih =>
    rcases gather_cases failure?_resume tasks with ⟨e, he, -⟩ | ⟨r', hr, hearliest⟩
    · cases hgather.symm.trans he
    · obtain rfl := Except.ok.inj (hgather.symm.trans hr)
      rw [hearliest, verdict_map_after, ← ih]
      cases rounds allNodes r.suspended <;> rfl

/-- **A schedule ends in the earliest failure of the types**, and well if there
is none. -/
theorem run_outcome (allNodes : List Member) (plugins : List Plugin) (groups : List Group) :
    (run allNodes plugins groups).map (fun _ => ())
      = verdict (Failure.earliest
        ((groups.map (·.type)).map fun t => Plugin.failure? t plugins)) := by
  rw [List.map_map]
  show _ = verdict (Failure.earliest (groups.map fun g => Plugin.failure? g.type plugins))
  unfold run
  rcases gather_cases (fun g => failure?_ask g plugins []) groups with
    ⟨e, he, hearliest⟩ | ⟨r, hr, hearliest⟩
  · rw [he, hearliest]
    rfl
  · rw [hr, hearliest, verdict_map_after, ← rounds_outcome allNodes]
    show ((rounds allNodes r.suspended).bind _).map _ = _
    cases rounds allNodes r.suspended <;> rfl

/-- **If a schedule ends well, no plugin has failed**, and every type is
finished with the maps that the plugins add to it. -/
theorem finished_perm_of_run_eq_ok {plugins : List Plugin} {groups : List Group} {r : Result}
    (h : run allNodes plugins groups = .ok r) :
    List.Perm r.finished (groups.map fun g => ⟨g, Plugin.addedMaps g.type plugins⟩) := by
  have houtcome := run_outcome allNodes plugins groups
  rw [h] at houtcome
  have hnone : Failure.earliest ((groups.map (·.type)).map fun t => Plugin.failure? t plugins)
      = none := by
    cases hearliest : Failure.earliest
        ((groups.map (·.type)).map fun t => Plugin.failure? t plugins) with
    | none => rfl
    | some f => rw [hearliest] at houtcome; cases houtcome
  have hanswers : ∀ g ∈ groups, ∀ p ∈ plugins, p.Answers g.type := fun g hg p hp =>
    Plugin.answers_of_not_failsWith
      (earliest_eq_none_iff.1 hnone g.type (List.mem_map_of_mem hg) p hp)
  obtain ⟨r', hr', hperm⟩ := run_eq_ok_of_answers allNodes hanswers
  obtain rfl := Except.ok.inj (h.symm.trans hr')
  exact hperm

end Schedule

end ContentGraph
