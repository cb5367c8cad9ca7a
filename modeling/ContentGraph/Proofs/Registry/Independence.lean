import ContentGraph.Proofs.Inference.Fields
import ContentGraph.Proofs.Registry.Build

/-!
# A registry does not depend on the schedule

How often hooks suspend decides in which order the types are finished, and the
registry holds them in that order. Two plugins with the same answers
(`Plugin.SameAnswers`) may suspend as they like, so two builds that differ in
nothing else come to registries whose descriptors are a permutation of each
other.

What is read off a registry does not show the difference. A descriptor is found
by its key or its name, each of which stands once; and the fields of a type,
which are computed from the list of all types, look into that list by name
only. So the two registries agree in everything but the order
(`Registry.Agree`).
-/

namespace ContentGraph

namespace Plugin

/-- **Two plugins have the same answers**: both have a hook or neither has,
and for every type the hooks answer alike. How often they suspend is left
open, so one of them may answer at once. -/
def SameAnswers (p q : Plugin) : Prop := p.hook.map Hook.answer = q.hook.map Hook.answer

theorem SameAnswers.fieldsFor_eq {p q : Plugin} (h : p.SameAnswers q) (type : String) :
    p.fieldsFor type = q.fieldsFor type := by
  unfold SameAnswers at h
  unfold fieldsFor
  cases hp : p.hook with
  | none =>
    rw [hp, Option.map_none, eq_comm, Option.map_eq_none_iff] at h
    rw [h]
  | some hook =>
    rw [hp, Option.map_some, eq_comm] at h
    obtain ⟨hook', hq, hanswer⟩ := Option.map_eq_some_iff.1 h
    simp only [hq, hanswer]

theorem SameAnswers.neverFails {p q : Plugin} (h : p.SameAnswers q) (hp : p.NeverFails) :
    q.NeverFails := by
  intro hook hq type
  unfold SameAnswers at h
  rw [hq] at h
  obtain ⟨hook', hp', hanswer⟩ := Option.map_eq_some_iff.1 h
  rw [← hanswer]
  exact hp hook' hp' type

theorem forall_neverFails_of_forall₂ {plugins others : List Plugin}
    (h : List.Forall₂ SameAnswers plugins others) (hplugins : ∀ p ∈ plugins, p.NeverFails) :
    ∀ q ∈ others, q.NeverFails := by
  induction h with
  | nil => exact fun q hq => absurd hq List.not_mem_nil
  | cons hsame _ ih =>
    obtain ⟨hp, hrest⟩ := List.forall_mem_cons.1 hplugins
    exact List.forall_mem_cons.2 ⟨hsame.neverFails hp, ih hrest⟩

theorem addedMaps_congr {plugins others : List Plugin}
    (h : List.Forall₂ SameAnswers plugins others) (type : String) :
    addedMaps type plugins = addedMaps type others := by
  unfold addedMaps
  refine congrArg nonEmpty ?_
  induction h with
  | nil => rfl
  | cons hp _ ih => rw [List.map_cons, List.map_cons, hp.fieldsFor_eq type, ih]

end Plugin

namespace Registry

/-- **Two registries agree but for their order**: they have the same keys and
names, what is found under a key or a name has the same nodes, added fields
and arguments, and every type has the same fields and finds the same nodes in
both. -/
structure Agree (r s : Registry) : Prop where
  /-- The keys are the same, in some order. -/
  keys_perm : r.keys.Perm s.keys
  /-- The names are the same, in some order. -/
  tags_perm : r.tags.Perm s.tags
  /-- The same is found under every key. -/
  get?_eq : ∀ key, r.get? key = s.get? key
  /-- The same is found under every name. -/
  byTag?_eq : ∀ name, r.byTag? name = s.byTag? name
  /-- A type has the same fields. -/
  fields_eq : ∀ d, r.fields d = s.fields d
  /-- A type finds the same nodes. -/
  lookup_eq : ∀ d args, r.lookup d args = s.lookup d args
  /-- References are followed in the same context. -/
  context_eq : r.context = s.context

/-- **Permuted descriptors make registries that agree.** -/
theorem agree_of_perm {descriptors others : List TypeDescriptor} {context : Context}
    (h : descriptors.Perm others) (hkeys : (descriptors.map (·.key)).Nodup)
    (htags : (descriptors.map (·.name)).Nodup) :
    Agree ⟨descriptors, context, .standard⟩ ⟨others, context, .standard⟩ := by
  constructor
  case keys_perm => exact h.map _
  case tags_perm => exact h.map _
  case get?_eq => exact find?_eq_of_perm h hkeys
  case byTag?_eq => exact find?_eq_of_perm h htags
  case fields_eq =>
    -- Fields are computed from all types, which are only looked up by name.
    intro d
    refine congrArg (typeFields · d.pluginFields) (Shape.fields_congr (fun type => ?_) _)
    refine LinkTarget.find?_of_perm (h.map _) ?_ type
    rwa [List.map_map]
  case lookup_eq => exact fun _ _ => rfl
  case context_eq => rfl

end Registry

namespace Build

/-- **How often hooks suspend does not matter**: for every collection without
collisions and all plugins that do not fail, plugins with the same answers
come to a registry that agrees. -/
theorem agree_of_sameAnswers (c : Collection) (config : SiteConfig) (hkeys : ¬ c.KeysCollide)
    {plugins others : List Plugin} (hplugins : ∀ p ∈ plugins, p.NeverFails)
    (hsame : List.Forall₂ Plugin.SameAnswers plugins others) :
    ∃ b b', run c ⟨.plugins plugins, config, .standard⟩ = .ok b
      ∧ run c ⟨.plugins others, config, .standard⟩ = .ok b' ∧ b.registry.Agree b'.registry := by
  obtain ⟨descriptors, calls, hrun, hperm⟩ :=
    exists_run_eq_ok_of_neverFails hplugins hkeys config .standard
  obtain ⟨descriptors', calls', hrun', hperm'⟩ := exists_run_eq_ok_of_neverFails
    (Plugin.forall_neverFails_of_forall₂ hsame hplugins) hkeys config .standard
  have hdescriptor : descriptorOf .standard plugins = descriptorOf .standard others := by
    funext g
    unfold descriptorOf
    rw [Plugin.addedMaps_congr hsame]
  rw [← hdescriptor] at hperm'
  have hrepresents : Registry.Represents ⟨descriptors, ⟨c, config⟩, .standard⟩ c :=
    Registry.represents_of_perm (group_perm hperm) hkeys
  exact ⟨_, _, hrun, hrun', Registry.agree_of_perm (hperm.trans hperm'.symm)
    hrepresents.nodup_keys hrepresents.nodup_tags⟩

/-- A plugin that adds the number of words to every type, and suspends once for
one of them. -/
def countingPlugin (type : String) : Plugin :=
  ⟨"counting", some ⟨fun t => if t = type then 1 else 0,
    fun _ => .adds [("words", { type := .one .int })]⟩⟩

/-- Suspended for the pages or for the tag, the plugin lets the other type
finish first, and the registries agree. -/
theorem countingPlugin_agrees :
    ¬ (Collection.ofNodes mixedNodes).KeysCollide
      ∧ (∀ p ∈ [countingPlugin "blog_post"], p.NeverFails)
      ∧ List.Forall₂ Plugin.SameAnswers [countingPlugin "blog_post"] [countingPlugin "Tag"]
      ∧ ∃ b b',
        run (.ofNodes mixedNodes) ⟨.plugins [countingPlugin "blog_post"], .empty, .standard⟩ = .ok b
          ∧ run (.ofNodes mixedNodes) ⟨.plugins [countingPlugin "Tag"], .empty, .standard⟩ = .ok b'
          ∧ b.registry.keys = ["tag", "blogPost"] ∧ b'.registry.keys = ["blogPost", "tag"]
          ∧ b.registry.Agree b'.registry := by
  have hkeys : ¬ (Collection.ofNodes mixedNodes).KeysCollide :=
    Collection.nodup_keys_iff.1 (by decide)
  have hfails : ∀ p ∈ [countingPlugin "blog_post"], p.NeverFails :=
    List.forall_mem_singleton.2 fun hook hhook type => by cases hhook; exact ⟨_, rfl⟩
  have hsame : List.Forall₂ Plugin.SameAnswers [countingPlugin "blog_post"]
      [countingPlugin "Tag"] := .cons rfl .nil
  obtain ⟨b, b', hb, hb', hagree⟩ :=
    agree_of_sameAnswers (.ofNodes mixedNodes) .empty hkeys hfails hsame
  refine ⟨hkeys, hfails, hsame, b, b', hb, hb', ?_, ?_, hagree⟩
  · have hrun : (run (.ofNodes mixedNodes)
        ⟨.plugins [countingPlugin "blog_post"], .empty, .standard⟩).map (fun b => b.registry.keys)
          = .ok ["tag", "blogPost"] := by decide +kernel
    rw [hb] at hrun
    exact Except.ok.inj hrun
  · have hrun : (run (.ofNodes mixedNodes)
        ⟨.plugins [countingPlugin "Tag"], .empty, .standard⟩).map (fun b => b.registry.keys)
          = .ok ["blogPost", "tag"] := by decide +kernel
    rw [hb'] at hrun
    exact Except.ok.inj hrun

end Build

end ContentGraph
