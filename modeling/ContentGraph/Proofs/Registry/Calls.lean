import ContentGraph.Proofs.Plugin.Calls
import ContentGraph.Proofs.Registry.Failure

/-!
# Every plugin is asked once for every type

A build asks the plugins about all types side by side, and the suspensions of their
hooks mix the calls. Picked out by type, the calls are what they would be if there
were no other type: each plugin that has a hook, once and in the order in which the
plugins are registered, with the nodes of the type and all nodes
(`Build.run_asks_once`). Roots have no type to be asked about.
-/

namespace ContentGraph.Build

/-- **Every plugin is asked once for every type**, whatever the collection and however
the plugins suspend. If no two types have one key and no plugin fails for a type that
holds content, there is a registry. The calls made for it are about these types, and
those about each of them are one for each plugin that has a hook, in the order of the
plugins, with all nodes of the type and all nodes of the collection.

Asked about one type, plugins that do not fail give their maps in their order, without
the empty ones, and if some fail, those up to the first of them are asked and no
others. -/
theorem run_asks_once (c : Collection) (plugins : List Plugin) (config : SiteConfig)
    (engine : Engine) :
    (¬ c.KeysCollide →
      (∀ type, c.HasContentType type → ∀ p ∈ plugins, ∀ e, ¬ p.FailsWith type e) →
      ∃ b, run c ⟨.plugins plugins, config, engine⟩ = .ok b
        ∧ (∀ call ∈ b.calls, c.HasContentType call.type)
        ∧ ∀ type, c.HasContentType type →
          (b.calls.filter fun call => call.type == type)
            = (plugins.filter fun p => p.hook.isSome).map fun p =>
                ⟨p.name, type, c.ofType type, c.members⟩)
    ∧ ∀ (allNodes : List Member) (group : Group),
      ((∀ p ∈ plugins, ∀ e, ¬ p.FailsWith group.type e) →
        Plugin.collect allNodes group plugins []
          = (.ok (Plugin.nonEmpty (plugins.map (Plugin.fieldsFor group.type))),
            Plugin.callsFor allNodes group plugins))
      ∧ ((∃ p ∈ plugins, ∃ e, p.FailsWith group.type e) →
        ∃ before p after e, plugins = before ++ p :: after
          ∧ (∀ q ∈ before, ∀ e, ¬ q.FailsWith group.type e) ∧ p.FailsWith group.type e
          ∧ Plugin.collect allNodes group plugins []
            = (.error e, Plugin.callsFor allNodes group (before ++ [p]))) := by
  refine ⟨fun hkeys hplugins => ?_, fun allNodes group => ⟨fun hplugins => ?_, fun hfails => ?_⟩⟩
  · have htypes : (c.groups.map (·.type)).Nodup := c.map_type_groups ▸ c.nodup_contentTypes
    have hanswers : ∀ g ∈ c.groups, ∀ p ∈ plugins, p.Answers g.type := by
      intro g hg p hp
      have htype : g.type ∈ c.contentTypes := c.map_type_groups ▸ List.mem_map_of_mem hg
      exact Plugin.answers_of_not_failsWith
        (hplugins _ (Collection.mem_contentTypes.1 htype) p hp)
    obtain ⟨r, hr, -⟩ := Schedule.run_eq_ok_of_answers c.members hanswers
    refine ⟨_, (run_eq_of_not_keysCollide hkeys).trans (by rw [hr]), fun call hcall => ?_,
      fun type htype => ?_⟩
    · have hmem := Schedule.type_mem_of_mem_calls_run htypes hr hcall
      rw [c.map_type_groups] at hmem
      exact Collection.mem_contentTypes.1 hmem
    · have hgroup : Group.mk type (c.ofType type) ∈ c.groups := by
        rw [c.groups_eq_map]
        exact List.mem_map_of_mem (Collection.mem_contentTypes.2 htype)
      exact Schedule.callsAbout_run htypes hr hgroup
  · exact Plugin.collect_eq_ok fun p hp => Plugin.answers_of_not_failsWith (hplugins p hp)
  · obtain ⟨before, p, after, e, rfl, hbefore, hp⟩ := Plugin.exists_first_failsWith hfails
    exact ⟨before, p, after, e, rfl, hbefore, hp, Plugin.collect_of_failsWith
      (fun q hq => Plugin.answers_of_not_failsWith (hbefore q hq)) hp⟩

/-- A plugin without a hook. -/
def idlePlugin : Plugin := ⟨"idle", none⟩

/-- A plugin that adds teasers to every type, at once. -/
def teaserPlugin : Plugin :=
  ⟨"teaser", some ⟨fun _ => 0, fun _ => .adds [("teasers", { type := .listOf .string })]⟩⟩

/-- The slow plugin lets the tag be asked about first, and still it and the next one
are asked about both pages once. The idle one is not asked. -/
theorem mixedNodes_asked_once :
    ¬ (Collection.ofNodes mixedNodes).KeysCollide
      ∧ (∀ type, (Collection.ofNodes mixedNodes).HasContentType type →
          ∀ p ∈ [slowPlugin, idlePlugin, teaserPlugin], ∀ e, ¬ p.FailsWith type e)
      ∧ ∃ b, run (.ofNodes mixedNodes)
            ⟨.plugins [slowPlugin, idlePlugin, teaserPlugin], .empty, .standard⟩ = .ok b
        ∧ (∀ call ∈ b.calls, call.type ≠ "root")
        ∧ (b.calls.filter fun call => call.type == "blog_post").map
            (fun call => (call.plugin, call.typeNodes.map (·.node.id), call.allNodes.length))
          = [("slow", ["first", "second"], 4), ("teaser", ["first", "second"], 4)] := by
  have hkeys : ¬ (Collection.ofNodes mixedNodes).KeysCollide :=
    Collection.nodup_keys_iff.1 (by decide)
  have hplugins : ∀ type, (Collection.ofNodes mixedNodes).HasContentType type →
      ∀ p ∈ [slowPlugin, idlePlugin, teaserPlugin], ∀ e, ¬ p.FailsWith type e := by
    rintro type - p hp e ⟨hook, hhook, hresult⟩
    simp only [List.mem_cons, List.not_mem_nil, or_false] at hp
    rcases hp with rfl | rfl | rfl <;> cases hhook <;> cases hresult
  obtain ⟨b, hb, htypes, hcalls⟩ := (run_asks_once (.ofNodes mixedNodes)
    [slowPlugin, idlePlugin, teaserPlugin] .empty .standard).1 hkeys hplugins
  have hpage : (Collection.ofNodes mixedNodes).HasContentType "blog_post" :=
    Collection.mem_contentTypes.1 (by decide)
  refine ⟨hkeys, hplugins, b, hb, fun call hcall hroot => ?_, ?_⟩
  · exact absurd (hroot ▸ (htypes call hcall).1) (by decide)
  · rw [hcalls "blog_post" hpage]
    decide

/-- The plugin after the strict one is not asked. -/
example : (Plugin.collect [] ⟨"Tag", []⟩ [slowPlugin, strictPlugin, teaserPlugin] []).2
    = [⟨"slow", "Tag", [], []⟩, ⟨"strict", "Tag", [], []⟩] := rfl

end ContentGraph.Build
