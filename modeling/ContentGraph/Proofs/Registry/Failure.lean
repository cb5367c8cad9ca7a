import ContentGraph.Proofs.Plugin.Failure
import ContentGraph.Proofs.Registry.Build

/-!
# A build is all or nothing

Between the nodes and a registry a build can end in two ways. Types with one
key end it before any plugin is asked, so that it ends alike whatever the
plugins are. A plugin that fails ends it too, and of several failures it is the
earliest one that is reported: plugins that come later are not asked for its
type, and what fails later for other types does not replace it. If neither is
the case there is a registry (`Build.run_all_or_nothing`).
-/

namespace ContentGraph.Build

/-- Without collisions a build ends in the earliest failure of the types, and
well if there is none. -/
theorem run_of_earliest {c : Collection} (h : ¬ c.KeysCollide) (plugins : List Plugin)
    (config : SiteConfig) (engine : Engine) :
    match Failure.earliest (c.contentTypes.map fun t => Plugin.failure? t plugins) with
    | some f => run c ⟨.plugins plugins, config, engine⟩ = .error (.extensionFailed f.error)
    | none => ∃ b, run c ⟨.plugins plugins, config, engine⟩ = .ok b := by
  rw [run_eq_of_not_keysCollide h]
  have houtcome := Schedule.run_outcome c.members plugins c.groups
  rw [Collection.map_type_groups] at houtcome
  cases hearliest : Failure.earliest (c.contentTypes.map fun t => Plugin.failure? t plugins) with
  | some f =>
    rw [hearliest] at houtcome
    cases hrun : Schedule.run c.members plugins c.groups with
    | error e => rw [hrun] at houtcome; cases houtcome; rfl
    | ok r => rw [hrun] at houtcome; cases houtcome
  | none =>
    rw [hearliest] at houtcome
    cases hrun : Schedule.run c.members plugins c.groups with
    | error e => rw [hrun] at houtcome; cases houtcome
    | ok r => exact ⟨_, rfl⟩

/-- **A build comes to a registry or to one error**, for every collection and
all plugins, however they suspend. Types with one key are reported without any
plugin, for what is reported is the same whatever the plugins are. Otherwise
the failure after the fewest suspensions is reported, with the type it is
about and the error of its hook. Without failures there is a registry. -/
theorem run_all_or_nothing (c : Collection) (plugins : List Plugin) (config : SiteConfig)
    (engine : Engine) :
    let built (plugins : List Plugin) := run c ⟨.plugins plugins, config, engine⟩
    (c.KeysCollide →
        ∃ first second, (first ≠ second ∧ Text.camelCase first = Text.camelCase second
            ∧ c.HasContentType first ∧ c.HasContentType second)
          ∧ ∀ others, built others = .error (.sameKey first second (Text.camelCase second)))
      ∧ (¬ c.KeysCollide →
        ((∃ type, c.HasContentType type ∧ ∃ p ∈ plugins, ∃ e, p.FailsWith type e) →
          ∃ type f, Schedule.IsFirstToFail plugins c.contentTypes type f ∧ f.error.type = type
            ∧ built plugins = .error (.extensionFailed f.error))
        ∧ ((∀ type, c.HasContentType type → ∀ p ∈ plugins, ∀ e, ¬ p.FailsWith type e) →
          ∃ b, built plugins = .ok b)) := by
  intro built
  constructor
  · intro h
    obtain ⟨first, second, hpair, herror⟩ := exists_forall_run_eq_error h
    exact ⟨first, second, hpair, fun others => herror _⟩
  · intro h
    have hrun := run_of_earliest h plugins config engine
    cases hearliest : Failure.earliest (c.contentTypes.map fun t => Plugin.failure? t plugins) with
    | some f =>
      rw [hearliest] at hrun
      obtain ⟨type, hfirst⟩ := Schedule.isFirstToFail_of_earliest hearliest
      refine ⟨fun _ => ⟨type, f, hfirst, hfirst.error_type, hrun⟩, fun hnone => ?_⟩
      have hall := Schedule.earliest_eq_none_iff.2 fun t ht =>
        hnone t (Collection.mem_contentTypes.1 ht)
      cases hearliest.symm.trans hall
    | none =>
      rw [hearliest] at hrun
      refine ⟨fun hsome => ?_, fun _ => hrun⟩
      obtain ⟨t, ht, p, hp, e, he⟩ := hsome
      exact absurd he (Schedule.earliest_eq_none_iff.1 hearliest t
        (Collection.mem_contentTypes.2 ht) p hp e)

/-- A plugin that fails for every type, for tags after it has suspended once. -/
def strictPlugin : Plugin :=
  ⟨"strict", some ⟨fun type => if type = "Tag" then 1 else 0,
    fun _ => .fails "RuntimeError" "not allowed"⟩⟩

/-- The pages come first among the groups, but a slow plugin is asked about
them before the strict one, so that the tag is the first to fail. -/
theorem strictPlugin_fails_for_tag :
    ¬ (Collection.ofNodes mixedNodes).KeysCollide
      ∧ run (.ofNodes mixedNodes) ⟨.plugins [slowPlugin, strictPlugin], .empty, .standard⟩
        = .error (.extensionFailed ⟨"Tag", "strict", "RuntimeError", "not allowed"⟩) := by
  have hkeys : ¬ (Collection.ofNodes mixedNodes).KeysCollide :=
    Collection.nodup_keys_iff.1 (by decide)
  have htypes : (Collection.ofNodes mixedNodes).contentTypes = ["blog_post", "Tag"] := by decide
  have hpost : Plugin.failure? "blog_post" [slowPlugin, strictPlugin]
      = some ⟨2, ⟨"blog_post", "strict", "RuntimeError", "not allowed"⟩⟩ := rfl
  have htag : Plugin.failure? "Tag" [slowPlugin, strictPlugin]
      = some ⟨1, ⟨"Tag", "strict", "RuntimeError", "not allowed"⟩⟩ := rfl
  obtain ⟨-, hno⟩ := run_all_or_nothing (.ofNodes mixedNodes) [slowPlugin, strictPlugin]
    .empty .standard
  obtain ⟨type, f, hfirst, -, hrun⟩ := (hno hkeys).1
    ⟨"Tag", Collection.mem_contentTypes.1 (by rw [htypes]; decide), strictPlugin, by simp,
      _, _, rfl, rfl⟩
  have hf := Plugin.failure?_eq_some_iff.2 hfirst.1
  have hle := hfirst.le (t := "Tag") (by rw [htypes]; decide) (Plugin.failure?_eq_some_iff.1 htag)
  have hmem := hfirst.mem
  rw [htypes, List.mem_cons, List.mem_singleton] at hmem
  rcases hmem with rfl | rfl
  · obtain rfl := Option.some.inj (hpost.symm.trans hf)
    exact absurd hle (by decide)
  · obtain rfl := Option.some.inj (htag.symm.trans hf)
    exact ⟨hkeys, hrun⟩

end ContentGraph.Build
