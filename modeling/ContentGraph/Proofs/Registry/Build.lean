import ContentGraph.Proofs.Node.Attribute
import ContentGraph.Proofs.Node.Grouping
import ContentGraph.Proofs.Plugin.Schedule
import ContentGraph.Registry.Build
import Mathlib.Data.List.Nodup

/-!
# A registry holds every type once

Between the nodes and the registry stand a grouping that drops the roots, a
comparison of keys, tasks that finish in an order of their own, and two
look-ups, by key and by name. Nothing is lost and nothing overwritten on the
way: a registry *represents* its collection (`Registry.Represents`), which
says that its keys and its names are those of the types that hold content,
and that every node is held and accepted by the descriptor of its type and by
no other.

A build comes to such a registry unless two types have one key
(`Build.run_represents`). That the order in which the types are finished does
not matter is why all statements here go through permutations of the groups.
-/

namespace ContentGraph

namespace Collection

variable {c : Collection}

/-- **Two types have one key.** -/
def KeysCollide (c : Collection) : Prop :=
  ∃ s t, c.HasContentType s ∧ c.HasContentType t ∧ s ≠ t ∧ Text.camelCase s = Text.camelCase t

theorem nodup_keys_iff : (c.contentTypes.map Text.camelCase).Nodup ↔ ¬ c.KeysCollide := by
  rw [List.nodup_map_iff_inj_on c.nodup_contentTypes]
  simp only [mem_contentTypes]
  constructor
  · rintro h ⟨s, t, hs, ht, hne, hkey⟩
    exact hne (h s hs t ht hkey)
  · intro h s hs t ht hkey
    exact Decidable.byContradiction fun hne => h ⟨s, t, hs, ht, hne, hkey⟩

end Collection

/-! ## The comparison of keys -/

namespace Build

/-- **Keys are compared exactly.** After types with different keys, either
all types have different keys, or the first that does not is reported,
together with the one before it that has its key. -/
theorem checkKeysAfter_cases (seen types : List String)
    (hseen : (seen.map Text.camelCase).Nodup) :
    (checkKeysAfter seen types = .ok () ∧ ((seen ++ types).map Text.camelCase).Nodup)
      ∨ ∃ first second, checkKeysAfter seen types
            = .error (.sameKey first second (Text.camelCase second))
          ∧ Text.camelCase first = Text.camelCase second
          ∧ List.Sublist [first, second] (seen ++ types) := by
  induction types generalizing seen with
  | nil => exact Or.inl ⟨rfl, by rwa [List.append_nil]⟩
  | cons t rest ih =>
    unfold checkKeysAfter
    cases hfind : seen.find? fun other => Text.camelCase other == Text.camelCase t with
    | some other =>
      have hkey : Text.camelCase other = Text.camelCase t := by
        simpa only [beq_iff_eq] using List.find?_some hfind
      have hmem := List.mem_of_find?_eq_some hfind
      exact Or.inr ⟨other, t, rfl, hkey,
        (List.singleton_sublist.2 hmem).append ((List.nil_sublist rest).cons_cons t)⟩
    | none =>
      have hnew : ∀ s ∈ seen, Text.camelCase s ≠ Text.camelCase t := by
        simpa only [beq_iff_eq] using List.find?_eq_none.1 hfind
      have hnext : ((seen ++ [t]).map Text.camelCase).Nodup := by
        rw [List.map_append, List.nodup_append]
        refine ⟨hseen, List.nodup_singleton _, ?_⟩
        rintro _ hs _ ht rfl
        obtain ⟨s, hs, heq⟩ := List.mem_map.1 hs
        exact hnew s hs (heq.trans (List.mem_singleton.1 ht))
      simpa only [List.append_assoc, List.singleton_append] using ih (seen ++ [t]) hnext

theorem checkKeys_eq_ok {types : List String} (h : (types.map Text.camelCase).Nodup) :
    checkKeys types = .ok () := by
  rcases checkKeysAfter_cases [] types List.nodup_nil with ⟨hok, -⟩ | ⟨s, t, -, hkey, hsub⟩
  · exact hok
  · have hpair := (hsub.map Text.camelCase).nodup h
    rw [List.map_cons, hkey] at hpair
    exact absurd List.mem_cons_self (List.nodup_cons.1 hpair).1

theorem exists_checkKeys_eq_error {types : List String}
    (h : ¬ (types.map Text.camelCase).Nodup) :
    ∃ first second, checkKeys types = .error (.sameKey first second (Text.camelCase second))
      ∧ Text.camelCase first = Text.camelCase second ∧ List.Sublist [first, second] types := by
  rcases checkKeysAfter_cases [] types List.nodup_nil with
    ⟨-, hnodup⟩ | ⟨first, second, herror, hkey, hsub⟩
  · exact absurd hnodup h
  · exact ⟨first, second, herror, hkey, hsub⟩

end Build

/-! ## Registries that represent a collection -/

/-- **A registry represents a collection**: it has one descriptor for every
type that holds content, which holds the nodes of the type and accepts
them. -/
structure Registry.Represents (r : Registry) (c : Collection) : Prop where
  /-- The names are those of the types that hold content. -/
  mem_tags : ∀ type, type ∈ r.tags ↔ c.HasContentType type
  /-- No name stands twice. -/
  nodup_tags : r.tags.Nodup
  /-- The keys are those of the types that hold content. -/
  mem_keys : ∀ key, key ∈ r.keys ↔ ∃ type, c.HasContentType type ∧ Text.camelCase type = key
  /-- No key stands twice. -/
  nodup_keys : r.keys.Nodup
  /-- A type is found by its key and by its name, and holds its nodes in the
  order of the collection. -/
  lookup : ∀ type, c.HasContentType type →
    ∃ d, r.get? (Text.camelCase type) = some d ∧ r.byTag? type = some d
      ∧ d.name = type ∧ d.members = c.ofType type
  /-- A node of such a type is held, and accepted, by one descriptor. -/
  held : ∀ m ∈ c.members, isReservedRoot m.node.type = false →
    ∃ d ∈ r.descriptors, ∀ e ∈ r.descriptors,
      (m ∈ e.members ↔ e = d) ∧ (e.accepts m.node = true ↔ e = d)
  /-- A root is held, and accepted, by none. -/
  roots : ∀ m ∈ c.members, isReservedRoot m.node.type = true →
    ∀ d ∈ r.descriptors, m ∉ d.members ∧ d.accepts m.node = false

namespace Registry

/-- With different keys, an element is found by its key. -/
theorem find?_eq_some_of_nodup {α : Type} [DecidableEq α] {f : TypeDescriptor → α}
    {descriptors : List TypeDescriptor} (h : (descriptors.map f).Nodup) {d : TypeDescriptor}
    (hd : d ∈ descriptors) : descriptors.find? (fun e => f e == f d) = some d := by
  cases hfind : descriptors.find? fun e => f e == f d with
  | none => exact absurd (beq_self_eq_true (f d)) (List.find?_eq_none.1 hfind d hd)
  | some e =>
    have hkey : f e = f d := by simpa only [beq_iff_eq] using List.find?_some hfind
    have hmem := List.mem_of_find?_eq_some hfind
    rw [List.inj_on_of_nodup_map h hmem hd hkey]

section OfGroups

variable {r : Registry} {c : Collection}
  (hperm : List.Perm (r.descriptors.map (·.group)) c.groups)
include hperm

theorem tags_perm : List.Perm r.tags c.contentTypes := by
  have h := hperm.map (·.type)
  rw [List.map_map, Collection.map_type_groups] at h
  exact h

theorem keys_perm : List.Perm r.keys (c.contentTypes.map Text.camelCase) := by
  have h := (tags_perm hperm).map Text.camelCase
  rw [tags, List.map_map] at h
  exact h

/-- A descriptor holds the nodes of its type. -/
theorem members_eq_ofType {d : TypeDescriptor} (hd : d ∈ r.descriptors) :
    d.members = c.ofType d.name := by
  have hmem := hperm.mem_iff.1 (List.mem_map_of_mem hd)
  rw [Collection.groups_eq_map] at hmem
  obtain ⟨t, -, ht⟩ := List.mem_map.1 hmem
  unfold TypeDescriptor.members TypeDescriptor.name
  rw [← ht]

/-- For a node of the collection, to be held and to be accepted are both to
have the type. -/
theorem mem_members_iff {m : Member} (hm : m ∈ c.members) {d : TypeDescriptor}
    (hd : d ∈ r.descriptors) : m ∈ d.members ↔ m.node.type = d.name := by
  rw [members_eq_ofType hperm hd, Collection.ofType, List.mem_filter, beq_iff_eq]
  exact ⟨fun h => h.2, fun h => ⟨hm, h⟩⟩

/-- **Descriptors of the groups of a collection represent it**, in any order,
if no keys collide. -/
theorem represents_of_perm (hkeys : ¬ c.KeysCollide) : r.Represents c := by
  have htags := tags_perm hperm
  have hkeysNodup := (keys_perm hperm).nodup_iff.2 (Collection.nodup_keys_iff.2 hkeys)
  have htagsNodup := htags.nodup_iff.2 c.nodup_contentTypes
  have hmemTags : ∀ type, type ∈ r.tags ↔ c.HasContentType type := fun type =>
    htags.mem_iff.trans Collection.mem_contentTypes
  -- The descriptor of a type that holds content.
  have hfound : ∀ type, c.HasContentType type → ∃ d ∈ r.descriptors, d.name = type :=
    fun type htype => List.mem_map.1 ((hmemTags type).2 htype)
  constructor
  case mem_tags => exact hmemTags
  case nodup_tags => exact htagsNodup
  case nodup_keys => exact hkeysNodup
  case mem_keys =>
    intro key
    rw [(keys_perm hperm).mem_iff, List.mem_map]
    simp only [Collection.mem_contentTypes]
  case lookup =>
    intro type htype
    obtain ⟨d, hd, rfl⟩ := hfound type htype
    exact ⟨d, find?_eq_some_of_nodup hkeysNodup hd, find?_eq_some_of_nodup htagsNodup hd, rfl,
      members_eq_ofType hperm hd⟩
  case held =>
    intro m hm hroot
    obtain ⟨d, hd, hname⟩ := hfound m.node.type ⟨hroot, m, hm, rfl⟩
    refine ⟨d, hd, fun e he => ?_⟩
    have hiff : m.node.type = e.name ↔ e = d := by
      rw [← hname]
      exact ⟨fun h => List.inj_on_of_nodup_map htagsNodup he hd h.symm, fun h => h ▸ rfl⟩
    exact ⟨(mem_members_iff hperm hm he).trans hiff, beq_iff_eq.trans hiff⟩
  case roots =>
    intro m hm hroot d hd
    have hne : m.node.type ≠ d.name := by
      intro heq
      have htype := (hmemTags d.name).1 (List.mem_map_of_mem hd)
      rw [heq, htype.1] at hroot
      cases hroot
    exact ⟨mt (mem_members_iff hperm hm hd).1 hne, beq_eq_false_iff_ne.2 hne⟩

end OfGroups

end Registry

/-! ## Builds -/

namespace Build

variable {c : Collection} {plugins : List Plugin} {config : SiteConfig} {engine : Engine}

/-- **Types with one key are reported, whatever else is asked for**: the keys
are compared first. -/
theorem exists_forall_run_eq_error (h : c.KeysCollide) :
    ∃ first second, (first ≠ second ∧ Text.camelCase first = Text.camelCase second
        ∧ c.HasContentType first ∧ c.HasContentType second)
      ∧ ∀ options, run c options = .error (.sameKey first second (Text.camelCase second)) := by
  have hnodup : ¬ (c.contentTypes.map Text.camelCase).Nodup := by
    rw [Collection.nodup_keys_iff]
    exact not_not_intro h
  obtain ⟨first, second, hcheck, hkey, hsub⟩ := exists_checkKeys_eq_error hnodup
  have hne : first ≠ second := by
    have hpair := hsub.nodup c.nodup_contentTypes
    rintro rfl
    exact (List.nodup_cons.1 hpair).1 List.mem_cons_self
  refine ⟨first, second, ⟨hne, hkey, ?_, ?_⟩, fun options => ?_⟩
  · exact Collection.mem_contentTypes.1 (hsub.subset List.mem_cons_self)
  · exact Collection.mem_contentTypes.1
      (hsub.subset (List.mem_cons_of_mem _ List.mem_cons_self))
  · show (checkKeys (c.groups.map (·.type))).bind _ = _
    rw [Collection.map_type_groups, hcheck]
    rfl

theorem exists_run_eq_error (h : c.KeysCollide) :
    ∃ first second key,
      run c ⟨.plugins plugins, config, engine⟩ = .error (.sameKey first second key) := by
  obtain ⟨first, second, -, herror⟩ := exists_forall_run_eq_error h
  exact ⟨first, second, _, herror _⟩

/-- Without collisions a build comes to what finishing its groups comes to. -/
theorem run_eq_map_finishAll (h : ¬ c.KeysCollide) (options : BuildOptions) :
    run c options
      = (finishAll options.engine c.members c.groups options.extension).map fun built =>
          ⟨⟨built.1, ⟨c, options.config⟩, options.engine⟩, built.2⟩ := by
  have hcheck : checkKeys (c.groups.map (·.type)) = .ok () := by
    rw [Collection.map_type_groups]
    exact checkKeys_eq_ok (Collection.nodup_keys_iff.2 h)
  show (checkKeys (c.groups.map (·.type))).bind _ = _
  rw [hcheck]
  show (finishAll options.engine c.members c.groups options.extension).bind _ = _
  cases finishAll options.engine c.members c.groups options.extension <;> rfl

/-- Without collisions a build comes to what the schedule of its plugins comes
to. -/
theorem run_eq_of_not_keysCollide (h : ¬ c.KeysCollide) :
    run c ⟨.plugins plugins, config, engine⟩
      = match Schedule.run c.members plugins c.groups with
        | .error e => .error (.extensionFailed e)
        | .ok r => .ok ⟨⟨r.finished.map fun e => finish engine e.group (e.maps.map some),
            ⟨c, config⟩, engine⟩, r.calls⟩ := by
  rw [run_eq_map_finishAll h, finishAll]
  cases Schedule.run c.members plugins c.groups <;> rfl

/-- The descriptor of a type to which plugins that do not fail are asked to
add. -/
def descriptorOf (engine : Engine) (plugins : List Plugin) (g : Group) : TypeDescriptor :=
  finish engine g ((Plugin.addedMaps g.type plugins).map some)

/-- **Without collisions and failures there is a registry**, whose descriptors
are those of the groups. -/
theorem exists_run_eq_ok_of_neverFails (hplugins : ∀ p ∈ plugins, p.NeverFails)
    (h : ¬ c.KeysCollide) (config : SiteConfig) (engine : Engine) :
    ∃ descriptors calls,
      run c ⟨.plugins plugins, config, engine⟩ = .ok ⟨⟨descriptors, ⟨c, config⟩, engine⟩, calls⟩
        ∧ List.Perm descriptors (c.groups.map (descriptorOf engine plugins)) := by
  obtain ⟨result, hrun, hperm⟩ := Schedule.run_eq_ok c.members hplugins c.groups
  refine ⟨_, result.calls, (run_eq_of_not_keysCollide h).trans (by rw [hrun]), ?_⟩
  refine (hperm.map _).trans (.of_eq ?_)
  rw [List.map_map]
  rfl

/-- Descriptors of groups hold the groups, whatever their order. -/
theorem group_perm {descriptors : List TypeDescriptor} {groups : List Group}
    (h : List.Perm descriptors (groups.map (descriptorOf engine plugins))) :
    List.Perm (descriptors.map (·.group)) groups := by
  refine (h.map (·.group)).trans (.of_eq ?_)
  rw [List.map_map]
  exact List.map_id _

theorem exists_run_eq_ok (hplugins : ∀ p ∈ plugins, p.NeverFails) (h : ¬ c.KeysCollide) :
    ∃ b, run c ⟨.plugins plugins, config, engine⟩ = .ok b
      ∧ List.Perm (b.registry.descriptors.map (·.group)) c.groups := by
  obtain ⟨descriptors, calls, hrun, hperm⟩ :=
    exists_run_eq_ok_of_neverFails hplugins h config engine
  exact ⟨_, hrun, group_perm hperm⟩

/-- **Without plugins the registry is that of the groups**, in their order,
and nothing is added to any type. -/
theorem run_no_plugins (h : ¬ c.KeysCollide) (config : SiteConfig) (engine : Engine) :
    run c ⟨.plugins [], config, engine⟩
      = .ok ⟨⟨c.groups.map fun g => finish engine g [], ⟨c, config⟩, engine⟩, []⟩ := by
  rw [run_eq_of_not_keysCollide h, Schedule.run_no_plugins]
  simp only [List.map_map]
  rfl

theorem registry_of_run_eq_ok {b : Build}
    (h : run c ⟨.plugins [], config, engine⟩ = .ok b) :
    b.registry = ⟨c.groups.map fun g => finish engine g [], ⟨c, config⟩, engine⟩ := by
  have hkeys : ¬ c.KeysCollide := by
    intro hcollide
    obtain ⟨_, _, _, herror⟩ := exists_run_eq_error hcollide
    cases herror.symm.trans h
  exact (congrArg Build.registry (Except.ok.inj ((run_no_plugins hkeys _ _).symm.trans h))).symm

/-- **A build registers every type once, or reports two types with one key**,
for every collection, whatever the fields of the nodes and however the plugins
suspend, as long as they do not fail. -/
theorem run_represents (hplugins : ∀ p ∈ plugins, p.NeverFails) (c : Collection)
    (config : SiteConfig) (engine : Engine) :
    let built := run c ⟨.plugins plugins, config, engine⟩
    ((∃ first second key, built = .error (.sameKey first second key)) ↔ c.KeysCollide)
      ∧ (¬ c.KeysCollide → ∃ b, built = .ok b ∧ b.registry.Represents c) := by
  intro built
  have hok (h : ¬ c.KeysCollide) : ∃ b, built = .ok b ∧ b.registry.Represents c := by
    obtain ⟨b, hb, hperm⟩ := exists_run_eq_ok hplugins h
    exact ⟨b, hb, Registry.represents_of_perm hperm h⟩
  refine ⟨⟨?_, exists_run_eq_error⟩, hok⟩
  rintro ⟨first, second, key, herror⟩
  refine Classical.byContradiction fun h => ?_
  obtain ⟨b, hb, -⟩ := hok h
  cases herror.symm.trans hb

/-- A root, two pages and a tag between them. -/
def mixedNodes : List Node :=
  [.ofFields "/" "root" [], .ofFields "first" "blog_post" [], .ofFields "draft" "Tag" [],
    .ofFields "second" "blog_post" []]

/-- A plugin that suspends twice for pages only. -/
def slowPlugin : Plugin :=
  ⟨"slow", some ⟨fun type => if type = "blog_post" then 2 else 0, fun _ => .adds []⟩⟩

/-- Two pages and a tag make a registry of two types, although a plugin lets
the tag finish first. -/
theorem represents_mixedNodes :
    (∀ p ∈ [slowPlugin], p.NeverFails)
      ∧ ∃ b, run (.ofNodes mixedNodes) ⟨.plugins [slowPlugin], .empty, .standard⟩ = .ok b
        ∧ b.registry.Represents (.ofNodes mixedNodes) := by
  have hplugins : ∀ p ∈ [slowPlugin], p.NeverFails := by
    intro p hp hook hhook type
    obtain rfl := List.mem_singleton.1 hp
    cases hhook
    exact ⟨[], rfl⟩
  have hkeys : ¬ (Collection.ofNodes mixedNodes).KeysCollide :=
    Collection.nodup_keys_iff.1 (by decide)
  exact ⟨hplugins, (run_represents hplugins _ _ _).2 hkeys⟩

end Build

end ContentGraph
