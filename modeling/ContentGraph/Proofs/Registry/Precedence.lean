import ContentGraph.Proofs.Plugin.Failure
import ContentGraph.Proofs.Registry.Build
import ContentGraph.Proofs.Schema.Merge

/-!
# Which field of a name a type has

The fields of a type come from several sources: the default ones, those that
are inferred, and what the plugins return, of which each may return nothing.
On the way to the registry the last ones are collected by the task of the type,
the empty ones dropped, and what is left is merged; only when the fields are
asked for is the result written over the others.

None of this shows. The fields are those of all sources merged one by one, in
the order default, inferred, plugins as they are registered
(`Build.fields_of_run`): a name stands where it is first met, and has the field
that is written last.

What a build comes to is said for every build that ends well, whatever the
plugins do (`Build.registry_of_run`).
-/

namespace ContentGraph

/-! ## What is returned for a type -/

/-- The fields that an answer adds, unless it is a failure. -/
def HookAnswer.fields? : HookAnswer → Option FieldMap
  | adds fields => some fields
  | _ => none

/-- What a plugin returns for a type; nothing if it has no hook. -/
def Plugin.returned (type : String) (p : Plugin) : Option FieldMap :=
  p.hook.bind fun hook => (hook.answer type).fields?

/-- What plugins or a single source return for a type, in their order. -/
def Extension.returned (type : String) : Extension → List (Option FieldMap)
  | .plugins asked => asked.map (Plugin.returned type)
  | .source _ maps => maps type

theorem Plugin.getD_returned (type : String) (p : Plugin) :
    (p.returned type).getD [] = p.fieldsFor type := by
  unfold returned fieldsFor
  cases p.hook with
  | none => rfl
  | some hook =>
    show ((hook.answer type).fields?).getD []
      = match hook.answer type with
        | .adds fields => fields
        | _ => []
    cases hook.answer type <;> rfl

/-- Maps that are empty or missing can be dropped before the others are
merged. -/
theorem Plugin.merge_addedMaps (type : String) (plugins : List Plugin) :
    FieldMap.merge ((addedMaps type plugins).map some)
      = FieldMap.merge (plugins.map (returned type)) := by
  have hfields : plugins.map (fieldsFor type)
      = (plugins.map (returned type)).map fun source => source.getD [] := by
    rw [List.map_map]
    exact List.map_congr_left fun p _ => (getD_returned type p).symm
  rw [addedMaps, hfields, nonEmpty, FieldMap.merge_filter_not_isEmpty]

namespace Build

variable {c : Collection} {options : BuildOptions} {b : Build}

/-- **A build that ends well comes to the registry of its groups**, in some
order, in which every type has what is returned for it. -/
theorem registry_of_run (h : run c options = .ok b) :
    ¬ c.KeysCollide ∧ ∃ descriptors,
      b.registry = ⟨descriptors, ⟨c, options.config⟩, options.engine⟩
        ∧ List.Perm descriptors (c.groups.map fun g =>
            finish options.engine g (options.extension.returned g.type)) := by
  have hkeys : ¬ c.KeysCollide := by
    intro hcollide
    obtain ⟨_, _, -, herror⟩ := exists_forall_run_eq_error hcollide
    cases (herror options).symm.trans h
  refine ⟨hkeys, ?_⟩
  rw [run_eq_map_finishAll hkeys] at h
  obtain ⟨extension, config, engine⟩ := options
  cases extension with
  | source name maps =>
    cases h
    exact ⟨_, rfl, .rfl⟩
  | plugins plugins =>
    -- The order is that in which the tasks come to an end.
    simp only [finishAll] at h
    cases hrun : Schedule.run c.members plugins c.groups with
    | error e => rw [hrun] at h; cases h
    | ok result =>
      rw [hrun] at h
      cases h
      refine ⟨_, rfl, ((Schedule.finished_perm_of_run_eq_ok hrun).map _).trans (.of_eq ?_)⟩
      rw [List.map_map]
      refine List.map_congr_left fun g _ => ?_
      exact congrArg (fun fields => TypeDescriptor.mk g fields _)
        (Plugin.merge_addedMaps g.type plugins)

/-- **A build that ends well comes to a registry of its collection**, whatever
is added to the types. -/
theorem represents_of_run (h : run c options = .ok b) : b.registry.Represents c := by
  obtain ⟨hkeys, descriptors, hregistry, hperm⟩ := registry_of_run h
  rw [hregistry]
  refine Registry.represents_of_perm ((hperm.map (·.group)).trans (.of_eq ?_)) hkeys
  rw [List.map_map]
  exact List.map_id _

theorem context_of_run (h : run c options = .ok b) : b.registry.context = ⟨c, options.config⟩ := by
  obtain ⟨-, descriptors, hregistry, -⟩ := registry_of_run h
  rw [hregistry]

/-- What is known of a type in the registry of a build that ends well. -/
theorem finish_of_mem_descriptors (h : run c options = .ok b) {d : TypeDescriptor}
    (hd : d ∈ b.registry.descriptors) :
    d = finish options.engine d.group (options.extension.returned d.name) := by
  obtain ⟨-, descriptors, hregistry, hperm⟩ := registry_of_run h
  rw [hregistry] at hd
  obtain ⟨g, -, rfl⟩ := List.mem_map.1 (hperm.mem_iff.1 hd)
  rfl

/-- **The fields of a type are those of all sources, the last of which
counts**: for every build that ends well and every type in its registry,
whatever is inferred and whatever is returned for the type. The maps that are
returned are merged before the fields are asked for, and the fields are those
of all maps merged one by one: the names of the default fields, the inferred
ones and the returned ones, each where it is first met, each with the field of
the last map that has it. So the default names are always there. -/
theorem fields_of_run (h : run c options = .ok b) {d : TypeDescriptor}
    (hd : d ∈ b.registry.descriptors)
    (hinferred : (options.engine.fields b.registry.targets d.nodes).names.Nodup)
    (hreturned : ∀ fields, some fields ∈ options.extension.returned d.name → fields.names.Nodup) :
    let sources := some defaultFields :: some (options.engine.fields b.registry.targets d.nodes)
      :: options.extension.returned d.name
    d.pluginFields = FieldMap.merge (options.extension.returned d.name)
      ∧ b.registry.fields d = FieldMap.merge sources
      ∧ (b.registry.fields d).names = (sources.reduceOption.flatMap FieldMap.names).eraseDups
      ∧ (∀ name, (b.registry.fields d).get? name
          = (sources.reduceOption.filterMap (FieldMap.get? name)).getLast?)
      ∧ ∀ name ∈ ["id", "type", "parent", "children"], name ∈ (b.registry.fields d).names := by
  intro sources
  have hplugins : d.pluginFields = FieldMap.merge (options.extension.returned d.name) :=
    congrArg TypeDescriptor.pluginFields (finish_of_mem_descriptors h hd)
  have hfields : b.registry.fields d = FieldMap.merge sources := by
    obtain ⟨-, descriptors, hregistry, -⟩ := registry_of_run h
    have hengine : b.registry.engine = options.engine := by rw [hregistry]
    rw [Registry.fields, hplugins, typeFields_merge, hengine]
  -- No source has a name twice, so which of its fields counts is not in question.
  have hmaps : ∀ fields ∈ sources.reduceOption, fields.names.Nodup := by
    intro fields hmem
    rcases List.mem_cons.1 hmem with rfl | hmem
    · decide
    · rcases List.mem_cons.1 hmem with rfl | hmem
      · exact hinferred
      · exact hreturned fields (List.reduceOption_mem_iff.1 hmem)
  have hnames : (b.registry.fields d).names
      = (sources.reduceOption.flatMap FieldMap.names).eraseDups := by
    rw [hfields, FieldMap.names_merge]
  refine ⟨hplugins, hfields, hnames, fun name => ?_, fun name hname => ?_⟩
  · rw [hfields, FieldMap.get?_merge name hmaps]
  · rw [hnames, List.mem_eraseDups]
    exact List.mem_flatMap.2 ⟨defaultFields, List.mem_cons_self, hname⟩

/-- An engine that infers a title and a number of words whatever the nodes. -/
def articleEngine : Engine :=
  { Engine.standard with
    fields := fun _ _ => [("title", Shape.plain .string), ("words", Shape.plain .int)] }

/-- A plugin that adds fields to every type. -/
def addingPlugin (name : String) (fields : FieldMap) : Plugin :=
  ⟨name, some ⟨fun _ => 0, fun _ => .adds fields⟩⟩

/-- Two plugins that do not agree on the kind of an author, of which the first
changes an inferred field and the second a default one, and between them two
that add nothing. -/
def overlappingPlugins : List Plugin :=
  [addingPlugin "credits" [("title", Shape.plain .other), ("author", Shape.linkTo "Person")],
    ⟨"idle", none⟩, slowPlugin,
    addingPlugin "labels" [("author", Shape.plain .string), ("type", Shape.plain .other)]]

/-- The title stands where it was inferred and the author after it, both as the
last plugin that knows them says. -/
theorem fields_of_overlappingPlugins :
    ∃ b d, run (.ofNodes mixedNodes) ⟨.plugins overlappingPlugins, .empty, articleEngine⟩ = .ok b
      ∧ d ∈ b.registry.descriptors ∧ d.name = "Tag"
      ∧ (articleEngine.fields b.registry.targets d.nodes).names.Nodup
      ∧ (∀ fields, some fields ∈ (Extension.plugins overlappingPlugins).returned d.name →
        fields.names.Nodup)
      ∧ (b.registry.fields d).names
        = ["id", "type", "parent", "children", "title", "words", "author"]
      ∧ (b.registry.fields d).get? "title" = some (Shape.plain .other)
      ∧ (b.registry.fields d).get? "author" = some (Shape.plain .string)
      ∧ (b.registry.fields d).get? "type" = some (Shape.plain .other) := by
  have hplugins : ∀ p ∈ overlappingPlugins, p.NeverFails := by
    intro p hp hook hhook type
    simp only [overlappingPlugins, List.mem_cons, List.not_mem_nil, or_false] at hp
    rcases hp with rfl | rfl | rfl | rfl <;> cases hhook <;> exact ⟨_, rfl⟩
  have hkeys : ¬ (Collection.ofNodes mixedNodes).KeysCollide :=
    Collection.nodup_keys_iff.1 (by decide)
  obtain ⟨b, hb, hperm⟩ := exists_run_eq_ok hplugins hkeys
  obtain ⟨d, -, hfind, hname, -⟩ := (Registry.represents_of_perm hperm hkeys).lookup "Tag"
    ⟨by decide, ⟨2, .ofFields "draft" "Tag" []⟩, by decide, rfl⟩
  have hd : d ∈ b.registry.descriptors := List.mem_of_find?_eq_some hfind
  have hinferred : (articleEngine.fields b.registry.targets d.nodes).names.Nodup :=
    show ["title", "words"].Nodup by decide
  have hreturned : ∀ fields, some fields ∈ (Extension.plugins overlappingPlugins).returned d.name →
      fields.names.Nodup := by
    intro fields hmem
    rw [hname] at hmem
    replace hmem : fields ∈ [
        [("title", Shape.plain .other), ("author", Shape.linkTo "Person")], ([] : FieldMap),
        [("author", Shape.plain .string), ("type", Shape.plain .other)]] :=
      List.reduceOption_mem_iff.2 hmem
    revert fields
    decide
  obtain ⟨-, -, hnames, hget, -⟩ := fields_of_run hb hd hinferred hreturned
  refine ⟨b, d, hb, hd, hname, hinferred, hreturned, ?_, ?_, ?_, ?_⟩
  · rw [hnames, hname]
    rfl
  all_goals
    rw [hget, hname]
    rfl

end Build

end ContentGraph
