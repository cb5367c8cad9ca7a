import ContentGraph.Proofs.Inference.Attribute
import ContentGraph.Proofs.Registry.Locality
import ContentGraph.Proofs.Registry.Precedence

/-!
# Which attributes are links

Whether an attribute links to a type is decided when the fields are asked for,
which is when all types are registered. So a link may lead to any of them: to
one that was met before the type of the nodes or after it, to one that was
finished before or after it, and to the type itself.

An attribute with scalars for its values asks for at most one type
(`Shape.AsksFor`). It is a link to that type if the type is registered, and
otherwise a plain field of the class of its values
(`Build.exists_field_of_run`).
-/

namespace ContentGraph

/-- Where nothing is added, a name that no default field has has the inferred
field. -/
theorem get?_typeFields_nil {inferred : FieldMap} {name : String}
    (hname : name ∉ defaultFields.names) (hinferred : inferred.names.Nodup) :
    (typeFields inferred []).get? name = inferred.get? name := by
  have hmaps : ∀ fields ∈ [some defaultFields, some inferred].reduceOption,
      fields.names.Nodup := by
    intro fields hmem
    rcases List.mem_cons.1 hmem with rfl | hmem
    · decide
    · exact List.mem_singleton.1 hmem ▸ hinferred
  have hmerge : typeFields inferred [] = FieldMap.merge [some defaultFields, some inferred] :=
    typeFields_merge inferred []
  rw [hmerge, FieldMap.get?_merge name hmaps]
  show ([defaultFields, inferred].filterMap (FieldMap.get? name)).getLast? = _
  rw [List.filterMap_cons_none (FieldMap.get?_eq_none_iff.2 hname)]
  cases hget : inferred.get? name with
  | none => rw [List.filterMap_cons_none hget]; rfl
  | some f => rw [List.filterMap_cons_some hget]; rfl

namespace Registry

/-- **The field of a column of scalars**: a link if the type that it asks for
is registered, and otherwise a plain field. -/
theorem field_scalar_cases (r : Registry) (name : String) (cls : ScalarClass) (first : Value) :
    let f := Shape.field r.targets name (.scalar cls first)
    (f.type.kind = .node ↔ ∃ type, Shape.AsksFor name cls first type ∧ type ∈ r.tags)
      ∧ (∀ type, Shape.AsksFor name cls first type → type ∈ r.tags → f = Shape.linkTo type)
      ∧ (f.type.kind ≠ .node → f = Shape.plain cls) := by
  intro f
  have hfound (type : String) :
      (LinkTarget.find? r.targets type).isSome = true ↔ type ∈ r.tags := by
    rw [find?_targets]
    split
    · next h => exact iff_of_true rfl h
    · next h => exact iff_of_false Bool.false_ne_true h
  have hlinks (type : String) (hasks : Shape.AsksFor name cls first type) (htag : type ∈ r.tags) :
      f = Shape.linkTo type := by
    have hlink : Shape.link? r.targets name cls first = some (Shape.linkTo type) :=
      Shape.link?_eq_some_iff.2 ⟨type, hasks, (hfound type).2 htag, rfl⟩
    show Shape.field r.targets name (.scalar cls first) = _
    rw [Shape.field, hlink, Option.getD_some]
  -- A plain field is none of kind node, so at most one of the two is the case.
  have hplain : f = Shape.plain cls
      ∨ ∃ type, Shape.AsksFor name cls first type ∧ type ∈ r.tags := by
    cases hlink : Shape.link? r.targets name cls first with
    | none =>
      refine Or.inl ?_
      show Shape.field r.targets name (.scalar cls first) = _
      rw [Shape.field, hlink, Option.getD_none]
    | some g =>
      obtain ⟨type, hasks, hsome, -⟩ := Shape.link?_eq_some_iff.1 hlink
      exact Or.inr ⟨type, hasks, (hfound type).1 hsome⟩
  refine ⟨⟨fun hkind => hplain.resolve_left fun heq => ?_, ?_⟩, hlinks, fun hkind => ?_⟩
  · rw [heq] at hkind
    exact cls.kind_ne_node hkind
  · rintro ⟨type, hasks, htag⟩
    rw [hlinks type hasks htag]
    rfl
  · refine hplain.resolve_right ?_
    rintro ⟨type, hasks, htag⟩
    rw [hlinks type hasks htag] at hkind
    exact hkind rfl

end Registry

namespace Build

variable {c : Collection} {plugins : List Plugin} {config : SiteConfig} {b : Build}

/-- Plugins that add nothing to a type leave it what is inferred. -/
theorem fields_of_adds_nothing (h : run c ⟨.plugins plugins, config, .standard⟩ = .ok b)
    {d : TypeDescriptor} (hd : d ∈ b.registry.descriptors)
    (hplugins : ∀ p ∈ plugins, p.fieldsFor d.name = []) :
    b.registry.fields d
      = typeFields (Inference.fieldsOfNodes b.registry.targets sampleSize d.nodes) [] := by
  have hadded : Plugin.addedMaps d.name plugins = [] := by
    rw [Plugin.addedMaps, List.map_eq_replicate_iff.2 hplugins]
    exact List.filter_replicate_of_neg (by decide)
  have hpluginFields : d.pluginFields = [] := by
    rw [congrArg TypeDescriptor.pluginFields (finish_of_mem_descriptors h hd)]
    show FieldMap.merge (plugins.map (Plugin.returned d.name)) = []
    rw [← Plugin.merge_addedMaps, hadded]
    rfl
  obtain ⟨-, descriptors, hregistry, -⟩ := registry_of_run h
  have hengine : b.registry.engine = .standard := by rw [hregistry]
  rw [Registry.fields, hpluginFields, hengine]
  rfl

/-- The field of an attribute is then the inferred one. -/
theorem get?_fields_of_adds_nothing (h : run c ⟨.plugins plugins, config, .standard⟩ = .ok b)
    {d : TypeDescriptor} (hd : d ∈ b.registry.descriptors)
    (hplugins : ∀ p ∈ plugins, p.fieldsFor d.name = []) {name : String}
    (hname : name ∉ Node.reservedNames) :
    (b.registry.fields d).get? name
      = (Inference.fieldsOfNodes b.registry.targets sampleSize d.nodes).get? name := by
  have hdefault : name ∉ defaultFields.names := fun hmem =>
    hname ((by decide : defaultFields.names ⊆ Node.reservedNames) hmem)
  have hinferred :
      (Inference.fieldsOfNodes b.registry.targets sampleSize d.nodes).names.Nodup :=
    FieldMap.nodup_ofList _
  rw [fields_of_adds_nothing h hd hplugins, get?_typeFields_nil hdefault hinferred]

/-- **An attribute is a link if and only if the type that it asks for is
registered**, for every build that ends well and whose plugins add nothing to
the type of the nodes, and every attribute of the nodes with scalars for its
values: it asks for the type that its name ends in, or if there is none and the
values are texts of which the first names a file, for that of files. Otherwise
the attribute is a plain field of the class of its values. When the type asked
for was met or finished does not matter, and it may be the type of the nodes
itself. -/
theorem exists_field_of_run (h : run c ⟨.plugins plugins, config, .standard⟩ = .ok b)
    {d : TypeDescriptor} (hd : d ∈ b.registry.descriptors)
    (hplugins : ∀ p ∈ plugins, p.fieldsFor d.name = []) {name : String} {first : Value}
    {rest : List Value} (hvalues : Inference.ScalarAttribute d.nodes name first rest) :
    ∃ f, (b.registry.fields d).get? name = some f
      ∧ (f.type.kind = .node
          ↔ ∃ type, Shape.AsksFor name (Column.scalarClass (first :: rest)) first type
            ∧ type ∈ b.registry.tags)
      ∧ (∀ type, Shape.AsksFor name (Column.scalarClass (first :: rest)) first type →
          type ∈ b.registry.tags → f = Shape.linkTo type)
      ∧ (f.type.kind ≠ .node → f = Shape.plain (Column.scalarClass (first :: rest))) := by
  refine ⟨_, ?_, b.registry.field_scalar_cases name _ first⟩
  rw [get?_fields_of_adds_nothing h hd hplugins hvalues.not_reserved]
  exact FieldMap.get?_eq_some_of_mem_iff fun g => hvalues.mem_fieldsOfNodes_iff _

/-- A chapter that names its writer, the chapter to be read next, and a cover. -/
def chapter (id writer next : String) (hid : id.isEmpty = false := by exact Eq.refl false) : Node :=
  .ofFields id "Chapter"
    [(.string "by___writer", .string writer), (.string "next___chapter", .string next),
      (.string "cover", .string (id ++ ".png"))] hid

/-- Two chapters that name each other, before their writer. -/
def chapters : List Node :=
  [chapter "first chapter" "emily" "second chapter",
    chapter "second chapter" "emily" "first chapter", .ofFields "emily" "Writer" []]

/-- What is built for the chapters. -/
def chapterDescriptor : TypeDescriptor :=
  finish .standard ⟨"Chapter", [⟨0, chapter "first chapter" "emily" "second chapter"⟩,
    ⟨1, chapter "second chapter" "emily" "first chapter"⟩]⟩ []

/-- Chapters link to writers, which come after them, and to chapters; covers are
texts, since there are no files. -/
theorem fields_of_chapters :
    ∃ b, run (.ofNodes chapters) ⟨.plugins [], .empty, .standard⟩ = .ok b
      ∧ chapterDescriptor ∈ b.registry.descriptors
      ∧ (b.registry.fields chapterDescriptor).get? "by___writer" = some (Shape.linkTo "Writer")
      ∧ (b.registry.fields chapterDescriptor).get? "next___chapter"
          = some (Shape.linkTo "Chapter")
      ∧ (b.registry.fields chapterDescriptor).get? "cover" = some (Shape.plain .string) := by
  have hkeys : ¬ (Collection.ofNodes chapters).KeysCollide :=
    Collection.nodup_keys_iff.1 (by decide)
  have hrun := run_no_plugins hkeys .empty .standard
  have hmem : chapterDescriptor
      ∈ (Collection.ofNodes chapters).groups.map fun g => finish .standard g [] :=
    List.mem_map_of_mem (by decide)
  have hwriter : Inference.ScalarAttribute chapterDescriptor.nodes "by___writer"
      (.string "emily") [.string "emily"] := ⟨by decide, by decide, by decide, rfl, by decide⟩
  have hnext : Inference.ScalarAttribute chapterDescriptor.nodes "next___chapter"
      (.string "second chapter") [.string "first chapter"] :=
    ⟨by decide, by decide, by decide, rfl, by decide⟩
  have hcover : Inference.ScalarAttribute chapterDescriptor.nodes "cover"
      (.string "first chapter.png") [.string "second chapter.png"] :=
    ⟨by decide, by decide, by decide, rfl, by decide⟩
  have hplugins : ∀ p ∈ ([] : List Plugin), p.fieldsFor chapterDescriptor.name = [] :=
    List.forall_mem_nil _
  refine ⟨_, hrun, hmem, ?_, ?_, ?_⟩
  · obtain ⟨f, hget, -, hlinks, -⟩ := exists_field_of_run hrun hmem hplugins hwriter
    rw [hget, hlinks "Writer" (Or.inl (by decide +kernel)) (by decide +kernel)]
  · obtain ⟨f, hget, -, hlinks, -⟩ := exists_field_of_run hrun hmem hplugins hnext
    rw [hget, hlinks "Chapter" (Or.inl (by decide +kernel)) (by decide +kernel)]
  · obtain ⟨f, hget, hnode, -, hplain⟩ := exists_field_of_run hrun hmem hplugins hcover
    -- The name asks for nothing, and the values ask for files, which are not registered.
    have hunasked : f.type.kind ≠ .node := by
      rw [ne_eq, hnode]
      rintro ⟨type, hsuffix | ⟨-, -, -, rfl⟩, htag⟩
      · rw [show Text.typeSuffix? "cover" = none by decide +kernel] at hsuffix
        cases hsuffix
      · exact absurd htag (by decide +kernel)
    have hcls : Column.scalarClass [.string "first chapter.png", .string "second chapter.png"]
        = .string := by decide +kernel
    rw [hget, hplain hunasked, hcls]

end Build

end ContentGraph
