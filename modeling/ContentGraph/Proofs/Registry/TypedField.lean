import ContentGraph.Proofs.Registry.Link
import ContentGraph.Proofs.Registry.LinkField
import ContentGraph.Proofs.Text.TypedName

/-!
# Which types a typed name reaches

A field whose name is put together from a base and a type is to link to the
type, both when fields are inferred and when a reference is followed. Both read
the type off the name and write it with a capital and small letters before they
look for it. So the name reaches the types that are written like this, and no
other (`Build.reached_iff_capitalized`): a type such as `BlogPost`, with a
capital further on, is out of reach of every name.
-/

namespace ContentGraph

/-- A typed name is no reserved name, although one of these begins with the
separator. -/
theorem Text.typedName_not_reserved {base target : String} (hne : base ≠ "")
    (hbase : ¬ HasSeparator base) (hlast : base.toList.getLast? ≠ some '_') :
    typedName base target ∉ Node.reservedNames := by
  intro hmem
  have hall : ∀ name ∈ Node.reservedNames, (splitAtSeparator name.toList).2 = none
      ∨ (splitAtSeparator name.toList).1 = [] := by decide
  rcases hall _ hmem with h | h
  · rw [splitAtSeparator_typedName hbase hlast] at h
    cases h
  · rw [splitAtSeparator_typedName hbase hlast] at h
    exact hne (String.toList_eq_nil_iff.1 h)

/-- The type that a typed name links to. -/
theorem Reference.linkedType?_of_typeSuffix? {name suffix : String}
    (h : Text.typeSuffix? name = some suffix) (config : SiteConfig) (n : Node) :
    linkedType? config n name = some (Text.capitalize suffix) := by
  rw [linkedType?, h]

/-- A column asks for no type but the one that its name ends in. -/
theorem Shape.asksFor_iff_of_typeSuffix? {name suffix : String}
    (h : Text.typeSuffix? name = some suffix) {cls : ScalarClass} {first : Value}
    {type : String} : AsksFor name cls first type ↔ Text.capitalize suffix = type := by
  rw [AsksFor, h, Option.map_some, Option.some.injEq]
  exact or_iff_left fun hnone => nomatch hnone.1

/-- **A column whose name ends in a registered type links to it** if and only if
the type is written with a capital and small letters. -/
theorem Registry.linksTo_suffix_iff (r : Registry) {name suffix : String}
    (h : Text.typeSuffix? name = some suffix) (hregistered : suffix ∈ r.tags)
    (cls : ScalarClass) (first : Value) :
    let f := Shape.field r.targets name (.scalar cls first)
    f.type.kind = .node ∧ f.targetType = some suffix ↔ Text.capitalize suffix = suffix := by
  intro f
  obtain ⟨hnode, hlinks, -⟩ := r.field_scalar_cases name cls first
  constructor
  · rintro ⟨hkind, htarget⟩
    obtain ⟨type, hasks, htag⟩ := hnode.1 hkind
    have hf : f = Shape.linkTo type := hlinks type hasks htag
    rw [hf] at htarget
    exact ((Shape.asksFor_iff_of_typeSuffix? h).1 hasks).trans (Option.some.inj htarget)
  · intro hcapital
    have hasks : Shape.AsksFor name cls first suffix :=
      (Shape.asksFor_iff_of_typeSuffix? h).2 hcapital
    have hf : f = Shape.linkTo suffix := hlinks suffix hasks hregistered
    rw [hf]
    exact ⟨rfl, rfl⟩

/-- **A value that identifies a node of the type that the field ends in leads to
it** if and only if the type is written with a capital and small letters. -/
theorem Reference.outcome_suffix_iff (working : String) {nodes : List Node} (config : SiteConfig)
    {n : Node} {name suffix : String} (h : Text.typeSuffix? name = some suffix)
    (hfile : Shape.isFileLink (n.get name) = false) {m : Member}
    (hm : (Collection.ofNodes nodes).IsFirst suffix (n.get name) m) :
    (resolve working ⟨.ofNodes nodes, config⟩ n name).outcome = .linked .directId m
      ↔ Text.capitalize suffix = suffix := by
  rw [(accounts_resolve working nodes config n name).directId_iff, linkedType?_of_typeSuffix? h]
  constructor
  · rintro ⟨-, type, htyped, hfirst⟩
    -- The node has the type that is looked for, and the one that the field ends in.
    exact (Option.some.inj htyped).trans (hfirst.1.1.symm.trans hm.1.1)
  · intro hcapital
    refine ⟨fun file hlink => ?_, suffix, congrArg some hcapital, hm⟩
    rw [hfile] at hlink
    cases hlink.1

namespace Build

variable {nodes : List Node} {config : SiteConfig} {b : Build}

/-- No type is the empty text. -/
theorem ne_empty_of_mem_tags {c : Collection}
    (h : run c ⟨.plugins [], config, .standard⟩ = .ok b) {type : String}
    (htype : type ∈ b.registry.tags) : type ≠ "" := by
  have hperm : List.Perm (b.registry.descriptors.map (·.group)) c.groups := by
    rw [registry_of_run_eq_ok h, List.map_map]
    exact .of_eq (List.map_id _)
  obtain ⟨-, m, -, rfl⟩ :=
    Collection.mem_contentTypes.1 ((Registry.tags_perm hperm).mem_iff.1 htype)
  exact m.node.type_ne_empty

/-- **A typed name reaches a type if and only if the type is written with a
capital and small letters**, for every build without plugins, every registered
type without a separator in it and every base that goes with it, wherever the
name has a column of scalars: then the field links to the type, and a value that
identifies a node of the type and names no file leads to the first such node,
wherever the program works; and of every other type, neither is the case. -/
theorem reached_iff_capitalized
    (h : run (.ofNodes nodes) ⟨.plugins [], config, .standard⟩ = .ok b) {target : String}
    (hregistered : target ∈ b.registry.tags) (htarget : ¬ Text.HasSeparator target)
    {base : String} (hne : base ≠ "") (hbase : ¬ Text.HasSeparator base)
    (hlast : base.toList.getLast? ≠ some '_') {d : TypeDescriptor}
    (hd : d ∈ b.registry.descriptors)
    (hcolumn : Inference.ScalarColumn d.nodes (Text.typedName base target)) :
    (∃ f, (b.registry.fields d).get? (Text.typedName base target) = some f
        ∧ (f.type.kind = .node ∧ f.targetType = some target ↔ Text.capitalize target = target))
      ∧ ∀ n ∈ d.nodes, Shape.isFileLink (n.get (Text.typedName base target)) = false →
        (∃ m ∈ b.registry.context.nodes.members,
          m.Matches target (n.get (Text.typedName base target))) →
        ∃ m, b.registry.context.nodes.IsFirst target (n.get (Text.typedName base target)) m
          ∧ ∀ working,
            (Reference.resolve working b.registry.context n (Text.typedName base target)).outcome
              = .linked .directId m ↔ Text.capitalize target = target := by
  have hsuffix : Text.typeSuffix? (Text.typedName base target) = some target :=
    Text.typeSuffix?_typedName hbase hlast htarget (ne_empty_of_mem_tags h hregistered)
  have hreserved : Text.typedName base target ∉ Node.reservedNames :=
    Text.typedName_not_reserved hne hbase hlast
  constructor
  · obtain ⟨cls, first, hget⟩ :=
      hcolumn.exists_get?_fieldsOfNodes hreserved b.registry.targets
    rw [← get?_fields_of_adds_nothing h hd (List.forall_mem_nil _) hreserved] at hget
    exact ⟨_, hget, b.registry.linksTo_suffix_iff hsuffix hregistered cls first⟩
  · intro n _ hfile hexists
    rw [registry_of_run_eq_ok h] at hexists ⊢
    obtain ⟨m, hm⟩ := Collection.exists_isFirst hexists
    exact ⟨m, hm, fun working => Reference.outcome_suffix_iff working config hsuffix hfile hm⟩

/-- A comment on a post by a person. -/
def comment : Node :=
  .ofFields "c" "Comment"
    [(.string "on___BlogPost", .string "hello"), (.string "by___Person", .string "ada")]

/-- The post, the person and the comment. -/
def commentedNodes : List Node :=
  [.ofFields "hello" "BlogPost" [], .ofFields "ada" "Person" [], comment]

/-- The registry of the three nodes. -/
def commentedRegistry : Registry :=
  ⟨(Collection.ofNodes commentedNodes).groups.map fun g => finish .standard g [],
    ⟨.ofNodes commentedNodes, .empty⟩, .standard⟩

/-- What is built for the comment. -/
def commentDescriptor : TypeDescriptor := finish .standard ⟨"Comment", [⟨2, comment⟩]⟩ []

theorem run_commentedNodes :
    run (.ofNodes commentedNodes) ⟨.plugins [], .empty, .standard⟩
      = .ok ⟨commentedRegistry, []⟩ :=
  run_no_plugins (Collection.nodup_keys_iff.1 (by decide)) _ _

theorem commentDescriptor_mem : commentDescriptor ∈ commentedRegistry.descriptors :=
  List.mem_map_of_mem (by decide)

theorem scalarColumn_on :
    Inference.ScalarColumn commentDescriptor.nodes (Text.typedName "on" "BlogPost") :=
  ⟨by decide +kernel, by decide, by decide⟩

theorem scalarColumn_by :
    Inference.ScalarColumn commentDescriptor.nodes (Text.typedName "by" "Person") :=
  ⟨by decide +kernel, by decide, by decide⟩

/-- **No name reaches the type of blog posts**: the comment names the post, but
the field is a plain text and the reference leads nowhere. -/
theorem blogPost_not_reached :
    ∃ b d n m, run (.ofNodes commentedNodes) ⟨.plugins [], .empty, .standard⟩ = .ok b
      ∧ ("BlogPost" ∈ b.registry.tags ∧ ¬ Text.HasSeparator "BlogPost"
        ∧ ¬ Text.HasSeparator "on" ∧ "on".toList.getLast? ≠ some '_')
      ∧ (d ∈ b.registry.descriptors ∧ n ∈ d.nodes
        ∧ Inference.ScalarColumn d.nodes (Text.typedName "on" "BlogPost"))
      ∧ (b.registry.context.nodes.IsFirst "BlogPost"
          (n.get (Text.typedName "on" "BlogPost")) m
        ∧ Shape.isFileLink (n.get (Text.typedName "on" "BlogPost")) = false)
      ∧ ((b.registry.fields d).get? (Text.typedName "on" "BlogPost")).map (·.type)
          = some (.one .string)
      ∧ (Reference.resolve "/" b.registry.context n (Text.typedName "on" "BlogPost")).outcome
          = .unresolved := by
  refine ⟨_, _, comment, ⟨0, .ofFields "hello" "BlogPost" []⟩, run_commentedNodes, by decide,
    ⟨commentDescriptor_mem, by decide, scalarColumn_on⟩, ⟨?_, by decide⟩, by decide +kernel, ?_⟩
  · exact ⟨by decide, [], _, rfl, List.forall_mem_nil _⟩
  · show (Reference.resolve "/" ⟨.ofNodes commentedNodes, .empty⟩ comment _).outcome = _
    rw [Reference.outcome_resolve _ _ (by decide)]
    simp only [Reference.linkCandidate?, Reference.typedCandidate?, Reference.pathCandidate?,
      Reference.fileAt?, Reference.linkPath?, Reference.sourceDirectory?,
      Collection.find?_ofNodes]
    decide +kernel

/-- The type of persons is reached: the comment links to persons, and to the one
that it names. -/
theorem person_reached :
    Text.capitalize "Person" = "Person"
      ∧ (∃ f, (commentedRegistry.fields commentDescriptor).get? (Text.typedName "by" "Person")
          = some f ∧ f.type.kind = .node ∧ f.targetType = some "Person")
      ∧ ∃ m, (Collection.ofNodes commentedNodes).IsFirst "Person" (.string "ada") m
        ∧ (Reference.resolve "/" commentedRegistry.context comment
            (Text.typedName "by" "Person")).outcome = .linked .directId m := by
  have hcapital : Text.capitalize "Person" = "Person" := by decide +kernel
  have hregistered : "Person" ∈ commentedRegistry.tags := by decide
  obtain ⟨⟨f, hget, hlinks⟩, hfollow⟩ := reached_iff_capitalized run_commentedNodes
    hregistered (by decide) (by decide) (by decide) (by decide) commentDescriptor_mem
    scalarColumn_by
  obtain ⟨m, hm, houtcome⟩ := hfollow comment (by decide) (by decide)
    ⟨⟨1, .ofFields "ada" "Person" []⟩, by decide, by decide⟩
  exact ⟨hcapital, ⟨f, hget, hlinks.2 hcapital⟩, m, hm, (houtcome "/").2 hcapital⟩

end Build

end ContentGraph
