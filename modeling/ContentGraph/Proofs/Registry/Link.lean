import ContentGraph.Proofs.Inference.Fields
import ContentGraph.Proofs.Reference.Follow
import ContentGraph.Proofs.Registry.Build

/-!
# Where link fields lead

A link field declares the type that it links to, and the nodes it leads to are
found one by one, from their values. The two are decided apart. The type is
read off the name of the column or its first value; a reference is followed by
rules with an order of their own, of which the one for the names of files
comes first whatever the field is called, and the one for identifiers asks the
configuration for every field whose name ends in no type.

So a link may lead to a node of another type than declared, in two ways:
to a file that the value names, and to a node of the type that the
configuration maps the field to (`Reference.LeadsTo`). There is no other way
(`Build.leadsTo_of_follow`), and both do occur.
-/

namespace ContentGraph

/-! ## Following a reference -/

namespace Reference

/-- **Where a field that links to a type may lead.** -/
inductive LeadsTo (working : String) (context : Context) (n : Node) (field type : String)
    (m : Member) : Prop
  /-- To a node of the type. -/
  | ofType (h : m.node.type = type)
  /-- To the file that the value names, although the name of the field ends
  in a type. -/
  | file (hname : (Text.typeSuffix? field).isSome = true)
      (hvalue : Shape.isFileLink (n.get field) = true)
      (hm : IsFileAt working context.nodes (sourceDirectory? context n) (n.get field) m)
  /-- To the node that the value identifies among those of the type that the
  configuration maps the field to, where the name of the field ends in no
  type and files are declared. -/
  | mapped (hname : Text.typeSuffix? field = none) (htype : type = fileType)
      (hm : IsTyped context.nodes (linkedType? context.config n field) (n.get field) m)

variable {working : String} {nodes : List Node} {config : SiteConfig} {n : Node}
  {field : String} {m : Member}

/-- **A node that is followed to is a file that the value names, or of the
type linked to.** In the latter case it is identified by the value, or a
file at its path. -/
theorem follow_cases (h : (follow working ⟨.ofNodes nodes, config⟩ n field).1 = some m) :
    (Shape.isFileLink (n.get field) = true
        ∧ IsFileAt working (.ofNodes nodes) (sourceDirectory? ⟨.ofNodes nodes, config⟩ n)
          (n.get field) m)
      ∨ IsTyped (.ofNodes nodes) (linkedType? config n field) (n.get field) m
      ∨ linkedType? config n field = some fileType
        ∧ IsFileAt working (.ofNodes nodes) (sourceDirectory? ⟨.ofNodes nodes, config⟩ n)
          (n.get field) m := by
  have haccounts := accounts_resolve working nodes config n field
  have hnode : (resolve working ⟨.ofNodes nodes, config⟩ n field).outcome.node? = some m := h
  cases houtcome : (resolve working ⟨.ofNodes nodes, config⟩ n field).outcome with
  | linked rule found =>
    rw [houtcome] at hnode
    obtain rfl : found = m := Option.some.inj hnode
    cases rule with
    | fileLink => exact Or.inl ((haccounts.fileLink_iff _).1 houtcome)
    | directId => exact Or.inr (Or.inl ((haccounts.directId_iff _).1 houtcome).2)
    | pathFallback =>
      exact Or.inr (Or.inr ((haccounts.pathFallback_iff _).1 houtcome).2.2.2)
  | unresolved => rw [houtcome] at hnode; cases hnode
  | empty => rw [houtcome] at hnode; cases hnode

/-- **A column that asks for a type leads where it may.** -/
theorem leadsTo_of_asksFor {cls : ScalarClass} {first : Value} {type : String}
    (hasks : Shape.AsksFor field cls first type)
    (h : (follow working ⟨.ofNodes nodes, config⟩ n field).1 = some m) :
    LeadsTo working ⟨.ofNodes nodes, config⟩ n field type m := by
  rcases hasks with hsuffix | ⟨hnone, -, -, rfl⟩
  · -- The name ends in the type, so that is the type linked to.
    have hlinked : linkedType? config n field = some type := by
      obtain ⟨suffix, hsome, rfl⟩ := Option.map_eq_some_iff.1 hsuffix
      rw [linkedType?, hsome]
    rcases follow_cases h with ⟨hvalue, hm⟩ | ⟨t, ht, hm⟩ | ⟨ht, d, s, -, -, hm⟩
    · refine .file ?_ hvalue hm
      rw [← Option.isSome_map, hsuffix, Option.isSome_some]
    · rw [hlinked, Option.some.injEq] at ht
      exact .ofType (hm.1.1.trans ht.symm)
    · rw [hlinked, Option.some.injEq] at ht
      exact .ofType (hm.1.1.trans ht.symm)
  · -- Files are declared, and only the configuration can say otherwise.
    rcases follow_cases h with ⟨-, d, s, -, -, hm⟩ | hm | ⟨-, d, s, -, -, hm⟩
    · exact .ofType hm.1.1
    · exact .mapped hnone rfl hm
    · exact .ofType hm.1.1

end Reference

/-! ## Link fields of a registry -/

/-- Of the fields of a type to which nothing is added, those that link to a
type are inferred. -/
theorem Shape.exists_asksFor_of_mem_typeFields {targets : List LinkTarget}
    {columns : List (String × Shape)} {name type : String} {f : Field}
    (hf : (name, f) ∈ typeFields (Shape.fields targets columns) [])
    (hkind : f.type.kind = .node) (htarget : f.targetType = some type) :
    f.followsReference = true ∧ ∃ cls first, Shape.AsksFor name cls first type := by
  rcases mem_typeFields hf with hdefault | hinferred | hadded
  · simp only [defaultFields, List.mem_cons, Prod.mk.injEq, List.not_mem_nil, or_false]
      at hdefault
    rcases hdefault with ⟨-, rfl⟩ | ⟨-, rfl⟩ | ⟨-, rfl⟩ | ⟨-, rfl⟩ <;> cases htarget
  · obtain ⟨shape, -, rfl⟩ := Shape.exists_of_mem_fields hinferred
    obtain ⟨cls, first, t, -, hasks, hlink⟩ := Shape.exists_asksFor_of_kind_eq_node hkind
    rw [hlink] at htarget ⊢
    obtain rfl : t = type := Option.some.inj htarget
    exact ⟨rfl, cls, first, hasks⟩
  · cases hadded

namespace Build

variable {config : SiteConfig} {b : Build}

/-- **A link field follows references, and leads to a node of the type it
declares, to a file that the value names, or to where the configuration
says**, for every build without plugins and wherever the program works. -/
theorem leadsTo_of_follow {nodes : List Node}
    (h : run (.ofNodes nodes) ⟨.plugins [], config, .standard⟩ = .ok b)
    {d : TypeDescriptor} (hd : d ∈ b.registry.descriptors) {name type : String} {f : Field}
    (hf : (name, f) ∈ b.registry.fields d) (hkind : f.type.kind = .node)
    (htarget : f.targetType = some type) :
    f.followsReference = true
      ∧ ∀ working n m, (Reference.follow working b.registry.context n name).1 = some m →
        Reference.LeadsTo working b.registry.context n name type m := by
  rw [registry_of_run_eq_ok h] at hd hf ⊢
  obtain ⟨g, -, rfl⟩ := List.mem_map.1 hd
  obtain ⟨hfollows, cls, first, hasks⟩ :=
    Shape.exists_asksFor_of_mem_typeFields hf hkind htarget
  exact ⟨hfollows, fun working n m hm => Reference.leadsTo_of_asksFor hasks hm⟩

/-! A logo, a person and two essays, of which the first has the logo for its
author and its cover, and the second the person. Their covers are mapped to
persons. -/

/-- A file, with the directory it is in. -/
def logo : Node := .ofFields "/site/logo.png" "File" [(.string "dir", .string "/site")]

/-- A person. -/
def ada : Node := .ofFields "ada" "Person" []

/-- An essay made from a file, which names the logo twice. -/
def firstEssay : Node :=
  { Node.ofFields "one" "Essay"
      [(.string "author___Person", .string "logo.png"), (.string "cover", .string "logo.png")] with
    sourceNodeId := .string "/site/logo.png" }

/-- An essay that names the person twice. -/
def secondEssay : Node :=
  .ofFields "two" "Essay"
    [(.string "author___Person", .string "ada"), (.string "cover", .string "ada")]

/-- All four nodes. -/
def linkingNodes : List Node := [logo, ada, firstEssay, secondEssay]

/-- A configuration that maps covers to persons. -/
def coverConfig : SiteConfig := ⟨[("Essay.cover", "Person")], []⟩

/-- The registry of the four nodes. -/
def linkingRegistry : Registry :=
  ⟨(Collection.ofNodes linkingNodes).groups.map fun g => finish .standard g [],
    ⟨.ofNodes linkingNodes, coverConfig⟩, .standard⟩

/-- What is built for the essays. -/
def essayDescriptor : TypeDescriptor :=
  finish .standard ⟨"Essay", [⟨2, firstEssay⟩, ⟨3, secondEssay⟩]⟩ []

theorem run_linkingNodes :
    run (.ofNodes linkingNodes) ⟨.plugins [], coverConfig, .standard⟩
      = .ok ⟨linkingRegistry, []⟩ :=
  run_no_plugins (Collection.nodup_keys_iff.1 (by decide)) _ _

theorem essayDescriptor_mem : essayDescriptor ∈ linkingRegistry.descriptors :=
  List.mem_map_of_mem (by decide)

/-- Whether a field links to a type. -/
def linksTo (type : String) (f : Field) : Bool :=
  f.type.kind == .node && f.targetType == some type

theorem exists_linkField {name type : String}
    (h : (linkingRegistry.fields essayDescriptor).any (fun entry =>
      entry.1 == name && linksTo type entry.2) = true) :
    ∃ f, (name, f) ∈ linkingRegistry.fields essayDescriptor ∧ f.type.kind = .node
      ∧ f.targetType = some type := by
  obtain ⟨f, hf, hlinks⟩ := FieldMap.exists_mem_of_any (linksTo type) h
  rw [linksTo, Bool.and_eq_true, beq_iff_eq, beq_iff_eq] at hlinks
  exact ⟨f, hf, hlinks⟩

theorem exists_authorField :
    ∃ f, ("author___Person", f) ∈ linkingRegistry.fields essayDescriptor ∧ f.type.kind = .node
      ∧ f.targetType = some "Person" :=
  exists_linkField (by decide +kernel)

theorem exists_coverField :
    ∃ f, ("cover", f) ∈ linkingRegistry.fields essayDescriptor ∧ f.type.kind = .node
      ∧ f.targetType = some fileType :=
  exists_linkField (by decide +kernel)

-- The indexes of a collection do not evaluate here, so look-ups are scans first.
section
open Reference

theorem follow_author :
    (follow "/" linkingRegistry.context firstEssay "author___Person").1 = some ⟨0, logo⟩ := by
  show (resolve "/" ⟨.ofNodes linkingNodes, coverConfig⟩ firstEssay _).outcome.node? = _
  rw [outcome_resolve _ _ (by decide)]
  simp only [linkCandidate?, typedCandidate?, pathCandidate?, fileAt?, linkPath?,
    sourceDirectory?, Collection.find?_ofNodes]
  decide +kernel

theorem follow_cover :
    (follow "/" linkingRegistry.context secondEssay "cover").1 = some ⟨1, ada⟩ := by
  show (resolve "/" ⟨.ofNodes linkingNodes, coverConfig⟩ secondEssay _).outcome.node? = _
  rw [outcome_resolve _ _ (by decide)]
  simp only [linkCandidate?, typedCandidate?, pathCandidate?, fileAt?, linkPath?,
    sourceDirectory?, Collection.find?_ofNodes]
  decide +kernel

end

/-- **A link field may lead to a node of another type than declared**: authors
are declared to be persons, and that of the first essay is the logo; covers are
declared to be files, and that of the second essay is a person. -/
theorem links_to_other_types :
    ∃ b d, run (.ofNodes linkingNodes) ⟨.plugins [], coverConfig, .standard⟩ = .ok b
      ∧ d ∈ b.registry.descriptors ∧ firstEssay ∈ d.nodes ∧ secondEssay ∈ d.nodes
      ∧ ((∃ f, ("author___Person", f) ∈ b.registry.fields d ∧ f.type.kind = .node
            ∧ f.targetType = some "Person")
          ∧ (Reference.follow "/" b.registry.context firstEssay "author___Person").1
              = some ⟨0, logo⟩
          ∧ logo.type ≠ "Person")
      ∧ ((∃ f, ("cover", f) ∈ b.registry.fields d ∧ f.type.kind = .node
            ∧ f.targetType = some fileType)
          ∧ (Reference.follow "/" b.registry.context secondEssay "cover").1 = some ⟨1, ada⟩
          ∧ ada.type ≠ fileType) :=
  ⟨_, _, run_linkingNodes, essayDescriptor_mem, by decide, by decide,
    ⟨exists_authorField, follow_author, by decide⟩, ⟨exists_coverField, follow_cover, by decide⟩⟩

/-- The cover of the second essay leads to the person, because the
configuration says so. -/
theorem cover_leadsTo_ada :
    run (.ofNodes linkingNodes) ⟨.plugins [], coverConfig, .standard⟩ = .ok ⟨linkingRegistry, []⟩
      ∧ essayDescriptor ∈ linkingRegistry.descriptors
      ∧ (Reference.follow "/" linkingRegistry.context secondEssay "cover").1 = some ⟨1, ada⟩
      ∧ ∃ f, ("cover", f) ∈ linkingRegistry.fields essayDescriptor ∧ f.type.kind = .node
        ∧ f.targetType = some fileType ∧ f.followsReference = true
        ∧ Reference.LeadsTo "/" linkingRegistry.context secondEssay "cover" fileType ⟨1, ada⟩ := by
  obtain ⟨f, hf, hkind, htarget⟩ := exists_coverField
  obtain ⟨hfollows, hleads⟩ :=
    leadsTo_of_follow run_linkingNodes essayDescriptor_mem hf hkind htarget
  exact ⟨run_linkingNodes, essayDescriptor_mem, follow_cover, f, hf, hkind, htarget, hfollows,
    hleads _ _ _ follow_cover⟩

end Build

end ContentGraph
