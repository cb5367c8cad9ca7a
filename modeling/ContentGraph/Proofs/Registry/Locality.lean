import ContentGraph.Proofs.Inference.Fields
import ContentGraph.Proofs.Registry.Build

/-!
# A type depends on its own nodes and on the names of the others

Between the nodes of a type and what the registry says of it stand all other
nodes: they are grouped with them, their types are finished before or after
theirs, and the fields are computed from the registry that holds them all. Yet
other nodes have no more influence than the names of their types. A type is
registered with its own nodes, from which the arguments and the shapes of the
columns are read, and inference asks the registry for nothing but whether a
name is in it (`Registry.find?_targets`).

So two collections with the same types come to registries in which a type is
the same if only its own nodes are (`Registry.SameType`). Roots are never
registered, so they may be added and taken away; and the nodes of another type
may be changed, as long as one is left to keep the name.
-/

namespace ContentGraph

/-! ## The nodes of a type -/

namespace Collection

variable {c c' : Collection} {type : String}

/-- The nodes of a type, in order. -/
def nodesOf (c : Collection) (type : String) : List Node :=
  c.nodes.filter fun n => n.type == type

theorem map_node_ofType (c : Collection) (type : String) :
    (c.ofType type).map (·.node) = c.nodesOf type := by
  rw [nodesOf, nodes, List.filter_map]
  rfl

theorem hasContentType_iff :
    c.HasContentType type ↔ isReservedRoot type = false ∧ ∃ n ∈ c.nodes, n.type = type := by
  simp only [HasContentType, nodes, List.mem_map, exists_exists_and_eq_and]

theorem exists_mem_nodes_iff :
    (∃ n ∈ c.nodes, n.type = type) ↔ c.nodesOf type ≠ [] := by
  rw [nodesOf, ne_eq, List.filter_eq_nil_iff]
  simp only [beq_iff_eq, not_forall, not_not, exists_prop]

/-- Collections that agree on some nodes agree on the nodes of a type, if all
of these are among them. -/
theorem nodesOf_eq_of_filter_eq {p : Node → Bool} (h : c.nodes.filter p = c'.nodes.filter p)
    (htype : ∀ n : Node, n.type = type → p n = true) : c.nodesOf type = c'.nodesOf type := by
  have hfilter (c : Collection) :
      c.nodesOf type = (c.nodes.filter p).filter fun n => n.type == type := by
    rw [nodesOf, List.filter_filter]
    refine List.filter_congr fun n _ => ?_
    cases hn : n.type == type with
    | false => rfl
    | true => exact (htype n (beq_iff_eq.1 hn)).symm
  rw [hfilter, h, ← hfilter]

/-- Collections with the same nodes but for roots have the same types. -/
theorem hasContentType_congr_of_roots
    (h : c.nodes.filter (fun n => !isReservedRoot n.type)
      = c'.nodes.filter fun n => !isReservedRoot n.type) (t : String) :
    c.HasContentType t ↔ c'.HasContentType t := by
  rw [hasContentType_iff, hasContentType_iff]
  refine and_congr_right fun hroot => ?_
  have hnodes : c.nodesOf t = c'.nodesOf t :=
    nodesOf_eq_of_filter_eq h fun n hn => by rw [hn, hroot]; rfl
  rw [exists_mem_nodes_iff, exists_mem_nodes_iff, hnodes]

/-- Collections with the same nodes but for those of one type have the same
types, if both have such a node. -/
theorem hasContentType_congr_of_other {other : String}
    (h : c.nodes.filter (fun n => n.type != other) = c'.nodes.filter fun n => n.type != other)
    (hc : ∃ n ∈ c.nodes, n.type = other) (hc' : ∃ n ∈ c'.nodes, n.type = other) (t : String) :
    c.HasContentType t ↔ c'.HasContentType t := by
  rw [hasContentType_iff, hasContentType_iff]
  by_cases ht : t = other
  · subst ht
    rw [iff_true_intro hc, iff_true_intro hc']
  · have hnodes : c.nodesOf t = c'.nodesOf t :=
      nodesOf_eq_of_filter_eq h fun n hn => bne_iff_ne.2 (hn ▸ ht)
    rw [exists_mem_nodes_iff, exists_mem_nodes_iff, hnodes]

theorem keysCollide_congr (h : ∀ t, c.HasContentType t ↔ c'.HasContentType t) :
    c.KeysCollide ↔ c'.KeysCollide := by
  unfold KeysCollide
  simp only [h]

end Collection

/-! ## What a registry says of a type -/

namespace Registry

/-- **A type can be linked to if and only if its name is registered.** -/
theorem find?_targets (r : Registry) (name : String) :
    LinkTarget.find? r.targets name = if name ∈ r.tags then some ⟨name, true⟩ else none := by
  cases hfind : LinkTarget.find? r.targets name with
  | some t =>
    obtain rfl := LinkTarget.name_of_find? hfind
    obtain ⟨hfound, -⟩ := Option.filter_eq_some_iff.1 hfind
    obtain ⟨d, hd, rfl⟩ := List.mem_map.1 (List.mem_of_find?_eq_some hfound)
    rw [if_pos (show d.target.name ∈ r.tags from List.mem_map_of_mem hd)]
    rfl
  | none =>
    -- A registered type is a target, and references to all of these can be followed.
    refine (if_neg fun hname => ?_).symm
    obtain ⟨d, hd, rfl⟩ := List.mem_map.1 hname
    have hmem : d.target ∈ r.targets := List.mem_map_of_mem hd
    cases hfirst : r.targets.find? fun t => t.name == d.name with
    | none => exact List.find?_eq_none.1 hfirst d.target hmem (beq_self_eq_true d.name)
    | some t =>
      obtain ⟨e, -, rfl⟩ := List.mem_map.1 (List.mem_of_find?_eq_some hfirst)
      rw [LinkTarget.find?, hfirst] at hfind
      cases hfind

/-- **A type is the same in two registries**: under its key and under its name
stands in both a type of that name, with the same nodes, the same arguments
and the same fields. -/
def SameType (r s : Registry) (type : String) : Prop :=
  ∃ d e, r.get? (Text.camelCase type) = some d ∧ r.byTag? type = some d
    ∧ s.get? (Text.camelCase type) = some e ∧ s.byTag? type = some e
    ∧ d.name = type ∧ e.name = type
    ∧ d.nodes = e.nodes ∧ d.arguments = e.arguments ∧ r.fields d = s.fields e

/-- Nodes have the same fields in registries with the same names. -/
theorem inferred_congr {r s : Registry} (h : ∀ name, name ∈ r.tags ↔ name ∈ s.tags)
    (nodes : List Node) :
    Engine.standard.fields r.targets nodes = Engine.standard.fields s.targets nodes := by
  refine Shape.fields_congr (fun name => ?_) _
  simp only [find?_targets, h]

end Registry

/-! ## Two builds -/

namespace Build

variable {c c' : Collection} {type : String}

/-- **A type is not affected by what two collections differ in**: without
plugins both come to a registry, and the type is the same in both, whatever the
configurations are. -/
def Unaffected (type : String) (c c' : Collection) : Prop :=
  ∀ config config', ∃ b b', run c ⟨.plugins [], config, .standard⟩ = .ok b
    ∧ run c' ⟨.plugins [], config', .standard⟩ = .ok b'
    ∧ b.registry.SameType b'.registry type

/-- The registry of a build without plugins represents its collection, and
holds for every type what is read off the nodes of the type. -/
theorem exists_lookup_no_plugins (hkeys : ¬ c.KeysCollide) (config : SiteConfig) :
    ∃ b, run c ⟨.plugins [], config, .standard⟩ = .ok b
      ∧ (∀ t, t ∈ b.registry.tags ↔ c.HasContentType t)
      ∧ ∀ t, c.HasContentType t → ∃ d, b.registry.get? (Text.camelCase t) = some d
        ∧ b.registry.byTag? t = some d ∧ d.name = t ∧ d.nodes = c.nodesOf t
        ∧ d.arguments = Engine.standard.arguments (c.nodesOf t)
        ∧ b.registry.fields d
          = typeFields (Engine.standard.fields b.registry.targets (c.nodesOf t)) [] := by
  have hrepresents : Registry.Represents
      ⟨c.groups.map fun g => finish .standard g [], ⟨c, config⟩, .standard⟩ c :=
    Registry.represents_of_perm (.of_eq (by rw [List.map_map]; exact List.map_id _)) hkeys
  refine ⟨_, run_no_plugins hkeys config .standard, hrepresents.mem_tags, fun t ht => ?_⟩
  obtain ⟨d, hget, hbyTag, hname, hmembers⟩ := hrepresents.lookup t ht
  have hnodes : d.nodes = c.nodesOf t := by
    rw [TypeDescriptor.nodes, hmembers, Collection.map_node_ofType]
  obtain ⟨g, -, rfl⟩ := List.mem_map.1 (List.mem_of_find?_eq_some hbyTag)
  refine ⟨_, hget, hbyTag, hname, hnodes, ?_, ?_⟩
  · rw [← hnodes]
    rfl
  · rw [Registry.fields, hnodes]
    rfl

/-- The same types and the same nodes of a type make the type the same. -/
theorem unaffected_of_nodesOf_eq (hkeys : ¬ c.KeysCollide) (htype : c.HasContentType type)
    (htypes : ∀ t, c.HasContentType t ↔ c'.HasContentType t)
    (hnodes : c.nodesOf type = c'.nodesOf type) : Unaffected type c c' := by
  intro config config'
  have hkeys' : ¬ c'.KeysCollide := mt (Collection.keysCollide_congr htypes).2 hkeys
  obtain ⟨b, hb, htags, hlookup⟩ := exists_lookup_no_plugins hkeys config
  obtain ⟨b', hb', htags', hlookup'⟩ := exists_lookup_no_plugins hkeys' config'
  obtain ⟨d, hget, hbyTag, hname, hd, harguments, hfields⟩ := hlookup type htype
  obtain ⟨e, hget', hbyTag', hname', he, harguments', hfields'⟩ :=
    hlookup' type ((htypes type).1 htype)
  -- All that inference asks of the two registries.
  have hnames : ∀ name, name ∈ b.registry.tags ↔ name ∈ b'.registry.tags := fun name =>
    (htags name).trans ((htypes name).trans (htags' name).symm)
  refine ⟨b, b', hb, hb', d, e, hget, hbyTag, hget', hbyTag', hname, hname', ?_, ?_, ?_⟩
  · rw [hd, he, hnodes]
  · rw [harguments, harguments', hnodes]
  · rw [hfields, hfields', hnodes, Registry.inferred_congr hnames]

/-- **A type depends on nothing but its own nodes and the names of the types**:
for every two collections with the same types, of which no two have one key, and
the same nodes of one type, builds without plugins come to registries in which
that type is the same. So roots can be added and taken away anywhere, and the
nodes of another type can be changed as long as one is left. -/
theorem unaffected_by_others (hkeys : ¬ c.KeysCollide) (htype : c.HasContentType type)
    (c' : Collection) :
    ((∀ t, c.HasContentType t ↔ c'.HasContentType t) → c.nodesOf type = c'.nodesOf type →
        Unaffected type c c')
      ∧ (c.nodes.filter (fun n => !isReservedRoot n.type)
          = c'.nodes.filter (fun n => !isReservedRoot n.type) → Unaffected type c c')
      ∧ ∀ other, other ≠ type →
        c.nodes.filter (fun n => n.type != other) = c'.nodes.filter (fun n => n.type != other) →
        (∃ n ∈ c.nodes, n.type = other) → (∃ n ∈ c'.nodes, n.type = other) →
        Unaffected type c c' := by
  refine ⟨unaffected_of_nodesOf_eq hkeys htype, fun h => ?_, fun other hother h hc hc' => ?_⟩
  · refine unaffected_of_nodesOf_eq hkeys htype (Collection.hasContentType_congr_of_roots h)
      (Collection.nodesOf_eq_of_filter_eq h fun n hn => ?_)
    rw [hn, htype.1]
    rfl
  · exact unaffected_of_nodesOf_eq hkeys htype (Collection.hasContentType_congr_of_other h hc hc')
      (Collection.nodesOf_eq_of_filter_eq h fun n hn => bne_iff_ne.2 (hn ▸ hother.symm))

/-- A talk with a speaker. -/
def talkBy (id speaker : String) (hid : id.isEmpty = false := by exact Eq.refl false) : Node :=
  .ofFields id "Talk" [(.string "by___speaker", .string speaker)] hid

/-- A speaker. -/
def speaker (id : String) (hid : id.isEmpty = false := by exact Eq.refl false) : Node :=
  .ofFields id "Speaker" [] hid

/-- Two talks with their speaker between them. -/
def talks : List Node := [talkBy "keynote" "barbara", speaker "barbara", talkBy "panel" "barbara"]

/-- The talks between two roots. -/
def rootedTalks : List Node :=
  .ofFields "site" "rootDirectory" [] :: talks ++ [.ofFields "drafts" "rootDirectory" []]

/-- The talks after speakers of whom none gives them. -/
def misattributedTalks : List Node :=
  [speaker "tony", speaker "robin", talkBy "keynote" "barbara", talkBy "panel" "barbara"]

/-- Talks link to speakers whoever these are and whatever the roots are. -/
theorem talks_unaffected :
    ¬ (Collection.ofNodes talks).KeysCollide
      ∧ (Collection.ofNodes talks).HasContentType "Talk"
      ∧ Unaffected "Talk" (.ofNodes talks) (.ofNodes rootedTalks)
      ∧ Unaffected "Talk" (.ofNodes talks) (.ofNodes misattributedTalks)
      ∧ Unaffected "Talk" (.ofNodes talks)
          (.ofNodes (misattributedTalks ++ [.ofFields "site" "rootDirectory" []])) := by
  have hkeys : ¬ (Collection.ofNodes talks).KeysCollide :=
    Collection.nodup_keys_iff.1 (by decide)
  have htype : (Collection.ofNodes talks).HasContentType "Talk" :=
    ⟨by decide, ⟨0, talkBy "keynote" "barbara"⟩, by decide, rfl⟩
  refine ⟨hkeys, htype, (unaffected_by_others hkeys htype _).2.1 rfl,
    (unaffected_by_others hkeys htype _).2.2 "Speaker" (by decide) rfl ?_ ?_,
    (unaffected_by_others hkeys htype _).1 (fun t => ?_) rfl⟩
  · exact ⟨speaker "barbara", by decide, rfl⟩
  · exact ⟨speaker "tony", by decide, rfl⟩
  · rw [← Collection.mem_contentTypes, ← Collection.mem_contentTypes]
    exact List.Perm.mem_iff (.swap "Speaker" "Talk" [])

end Build

end ContentGraph
