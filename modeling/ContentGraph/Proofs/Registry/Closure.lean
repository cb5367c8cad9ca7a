import ContentGraph.Proofs.Reference.Follow
import ContentGraph.Proofs.Registry.Link
import ContentGraph.Proofs.Registry.Precedence
import ContentGraph.Proofs.Text.Case

/-!
# Where a registry is left

A registry drops the roots of the node tree, but references are followed in the
whole collection, and a reference may link to any type that its name or the
configuration gives. So it has to be shown that following a reference does not
leave the registry.

Rules that link to files do not, and neither does the end of a name: a type that
is read off a name is capitalized, and the types of the roots are not. Only a
configuration can say that a field links to a root, and then a reference does
lead there (`Build.leads_to_unknown_root`). There is no other way out of the
registry (`Build.knows_or_root_of_follow`).
-/

namespace ContentGraph

/-- **A capitalized text is the type of no root**, as both begin with a small
letter. -/
theorem isReservedRoot_capitalize (s : String) : isReservedRoot (Text.capitalize s) = false := by
  have hsmall : ∀ root ∈ reservedRootTypes, ∃ c rest,
      root.toList = c :: rest ∧ Text.IsSmallLetter c.toNat := by
    simp only [reservedRootTypes, List.forall_mem_cons]
    exact ⟨⟨'r', _, rfl, by decide⟩, ⟨'r', _, rfl, by decide⟩, List.forall_mem_nil _⟩
  refine Bool.eq_false_iff.2 fun hroot => ?_
  obtain ⟨c, rest, heq, hc⟩ := hsmall _ (List.contains_iff_mem.1 hroot)
  exact Text.not_isSmallLetter_of_capitalize heq hc

namespace Registry

/-- **A registry knows a node**: the type of the node is registered, and exactly
one registered type accepts the node. -/
def Knows (r : Registry) (n : Node) : Prop :=
  n.type ∈ r.tags ∧ ∃ d, r.descriptors.filter (fun e => e.accepts n) = [d]

/-- **A node is unknown to a registry**: its type is not registered, and no
registered type accepts the node. -/
def Misses (r : Registry) (n : Node) : Prop :=
  n.type ∉ r.tags ∧ r.descriptors.filter (fun e => e.accepts n) = []

theorem filter_eq_singleton_of_nodup {α : Type} [DecidableEq α] {f : TypeDescriptor → α}
    {descriptors : List TypeDescriptor} (h : (descriptors.map f).Nodup) {d : TypeDescriptor}
    (hd : d ∈ descriptors) : descriptors.filter (fun e => f d == f e) = [d] := by
  induction descriptors with
  | nil => cases hd
  | cons first rest ih =>
    rw [List.map_cons, List.nodup_cons] at h
    obtain ⟨hfirst, hrest⟩ := h
    rcases List.mem_cons.1 hd with rfl | hd
    · have hnone : rest.filter (fun e => f d == f e) = [] := by
        refine List.filter_eq_nil_iff.2 fun e he heq => hfirst ?_
        exact beq_iff_eq.1 heq ▸ List.mem_map_of_mem he
      rw [List.filter_cons, if_pos (beq_self_eq_true _), hnone]
    · have hne : ¬ (f d == f first) = true := fun heq =>
        hfirst (beq_iff_eq.1 heq ▸ List.mem_map_of_mem hd)
      rw [List.filter_cons, if_neg hne, ih hrest hd]

variable {r : Registry} {c : Collection} {m : Member}

/-- A registry knows the nodes of its collection that are no roots. -/
theorem Represents.knows (h : r.Represents c) (hm : m ∈ c.members)
    (hroot : isReservedRoot m.node.type = false) : r.Knows m.node := by
  have htag := (h.mem_tags m.node.type).2 ⟨hroot, m, hm, rfl⟩
  obtain ⟨d, hd, hname⟩ := List.mem_map.1 htag
  refine ⟨htag, d, ?_⟩
  rw [← filter_eq_singleton_of_nodup h.nodup_tags hd, hname]
  rfl

/-- Roots are unknown to it. -/
theorem Represents.misses (h : r.Represents c) (hm : m ∈ c.members)
    (hroot : isReservedRoot m.node.type = true) : r.Misses m.node := by
  constructor
  · intro htag
    have hcontent := ((h.mem_tags _).1 htag).1
    rw [hroot] at hcontent
    cases hcontent
  · exact List.filter_eq_nil_iff.2 fun d hd => Bool.eq_false_iff.1 (h.roots m hm hroot d hd).2

end Registry

namespace Reference

/-- **A field that the configuration maps to roots**, and the root it leads to. -/
structure LeadsToRoot (context : Context) (n : Node) (field : String) (m : Member) : Prop where
  /-- The name of the field ends in no type, so that the configuration is asked. -/
  name : Text.typeSuffix? field = none
  /-- What the field leads to is a root. -/
  root : isReservedRoot m.node.type = true
  /-- The configuration maps the field to its type. -/
  mapped : linkedType? context.config n field = some m.node.type
  /-- The value is the identifier of the root, the first one of its type. -/
  first : context.nodes.IsFirst m.node.type (n.get field) m

variable {working : String} {nodes : List Node} {config : SiteConfig} {n : Node}
  {field : String} {m : Member}

/-- The end of a name is the type of no root. -/
theorem typeSuffix?_eq_none_of_root {type : String} (h : linkedType? config n field = some type)
    (hroot : isReservedRoot type = true) : Text.typeSuffix? field = none := by
  cases hsuffix : Text.typeSuffix? field with
  | none => rfl
  | some suffix =>
    rw [linkedType?, hsuffix] at h
    rw [← Option.some.inj h, isReservedRoot_capitalize] at hroot
    cases hroot

/-- **A reference leads to a member of the collection**, and to a root only where
the configuration says so. -/
theorem leadsToRoot_of_follow (h : (follow working ⟨.ofNodes nodes, config⟩ n field).1 = some m) :
    m ∈ (Collection.ofNodes nodes).members
      ∧ (isReservedRoot m.node.type = true → LeadsToRoot ⟨.ofNodes nodes, config⟩ n field m) := by
  -- Files are no roots.
  have hfile (htype : m.node.type = fileType) : isReservedRoot m.node.type = false := by
    rw [htype]
    rfl
  have hfile {directory : Option String} {v : Value}
      (hm : IsFileAt working (.ofNodes nodes) directory v m) :
      m ∈ (Collection.ofNodes nodes).members
        ∧ (isReservedRoot m.node.type = true → LeadsToRoot ⟨.ofNodes nodes, config⟩ n field m) := by
    obtain ⟨d, s, -, -, hm⟩ := hm
    refine ⟨hm.mem, fun hroot => ?_⟩
    rw [hm.1.1] at hroot
    cases hroot
  rcases follow_cases h with ⟨-, hm⟩ | ⟨type, hlinked, hm⟩ | ⟨-, hm⟩
  · exact hfile hm
  · obtain rfl : m.node.type = type := hm.1.1
    exact ⟨hm.mem, fun hroot => ⟨typeSuffix?_eq_none_of_root hlinked hroot, hroot, hlinked, hm⟩⟩
  · exact hfile hm

end Reference

namespace Build

/-- **A reference leads to a node that the registry knows**, or to a root that
the configuration maps the field to, for every build that ends well, every
configuration, every node and every field, and wherever the program works. Such
a root is unknown to the registry. -/
theorem knows_or_root_of_follow {nodes : List Node} {options : BuildOptions} {b : Build}
    (h : run (.ofNodes nodes) options = .ok b) {working : String} {n : Node} {field : String}
    {m : Member} (hm : (Reference.follow working b.registry.context n field).1 = some m) :
    m ∈ (Collection.ofNodes nodes).members
      ∧ (b.registry.Knows m.node
        ∨ b.registry.Misses m.node ∧ Reference.LeadsToRoot b.registry.context n field m) := by
  have hrepresents := represents_of_run h
  rw [context_of_run h] at hm ⊢
  obtain ⟨hmem, hleads⟩ := Reference.leadsToRoot_of_follow hm
  refine ⟨hmem, ?_⟩
  cases hroot : isReservedRoot m.node.type with
  | false => exact Or.inl (hrepresents.knows hmem hroot)
  | true => exact Or.inr ⟨hrepresents.misses hmem hroot, hleads hroot⟩

/-! A root and two pages, of which the first names the root and the second page.
Both fields are mapped to types. -/

/-- A root. -/
def home : Node := .ofFields "/" "root" []

/-- The first page. -/
def openingPage : Node :=
  .ofFields "p" "Page" [(.string "up", .string "/"), (.string "next", .string "q")]

/-- The second page. -/
def closingPage : Node := .ofFields "q" "Page" []

/-- The root and the pages. -/
def pagedNodes : List Node := [home, openingPage, closingPage]

/-- A configuration that maps one field to roots and another to pages. -/
def pagedConfig : SiteConfig := ⟨[("Page.up", "root"), ("Page.next", "Page")], []⟩

/-- The registry of the pages. -/
def pagedRegistry : Registry :=
  ⟨(Collection.ofNodes pagedNodes).groups.map fun g => finish .standard g [],
    ⟨.ofNodes pagedNodes, pagedConfig⟩, .standard⟩

theorem run_pagedNodes :
    run (.ofNodes pagedNodes) ⟨.plugins [], pagedConfig, .standard⟩ = .ok ⟨pagedRegistry, []⟩ :=
  run_no_plugins (Collection.nodup_keys_iff.1 (by decide)) _ _

-- The indexes of a collection do not evaluate here, so look-ups are scans first.
section
open Reference

theorem follow_up : (follow "/" pagedRegistry.context openingPage "up").1 = some ⟨0, home⟩ := by
  show (resolve "/" ⟨.ofNodes pagedNodes, pagedConfig⟩ openingPage _).outcome.node? = _
  rw [outcome_resolve _ _ (by decide)]
  simp only [linkCandidate?, typedCandidate?, pathCandidate?, fileAt?, linkPath?,
    sourceDirectory?, Collection.find?_ofNodes]
  decide +kernel

theorem follow_next :
    (follow "/" pagedRegistry.context openingPage "next").1 = some ⟨2, closingPage⟩ := by
  show (resolve "/" ⟨.ofNodes pagedNodes, pagedConfig⟩ openingPage _).outcome.node? = _
  rw [outcome_resolve _ _ (by decide)]
  simp only [linkCandidate?, typedCandidate?, pathCandidate?, fileAt?, linkPath?,
    sourceDirectory?, Collection.find?_ofNodes]
  decide +kernel

end

/-- **A reference may lead out of the registry**: the configuration maps a field
to roots, and so the first page leads to a node that the registry does not
know. -/
theorem leads_to_unknown_root :
    ∃ b, run (.ofNodes pagedNodes) ⟨.plugins [], pagedConfig, .standard⟩ = .ok b
      ∧ openingPage ∈ pagedNodes
      ∧ (Reference.follow "/" b.registry.context openingPage "up").1 = some ⟨0, home⟩
      ∧ ¬ b.registry.Knows home ∧ b.registry.Misses home := by
  have hmem : ⟨0, home⟩ ∈ (Collection.ofNodes pagedNodes).members := by decide
  have hmisses : pagedRegistry.Misses home :=
    (represents_of_run run_pagedNodes).misses hmem rfl
  exact ⟨_, run_pagedNodes, by decide, follow_up, fun hknows => hmisses.1 hknows.1, hmisses⟩

/-- The first page leads to the second one, which the registry knows, and to
the root, because the configuration says so. -/
theorem openingPage_leads :
    run (.ofNodes pagedNodes) ⟨.plugins [], pagedConfig, .standard⟩ = .ok ⟨pagedRegistry, []⟩
      ∧ (Reference.follow "/" pagedRegistry.context openingPage "next").1 = some ⟨2, closingPage⟩
      ∧ pagedRegistry.Knows closingPage
      ∧ (Reference.follow "/" pagedRegistry.context openingPage "up").1 = some ⟨0, home⟩
      ∧ Reference.LeadsToRoot pagedRegistry.context openingPage "up" ⟨0, home⟩ := by
  refine ⟨run_pagedNodes, follow_next, ?_, follow_up, ?_⟩
  · obtain ⟨-, hknows | ⟨-, hroot⟩⟩ := knows_or_root_of_follow run_pagedNodes follow_next
    · exact hknows
    · cases hroot.root
  · obtain ⟨-, hknows | ⟨-, hroot⟩⟩ := knows_or_root_of_follow run_pagedNodes follow_up
    · exact absurd hknows.1 (by decide)
    · exact hroot

end Build

end ContentGraph
