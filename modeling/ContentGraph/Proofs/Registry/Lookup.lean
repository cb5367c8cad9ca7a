import ContentGraph.Proofs.Filter.Select
import ContentGraph.Proofs.Node.Lookup
import ContentGraph.Proofs.Registry.Precedence
import ContentGraph.Proofs.Value.Equality

/-!
# Two ways to a node

A node of a type can be found by its identifier in two ways that have nothing in
common. The collection has an index, which is asked with the type and the
identifier. And the type has a look-up, which goes over its own nodes: a filter is
read, a column of their identifiers is made and compared with the value, and the
first node that is left is taken.

They find the same node (`Build.lookup_eq_find?`), or both find none. That is
because identifiers are texts, and a text equals nothing but the same text: so
there is no value, of whatever kind, that the filter takes for an identifier and
the index does not.
-/

namespace ContentGraph

/-- The arguments of a look-up by identifier. -/
def byIdentifier (id : Value) : Value := Filter.nested .eq id ["id"]

/-- An identifier is looked for by its value. -/
theorem holds_byIdentifier (n : Node) (id : Value) :
    Condition.holds n ⟨[.string "id"], .eq, id⟩ = decide (Value.string n.id = id) := by
  show (Value.string n.id).eq id = _
  rw [Bool.eq_iff_iff, Value.string_eq_iff, decide_eq_true_iff, eq_comm]

/-- **The first of a type's nodes with an identifier is the first node with the
type and the identifier.** -/
theorem Collection.head?_ofType (nodes : List Node) (type : String) (id : Value) :
    (((ofNodes nodes).ofType type).filter fun m => decide (Value.string m.node.id = id)).head?
      = (ofNodes nodes).find? type id := by
  rw [find?_ofNodes, ofType, List.filter_filter, List.head?_filter]
  refine congrArg (fun p => List.find? p _) (funext fun m => ?_)
  rw [Bool.eq_iff_iff, Bool.and_eq_true, beq_iff_eq, decide_eq_true_iff, decide_eq_true_iff,
    Member.Matches, and_comm]

namespace Build

theorem engine_of_run {c : Collection} {options : BuildOptions} {b : Build}
    (h : run c options = .ok b) : b.registry.engine = options.engine := by
  obtain ⟨-, descriptors, hregistry, -⟩ := registry_of_run h
  rw [hregistry]

/-- **The look-up of a type and the index find the same node**, for every build
that ends well and looks nodes up by conditions, every registered type and every
value. -/
theorem lookup_eq_find? {nodes : List Node} {options : BuildOptions} {b : Build}
    (h : run (.ofNodes nodes) options = .ok b)
    (hselect : options.engine.select = Filter.select Member.node) {type : String}
    (htype : type ∈ b.registry.tags) (id : Value) :
    ∃ d, b.registry.byTag? type = some d
      ∧ b.registry.lookup d (byIdentifier id) = .ok (b.registry.context.nodes.find? type id) := by
  have hrepresents := represents_of_run h
  obtain ⟨d, -, hd, -, hmembers⟩ := hrepresents.lookup type ((hrepresents.mem_tags type).1 htype)
  refine ⟨d, hd, ?_⟩
  have hselected : b.registry.engine.select (byIdentifier id) d.members
      = .ok (((Collection.ofNodes nodes).ofType type).filter
          fun m => decide (Value.string m.node.id = id)) := by
    rw [engine_of_run h, hselect, hmembers, byIdentifier,
      Filter.select_nested _ _ (by decide) _ _ (List.forall_mem_nil _)]
    exact congrArg Except.ok (List.filter_congr fun m _ => holds_byIdentifier m.node id)
  show (b.registry.engine.select (byIdentifier id) d.members).map List.head? = _
  rw [hselected, context_of_run h]
  exact congrArg Except.ok (Collection.head?_ofType nodes type id)

/-- A tag and two pages, all of one identifier. -/
def repeatedNodes : List Node :=
  [.ofFields "a" "Tag" [], .ofFields "a" "Page" [(.string "n", .int 1)],
    .ofFields "a" "Page" [(.string "n", .int 2)]]

/-- The first of the pages is found by its identifier, and no page by a list
with it. -/
theorem lookup_repeatedNodes :
    ∃ b d, run (.ofNodes repeatedNodes) ⟨.plugins [], .empty, .standard⟩ = .ok b
      ∧ "Page" ∈ b.registry.tags ∧ b.registry.byTag? "Page" = some d
      ∧ b.registry.lookup d (byIdentifier (.string "a"))
        = .ok (some ⟨1, .ofFields "a" "Page" [(.string "n", .int 1)]⟩)
      ∧ b.registry.lookup d (byIdentifier (.list [.string "a"])) = .ok none := by
  have hrun := run_no_plugins (c := .ofNodes repeatedNodes)
    (Collection.nodup_keys_iff.1 (by decide)) .empty .standard
  have htags : "Page" ∈ ((Collection.ofNodes repeatedNodes).groups.map
      fun g => finish .standard g []).map (·.name) := by decide
  obtain ⟨d, hd, hfound⟩ := lookup_eq_find? hrun rfl htags (.string "a")
  obtain ⟨_, hsame, hnone⟩ := lookup_eq_find? hrun rfl htags (.list [.string "a"])
  obtain rfl := Option.some.inj (hd.symm.trans hsame)
  refine ⟨_, d, hrun, htags, hd, hfound.trans ?_, hnone.trans rfl⟩
  show Except.ok ((Collection.ofNodes repeatedNodes).find? "Page" (.string "a")) = _
  rw [Collection.find?_ofNodes]
  decide

end Build

end ContentGraph
