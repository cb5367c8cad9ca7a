import ContentGraph.Proofs.Node.Grouping
import ContentGraph.Proofs.Node.Lookup
import Mathlib.Data.List.Basic

/-!
# Three views of one collection

A collection is looked into in three ways: by identifier, from indexes in which the
first member under a key stays; by type, going over the members each time; and
group by group, as they were gathered by a fold from which the roots are then taken
out. All three say the same of the same members (`Collection.views_agree`). The
types stand in the order of their first members, and put together type by type the
members are rearranged, but those of one type keep their order.
-/

namespace ContentGraph.Collection

/-! ## The order of the types -/

/-- **Texts without repetitions stand in the order in which they are first met.** -/
theorem pairwise_distinctAfter (seen texts : List String) :
    (distinctAfter seen texts).Pairwise fun s t => texts.idxOf s < texts.idxOf t := by
  induction texts generalizing seen with
  | nil => exact List.Pairwise.nil
  | cons first rest ih =>
    -- Texts other than the first one are met one place later.
    have hshift : ∀ seen : List String, first ∈ seen →
        (distinctAfter seen rest).Pairwise fun s t =>
          (first :: rest).idxOf s < (first :: rest).idxOf t := by
      intro seen hfirst
      refine (ih seen).imp_of_mem fun {s t} hs ht hlt => ?_
      have hne : ∀ u ∈ distinctAfter seen rest, first ≠ u := fun u hu heq =>
        (mem_distinctAfter.1 hu).2 (heq ▸ hfirst)
      rw [List.idxOf_cons_ne _ (hne s hs), List.idxOf_cons_ne _ (hne t ht)]
      exact Nat.succ_lt_succ hlt
    unfold distinctAfter
    split
    · next hseen => exact hshift seen (List.contains_iff_mem.1 hseen)
    · refine List.pairwise_cons.2 ⟨fun t ht => ?_, hshift _ List.mem_cons_self⟩
      have hne : first ≠ t := fun heq => (mem_distinctAfter.1 ht).2 (heq ▸ List.mem_cons_self)
      rw [List.idxOf_cons_self, List.idxOf_cons_ne _ hne]
      exact Nat.succ_pos _

/-! ## The members type by type -/

variable {c : Collection} {nodes : List Node}

theorem mem_types {type : String} : type ∈ c.types ↔ ∃ m ∈ c.members, m.node.type = type := by
  rw [types, mem_distinctAfter, List.mem_map]
  exact and_iff_left List.not_mem_nil

theorem nodup_types (c : Collection) : c.types.Nodup := nodup_distinctAfter _ _

/-- The members of a type that have a type are all of them, or none. -/
theorem filter_ofType (c : Collection) (s t : String) :
    (c.ofType s).filter (fun m => m.node.type == t) = if s = t then c.ofType t else [] := by
  rw [ofType, List.filter_filter]
  split
  · next h =>
    subst h
    simp only [Bool.and_self]
    rfl
  · next h =>
    refine List.filter_eq_nil_iff.2 fun m _ hm => h ?_
    rw [Bool.and_eq_true, beq_iff_eq, beq_iff_eq] at hm
    exact hm.2.symm.trans hm.1

/-- Types that do not repeat bring the members of each of them once. -/
theorem filter_flatMap_ofType {types : List String} (hnodup : types.Nodup) (type : String) :
    (types.flatMap c.ofType).filter (fun m => m.node.type == type)
      = if type ∈ types then c.ofType type else [] := by
  induction types with
  | nil => rfl
  | cons first rest ih =>
    obtain ⟨hnot, hrest⟩ := List.nodup_cons.1 hnodup
    rw [List.flatMap_cons, List.filter_append, ih hrest, filter_ofType]
    by_cases heq : first = type
    · subst heq
      rw [if_pos rfl, if_neg hnot, if_pos List.mem_cons_self, List.append_nil]
    · rw [if_neg heq, List.nil_append]
      simp only [List.mem_cons, Ne.symm heq, false_or]

/-- **Type by type, the members of each type keep their order.** -/
theorem filter_flatMap_types (c : Collection) (type : String) :
    (c.types.flatMap c.ofType).filter (fun m => m.node.type == type) = c.ofType type := by
  rw [filter_flatMap_ofType c.nodup_types]
  split
  · rfl
  · next hnot =>
    refine (List.filter_eq_nil_iff.2 fun m hm htype => hnot ?_).symm
    exact mem_types.2 ⟨m, hm, beq_iff_eq.1 htype⟩

/-- **Type by type, the members are rearranged**: none is lost, and none is there more
often than before. -/
theorem flatMap_types_perm (c : Collection) : List.Perm (c.types.flatMap c.ofType) c.members := by
  refine List.perm_iff_count.2 fun m => ?_
  have hcount : ∀ members : List Member,
      (members.filter fun o => o.node.type == m.node.type).count m = members.count m := fun _ =>
    List.count_filter (beq_self_eq_true m.node.type)
  rw [← hcount, filter_flatMap_types]
  exact hcount c.members

theorem nodes_ofNodes (nodes : List Node) : (ofNodes nodes).nodes = nodes := by
  show (enumerate nodes).map (·.node) = nodes
  rw [enumerate, List.map_map]
  exact List.zipIdx_map_fst 0 nodes

/-- A look-up of a text goes over both keys of every member. -/
theorem find?_string (nodes : List Node) (type s : String) :
    (ofNodes nodes).find? type (.string s)
      = (ofNodes nodes).members.find? fun m => m.node.type == type && m.node.id == s := by
  rw [find?_ofNodes]
  refine congrArg (fun p => List.find? p _) (funext fun m => ?_)
  rw [Bool.eq_iff_iff, decide_eq_true_iff, Member.Matches, Value.string.injEq,
    Bool.and_eq_true, beq_iff_eq, beq_iff_eq]

/-- What is found is found by a text. -/
theorem isString_or_find?_eq_none (nodes : List Node) (type : String) (id : Value) :
    id.isString = true ∨ (ofNodes nodes).find? type id = none := by
  cases hfind : (ofNodes nodes).find? type id with
  | none => exact Or.inr rfl
  | some m =>
    have hid : Value.string m.node.id = id := (find?_eq_some_iff.1 hfind).1.2
    exact Or.inl (hid ▸ rfl)

/-! ## The views together -/

/-- **The three views of a collection agree with going over its members in order**, for
every list of nodes, however identifiers repeat in it. A look-up by type and identifier, and
one by identifier alone, finds the first member with these, and a value that is no text
finds nothing. The types are those of the nodes, in the order in which they are first met;
the members put together type by type are rearranged and keep their order within a type; and
the groups are the types without the roots, each with all its members. -/
theorem views_agree (nodes : List Node) :
    (ofNodes nodes).nodes = nodes
      ∧ (∀ type s, (ofNodes nodes).find? type (.string s)
          = (ofNodes nodes).members.find? fun m => m.node.type == type && m.node.id == s)
      ∧ (∀ type id, id.isString = true ∨ (ofNodes nodes).find? type id = none)
      ∧ (∀ id, (ofNodes nodes).get? id
          = (ofNodes nodes).members.find? fun m => m.node.id == id)
      ∧ (∀ type, type ∈ (ofNodes nodes).types ↔ type ∈ nodes.map (·.type))
      ∧ ((ofNodes nodes).types.Pairwise fun s t =>
          (nodes.map (·.type)).idxOf s < (nodes.map (·.type)).idxOf t)
      ∧ List.Perm ((ofNodes nodes).types.flatMap (ofNodes nodes).ofType) (ofNodes nodes).members
      ∧ (∀ type, ((ofNodes nodes).types.flatMap (ofNodes nodes).ofType).filter
            (fun m => m.node.type == type)
          = (ofNodes nodes).members.filter fun m => m.node.type == type)
      ∧ (ofNodes nodes).groups
        = ((ofNodes nodes).types.filter fun type => !isReservedRoot type).map fun type =>
            ⟨type, (ofNodes nodes).ofType type⟩ := by
  have htags : (ofNodes nodes).members.map (·.node.type) = nodes.map (·.type) := by
    rw [← congrArg (List.map (·.type)) (nodes_ofNodes nodes), Collection.nodes, List.map_map]
    rfl
  refine ⟨nodes_ofNodes nodes, find?_string nodes, isString_or_find?_eq_none nodes,
    get?_ofNodes nodes, fun type => ?_, ?_, flatMap_types_perm _, filter_flatMap_types _,
    groups_eq_map _⟩
  · rw [mem_types, ← htags, List.mem_map]
  · rw [types, htags]
    exact pairwise_distinctAfter [] _

end ContentGraph.Collection
