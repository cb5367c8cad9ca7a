import ContentGraph.Node.Grouping

/-!
# Groups are the types with their members

Grouping goes over the members once and adds each to the group of its type.
What comes of it is said without groups that grow: the types in the order in
which they are first met, each with the members that have it
(`Collection.groups_eq_map`). So there is one group for a type, no member is
lost, and none is in two groups.
-/

namespace ContentGraph

namespace Collection

/-! ## Texts without repetitions -/

theorem mem_distinctAfter {seen texts : List String} {s : String} :
    s ∈ distinctAfter seen texts ↔ s ∈ texts ∧ s ∉ seen := by
  induction texts generalizing seen with
  | nil => exact ⟨fun h => (nomatch h), fun h => (nomatch h.1)⟩
  | cons t rest ih =>
    unfold distinctAfter
    by_cases ht : t ∈ seen
    · rw [if_pos (List.contains_iff_mem.2 ht), ih]
      grind
    · rw [if_neg (mt List.contains_iff_mem.1 ht), List.mem_cons, ih]
      grind

theorem nodup_distinctAfter (seen texts : List String) : (distinctAfter seen texts).Nodup := by
  induction texts generalizing seen with
  | nil => exact List.nodup_nil
  | cons t rest ih =>
    unfold distinctAfter
    split
    · exact ih seen
    · refine List.nodup_cons.2 ⟨fun h => ?_, ih _⟩
      exact (mem_distinctAfter.1 h).2 List.mem_cons_self

/-- One more text is kept unless it was seen or is a repetition. -/
theorem distinctAfter_concat (seen texts : List String) (s : String) :
    distinctAfter seen (texts ++ [s])
      = distinctAfter seen texts ++ (if s ∈ seen ∨ s ∈ texts then [] else [s]) := by
  induction texts generalizing seen with
  | nil =>
    show (if seen.contains s then [] else [s]) = _
    simp [distinctAfter]
  | cons t rest ih =>
    show distinctAfter seen (t :: (rest ++ [s])) = _
    unfold distinctAfter
    by_cases ht : t ∈ seen
    · rw [if_pos (List.contains_iff_mem.2 ht), if_pos (List.contains_iff_mem.2 ht), ih]
      grind
    · rw [if_neg (mt List.contains_iff_mem.1 ht), if_neg (mt List.contains_iff_mem.1 ht), ih]
      grind

end Collection

namespace Group

/-- The members of a type. -/
def restrict (members : List Member) (type : String) : Group :=
  ⟨type, members.filter fun m => m.node.type == type⟩

/-- The types of members, each where it is first met, with their members. -/
def byType (members : List Member) : List Group :=
  (Collection.distinctAfter [] (members.map (·.node.type))).map (restrict members)

theorem restrict_concat_of_eq {members : List Member} {m : Member} {type : String}
    (h : m.node.type = type) :
    restrict (members ++ [m]) type = ⟨type, (restrict members type).members ++ [m]⟩ := by
  simp [restrict, h]

theorem restrict_concat_of_ne {members : List Member} {m : Member} {type : String}
    (h : m.node.type ≠ type) : restrict (members ++ [m]) type = restrict members type := by
  simp [restrict, h]

/-- A member whose type is among those grouped joins its group. -/
theorem add_of_mem {members : List Member} {m : Member} {types : List String}
    (hmem : m.node.type ∈ types) (hnodup : types.Nodup) :
    add m (types.map (restrict members)) = types.map (restrict (members ++ [m])) := by
  induction types with
  | nil => cases hmem
  | cons t rest ih =>
    obtain ⟨hnot, hrest⟩ := List.nodup_cons.1 hnodup
    rw [List.map_cons, List.map_cons, add]
    by_cases ht : t = m.node.type
    · -- The types after this one differ, so their groups stay as they are.
      have hsame : rest.map (restrict members) = rest.map (restrict (members ++ [m])) :=
        List.map_congr_left fun u hu =>
          (restrict_concat_of_ne fun heq => hnot (ht.trans heq ▸ hu)).symm
      rw [if_pos (show (restrict members t).type = _ from ht), hsame,
        restrict_concat_of_eq ht.symm]
      rfl
    · rw [if_neg (show ¬ (restrict members t).type = _ from ht),
        ih ((List.mem_cons.1 hmem).resolve_left (Ne.symm ht)) hrest,
        restrict_concat_of_ne (Ne.symm ht)]

/-- A member whose type is not among those grouped opens a group. -/
theorem add_of_not_mem {members : List Member} {m : Member} {types : List String}
    (h : m.node.type ∉ types) :
    add m (types.map (restrict members))
      = types.map (restrict (members ++ [m])) ++ [⟨m.node.type, [m]⟩] := by
  induction types with
  | nil => rfl
  | cons t rest ih =>
    have ht : m.node.type ≠ t := fun heq => h (heq ▸ List.mem_cons_self)
    rw [List.map_cons, List.map_cons, add,
      if_neg (show ¬ (restrict members t).type = _ from Ne.symm ht),
      ih fun hrest => h (List.mem_cons_of_mem t hrest), restrict_concat_of_ne ht]
    rfl

/-- **Adding a member keeps groups what they are**: the types with their
members. -/
theorem add_byType (members : List Member) (m : Member) :
    add m (byType members) = byType (members ++ [m]) := by
  unfold byType
  rw [List.map_append, List.map_singleton, Collection.distinctAfter_concat]
  by_cases hm : m.node.type ∈ members.map (·.node.type)
  · rw [if_pos (Or.inr hm), List.append_nil]
    exact add_of_mem (Collection.mem_distinctAfter.2 ⟨hm, List.not_mem_nil⟩)
      (Collection.nodup_distinctAfter _ _)
  · have hnone : restrict members m.node.type = ⟨m.node.type, []⟩ := by
      refine congrArg (Group.mk _) (List.filter_eq_nil_iff.2 fun o ho heq => ?_)
      exact hm (List.mem_map.2 ⟨o, ho, beq_iff_eq.1 heq⟩)
    rw [if_neg (not_or.2 ⟨List.not_mem_nil, hm⟩), List.map_append, List.map_singleton,
      restrict_concat_of_eq rfl, hnone]
    exact add_of_not_mem fun h => hm (Collection.mem_distinctAfter.1 h).1

theorem foldl_add_byType (members before : List Member) :
    members.foldl (fun groups m => add m groups) (byType before) = byType (before ++ members) := by
  induction members generalizing before with
  | nil => rw [List.append_nil]; rfl
  | cons m rest ih =>
    rw [List.foldl_cons, add_byType, ih, List.append_assoc]
    rfl

/-- **The groups of members are their types with their members.** -/
theorem ofMembers_eq_byType (members : List Member) : ofMembers members = byType members :=
  foldl_add_byType members []

end Group

namespace Collection

variable {c : Collection}

/-- **A type that holds content**: some member has it, and it marks no root. -/
def HasContentType (c : Collection) (type : String) : Prop :=
  isReservedRoot type = false ∧ ∃ m ∈ c.members, m.node.type = type

/-- The types that hold content, each one where it is first met. -/
def contentTypes (c : Collection) : List String := c.types.filter fun t => !isReservedRoot t

theorem mem_contentTypes {type : String} : type ∈ c.contentTypes ↔ c.HasContentType type := by
  rw [contentTypes, List.mem_filter, types, mem_distinctAfter, List.mem_map, Bool.not_eq_true']
  exact ⟨fun h => ⟨h.2, h.1.1⟩, fun h => ⟨⟨h.2, List.not_mem_nil⟩, h.1⟩⟩

theorem nodup_contentTypes (c : Collection) : c.contentTypes.Nodup :=
  (nodup_distinctAfter _ _).filter _

/-- **The groups of a collection are the types that hold content, each with
all its members in order.** -/
theorem groups_eq_map (c : Collection) :
    c.groups = c.contentTypes.map fun t => ⟨t, c.ofType t⟩ := by
  rw [groups, Group.ofMembers_eq_byType]
  show ((types c).map (Group.restrict c.members)).filter _ = _
  rw [List.filter_map]
  rfl

theorem map_type_groups (c : Collection) : c.groups.map (·.type) = c.contentTypes := by
  rw [groups_eq_map, List.map_map]
  exact List.map_id _

end Collection

end ContentGraph
