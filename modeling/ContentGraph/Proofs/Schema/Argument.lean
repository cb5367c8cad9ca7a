import ContentGraph.Inference.Fields

/-!
# Leaf arguments

The arguments of a look-up nest like the fields that they are read off: a field
has a leaf if its kind can be filtered (`Argument.ofField_eq_leaf_iff`), a group
if it holds objects with an argument left (`Argument.ofField_eq_group_iff`), and
none otherwise.

A *leaf* is an argument with operators at the end of a path of names
(`Argument.IsLeafAt`). Every leaf has all operators of its kind, at least one
of them (`Argument.operators_of_isLeafAt`), and whatever operators a kind has,
equality is among them.
-/

namespace ContentGraph

/-- A kind that can be filtered at all can be filtered by equality. -/
theorem FieldKind.eq_mem_operators {kind : FieldKind} (h : kind.operators ≠ []) :
    .eq ∈ kind.operators := by
  cases kind with
  | json | list | object | node => exact absurd rfl h
  | _ => decide

namespace ArgumentMap

theorem mem_insert {name : String} {a : Argument} {arguments : ArgumentMap}
    {entry : String × Argument} (h : entry ∈ insert name a arguments) :
    entry = (name, a) ∨ entry ∈ arguments := by
  induction arguments with
  | nil => exact Or.inl (List.mem_singleton.1 h)
  | cons first rest ih =>
    rw [insert] at h
    by_cases hn : first.1 = name
    · rw [if_pos hn, hn] at h
      exact (List.mem_cons.1 h).imp_right (List.mem_cons_of_mem _)
    · rw [if_neg hn] at h
      rcases List.mem_cons.1 h with rfl | h
      · exact Or.inr List.mem_cons_self
      · exact (ih h).imp_right (List.mem_cons_of_mem _)

/-- An argument of two maps together is one of either. -/
theorem mem_update {base more : ArgumentMap} {entry : String × Argument}
    (h : entry ∈ update base more) : entry ∈ base ∨ entry ∈ more := by
  unfold update at h
  induction more generalizing base with
  | nil => exact Or.inl h
  | cons first rest ih =>
    rcases ih h with h | h
    · exact (mem_insert h).elim (fun heq => Or.inr (heq ▸ List.mem_cons_self)) Or.inl
    · exact Or.inr (List.mem_cons_of_mem _ h)

theorem insert_of_not_mem {name : String} {a : Argument} {arguments : ArgumentMap}
    (h : name ∉ arguments.map (·.1)) : insert name a arguments = arguments ++ [(name, a)] := by
  induction arguments with
  | nil => rfl
  | cons entry rest ih =>
    obtain ⟨hne, hrest⟩ := not_or.1 (mt List.mem_cons.2 h)
    rw [insert, if_neg (Ne.symm hne), ih hrest]
    rfl

/-- **Arguments with other names are added at the end**, if none of these names
stands twice. -/
theorem update_eq_append {base more : ArgumentMap} (hmore : (more.map (·.1)).Nodup)
    (hbase : ∀ name ∈ more.map (·.1), name ∉ base.map (·.1)) :
    update base more = base ++ more := by
  induction more generalizing base with
  | nil => exact (List.append_nil base).symm
  | cons entry rest ih =>
    obtain ⟨hnot, hrest⟩ := List.nodup_cons.1 hmore
    obtain ⟨hentry, hbase⟩ := List.forall_mem_cons.1 hbase
    have hnew : ∀ name ∈ rest.map (·.1), name ∉ (base ++ [entry]).map (·.1) := by
      intro name hname hmem
      rw [List.map_append, List.mem_append] at hmem
      rcases hmem with hmem | hmem
      · exact hbase name hname hmem
      · exact hnot (List.mem_singleton.1 hmem ▸ hname)
    show update (insert entry.1 entry.2 base) rest = _
    rw [insert_of_not_mem hentry, ih hrest hnew, List.append_assoc]
    rfl

end ArgumentMap

namespace Argument

/-- **A leaf at the end of a path**: an argument with operators, below the
groups that the path names. -/
inductive IsLeafAt : ArgumentMap → List String → FieldKind → List Operator → Prop
  /-- An argument of the map itself. -/
  | leaf {arguments : ArgumentMap} {key name : String} {kind : FieldKind}
      {operators : List Operator} :
      (key, .leaf name kind operators) ∈ arguments → IsLeafAt arguments [key] kind operators
  /-- A leaf of one of its groups. -/
  | group {arguments inner : ArgumentMap} {key name : String} {path : List String}
      {kind : FieldKind} {operators : List Operator} :
      (key, .group name inner) ∈ arguments → IsLeafAt inner path kind operators →
        IsLeafAt arguments (key :: path) kind operators

/-- An argument of some fields is that of one of them. -/
theorem mem_ofFields {path : String} {fields : List (String × Field)} {key : String}
    {a : Argument} (h : (key, a) ∈ ofFields path fields) :
    ∃ f, (key, f) ∈ fields ∧ ofField (joinPath path key) f = some a := by
  induction fields with
  | nil => exact absurd h (by rw [ofFields]; exact List.not_mem_nil)
  | cons entry rest ih =>
    obtain ⟨name, f⟩ := entry
    rw [ofFields] at h
    cases ha : ofField (joinPath path name) f with
    | none =>
      simp only [ha] at h
      obtain ⟨g, hg, hga⟩ := ih h
      exact ⟨g, List.mem_cons_of_mem _ hg, hga⟩
    | some b =>
      simp only [ha] at h
      rcases List.mem_cons.1 h with heq | h
      · obtain ⟨rfl, rfl⟩ := Prod.mk.inj heq
        exact ⟨f, List.mem_cons_self, ha⟩
      · obtain ⟨g, hg, hga⟩ := ih h
        exact ⟨g, List.mem_cons_of_mem _ hg, hga⟩

/-- Objects as such cannot be filtered. -/
theorem operators_eq_nil_of_holdsObjects {type : FieldType} (h : holdsObjects type = true) :
    (filteredKind type).operators = [] := by
  unfold holdsObjects at h
  split at h
  · rfl
  · rfl
  · cases h

theorem ofField_of_holdsObjects {path : String} {f : Field} (h : holdsObjects f.type = true) :
    ofField path f = f.fields.bind fun fields =>
      if (ofFields path fields).isEmpty then none
      else some (.group path (ofFields path fields)) := by
  obtain ⟨type, description, nonNull, target, fields, follows⟩ := f
  rw [ofField.eq_def]
  refine (if_pos h).trans ?_
  cases fields with
  | none => rfl
  | some fields =>
    rw [Option.bind_some]
    dsimp only
    cases ofFields path fields <;> rfl

theorem ofField_of_not_holdsObjects {path : String} {f : Field} (h : ¬ holdsObjects f.type = true) :
    ofField path f = if (filteredKind f.type).operators.isEmpty then none
      else some (.leaf path (filteredKind f.type) (filteredKind f.type).operators) := by
  obtain ⟨type, description, nonNull, target, fields, follows⟩ := f
  rw [ofField.eq_def]
  refine (if_neg h).trans ?_
  cases (filteredKind type).operators <;> rfl

/-- **A field has a leaf if its kind can be filtered**, with all operators of
the kind. -/
theorem ofField_eq_leaf_iff {path written : String} {f : Field} {kind : FieldKind}
    {operators : List Operator} :
    ofField path f = some (.leaf written kind operators)
      ↔ written = path ∧ operators = kind.operators ∧ kind = filteredKind f.type
        ∧ kind.operators ≠ [] := by
  by_cases hobjects : holdsObjects f.type = true
  · rw [ofField_of_holdsObjects hobjects]
    refine iff_of_false (fun h => ?_) ?_
    · obtain ⟨fields, -, h⟩ := Option.bind_eq_some_iff.1 h
      split at h <;> cases h
    · rintro ⟨-, -, rfl, hne⟩
      exact hne (operators_eq_nil_of_holdsObjects hobjects)
  · rw [ofField_of_not_holdsObjects hobjects]
    split
    · next hempty =>
      refine iff_of_false (fun h => nomatch h) ?_
      rintro ⟨-, -, rfl, hne⟩
      exact hne (List.isEmpty_iff.1 hempty)
    · next hempty =>
      rw [Option.some.injEq, leaf.injEq]
      constructor
      · rintro ⟨rfl, rfl, rfl⟩
        exact ⟨rfl, rfl, rfl, mt List.isEmpty_iff.2 hempty⟩
      · rintro ⟨rfl, rfl, rfl, -⟩
        exact ⟨rfl, rfl, rfl⟩

/-- **A field of objects has a group** of the arguments of their fields, if there
is at least one. -/
theorem ofField_eq_group_iff {path written : String} {f : Field} {arguments : ArgumentMap} :
    ofField path f = some (.group written arguments)
      ↔ written = path ∧ holdsObjects f.type = true ∧ arguments ≠ []
        ∧ ∃ fields, f.fields = some fields ∧ arguments = ofFields path fields := by
  by_cases hobjects : holdsObjects f.type = true
  · rw [ofField_of_holdsObjects hobjects, Option.bind_eq_some_iff]
    constructor
    · rintro ⟨fields, hfields, h⟩
      split at h
      · cases h
      · next hempty =>
        cases h
        exact ⟨rfl, hobjects, mt List.isEmpty_iff.2 hempty, fields, hfields, rfl⟩
    · rintro ⟨rfl, -, hne, fields, hfields, rfl⟩
      exact ⟨fields, hfields, if_neg (mt List.isEmpty_iff.1 hne)⟩
  · rw [ofField_of_not_holdsObjects hobjects]
    refine iff_of_false (fun h => ?_) fun h => hobjects h.2.1
    split at h <;> cases h

/-- **A leaf has the operators of its kind**, at least one of them. -/
theorem operators_of_isLeafAt_ofFields {path : String} {fields : List (String × Field)}
    {names : List String} {kind : FieldKind} {operators : List Operator}
    (h : IsLeafAt (ofFields path fields) names kind operators) :
    operators = kind.operators ∧ kind.operators ≠ [] := by
  generalize harguments : ofFields path fields = arguments at h
  induction h generalizing path fields with
  | leaf hmem =>
    subst harguments
    obtain ⟨f, -, ha⟩ := mem_ofFields hmem
    obtain ⟨-, hoperators, -, hne⟩ := ofField_eq_leaf_iff.1 ha
    exact ⟨hoperators, hne⟩
  | group hmem hleaf ih =>
    subst harguments
    obtain ⟨f, -, ha⟩ := mem_ofFields hmem
    obtain ⟨-, -, -, inner, -, rfl⟩ := ofField_eq_group_iff.1 ha
    exact ih rfl

/-- The leaves of a look-up are those of the identity and those of the
fields. -/
theorem isLeafAt_argumentsOfNodes {path : String} {nodes : List Node} {names : List String}
    {kind : FieldKind} {operators : List Operator}
    (h : IsLeafAt (Inference.argumentsOfNodes path nodes) names kind operators) :
    IsLeafAt (ofIdentity path) names kind operators
      ∨ IsLeafAt (ofFields path (Inference.fieldsOfNodes [] sampleSize nodes)) names kind
          operators := by
  cases h with
  | leaf hmem => exact (ArgumentMap.mem_update hmem).imp .leaf .leaf
  | group hmem hleaf =>
    exact (ArgumentMap.mem_update hmem).imp (.group · hleaf) (.group · hleaf)

/-- **A leaf of a look-up has the operators of its kind**, at least one of
them. -/
theorem operators_of_isLeafAt {path : String} {nodes : List Node} {names : List String}
    {kind : FieldKind} {operators : List Operator}
    (h : IsLeafAt (Inference.argumentsOfNodes path nodes) names kind operators) :
    operators = kind.operators ∧ kind.operators ≠ [] := by
  rcases isLeafAt_argumentsOfNodes h with hid | hfields
  · cases hid with
    | leaf hmem =>
      simp only [ofIdentity, List.mem_cons, List.not_mem_nil, or_false] at hmem
      rcases hmem with heq | heq <;> cases heq <;> exact ⟨rfl, by decide⟩
    | group hmem =>
      simp only [ofIdentity, List.mem_cons, List.not_mem_nil, or_false] at hmem
      rcases hmem with heq | heq <;> cases heq
  · exact operators_of_isLeafAt_ofFields hfields

end Argument

end ContentGraph
