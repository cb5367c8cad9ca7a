import ContentGraph.Proofs.Inference.Attribute
import ContentGraph.Proofs.Node.Attribute
import ContentGraph.Proofs.Schema.Mirror

/-!
# Inferred arguments mirror inferred fields

The arguments of a look-up and the fields of a type are inferred from the same
nodes, and users expect them to fit: what can be seen can be asked for. Inferred
fields are a tree (`Shape.isTree_fields`), so that the arguments read off them are
its mirror image, with what cannot be filtered left out
(`Inference.arguments_mirror_fields`).

The arguments for the identity come before those for the fields, and none of them is
written over (`Inference.argumentsOfNodes_eq_append`): reserved names are no fields,
even where a node has them among its fields. This is where keys must be texts, and
they must not be empty since a name is joined to the empty path without a point.

The fields of a type are inferred among the types that they can link to, the
arguments are not. The difference is a few links in the place of columns of scalars
(`Inference.get?_fieldsOfNodes_eq_or_linkTo`).
-/

namespace ContentGraph

namespace Shape

variable {targets : List LinkTarget} {columns : List (String × Shape)}

/-- A field at a path is the field of a shape. -/
theorem exists_eq_field {fields : FieldMap} {names : List String} {f : Field}
    (hf : fields.IsFieldAt names f) (hfields : fields = Shape.fields targets columns) :
    ∃ types name shape, f = field types name shape := by
  induction hf generalizing targets columns with
  | here hget =>
    subst hfields
    obtain ⟨shape, -, rfl⟩ := exists_of_mem_fields (FieldMap.mem_of_get?_eq_some hget)
    exact ⟨targets, _, shape, rfl⟩
  | inside hget hinner _ ih =>
    subst hfields
    obtain ⟨shape, -, rfl⟩ := exists_of_mem_fields (FieldMap.mem_of_get?_eq_some hget)
    obtain ⟨below, hbelow⟩ := fields_field hinner
    exact ih (hbelow.trans (nestedFields_eq below))

/-- **Inferred fields are a tree.** -/
theorem isTree_fields : (fields targets columns).IsTree where
  nodup := FieldMap.nodup_ofList _
  nodup_inner hf hinner := by
    obtain ⟨types, name, shape, rfl⟩ := exists_eq_field hf rfl
    obtain ⟨below, rfl⟩ := fields_field hinner
    rw [nestedFields_eq]
    exact FieldMap.nodup_ofList _
  holdsObjects hf hinner := by
    obtain ⟨types, name, shape, rfl⟩ := exists_eq_field hf rfl
    cases shape with
    | scalar cls first =>
      rw [fields_field_scalar] at hinner
      cases hinner
    | object _ | objects _ => rfl
    | _ => cases hinner

/-- The names of fields do not depend on the types to link to. -/
theorem names_fields (targets others : List LinkTarget) (columns : List (String × Shape)) :
    (fields targets columns).names = (fields others columns).names := by
  have hnames (types : List LinkTarget) :
      FieldMap.names (columns.map fun column => (column.1, field types column.1 column.2))
        = columns.map (·.1) := by
    rw [FieldMap.names, List.map_map]
    rfl
  rw [fields, fields, FieldMap.ofList, FieldMap.ofList, FieldMap.names_update,
    FieldMap.names_update, hnames, hnames]

/-- **Types to link to make a difference to columns of scalars alone**, some of
which become links. -/
theorem field_eq_or_linkTo (targets : List LinkTarget) (name : String) (shape : Shape) :
    field targets name shape = field [] name shape
      ∨ ∃ cls first type, shape = .scalar cls first
        ∧ (LinkTarget.find? targets type).isSome = true
        ∧ field [] name shape = plain cls ∧ field targets name shape = linkTo type := by
  cases shape with
  | scalar cls first =>
    cases hlink : link? targets name cls first with
    | none =>
      left
      rw [field_nil_scalar, field, hlink, Option.getD_none]
    | some f =>
      obtain ⟨type, -, hfound, rfl⟩ := link?_eq_some_iff.1 hlink
      exact Or.inr ⟨cls, first, type, rfl, hfound, field_nil_scalar name cls first,
        by rw [field, hlink, Option.getD_some]⟩
  | _ => exact Or.inl rfl

end Shape

namespace Inference

open Shape

section TextKeys

variable {nodes : List Node} (hkeys : ∀ n ∈ nodes, ∀ entry ∈ n.fields, entry.1.isString = true)
include hkeys

/-- The name of an inferred field is a key of some node, and it is not reserved. -/
theorem exists_entry_of_get?_fieldsOfNodes {targets : List LinkTarget} {size : Nat} {name : String}
    {f : Field} (h : (fieldsOfNodes targets size nodes).get? name = some f) :
    name ∉ Node.reservedNames ∧ ∃ n ∈ nodes, ∃ entry ∈ n.fields, entry.1.text = name := by
  rw [fieldsOfNodes, fieldsOfRecords, columnsOf_nodeRecords] at h
  obtain ⟨shape, hshape, -⟩ := exists_of_mem_fields (FieldMap.mem_of_get?_eq_some h)
  obtain ⟨key, hkey, rfl, -⟩ := mem_ofRecords_iff.1 hshape
  obtain ⟨entries, hentries, v, hv⟩ := exists_of_mem_keys hkey
  rw [recordsOf_nodeRecords] at hentries
  obtain ⟨n, hn, rfl⟩ := List.mem_map.1 hentries
  obtain ⟨hentry, hfield⟩ := List.mem_filter.1 hv
  have hn : n ∈ nodes := List.mem_of_mem_take hn
  have hkey : key = .string key.text := Value.eq_string_text (hkeys n hn _ hentry)
  rw [hkey] at hfield
  exact ⟨by simpa [Node.isField] using hfield, n, hn, _, hentry, rfl⟩

/-- No name of an argument for the fields is one for the identity. -/
theorem not_mem_names_ofIdentity (path : String) {name : String}
    (h : name ∈ (Argument.ofFields path (fieldsOfNodes [] sampleSize nodes)).map (·.1)) :
    name ∉ (Argument.ofIdentity path).map (·.1) := by
  have hname := (Argument.names_ofFields_sublist path _).subset h
  obtain ⟨f, hf⟩ := Option.ne_none_iff_exists'.1 (mt FieldMap.get?_eq_none_iff.1 (not_not.2 hname))
  have hnot := (exists_entry_of_get?_fieldsOfNodes hkeys hf).1
  intro hmem
  have hid : name = "id" ∨ name = "type" := List.mem_pair.1 hmem
  rcases hid with rfl | rfl <;> exact hnot (by decide)

/-- **A look-up takes the arguments for the identity and, after them, those for the
fields.** -/
theorem argumentsOfNodes_eq_append (path : String) :
    argumentsOfNodes path nodes
      = Argument.ofIdentity path
        ++ Argument.ofFields path (fieldsOfNodes [] sampleSize nodes) := by
  have hfields : (fieldsOfNodes [] sampleSize nodes).IsTree := isTree_fields
  exact ArgumentMap.update_eq_append
    ((Argument.names_ofFields_sublist path _).nodup hfields.nodup)
    fun name hname => not_mem_names_ofIdentity hkeys path hname

end TextKeys

/-- **The nodes have names for keys**: the keys of their fields are texts that are
not empty. -/
def HaveNames (nodes : List Node) : Prop :=
  ∀ n ∈ nodes, ∀ entry ∈ n.fields, entry.1.isString = true ∧ entry.1.text ≠ ""

instance (nodes : List Node) : Decidable (HaveNames nodes) :=
  inferInstanceAs (Decidable (∀ n ∈ nodes, ∀ entry ∈ n.fields, _))

theorem HaveNames.isString_key {nodes : List Node} (h : HaveNames nodes) :
    ∀ n ∈ nodes, ∀ entry ∈ n.fields, entry.1.isString = true :=
  fun n hn entry hentry => (h n hn entry hentry).1

section Mirror

variable {nodes : List Node} (hkeys : HaveNames nodes)
include hkeys

/-- The names of inferred fields are not empty, and none of them is reserved. -/
theorem name_of_get?_fieldsOfNodes {targets : List LinkTarget} {size : Nat} {name : String}
    {f : Field} (h : (fieldsOfNodes targets size nodes).get? name = some f) :
    name ≠ "" ∧ name ∉ Node.reservedNames := by
  obtain ⟨hnot, n, hn, entry, hentry, rfl⟩ :=
    exists_entry_of_get?_fieldsOfNodes hkeys.isString_key h
  exact ⟨(hkeys n hn entry hentry).2, hnot⟩

theorem head?_of_isFieldAt {names : List String} {f : Field}
    (h : (fieldsOfNodes [] sampleSize nodes).IsFieldAt names f) : names.head? ≠ some "" := by
  intro hempty
  cases h with
  | here hget | inside hget _ _ =>
    exact (name_of_get?_fieldsOfNodes hkeys hget).1 (Option.some.inj hempty)

theorem isArgumentAt_argumentsOfNodes_iff {path : String} {names : List String} {a : Argument} :
    (argumentsOfNodes path nodes).IsArgumentAt names a
      ↔ (Argument.ofIdentity path).IsArgumentAt names a
        ∨ (Argument.ofFields path (fieldsOfNodes [] sampleSize nodes)).IsArgumentAt names a := by
  rw [argumentsOfNodes_eq_append hkeys.isString_key]
  exact ArgumentMap.isArgumentAt_append_iff fun name hname =>
    not_mem_names_ofIdentity hkeys.isString_key path hname

/-- **Types to link to change some columns of scalars to links and nothing else.** -/
theorem get?_fieldsOfNodes_eq_or_linkTo (targets : List LinkTarget) (size : Nat) (name : String) :
    (fieldsOfNodes targets size nodes).get? name = (fieldsOfNodes [] size nodes).get? name
      ∨ ∃ cls type,
        (∀ v ∈ Column.present ((nodes.take size).map (·.get name)), v.isScalar = true)
          ∧ (LinkTarget.find? targets type).isSome = true
          ∧ (fieldsOfNodes [] size nodes).get? name = some (plain cls)
          ∧ (fieldsOfNodes targets size nodes).get? name = some (linkTo type) := by
  by_cases hname : name ∈ Node.reservedNames
  · have hnone (types : List LinkTarget) : (fieldsOfNodes types size nodes).get? name = none :=
      Option.eq_none_iff_forall_not_mem.2 fun f hf =>
        (name_of_get?_fieldsOfNodes hkeys hf).2 hname
    exact Or.inl ((hnone targets).trans (hnone []).symm)
  · have htext : ∀ n ∈ nodes.take size, ∀ entry ∈ n.fields, entry.1.text = name →
        entry.1 = .string name := by
      rintro n hn entry hentry rfl
      exact Value.eq_string_text (hkeys n (List.mem_of_mem_take hn) entry hentry).1
    rw [get?_fieldsOfNodes hname htext, get?_fieldsOfNodes hname htext]
    cases hshape : ofColumn (Column.present ((nodes.take size).map (·.get name))) with
    | none => exact Or.inl rfl
    | some shape =>
      refine (field_eq_or_linkTo targets name shape).imp (congrArg some) ?_
      rintro ⟨cls, first, type, rfl, hfound, hplain, hlink⟩
      refine ⟨cls, type, fun v hv => ?_, hfound, congrArg some hplain, congrArg some hlink⟩
      cases isOf_of_ofColumn hshape with
      | scalar hscalars => exact Column.isScalar_of_mem hscalars hv

/-- **The arguments of a look-up mirror the fields of its nodes.** A leaf stands
where a field stands whose kind, or the kind of whose items, has operators, and it
has this kind and all these operators; the leaves for the identity come on top, and
no field stands in their place. A group stands where a field of objects stands with
such a field below it. Each argument is named by its path, joined with points.

Types to link to change neither the names nor their order, nor any field but those
of some columns of scalars, which become links. -/
theorem arguments_mirror_fields (path : String) :
    (∀ names written kind operators,
      (argumentsOfNodes path nodes).IsArgumentAt names (.leaf written kind operators)
        ↔ written = Argument.writtenName path names ∧ operators = kind.operators
          ∧ (names = ["id"] ∧ kind = .id ∨ names = ["type"] ∧ kind = .string
            ∨ ∃ f, (fieldsOfNodes [] sampleSize nodes).IsFieldAt names f
              ∧ kind = Argument.filteredKind f.type ∧ kind.operators ≠ []))
    ∧ (∀ names written,
      (∃ inner, (argumentsOfNodes path nodes).IsArgumentAt names (.group written inner))
        ↔ written = Argument.writtenName path names
          ∧ ∃ (f : Field) (below : FieldMap),
            (fieldsOfNodes [] sampleSize nodes).IsFieldAt names f
              ∧ Argument.holdsObjects f.type = true ∧ f.fields = some below
              ∧ ∃ rest g, below.IsFieldAt rest g
                ∧ (Argument.filteredKind g.type).operators ≠ [])
    ∧ (∀ name ∈ Node.reservedNames, ∀ rest f,
        ¬ (fieldsOfNodes [] sampleSize nodes).IsFieldAt (name :: rest) f)
    ∧ ∀ targets,
        (fieldsOfNodes targets sampleSize nodes).names
            = (fieldsOfNodes [] sampleSize nodes).names
          ∧ ∀ name, (fieldsOfNodes targets sampleSize nodes).get? name
                = (fieldsOfNodes [] sampleSize nodes).get? name
              ∨ ∃ cls type,
                (∀ v ∈ Column.present ((nodes.take sampleSize).map (·.get name)),
                  v.isScalar = true)
                ∧ (LinkTarget.find? targets type).isSome = true
                ∧ (fieldsOfNodes [] sampleSize nodes).get? name = some (plain cls)
                ∧ (fieldsOfNodes targets sampleSize nodes).get? name = some (linkTo type) := by
  have htree : (fieldsOfNodes [] sampleSize nodes).IsTree := isTree_fields
  have hwritten {names : List String} {f : Field}
      (hf : (fieldsOfNodes [] sampleSize nodes).IsFieldAt names f) :
      names.foldl Argument.joinPath path = Argument.writtenName path names :=
    Argument.foldl_joinPath path (head?_of_isFieldAt hkeys hf)
  refine ⟨fun names written kind operators => ?_, fun names written => ?_,
    fun name hname rest f hf => ?_, fun targets => ⟨names_fields _ _ _, fun name =>
      get?_fieldsOfNodes_eq_or_linkTo hkeys targets sampleSize name⟩⟩
  · rw [isArgumentAt_argumentsOfNodes_iff hkeys, Argument.isArgumentAt_ofIdentity_iff,
      Argument.isArgumentAt_leaf_iff htree]
    constructor
    · rintro (⟨_, hid, heq⟩ | ⟨hname, hoperators, f, hf, hkind⟩)
      · obtain ⟨rfl, rfl, rfl⟩ := Argument.leaf.inj heq
        exact ⟨rfl, rfl, or_assoc.1 (Or.inl hid)⟩
      · exact ⟨hname.trans (hwritten hf), hoperators, Or.inr (Or.inr ⟨f, hf, hkind⟩)⟩
    · rintro ⟨rfl, rfl, hid⟩
      rcases or_assoc.2 hid with hid | ⟨f, hf, hkind⟩
      · exact Or.inl ⟨kind, hid, rfl⟩
      · exact Or.inr ⟨(hwritten hf).symm, rfl, f, hf, hkind⟩
  · -- The arguments for the identity have no groups among them.
    have hgroup : (∃ inner, (argumentsOfNodes path nodes).IsArgumentAt names (.group written inner))
        ↔ ∃ inner, (Argument.ofFields path (fieldsOfNodes [] sampleSize nodes)).IsArgumentAt names
            (.group written inner) := by
      refine exists_congr fun inner => ?_
      rw [isArgumentAt_argumentsOfNodes_iff hkeys, Argument.isArgumentAt_ofIdentity_iff]
      refine or_iff_right ?_
      rintro ⟨kind, -, heq⟩
      cases heq
    rw [hgroup, Argument.isArgumentAt_group_iff htree]
    constructor
    · rintro ⟨hname, f, below, hf, hobjects⟩
      exact ⟨hname.trans (hwritten hf), f, below, hf, hobjects⟩
    · rintro ⟨rfl, f, below, hf, hobjects⟩
      exact ⟨(hwritten hf).symm, f, below, hf, hobjects⟩
  · cases hf with
    | here hget | inside hget _ _ => exact (name_of_get?_fieldsOfNodes hkeys hget).2 hname

end Mirror

/-- A survey with a list of answers, and with a field of a reserved name. -/
def survey : Node :=
  .ofFields "survey" "Survey"
    [(.string "parent", .string "census"),
      (.string "answers", .list [.map [(.string "id", .string "q1"), (.string "points", .int 3)]])]

/-- The points of an answer have an argument, and the reserved name has none. -/
theorem survey_mirrored :
    HaveNames [survey]
      ∧ (argumentsOfNodes "survey" [survey]).IsArgumentAt ["answers", "points"]
          (.leaf "survey.answers.points" .int Operator.ofNumbers)
      ∧ (∃ inner, (argumentsOfNodes "survey" [survey]).IsArgumentAt ["answers"]
          (.group "survey.answers" inner))
      ∧ ∀ f, ¬ (fieldsOfNodes [] sampleSize [survey]).IsFieldAt ["parent"] f := by
  have hkeys : HaveNames [survey] := by decide
  have htree : (fieldsOfNodes [] sampleSize [survey]).IsTree := isTree_fields
  obtain ⟨f, hf, htest⟩ := FieldMap.exists_mem_of_any
    (fun f => Argument.holdsObjects f.type && f.fields.any fun below => below.any fun entry =>
      entry.1 == "points" && entry.2.type == .one .int)
    (by decide +kernel : (fieldsOfNodes [] sampleSize [survey]).any (fun entry =>
      entry.1 == "answers" && (Argument.holdsObjects entry.2.type
        && entry.2.fields.any fun below => below.any fun entry =>
          entry.1 == "points" && entry.2.type == .one .int)) = true)
  rw [Bool.and_eq_true, Option.any_eq_true] at htest
  obtain ⟨hobjects, below, hbelow, htest⟩ := htest
  obtain ⟨g, hg, htype⟩ := FieldMap.exists_mem_of_any (fun g => g.type == .one .int) htest
  have hanswers := (FieldMap.get?_eq_some_iff htree.nodup).2 hf
  have hpoints : FieldMap.IsFieldAt below ["points"] g :=
    .here ((FieldMap.get?_eq_some_iff (htree.inner hanswers hbelow).nodup).2 hg)
  have hkind : .int = Argument.filteredKind g.type := by rw [beq_iff_eq.1 htype]; rfl
  obtain ⟨hleaf, hgroup, hreserved, -⟩ := arguments_mirror_fields hkeys "survey"
  refine ⟨hkeys, ?_, ?_, hreserved "parent" (by decide) []⟩
  · exact (hleaf _ _ _ _).2 ⟨by decide, rfl,
      Or.inr (Or.inr ⟨g, .inside hanswers hbelow hpoints, hkind, by decide⟩)⟩
  · exact (hgroup _ _).2 ⟨by decide, f, below, .here hanswers, hobjects, hbelow,
      ["points"], g, hpoints, hkind ▸ by decide⟩

end Inference

end ContentGraph
