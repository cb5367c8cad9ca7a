import ContentGraph.Proofs.Inference.Describes
import ContentGraph.Proofs.Node.Attribute
import ContentGraph.Proofs.Schema.Merge

/-!
# The field of an attribute

Fields are inferred from records, and what is known of nodes are their
attributes. The records of nodes hold every attribute that is not reserved, so
the column of such a name is what the nodes have under it
(`Inference.column_nodeRecords`).

Of the nodes only the first ones are looked at, and the field of an attribute
is read off what they have under its name (`Inference.get?_fieldsOfNodes`). If
these values are scalars, it is the field of their class and the first of them
(`Inference.ScalarColumn.exists_get?_fieldsOfNodes`).
-/

namespace ContentGraph

namespace Inference

open Shape

variable {name : String}

theorem recordsOf_nodeRecords (nodes : List Node) :
    recordsOf (nodeRecords nodes) = nodes.map fun n => n.fields.filter Node.isField := by
  rw [recordsOf, nodeRecords, List.filterMap_map, ← List.filterMap_eq_map]
  rfl

/-- **The column of a name that is not reserved is the attribute of the nodes**,
where they have it. -/
theorem column_nodeRecords (hname : name ∉ Node.reservedNames) (nodes : List Node) :
    column (.string name) (recordsOf (nodeRecords nodes))
      = Column.present (nodes.map (·.get name)) := by
  rw [column, recordsOf_nodeRecords]
  unfold Column.present
  induction nodes with
  | nil => rfl
  | cons n rest ih =>
    have hvalue : Entries.find? (.string name) (n.fields.filter Node.isField)
        = n.get? name := by
      rw [Entries.find?_string, Node.get?_filter_isField hname, Node.get?_of_not_reserved hname]
    rw [List.map_cons, List.map_cons, Node.get, List.filterMap_cons, hvalue]
    cases n.get? name with
    | none => exact ih
    | some v => rw [List.filter_cons, List.filter_cons, ih]; rfl

/-- The nodes that are looked at are the first ones. -/
theorem columnsOf_nodeRecords (size : Nat) (nodes : List Node) :
    columnsOf size (nodeRecords nodes) = ofRecords (nodeRecords (nodes.take size)) := by
  unfold columnsOf firstValues nodeRecords
  rw [if_neg (Int.natCast_nonneg size).not_gt, Int.toNat_natCast, List.map_take]

/-- **The field of an attribute is that of the shape of its column**, over the
nodes that are looked at, if no other key is written like it. -/
theorem get?_fieldsOfNodes {targets : List LinkTarget} {size : Nat} {nodes : List Node}
    (hname : name ∉ Node.reservedNames)
    (htext : ∀ n ∈ nodes.take size, ∀ entry ∈ n.fields, entry.1.text = name →
      entry.1 = .string name) :
    (fieldsOfNodes targets size nodes).get? name
      = (ofColumn (Column.present ((nodes.take size).map (·.get name)))).map
          (field targets name) := by
  rw [fieldsOfNodes, fieldsOfRecords, columnsOf_nodeRecords, ← column_nodeRecords hname]
  refine get?_fields_ofRecords ?_
  intro entries hentries key v hv
  rw [recordsOf_nodeRecords] at hentries
  obtain ⟨n, hn, rfl⟩ := List.mem_map.1 hentries
  exact htext n hn _ (List.mem_filter.1 hv).1

/-- **A column of scalars**: of the nodes that are looked at some have a value
under the name, all of these values are scalars, and no other key is written
like the name. -/
structure ScalarColumn (nodes : List Node) (name : String) : Prop where
  /-- No other key is written like the name. -/
  eq_of_text : ∀ n ∈ nodes.take sampleSize, ∀ entry ∈ n.fields, entry.1.text = name →
    entry.1 = .string name
  /-- Some node has a value. -/
  exists_present : ∃ n ∈ nodes.take sampleSize, (n.get name).isMissing = false
  /-- No value is a list or a map. -/
  isScalar : ∀ n ∈ nodes.take sampleSize, (n.get name).isMissing = false →
    (n.get name).isScalar = true

/-- **A column of scalars has the field of their class** and the first of
them. -/
theorem ScalarColumn.exists_get?_fieldsOfNodes {nodes : List Node} (h : ScalarColumn nodes name)
    (hname : name ∉ Node.reservedNames) (targets : List LinkTarget) :
    ∃ cls first, (fieldsOfNodes targets sampleSize nodes).get? name
      = some (field targets name (.scalar cls first)) := by
  rw [get?_fieldsOfNodes hname h.eq_of_text]
  cases hvalues : Column.present ((nodes.take sampleSize).map (·.get name)) with
  | nil =>
    obtain ⟨n, hn, hpresent⟩ := h.exists_present
    have hmem : n.get name ∈ Column.present ((nodes.take sampleSize).map (·.get name)) :=
      List.mem_filter.2 ⟨List.mem_map_of_mem hn, by rw [hpresent]; rfl⟩
    rw [hvalues] at hmem
    cases hmem
  | cons first rest =>
    have hscalars : ∀ v ∈ first :: rest, v.isScalar = true := by
      rw [← hvalues]
      intro v hv
      obtain ⟨hmem, hpresent⟩ := List.mem_filter.1 hv
      obtain ⟨n, hn, rfl⟩ := List.mem_map.1 hmem
      exact h.isScalar n hn (Bool.not_eq_true' _ ▸ hpresent)
    exact ⟨_, _, by rw [ofColumn_of_isScalar hscalars, Option.map_some]⟩

/-- **An attribute of nodes with scalars for its values**: no node is left out
when the fields are inferred, their fields have texts for names, and what is
present under the name are scalars, at least one. -/
structure ScalarAttribute (nodes : List Node) (name : String) (first : Value)
    (rest : List Value) : Prop where
  /-- There are no more nodes than are looked at. -/
  length_le : nodes.length ≤ sampleSize
  /-- The names of all fields are texts. -/
  isString_key : ∀ n ∈ nodes, ∀ entry ∈ n.fields, entry.1.isString = true
  /-- The attribute is a field. -/
  not_reserved : name ∉ Node.reservedNames
  /-- The values that are present, in the order of the nodes. -/
  present_eq : Column.present (nodes.map (·.get name)) = first :: rest
  /-- None of them is a list or a map. -/
  isScalar : ∀ v ∈ first :: rest, v.isScalar = true

/-- **An attribute with scalars has one field**, which is read off the class of
the scalars and the first of them, whatever types there are to link to. -/
theorem ScalarAttribute.mem_fieldsOfNodes_iff {nodes : List Node} {first : Value}
    {rest : List Value} (h : ScalarAttribute nodes name first rest) (targets : List LinkTarget)
    {f : Field} :
    (name, f) ∈ fieldsOfNodes targets sampleSize nodes
      ↔ f = field targets name (.scalar (Column.scalarClass (first :: rest)) first) := by
  have htext : ∀ n ∈ nodes.take sampleSize, ∀ entry ∈ n.fields, entry.1.text = name →
      entry.1 = .string name := by
    rintro n hn entry hentry rfl
    exact Value.eq_string_text (h.isString_key n (List.mem_of_mem_take hn) entry hentry)
  have hnodup : (fieldsOfNodes targets sampleSize nodes).names.Nodup := FieldMap.nodup_ofList _
  rw [← FieldMap.get?_eq_some_iff hnodup, get?_fieldsOfNodes h.not_reserved htext,
    List.take_of_length_le h.length_le, h.present_eq, ofColumn_of_isScalar h.isScalar,
    Option.map_some, Option.some.injEq, eq_comm]

end Inference

end ContentGraph
