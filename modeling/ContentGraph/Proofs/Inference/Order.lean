import ContentGraph.Proofs.Inference.Retention
import Mathlib.Data.List.Perm.Basic

/-!
# Inferred fields and the order of the nodes

Nodes come in the order in which they were read, which means nothing. The
fields that are inferred from them should not depend on it, but for the order
of the names. They do in two ways.

One is a column of texts of which some name files and others do not: whether it
is a link is read off its first value (`Inference.FirstDecides`). The other is
that only the first records of a sample are looked at, and a list may have more
items than that.

Nothing else depends on the order. If no sample is larger than what is looked
at, the fields of the nodes are alike in every order, at every depth, except
for the columns that the first value decides, and these are in each order what
their first value makes of them (`Inference.alike_of_perm`).
-/

namespace ContentGraph

mutual

/-- **Two fields are alike**: they are one field, but for the order of the
fields of the objects in it. -/
inductive Field.Alike : Field → Field → Prop
  /-- A field without objects. -/
  | plain {f : Field} (hfields : f.fields = none) : Field.Alike f f
  /-- A field with objects. -/
  | objects {f : Field} {inner others : FieldMap} (hfields : f.fields = some inner)
      (hinner : FieldMap.Alike inner others) : Field.Alike f { f with fields := some others }

/-- **Two field maps are alike**: they have the same names, in some order, and
the fields of a name are alike. -/
inductive FieldMap.Alike : FieldMap → FieldMap → Prop
  | intro {fields others : FieldMap} (hnames : fields.names.Perm others.names)
      (hfields : ∀ name f g, fields.get? name = some f → others.get? name = some g →
        Field.Alike f g) :
      FieldMap.Alike fields others

end

theorem Field.Alike.type_eq {f g : Field} (h : f.Alike g) : f.type = g.type := by
  cases h <;> rfl

theorem FieldMap.Alike.mem_names_iff {fields others : FieldMap} (h : fields.Alike others)
    {name : String} : name ∈ fields.names ↔ name ∈ others.names := by
  cases h with
  | intro hnames => exact hnames.mem_iff

theorem FieldMap.Alike.field {fields others : FieldMap} (h : fields.Alike others) {name : String}
    {f g : Field} (hf : fields.get? name = some f) (hg : others.get? name = some g) :
    f.Alike g := by
  cases h with
  | intro _ hfields => exact hfields name f g hf hg

theorem Field.Alike.inner {f g : Field} (h : f.Alike g) {inner others : FieldMap}
    (hf : f.fields = some inner) (hg : g.fields = some others) : inner.Alike others := by
  cases h with
  | plain hnone => cases hnone.symm.trans hf
  | objects hfields hinner =>
    cases hfields.symm.trans hf
    cases hg
    exact hinner

/-- Of two options that are related both are empty, or neither. -/
theorem eq_none_iff_of_rel {α β : Type} {r : α → β → Prop} {a : Option α} {b : Option β}
    (h : Option.Rel r a b) : a = none ↔ b = none := by
  cases h with
  | none => exact iff_of_true rfl rfl
  | some => exact iff_of_false nofun nofun

/-! ## Columns in another order -/

namespace Column

variable {values others : List Value}

theorem container?_of_perm (h : values.Perm others) : container? values = container? others := by
  simp only [container?, h.isEmpty_eq, h.all_eq, h.any_eq]

theorem items_of_perm (h : values.Perm others) : (items values).Perm (items others) :=
  (h.flatMap_right _).filter _

theorem scalarClass_of_perm (h : values.Perm others) :
    scalarClass values = scalarClass others := by
  unfold scalarClass isDates
  simp only [h.isEmpty_eq, h.all_eq]

end Column

namespace Shape

theorem valuesOf_of_perm {sample others : List Value} (h : sample.Perm others) (name : String) :
    (valuesOf name sample).Perm (valuesOf name others) :=
  ((h.filterMap _).filterMap _).filter _

/-- The fields of some objects do not depend on their order, and all of them are
looked at. -/
def OrderFree (objects : List Value) : Prop :=
  objects.length ≤ sampleSize ∧ ∀ others, objects.Perm others →
    FieldMap.Alike (nestedFields [] (ofRecords objects)) (nestedFields [] (ofRecords others))

/-- **Two shapes of a column**, the values of which come in two orders. Of
scalars each order has its own first one. -/
inductive AlikeFor (values : List Value) : Shape → Shape → Prop
  | scalar {first other : Value} (hfirst : first ∈ values) (hother : other ∈ values) :
      AlikeFor values (.scalar (Column.scalarClass values) first)
        (.scalar (Column.scalarClass values) other)
  | scalars (cls : ScalarClass) : AlikeFor values (.scalars cls) (.scalars cls)
  | anything : AlikeFor values .anything .anything
  | mixed : AlikeFor values .mixed .mixed
  | object {columns others : List (String × Shape)}
      (h : FieldMap.Alike (nestedFields [] columns) (nestedFields [] others)) :
      AlikeFor values (.object columns) (.object others)
  | objects {columns others : List (String × Shape)}
      (h : FieldMap.Alike (nestedFields [] columns) (nestedFields [] others)) :
      AlikeFor values (.objects columns) (.objects others)

/-- The columns of objects that do not depend on their order. -/
theorem OrderFree.alike_take {objects others : List Value} (h : OrderFree objects)
    (hperm : objects.Perm others) :
    FieldMap.Alike (nestedFields [] (ofRecords (objects.take sampleSize)))
      (nestedFields [] (ofRecords (others.take sampleSize))) := by
  rw [List.take_of_length_le h.1, List.take_of_length_le (hperm.length_eq ▸ h.1)]
  exact h.2 others hperm

/-- The shape of a column of lists does not depend on their order, if the objects
in them do not depend on theirs. -/
theorem ofColumn_of_perm_of_lists {values others : List Value} (hperm : values.Perm others)
    (hlists : Column.container? values = some .lists)
    (hitems : Column.container? (Column.items values) = some .objects →
      OrderFree (Column.items values)) :
    Option.Rel (AlikeFor values) (ofColumn values) (ofColumn others) := by
  have hothers : Column.container? others = some .lists :=
    (Column.container?_of_perm hperm).symm.trans hlists
  have hperm := Column.items_of_perm hperm
  have hcontainer := Column.container?_of_perm hperm
  by_cases hnil : Column.items values = []
  · have hnil' : Column.items others = [] := (hnil ▸ hperm).nil_eq.symm
    simp only [ofColumn.eq_def, hlists, hothers, if_pos hnil, if_pos hnil']
    exact .none
  have hne : Column.items others ≠ [] := fun hnil' => hnil (hnil' ▸ hperm).eq_nil
  cases h : Column.container? (Column.items values) with
  | none =>
    rw [h] at hcontainer
    simp only [ofColumn.eq_def, hlists, hothers, if_neg hnil, if_neg hne, h, ← hcontainer,
      ← Column.scalarClass_of_perm hperm]
    exact .some (.scalars _)
  | some container =>
    rw [h] at hcontainer
    cases container with
    | objects =>
      rw [ofColumn_of_listsOfObjects hlists h,
        ofColumn_of_listsOfObjects hothers hcontainer.symm]
      exact .some (.objects ((hitems h).alike_take hperm))
    | lists | mixed =>
      simp only [ofColumn.eq_def, hlists, hothers, if_neg hnil, if_neg hne, h, ← hcontainer]
      exact .some .anything

/-- **The shape of a column depends on the order of its values by the first
scalar only**, if the objects below it do not depend on theirs. -/
theorem ofColumn_of_perm {values others : List Value} (hperm : values.Perm others)
    (hobjects : Column.container? values = some .objects → OrderFree values)
    (hitems : Column.container? values = some .lists →
      Column.container? (Column.items values) = some .objects → OrderFree (Column.items values)) :
    Option.Rel (AlikeFor values) (ofColumn values) (ofColumn others) := by
  have hcontainer := Column.container?_of_perm hperm
  cases h : Column.container? values with
  | none =>
    rw [h] at hcontainer
    cases values with
    | nil =>
      obtain rfl := hperm.nil_eq
      rw [ofColumn_nil]
      exact .none
    | cons first rest =>
      cases others with
      | nil => cases hperm.eq_nil
      | cons other more =>
        simp only [ofColumn.eq_def, h, ← hcontainer, ← Column.scalarClass_of_perm hperm]
        exact .some (.scalar List.mem_cons_self (hperm.mem_iff.2 List.mem_cons_self))
  | some container =>
    rw [h] at hcontainer
    cases container with
    | lists => exact ofColumn_of_perm_of_lists hperm h (hitems h)
    | objects =>
      rw [ofColumn_of_objects h, ofColumn_of_objects hcontainer.symm]
      exact .some (.object ((hobjects h).alike_take hperm))
    | mixed =>
      simp only [ofColumn.eq_def, h, ← hcontainer]
      exact .some .mixed

/-! ## Fields in another order -/

/-- **The first value decides** whether a column is a link: it holds texts of
which some name files and others do not, its name ends in no type, and there are
files to link to. -/
structure FirstDecides (targets : List LinkTarget) (name : String) (values : List Value) :
    Prop where
  /-- The name ends in no type. -/
  typeSuffix?_eq : Text.typeSuffix? name = none
  /-- There are files to link to. -/
  isSome_find? : (LinkTarget.find? targets fileType).isSome = true
  /-- The values are texts. -/
  scalarClass_eq : Column.scalarClass values = .string
  /-- Some of them name files. -/
  exists_isFileLink : ∃ v ∈ values, isFileLink v = true
  /-- Others do not. -/
  exists_not_isFileLink : ∃ v ∈ values, isFileLink v = false

/-- The field of a column that the first value decides. -/
def fieldByFirst (values : List Value) : Field :=
  if values.head?.any isFileLink = true then linkTo fileType else plain .string

variable {targets : List LinkTarget} {name : String}

/-- A column of scalars whose name ends in no type is a link if it holds texts,
the first of them names a file and there are files to link to. -/
theorem field_scalar_of_typeSuffix?_eq_none (h : Text.typeSuffix? name = none)
    (cls : ScalarClass) (first : Value) :
    field targets name (.scalar cls first)
      = if (cls = .string ∧ (LinkTarget.find? targets fileType).isSome = true)
            ∧ isFileLink first = true
        then linkTo fileType else plain cls := by
  rw [field, link?]
  simp only [h]
  cases hfind : LinkTarget.find? targets fileType with
  | none => simp
  | some t =>
    rw [Option.map_some, LinkTarget.name_of_find? hfind]
    by_cases hfile : cls = .string ∧ isFileLink first = true
    · rw [if_pos hfile, if_pos ⟨⟨hfile.1, rfl⟩, hfile.2⟩, Option.getD_some]
    · rw [if_neg hfile, if_neg fun h => hfile ⟨h.1.1, h.2⟩, Option.getD_none]

/-- **Two scalars of a column give it one field**, or the first value decides. -/
theorem field_scalar_eq_or_firstDecides {values : List Value} {first other : Value}
    (hfirst : first ∈ values) (hother : other ∈ values) :
    field targets name (.scalar (Column.scalarClass values) first)
        = field targets name (.scalar (Column.scalarClass values) other)
      ∨ FirstDecides targets name values := by
  cases hsuffix : Text.typeSuffix? name with
  | some suffix =>
    left
    rw [field, field, link?, link?, hsuffix]
  | none =>
    rw [field_scalar_of_typeSuffix?_eq_none hsuffix, field_scalar_of_typeSuffix?_eq_none hsuffix]
    by_cases hlinks : Column.scalarClass values = .string
        ∧ (LinkTarget.find? targets fileType).isSome = true
    case neg =>
      left
      rw [if_neg fun h => hlinks h.1, if_neg fun h => hlinks h.1]
    -- The values alone are left to decide.
    cases hf : isFileLink first <;> cases ho : isFileLink other
    case pos.false.true =>
      exact Or.inr ⟨hsuffix, hlinks.2, hlinks.1, ⟨other, hother, ho⟩, ⟨first, hfirst, hf⟩⟩
    case pos.true.false =>
      exact Or.inr ⟨hsuffix, hlinks.2, hlinks.1, ⟨first, hfirst, hf⟩, ⟨other, hother, ho⟩⟩
    all_goals exact Or.inl rfl

/-- **Shapes of one column have alike fields**, or the first value decides. -/
theorem AlikeFor.field_or_firstDecides {values : List Value} {shape other : Shape}
    (h : AlikeFor values shape other) :
    (field targets name shape).Alike (field targets name other)
      ∨ FirstDecides targets name values := by
  cases h with
  | scalar hfirst hother =>
    refine (field_scalar_eq_or_firstDecides hfirst hother).imp_left fun heq => ?_
    rw [← heq]
    exact .plain (fields_field_scalar _ _)
  | scalars cls => exact Or.inl (.plain rfl)
  | anything => exact Or.inl (.plain rfl)
  | mixed => exact Or.inl (.plain rfl)
  | object h => exact Or.inl (.objects rfl h)
  | objects h => exact Or.inl (.objects rfl h)

namespace FirstDecides

variable {values others : List Value}

/-- That the first value decides does not depend on which one it is. -/
theorem of_perm (h : FirstDecides targets name values) (hperm : values.Perm others) :
    FirstDecides targets name others where
  typeSuffix?_eq := h.typeSuffix?_eq
  isSome_find? := h.isSome_find?
  scalarClass_eq := Column.scalarClass_of_perm hperm ▸ h.scalarClass_eq
  exists_isFileLink := h.exists_isFileLink.imp fun _ hv => ⟨hperm.mem_iff.1 hv.1, hv.2⟩
  exists_not_isFileLink := h.exists_not_isFileLink.imp fun _ hv => ⟨hperm.mem_iff.1 hv.1, hv.2⟩

/-- **The field is the one that the first value decides on.** -/
theorem map_ofColumn (h : FirstDecides targets name values) :
    (ofColumn values).map (field targets name) = some (fieldByFirst values) := by
  have hscalar : ∀ v ∈ values, v.isScalar = true := by
    intro v hv
    have hadmits := Column.admits_of_mem hv
    rw [h.scalarClass_eq] at hadmits
    cases hadmits with
    | string s => rfl
  cases values with
  | nil =>
    obtain ⟨v, hv, -⟩ := h.exists_isFileLink
    cases hv
  | cons first rest =>
    rw [ofColumn_of_isScalar hscalar, Option.map_some,
      field_scalar_of_typeSuffix?_eq_none h.typeSuffix?_eq, h.scalarClass_eq, fieldByFirst]
    show some _ = some (if isFileLink first = true then linkTo fileType else plain .string)
    by_cases hfile : isFileLink first = true
    · rw [if_pos ⟨⟨rfl, h.isSome_find?⟩, hfile⟩, if_pos hfile]
    · rw [if_neg fun hlinks => hfile hlinks.2, if_neg hfile]

end FirstDecides

/-- Among no types the first value decides nothing. -/
theorem AlikeFor.field_nil {values : List Value} {shape other : Shape}
    (h : AlikeFor values shape other) :
    (Shape.field [] name shape).Alike (Shape.field [] name other) :=
  h.field_or_firstDecides.resolve_right fun hdecides => (nomatch hdecides.isSome_find?)

section Names

variable {sample others : List Value} (hkeys : ∀ v ∈ sample, v.hasTextKeys = true)
  (hperm : sample.Perm others)
  (hcolumns : ∀ name, Option.Rel (AlikeFor (valuesOf name sample))
    (ofColumn (valuesOf name sample)) (ofColumn (valuesOf name others)))
include hkeys hperm hcolumns

/-- If the columns of records have alike shapes in both orders, the fields have
the same names. -/
theorem names_perm_of_columns (targets : List LinkTarget) :
    (fields targets (ofRecords sample)).names.Perm (fields targets (ofRecords others)).names := by
  have hkeys' : ∀ v ∈ others, v.hasTextKeys = true := fun v hv => hkeys v (hperm.mem_iff.2 hv)
  have hnodup (columns : List (String × Shape)) : (fields targets columns).names.Nodup :=
    FieldMap.nodup_ofList _
  refine (List.perm_ext_iff_of_nodup (hnodup _) (hnodup _)).2 fun name => not_iff_not.1 ?_
  rw [← FieldMap.get?_eq_none_iff, ← FieldMap.get?_eq_none_iff,
    get?_fields_of_hasTextKeys hkeys, get?_fields_of_hasTextKeys hkeys',
    Option.map_eq_none_iff, Option.map_eq_none_iff]
  exact eq_none_iff_of_rel (hcolumns name)

/-- The fields of a name are those of two alike shapes. -/
theorem exists_alikeFor_of_columns {targets : List LinkTarget} {f g : Field}
    (hf : (fields targets (ofRecords sample)).get? name = some f)
    (hg : (fields targets (ofRecords others)).get? name = some g) :
    ∃ shape other, AlikeFor (valuesOf name sample) shape other
      ∧ f = field targets name shape ∧ g = field targets name other := by
  have hkeys' : ∀ v ∈ others, v.hasTextKeys = true := fun v hv => hkeys v (hperm.mem_iff.2 hv)
  rw [get?_fields_of_hasTextKeys hkeys] at hf
  rw [get?_fields_of_hasTextKeys hkeys'] at hg
  obtain ⟨shape, hshape, rfl⟩ := Option.map_eq_some_iff.1 hf
  obtain ⟨other, hother, rfl⟩ := Option.map_eq_some_iff.1 hg
  have halike := hcolumns name
  rw [hshape, hother] at halike
  cases halike with
  | some halike => exact ⟨shape, other, halike, rfl, rfl⟩

end Names

end Shape

namespace Inference

open Shape

/-! ## Samples of samples -/

theorem IsSample.trans {records sample objects : List Value} (h : IsSample records sample)
    (hobjects : IsSample sample objects) : IsSample records objects := by
  induction hobjects with
  | records => exact h
  | objects _ hkey hcolumn ih => exact .objects ih hkey hcolumn
  | items _ hkey hcolumn hitems ih => exact .items ih hkey hcolumn hitems

theorem IsSample.hasTextKeys {records sample : List Value} (h : IsSample records sample)
    (hkeys : ∀ v ∈ records, v.hasTextKeys = true) : ∀ v ∈ sample, v.hasTextKeys = true := by
  induction h with
  | records => exact hkeys
  | objects _ _ _ ih => exact fun v hv => hasTextKeys_of_mem_column ih hv
  | items _ _ _ _ ih =>
    exact fun v hv => hasTextKeys_of_mem_items (fun w hw => hasTextKeys_of_mem_column ih hw) hv

/-- If what is nested in a sample does not depend on its order, the shapes of its
columns are alike in every order. -/
theorem ofColumn_valuesOf_of_perm {sample others : List Value} (hperm : sample.Perm others)
    (hnested : ∀ objects, sizeOf objects < sizeOf sample → IsSample sample objects →
      OrderFree objects) (name : String) :
    Option.Rel (AlikeFor (valuesOf name sample)) (ofColumn (valuesOf name sample))
      (ofColumn (valuesOf name others)) := by
  by_cases hnil : valuesOf name sample = []
  · have hnil' : valuesOf name others = [] :=
      (hnil ▸ valuesOf_of_perm hperm name).nil_eq.symm
    rw [hnil, hnil', ofColumn_nil]
    exact .none
  have hsmaller := sizeOf_column_lt hnil
  obtain ⟨v, hv⟩ := List.exists_mem_of_ne_nil _ hnil
  have hkey := string_mem_keys_of_mem_valuesOf hv
  refine ofColumn_of_perm (valuesOf_of_perm hperm name) (fun hobjects => ?_)
    (fun hlists hitems => ?_)
  · exact hnested _ hsmaller (.objects .records hkey hobjects)
  · exact hnested _ ((sizeOf_items_le _).trans_lt hsmaller) (.items .records hkey hlists hitems)

/-- **Nothing that is nested depends on the order**, if it is all looked at. -/
theorem orderFree_of_isSample {sample : List Value} (hkeys : ∀ v ∈ sample, v.hasTextKeys = true)
    (hlength : ∀ objects, IsSample sample objects → objects.length ≤ sampleSize) :
    OrderFree sample := by
  induction hsize : sizeOf sample using Nat.strong_induction_on generalizing sample with
  | _ size ih =>
    subst hsize
    refine ⟨hlength _ .records, fun others hperm => ?_⟩
    have hcolumns := ofColumn_valuesOf_of_perm hperm fun objects hsmaller hobjects =>
      ih _ hsmaller (hobjects.hasTextKeys hkeys) (fun _ h => hlength _ (hobjects.trans h)) rfl
    rw [nestedFields_eq, nestedFields_eq]
    refine .intro (names_perm_of_columns hkeys hperm hcolumns []) fun name f g hf hg => ?_
    obtain ⟨shape, other, halike, rfl, rfl⟩ := exists_alikeFor_of_columns hkeys hperm hcolumns hf hg
    exact halike.field_nil

/-! ## Nodes in another order -/

/-- A name with a value in the records of nodes is that of an attribute. -/
theorem not_reserved_of_mem_valuesOf {nodes : List Node} {name : String} {v : Value}
    (hv : v ∈ valuesOf name (nodeRecords nodes)) :
    name ∉ Node.reservedNames := by
  obtain ⟨entries, hentries, hget, -⟩ := mem_valuesOf_iff.1 hv
  rw [recordsOf_nodeRecords] at hentries
  obtain ⟨n, -, rfl⟩ := List.mem_map.1 hentries
  have hfield := (List.mem_filter.1 (Entries.mem_of_get?_eq_some hget)).2
  simpa [Node.isField] using hfield

/-- The field of an attribute that the first value decides. -/
theorem get?_fieldsOfNodes_of_firstDecides {targets : List LinkTarget} {nodes : List Node}
    (hkeys : ∀ n ∈ nodes, (Value.map n.fields).hasTextKeys = true)
    (hlength : nodes.length ≤ sampleSize) {name : String} (hname : name ∉ Node.reservedNames)
    (h : FirstDecides targets name (Column.present (nodes.map (·.get name)))) :
    (fieldsOfNodes targets sampleSize nodes).get? name
      = some (fieldByFirst (Column.present (nodes.map (·.get name)))) := by
  have hrecords : ∀ v ∈ nodeRecords nodes, v.hasTextKeys = true :=
    fun v hv => hasTextKeys_of_mem_nodeRecords hkeys hv
  rw [fieldsOfNodes, fieldsOfRecords, columnsOf_eq (by rwa [nodeRecords, List.length_map]),
    get?_fields_of_hasTextKeys hrecords, valuesOf, column_nodeRecords hname, h.map_ofColumn]

/-- **The order of the nodes does not matter**, but for what the first value of a
column decides. If no sample is larger than what is looked at, then, whatever
types there are to link to, the fields of nodes in two orders have the same
names, and the fields of a name are alike unless the first value decides. If it
does, each order has the field that its own first value decides on. -/
theorem alike_of_perm (targets : List LinkTarget) {nodes others : List Node}
    (hperm : nodes.Perm others) (hkeys : ∀ n ∈ nodes, (Value.map n.fields).hasTextKeys = true)
    (hlength : ∀ sample, IsSample (nodeRecords nodes) sample → sample.length ≤ sampleSize) :
    (fieldsOfNodes targets sampleSize nodes).names.Perm
        (fieldsOfNodes targets sampleSize others).names
      ∧ (∀ name f g, (fieldsOfNodes targets sampleSize nodes).get? name = some f →
          (fieldsOfNodes targets sampleSize others).get? name = some g →
          f.Alike g ∨ FirstDecides targets name (Column.present (nodes.map (·.get name))))
      ∧ ∀ name ∉ Node.reservedNames,
          FirstDecides targets name (Column.present (nodes.map (·.get name))) →
          (fieldsOfNodes targets sampleSize nodes).get? name
              = some (fieldByFirst (Column.present (nodes.map (·.get name))))
            ∧ (fieldsOfNodes targets sampleSize others).get? name
              = some (fieldByFirst (Column.present (others.map (·.get name)))) := by
  have hrecords : ∀ v ∈ nodeRecords nodes, v.hasTextKeys = true :=
    fun v hv => hasTextKeys_of_mem_nodeRecords hkeys hv
  have hpermRecords : (nodeRecords nodes).Perm (nodeRecords others) := hperm.map _
  have hcolumns := ofColumn_valuesOf_of_perm hpermRecords fun objects _ hobjects =>
    orderFree_of_isSample (hobjects.hasTextKeys hrecords) fun _ h => hlength _ (hobjects.trans h)
  have hsize := hlength _ .records
  have heq : ∀ {sample : List Value}, sample.length ≤ sampleSize →
      fieldsOfRecords targets sampleSize sample = fields targets (ofRecords sample) :=
    fun h => congrArg (fields targets) (columnsOf_eq h)
  refine ⟨?_, fun name f g hf hg => ?_, fun name hname hdecides => ⟨?_, ?_⟩⟩
  · rw [fieldsOfNodes, fieldsOfNodes, heq hsize, heq (hpermRecords.length_eq ▸ hsize)]
    exact names_perm_of_columns hrecords hpermRecords hcolumns targets
  · rw [fieldsOfNodes, heq hsize] at hf
    rw [fieldsOfNodes, heq (hpermRecords.length_eq ▸ hsize)] at hg
    obtain ⟨shape, other, halike, rfl, rfl⟩ :=
      exists_alikeFor_of_columns hrecords hpermRecords hcolumns hf hg
    refine halike.field_or_firstDecides.imp_right fun hdecides => ?_
    obtain ⟨v, hv, -⟩ := hdecides.exists_isFileLink
    rwa [← column_nodeRecords (not_reserved_of_mem_valuesOf hv)]
  · rw [nodeRecords, List.length_map] at hsize
    exact get?_fieldsOfNodes_of_firstDecides hkeys hsize hname hdecides
  · rw [nodeRecords, List.length_map] at hsize
    exact get?_fieldsOfNodes_of_firstDecides (fun n hn => hkeys n (hperm.mem_iff.2 hn))
      (hperm.length_eq ▸ hsize) hname (hdecides.of_perm ((hperm.map _).filter _))

/-- An article with tags. -/
def tagged : Node := .ofFields "tagged" "Article" taggedArticle

/-- An article with comments. -/
def discussed : Node := .ofFields "discussed" "Article" discussedArticle

/-- Two articles have alike fields in both orders. -/
theorem articles_alike :
    [tagged, discussed].Perm [discussed, tagged]
      ∧ (∀ n ∈ [tagged, discussed], (Value.map n.fields).hasTextKeys = true)
      ∧ (∀ sample, IsSample (nodeRecords [tagged, discussed]) sample →
          sample.length ≤ sampleSize)
      ∧ FieldMap.Alike (fieldsOfNodes [] sampleSize [tagged, discussed])
          (fieldsOfNodes [] sampleSize [discussed, tagged]) := by
  have hperm : [tagged, discussed].Perm [discussed, tagged] := .swap ..
  have hkeys : ∀ n ∈ [tagged, discussed], (Value.map n.fields).hasTextKeys = true := by decide
  have hrecords : nodeRecords [tagged, discussed] = articles := by decide
  have hlength := fun sample (h : IsSample (nodeRecords [tagged, discussed]) sample) =>
    (hrecords ▸ h).length_le surveyed_articles
  obtain ⟨hnames, hfields, -⟩ := alike_of_perm [] hperm hkeys hlength
  refine ⟨hperm, hkeys, hlength, .intro hnames fun name f g hf hg => ?_⟩
  exact (hfields name f g hf hg).resolve_right fun hdecides => (nomatch hdecides.isSome_find?)

/-- A page with a file for its cover. -/
def illustrated : Node := .ofFields "illustrated" "Page" [(.string "cover", .string "a.png")]

/-- A page that is to have a cover. -/
def planned : Node := .ofFields "planned" "Page" [(.string "cover", .string "none yet")]

/-- A page with votes under a number. -/
def counted : Node := .ofFields "counted" "Page" [(.string "votes", .map [(.int 1, .string "Ada")])]

/-- A page with votes under a truth value, which equals that number. -/
def ticked : Node :=
  .ofFields "ticked" "Page" [(.string "votes", .map [(.bool true, .string "Ada")])]

/-- The comments on both posts, with the one with an address first. -/
theorem isMap_comments_swapped :
    ∀ v ∈ [mailedComment] ++ List.replicate sampleSize signedComment, v.isMap = true :=
  fun v hv => isMap_comments v (List.perm_append_comm.mem_iff.1 hv)

/-- An address that comes first has a field. -/
theorem mail_mem_names :
    "mail" ∈ (fields [] (ofRecords
      (([mailedComment] ++ List.replicate sampleSize signedComment).take sampleSize))).names := by
  have hkeys : ∀ v ∈ ([mailedComment] ++ List.replicate sampleSize signedComment).take sampleSize,
      v.hasTextKeys = true := by decide +kernel
  have hseen : IsSeen (([mailedComment] ++ List.replicate sampleSize signedComment).take sampleSize)
      [(.string "mail", .string "ada@example.org")] ["mail"] (.string "ada@example.org") :=
    .here rfl rfl rfl
  obtain ⟨f, hf⟩ :=
    exists_isFieldAt [] hseen hkeys (mem_recordsOf_iff.2 List.mem_cons_self)
  cases hf with
  | here hmail => exact List.mem_map_of_mem (FieldMap.mem_of_get?_eq_some hmail)
  | inside _ _ hnone => cases hnone

/-- The page that comes first decides whether covers are links. -/
theorem covers_not_alike :
    ¬ FieldMap.Alike (fieldsOfNodes [⟨fileType, true⟩] sampleSize [illustrated, planned])
      (fieldsOfNodes [⟨fileType, true⟩] sampleSize [planned, illustrated]) := by
  intro halike
  have hlink : ((fieldsOfNodes [⟨fileType, true⟩] sampleSize [illustrated, planned]).get?
      "cover").map (·.type) = some .node := by decide +kernel
  have hplain : ((fieldsOfNodes [⟨fileType, true⟩] sampleSize [planned, illustrated]).get?
      "cover").map (·.type) = some (.one .string) := by decide +kernel
  obtain ⟨f, hf, hlink⟩ := Option.map_eq_some_iff.1 hlink
  obtain ⟨g, hg, hplain⟩ := Option.map_eq_some_iff.1 hplain
  cases hlink.symm.trans ((halike.field hf hg).type_eq.trans hplain)

/-- The address of a comment has a field if its post comes first. -/
theorem comments_not_alike :
    ¬ FieldMap.Alike (fieldsOfNodes [] sampleSize [crowded, quiet])
      (fieldsOfNodes [] sampleSize [quiet, crowded]) := by
  intro halike
  have hsigned := get?_comments (a := crowded) (b := quiet) rfl rfl isMap_comments
    (List.append_ne_nil_of_right_ne_nil _ (List.cons_ne_nil _ _)) (by decide : 2 ≤ sampleSize)
  have hmailed := get?_comments (a := quiet) (b := crowded) rfl rfl isMap_comments_swapped
    (List.cons_ne_nil _ _) (by decide : 2 ≤ sampleSize)
  rw [List.take_left' List.length_replicate] at hsigned
  have hmail := ((halike.field hsigned hmailed).inner rfl rfl).mem_names_iff.2 mail_mem_names
  exact FieldMap.get?_eq_none_iff.1 get?_mail_of_signed hmail

/-- The page that comes first decides how the key of the votes is written. -/
theorem votes_not_alike :
    ¬ FieldMap.Alike (fieldsOfNodes [] sampleSize [counted, ticked])
      (fieldsOfNodes [] sampleSize [ticked, counted]) := by
  intro halike
  have hcounted : ((fieldsOfNodes [] sampleSize [counted, ticked]).get? "votes").bind
      (fun f => f.fields.map FieldMap.names) = some ["1"] := by decide +kernel
  have hticked : ((fieldsOfNodes [] sampleSize [ticked, counted]).get? "votes").bind
      (fun f => f.fields.map FieldMap.names) = some ["True"] := by decide +kernel
  obtain ⟨f, hf, hcounted⟩ := Option.bind_eq_some_iff.1 hcounted
  obtain ⟨g, hg, hticked⟩ := Option.bind_eq_some_iff.1 hticked
  obtain ⟨inner, hinner, hcounted⟩ := Option.map_eq_some_iff.1 hcounted
  obtain ⟨others, hothers, hticked⟩ := Option.map_eq_some_iff.1 hticked
  have hnames : "1" ∈ inner.names ↔ "1" ∈ others.names :=
    ((halike.field hf hg).inner hinner hothers).mem_names_iff
  rw [hcounted, hticked] at hnames
  exact absurd hnames (by decide)

/-- **The order matters** to columns that the first value decides, to items that
are not looked at in one of the orders, and to keys that are equal and are not
written alike. -/
theorem order_matters :
    (∀ n ∈ [illustrated, planned, crowded, quiet], (Value.map n.fields).hasTextKeys = true)
      ∧ ¬ FieldMap.Alike (fieldsOfNodes [⟨fileType, true⟩] sampleSize [illustrated, planned])
          (fieldsOfNodes [⟨fileType, true⟩] sampleSize [planned, illustrated])
      ∧ ¬ FieldMap.Alike (fieldsOfNodes [] sampleSize [crowded, quiet])
          (fieldsOfNodes [] sampleSize [quiet, crowded])
      ∧ ¬ FieldMap.Alike (fieldsOfNodes [] sampleSize [counted, ticked])
          (fieldsOfNodes [] sampleSize [ticked, counted]) :=
  ⟨by decide +kernel, covers_not_alike, comments_not_alike, votes_not_alike⟩

end Inference

end ContentGraph
