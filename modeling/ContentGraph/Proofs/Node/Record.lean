import ContentGraph.Proofs.Node.Attribute
import ContentGraph.Proofs.Node.Children

/-!
# A node written as a record and read again

A record is read into a node, and a node is written as a record. The two are
meant to be inverse to each other, and for most attributes they are: what is
written has every attribute as it was read (`Node.getOrNull_toRecord`), and
after them the fields in their order (`Node.toRecord_eq_append`).

The parent and the children are another matter. They may be given as records, of
which only the identifiers are kept, and these are kept as they are, whatever
they are. When the node is read again, an identifier that is itself a map is
taken for a record once more, and an identifier of a child that is no text is
turned into one. Nothing else is lost (`Node.ofRecord_toRecord_iff`).
-/

namespace ContentGraph

namespace Entries

/-- What is found in entries and others after them: the first of both. -/
theorem get?_append (name : String) (entries others : Entries) :
    get? name (entries ++ others) = (get? name entries).or (get? name others) := by
  induction entries with
  | nil => rfl
  | cons entry rest ih =>
    obtain ⟨key, v⟩ := entry
    rw [List.cons_append, get?, get?]
    split
    · rfl
    · exact ih

/-- The value under a name, null if there is none. -/
def getOrNull (name : String) (entries : Entries) : Value := (get? name entries).getD .null

theorem getOrNull_eq_iff {name : String} {entries : Entries} {v : Value} (hv : v ≠ .null) :
    getOrNull name entries = v ↔ get? name entries = some v := by
  unfold getOrNull
  cases get? name entries with
  | none => exact iff_of_false (Ne.symm hv) nofun
  | some w => exact Option.some.injEq w v ▸ Iff.rfl

/-- What is in a map is smaller than the map. -/
theorem sizeOf_get?_lt {name : String} {entries : Entries} {v : Value}
    (h : get? name entries = some v) : sizeOf v < sizeOf (Value.map entries) := by
  have hmem := List.sizeOf_lt_of_mem (mem_of_get?_eq_some h)
  rw [Prod.mk.sizeOf_spec] at hmem
  rw [Value.map.sizeOf_spec]
  omega

end Entries

namespace Node

/-! ## What a node is read from -/

/-- **A node is read from a record**: where each of its attributes comes from. -/
structure ReadFrom (record : Entries) (n : Node) : Prop where
  /-- The identifier is a text. -/
  id : Entries.get? "id" record = some (.string n.id)
  /-- The type is a text. -/
  type : Entries.get? "type" record = some (.string n.type)
  /-- A parent that is given as a record is its identifier. -/
  parent : readParent (Entries.getOrNull "parent" record) = n.parent
  /-- The children are identifiers. -/
  children : readChildren (Entries.getOrNull "children" record) = .ok n.children
  /-- The path is what the record has. -/
  path : Entries.getOrNull "___path" record = n.path
  /-- So is the node that this one was made from. -/
  sourceNodeId : Entries.getOrNull "_sourceNodeId" record = n.sourceNodeId
  /-- Everything else is a field. -/
  fields : record.filter isField = n.fields

theorem make_eq_ok_iff {id type parent : Value} {children : List Value}
    {path sourceNodeId : Value} {fields : Entries} {n : Node} :
    make id type parent children path sourceNodeId fields = .ok n
      ↔ (id = .string n.id ∧ type = .string n.type) ∧ (parent = n.parent ∧ children = n.children)
        ∧ path = n.path ∧ sourceNodeId = n.sourceNodeId ∧ fields = n.fields := by
  constructor
  · intro h
    unfold make at h
    split at h
    · split at h
      · cases h
      · split at h
        · split at h
          · cases h
          · cases h
            exact ⟨⟨rfl, rfl⟩, ⟨rfl, rfl⟩, rfl, rfl, rfl⟩
        · cases h
    · cases h
  · rintro ⟨⟨rfl, rfl⟩, ⟨rfl, rfl⟩, rfl, rfl, rfl⟩
    rw [make, dif_neg n.id_ne_empty]
    exact dif_neg n.type_ne_empty

/-- **What is read from a record**, and from nothing else. -/
theorem ofRecord_eq_ok_iff {v : Value} {n : Node} :
    ofRecord v = .ok n ↔ ∃ record, v = .map record ∧ ReadFrom record n := by
  constructor
  · intro h
    cases v with
    | map record =>
      refine ⟨record, rfl, ?_⟩
      unfold ofRecord at h
      dsimp only at h
      split at h
      · next id type hid htype =>
        cases hchildren : readChildren (Entries.getOrNull "children" record) with
        | error e =>
          unfold Entries.getOrNull at hchildren
          rw [hchildren] at h
          cases h
        | ok children =>
          have hread := hchildren
          unfold Entries.getOrNull at hread
          rw [hread] at h
          obtain ⟨⟨rfl, rfl⟩, ⟨hparent, rfl⟩, hpath, hsource, hfields⟩ := make_eq_ok_iff.1 h
          exact ⟨hid, htype, hparent, hchildren, hpath, hsource, hfields⟩
      · cases h
    | _ => cases h
  · rintro ⟨record, rfl, h⟩
    have hchildren := h.children
    unfold Entries.getOrNull at hchildren
    unfold ofRecord
    simp only [h.id, h.type, hchildren]
    exact make_eq_ok_iff.2
      ⟨⟨rfl, rfl⟩, ⟨h.parent, rfl⟩, h.path, h.sourceNodeId, h.fields⟩

/-! ## Identifiers of records -/

/-- **The identifier of a parent that is given as a record.** -/
inductive InlineParentId (record : Entries) (id : Value) : Prop
  | intro {parent : Entries} (hparent : Entries.get? "parent" record = some (.map parent))
      (hid : Entries.get? "id" parent = some id)

/-- **The identifier of a child that is given as a record.** -/
inductive InlineChildId (record : Entries) (id : Value) : Prop
  | intro {children : Value} {values : List Value} {child : Entries}
      (hchildren : Entries.get? "children" record = some children)
      (hvalues : childValues children = .ok values) (hchild : .map child ∈ values)
      (hid : Entries.get? "id" child = some id)

/-- What is kept of a parent is a map only as the identifier of a record. -/
theorem isMap_readParent_iff {v : Value} :
    (readParent v).isMap = true
      ↔ ∃ parent id, v = .map parent ∧ Entries.get? "id" parent = some id ∧ id.isMap = true := by
  constructor
  · intro hmap
    cases v with
    | map parent =>
      rw [readParent] at hmap
      cases hid : Entries.get? "id" parent with
      | none =>
        rw [hid] at hmap
        cases hmap
      | some id =>
        rw [hid] at hmap
        exact ⟨parent, id, rfl, hid, hmap⟩
    | _ => cases hmap
  · rintro ⟨parent, id, rfl, hid, hmap⟩
    rw [readParent, hid]
    exact hmap

theorem ReadFrom.isMap_parent_iff {record : Entries} {n : Node} (h : ReadFrom record n) :
    n.parent.isMap = true ↔ ∃ id, InlineParentId record id ∧ id.isMap = true := by
  rw [← h.parent, isMap_readParent_iff]
  constructor
  · rintro ⟨parent, id, hparent, hid, hmap⟩
    exact ⟨id, .intro ((Entries.getOrNull_eq_iff (v := .map parent) nofun).1 hparent) hid, hmap⟩
  · rintro ⟨id, @⟨parent, hparent, hid⟩, hmap⟩
    exact ⟨parent, id, (Entries.getOrNull_eq_iff (v := .map parent) nofun).2 hparent, hid, hmap⟩

/-- What is kept of a child is a text, or the identifier of a record. -/
theorem childId_eq_ok_iff {v id : Value} (hid : id.isString = false) :
    childId v = .ok id ↔ ∃ child, v = .map child ∧ Entries.get? "id" child = some id := by
  constructor
  · intro h
    cases v with
    | map child =>
      refine ⟨child, rfl, ?_⟩
      rw [childId] at h
      split at h
      · next hget => exact Except.ok.inj h ▸ hget
      · cases h
    | _ =>
      cases h
      cases hid
  · rintro ⟨child, rfl, hget⟩
    rw [childId, hget]

/-- What counts as false has no values for children. -/
theorem childValues_of_isFalsy {v : Value} {values : List Value} (hfalsy : v.isFalsy = true)
    (h : childValues v = .ok values) : values = [] := by
  cases v with
  | list _ | tuple _ | map _ | string _ | bytes _ =>
    cases h
    simpa [Value.isFalsy] using hfalsy
  | _ => cases h

/-- The children are read from the values, whether or not there are any. -/
theorem mem_of_readChildren_iff {v : Value} {children : List Value}
    (h : readChildren v = .ok children) (id : Value) :
    id ∈ children
      ↔ ∃ values, childValues v = .ok values ∧ ∃ value ∈ values, childId value = .ok id := by
  unfold readChildren at h
  split at h
  · next hfalsy =>
    cases h
    refine iff_of_false List.not_mem_nil ?_
    rintro ⟨values, hvalues, value, hvalue, -⟩
    rw [childValues_of_isFalsy hfalsy hvalues] at hvalue
    exact List.not_mem_nil hvalue
  · cases hvalues : childValues v with
    | error e =>
      rw [hvalues] at h
      cases h
    | ok values =>
      rw [hvalues] at h
      rw [mem_iff_of_mapM_eq_ok h id]
      constructor
      · exact fun hvalue => ⟨values, rfl, hvalue⟩
      · rintro ⟨_, hsame, hvalue⟩
        cases hsame
        exact hvalue

/-- A child is not a text only as the identifier of a record. -/
theorem ReadFrom.mem_children_iff {record : Entries} {n : Node} (h : ReadFrom record n)
    {id : Value} (hid : id.isString = false) : id ∈ n.children ↔ InlineChildId record id := by
  rw [mem_of_readChildren_iff h.children id]
  simp only [childId_eq_ok_iff hid, Entries.getOrNull]
  constructor
  · rintro ⟨values, hvalues, _, hchild, child, rfl, hget⟩
    cases hchildren : Entries.get? "children" record with
    | none =>
      rw [hchildren] at hvalues
      cases hvalues
    | some children =>
      rw [hchildren] at hvalues
      exact .intro hchildren hvalues hchild hget
  · rintro ⟨hchildren, hvalues, hchild, hget⟩
    rw [hchildren]
    exact ⟨_, hvalues, _, hchild, _, rfl, hget⟩

/-! ## What is written -/

/-- Children that are written only if there are any. -/
def childrenEntry (children : List Value) : Entries :=
  if children.isEmpty then [] else [(.string "children", .list children)]

/-- The attributes of a node that are no fields, as they are written. -/
def attributeEntries (n : Node) : Entries :=
  [(.string "id", .string n.id), (.string "type", .string n.type)]
    ++ optionalEntry "parent" n.parent
    ++ childrenEntry n.children
    ++ optionalEntry "___path" n.path
    ++ optionalEntry "_sourceNodeId" n.sourceNodeId

/-- **Fields as they are read from a record**: none has a reserved name, and
no two have equal keys. -/
structure HasReadFields (n : Node) : Prop where
  /-- No name is reserved. -/
  isField : ∀ entry ∈ n.fields, isField entry = true
  /-- No key equals another one. -/
  distinct : n.fields.Distinct

theorem ReadFrom.hasReadFields {record : Entries} {n : Node} (h : ReadFrom record n)
    (hrecord : record.Distinct) : n.HasReadFields := by
  constructor
  · rw [← h.fields]
    exact fun entry hentry => (List.mem_filter.1 hentry).2
  · rw [← h.fields]
    exact hrecord.filter _

theorem key_of_mem_childrenEntry {children : List Value} {entry : Value × Value}
    (h : entry ∈ childrenEntry children) : entry.1 = .string "children" := by
  unfold childrenEntry at h
  split at h
  · cases h
  · exact congrArg Prod.fst (List.mem_singleton.1 h)

theorem key_of_mem_optionalEntry {name : String} {v : Value} {entry : Value × Value}
    (h : entry ∈ optionalEntry name v) : entry.1 = .string name := by
  unfold optionalEntry at h
  split at h
  · cases h
  · exact congrArg Prod.fst (List.mem_singleton.1 h)

/-- The attributes are written under reserved names. -/
theorem exists_name_of_mem_attributeEntries {n : Node} {entry : Value × Value}
    (h : entry ∈ n.attributeEntries) : ∃ name ∈ reservedNames, entry.1 = .string name := by
  simp only [attributeEntries, List.mem_append, List.mem_cons, List.not_mem_nil, or_false] at h
  rcases h with (((((rfl | rfl) | h) | h) | h) | h)
  · exact ⟨"id", by decide, rfl⟩
  · exact ⟨"type", by decide, rfl⟩
  · exact ⟨"parent", by decide, key_of_mem_optionalEntry h⟩
  · exact ⟨"children", by decide, key_of_mem_childrenEntry h⟩
  · exact ⟨"___path", by decide, key_of_mem_optionalEntry h⟩
  · exact ⟨"_sourceNodeId", by decide, key_of_mem_optionalEntry h⟩

variable {n : Node}

/-- **The attributes of a node are written first, and then its fields** as they
were read. -/
theorem toRecord_eq_append (h : n.HasReadFields) :
    n.toRecord = n.attributeEntries ++ n.fields := by
  refine Entries.foldl_insert_eq_append h.distinct fun entry hentry field hfield => ?_
  obtain ⟨name, hname, hkey⟩ := exists_name_of_mem_attributeEntries hentry
  refine Bool.eq_false_iff.2 fun heq => ?_
  rw [hkey, Value.string_eq_iff] at heq
  -- A field has no reserved name.
  have hfalse := isField_of_reserved hname field.2
  rw [← heq, h.isField field hfield] at hfalse
  cases hfalse

theorem get?_optionalEntry (name other : String) (v : Value) :
    Entries.get? name (optionalEntry other v)
      = if other = name then (if v = .null then none else some v) else none := by
  unfold optionalEntry
  split <;> simp [Entries.get?]

theorem get?_childrenEntry (name : String) (children : List Value) :
    Entries.get? name (childrenEntry children)
      = if "children" = name ∧ children ≠ [] then some (.list children) else none := by
  unfold childrenEntry
  split <;> simp_all [Entries.get?]

/-- No field has a reserved name. -/
theorem get?_fields_of_reserved (h : n.HasReadFields) {name : String}
    (hname : name ∈ reservedNames) : Entries.get? name n.fields = none := by
  refine Option.eq_none_iff_forall_ne_some.2 fun v hv => ?_
  have hfield := h.isField _ (Entries.mem_of_get?_eq_some hv)
  rw [isField_of_reserved hname] at hfield
  cases hfield

/-- What is written only if it is not null is null where it is not written. -/
theorem getD_optional (v : Value) : (if v = .null then none else some v).getD .null = v := by
  split
  · next h => exact h.symm
  · rfl

/-- The attributes are written under reserved names only. -/
theorem get?_attributeEntries_of_not_reserved {name : String} (hname : name ∉ reservedNames) :
    Entries.get? name n.attributeEntries = none := by
  refine Option.eq_none_iff_forall_ne_some.2 fun v hv => ?_
  obtain ⟨reserved, hreserved, hkey⟩ :=
    exists_name_of_mem_attributeEntries (Entries.mem_of_get?_eq_some hv)
  exact hname (Value.string.inj hkey ▸ hreserved)

/-- **Every attribute is written as it is**, and nothing where it is null. The
children are written as a list, if there are any. -/
theorem getOrNull_toRecord (h : n.HasReadFields) {name : String} (hname : name ≠ "children") :
    Entries.getOrNull name n.toRecord = n.get name := by
  unfold Entries.getOrNull get
  rw [toRecord_eq_append h, Entries.get?_append]
  by_cases hreserved : name ∈ reservedNames
  · rw [get?_fields_of_reserved h hreserved, Option.or_none]
    simp only [reservedNames, List.mem_cons, List.not_mem_nil, or_false] at hreserved
    rcases hreserved with rfl | rfl | rfl | rfl | rfl | rfl
    · simp [attributeEntries, Entries.get?, get?]
    · simp [attributeEntries, Entries.get?, get?]
    · simp [attributeEntries, Entries.get?, Entries.get?_append, get?_optionalEntry,
        get?_childrenEntry, get?, getD_optional]
    · exact absurd rfl hname
    · simp [attributeEntries, Entries.get?, Entries.get?_append, get?_optionalEntry,
        get?_childrenEntry, get?, getD_optional]
    · simp [attributeEntries, Entries.get?, Entries.get?_append, get?_optionalEntry,
        get?_childrenEntry, get?, getD_optional]
  · rw [get?_attributeEntries_of_not_reserved hreserved, Option.none_or]
    simp only [reservedNames, List.mem_cons, List.not_mem_nil, or_false, not_or] at hreserved
    simp [get?, hreserved]

/-- The fields are read as they were written. -/
theorem filter_isField_toRecord (h : n.HasReadFields) : n.toRecord.filter isField = n.fields := by
  have hattributes : n.attributeEntries.filter isField = [] := by
    refine List.filter_eq_nil_iff.2 fun entry hentry hfield => ?_
    obtain ⟨name, hname, hkey⟩ := exists_name_of_mem_attributeEntries hentry
    obtain ⟨key, v⟩ := entry
    cases hkey
    rw [isField_of_reserved hname] at hfield
    cases hfield
  rw [toRecord_eq_append h, List.filter_append, hattributes, List.nil_append,
    List.filter_eq_self.2 h.isField]

/-- The children are read one by one from the list that was written. -/
theorem readChildren_toRecord (h : n.HasReadFields) :
    readChildren (Entries.getOrNull "children" n.toRecord) = n.children.mapM childId := by
  have hwritten : Entries.get? "children" n.toRecord
      = if n.children = [] then none else some (.list n.children) := by
    rw [toRecord_eq_append h, Entries.get?_append, get?_fields_of_reserved h (by decide)]
    simp [attributeEntries, Entries.get?, Entries.get?_append, get?_optionalEntry,
      get?_childrenEntry]
  unfold Entries.getOrNull
  rw [hwritten]
  split
  · next hnone =>
    rw [hnone]
    rfl
  · next hsome =>
    have hfalsy : (Value.list n.children).isFalsy = false := by
      simpa [Value.isFalsy] using hsome
    rw [Option.getD_some, readChildren, hfalsy, if_neg Bool.false_ne_true]
    rfl

/-- **A node that was written is read with the same attributes**, but its
parent and its children are read once more. -/
theorem ofRecord_toRecord (h : n.HasReadFields) :
    ofRecord (.map n.toRecord) = (n.children.mapM childId).map fun children =>
      { n with parent := readParent n.parent, children } := by
  have hid : Entries.get? "id" n.toRecord = some (.string n.id) := by
    rw [toRecord_eq_append h]
    rfl
  have htype : Entries.get? "type" n.toRecord = some (.string n.type) := by
    rw [toRecord_eq_append h]
    rfl
  have hparent := getOrNull_toRecord h (show "parent" ≠ "children" by decide)
  have hpath := getOrNull_toRecord h (show "___path" ≠ "children" by decide)
  have hsource := getOrNull_toRecord h (show "_sourceNodeId" ≠ "children" by decide)
  have hchildren := readChildren_toRecord h
  unfold Entries.getOrNull at hparent hpath hsource hchildren
  unfold ofRecord
  simp only [hid, htype, hparent, hpath, hsource, hchildren, filter_isField_toRecord h]
  cases n.children.mapM childId with
  | error e => rfl
  | ok children =>
    show make (.string n.id) (.string n.type) (readParent n.parent) children n.path
      n.sourceNodeId n.fields = .ok _
    exact make_eq_ok_iff.2 ⟨⟨rfl, rfl⟩, ⟨rfl, rfl⟩, rfl, rfl, rfl⟩

/-! ## What is read once more -/

/-- An identifier is kept where it is no map. -/
theorem readParent_eq_self_iff (v : Value) : readParent v = v ↔ v.isMap = false := by
  constructor
  · intro h
    cases v with
    | map entries =>
      -- What is in a map is smaller than the map.
      rw [readParent] at h
      cases hget : Entries.get? "id" entries with
      | none =>
        rw [hget] at h
        cases h
      | some id =>
        rw [hget, Option.getD_some] at h
        have hlt := Entries.sizeOf_get?_lt hget
        rw [h] at hlt
        exact absurd hlt (Nat.lt_irrefl _)
    | _ => rfl
  · intro h
    cases v with
    | map entries => cases h
    | _ => rfl

/-- A child is kept if it is a text. -/
theorem childId_eq_self_iff (v : Value) : childId v = .ok v ↔ v.isString = true := by
  constructor
  · intro h
    cases v with
    | string s => rfl
    | map entries =>
      rw [childId] at h
      split at h
      · next id hget =>
        have hlt := Entries.sizeOf_get?_lt hget
        rw [Except.ok.inj h] at hlt
        exact absurd hlt (Nat.lt_irrefl _)
      · cases h
    | _ => cases Except.ok.inj h
  · intro h
    cases v with
    | string s => rfl
    | _ => cases h

/-- A node that was written can be read again unless one of its children is a
map without an identifier. -/
theorem exists_ofRecord_toRecord_iff (h : n.HasReadFields) :
    (∃ again, ofRecord (.map n.toRecord) = .ok again)
      ↔ ∀ child, .map child ∈ n.children → Entries.hasName "id" child = true := by
  have hread : (∃ again, ofRecord (.map n.toRecord) = .ok again)
      ↔ ¬ ∃ e, n.children.mapM childId = .error e := by
    rw [ofRecord_toRecord h]
    cases n.children.mapM childId with
    | error e => exact iff_of_false (fun ⟨_, hagain⟩ => nomatch hagain) fun hnot => hnot ⟨e, rfl⟩
    | ok children => exact iff_of_true ⟨_, rfl⟩ fun ⟨_, he⟩ => nomatch he
  rw [hread, exists_mapM_eq_error_iff]
  constructor
  · intro hnot child hchild
    refine Bool.of_not_eq_false fun hid => hnot ⟨_, hchild, .childWithoutId, ?_⟩
    exact childId_eq_error_iff.2 ⟨⟨child, rfl, hid⟩, rfl⟩
  · rintro hids ⟨v, hv, e, he⟩
    obtain ⟨⟨child, rfl, hid⟩, -⟩ := childId_eq_error_iff.1 he
    rw [hids child hv] at hid
    cases hid

/-- A node that was written is restored if its parent is no map and its
children are texts. -/
theorem ofRecord_toRecord_eq_self_iff (h : n.HasReadFields) :
    ofRecord (.map n.toRecord) = .ok n
      ↔ n.parent.isMap = false ∧ ∀ child ∈ n.children, child.isString = true := by
  have hchildren : n.children.mapM childId = .ok n.children
      ↔ ∀ child ∈ n.children, child.isString = true :=
    mapM_eq_ok_self_iff.trans (forall₂_congr fun child _ => childId_eq_self_iff child)
  rw [← readParent_eq_self_iff, ← hchildren, ofRecord_toRecord h]
  cases n.children.mapM childId with
  | error e => exact iff_of_false (fun hself => nomatch hself) fun hself => nomatch hself.2
  | ok children =>
    constructor
    · intro hself
      have hnode := Except.ok.inj hself
      exact ⟨congrArg parent hnode, congrArg Except.ok (congrArg Node.children hnode)⟩
    · rintro ⟨hparent, hself⟩
      cases hself
      exact congrArg Except.ok (by rw [hparent])

/-- **Which nodes are restored.** A node is read from a record, whose keys differ
as those of every map that is read (`Entries.distinct_ofPairs`), and then it is
written and read again. The second reading fails if and only if a child was given
as a record whose identifier is a map that has none itself. And it restores the
node if and only if no parent was given as a record whose identifier is a map, and
no child as a record whose identifier is no text. -/
theorem ofRecord_toRecord_iff {record : Entries} {n : Node} (hrecord : record.Distinct)
    (hread : ofRecord (.map record) = .ok n) :
    ((∃ again, ofRecord (.map n.toRecord) = .ok again)
        ↔ ∀ id, InlineChildId record (.map id) → Entries.hasName "id" id = true)
      ∧ (ofRecord (.map n.toRecord) = .ok n
        ↔ (∀ id, InlineParentId record id → id.isMap = false)
          ∧ ∀ id, InlineChildId record id → id.isString = true) := by
  obtain ⟨record, heq, h⟩ := ofRecord_eq_ok_iff.1 hread
  cases heq
  have hfields := h.hasReadFields hrecord
  have hparent : n.parent.isMap = false ↔ ∀ id, InlineParentId record id → id.isMap = false := by
    rw [← Bool.not_eq_true, h.isMap_parent_iff]
    simp only [not_exists, not_and, Bool.not_eq_true]
  have hchildren : (∀ child ∈ n.children, child.isString = true)
      ↔ ∀ id, InlineChildId record id → id.isString = true := by
    refine forall_congr' fun id => ?_
    cases hid : id.isString with
    | false => rw [h.mem_children_iff hid]
    | true => exact iff_of_true (fun _ => rfl) fun _ => rfl
  constructor
  · rw [exists_ofRecord_toRecord_iff hfields]
    exact forall_congr' fun id => by rw [h.mem_children_iff rfl]
  · rw [ofRecord_toRecord_eq_self_iff hfields, hparent, hchildren]

/-- A record with a child that is given as a record, numbered and not named. -/
def numberedChild : Entries :=
  [(.string "id", .string "a"), (.string "type", .string "T"), (.string "title", .string "A"),
    (.string "children", .list [.string "b", .map [(.string "id", .int 5)]])]

/-- The number of the child is kept, and it is a text when the node is read
again: so this is another node. -/
theorem numberedChild_not_restored :
    Entries.Distinct numberedChild ∧ ∃ n, ofRecord (.map numberedChild) = .ok n
      ∧ (∃ again, ofRecord (.map n.toRecord) = .ok again) ∧ ofRecord (.map n.toRecord) ≠ .ok n := by
  have hrecord : Entries.Distinct numberedChild := by decide
  have hread : ofRecord (.map numberedChild) = .ok
      { id := "a", type := "T", parent := .null, children := [.string "b", .int 5], path := .null
        sourceNodeId := .null, fields := [(.string "title", .string "A")]
        id_ne_empty := by decide, type_ne_empty := by decide } := rfl
  obtain ⟨hreadable, hrestored⟩ := ofRecord_toRecord_iff hrecord hread
  refine ⟨hrecord, _, hread, hreadable.2 ?_, fun h => ?_⟩
  · rintro id ⟨hchildren, hvalues, hchild, hid⟩
    cases hchildren
    cases hvalues
    rcases List.mem_cons.1 hchild with h | hchild
    · cases h
    · cases List.mem_singleton.1 hchild
      cases hid
  · have hchild : Value.map [(.string "id", .int 5)]
        ∈ [.string "b", Value.map [(.string "id", .int 5)]] := by decide
    have htext := (hrestored.1 h).2 (.int 5) (.intro rfl rfl hchild rfl)
    cases htext

end Node

end ContentGraph
