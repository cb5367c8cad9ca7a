import ContentGraph.Inference.Shape
import ContentGraph.Proofs.Inference.Column
import ContentGraph.Proofs.Value.TextKeys

/-!
# The shape of records, one level at a time

The recursion over a sample runs on columns that are not empty, which is what
makes it end. What it computes does not need the distinction: a column
without a value has no shape anyway (`Shape.ofRecords_eq_filterMap`).

What shape a column has is decided by its containers, and for a column of
lists by those of the items (`Shape.IsOf`).
-/

namespace ContentGraph.Shape

/-- The records of a sample are its maps. -/
theorem mem_recordsOf_iff {sample : List Value} {entries : Entries} :
    entries ∈ recordsOf sample ↔ .map entries ∈ sample := by
  rw [recordsOf, List.mem_filterMap]
  constructor
  · rintro ⟨v, hv, hentries⟩
    cases v with
    | map _ =>
      cases hentries
      exact hv
    | _ => cases hentries
  · exact fun hmap => ⟨_, hmap, rfl⟩

theorem ofColumn_nil : ofColumn [] = none := by
  rw [ofColumn]
  rfl

/-- **The shapes of a sample are those of the columns of its keys.** -/
theorem ofRecords_eq_filterMap (sample : List Value) :
    ofRecords sample = (keys (recordsOf sample)).filterMap fun key =>
      (ofColumn (column key (recordsOf sample))).map fun shape => (key.text, shape) := by
  rw [ofRecords]
  refine congrArg (fun f => List.filterMap f _) (funext fun key => ?_)
  by_cases h : column key (recordsOf sample) = []
  · rw [dif_pos h, h, ofColumn_nil]
    rfl
  · rw [dif_neg h]

/-- **A column of scalars has the shape of their class**, with the first of
them. -/
theorem ofColumn_of_isScalar {first : Value} {rest : List Value}
    (h : ∀ v ∈ first :: rest, v.isScalar = true) :
    ofColumn (first :: rest) = some (.scalar (Column.scalarClass (first :: rest)) first) := by
  rw [ofColumn, Column.container?_eq_none h]

/-- A column of objects has the shape of those that are looked at. -/
theorem ofColumn_of_objects {values : List Value}
    (h : Column.container? values = some .objects) :
    ofColumn values = some (.object (ofRecords (values.take sampleSize))) := by
  rw [ofColumn.eq_def, h]

/-- A column of lists of objects has the shape of the items that are looked
at. -/
theorem ofColumn_of_listsOfObjects {values : List Value}
    (h : Column.container? values = some .lists)
    (hitems : Column.container? (Column.items values) = some .objects) :
    ofColumn values = some (.objects (ofRecords ((Column.items values).take sampleSize))) := by
  have hne : Column.items values ≠ [] := by
    intro hnil
    rw [hnil] at hitems
    cases hitems
  simp only [ofColumn.eq_def, h, hitems, if_neg hne]

/-- A column with a value that is no list has a shape. -/
theorem exists_ofColumn {values : List Value} {v : Value} (hv : v ∈ values)
    (hlist : v.isSequence = false) : ∃ shape, ofColumn values = some shape := by
  rw [ofColumn.eq_def]
  cases hcontainer : Column.container? values with
  | none =>
    cases values with
    | nil => cases hv
    | cons first rest => exact ⟨_, rfl⟩
  | some container =>
    cases container with
    | lists =>
      rw [Column.isSequence_of_mem hcontainer hv] at hlist
      cases hlist
    | objects | mixed => exact ⟨_, rfl⟩

/-- **A shape that a column can have**, with the containers by which it was
told. -/
inductive IsOf (values : List Value) : Shape → Prop
  | object (h : Column.container? values = some .objects) :
      IsOf values (.object (ofRecords (values.take sampleSize)))
  | objects (h : Column.container? values = some .lists)
      (hitems : Column.container? (Column.items values) = some .objects) :
      IsOf values (.objects (ofRecords ((Column.items values).take sampleSize)))
  | anything (h : Column.container? values = some .lists) : IsOf values .anything
  | scalars (h : Column.container? values = some .lists) :
      IsOf values (.scalars (Column.scalarClass (Column.items values)))
  | mixed : IsOf values .mixed
  | scalar (h : Column.container? values = none) (first : Value) :
      IsOf values (.scalar (Column.scalarClass values) first)

theorem isOf_of_ofColumn {values : List Value} {shape : Shape}
    (h : ofColumn values = some shape) : IsOf values shape := by
  rw [ofColumn.eq_def] at h
  cases hcontainer : Column.container? values with
  | none =>
    cases values with
    | nil => simp only [hcontainer] at h; cases h
    | cons first rest =>
      simp only [hcontainer] at h
      obtain rfl := Option.some.inj h
      exact .scalar hcontainer first
  | some container =>
    cases container with
    | objects =>
      simp only [hcontainer] at h
      obtain rfl := Option.some.inj h
      exact .object hcontainer
    | mixed =>
      simp only [hcontainer] at h
      obtain rfl := Option.some.inj h
      exact .mixed
    | lists =>
      -- What the items have in common decides, if there are any.
      simp only [hcontainer] at h
      split at h
      · cases h
      · split at h
        · next hitems =>
          obtain rfl := Option.some.inj h
          exact .objects hcontainer hitems
        · obtain rfl := Option.some.inj h
          exact .anything hcontainer
        · obtain rfl := Option.some.inj h
          exact .scalars hcontainer

/-! ## Keys -/

theorem mem_newKeys {seen : List Value} {entries : Entries} {key : Value}
    (h : key ∈ newKeys seen entries) : key ∈ seen ∨ ∃ v, (key, v) ∈ entries := by
  induction entries generalizing seen with
  | nil => exact Or.inl h
  | cons entry rest ih =>
    obtain ⟨first, v⟩ := entry
    have hrest : (∃ w, (key, w) ∈ rest) → ∃ w, (key, w) ∈ (first, v) :: rest :=
      fun ⟨w, hw⟩ => ⟨w, List.mem_cons_of_mem _ hw⟩
    rw [newKeys] at h
    split at h
    · exact (ih h).imp_right hrest
    · rcases ih h with hseen | hlater
      · rcases List.mem_append.1 hseen with hseen | hfirst
        · exact Or.inl hseen
        · obtain rfl := List.mem_singleton.1 hfirst
          exact Or.inr ⟨v, List.mem_cons_self⟩
      · exact Or.inr (hrest hlater)

theorem mem_foldl_newKeys {seen : List Value} {records : List Entries} {key : Value}
    (h : key ∈ records.foldl newKeys seen) :
    key ∈ seen ∨ ∃ entries ∈ records, ∃ v, (key, v) ∈ entries := by
  induction records generalizing seen with
  | nil => exact Or.inl h
  | cons entries rest ih =>
    rcases ih h with hseen | ⟨later, hlater, hkey⟩
    · exact (mem_newKeys hseen).imp_right fun hkey => ⟨entries, List.mem_cons_self, hkey⟩
    · exact Or.inr ⟨later, List.mem_cons_of_mem _ hlater, hkey⟩

/-- **A key of some records is a key of one of them.** -/
theorem exists_of_mem_keys {records : List Entries} {key : Value} (h : key ∈ keys records) :
    ∃ entries ∈ records, ∃ v, (key, v) ∈ entries :=
  (mem_foldl_newKeys h).resolve_left List.not_mem_nil

/-- If the keys of all records are texts, a key of the records is the text that
it is written as. -/
theorem eq_string_of_mem_keys {records : List Entries} {key : Value}
    (h : ∀ entries ∈ records, ∀ key v, (key, v) ∈ entries → key.isString = true)
    (hkey : key ∈ keys records) : key = .string key.text := by
  obtain ⟨entries, hentries, v, hv⟩ := exists_of_mem_keys hkey
  exact Value.eq_string_text (h entries hentries key v hv)

/-- A text that is the key of an entry is among the keys, for it equals no
other key. -/
theorem string_mem_newKeys {seen : List Value} {entries : Entries} {name : String}
    (h : .string name ∈ seen ∨ ∃ v, (.string name, v) ∈ entries) :
    .string name ∈ newKeys seen entries := by
  induction entries generalizing seen with
  | nil => exact h.resolve_right fun ⟨_, hv⟩ => List.not_mem_nil hv
  | cons entry rest ih =>
    obtain ⟨first, w⟩ := entry
    rw [newKeys]
    split
    · next hseen =>
      refine ih ?_
      rcases h with hname | ⟨v, hv⟩
      · exact Or.inl hname
      · rcases List.mem_cons.1 hv with heq | hrest
        · obtain ⟨rfl, -⟩ := Prod.mk.inj heq
          exact Or.inl (Value.mem_of_string_memberOf hseen)
        · exact Or.inr ⟨v, hrest⟩
    · refine ih ?_
      rcases h with hname | ⟨v, hv⟩
      · exact Or.inl (List.mem_append_left _ hname)
      · rcases List.mem_cons.1 hv with heq | hrest
        · obtain ⟨rfl, -⟩ := Prod.mk.inj heq
          exact Or.inl (List.mem_append_right _ List.mem_cons_self)
        · exact Or.inr ⟨v, hrest⟩

theorem string_mem_foldl_newKeys {seen : List Value} {records : List Entries} {name : String}
    (h : .string name ∈ seen ∨ ∃ entries ∈ records, ∃ v, (.string name, v) ∈ entries) :
    .string name ∈ records.foldl newKeys seen := by
  induction records generalizing seen with
  | nil => exact h.resolve_right fun ⟨_, hmem, _⟩ => List.not_mem_nil hmem
  | cons entries rest ih =>
    refine ih ?_
    rcases h with hname | ⟨later, hmem, hkey⟩
    · exact Or.inl (string_mem_newKeys (Or.inl hname))
    · rcases List.mem_cons.1 hmem with rfl | hlater
      · exact Or.inl (string_mem_newKeys (Or.inr hkey))
      · exact Or.inr ⟨later, hlater, hkey⟩

/-- **A text that is a key of a record is a key of the records.** -/
theorem string_mem_keys {records : List Entries} {entries : Entries} {name : String} {v : Value}
    (hentries : entries ∈ records) (hv : (.string name, v) ∈ entries) :
    .string name ∈ keys records :=
  string_mem_foldl_newKeys (Or.inr ⟨entries, hentries, v, hv⟩)

/-- A shape of records is that of the column of a key. -/
theorem mem_ofRecords_iff {sample : List Value} {name : String} {shape : Shape} :
    (name, shape) ∈ ofRecords sample
      ↔ ∃ key ∈ keys (recordsOf sample), key.text = name
        ∧ ofColumn (column key (recordsOf sample)) = some shape := by
  rw [ofRecords_eq_filterMap, List.mem_filterMap]
  refine exists_congr fun key => and_congr_right fun _ => ?_
  rw [Option.map_eq_some_iff]
  constructor
  · rintro ⟨found, hfound, heq⟩
    obtain ⟨rfl, rfl⟩ := Prod.mk.inj heq
    exact ⟨rfl, hfound⟩
  · rintro ⟨rfl, hfound⟩
    exact ⟨shape, hfound, rfl⟩

/-- What the records of a sample have under a name. -/
abbrev valuesOf (name : String) (sample : List Value) : List Value :=
  column (.string name) (recordsOf sample)

/-- The values of a name are those that the records have under it. -/
theorem mem_valuesOf_iff {sample : List Value} {name : String} {v : Value} :
    v ∈ valuesOf name sample
      ↔ ∃ entries ∈ recordsOf sample, Entries.get? name entries = some v
        ∧ v.isMissing = false := by
  simp only [column, Column.present, List.mem_filter, List.mem_filterMap, Entries.find?_string,
    Bool.not_eq_true']
  constructor
  · rintro ⟨⟨entries, hentries, hv⟩, hp⟩
    exact ⟨entries, hentries, hv, hp⟩
  · rintro ⟨entries, hentries, hv, hp⟩
    exact ⟨⟨entries, hentries, hv⟩, hp⟩

/-- A name with a value is a key. -/
theorem string_mem_keys_of_mem_valuesOf {sample : List Value} {name : String} {v : Value}
    (hv : v ∈ valuesOf name sample) :
    .string name ∈ keys (recordsOf sample) := by
  obtain ⟨entries, hentries, hget, -⟩ := mem_valuesOf_iff.1 hv
  exact string_mem_keys hentries (Entries.mem_of_get?_eq_some hget)

/-- **The shape of a name is that of its column**, if no other key is written
like it. -/
theorem mem_ofRecords_iff_of_text {sample : List Value} {name : String}
    (h : ∀ entries ∈ recordsOf sample, ∀ key v, (key, v) ∈ entries → key.text = name →
      key = .string name) {shape : Shape} :
    (name, shape) ∈ ofRecords sample
      ↔ ofColumn (valuesOf name sample) = some shape := by
  rw [mem_ofRecords_iff]
  constructor
  · rintro ⟨key, hkey, hname, hshape⟩
    obtain ⟨entries, hentries, v, hv⟩ := exists_of_mem_keys hkey
    rwa [h entries hentries key v hv hname] at hshape
  · intro hshape
    -- A column with a shape has a value, so the name is a key.
    have hne : valuesOf name sample ≠ [] := by
      intro hnil
      rw [hnil, ofColumn_nil] at hshape
      cases hshape
    obtain ⟨v, hv⟩ := List.exists_mem_of_ne_nil _ hne
    exact ⟨.string name, string_mem_keys_of_mem_valuesOf hv, rfl, hshape⟩

/-! ## Texts for keys -/

section TextKeys

variable {sample : List Value} (h : ∀ v ∈ sample, v.hasTextKeys = true)
include h

theorem eq_string_of_text {entries : Entries} (hentries : entries ∈ recordsOf sample)
    {key v : Value} (hv : (key, v) ∈ entries) {name : String} (hname : key.text = name) :
    key = .string name := by
  have hkeys := Value.hasTextKeys_map_iff.1 (h _ (mem_recordsOf_iff.1 hentries))
  exact hname ▸ Value.eq_string_text (hkeys _ hv).1

/-- The values in the columns of such records have texts for keys. -/
theorem hasTextKeys_of_mem_column {key v : Value} (hv : v ∈ column key (recordsOf sample)) :
    v.hasTextKeys = true := by
  obtain ⟨entries, hentries, hfind⟩ := List.mem_filterMap.1 (List.mem_filter.1 hv).1
  obtain ⟨entry, hentry, rfl⟩ := Option.map_eq_some_iff.1 hfind
  have hkeys := Value.hasTextKeys_map_iff.1 (h _ (mem_recordsOf_iff.1 hentries))
  exact (hkeys _ (List.mem_of_find?_eq_some hentry)).2

/-- The items of such lists have texts for keys. -/
theorem hasTextKeys_of_mem_items {item : Value} (hitem : item ∈ Column.items sample) :
    item.hasTextKeys = true := by
  obtain ⟨v, hv, hmem⟩ := List.mem_flatMap.1 (List.mem_filter.1 hitem).1
  cases hitems : v.items? with
  | none =>
    rw [hitems] at hmem
    cases hmem
  | some items =>
    rw [hitems] at hmem
    exact Value.hasTextKeys_of_mem_items (h v hv) hitems hmem

end TextKeys

/-! ## Columns of records -/

/-- One record with one entry has the shape of its value. -/
theorem ofRecords_singleton {name : String} {v : Value} {shape : Shape}
    (hv : v.isMissing = false) (hshape : ofColumn [v] = some shape) :
    ofRecords [.map [(.string name, v)]] = [(name, shape)] := by
  have hcolumn : column (.string name) (recordsOf [.map [(.string name, v)]]) = [v] := by
    show Column.present ([[(Value.string name, v)]].filterMap _) = [v]
    rw [List.filterMap_cons, Entries.find?_string, Entries.get?, if_pos rfl]
    show [v].filter _ = [v]
    rw [List.filter_cons, hv]
    rfl
  rw [ofRecords_eq_filterMap]
  show [Value.string name].filterMap _ = _
  rw [List.filterMap_cons, hcolumn, hshape]
  rfl

theorem exists_of_mem_ofRecords {sample : List Value} {name : String} {shape : Shape}
    (h : (name, shape) ∈ ofRecords sample) :
    ∃ key ∈ keys (recordsOf sample),
      key.text = name ∧ IsOf (column key (recordsOf sample)) shape := by
  obtain ⟨key, hkey, hname, hshape⟩ := mem_ofRecords_iff.1 h
  exact ⟨key, hkey, hname, isOf_of_ofColumn hshape⟩

end ContentGraph.Shape
