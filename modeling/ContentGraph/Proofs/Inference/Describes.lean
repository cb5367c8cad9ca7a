import ContentGraph.Proofs.Inference.Column
import ContentGraph.Proofs.Inference.Fields
import ContentGraph.Proofs.Inference.Shape

/-!
# Inferred fields describe the data

The fields of records are inferred from a sample of them, and those of the
objects in a column from a sample of the column. If the samples leave nothing
out, what is inferred holds of every value that was there: at every depth,
each value that is present is of the kind of its field
(`Inference.describes_of_mem_fieldsOfRecords`).

Two sizes decide whether something is left out: how many records there are,
and how many items the lists of one column have together. A column of objects
never has more values than there are records. Keys must be texts, for a
field is named by the text of a key, and other keys may have the same text
(`Inference.Surveyed`).
-/

namespace ContentGraph

/-! ## Fields among no types -/

/-- No class of scalars is that of nodes. -/
theorem ScalarClass.kind_ne_node (cls : ScalarClass) : cls.kind ≠ .node := by
  cases cls <;> decide

/-- No class of scalars is that of objects. -/
theorem ScalarClass.kind_ne_object (cls : ScalarClass) : cls.kind ≠ .object := by
  cases cls <;> decide

namespace Shape

/-- Among no types there is nothing to link to. -/
theorem field_nil_scalar (name : String) (cls : ScalarClass) (first : Value) :
    field [] name (.scalar cls first) = plain cls := by
  cases hlink : link? [] name cls first with
  | none => rw [field, hlink, Option.getD_none]
  | some f =>
    obtain ⟨type, -, hfound, -⟩ := link?_eq_some_iff.1 hlink
    cases hfound

theorem linksNowhere_field_nil (name : String) (shape : Shape) :
    (field [] name shape).LinksNowhere := by
  cases shape with
  | scalar cls first =>
    rw [field_nil_scalar]
    exact ⟨cls.kind_ne_node, nofun, rfl⟩
  | scalars cls => exact ⟨nofun, fun h => cls.kind_ne_node (Option.some.inj h), rfl⟩
  | _ => exact ⟨nofun, nofun, rfl⟩

/-- The fields of nested objects are inferred among no types. -/
theorem fields_field {targets : List LinkTarget} {name : String} {shape : Shape}
    {inner : FieldMap} (h : (field targets name shape).fields = some inner) :
    ∃ columns, inner = nestedFields [] columns := by
  cases shape with
  | scalar cls first =>
    rw [fields_field_scalar] at h
    cases h
  | object columns => exact ⟨columns, (Option.some.inj h).symm⟩
  | objects columns => exact ⟨columns, (Option.some.inj h).symm⟩
  | _ => cases h

/-- **Only fields at the top link to nodes.** -/
theorem linksNowhere_of_isBelow {targets : List LinkTarget} {name : String} {shape : Shape}
    {g : Field} (h : (field targets name shape).IsBelow g) : g.LinksNowhere := by
  -- Whatever is below is itself a field that was inferred among no types.
  have hg : ∃ n s, g = field [] n s := by
    induction h with
    | field hfields hmem =>
      obtain ⟨columns, rfl⟩ := fields_field hfields
      obtain ⟨s, -, rfl⟩ := exists_of_mem_nestedFields hmem
      exact ⟨_, s, rfl⟩
    | step _ hfields hmem ih =>
      obtain ⟨n, s, rfl⟩ := ih
      obtain ⟨columns, rfl⟩ := fields_field hfields
      obtain ⟨t, -, rfl⟩ := exists_of_mem_nestedFields hmem
      exact ⟨_, t, rfl⟩
  obtain ⟨n, s, rfl⟩ := hg
  exact linksNowhere_field_nil n s

end Shape

/-! ## Samples -/

namespace Inference

open Shape

/-- **A sample that is looked at**: the records themselves, the objects of a
column of such a sample, or the items of a column of lists if they are
objects. -/
inductive IsSample (records : List Value) : List Value → Prop
  | records : IsSample records records
  | objects {sample : List Value} {key : Value} (h : IsSample records sample)
      (hkey : key ∈ keys (recordsOf sample))
      (hcolumn : Column.container? (column key (recordsOf sample)) = some .objects) :
      IsSample records (column key (recordsOf sample))
  | items {sample : List Value} {key : Value} (h : IsSample records sample)
      (hkey : key ∈ keys (recordsOf sample))
      (hcolumn : Column.container? (column key (recordsOf sample)) = some .lists)
      (hitems : Column.container? (Column.items (column key (recordsOf sample)))
        = some .objects) :
      IsSample records (Column.items (column key (recordsOf sample)))

/-- **Records of which nothing is left out**, with texts for keys at every
depth that is looked at. -/
structure Surveyed (records : List Value) : Prop where
  /-- There are no more records than are looked at. -/
  length_le : records.length ≤ sampleSize
  /-- No column of lists has more items than are looked at. -/
  items_le : ∀ sample, IsSample records sample → ∀ key ∈ keys (recordsOf sample),
    Column.container? (column key (recordsOf sample)) = some .lists →
      (Column.items (column key (recordsOf sample))).length ≤ sampleSize
  /-- Every key is a text. -/
  isString_key : ∀ sample, IsSample records sample → ∀ entries ∈ recordsOf sample,
    ∀ key v, (key, v) ∈ entries → key.isString = true

theorem length_column_le (key : Value) (sample : List Value) :
    (column key (recordsOf sample)).length ≤ sample.length :=
  (List.length_filter_le _ _).trans
    ((List.length_filterMap_le _ _).trans (List.length_filterMap_le _ _))

/-- **No sample is larger than what is looked at.** -/
theorem IsSample.length_le {records sample : List Value} (hrecords : Surveyed records)
    (h : IsSample records sample) : sample.length ≤ sampleSize := by
  induction h with
  | records => exact hrecords.length_le
  | objects _ _ _ ih => exact (length_column_le _ _).trans ih
  | items h hkey hcolumn _ _ => exact hrecords.items_le _ h _ hkey hcolumn

/-! ## From values to fields -/

/-- The items of the lists in a column that are present are its items. -/
theorem mem_items {values items : List Value} {v item : Value} (hv : v ∈ values)
    (hitems : v.items? = some items) (hitem : item ∈ items) (hpresent : item.isMissing = false) :
    item ∈ Column.items values := by
  refine List.mem_filter.2 ⟨List.mem_flatMap.2 ⟨v, hv, ?_⟩, by simp [hpresent]⟩
  rwa [hitems, Option.getD_some]

/-- **The fields of a sample describe its records**, whatever types there are
to link to. -/
def FieldsDescribe (sample : List Value) : Prop :=
  ∀ targets name shape, (name, shape) ∈ ofRecords sample →
    ∀ entries ∈ recordsOf sample, ∀ v, Entries.get? name entries = some v →
      v.isMissing = false → (field targets name shape).Describes v

/-- If the fields of some objects describe them, the objects are of the kind
of objects with these fields. -/
theorem holds_object {sample : List Value} (hsample : FieldsDescribe sample)
    (hlength : sample.length ≤ sampleSize)
    (hobjects : Column.container? sample = some .objects) {v : Value} (hv : v ∈ sample) :
    Field.Holds .object (some (nestedFields [] (ofRecords (sample.take sampleSize)))) v := by
  rw [List.take_of_length_le hlength]
  have hmap := Column.isMap_of_mem hobjects hv
  cases v with
  | map entries =>
    refine .object fun name f hf w hw hpresent => ?_
    obtain ⟨shape, hshape, rfl⟩ := exists_of_mem_nestedFields hf
    exact hsample [] name shape hshape entries (mem_recordsOf_iff.2 hv) w hw hpresent
  | _ => cases hmap

/-- A column of scalars has a field that describes them: a link, to which
scalars refer, or a field of their class. -/
theorem describes_scalar {values : List Value} {v : Value}
    (hscalars : Column.container? values = none) (hv : v ∈ values) (targets : List LinkTarget)
    (name : String) (first : Value) :
    (field targets name (.scalar (Column.scalarClass values) first)).Describes v := by
  rw [field]
  cases hlink : link? targets name (Column.scalarClass values) first with
  | none => exact .one rfl (.plain (ScalarClass.kind_ne_object _) (Column.admits_of_mem hv))
  | some f =>
    obtain ⟨type, -, -, rfl⟩ := link?_eq_some_iff.1 hlink
    have hscalar := Column.isScalar_of_mem hscalars hv
    rw [Value.isScalar, Bool.and_eq_true, Bool.not_eq_true', Bool.not_eq_true'] at hscalar
    exact .one rfl (.plain (by decide) (.node hscalar.1 hscalar.2))

/-- A column of lists has a field that describes them, if the kind of the items
holds of every item. -/
theorem describes_lists {values : List Value} {v : Value}
    (hlists : Column.container? values = some .lists) (hv : v ∈ values) {f : Field}
    {kind : FieldKind} (htype : f.type = .listOf kind)
    (hholds : ∀ item ∈ Column.items values, Field.Holds kind f.fields item) :
    f.Describes v := by
  have hitems : ∃ items, v.items? = some items := by
    have hsequence := Column.isSequence_of_mem hlists hv
    cases v with
    | list items => exact ⟨items, rfl⟩
    | tuple items => exact ⟨items, rfl⟩
    | _ => cases hsequence
  obtain ⟨items, hitems⟩ := hitems
  exact .listOf htype hitems fun item hitem hp => hholds item (mem_items hv hitems hitem hp)

/-- **The fields of every sample describe its records.** -/
theorem IsSample.fieldsDescribe {records sample : List Value} (hrecords : Surveyed records)
    (h : IsSample records sample) : FieldsDescribe sample := by
  -- What is nested in a sample is smaller, so the induction is on the size.
  induction hsize : sizeOf sample using Nat.strong_induction_on generalizing sample with
  | _ size ih =>
    subst hsize
    intro targets name shape hshape entries hentries v hv hpresent
    obtain ⟨key, hkey, rfl, hisOf⟩ := exists_of_mem_ofRecords hshape
    have hcolumn := mem_valuesOf_iff.2 ⟨entries, hentries, hv, hpresent⟩
    rw [valuesOf, ← eq_string_of_mem_keys (hrecords.isString_key _ h) hkey] at hcolumn
    have hsmaller := sizeOf_column_lt (List.ne_nil_of_mem hcolumn)
    -- Only the two shapes with columns of their own need the induction.
    cases hisOf with
    | object hobjects =>
      have hsample := IsSample.objects h hkey hobjects
      exact .one rfl (holds_object (ih _ hsmaller hsample rfl) (hsample.length_le hrecords)
        hobjects hcolumn)
    | objects hlists hobjects =>
      have hsample := IsSample.items h hkey hlists hobjects
      have hfields := ih _ ((sizeOf_items_le _).trans_lt hsmaller) hsample rfl
      exact describes_lists hlists hcolumn rfl fun item hitem =>
        holds_object hfields (hsample.length_le hrecords) hobjects hitem
    | anything hlists =>
      exact describes_lists hlists hcolumn rfl fun item _ => .plain (by decide) (.json item)
    | scalars hlists =>
      exact describes_lists hlists hcolumn rfl fun item hitem =>
        .plain (ScalarClass.kind_ne_object _) (Column.admits_of_mem hitem)
    | mixed => exact .one rfl (.plain (by decide) (.json v))
    | scalar hscalars first => exact describes_scalar hscalars hcolumn targets _ first

theorem columnsOf_eq {records : List Value} (h : records.length ≤ sampleSize) :
    columnsOf sampleSize records = ofRecords records := by
  refine congrArg ofRecords ?_
  unfold firstValues
  rw [if_neg (by decide)]
  exact List.take_of_length_le h

/-- **Inferred fields describe the data**: for records of which nothing is
left out and all types to link to, each field describes every value that is
present under its name, and nothing below it links to a node. -/
theorem describes_of_mem_fieldsOfRecords (targets : List LinkTarget) {records : List Value}
    (hrecords : Surveyed records) {name : String} {f : Field}
    (hf : (name, f) ∈ fieldsOfRecords targets sampleSize records) :
    (∀ entries ∈ recordsOf records, ∀ v, Entries.get? name entries = some v →
        v.isMissing = false → f.Describes v)
      ∧ ∀ g, f.IsBelow g → g.LinksNowhere := by
  rw [fieldsOfRecords, columnsOf_eq hrecords.length_le] at hf
  obtain ⟨shape, hshape, rfl⟩ := exists_of_mem_fields hf
  exact ⟨IsSample.records.fieldsDescribe hrecords targets name shape hshape,
    fun g hg => linksNowhere_of_isBelow hg⟩

/-- Records can be checked by a list of all samples that are looked at. -/
theorem surveyed_of_samples {records : List Value} (samples : List (List Value))
    (hlength : records.length ≤ sampleSize) (hrecords : records ∈ samples)
    (hcolumns : ∀ sample ∈ samples, ∀ key ∈ keys (recordsOf sample),
      (Column.container? (column key (recordsOf sample)) = some .objects →
        column key (recordsOf sample) ∈ samples)
      ∧ (Column.container? (column key (recordsOf sample)) = some .lists →
        (Column.items (column key (recordsOf sample))).length ≤ sampleSize
          ∧ (Column.container? (Column.items (column key (recordsOf sample))) = some .objects →
            Column.items (column key (recordsOf sample)) ∈ samples)))
    (hkeys : ∀ sample ∈ samples, ∀ entries ∈ recordsOf sample, ∀ entry ∈ entries,
      entry.1.isString = true) :
    Surveyed records := by
  have hall : ∀ sample, IsSample records sample → sample ∈ samples := by
    intro sample h
    induction h with
    | records => exact hrecords
    | objects _ hkey hcolumn ih => exact (hcolumns _ ih _ hkey).1 hcolumn
    | items _ hkey hcolumn hitems ih => exact ((hcolumns _ ih _ hkey).2 hcolumn).2 hitems
  constructor
  case length_le => exact hlength
  case items_le => exact fun sample h key hkey hc => ((hcolumns _ (hall _ h) _ hkey).2 hc).1
  case isString_key =>
    exact fun sample h entries hentries key v hv => hkeys _ (hall _ h) entries hentries _ hv

/-- The authors of two articles. -/
def authors : List Value :=
  [.map [(.string "name", .string "Ada")],
    .map [(.string "name", .string "Grace"), (.string "born", .string "1906-12-09")]]

/-- The comments on an article, of which one is missing. -/
def comments : List Value := [.map [(.string "by", .string "Ada")], .null]

/-- An article with an author and a list of tags. -/
def taggedArticle : Entries :=
  [(.string "author", .map [(.string "name", .string "Ada")]),
    (.string "tags", .list [.string "maths"])]

/-- An article with an author and a list of comments. -/
def discussedArticle : Entries :=
  [(.string "author", .map [(.string "name", .string "Grace"),
      (.string "born", .string "1906-12-09")]),
    (.string "comments", .list comments)]

/-- Both articles. -/
def articles : List Value := [.map taggedArticle, .map discussedArticle]

/-- Nothing is left out of the articles. -/
theorem surveyed_articles : Surveyed articles :=
  surveyed_of_samples [articles, authors, Column.present comments] (by decide) (by decide)
    (by decide +kernel) (by decide +kernel)

/-- The comments are described by a field for lists of objects. -/
theorem comments_described :
    Surveyed articles
      ∧ ∃ f, ("comments", f) ∈ fieldsOfRecords [] sampleSize articles
        ∧ f.type = .listOf .object ∧ f.Describes (.list comments)
        ∧ ∀ g, f.IsBelow g → g.LinksNowhere := by
  obtain ⟨f, hf, htype⟩ := FieldMap.exists_mem_of_any
    (fun f => f.type == .listOf .object) (by decide +kernel :
      (fieldsOfRecords [] sampleSize articles).any (fun entry =>
        entry.1 == "comments" && entry.2.type == .listOf .object) = true)
  obtain ⟨hdescribes, hbelow⟩ := describes_of_mem_fieldsOfRecords [] surveyed_articles hf
  exact ⟨surveyed_articles, f, hf, beq_iff_eq.1 htype,
    hdescribes discussedArticle (by decide) _ (by decide) rfl, hbelow⟩

end Inference

end ContentGraph
