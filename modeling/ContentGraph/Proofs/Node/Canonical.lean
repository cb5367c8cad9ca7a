import ContentGraph.Proofs.Node.Record
import Mathlib.Data.List.Nodup

/-!
# Records that survive unchanged

A record may say one thing in several ways. A parent may be null or be left out, and
it may be given as a record; children may be given as records too, and as a text, a
map or a tuple of them; a list without children is as good as none. A record that
makes use of none of this is *canonical* (`Node.IsCanonical`). What its other keys
and values are does not matter.

Three functions have to agree on a record: the one that reads it, the one that
writes it, and the one that reads a single attribute, and each has a list of the
reserved names of its own. On canonical records they agree: such a record is read,
the node is written as the same entries, in some order, and under every key of the
record the node has what the record has (`Node.canonical_survives`).
-/

namespace ContentGraph

namespace Entries

variable {entries others : Entries}

/-- Among keys that differ, an entry is found under its key, if the key equals
itself as all but *not a number* do. -/
theorem find?_eq_some_of_mem (h : entries.Distinct) {key v : Value} (hkey : key.eq key = true)
    (hmem : (key, v) ∈ entries) : find? key entries = some v := by
  unfold find?
  induction entries with
  | nil => cases hmem
  | cons entry rest ih =>
    obtain ⟨hentry, hrest⟩ := List.pairwise_cons.1 h
    rcases List.mem_cons.1 hmem with rfl | hmem
    · rw [List.find?_cons, hkey]
      rfl
    · rw [List.find?_cons, hentry _ hmem]
      exact ih hrest hmem

/-- Among keys that differ, the entry of a name is the one that is found. -/
theorem get?_eq_some_iff (h : entries.Distinct) {name : String} {v : Value} :
    get? name entries = some v ↔ (.string name, v) ∈ entries := by
  refine ⟨mem_of_get?_eq_some, fun hmem => ?_⟩
  rw [← find?_string]
  exact find?_eq_some_of_mem h ((Value.string_eq_iff name _).2 rfl) hmem

/-- Entries whose keys are different texts are all different. -/
theorem nodup_of_distinct (h : entries.Distinct)
    (hkeys : ∀ entry ∈ entries, entry.1.isString = true) : entries.Nodup := by
  refine List.Pairwise.imp_of_mem (fun {a b} ha _ hne heq => ?_) h
  exact Value.ne_of_eq_eq_false (hkeys a ha) hne (congrArg Prod.fst heq).symm

/-- **Entries under texts are the same in some order** if the same is found under
every name. -/
theorem perm_of_get?_eq (h : entries.Distinct) (hothers : others.Distinct)
    (hkeys : ∀ entry ∈ entries, entry.1.isString = true)
    (hkeys' : ∀ entry ∈ others, entry.1.isString = true)
    (hget : ∀ name, get? name entries = get? name others) : entries.Perm others := by
  refine (List.perm_ext_iff_of_nodup (nodup_of_distinct h hkeys)
    (nodup_of_distinct hothers hkeys')).2 fun entry => ?_
  obtain ⟨key, v⟩ := entry
  cases key with
  | string name => rw [← get?_eq_some_iff h, hget, get?_eq_some_iff hothers]
  | _ => exact iff_of_false (fun hmem => nomatch hkeys _ hmem) fun hmem => nomatch hkeys' _ hmem

end Entries

namespace Node

/-- **A record that is written as it is read.** -/
structure IsCanonical (record : Entries) : Prop where
  /-- The identifier is a text that is not empty. -/
  id : ∃ s, s ≠ "" ∧ Entries.get? "id" record = some (.string s)
  /-- So is the type. -/
  type : ∃ s, s ≠ "" ∧ Entries.get? "type" record = some (.string s)
  /-- A parent that is there is not null, and not given as a record. -/
  parent : ∀ v, Entries.get? "parent" record = some v → v ≠ .null ∧ v.isMap = false
  /-- Children that are there are a list of texts, at least one. -/
  children : ∀ v, Entries.get? "children" record = some v →
    ∃ names : List String, names ≠ [] ∧ v = .list (names.map .string)
  /-- A path that is there is not null. -/
  path : ∀ v, Entries.get? "___path" record = some v → v ≠ .null
  /-- Neither is the node that this one was made from. -/
  sourceNodeId : ∀ v, Entries.get? "_sourceNodeId" record = some v → v ≠ .null

variable {record : Entries} {n : Node}

/-! ## Reading -/

/-- Children that are texts are read as they are. -/
theorem readChildren_texts (names : List String) :
    readChildren (.list (names.map .string)) = .ok (names.map .string) := by
  cases names with
  | nil => rfl
  | cons name rest =>
    refine mapM_eq_ok_self_iff.2 fun child hchild => ?_
    obtain ⟨s, -, rfl⟩ := List.mem_map.1 hchild
    rfl

theorem IsCanonical.readParent_eq (h : IsCanonical record) :
    readParent (Entries.getOrNull "parent" record) = Entries.getOrNull "parent" record := by
  refine (readParent_eq_self_iff _).2 ?_
  unfold Entries.getOrNull
  cases hparent : Entries.get? "parent" record with
  | none => rfl
  | some v => exact (h.parent v hparent).2

theorem IsCanonical.exists_readChildren (h : IsCanonical record) :
    ∃ children, readChildren (Entries.getOrNull "children" record) = .ok children := by
  unfold Entries.getOrNull
  cases hchildren : Entries.get? "children" record with
  | none => exact ⟨[], rfl⟩
  | some v =>
    obtain ⟨names, -, rfl⟩ := h.children v hchildren
    exact ⟨_, readChildren_texts names⟩

/-- **A canonical record is a node.** -/
theorem IsCanonical.exists_readFrom (h : IsCanonical record) : ∃ n, ReadFrom record n := by
  obtain ⟨id, hid, hgetId⟩ := h.id
  obtain ⟨type, htype, hgetType⟩ := h.type
  obtain ⟨children, hchildren⟩ := h.exists_readChildren
  exact ⟨⟨id, type, Entries.getOrNull "parent" record, children,
    Entries.getOrNull "___path" record, Entries.getOrNull "_sourceNodeId" record,
    record.filter isField, hid, htype⟩,
    hgetId, hgetType, h.readParent_eq, hchildren, rfl, rfl, rfl⟩

/-! ## Writing -/

/-- What is written only if it is not null is what was read, if null was not. -/
theorem ite_null_eq_get? {name : String} {v : Value}
    (hread : Entries.getOrNull name record = v)
    (h : ∀ w, Entries.get? name record = some w → w ≠ .null) :
    (if v = .null then none else some v) = Entries.get? name record := by
  subst hread
  unfold Entries.getOrNull
  cases hget : Entries.get? name record with
  | none => exact if_pos rfl
  | some w => exact if_neg (h w hget)

/-- The children are written as they were read. -/
theorem ReadFrom.ite_children_eq_get? (hread : ReadFrom record n) (h : IsCanonical record) :
    (if n.children = [] then none else some (.list n.children))
      = Entries.get? "children" record := by
  have hchildren := hread.children
  unfold Entries.getOrNull at hchildren
  cases hget : Entries.get? "children" record with
  | none =>
    rw [hget] at hchildren
    exact if_pos (Except.ok.inj hchildren).symm
  | some v =>
    obtain ⟨names, hne, rfl⟩ := h.children v hget
    rw [hget, Option.getD_some, readChildren_texts] at hchildren
    rw [← Except.ok.inj hchildren, if_neg (mt List.map_eq_nil_iff.1 hne)]

/-- **Every reserved attribute is written as it was read.** -/
theorem ReadFrom.get?_attributeEntries (hread : ReadFrom record n) (h : IsCanonical record)
    {name : String} (hname : name ∈ reservedNames) :
    Entries.get? name n.attributeEntries = Entries.get? name record := by
  have hparent := ite_null_eq_get? (h.readParent_eq.symm.trans hread.parent)
    fun v hv => (h.parent v hv).1
  have hchildren := hread.ite_children_eq_get? h
  have hpath := ite_null_eq_get? hread.path h.path
  have hsource := ite_null_eq_get? hread.sourceNodeId h.sourceNodeId
  simp only [reservedNames, List.mem_cons, List.not_mem_nil, or_false] at hname
  rcases hname with rfl | rfl | rfl | rfl | rfl | rfl
  · exact hread.id.symm
  · exact hread.type.symm
  all_goals
    simp [attributeEntries, Entries.get?, Entries.get?_append, get?_optionalEntry,
      get?_childrenEntry, ← hparent, ← hchildren, ← hpath, ← hsource]

/-- The reserved attributes are written in the order of the reserved names. -/
theorem keys_attributeEntries_sublist (n : Node) :
    (n.attributeEntries.map (·.1)).Sublist (reservedNames.map .string) := by
  have hoptional (name : String) (v : Value) :
      ((optionalEntry name v).map (·.1)).Sublist [.string name] := by
    unfold optionalEntry
    split
    · exact List.nil_sublist _
    · exact List.Sublist.refl _
  have hchildren : ((childrenEntry n.children).map (·.1)).Sublist [.string "children"] := by
    unfold childrenEntry
    split
    · exact List.nil_sublist _
    · exact List.Sublist.refl _
  unfold attributeEntries
  simp only [List.map_append]
  exact ((((List.Sublist.refl [_, _]).append (hoptional _ _)).append hchildren).append
    (hoptional _ _)).append (hoptional _ _)

theorem distinct_attributeEntries (n : Node) : n.attributeEntries.Distinct := by
  have hreserved : (reservedNames.map Value.string).Pairwise fun a b => a.eq b = false := by
    decide
  exact List.pairwise_map.1 (hreserved.sublist n.keys_attributeEntries_sublist)

/-- **The reserved attributes are written as they were in the record.** -/
theorem ReadFrom.attributeEntries_perm (hread : ReadFrom record n) (h : IsCanonical record)
    (hrecord : record.Distinct) :
    n.attributeEntries.Perm (record.filter fun entry => !isField entry) := by
  have hkeys : ∀ entry ∈ record.filter fun entry => !isField entry, entry.1.isString = true := by
    intro entry hentry
    have hfield := (Bool.not_eq_eq_eq_not.1 (List.mem_filter.1 hentry).2)
    obtain ⟨name, -, hkey⟩ := exists_name_of_isField_eq_false hfield
    rw [hkey]
    rfl
  refine Entries.perm_of_get?_eq n.distinct_attributeEntries (hrecord.filter _)
    (fun entry hentry => ?_) hkeys fun name => ?_
  · obtain ⟨name, -, hkey⟩ := exists_name_of_mem_attributeEntries hentry
    rw [hkey]
    rfl
  · by_cases hname : name ∈ reservedNames
    · rw [hread.get?_attributeEntries h hname, ← Entries.find?_string, ← Entries.find?_string,
        Entries.find?_filter]
      intro entry _ heq
      obtain ⟨key, v⟩ := entry
      cases (Value.eq_string_iff _ _).1 heq
      rw [isField_of_reserved hname]
      rfl
    · rw [get?_attributeEntries_of_not_reserved hname]
      refine (Option.eq_none_iff_forall_ne_some.2 fun v hv => ?_).symm
      have hfield := (List.mem_filter.1 (Entries.mem_of_get?_eq_some hv)).2
      rw [isField_string hname] at hfield
      cases hfield

/-- **A canonical record is written as it was read**, but for the order of its
entries. -/
theorem ReadFrom.toRecord_perm (hread : ReadFrom record n) (h : IsCanonical record)
    (hrecord : record.Distinct) : n.toRecord.Perm record := by
  rw [toRecord_eq_append (hread.hasReadFields hrecord), ← hread.fields]
  exact ((hread.attributeEntries_perm h hrecord).append_right _).trans
    (List.perm_append_comm.trans (List.filter_append_perm _ _))

/-! ## Reading an attribute -/

/-- What is written of a node is what is read of it. -/
theorem get?_of_get?_attributeEntries {name : String} {v : Value}
    (hv : Entries.get? name n.attributeEntries = some v) : n.get? name = some v := by
  have hname : name ∈ reservedNames := by
    refine Decidable.byContradiction fun hname => ?_
    rw [get?_attributeEntries_of_not_reserved hname] at hv
    cases hv
  simp only [reservedNames, List.mem_cons, List.not_mem_nil, or_false] at hname
  rcases hname with rfl | rfl | rfl | rfl | rfl | rfl
  · exact hv
  · exact hv
  all_goals
    simp only [attributeEntries, Entries.get?, Entries.get?_append, get?_optionalEntry,
      get?_childrenEntry] at hv
    simp_all [get?]

/-- **Under every key of a canonical record the node has what the record has.** -/
theorem ReadFrom.getKey?_eq_find? (hread : ReadFrom record n) (h : IsCanonical record)
    (hrecord : record.Distinct) {entry : Value × Value} (hentry : entry ∈ record) :
    n.getKey? entry.1 = Entries.find? entry.1 record := by
  obtain ⟨key, v⟩ := entry
  have hfields {key : Value} (hkey : ∀ name ∈ reservedNames, key ≠ .string name) :
      Entries.find? key n.fields = Entries.find? key record :=
    hread.fields ▸ find?_filter_isField hkey record
  cases key with
  | string name =>
    show n.get? name = _
    by_cases hname : name ∈ reservedNames
    · have hget := (Entries.get?_eq_some_iff hrecord).2 hentry
      rw [Entries.find?_string, hget]
      exact get?_of_get?_attributeEntries ((hread.get?_attributeEntries h hname).trans hget)
    · rw [get?_of_not_reserved hname, ← Entries.find?_string]
      exact hfields fun reserved hreserved heq => hname (by rwa [Value.string.inj heq])
  | _ => exact hfields nofun

/-- **A canonical record survives unchanged**, whatever its other keys and values
are. It is read, and the node is written as a record with the same entries. Under
every key of the record the node has what is found there in the record, which is the
value of the entry. A key that does not equal itself, as *not a number* does not, is
found nowhere. -/
theorem canonical_survives (hrecord : record.Distinct) (h : IsCanonical record) :
    ∃ n, ofRecord (.map record) = .ok n ∧ n.toRecord.Perm record
      ∧ ∀ entry ∈ record, n.getKey? entry.1 = Entries.find? entry.1 record
        ∧ (entry.1.eq entry.1 = true → n.getKey? entry.1 = some entry.2) := by
  obtain ⟨n, hread⟩ := h.exists_readFrom
  refine ⟨n, ofRecord_eq_ok_iff.2 ⟨record, rfl, hread⟩, hread.toRecord_perm h hrecord,
    fun entry hentry => ?_⟩
  have hfind := hread.getKey?_eq_find? h hrecord hentry
  exact ⟨hfind, fun hkey => hfind.trans (Entries.find?_eq_some_of_mem hrecord hkey hentry)⟩

/-- A chapter of a book, with notes under a number and the reserved attributes among
the others. -/
def annotatedChapter : Entries :=
  [(.string "title", .string "One"), (.string "children", .list [.string "a", .string ""]),
    (.string "id", .string "one"), (.int 7, .map [(.bool true, .null)]),
    (.string "type", .string "Chapter"), (.string "parent", .int 0),
    (.string "___path", .string "book.chapter"), (.string "draft", .float .nan)]

/-- The chapter survives, its notes, its children and its unusual parent with it. -/
theorem annotatedChapter_survives :
    annotatedChapter.Distinct ∧ IsCanonical annotatedChapter
      ∧ ∃ n, ofRecord (.map annotatedChapter) = .ok n ∧ n.toRecord.Perm annotatedChapter
        ∧ n.getKey? (.int 7) = some (.map [(.bool true, .null)])
        ∧ n.get? "children" = some (.list [.string "a", .string ""])
        ∧ n.get? "parent" = some (.int 0) := by
  have hrecord : annotatedChapter.Distinct := by decide +kernel
  have hcanonical : IsCanonical annotatedChapter := by
    constructor
    case id => exact ⟨"one", by decide, rfl⟩
    case type => exact ⟨"Chapter", by decide, rfl⟩
    case parent =>
      rintro _ ⟨⟩
      exact ⟨nofun, rfl⟩
    case children =>
      rintro _ ⟨⟩
      exact ⟨["a", ""], nofun, rfl⟩
    case path =>
      rintro _ ⟨⟩
      nofun
    case sourceNodeId => rintro _ ⟨⟩
  obtain ⟨n, hread, hperm, hkeys⟩ := canonical_survives hrecord hcanonical
  refine ⟨hrecord, hcanonical, n, hread, hperm, ?_, ?_, ?_⟩
  · exact (hkeys (.int 7, _) (by decide +kernel)).2 (by decide +kernel)
  · exact (hkeys (.string "children", _) (by decide +kernel)).2 (by decide +kernel)
  · exact (hkeys (.string "parent", _) (by decide +kernel)).2 (by decide +kernel)

end Node

end ContentGraph
