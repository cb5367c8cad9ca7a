import ContentGraph.Proofs.Inference.Mirror
import ContentGraph.Proofs.Inference.Order

/-!
# Arguments and the order of the nodes

The arguments of a look-up are what its users write down, and a site is not read
in the same order everywhere. If none of the nodes is left out, their order makes
no difference to the arguments but for the order of the names, at every depth
(`Inference.alike_argumentsOfNodes`).

Fields depend on the order of the nodes by the columns that the first value
decides, and these become links. The arguments are read off fields that were
inferred among no types, and nothing links there. So the fields are alike in
every order, and alike fields have alike arguments
(`Argument.alike_ofFields`).
-/

namespace ContentGraph

mutual

/-- **Two arguments are alike**: they are one argument, but for the order of what is
in its groups. -/
inductive Argument.Alike : Argument → Argument → Prop
  /-- An argument for a field of some kind. -/
  | leaf (name : String) (kind : FieldKind) (operators : List Operator) :
      Argument.Alike (.leaf name kind operators) (.leaf name kind operators)
  /-- The arguments for the fields of an object. -/
  | group (name : String) {inner others : ArgumentMap} (hinner : ArgumentMap.Alike inner others) :
      Argument.Alike (.group name inner) (.group name others)

/-- **Two argument maps are alike**: no name stands twice, they have the same names,
in some order, and the arguments of a name are alike. -/
inductive ArgumentMap.Alike : ArgumentMap → ArgumentMap → Prop
  | intro {arguments others : ArgumentMap} (hnodup : (arguments.map (·.1)).Nodup)
      (hnames : (arguments.map (·.1)).Perm (others.map (·.1)))
      (harguments : ∀ name a b, arguments.lookup name = some a → others.lookup name = some b →
        Argument.Alike a b) :
      ArgumentMap.Alike arguments others

end

namespace ArgumentMap

variable {arguments others : ArgumentMap}

theorem lookup_eq_none_iff {name : String} :
    arguments.lookup name = none ↔ name ∉ arguments.map (·.1) := by
  rw [List.lookup_eq_none_iff, List.mem_map, not_exists]
  refine forall_congr' fun entry => ?_
  rw [bne_iff_ne, not_and, ne_comm]

/-- **Argument maps are alike if and only if what they have under each name is.** -/
theorem alike_iff_lookup :
    arguments.Alike others
      ↔ (arguments.map (·.1)).Nodup ∧ (others.map (·.1)).Nodup
        ∧ ∀ name, Option.Rel Argument.Alike (arguments.lookup name) (others.lookup name) := by
  constructor
  · rintro ⟨hnodup, hnames, harguments⟩
    refine ⟨hnodup, hnames.nodup_iff.1 hnodup, fun name => ?_⟩
    have hnone : arguments.lookup name = none ↔ others.lookup name = none := by
      rw [lookup_eq_none_iff, lookup_eq_none_iff, hnames.mem_iff]
    cases ha : arguments.lookup name with
    | none => rw [hnone.1 ha]; exact .none
    | some a =>
      obtain ⟨b, hb⟩ := Option.ne_none_iff_exists'.1 (mt hnone.2 (ha ▸ nofun))
      rw [hb]
      exact .some (harguments name a b ha hb)
  · rintro ⟨hnodup, hothers, h⟩
    refine .intro hnodup ((List.perm_ext_iff_of_nodup hnodup hothers).2 fun name => ?_)
      fun name a b ha hb => ?_
    · rw [← not_iff_not, ← lookup_eq_none_iff, ← lookup_eq_none_iff]
      exact eq_none_iff_of_rel (h name)
    · have halike := h name
      rw [ha, hb] at halike
      cases halike with
      | some halike => exact halike

/-- Of alike argument maps both are empty, or neither. -/
theorem Alike.isEmpty_eq (h : arguments.Alike others) : arguments.isEmpty = others.isEmpty := by
  cases h with
  | intro _ hnames _ => simpa only [List.isEmpty_map] using hnames.isEmpty_eq

/-- Arguments of other names may come before alike argument maps. -/
theorem Alike.append_left {base : ArgumentMap} (h : arguments.Alike others)
    (hbase : base.Alike base) (hnames : ∀ name ∈ arguments.map (·.1), name ∉ base.map (·.1)) :
    (base ++ arguments).Alike (base ++ others) := by
  have hothers : ∀ name ∈ others.map (·.1), name ∉ base.map (·.1) := by
    cases h with
    | intro _ hperm _ => exact fun name hname => hnames name (hperm.mem_iff.2 hname)
  obtain ⟨hnodup, hnodup', hlookup⟩ := alike_iff_lookup.1 h
  obtain ⟨hbase, -, hself⟩ := alike_iff_lookup.1 hbase
  have happend {more : ArgumentMap} (hmore : (more.map (·.1)).Nodup)
      (hnew : ∀ name ∈ more.map (·.1), name ∉ base.map (·.1)) :
      ((base ++ more).map (·.1)).Nodup := by
    rw [List.map_append]
    exact hbase.append hmore fun name hname hmem => hnew name hmem hname
  refine alike_iff_lookup.2 ⟨happend hnodup hnames, happend hnodup' hothers, fun name => ?_⟩
  rw [List.lookup_append, List.lookup_append]
  have halike := hself name
  cases hfound : base.lookup name with
  | none => simpa only [Option.none_or] using hlookup name
  | some a =>
    rw [hfound] at halike
    exact halike

end ArgumentMap

namespace Argument

/-- The arguments for the identity have no groups among them. -/
theorem alike_ofIdentity (path : String) : (ofIdentity path).Alike (ofIdentity path) := by
  have hnodup : ["id", "type"].Nodup := by decide
  refine .intro hnodup (.refl _) fun name a b ha hb => ?_
  obtain ⟨kind, -, rfl⟩ := lookup_ofIdentity_iff.1 ha
  cases ha.symm.trans hb
  exact .leaf ..

variable {path : String} {fields others : FieldMap}

/-- **Alike fields have alike arguments**, if the fields of their objects do. -/
theorem rel_ofField {f g : Field} (h : f.Alike g)
    (hinner : ∀ inner others : FieldMap, f.fields = some inner → inner.Alike others →
      g.fields = some others →
        (ofFields path inner).Alike (ofFields path others)) :
    Option.Rel Argument.Alike (ofField path f) (ofField path g) := by
  by_cases hobjects : holdsObjects f.type = true
  · rw [ofField_of_holdsObjects hobjects, ofField_of_holdsObjects (h.type_eq ▸ hobjects)]
    cases h with
    | plain hfields => rw [hfields]; exact .none
    | objects hfields halike =>
      have hgroup := hinner _ _ hfields halike rfl
      rw [hfields, Option.bind_some, Option.bind_some, ← hgroup.isEmpty_eq]
      split
      · exact .none
      · exact .some (.group path hgroup)
  · rw [ofField_of_not_holdsObjects hobjects, ofField_of_not_holdsObjects (h.type_eq ▸ hobjects),
      ← h.type_eq]
    split
    · exact .none
    · exact .some (.leaf ..)

/-- **Alike field maps have alike arguments.** -/
theorem alike_ofFields (h : fields.Alike others) (hfields : fields.IsTree)
    (hothers : others.IsTree) : (ofFields path fields).Alike (ofFields path others) := by
  induction hsize : sizeOf fields using Nat.strong_induction_on generalizing fields others path with
  | _ size ih =>
    refine ArgumentMap.alike_iff_lookup.2
      ⟨(names_ofFields_sublist path fields).nodup hfields.nodup,
        (names_ofFields_sublist path others).nodup hothers.nodup, fun name => ?_⟩
    rw [lookup_ofFields hfields.nodup, lookup_ofFields hothers.nodup]
    cases hf : fields.get? name with
    | none =>
      rw [FieldMap.get?_eq_none_iff.2 (mt h.mem_names_iff.2 (FieldMap.get?_eq_none_iff.1 hf))]
      exact .none
    | some f =>
      obtain ⟨g, hg⟩ : ∃ g, others.get? name = some g := by
        refine Option.ne_none_iff_exists'.1 fun hnone => ?_
        rw [FieldMap.get?_eq_none_iff.2 (mt h.mem_names_iff.1 (FieldMap.get?_eq_none_iff.1 hnone))]
          at hf
        cases hf
      rw [hg, Option.bind_some, Option.bind_some]
      refine rel_ofField (h.field hf hg) fun inner below hinner halike hbelow => ?_
      exact ih _ (hsize ▸ sizeOf_fields_lt (FieldMap.mem_of_get?_eq_some hf) hinner) halike
        (hfields.inner hf hinner) (hothers.inner hg hbelow) rfl

end Argument

namespace Inference

open Shape

/-- **Records of which nothing is left out**, if they are not too many, no column of
lists has too many items and all keys are texts. -/
theorem surveyed_of_hasTextKeys {records : List Value} (hlength : records.length ≤ sampleSize)
    (hkeys : ∀ v ∈ records, v.hasTextKeys = true)
    (hitems : ∀ sample, IsSample records sample → ∀ key ∈ keys (recordsOf sample),
      Column.container? (column key (recordsOf sample)) = some .lists →
        (Column.items (column key (recordsOf sample))).length ≤ sampleSize) :
    Surveyed records where
  length_le := hlength
  items_le := hitems
  isString_key sample hsample entries hentries key v hv := by
    have htext := hsample.hasTextKeys hkeys _ (mem_recordsOf_iff.1 hentries)
    exact (Value.hasTextKeys_map_iff.1 htext _ hv).1

/-- **The fields of nodes among no types are alike in every order.** -/
theorem alike_fieldsOfNodes_nil {nodes others : List Node} (hperm : nodes.Perm others)
    (hkeys : ∀ n ∈ nodes, (Value.map n.fields).hasTextKeys = true)
    (hsurveyed : Surveyed (nodeRecords nodes)) :
    FieldMap.Alike (fieldsOfNodes [] sampleSize nodes) (fieldsOfNodes [] sampleSize others) := by
  have hrecords : (nodeRecords nodes).Perm (nodeRecords others) := hperm.map _
  have horder : OrderFree (nodeRecords nodes) :=
    orderFree_of_isSample (fun v hv => hasTextKeys_of_mem_nodeRecords hkeys hv)
      fun sample hsample => hsample.length_le hsurveyed
  have halike := horder.2 _ hrecords
  rw [nestedFields_eq, nestedFields_eq] at halike
  rwa [fieldsOfNodes, fieldsOfNodes, fieldsOfRecords, fieldsOfRecords,
    columnsOf_eq horder.1, columnsOf_eq (hrecords.length_eq ▸ horder.1)]

/-- **The arguments of a look-up do not depend on the order of the nodes.** If there
are no more nodes than are looked at, no column of lists has more items than that,
at any depth, and all keys are texts, then nodes in two orders have alike arguments
below every path.

Nothing need be said of columns of objects: they have no more values than there are
records. -/
theorem alike_argumentsOfNodes (path : String) {nodes others : List Node}
    (hperm : nodes.Perm others) (hkeys : ∀ n ∈ nodes, (Value.map n.fields).hasTextKeys = true)
    (hlength : nodes.length ≤ sampleSize)
    (hitems : ∀ sample, IsSample (nodeRecords nodes) sample → ∀ key ∈ keys (recordsOf sample),
      Column.container? (column key (recordsOf sample)) = some .lists →
        (Column.items (column key (recordsOf sample))).length ≤ sampleSize) :
    (argumentsOfNodes path nodes).Alike (argumentsOfNodes path others) := by
  have hrecords : ∀ v ∈ nodeRecords nodes, v.hasTextKeys = true :=
    fun v hv => hasTextKeys_of_mem_nodeRecords hkeys hv
  have hsurveyed : Surveyed (nodeRecords nodes) :=
    surveyed_of_hasTextKeys (by rwa [nodeRecords, List.length_map]) hrecords hitems
  have htext : ∀ n ∈ nodes, ∀ entry ∈ n.fields, entry.1.isString = true :=
    fun n hn entry hentry => (Value.hasTextKeys_map_iff.1 (hkeys n hn) entry hentry).1
  rw [argumentsOfNodes_eq_append htext,
    argumentsOfNodes_eq_append fun n hn => htext n (hperm.mem_iff.2 hn)]
  exact (Argument.alike_ofFields (alike_fieldsOfNodes_nil hperm hkeys hsurveyed)
    isTree_fields isTree_fields).append_left (Argument.alike_ofIdentity path)
    fun name hname => not_mem_names_ofIdentity htext path hname

/-- Two articles have alike arguments in both orders, and not the same ones. -/
theorem articles_arguments_alike :
    [tagged, discussed].Perm [discussed, tagged]
      ∧ (∀ n ∈ [tagged, discussed], (Value.map n.fields).hasTextKeys = true)
      ∧ [tagged, discussed].length ≤ sampleSize
      ∧ (∀ sample, IsSample (nodeRecords [tagged, discussed]) sample →
          ∀ key ∈ keys (recordsOf sample),
            Column.container? (column key (recordsOf sample)) = some .lists →
              (Column.items (column key (recordsOf sample))).length ≤ sampleSize)
      ∧ (argumentsOfNodes "article" [tagged, discussed]).Alike
          (argumentsOfNodes "article" [discussed, tagged])
      ∧ (argumentsOfNodes "article" [tagged, discussed]).map (·.1)
          = ["id", "type", "author", "tags", "comments"]
      ∧ (argumentsOfNodes "article" [discussed, tagged]).map (·.1)
          = ["id", "type", "author", "comments", "tags"] := by
  have hperm : [tagged, discussed].Perm [discussed, tagged] := .swap ..
  have hkeys : ∀ n ∈ [tagged, discussed], (Value.map n.fields).hasTextKeys = true := by decide
  have hlength : [tagged, discussed].length ≤ sampleSize := by decide
  have hrecords : nodeRecords [tagged, discussed] = articles := by decide
  have hitems := fun sample (h : IsSample (nodeRecords [tagged, discussed]) sample) =>
    surveyed_articles.items_le sample (hrecords ▸ h)
  exact ⟨hperm, hkeys, hlength, hitems,
    alike_argumentsOfNodes "article" hperm hkeys hlength hitems, by decide +kernel,
    by decide +kernel⟩

end Inference

end ContentGraph
