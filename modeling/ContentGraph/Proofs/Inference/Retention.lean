import ContentGraph.Proofs.Inference.Attribute
import ContentGraph.Proofs.Node.Attribute

/-!
# What an inferred field map retains

The fields of nodes are inferred from the first of them, and the fields of
nested objects from the first ones of each column of objects. So an attribute
of a node that is looked at can be lost all the same, if the object in which it
stands is not looked at.

`Inference.IsSeen` describes where this does not happen: from a record to a
scalar, through objects and through the items of lists of objects, each of
them among those that are looked at, as long as the columns on the way hold
nothing else. What is seen has a field at its path
(`Inference.exists_isFieldAt_of_isSeen`).

It is the second sampling that matters. A list of more objects than are looked
at hides the objects of all lists behind it, in however few nodes they stand
(`Inference.mail_lost`).
-/

namespace ContentGraph

namespace Inference

open Shape

/-- **A record of a sample shows a scalar at a path**: the names lead to it, and
every column on the way holds nothing but objects, or nothing but lists of
objects, of which the one that the path goes through is among the first. -/
inductive IsSeen : List Value → Entries → List String → Value → Prop
  /-- The scalar stands under a name. -/
  | here {sample : List Value} {entries : Entries} {name : String} {s : Value} :
      Entries.get? name entries = some s → s.isMissing = false → s.isScalar = true →
        IsSeen sample entries [name] s
  /-- The path goes through an object. -/
  | object {sample : List Value} {entries inner : Entries} {name : String}
      {path : List String} {s : Value} :
      Entries.get? name entries = some (.map inner) →
      (∀ v ∈ valuesOf name sample, v.isMap = true) →
      .map inner ∈ (valuesOf name sample).take sampleSize →
      IsSeen ((valuesOf name sample).take sampleSize) inner path s →
        IsSeen sample entries (name :: path) s
  /-- The path goes through an item of a list. -/
  | item {sample items : List Value} {entries inner : Entries} {v : Value} {name : String}
      {path : List String} {s : Value} :
      Entries.get? name entries = some v → v.items? = some items → .map inner ∈ items →
      (∀ w ∈ valuesOf name sample, w.isSequence = true) →
      (∀ w ∈ Column.items (valuesOf name sample), w.isMap = true) →
      .map inner ∈ (Column.items (valuesOf name sample)).take sampleSize →
      IsSeen ((Column.items (valuesOf name sample)).take sampleSize) inner path s →
        IsSeen sample entries (name :: path) s

/-- The fields of the objects in a column stand below the field of its name. -/
theorem isFieldAt_cons {targets : List LinkTarget} {sample objects : List Value} {name : String}
    {shape : Shape} (hkeys : ∀ v ∈ sample, v.hasTextKeys = true)
    (hshape : ofColumn (valuesOf name sample) = some shape)
    (hfields : (field targets name shape).fields = some (nestedFields [] (ofRecords objects)))
    {path : List String} {f : Field} (hf : (fields [] (ofRecords objects)).IsFieldAt path f) :
    (fields targets (ofRecords sample)).IsFieldAt (name :: path) f := by
  rw [nestedFields_eq] at hfields
  exact .inside (by rw [get?_fields_of_hasTextKeys hkeys, hshape, Option.map_some]) hfields hf

/-- **What a record shows has a field at its path**, whatever types there are
to link to. -/
theorem exists_isFieldAt (targets : List LinkTarget) {sample : List Value} {entries : Entries}
    {path : List String} {s : Value} (h : IsSeen sample entries path s)
    (hkeys : ∀ v ∈ sample, v.hasTextKeys = true) (hentries : entries ∈ recordsOf sample) :
    ∃ f, (fields targets (ofRecords sample)).IsFieldAt path f := by
  induction h generalizing targets with
  | @here sample entries name s hget hpresent hscalar =>
    rw [Value.isScalar, Bool.and_eq_true, Bool.not_eq_true'] at hscalar
    obtain ⟨shape, hshape⟩ :=
      exists_ofColumn (mem_valuesOf_iff.2 ⟨entries, hentries, hget, hpresent⟩) hscalar.1
    refine ⟨field targets name shape, .here ?_⟩
    rw [get?_fields_of_hasTextKeys hkeys, hshape, Option.map_some]
  | @object sample entries inner name path s hget hmaps hfirst _ ih =>
    have hobjects := Column.container?_eq_objects
      (List.ne_nil_of_mem (List.mem_of_mem_take hfirst)) hmaps
    obtain ⟨f, hf⟩ := ih [] (fun v hv => hasTextKeys_of_mem_column hkeys (List.mem_of_mem_take hv))
      (mem_recordsOf_iff.2 hfirst)
    exact ⟨f, isFieldAt_cons hkeys (ofColumn_of_objects hobjects) rfl hf⟩
  | @item sample items entries inner v name path s hget hitems hinner hlists hmaps hfirst _ ih =>
    have hpresent : v.isMissing = false := by
      cases v with
      | list _ | tuple _ => rfl
      | _ => cases hitems
    have hv : v ∈ valuesOf name sample := mem_valuesOf_iff.2 ⟨entries, hentries, hget, hpresent⟩
    have hlists := Column.container?_eq_lists (List.ne_nil_of_mem hv) hlists
    have hobjects := Column.container?_eq_objects
      (List.ne_nil_of_mem (List.mem_of_mem_take hfirst)) hmaps
    obtain ⟨f, hf⟩ := ih [] (fun w hw => hasTextKeys_of_mem_items
      (fun u hu => hasTextKeys_of_mem_column hkeys hu) (List.mem_of_mem_take hw))
      (mem_recordsOf_iff.2 hfirst)
    exact ⟨f, isFieldAt_cons hkeys (ofColumn_of_listsOfObjects hlists hobjects) rfl hf⟩

/-- The records of nodes have texts for keys if the nodes do. -/
theorem hasTextKeys_of_mem_nodeRecords {nodes : List Node}
    (h : ∀ n ∈ nodes, (Value.map n.fields).hasTextKeys = true) {v : Value}
    (hv : v ∈ nodeRecords nodes) : v.hasTextKeys = true := by
  obtain ⟨n, hn, rfl⟩ := List.mem_map.1 hv
  have hkeys := Value.hasTextKeys_map_iff.1 (h n hn)
  exact Value.hasTextKeys_map_iff.2 fun entry hentry => hkeys entry (List.mem_filter.1 hentry).1

/-- What a node shows at a path that begins with an attribute is what its record
shows. -/
theorem IsSeen.filter_isField {sample : List Value} {entries : Entries} {name : String}
    {path : List String} {s : Value} (h : IsSeen sample entries (name :: path) s)
    (hname : name ∉ Node.reservedNames) :
    IsSeen sample (entries.filter Node.isField) (name :: path) s := by
  cases h with
  | here hget hpresent hscalar =>
    exact .here (Node.get?_filter_isField hname entries ▸ hget) hpresent hscalar
  | object hget hmaps hfirst hinner =>
    exact .object (Node.get?_filter_isField hname entries ▸ hget) hmaps hfirst hinner
  | item hget hitems hitem hlists hmaps hfirst hinner =>
    exact .item (Node.get?_filter_isField hname entries ▸ hget) hitems hitem hlists hmaps hfirst
      hinner

/-- **No attribute of a node that is looked at is lost**, as long as the objects
on the way to it are looked at too. -/
theorem exists_isFieldAt_of_isSeen (targets : List LinkTarget) {nodes : List Node} {size : Nat}
    (hkeys : ∀ n ∈ nodes.take size, (Value.map n.fields).hasTextKeys = true) {n : Node}
    (hn : n ∈ nodes.take size) {name : String} (hname : name ∉ Node.reservedNames)
    {path : List String} {s : Value}
    (hseen : IsSeen (nodeRecords (nodes.take size)) n.fields (name :: path) s) :
    ∃ f, (fieldsOfNodes targets size nodes).IsFieldAt (name :: path) f := by
  rw [fieldsOfNodes, fieldsOfRecords, columnsOf_nodeRecords]
  refine exists_isFieldAt targets (hseen.filter_isField hname)
    (fun v hv => hasTextKeys_of_mem_nodeRecords hkeys hv) ?_
  rw [recordsOf_nodeRecords]
  exact List.mem_map_of_mem hn

/-- An essay by one author. -/
def essay : Node :=
  .ofFields "essay" "Essay"
    [(.string "meta", .map [(.string "authors", .list [.map [(.string "name", .string "Ada")]])])]

/-- The name of the author of an essay has a field. -/
theorem authorName_retained :
    IsSeen (nodeRecords ([essay].take 1)) essay.fields ["meta", "authors", "name"] (.string "Ada")
      ∧ ∃ f, (fieldsOfNodes [] 1 [essay]).IsFieldAt ["meta", "authors", "name"] f := by
  have hseen : IsSeen (nodeRecords ([essay].take 1)) essay.fields ["meta", "authors", "name"]
      (.string "Ada") :=
    .object rfl (by decide +kernel) (by decide +kernel)
      (.item rfl rfl List.mem_cons_self (by decide +kernel) (by decide +kernel)
        (by decide +kernel) (.here rfl rfl rfl))
  exact ⟨hseen, exists_isFieldAt_of_isSeen [] (by decide) List.mem_cons_self (by decide) hseen⟩

/-! ## Objects that are not looked at -/

/-- A comment that is signed. -/
def signedComment : Value := .map [(.string "by", .string "Ada")]

/-- A comment with an address. -/
def mailedComment : Value := .map [(.string "mail", .string "ada@example.org")]

/-- A post with as many comments as are looked at. -/
def crowded : Node :=
  .ofFields "crowded" "Post" [(.string "comments", .list (.replicate sampleSize signedComment))]

/-- A post with one comment. -/
def quiet : Node := .ofFields "quiet" "Post" [(.string "comments", .list [mailedComment])]

section Comments

variable {a b : Node} {xs ys : List Value}
  (ha : a.fields = [(.string "comments", .list xs)])
  (hb : b.fields = [(.string "comments", .list ys)])
include ha hb

/-- The comments on two posts stand in two lists. -/
theorem valuesOf_comments :
    valuesOf "comments" (nodeRecords [a, b]) = [.list xs, .list ys] := by
  rw [valuesOf, column_nodeRecords (by decide), List.map_cons, List.map_cons, Node.get, Node.get,
    Node.get?_of_not_reserved (by decide), Node.get?_of_not_reserved (by decide), ha, hb]
  rfl

variable (hmaps : ∀ v ∈ xs ++ ys, v.isMap = true)
include hmaps

/-- The items of the two lists are all comments. -/
theorem items_comments :
    Column.items (valuesOf "comments" (nodeRecords [a, b])) = xs ++ ys := by
  have hpresent : ∀ v ∈ xs ++ ys, (!v.isMissing) = true := by
    intro v hv
    have hmap := hmaps v hv
    cases v with
    | map entries => rfl
    | _ => cases hmap
  rw [valuesOf_comments ha hb, Column.items, List.flatMap_cons, List.flatMap_singleton]
  exact List.filter_eq_self.2 hpresent

/-- **The comments on two posts have the fields of the first of them.** -/
theorem get?_comments (hne : xs ++ ys ≠ []) {size : Nat} (hsize : 2 ≤ size) :
    (fieldsOfNodes [] size [a, b]).get? "comments"
      = some { type := .listOf .object
               fields := some (fields [] (ofRecords ((xs ++ ys).take sampleSize))) } := by
  have hitems := items_comments ha hb hmaps
  have hlists : Column.container? (valuesOf "comments" (nodeRecords [a, b])) = some .lists := by
    rw [valuesOf_comments ha hb]
    rfl
  have hshape := ofColumn_of_listsOfObjects hlists
    (hitems ▸ Column.container?_eq_objects hne hmaps)
  have htext : ∀ n ∈ [a, b], ∀ entry ∈ n.fields, entry.1.text = "comments" →
      entry.1 = .string "comments" := by
    intro n hn entry hentry _
    have hfields : entry = (.string "comments", .list xs)
        ∨ entry = (.string "comments", .list ys) := by
      rcases List.mem_pair.1 hn with rfl | rfl
      · exact Or.inl (List.mem_singleton.1 (ha ▸ hentry))
      · exact Or.inr (List.mem_singleton.1 (hb ▸ hentry))
    rcases hfields with rfl | rfl <;> rfl
  rw [get?_fieldsOfNodes (by decide) (by rwa [List.take_of_length_le hsize]),
    List.take_of_length_le hsize, ← column_nodeRecords (by decide), hshape, hitems,
    Option.map_some, field, nestedFields_eq]

end Comments

/-- The posts have texts for keys, and so have their comments. -/
theorem hasTextKeys_posts :
    ∀ n ∈ [crowded, quiet], (Value.map n.fields).hasTextKeys = true := by decide +kernel

/-- The comments on both posts are objects. -/
theorem isMap_comments :
    ∀ v ∈ List.replicate sampleSize signedComment ++ [mailedComment], v.isMap = true := by
  decide +kernel

/-- The comments that are signed have no address. -/
theorem get?_mail_of_signed :
    (fields [] (ofRecords (.replicate sampleSize signedComment))).get? "mail" = none := by
  have hkeys : ∀ v ∈ List.replicate sampleSize signedComment, v.hasTextKeys = true := by
    decide +kernel
  have hcolumn : valuesOf "mail" (.replicate sampleSize signedComment) = [] :=
    List.eq_nil_iff_forall_not_mem.2 fun v hv => by
      obtain ⟨entries, hentries, hget, -⟩ := mem_valuesOf_iff.1 hv
      cases List.eq_of_mem_replicate (mem_recordsOf_iff.1 hentries)
      cases hget
  rw [get?_fields_of_hasTextKeys hkeys, hcolumn, ofColumn_nil, Option.map_none]

/-- **The address of a comment is lost**: of two posts, both looked at, it stands
in a list of objects, as all comments do, but behind too many of them. -/
theorem mail_lost :
    (∀ n ∈ [crowded, quiet], (Value.map n.fields).hasTextKeys = true)
      ∧ quiet ∈ [crowded, quiet].take 2
      ∧ quiet.get "comments" = .list [.map [(.string "mail", .string "ada@example.org")]]
      ∧ (∀ v ∈ valuesOf "comments" (nodeRecords [crowded, quiet]), v.isSequence = true)
      ∧ (∀ item ∈ Column.items (valuesOf "comments" (nodeRecords [crowded, quiet])),
          item.isMap = true)
      ∧ ¬ ∃ f, (fieldsOfNodes [] 2 [crowded, quiet]).IsFieldAt ["comments", "mail"] f := by
  refine ⟨hasTextKeys_posts, by decide, rfl, ?_, ?_, ?_⟩
  · rw [valuesOf_comments rfl rfl]
    exact List.forall_mem_cons.2 ⟨rfl, List.forall_mem_singleton.2 rfl⟩
  · rw [items_comments rfl rfl isMap_comments]
    exact isMap_comments
  · rintro ⟨f, hf⟩
    have hcomments := get?_comments (a := crowded) (b := quiet) rfl rfl isMap_comments
      (List.append_ne_nil_of_right_ne_nil _ (List.cons_ne_nil _ _)) (Nat.le_refl 2)
    rw [List.take_left' List.length_replicate] at hcomments
    cases hf with
    | inside hget hfields hinner =>
      cases hcomments.symm.trans hget
      cases hfields
      cases hinner with
      | here hmail => cases get?_mail_of_signed.symm.trans hmail
      | inside _ _ hnone => cases hnone

end Inference

end ContentGraph
