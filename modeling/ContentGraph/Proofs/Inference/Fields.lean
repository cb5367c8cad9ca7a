import ContentGraph.Inference.Fields
import ContentGraph.Proofs.Inference.Shape
import ContentGraph.Proofs.Schema.Field
import ContentGraph.Proofs.Schema.Merge
import Mathlib.Data.List.Find
import Mathlib.Data.List.Nodup

/-!
# Inferred fields and the types they link to

Inference is given a list of types, in whatever order they happen to be
finished. All that it does with the list is to look types up by their names,
so the fields depend on nothing but what is found (`Shape.fields_congr`); and
where no name stands twice, that does not depend on the order
(`LinkTarget.find?_of_perm`).

A link has one of two reasons, the end of the column's name or a first value
that names a file (`Shape.link?_eq_some_iff`), and only columns at the top are
links at all.
-/

namespace ContentGraph

/-! ## Looking types up -/

/-- Where no key stands twice, what is found under a key does not depend on
the order. -/
theorem find?_eq_of_perm {α β : Type} [DecidableEq β] {key : α → β} {entries others : List α}
    (h : entries.Perm others) (hnodup : (entries.map key).Nodup) (b : β) :
    entries.find? (fun a => key a == b) = others.find? fun a => key a == b := by
  refine List.find?_eq_find?_of_perm h ?_
  rintro a ⟨ha, hab⟩ a' ⟨ha', hab'⟩
  exact List.inj_on_of_nodup_map hnodup ha ha'
    ((beq_iff_eq.1 hab).trans (beq_iff_eq.1 hab').symm)

namespace LinkTarget

/-- A type that is found has the name that was asked for. -/
theorem name_of_find? {targets : List LinkTarget} {name : String} {t : LinkTarget}
    (h : find? targets name = some t) : t.name = name := by
  obtain ⟨h, -⟩ := Option.filter_eq_some_iff.1 h
  simpa only [beq_iff_eq] using List.find?_some h

/-- **Where no name stands twice, the order of the types does not matter.** -/
theorem find?_of_perm {targets others : List LinkTarget} (h : targets.Perm others)
    (hnodup : (targets.map (·.name)).Nodup) (name : String) :
    find? targets name = find? others name :=
  congrArg (Option.filter _) (find?_eq_of_perm h hnodup name)

end LinkTarget

namespace Shape

variable {targets others : List LinkTarget} {name : String}

/-! ## Links -/

/-- **A column asks for a link to a type**: its name ends in the type, or it
ends in none, the column holds texts of which the first names a file, and the
type is that of files. -/
def AsksFor (name : String) (cls : ScalarClass) (first : Value) (type : String) : Prop :=
  (Text.typeSuffix? name).map Text.capitalize = some type
    ∨ Text.typeSuffix? name = none ∧ cls = .string ∧ isFileLink first = true ∧ type = fileType

theorem map_linkTo_eq_some_iff {type : String} {f : Field} :
    (LinkTarget.find? targets type).map (fun t => linkTo t.name) = some f
      ↔ (LinkTarget.find? targets type).isSome = true ∧ f = linkTo type := by
  cases hfind : LinkTarget.find? targets type with
  | none => exact ⟨fun h => (nomatch h), fun h => (nomatch h.1)⟩
  | some t =>
    rw [Option.map_some, Option.some.injEq, LinkTarget.name_of_find? hfind]
    exact ⟨fun h => ⟨rfl, h.symm⟩, fun h => h.2.symm⟩

/-- **A column is a link if and only if the type that it asks for is found.** -/
theorem link?_eq_some_iff {cls : ScalarClass} {first : Value} {f : Field} :
    link? targets name cls first = some f
      ↔ ∃ type, AsksFor name cls first type ∧ (LinkTarget.find? targets type).isSome = true
        ∧ f = linkTo type := by
  unfold link? AsksFor
  cases hsuffix : Text.typeSuffix? name with
  | some suffix =>
    simp only [map_linkTo_eq_some_iff]
    constructor
    · exact fun h => ⟨_, Or.inl rfl, h⟩
    · rintro ⟨type, htype | ⟨hnone, -⟩, h⟩
      · rwa [Option.some.inj htype]
      · cases hnone
  | none =>
    by_cases hfile : cls = .string ∧ isFileLink first = true
    · rw [if_pos hfile, map_linkTo_eq_some_iff]
      constructor
      · exact fun h => ⟨_, Or.inr ⟨rfl, hfile.1, hfile.2, rfl⟩, h⟩
      · rintro ⟨type, htype | ⟨-, -, -, rfl⟩, h⟩
        · cases htype
        · exact h
    · rw [if_neg hfile]
      constructor
      · exact fun h => (nomatch h)
      · rintro ⟨type, htype | ⟨-, hcls, hfirst, -⟩, -⟩
        · cases htype
        · exact absurd ⟨hcls, hfirst⟩ hfile

/-! ## Fields of columns -/

/-- The objects in a field of scalars have no fields, for there are none. -/
theorem fields_field_scalar (cls : ScalarClass) (first : Value) :
    (field targets name (.scalar cls first)).fields = none := by
  rw [field]
  cases hlink : link? targets name cls first with
  | none => rfl
  | some f =>
    obtain ⟨type, -, -, rfl⟩ := link?_eq_some_iff.1 hlink
    rfl

/-- **Only a column of scalars that asks for a type is a link**, and the link
is to that type. -/
theorem exists_asksFor_of_kind_eq_node {shape : Shape}
    (h : (field targets name shape).type.kind = .node) :
    ∃ cls first type, shape = .scalar cls first ∧ AsksFor name cls first type
      ∧ field targets name shape = linkTo type := by
  cases shape with
  | scalar cls first =>
    cases hlink : link? targets name cls first with
    | none =>
      have hplain : field targets name (.scalar cls first) = plain cls := by
        rw [field, hlink, Option.getD_none]
      rw [hplain] at h
      cases cls <;> cases h
    | some f =>
      obtain ⟨type, hasks, -, rfl⟩ := link?_eq_some_iff.1 hlink
      exact ⟨cls, first, type, rfl, hasks, by rw [field, hlink, Option.getD_some]⟩
  | _ => cases h

section Congr

variable (h : ∀ type, LinkTarget.find? targets type = LinkTarget.find? others type)
include h

theorem field_congr (name : String) (shape : Shape) :
    field targets name shape = field others name shape := by
  cases shape with
  | scalar cls first =>
    have hlink : link? targets name cls first = link? others name cls first := by
      unfold link?
      simp only [h]
    rw [field, field, hlink]
  | _ => rfl

/-- **The fields depend on the types only by what is found among them.** -/
theorem fields_congr (columns : List (String × Shape)) :
    fields targets columns = fields others columns := by
  unfold fields
  refine congrArg FieldMap.ofList (List.map_congr_left fun entry _ => ?_)
  exact congrArg (Prod.mk entry.1) (field_congr h entry.1 entry.2)

end Congr

/-- A field of columns is that of one of them. -/
theorem exists_of_mem_fields {columns : List (String × Shape)} {f : Field}
    (h : (name, f) ∈ fields targets columns) :
    ∃ shape, (name, shape) ∈ columns ∧ f = field targets name shape := by
  obtain ⟨⟨n, shape⟩, hmem, heq⟩ := List.mem_map.1 (FieldMap.mem_ofList h)
  cases heq
  exact ⟨shape, hmem, rfl⟩

/-- **The field of a name is that of its shape**, if it has at most one. -/
theorem get?_fields {columns : List (String × Shape)} {found : Option Shape}
    (h : ∀ {shape}, (name, shape) ∈ columns ↔ found = some shape) :
    (fields targets columns).get? name = found.map (field targets name) := by
  cases found with
  | none =>
    refine FieldMap.get?_eq_none_iff.2 fun hname => ?_
    obtain ⟨⟨n, f⟩, hf, rfl⟩ := List.mem_map.1 hname
    obtain ⟨shape, hshape, -⟩ := exists_of_mem_fields hf
    cases h.1 hshape
  | some shape =>
    have hfield {g : Field} (hg : (name, g) ∈ fields targets columns) :
        g = field targets name shape := by
      obtain ⟨other, hother, rfl⟩ := exists_of_mem_fields hg
      rw [Option.some.inj (h.1 hother)]
    refine FieldMap.get?_eq_some_of_mem_iff fun g => ⟨hfield, ?_⟩
    rintro rfl
    -- There is a field of the name, and it is no other.
    have hname : name ∈ (fields targets columns).names :=
      FieldMap.mem_names_ofList.2 (List.mem_map.2 ⟨_, List.mem_map_of_mem (h.2 rfl), rfl⟩)
    obtain ⟨⟨_, g⟩, hg, rfl⟩ := List.mem_map.1 hname
    exact hfield hg ▸ hg

/-- **The field of a name in a sample is that of its column**, if no other key
is written like it. -/
theorem get?_fields_ofRecords {sample : List Value}
    (h : ∀ entries ∈ recordsOf sample, ∀ key v, (key, v) ∈ entries → key.text = name →
      key = .string name) :
    (fields targets (ofRecords sample)).get? name
      = (ofColumn (valuesOf name sample)).map (field targets name) :=
  get?_fields (mem_ofRecords_iff_of_text h)

/-- With texts for keys, the field of every name is that of its column. -/
theorem get?_fields_of_hasTextKeys {sample : List Value}
    (h : ∀ v ∈ sample, v.hasTextKeys = true) :
    (fields targets (ofRecords sample)).get? name
      = (ofColumn (valuesOf name sample)).map (field targets name) :=
  get?_fields_ofRecords fun _ hentries _ _ hv => eq_string_of_text h hentries hv

/-- The fields of nested objects are inferred among no types. -/
theorem nestedFields_eq (columns : List (String × Shape)) :
    nestedFields [] columns = fields [] columns := by
  have hall : ∀ written, nestedFields written columns
      = FieldMap.update written
          (columns.map fun column => (column.1, field [] column.1 column.2)) := by
    induction columns with
    | nil => exact fun _ => rfl
    | cons column rest ih =>
      obtain ⟨n, shape⟩ := column
      exact fun _ => ih _
  exact hall []

/-- A field of nested objects is that of one of their columns, among no types
to link to. -/
theorem exists_of_mem_nestedFields {columns : List (String × Shape)} {f : Field}
    (h : (name, f) ∈ nestedFields [] columns) :
    ∃ shape, (name, shape) ∈ columns ∧ f = field [] name shape :=
  exists_of_mem_fields (nestedFields_eq columns ▸ h)

end Shape

end ContentGraph
