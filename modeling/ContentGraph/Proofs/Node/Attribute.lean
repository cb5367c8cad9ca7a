import ContentGraph.Node
import ContentGraph.Proofs.Value.Equality

/-!
# Attributes and fields

What a node has under a name that is not reserved is a field, and the fields of
a record are what is left of it without the reserved names. Taking them changes
nothing for any other key (`Node.find?_filter_isField`).

Most of what is said of nodes is said of their fields. A node for which
nothing else matters is given by its identity and its fields.
-/

namespace ContentGraph

/-- The node with an identifier, a type and fields, and nothing known of its
place in the hierarchy. -/
def Node.ofFields (id type : String) (fields : Entries)
    (hid : id.isEmpty = false := by exact Eq.refl false)
    (htype : type.isEmpty = false := by exact Eq.refl false) : Node :=
  { id, type, parent := .null, children := [], path := .null, sourceNodeId := .null, fields
    id_ne_empty := mt String.isEmpty_iff.2 (Bool.eq_false_iff.1 hid)
    type_ne_empty := mt String.isEmpty_iff.2 (Bool.eq_false_iff.1 htype) }

/-- Entries under other keys have no influence on what is found under a key. -/
theorem Entries.find?_filter {key : Value} {p : Value × Value → Bool} {entries : Entries}
    (h : ∀ entry ∈ entries, entry.1.eq key = true → p entry = true) :
    Entries.find? key (entries.filter p) = Entries.find? key entries := by
  unfold Entries.find?
  induction entries with
  | nil => rfl
  | cons entry rest ih =>
    obtain ⟨hentry, hrest⟩ := List.forall_mem_cons.1 h
    cases hkey : entry.1.eq key with
    | true => simp [hentry hkey, hkey]
    | false =>
      rw [List.filter_cons, List.find?_cons, hkey, ← ih hrest]
      split
      · rw [List.find?_cons, hkey]
      · rfl

namespace Node

variable {name : String}

theorem isField_string (hname : name ∉ reservedNames) (v : Value) :
    isField (.string name, v) = true := by
  show (!reservedNames.contains name) = true
  rw [Bool.not_eq_true', ← Bool.not_eq_true, List.contains_iff_mem]
  exact hname

theorem isField_of_reserved (hname : name ∈ reservedNames) (v : Value) :
    isField (.string name, v) = false := by
  show (!reservedNames.contains name) = false
  rw [List.contains_iff_mem.2 hname]
  rfl

/-- What is no field has a reserved name. -/
theorem exists_name_of_isField_eq_false {entry : Value × Value} (h : isField entry = false) :
    ∃ name ∈ reservedNames, entry.1 = .string name := by
  obtain ⟨key, v⟩ := entry
  cases key with
  | string name =>
    refine ⟨name, ?_, rfl⟩
    exact Decidable.byContradiction fun hname => Bool.eq_false_iff.1 h (isField_string hname v)
  | _ => cases h

/-- **Only reserved names are lost when the fields are taken.** -/
theorem find?_filter_isField {key : Value} (hkey : ∀ name ∈ reservedNames, key ≠ .string name)
    (entries : Entries) :
    Entries.find? key (entries.filter isField) = Entries.find? key entries := by
  refine Entries.find?_filter fun entry _ heq => Bool.of_not_eq_false fun hfield => ?_
  obtain ⟨name, hname, hentry⟩ := exists_name_of_isField_eq_false hfield
  rw [hentry, Value.string_eq_iff] at heq
  exact hkey name hname heq

theorem get?_filter_isField (hname : name ∉ reservedNames) (entries : Entries) :
    Entries.get? name (entries.filter isField) = Entries.get? name entries := by
  rw [← Entries.find?_string, ← Entries.find?_string]
  refine find?_filter_isField (fun reserved hreserved heq => hname ?_) entries
  rwa [Value.string.inj heq]

theorem get?_of_not_reserved (hname : name ∉ reservedNames) (n : Node) :
    n.get? name = Entries.get? name n.fields := by
  simp only [reservedNames, List.mem_cons, List.not_mem_nil, or_false, not_or] at hname
  simp only [get?, hname, if_false]

end Node

end ContentGraph
