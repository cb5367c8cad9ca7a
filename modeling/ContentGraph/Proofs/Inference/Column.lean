import ContentGraph.Inference.Column
import ContentGraph.Proofs.Schema.Describes
import ContentGraph.Proofs.Value.Equality

/-!
# What the classification of a column says of its values

A column is classified as a whole. Read value by value, it says that every
value of a column of lists is a list, of objects an object, and of scalars a
scalar; and that the kind of a column's class admits every value in it
(`Column.admits_of_mem`), whatever the column holds.
-/

namespace ContentGraph.Column

variable {values : List Value} {v : Value}

theorem isSequence_of_mem (h : container? values = some .lists) (hv : v ∈ values) :
    v.isSequence = true := by
  have hall : values.all Value.isSequence = true := by
    unfold container? at h
    grind
  exact List.all_eq_true.1 hall v hv

theorem isMap_of_mem (h : container? values = some .objects) (hv : v ∈ values) :
    v.isMap = true := by
  have hall : values.all Value.isMap = true := by
    unfold container? at h
    grind
  exact List.all_eq_true.1 hall v hv

theorem isScalar_of_mem (h : container? values = none) (hv : v ∈ values) : v.isScalar = true := by
  have hany : (values.any fun v => v.isSequence || v.isMap) = false := by
    unfold container? at h
    grind
  have hnot := Bool.eq_false_iff.2 (List.any_eq_false.1 hany v hv)
  rw [Value.isScalar, ← Bool.not_or, hnot]
  rfl

/-- A column of lists with at least one value is one of lists. -/
theorem container?_eq_lists (hne : values ≠ []) (h : ∀ v ∈ values, v.isSequence = true) :
    container? values = some .lists := by
  rw [container?, if_neg (by simpa using hne), if_pos (List.all_eq_true.2 h)]

/-- A column of maps with at least one value is one of objects. -/
theorem container?_eq_objects (hne : values ≠ []) (h : ∀ v ∈ values, v.isMap = true) :
    container? values = some .objects := by
  obtain ⟨first, hfirst⟩ := List.exists_mem_of_ne_nil _ hne
  -- Lists are looked for first, and no map is a list.
  have hnot : ¬ values.all Value.isSequence = true := by
    intro hall
    have hsequence := List.all_eq_true.1 hall first hfirst
    have hmap := h first hfirst
    cases first with
    | map entries => cases hsequence
    | _ => cases hmap
  rw [container?, if_neg (by simpa using hne), if_neg hnot, if_pos (List.all_eq_true.2 h)]

/-- A column of scalars has no containers. -/
theorem container?_eq_none (h : ∀ v ∈ values, v.isScalar = true) : container? values = none := by
  have hnot : ∀ v ∈ values, v.isSequence = false ∧ v.isMap = false := by
    simpa only [Value.isScalar, Bool.and_eq_true, Bool.not_eq_true'] using h
  cases values with
  | nil => rfl
  | cons first rest =>
    obtain ⟨hsequence, hmap⟩ := hnot first List.mem_cons_self
    have hany : (first :: rest).any (fun v => v.isSequence || v.isMap) = false :=
      List.any_eq_false.2 fun v hv => by rw [(hnot v hv).1, (hnot v hv).2]; decide
    rw [container?, List.isEmpty_cons, List.all_cons, hsequence, List.all_cons, hmap, hany]
    rfl

/-- **The kind of a column's class admits every value of the column.** -/
theorem admits_of_mem (hv : v ∈ values) : (scalarClass values).kind.Admits v := by
  have hall {p : Value → Bool} (h : values.all p = true) : p v = true :=
    List.all_eq_true.1 h v hv
  unfold scalarClass
  split
  · exact .json v
  split
  · next hstring =>
    have hs := hall hstring
    cases v with
    | string s =>
      split
      · next hdates =>
        rw [isDates, Bool.and_eq_true] at hdates
        exact .dateText (mem_line_of_isDateText (hall hdates.2))
      · exact .string s
    | _ => cases hs
  split
  · next hint =>
    have hn := hall hint
    cases v with
    | int n => exact .int n
    | _ => cases hn
  split
  · next hnumber =>
    have hx := hall hnumber
    cases v with
    | int n => exact .floatInt n
    | float x => exact .float x
    | _ => cases hx
  split
  · next hdecimal =>
    have hd := hall hdecimal
    cases v with
    | decimal d => exact .decimal d
    | _ => cases hd
  split
  · next hbool =>
    have hb := hall hbool
    cases v with
    | bool b => exact .boolean b
    | _ => cases hb
  split
  · next hdate =>
    have hd := hall hdate
    cases v with
    | date d => exact .date d
    | moment m => exact .moment m
    | _ => cases hd
  · exact .json v

end ContentGraph.Column
