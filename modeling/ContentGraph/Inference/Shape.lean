import ContentGraph.Inference.Column
import ContentGraph.Value.Display

/-!
# The shape of records

What a sample of records says about their structure, before any links are
looked for: for each column its shape, where objects have columns of their
own. `Shape.ofRecords` and `Shape.ofColumn` call each other on what is nested
in the records. The values of a column are parts of the records, which bounds
the recursion.
-/

namespace ContentGraph

/-- The largest number of records that are looked at. -/
def sampleSize : Nat := 500

/-- What a sample says about one column. -/
inductive Shape where
  /-- Scalars of a class, with the first of them. -/
  | scalar (cls : ScalarClass) (first : Value)
  /-- Lists of scalars of a class. -/
  | scalars (cls : ScalarClass)
  /-- Lists of values that are not all scalars and not all objects. -/
  | anything
  /-- Scalars, lists and objects in one column. -/
  | mixed
  /-- Objects with these columns. -/
  | object (columns : List (String × Shape))
  /-- Lists of objects with these columns. -/
  | objects (columns : List (String × Shape))

namespace Shape

/-- The records among some values, as their entries. -/
def recordsOf (sample : List Value) : List Entries := sample.filterMap Value.entries?

/-- The keys of entries that are not equal to one seen before. -/
def newKeys (seen : List Value) : Entries → List Value
  | [] => seen
  | (key, _) :: rest =>
    if key.memberOf seen then newKeys seen rest else newKeys (seen ++ [key]) rest

/-- The keys of some records, each one where it is first met. -/
def keys (records : List Entries) : List Value := records.foldl newKeys []

/-- The values that are present under a key, in the order of the records. -/
def column (key : Value) (records : List Entries) : List Value :=
  Column.present (records.filterMap (Entries.find? key))

theorem sizeOf_find?_lt {key v : Value} {entries : Entries}
    (h : Entries.find? key entries = some v) : sizeOf v < sizeOf (Value.map entries) := by
  obtain ⟨entry, he, rfl⟩ := Option.map_eq_some_iff.1 h
  have hm := List.sizeOf_lt_of_mem (List.mem_of_find?_eq_some he)
  obtain ⟨k, w⟩ := entry
  simp only [Prod.mk.sizeOf_spec, Value.map.sizeOf_spec] at hm ⊢
  omega

theorem sizeOf_present_le (values : List Value) :
    sizeOf (Column.present values) ≤ sizeOf values := by
  induction values with
  | nil => simp [Column.present]
  | cons v rest ih =>
    unfold Column.present at ih ⊢
    by_cases hv : v.isMissing <;> simp [hv] <;> omega

theorem sizeOf_values_le (key : Value) (sample : List Value) :
    sizeOf ((recordsOf sample).filterMap (Entries.find? key)) ≤ sizeOf sample
      ∧ ((recordsOf sample).filterMap (Entries.find? key) ≠ [] →
        sizeOf ((recordsOf sample).filterMap (Entries.find? key)) < sizeOf sample) := by
  induction sample with
  | nil => simp [recordsOf]
  | cons v rest ih =>
    unfold recordsOf at ih ⊢
    cases hv : v.entries? with
    | none =>
      simp only [List.filterMap_cons, hv, List.cons.sizeOf_spec]
      omega
    | some entries =>
      obtain rfl : v = .map entries := by
        cases v <;> simp_all [Value.entries?]
      cases hf : Entries.find? key entries with
      | none =>
        simp only [List.filterMap_cons, hv, hf, List.cons.sizeOf_spec]
        omega
      | some w =>
        have hlt := sizeOf_find?_lt hf
        simp only [List.filterMap_cons, hv, hf, List.cons.sizeOf_spec]
        omega

theorem sizeOf_column_lt {key : Value} {sample : List Value}
    (h : column key (recordsOf sample) ≠ []) :
    sizeOf (column key (recordsOf sample)) < sizeOf sample := by
  have hne : (recordsOf sample).filterMap (Entries.find? key) ≠ [] := by
    intro he
    exact h (by simp [column, he, Column.present])
  exact Nat.lt_of_le_of_lt (sizeOf_present_le _) ((sizeOf_values_le key sample).2 hne)

theorem sizeOf_append_values (a b : List Value) : sizeOf (a ++ b) + 1 = sizeOf a + sizeOf b := by
  induction a with
  | nil => simp; omega
  | cons v rest ih => simp only [List.cons_append, List.cons.sizeOf_spec]; omega

theorem sizeOf_itemsOf_le (v : Value) : sizeOf (v.items?.getD []) ≤ sizeOf v := by
  cases v <;> simp [Value.items?]

theorem sizeOf_items_le (values : List Value) :
    sizeOf (Column.items values) ≤ sizeOf values := by
  refine Nat.le_trans (sizeOf_present_le _) ?_
  induction values with
  | nil => simp
  | cons v rest ih =>
    have happ := sizeOf_append_values (v.items?.getD []) (rest.flatMap fun w => w.items?.getD [])
    have hv := sizeOf_itemsOf_le v
    simp only [List.flatMap_cons, List.cons.sizeOf_spec]
    omega

theorem sizeOf_take_le (n : Nat) (values : List Value) :
    sizeOf (values.take n) ≤ sizeOf values := by
  induction values generalizing n with
  | nil => simp
  | cons v rest ih =>
    cases n with
    | zero => simp; omega
    | succ n =>
      have := ih n
      simp only [List.take_succ_cons, List.cons.sizeOf_spec]
      omega

mutual

/-- The shapes of the columns of a sample, by name. Columns without a value
have none. -/
def ofRecords (sample : List Value) : List (String × Shape) :=
  (keys (recordsOf sample)).filterMap fun key =>
    if h : column key (recordsOf sample) = [] then none
    else
      have := sizeOf_column_lt h
      (ofColumn (column key (recordsOf sample))).map fun shape => (key.text, shape)
termination_by 2 * sizeOf sample
decreasing_by omega

/-- The shape of a column. Lists without a single item have none. -/
def ofColumn (values : List Value) : Option Shape :=
  match Column.container? values with
  | some .objects => some (.object (ofRecords (values.take sampleSize)))
  | some .lists =>
    if Column.items values = [] then none
    else
      match Column.container? (Column.items values) with
      | some .objects => some (.objects (ofRecords ((Column.items values).take sampleSize)))
      | some _ => some .anything
      | none => some (.scalars (Column.scalarClass (Column.items values)))
  | some .mixed => some .mixed
  | none =>
    match values with
    | [] => none
    | first :: _ => some (.scalar (Column.scalarClass values) first)
termination_by 2 * sizeOf values + 1
decreasing_by
  · have := sizeOf_take_le sampleSize values
    omega
  · have := sizeOf_take_le sampleSize (Column.items values)
    have := sizeOf_items_le values
    omega

end

end Shape

end ContentGraph
