import ContentGraph.Value.Display

/-!
# Values with texts for keys

The keys of maps are values of any kind, and fields are named by how keys are
written. Two keys may be written alike and differ, or be equal and be written
differently; a text does neither. So what is said of the names of fields is said
of values whose maps have nothing but texts for keys, at every depth
(`Value.hasTextKeys`).
-/

namespace ContentGraph.Value

/-- A text is written as itself. -/
theorem eq_string_text {v : Value} (h : v.isString = true) : v = .string v.text := by
  cases v with
  | string s => rfl
  | _ => cases h

/-- Texts are the texts that they are written as. -/
theorem map_string_text {values : List Value} (h : ∀ v ∈ values, v.isString = true) :
    (values.map text).map string = values := by
  induction values with
  | nil => rfl
  | cons v rest ih =>
    obtain ⟨hv, hrest⟩ := List.forall_mem_cons.1 h
    rw [List.map_cons, List.map_cons, ih hrest, ← eq_string_text hv]

mutual

/-- Whether all keys of the maps in a value are texts. -/
def hasTextKeys : Value → Bool
  | .list items => allHaveTextKeys items
  | .tuple items => allHaveTextKeys items
  | .map entries => entriesHaveTextKeys entries
  | _ => true

/-- Whether all keys of the maps in some values are texts. -/
def allHaveTextKeys : List Value → Bool
  | [] => true
  | v :: rest => hasTextKeys v && allHaveTextKeys rest

/-- Whether the keys of some entries are texts, and so are all keys of the maps
in their values. -/
def entriesHaveTextKeys : List (Value × Value) → Bool
  | [] => true
  | (key, v) :: rest => key.isString && hasTextKeys v && entriesHaveTextKeys rest

end

theorem allHaveTextKeys_iff {items : List Value} :
    allHaveTextKeys items = true ↔ ∀ item ∈ items, item.hasTextKeys = true := by
  induction items with
  | nil => exact iff_of_true rfl nofun
  | cons item rest ih => rw [allHaveTextKeys, Bool.and_eq_true, List.forall_mem_cons, ih]

theorem hasTextKeys_map_iff {entries : Entries} :
    (map entries).hasTextKeys = true
      ↔ ∀ entry ∈ entries, entry.1.isString = true ∧ entry.2.hasTextKeys = true := by
  rw [hasTextKeys]
  induction entries with
  | nil => exact iff_of_true rfl nofun
  | cons entry rest ih =>
    obtain ⟨key, v⟩ := entry
    rw [entriesHaveTextKeys, Bool.and_eq_true, Bool.and_eq_true, List.forall_mem_cons, ih]

/-- The items of a list with texts for keys have texts for keys. -/
theorem hasTextKeys_of_mem_items {v item : Value} {items : List Value}
    (h : v.hasTextKeys = true) (hitems : v.items? = some items) (hitem : item ∈ items) :
    item.hasTextKeys = true := by
  cases v with
  | list _ | tuple _ =>
    cases hitems
    rw [hasTextKeys] at h
    exact allHaveTextKeys_iff.1 h item hitem
  | _ => cases hitems

end ContentGraph.Value
