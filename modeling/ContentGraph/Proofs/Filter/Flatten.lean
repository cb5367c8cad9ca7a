import ContentGraph.Filter.Condition

/-!
# What flattening a filter gives

`Filter.flatten` walks a nested filter and lists its conditions. Two views of
the filter say what the walk may do: `Filter.fieldNames` are the names of the
fields that the filter asks about, which are the keys above its leaves, and
`Filter.nested` is the filter with one condition at the end of a path.

The names on the path of a condition are names of fields
(`Filter.path_of_flattenValue`), so whatever is known of the names of a
filter is known of the paths of its conditions.
-/

namespace ContentGraph

/-- An operator is found under its own name only. -/
theorem Operator.eq_name_of_ofName? {name : String} {op : Operator} (h : ofName? name = some op) :
    name = op.name := by
  unfold ofName? at h
  have hname := List.find?_some h
  exact (beq_iff_eq.1 hname).symm

namespace Filter

theorem pathNames?_map (names : List String) :
    pathNames? (names.map .string) = some names := by
  induction names with
  | nil => rfl
  | cons s rest ih => rw [List.map_cons, pathNames?, ih]; rfl

/-- A path of texts has a dotted name. -/
theorem dotted_map (names : List String) :
    dotted (names.map .string) = .ok (joinWith "." names) := by
  rw [dotted, pathNames?_map]

/-! ## Leaves -/

/-- Whether the entries of a map are operators with their operands, at least
one of them. -/
def isLeaf (entries : Entries) : Bool := !entries.isEmpty && (operands? entries).isSome

/-- Whether a map is a leaf does not depend on the path that leads to it. -/
theorem leaf?_eq (path : List Value) (entries : Entries) :
    leaf? path entries
      = if isLeaf entries then
          some (((operands? entries).getD []).map fun (op, x) => ⟨path, op, x⟩)
        else none := by
  cases entries with
  | nil => rfl
  | cons entry rest =>
    unfold leaf? isLeaf
    cases operands? (entry :: rest) <;> rfl

theorem malformedAt_ne_ok {α : Type} (path : List Value) (value : Value) (a : α) :
    malformedAt path value ≠ .ok a := by
  unfold malformedAt
  cases dotted path <;> simp [Except.bind]

/-- A map is flattened in one of two ways, as a leaf or entry by entry. -/
theorem flattenValue_map {path : List Value} {entries : Entries} {conditions : List Condition}
    (h : flattenValue path (.map entries) = .ok conditions) :
    (isLeaf entries = true
        ∧ conditions = ((operands? entries).getD []).map fun (op, x) => ⟨path, op, x⟩)
      ∨ (isLeaf entries = false ∧ flattenEntries path entries = .ok conditions) := by
  rw [flattenValue, leaf?_eq] at h
  cases hl : isLeaf entries with
  | true =>
    rw [hl] at h
    exact Or.inl ⟨rfl, (Except.ok.inj h).symm⟩
  | false =>
    rw [hl] at h
    refine Or.inr ⟨rfl, ?_⟩
    cases he : entries.isEmpty with
    | true => exact absurd (by simpa [he] using h) (malformedAt_ne_ok _ _ _)
    | false => simpa [he] using h

/-- The conditions of entries are those of the first one and then those of
the others. -/
theorem flattenEntries_cons {path : List Value} {key value : Value}
    {rest : List (Value × Value)} {conditions : List Condition}
    (h : flattenEntries path ((key, value) :: rest) = .ok conditions) :
    ∃ here others, flattenValue (path ++ [key]) value = .ok here
      ∧ flattenEntries path rest = .ok others ∧ conditions = here ++ others := by
  rw [flattenEntries] at h
  cases hv : flattenValue (path ++ [key]) value with
  | error e => rw [hv] at h; cases h
  | ok here =>
    cases hr : flattenEntries path rest with
    | error e => rw [hv, hr] at h; cases h
    | ok others =>
      rw [hv, hr] at h
      exact ⟨here, others, rfl, rfl, (Except.ok.inj h).symm⟩

/-! ## Names of fields -/

mutual

/-- The names of the fields that the filter at some place asks about. The
keys of a leaf are operators and name no fields. -/
def fieldNames : Value → List Value
  | .map entries => if isLeaf entries then [] else fieldNamesOf entries
  | _ => []

/-- The names of the fields that the entries of a filter ask about. -/
def fieldNamesOf : List (Value × Value) → List Value
  | [] => []
  | (key, value) :: rest => key :: (fieldNames value ++ fieldNamesOf rest)

end

mutual

/-- The path of a condition goes on from where the flattening began through
names of fields. -/
theorem path_of_flattenValue : (value : Value) → {path : List Value} →
    {conditions : List Condition} → flattenValue path value = .ok conditions →
    ∀ c ∈ conditions, ∃ names, c.path = path ++ names ∧ ∀ name ∈ names, name ∈ fieldNames value
  | .map entries, path, conditions, h, c, hc => by
    rcases flattenValue_map h with ⟨-, rfl⟩ | ⟨hl, h'⟩
    · obtain ⟨pair, -, rfl⟩ := List.mem_map.1 hc
      exact ⟨[], (List.append_nil path).symm, fun name hn => absurd hn List.not_mem_nil⟩
    · obtain ⟨names, -, hp, hn⟩ := path_of_flattenEntries entries h' c hc
      exact ⟨names, hp, fun name hm => by rw [fieldNames, hl]; exact hn name hm⟩
  | .null, _, _, h, _, _ | .bool _, _, _, h, _, _ | .int _, _, _, h, _, _
  | .float _, _, _, h, _, _ | .decimal _, _, _, h, _, _ | .string _, _, _, h, _, _
  | .bytes _, _, _, h, _, _ | .date _, _, _, h, _, _ | .moment _, _, _, h, _, _
  | .list _, _, _, h, _, _ | .tuple _, _, _, h, _, _ => absurd h (malformedAt_ne_ok _ _ _)

/-- Below the entries of a map the path goes on by at least one name. -/
theorem path_of_flattenEntries : (entries : List (Value × Value)) → {path : List Value} →
    {conditions : List Condition} → flattenEntries path entries = .ok conditions →
    ∀ c ∈ conditions, ∃ names, names ≠ [] ∧ c.path = path ++ names
      ∧ ∀ name ∈ names, name ∈ fieldNamesOf entries
  | [], path, conditions, h, c, hc => by
    rw [flattenEntries, Except.ok.injEq] at h
    rw [← h] at hc
    exact absurd hc List.not_mem_nil
  | (key, value) :: rest, path, conditions, h, c, hc => by
    obtain ⟨here, others, hv, hr, rfl⟩ := flattenEntries_cons h
    rw [fieldNamesOf]
    rcases List.mem_append.1 hc with hc | hc
    · obtain ⟨names, hp, hn⟩ := path_of_flattenValue value hv c hc
      refine ⟨key :: names, List.cons_ne_nil _ _, by rw [hp, List.append_assoc]; rfl, ?_⟩
      intro name hm
      rcases List.mem_cons.1 hm with rfl | hm
      · exact List.mem_cons_self
      · exact List.mem_cons_of_mem _ (List.mem_append_left _ (hn name hm))
    · obtain ⟨names, hne, hp, hn⟩ := path_of_flattenEntries rest hr c hc
      exact ⟨names, hne, hp, fun name hm =>
        List.mem_cons_of_mem _ (List.mem_append_right _ (hn name hm))⟩

end

/-! ## A single condition -/

/-- The filter with one condition at the end of a path. -/
def nested (op : Operator) (operand : Value) : List String → Value
  | [] => .map [(.string op.name, operand)]
  | name :: rest => .map [(.string name, nested op operand rest)]

theorem ofName?_name (op : Operator) : Operator.ofName? op.name = some op := by
  cases op <;> decide

/-- Names that are no operators are gone through one by one, and the operator
at their end makes the condition. -/
theorem flattenValue_nested (op : Operator) (operand : Value) (path : List Value)
    (names : List String) (hnames : ∀ name ∈ names, Operator.ofName? name = none) :
    flattenValue path (nested op operand names)
      = .ok [⟨path ++ names.map .string, op, operand⟩] := by
  induction names generalizing path with
  | nil =>
    rw [nested, flattenValue, leaf?, operands?, operatorOfKey?, ofName?_name, List.map_nil,
      List.append_nil]
    rfl
  | cons name rest ih =>
    have hname : operatorOfKey? (.string name) = none := hnames name List.mem_cons_self
    have hrest := ih (path ++ [.string name]) fun k hk => hnames k (List.mem_cons_of_mem _ hk)
    rw [nested, flattenValue, leaf?, operands?, hname]
    show flattenEntries path [(.string name, nested op operand rest)] = _
    rw [flattenEntries, hrest, List.map_cons, List.append_assoc]
    rfl

/-- **A filter with one condition is flattened to it.** The first name may be
that of an operator, for a filter as a whole is no leaf. -/
theorem flatten_nested (op : Operator) (operand : Value) (name : String) {rest : List String}
    (hrest : ∀ name ∈ rest, Operator.ofName? name = none) :
    flatten (nested op operand (name :: rest))
      = .ok [⟨(name :: rest).map .string, op, operand⟩] := by
  show flattenEntries [] [(.string name, nested op operand rest)] = _
  rw [flattenEntries, flattenValue_nested op operand _ rest hrest]
  rfl

end Filter

end ContentGraph
