import ContentGraph.Proofs.Filter.Flatten
import ContentGraph.Proofs.Value.TextKeys

/-!
# Which filters are accepted

Flattening goes down into a filter and meets values on its way
(`Filter.metIn`). It passes through maps with entries, ends at leaves, and
stumbles over everything else. So the values that it meets decide what it comes
to (`Filter.comesTo_flattenEntries`): an error that reports the first of them
that is out of place, or conditions.

A filter without such a value is built from leaves in two steps, and so are its
conditions (`Filter.Accepted`). The path that leads to a filter does not matter:
the conditions found there are those of the filter by itself, below the path
(`Filter.accepted_of_flattenEntries`). What is said of the conditions of a filter
is proved by induction on this, without another look at how they are found.
-/

namespace ContentGraph

/-- A condition that is made on what lies below a path. -/
def Condition.below (path : List Value) (c : Condition) : Condition :=
  { c with path := path ++ c.path }

theorem Condition.below_append (p q : List Value) (c : Condition) :
    c.below (p ++ q) = (c.below q).below p := by
  unfold below
  rw [List.append_assoc]

namespace Filter

/-! ## What flattening meets -/

/-- A map that is not empty. -/
def hasEntries : Value → Bool
  | .map entries => !entries.isEmpty
  | _ => false

mutual

/-- **The values that flattening meets** at some place: the value there and, if
it is no leaf, those below it. -/
def met : Value → List Value
  | .map entries => .map entries :: (if isLeaf entries then [] else metIn entries)
  | value => [value]

/-- The values that flattening meets in the entries of a map. -/
def metIn : List (Value × Value) → List Value
  | [] => []
  | (_, value) :: rest => met value ++ metIn rest

end

/-- The first of some values that is no map with entries. -/
def firstMalformed? (values : List Value) : Option Value :=
  values.find? fun value => !hasEntries value

theorem firstMalformed?_append (values others : List Value) :
    firstMalformed? (values ++ others) = (firstMalformed? values).or (firstMalformed? others) :=
  List.find?_append

theorem firstMalformed?_eq_none_iff {values : List Value} :
    firstMalformed? values = none ↔ ∀ value ∈ values, hasEntries value = true := by
  rw [firstMalformed?, List.find?_eq_none]
  simp only [Bool.not_eq_true', Bool.not_eq_false]

/-- **What flattening comes to** with the values that it meets: an error that
reports the first of them that is out of place, or else conditions. -/
def ComesTo (values : List Value) (result : Except FilterError (List Condition)) : Prop :=
  match firstMalformed? values with
  | some value => ∃ path, result = .error (.malformed path value)
  | none => ∃ conditions, result = .ok conditions

section ComesTo

variable {values : List Value}

theorem comesTo_error (path : String) {value : Value} (h : firstMalformed? values = some value) :
    ComesTo values (.error (.malformed path value)) := by
  rw [ComesTo, h]
  exact ⟨path, rfl⟩

theorem comesTo_ok (conditions : List Condition) (h : firstMalformed? values = none) :
    ComesTo values (.ok conditions) := by
  rw [ComesTo, h]
  exact ⟨conditions, rfl⟩

theorem ComesTo.cases {result : Except FilterError (List Condition)} (h : ComesTo values result) :
    (∃ path value, firstMalformed? values = some value ∧ result = .error (.malformed path value))
      ∨ ∃ conditions, firstMalformed? values = none ∧ result = .ok conditions := by
  unfold ComesTo at h
  cases hfirst : firstMalformed? values with
  | some value =>
    rw [hfirst] at h
    obtain ⟨path, hpath⟩ := h
    exact Or.inl ⟨path, value, rfl, hpath⟩
  | none =>
    rw [hfirst] at h
    obtain ⟨conditions, hconditions⟩ := h
    exact Or.inr ⟨conditions, rfl, hconditions⟩

end ComesTo

/-- A value out of place is reported, under a path of texts. -/
theorem comesTo_malformedAt {path : List Value} (hpath : ∀ name ∈ path, name.isString = true)
    {value : Value} (hvalue : hasEntries value = false) (others : List Value) :
    ComesTo (value :: others) (malformedAt path value) := by
  have hname := dotted_map (path.map Value.text)
  rw [Value.map_string_text hpath] at hname
  rw [malformedAt, hname]
  refine comesTo_error _ ?_
  rw [firstMalformed?, List.find?_cons, hvalue]
  rfl

mutual

theorem comesTo_flattenValue : (value : Value) → {path : List Value} →
    (∀ name ∈ path, name.isString = true) →
    (∀ name ∈ fieldNames value, name.isString = true) →
    ComesTo (met value) (flattenValue path value)
  | .map entries, path, hpath, hnames => by
    rw [flattenValue, leaf?_eq, met]
    cases hl : isLeaf entries with
    | true =>
      refine comesTo_ok _ ?_
      cases entries with
      | nil => cases hl
      | cons entry rest => rfl
    | false =>
      cases entries with
      | nil => exact comesTo_malformedAt hpath rfl _
      | cons entry rest =>
        rw [fieldNames, hl] at hnames
        exact comesTo_flattenEntries (entry :: rest) hpath hnames
  | .null, _, hpath, _ | .bool _, _, hpath, _ | .int _, _, hpath, _ | .float _, _, hpath, _
  | .decimal _, _, hpath, _ | .string _, _, hpath, _ | .bytes _, _, hpath, _
  | .date _, _, hpath, _ | .moment _, _, hpath, _ | .list _, _, hpath, _
  | .tuple _, _, hpath, _ => comesTo_malformedAt hpath rfl _

/-- **The values met decide what flattening comes to**, as long as fields are
named by texts. -/
theorem comesTo_flattenEntries : (entries : List (Value × Value)) → {path : List Value} →
    (∀ name ∈ path, name.isString = true) →
    (∀ name ∈ fieldNamesOf entries, name.isString = true) →
    ComesTo (metIn entries) (flattenEntries path entries)
  | [], _, _, _ => comesTo_ok [] rfl
  | (key, value) :: rest, path, hpath, hnames => by
    rw [fieldNamesOf, List.forall_mem_cons, List.forall_mem_append] at hnames
    obtain ⟨hkey, hvalue, hrest⟩ := hnames
    have hpath' : ∀ name ∈ path ++ [key], name.isString = true :=
      List.forall_mem_append.2 ⟨hpath, List.forall_mem_singleton.2 hkey⟩
    rw [flattenEntries, metIn]
    obtain ⟨name, bad, hfirst, hv⟩ | ⟨here, hfirst, hv⟩ :=
      (comesTo_flattenValue value hpath' hvalue).cases
    · rw [hv]
      exact comesTo_error name (by rw [firstMalformed?_append, hfirst]; rfl)
    · rw [hv]
      obtain ⟨name, bad, hsecond, hr⟩ | ⟨others, hsecond, hr⟩ :=
        (comesTo_flattenEntries rest hpath hrest).cases
      · rw [hr]
        exact comesTo_error name (by rw [firstMalformed?_append, hfirst, hsecond]; rfl)
      · rw [hr]
        exact comesTo_ok _ (by rw [firstMalformed?_append, hfirst, hsecond]; rfl)

end

theorem comesTo_flatten {args : Entries}
    (hnames : ∀ name ∈ fieldNamesOf args, name.isString = true) :
    ComesTo (metIn args) (flatten (.map args)) :=
  comesTo_flattenEntries args nofun hnames

/-! ## Accepted filters -/

/-- An operator with its operand, as an entry of a leaf. -/
def operatorEntry (pair : Operator × Value) : Value × Value := (.string pair.1.name, pair.2)

/-- The condition that an operator with its operand makes where they stand. -/
def operatorCondition (pair : Operator × Value) : Condition := ⟨[], pair.1, pair.2⟩

/-- **The accepted filters with their conditions.** Under every key stands a
leaf, or a filter that has entries and is accepted itself, and the conditions
are those of what stands there, below the key. -/
inductive Accepted : Entries → List Condition → Prop
  /-- The filter that asks for nothing. -/
  | nil : Accepted [] []
  /-- A field with operators before the other fields. -/
  | leaf (key : Value) {pairs : List (Operator × Value)} {rest : Entries}
      {others : List Condition} (hpairs : pairs ≠ []) (hrest : Accepted rest others) :
      Accepted ((key, .map (pairs.map operatorEntry)) :: rest)
        ((pairs.map operatorCondition).map (Condition.below [key]) ++ others)
  /-- A field with fields inside it before the other fields. -/
  | inner (key : Value) {entries rest : Entries} {here others : List Condition}
      (hleaf : isLeaf entries = false) (hne : entries ≠ []) (hinner : Accepted entries here)
      (hrest : Accepted rest others) :
      Accepted ((key, .map entries) :: rest) (here.map (Condition.below [key]) ++ others)

/-- The entries of a leaf are written with the operators that are read. -/
theorem eq_map_of_operands? {entries : Entries} {pairs : List (Operator × Value)}
    (h : operands? entries = some pairs) : entries = pairs.map operatorEntry := by
  induction entries generalizing pairs with
  | nil =>
    cases h
    rfl
  | cons entry rest ih =>
    obtain ⟨key, operand⟩ := entry
    rw [operands?] at h
    cases hkey : operatorOfKey? key with
    | none => simp [hkey] at h
    | some op =>
      cases hrest : operands? rest with
      | none => simp [hkey, hrest] at h
      | some others =>
        rw [hkey, hrest] at h
        cases h
        cases key with
        | string name =>
          rw [List.map_cons, ← ih hrest, operatorEntry, ← Operator.eq_name_of_ofName? hkey]
        | _ => cases hkey

theorem exists_pairs_of_isLeaf {entries : Entries} (h : isLeaf entries = true) :
    ∃ pairs, pairs ≠ [] ∧ entries = pairs.map operatorEntry
      ∧ (operands? entries).getD [] = pairs := by
  rw [isLeaf, Bool.and_eq_true, Option.isSome_iff_exists] at h
  obtain ⟨hne, pairs, hpairs⟩ := h
  have heq := eq_map_of_operands? hpairs
  refine ⟨pairs, ?_, heq, by rw [hpairs]; rfl⟩
  rintro rfl
  rw [heq] at hne
  cases hne

mutual

/-- What flattening passes at a path is a leaf, or a filter that has entries and
is accepted. -/
theorem accepted_of_flattenValue : (value : Value) → {path : List Value} →
    {conditions : List Condition} → flattenValue path value = .ok conditions →
    ∃ entries here, value = .map entries ∧ conditions = here.map (Condition.below path)
      ∧ ((∃ pairs, pairs ≠ [] ∧ entries = pairs.map operatorEntry
            ∧ here = pairs.map operatorCondition)
          ∨ (isLeaf entries = false ∧ entries ≠ [] ∧ Accepted entries here))
  | .map entries, path, conditions, h => by
    rcases flattenValue_map h with ⟨hl, rfl⟩ | ⟨hl, h'⟩
    · obtain ⟨pairs, hne, hentries, hpairs⟩ := exists_pairs_of_isLeaf hl
      refine ⟨entries, pairs.map operatorCondition, rfl, ?_, Or.inl ⟨pairs, hne, hentries, rfl⟩⟩
      rw [hpairs, List.map_map]
      refine List.map_congr_left fun pair _ => ?_
      show _ = Condition.mk (path ++ []) pair.1 pair.2
      rw [List.append_nil]
    · obtain ⟨here, hhere, rfl⟩ := accepted_of_flattenEntries entries h'
      refine ⟨entries, here, rfl, rfl, Or.inr ⟨hl, ?_, hhere⟩⟩
      rintro rfl
      exact malformedAt_ne_ok _ _ _ h
  | .null, _, _, h | .bool _, _, _, h | .int _, _, _, h | .float _, _, _, h
  | .decimal _, _, _, h | .string _, _, _, h | .bytes _, _, _, h | .date _, _, _, h
  | .moment _, _, _, h | .list _, _, _, h | .tuple _, _, _, h =>
    absurd h (malformedAt_ne_ok _ _ _)

/-- **Entries that flattening passes are an accepted filter**, whose conditions
are found below the path. -/
theorem accepted_of_flattenEntries : (entries : List (Value × Value)) → {path : List Value} →
    {conditions : List Condition} → flattenEntries path entries = .ok conditions →
    ∃ here, Accepted entries here ∧ conditions = here.map (Condition.below path)
  | [], path, conditions, h => by
    rw [flattenEntries, Except.ok.injEq] at h
    subst h
    exact ⟨[], .nil, rfl⟩
  | (key, value) :: rest, path, conditions, h => by
    obtain ⟨_, _, hv, hr, rfl⟩ := flattenEntries_cons h
    obtain ⟨entries, here, rfl, rfl, hcases⟩ := accepted_of_flattenValue value hv
    obtain ⟨others, hothers, rfl⟩ := accepted_of_flattenEntries rest hr
    refine ⟨here.map (Condition.below [key]) ++ others, ?_, ?_⟩
    · rcases hcases with ⟨pairs, hne, rfl, rfl⟩ | ⟨hl, hne, hhere⟩
      · exact .leaf key hne hothers
      · exact .inner key hl hne hhere hothers
    · rw [List.map_append, List.map_map]
      exact congrArg (· ++ _) (List.map_congr_left fun c _ => Condition.below_append path [key] c)

end

theorem accepted_of_flatten {args : Entries} {conditions : List Condition}
    (h : flatten (.map args) = .ok conditions) : Accepted args conditions := by
  obtain ⟨here, hhere, rfl⟩ := accepted_of_flattenEntries args h
  rwa [show here.map (Condition.below []) = here from List.map_id here]

/-- A filter with entries has conditions. -/
theorem Accepted.ne_nil {entries : Entries} {conditions : List Condition}
    (h : Accepted entries conditions) (hne : entries ≠ []) : conditions ≠ [] := by
  induction h with
  | nil => exact absurd rfl hne
  | leaf key hpairs _ _ => simp [hpairs]
  | inner key _ hentries _ _ ih _ => simp [ih hentries]

/-- The path of a condition begins with the key of an entry. -/
theorem Accepted.exists_path_eq {entries : Entries} {conditions : List Condition}
    (h : Accepted entries conditions) :
    ∀ c ∈ conditions, ∃ entry ∈ entries, ∃ names, c.path = entry.1 :: names := by
  induction h with
  | nil => exact nofun
  | leaf key _ _ ih | inner key _ _ _ _ _ ih =>
    intro c hc
    rcases List.mem_append.1 hc with hc | hc
    · obtain ⟨d, -, rfl⟩ := List.mem_map.1 hc
      exact ⟨_, List.mem_cons_self, d.path, rfl⟩
    · obtain ⟨entry, hentry, hpath⟩ := ih c hc
      exact ⟨entry, List.mem_cons_of_mem _ hentry, hpath⟩

end Filter

end ContentGraph
