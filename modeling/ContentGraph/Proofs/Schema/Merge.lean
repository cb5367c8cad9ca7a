import ContentGraph.Schema.Field
import Mathlib.Data.List.Induction
import Mathlib.Data.List.Nodup
import Mathlib.Data.List.ReduceOption

/-!
# Merging field maps

Maps are merged by writing one over the other, name by name: a name keeps the
place at which it was first met and takes the field that was written last. What
comes of it is said without any writing. The names of merged maps are those of
all maps, each where it is first met (`FieldMap.names_merge`), and the field of
a name is that of the last map that has one (`FieldMap.get?_merge`).

Maps may be merged in parts: to write a merged map over another one is to
write its parts over it one by one (`FieldMap.update_merge`). So it does not
matter that the fields which plugins add to a type are merged before they are
written over the others (`typeFields_merge`).
-/

namespace ContentGraph

/-! ## Names in the order in which they are met -/

/-- Names with one more, unless it is there already. -/
def addName (names : List String) (name : String) : List String :=
  if name ∈ names then names else names ++ [name]

theorem nodup_addName {names : List String} (h : names.Nodup) (name : String) :
    (addName names name).Nodup := by
  unfold addName
  split
  · exact h
  · next hnew => exact h.append (List.nodup_singleton _) (List.disjoint_singleton.2 hnew)

theorem mem_addName {names : List String} {name other : String} :
    other ∈ addName names name ↔ other = name ∨ other ∈ names := by
  unfold addName
  split
  · next h => exact ⟨Or.inr, fun hor => hor.elim (fun heq => heq ▸ h) id⟩
  · rw [List.mem_append, List.mem_singleton, or_comm]

/-- **Names added one by one are all names, each where it is first met.** -/
theorem foldl_addName (more : List String) {names : List String} (h : names.Nodup) :
    more.foldl addName names = (names ++ more).eraseDups := by
  induction more generalizing names with
  | nil =>
    rw [List.append_nil, List.foldl_nil]
    induction names with
    | nil => rfl
    | cons name rest ih =>
      obtain ⟨hnot, hrest⟩ := List.nodup_cons.1 h
      have hfilter : rest.filter (fun other => !other == name) = rest :=
        List.filter_eq_self.2 fun other hother => by
          simpa using fun heq : other = name => hnot (heq ▸ hother)
      rw [List.eraseDups_cons, hfilter, ← ih hrest]
  | cons name rest ih =>
    rw [List.foldl_cons, ih (nodup_addName h name), addName]
    split
    · next hmem =>
      -- A repetition adds nothing.
      rw [List.eraseDups_append, List.eraseDups_append, List.cons_removeAll,
        if_neg (by simpa using hmem)]
    · rw [List.append_assoc, List.singleton_append]

namespace FieldMap

variable {name : String} {f : Field} {base more : FieldMap}

/-! ## Writing one field -/

@[simp] theorem names_cons (entry : String × Field) (fields : FieldMap) :
    names (entry :: fields) = entry.1 :: fields.names := rfl

theorem get?_cons (name : String) (entry : String × Field) (fields : FieldMap) :
    get? name (entry :: fields) = if name = entry.1 then some entry.2 else get? name fields := by
  rw [get?, List.lookup_cons]
  by_cases h : name = entry.1
  · rw [if_pos h, beq_iff_eq.2 h]
  · rw [if_neg h, beq_eq_false_iff_ne.2 h]
    rfl

theorem get?_eq_none_iff {fields : FieldMap} :
    get? name fields = none ↔ name ∉ fields.names := by
  rw [get?, List.lookup_eq_none_iff, names, List.mem_map, not_exists]
  refine forall_congr' fun entry => ?_
  rw [bne_iff_ne, not_and, ne_comm]

theorem mem_of_get?_eq_some {fields : FieldMap} (h : get? name fields = some f) :
    (name, f) ∈ fields := by
  obtain ⟨before, after, rfl, -⟩ := List.lookup_eq_some_iff.1 h
  exact List.mem_append_right before List.mem_cons_self

/-- A field that is the only one of its name is found. -/
theorem get?_eq_some_of_mem_iff {fields : FieldMap} (h : ∀ g, (name, g) ∈ fields ↔ g = f) :
    get? name fields = some f := by
  cases hget : get? name fields with
  | some g => exact congrArg some ((h g).1 (mem_of_get?_eq_some hget))
  | none => exact absurd (List.mem_map_of_mem ((h f).2 rfl)) (get?_eq_none_iff.1 hget)

/-- Where no name stands twice, a field is the one that is found. -/
theorem get?_eq_some_iff {fields : FieldMap} (h : fields.names.Nodup) :
    get? name fields = some f ↔ (name, f) ∈ fields := by
  refine ⟨mem_of_get?_eq_some, fun hf => get?_eq_some_of_mem_iff fun g => ⟨fun hg => ?_, ?_⟩⟩
  · exact congrArg Prod.snd (List.inj_on_of_nodup_map h hg hf rfl)
  · rintro rfl
    exact hf

theorem insert_cons (name : String) (f : Field) (entry : String × Field) (fields : FieldMap) :
    insert name f (entry :: fields)
      = if entry.1 = name then (entry.1, f) :: fields else entry :: insert name f fields := rfl

/-- A name that is there keeps its place, a new one comes last. -/
theorem names_insert (name : String) (f : Field) (fields : FieldMap) :
    (insert name f fields).names = addName fields.names name := by
  unfold addName
  induction fields with
  | nil => rfl
  | cons entry rest ih =>
    rw [insert_cons]
    by_cases h : entry.1 = name
    · rw [if_pos h, if_pos (show name ∈ names (entry :: rest) from h ▸ List.mem_cons_self)]
      rfl
    · rw [if_neg h, names_cons, names_cons, ih]
      by_cases hrest : name ∈ names rest
      · rw [if_pos hrest, if_pos (List.mem_cons_of_mem _ hrest)]
      · rw [if_neg hrest, if_neg (List.not_mem_cons_of_ne_of_not_mem (Ne.symm h) hrest)]
        rfl

theorem mem_names_insert {other : String} {fields : FieldMap} :
    other ∈ (insert name f fields).names ↔ other = name ∨ other ∈ fields.names := by
  rw [names_insert, mem_addName]

theorem nodup_insert {fields : FieldMap} (h : fields.names.Nodup) :
    (insert name f fields).names.Nodup := by
  rw [names_insert]
  exact nodup_addName h name

/-- The field that was written is found, and no other is changed. -/
theorem get?_insert (other name : String) (f : Field) (fields : FieldMap) :
    get? other (insert name f fields) = if other = name then some f else get? other fields := by
  induction fields with
  | nil => exact get?_cons other (name, f) []
  | cons entry rest ih =>
    rw [insert_cons]
    by_cases h : entry.1 = name
    · rw [if_pos h, get?_cons, get?_cons, h]
      by_cases hother : other = name
      · rw [if_pos hother, if_pos hother]
      · rw [if_neg hother, if_neg hother, if_neg hother]
    · rw [if_neg h, get?_cons, get?_cons, ih]
      by_cases hother : other = entry.1
      · rw [if_pos hother, if_neg (hother ▸ h), if_pos hother]
      · rw [if_neg hother, if_neg hother]

/-- Of two fields written under one name, the later one stays. -/
theorem insert_insert_self (g : Field) (fields : FieldMap) :
    insert name f (insert name g fields) = insert name f fields := by
  induction fields with
  | nil => simp [insert]
  | cons entry rest ih =>
    rw [insert_cons, insert_cons]
    by_cases h : entry.1 = name
    · rw [if_pos h, if_pos h, insert_cons, if_pos h]
    · rw [if_neg h, if_neg h, insert_cons, if_neg h, ih]

/-- A field written under a name that is there does not change where a new
name comes to stand. -/
theorem insert_comm_of_mem {other : String} {g : Field} {fields : FieldMap} (hne : other ≠ name)
    (h : name ∈ fields.names) :
    insert name f (insert other g fields) = insert other g (insert name f fields) := by
  induction fields with
  | nil => cases h
  | cons entry rest ih =>
    by_cases hname : entry.1 = name
    · have hother : entry.1 ≠ other := fun heq => hne (heq.symm.trans hname)
      rw [insert_cons, if_neg hother, insert_cons, if_pos hname, insert_cons, if_pos hname,
        insert_cons, if_neg hother]
    · -- The name stands further on, so it is only the rest that could differ.
      have hrest : name ∈ names rest :=
        (List.mem_cons.1 h).resolve_left (Ne.symm hname)
      by_cases hother : entry.1 = other
      · rw [insert_cons, if_pos hother, insert_cons, if_neg hname, insert_cons, if_neg hname,
          insert_cons, if_pos hother]
      · rw [insert_cons, if_neg hother, insert_cons, if_neg hname, insert_cons, if_neg hname,
          insert_cons, if_neg hother, ih hrest]

/-! ## Writing one map over another -/

theorem update_cons (base : FieldMap) (entry : String × Field) (more : FieldMap) :
    update base (entry :: more) = update (insert entry.1 entry.2 base) more := rfl

/-- A field of a name that is there can be written before fields of other
names, or after them. -/
theorem insert_update_of_mem (hmore : name ∉ more.names) (h : name ∈ base.names) :
    insert name f (update base more) = update (insert name f base) more := by
  induction more generalizing base with
  | nil => rfl
  | cons entry rest ih =>
    obtain ⟨hne, hrest⟩ := not_or.1 (mt List.mem_cons.2 hmore)
    rw [update_cons, update_cons, ih hrest (mem_names_insert.2 (Or.inr h)),
      insert_comm_of_mem (Ne.symm hne) h]

theorem nodup_update (more : FieldMap) (h : base.names.Nodup) :
    (update base more).names.Nodup := by
  induction more generalizing base with
  | nil => exact h
  | cons entry rest ih => exact ih (nodup_insert h)

/-- The names of the second map are added to those of the first. -/
theorem names_update (base more : FieldMap) :
    (update base more).names = more.names.foldl addName base.names := by
  induction more generalizing base with
  | nil => rfl
  | cons entry rest ih => rw [update_cons, ih, names_insert, names_cons, List.foldl_cons]

/-- No name stands twice in the map of a list of fields. -/
theorem nodup_ofList (entries : List (String × Field)) : (ofList entries).names.Nodup :=
  nodup_update entries (show (names []).Nodup from List.nodup_nil)

/-- The names of a list of fields are those that are written. -/
theorem mem_names_ofList {entries : List (String × Field)} :
    name ∈ (ofList entries).names ↔ name ∈ names entries := by
  rw [ofList, names_update, foldl_addName _ (show (names []).Nodup from List.nodup_nil),
    List.mem_eraseDups]
  rfl

/-- Of two maps, the field of a name is that of the second one if it has
one. -/
theorem get?_update (name : String) (base : FieldMap) (h : more.names.Nodup) :
    get? name (update base more) = (get? name more).or (get? name base) := by
  induction more generalizing base with
  | nil => rfl
  | cons entry rest ih =>
    obtain ⟨hnot, hrest⟩ := List.nodup_cons.1 h
    rw [update_cons, ih _ hrest, get?_insert, get?_cons]
    by_cases hname : name = entry.1
    · rw [if_pos hname, if_pos hname, get?_eq_none_iff.2 (hname ▸ hnot)]
      rfl
    · rw [if_neg hname, if_neg hname]

/-- A field written into the second map is written after it. -/
theorem update_insert (name : String) (f : Field) (base : FieldMap) (h : more.names.Nodup) :
    update base (insert name f more) = insert name f (update base more) := by
  induction more generalizing base with
  | nil => rfl
  | cons entry rest ih =>
    obtain ⟨hnot, hrest⟩ := List.nodup_cons.1 h
    by_cases hname : entry.1 = name
    · -- The old field of the name is written first, and then hidden by the new one.
      subst hname
      rw [insert_cons, if_pos rfl, update_cons, update_cons,
        insert_update_of_mem hnot (mem_names_insert.2 (Or.inl rfl)), insert_insert_self]
    · rw [insert_cons, if_neg hname, update_cons, update_cons, ih _ hrest]

/-- **Writing maps over one another is associative.** -/
theorem update_update (base : FieldMap) {middle : FieldMap} (more : FieldMap)
    (h : middle.names.Nodup) :
    update base (update middle more) = update (update base middle) more := by
  induction more generalizing middle with
  | nil => rfl
  | cons entry rest ih =>
    rw [update_cons, update_cons, ih (nodup_insert h), update_insert _ _ _ h]

/-! ## Merging several maps -/

theorem nodup_foldl_update (maps : List FieldMap) (h : base.names.Nodup) :
    (maps.foldl update base).names.Nodup := by
  induction maps generalizing base with
  | nil => exact h
  | cons fields rest ih => exact ih (nodup_update fields h)

/-- **The names of all maps, each where it is first met.** -/
theorem names_foldl_update (maps : List FieldMap) (h : base.names.Nodup) :
    (maps.foldl update base).names = (base.names ++ maps.flatMap names).eraseDups := by
  rw [← foldl_addName _ h]
  -- What is left holds with repetitions as well.
  clear h
  induction maps generalizing base with
  | nil => rfl
  | cons fields rest ih =>
    rw [List.foldl_cons, ih, names_update, List.flatMap_cons, List.foldl_append]

theorem get?_foldl_update (name : String) (maps : List FieldMap) (base : FieldMap)
    (h : ∀ fields ∈ maps, fields.names.Nodup) :
    get? name (maps.foldl update base)
      = (maps.filterMap (get? name)).getLast?.or (get? name base) := by
  induction maps generalizing base with
  | nil => rfl
  | cons fields rest ih =>
    obtain ⟨hfields, hrest⟩ := List.forall_mem_cons.1 h
    rw [List.foldl_cons, ih _ hrest, get?_update name base hfields]
    cases hget : get? name fields with
    | none => rw [List.filterMap_cons_none hget, Option.none_or]
    | some f =>
      rw [List.filterMap_cons_some hget, List.getLast?_cons, Option.some_or]
      cases (rest.filterMap (get? name)).getLast? <;> rfl

/-- **A merged map is written over another one part by part.** -/
theorem update_foldl_update (base : FieldMap) (maps : List FieldMap) :
    update base (maps.foldl update []) = maps.foldl update base := by
  -- The last map is split off, since it is the one that is written last on both sides.
  induction maps using List.reverseRecOn with
  | nil => rfl
  | append_singleton rest fields ih =>
    have hnodup : (rest.foldl update []).names.Nodup :=
      @nodup_foldl_update [] rest List.nodup_nil
    rw [List.foldl_concat, List.foldl_concat, update_update _ _ hnodup, ih]

/-- A map that is missing adds nothing. -/
theorem merge_eq_foldl (sources : List (Option FieldMap)) :
    merge sources = sources.reduceOption.foldl update [] := by
  suffices h : ∀ base, sources.foldl (fun fields source => update fields (source.getD [])) base
      = sources.reduceOption.foldl update base from h []
  induction sources with
  | nil => exact fun base => rfl
  | cons source rest ih =>
    intro base
    cases source with
    | none => rw [List.reduceOption_cons_of_none, ← ih]; rfl
    | some fields => rw [List.reduceOption_cons_of_some, List.foldl_cons, List.foldl_cons, ih]; rfl

/-- **The names of merged maps are those of all maps, each where it is first
met.** -/
theorem names_merge (sources : List (Option FieldMap)) :
    (merge sources).names = (sources.reduceOption.flatMap names).eraseDups := by
  rw [merge_eq_foldl, @names_foldl_update [] _ List.nodup_nil]
  rfl

/-- **The field of a name in merged maps is that of the last map that has
one.** -/
theorem get?_merge (name : String) {sources : List (Option FieldMap)}
    (h : ∀ fields ∈ sources.reduceOption, fields.names.Nodup) :
    get? name (merge sources) = (sources.reduceOption.filterMap (get? name)).getLast? := by
  rw [merge_eq_foldl, get?_foldl_update name _ [] h]
  exact Option.or_none

/-- A map that is empty adds nothing, and so is like one that is missing. -/
theorem merge_filter_not_isEmpty (sources : List (Option FieldMap)) :
    merge (((sources.map fun source => source.getD []).filter fun fields => !fields.isEmpty).map
        some)
      = merge sources := by
  have hstep (base fields : FieldMap) :
      (if !fields.isEmpty then update base fields else base) = update base fields := by
    cases fields <;> rfl
  unfold merge
  rw [List.foldl_map, List.foldl_filter, List.foldl_map]
  simp only [Option.getD_some, hstep]

end FieldMap

/-- **Fields that are merged before they are added to a type are added one map
after the other.** -/
theorem typeFields_merge (inferred : FieldMap) (sources : List (Option FieldMap)) :
    typeFields inferred (FieldMap.merge sources)
      = FieldMap.merge (some defaultFields :: some inferred :: sources) := by
  rw [FieldMap.merge_eq_foldl, FieldMap.merge_eq_foldl]
  exact FieldMap.update_foldl_update
    (FieldMap.update (FieldMap.update [] defaultFields) inferred) sources.reduceOption

end ContentGraph
