import ContentGraph.Schema.Field

/-!
# What is in a field map

Field maps are written entry by entry, and an entry that is written may
replace another one. Whatever is in a map has been written into it: the fields
of several maps merged into one are fields of these maps
(`FieldMap.mem_merge`), so that a field of a type is a default one, an
inferred one or one that plugins add (`mem_typeFields`).

Fields of objects have field maps of their own, so a field stands at the end of
a path of names (`FieldMap.IsFieldAt`).
-/

namespace ContentGraph

/-- **A field at the end of a path** of names, through the fields of objects. -/
inductive FieldMap.IsFieldAt : FieldMap → List String → Field → Prop
  /-- The field of a name. -/
  | here {fields : FieldMap} {name : String} {f : Field} :
      fields.get? name = some f → IsFieldAt fields [name] f
  /-- A field below that of a name. -/
  | inside {fields inner : FieldMap} {name : String} {rest : List String} {f g : Field} :
      fields.get? name = some g → g.fields = some inner → IsFieldAt inner rest f →
        IsFieldAt fields (name :: rest) f

namespace FieldMap

theorem mem_insert {name : String} {f : Field} {fields : FieldMap} {entry : String × Field}
    (h : entry ∈ insert name f fields) : entry = (name, f) ∨ entry ∈ fields := by
  induction fields with
  | nil => exact Or.inl (List.mem_singleton.1 h)
  | cons first rest ih =>
    rw [insert] at h
    by_cases hn : first.1 = name
    · rw [if_pos hn, hn] at h
      exact (List.mem_cons.1 h).imp_right (List.mem_cons_of_mem _)
    · rw [if_neg hn] at h
      rcases List.mem_cons.1 h with rfl | h
      · exact Or.inr List.mem_cons_self
      · exact (ih h).imp_right (List.mem_cons_of_mem _)

theorem mem_update {base more : FieldMap} {entry : String × Field}
    (h : entry ∈ update base more) : entry ∈ base ∨ entry ∈ more := by
  unfold update at h
  induction more generalizing base with
  | nil => exact Or.inl h
  | cons first rest ih =>
    rcases ih h with h | h
    · exact (mem_insert h).elim (fun heq => Or.inr (heq ▸ List.mem_cons_self)) Or.inl
    · exact Or.inr (List.mem_cons_of_mem _ h)

theorem mem_ofList {entries : List (String × Field)} {entry : String × Field}
    (h : entry ∈ ofList entries) : entry ∈ entries :=
  (mem_update h).resolve_left List.not_mem_nil

theorem mem_foldl_update {sources : List (Option FieldMap)} {base : FieldMap}
    {entry : String × Field}
    (h : entry ∈ sources.foldl (fun fields source => update fields (source.getD [])) base) :
    entry ∈ base ∨ ∃ fields, some fields ∈ sources ∧ entry ∈ fields := by
  induction sources generalizing base with
  | nil => exact Or.inl h
  | cons source rest ih =>
    rcases ih h with h | ⟨fields, hmem, hentry⟩
    · rcases mem_update h with h | h
      · exact Or.inl h
      · cases source with
        | none => exact absurd h List.not_mem_nil
        | some fields => exact Or.inr ⟨fields, List.mem_cons_self, h⟩
    · exact Or.inr ⟨fields, List.mem_cons_of_mem _ hmem, hentry⟩

/-- **A field of merged maps is one of some map.** -/
theorem mem_merge {sources : List (Option FieldMap)} {entry : String × Field}
    (h : entry ∈ merge sources) : ∃ fields, some fields ∈ sources ∧ entry ∈ fields :=
  (mem_foldl_update h).resolve_left List.not_mem_nil

/-- A field of a name that passes a test is there if a search finds it. -/
theorem exists_mem_of_any {fields : FieldMap} {name : String} (test : Field → Bool)
    (h : fields.any (fun entry => entry.1 == name && test entry.2) = true) :
    ∃ f, (name, f) ∈ fields ∧ test f = true := by
  obtain ⟨⟨n, f⟩, hmem, htest⟩ := List.any_eq_true.1 h
  rw [Bool.and_eq_true, beq_iff_eq] at htest
  obtain ⟨rfl, htest⟩ := htest
  exact ⟨f, hmem, htest⟩

end FieldMap

/-- **A field of a type is a default one, an inferred one or one that plugins
add.** -/
theorem mem_typeFields {inferred fromPlugins : FieldMap} {entry : String × Field}
    (h : entry ∈ typeFields inferred fromPlugins) :
    entry ∈ defaultFields ∨ entry ∈ inferred ∨ entry ∈ fromPlugins := by
  obtain ⟨fields, hmem, hentry⟩ := FieldMap.mem_merge h
  simp only [List.mem_cons, Option.some.injEq, List.not_mem_nil, or_false] at hmem
  rcases hmem with rfl | rfl | rfl
  · exact Or.inl hentry
  · exact Or.inr (Or.inl hentry)
  · exact Or.inr (Or.inr hentry)

end ContentGraph
