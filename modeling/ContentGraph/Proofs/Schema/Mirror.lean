import ContentGraph.Proofs.Schema.Argument
import ContentGraph.Proofs.Schema.Field
import ContentGraph.Proofs.Schema.Merge

/-!
# Arguments mirror fields

The arguments of a look-up are read off its fields, and what cannot be filtered
is left out of them. Two trees come of it, the second pruned by two rules: a field
of a kind without operators has no argument, and a field of objects has none if
nothing is left below it.

The rules need not be followed from the root down. An argument stands at a path if
and only if a field stands there and has it as its own argument
(`Argument.isArgumentAt_ofFields_iff`); and something is left below a field of
objects if and only if a field at some path below can be filtered
(`Argument.ofFields_ne_nil_iff`).

Both speak of field maps in which names are found where they stand: at no depth
does one stand twice, and only the fields of objects have fields of their own
(`FieldMap.IsTree`).
-/

namespace ContentGraph

/-- **An argument at the end of a path** of names, through groups. -/
inductive ArgumentMap.IsArgumentAt : ArgumentMap → List String → Argument → Prop
  /-- The argument of a name. -/
  | here {arguments : ArgumentMap} {name : String} {a : Argument} :
      arguments.lookup name = some a → IsArgumentAt arguments [name] a
  /-- An argument in the group of a name. -/
  | inside {arguments inner : ArgumentMap} {name written : String} {rest : List String}
      {a : Argument} :
      arguments.lookup name = some (.group written inner) → IsArgumentAt inner rest a →
        IsArgumentAt arguments (name :: rest) a

/-- Arguments of different names do not get in the way of one another. -/
theorem ArgumentMap.isArgumentAt_append_iff {base more : ArgumentMap} {names : List String}
    {a : Argument} (h : ∀ name ∈ more.map (·.1), name ∉ base.map (·.1)) :
    IsArgumentAt (base ++ more) names a
      ↔ IsArgumentAt base names a ∨ IsArgumentAt more names a := by
  have hlookup {name : String} {b : Argument} : (base ++ more).lookup name = some b
      ↔ base.lookup name = some b ∨ more.lookup name = some b := by
    rw [List.lookup_append, Option.or_eq_some_iff]
    refine or_congr_right ⟨And.right, fun hb => ⟨?_, hb⟩⟩
    obtain ⟨before, after, rfl, -⟩ := List.lookup_eq_some_iff.1 hb
    have hnot := h name (List.mem_map_of_mem (List.mem_append_right before List.mem_cons_self))
    exact List.lookup_eq_none_iff.2 fun entry hentry =>
      bne_iff_ne.2 fun heq => hnot (heq ▸ List.mem_map_of_mem hentry)
  constructor
  · rintro (hhere | ⟨hgroup, hinner⟩)
    · exact (hlookup.1 hhere).imp .here .here
    · exact (hlookup.1 hgroup).imp (.inside · hinner) (.inside · hinner)
  · rintro ((hhere | ⟨hgroup, hinner⟩) | (hhere | ⟨hgroup, hinner⟩))
    · exact .here (hlookup.2 (Or.inl hhere))
    · exact .inside (hlookup.2 (Or.inl hgroup)) hinner
    · exact .here (hlookup.2 (Or.inr hhere))
    · exact .inside (hlookup.2 (Or.inr hgroup)) hinner

/-- Where there are no arguments, none stands at any path. -/
theorem ArgumentMap.not_isArgumentAt_nil {names : List String} {a : Argument} :
    ¬ IsArgumentAt [] names a := by
  rintro (h | ⟨h, -⟩) <;> cases h

/-- **A field map whose names are found where they stand**: at every depth no name
stands twice, and only the fields of objects have fields of their own. -/
structure FieldMap.IsTree (fields : FieldMap) : Prop where
  /-- No name stands twice. -/
  nodup : fields.names.Nodup
  /-- Nor does it among the fields of objects, at any depth. -/
  nodup_inner : ∀ {names : List String} {f : Field} {inner : FieldMap},
    fields.IsFieldAt names f → f.fields = some inner → inner.names.Nodup
  /-- No other field has fields of its own. -/
  holdsObjects : ∀ {names : List String} {f : Field} {inner : FieldMap},
    fields.IsFieldAt names f → f.fields = some inner → Argument.holdsObjects f.type = true

/-- What is below a field of a tree is a tree. -/
theorem FieldMap.IsTree.inner {fields inner : FieldMap} {name : String} {f : Field}
    (h : fields.IsTree) (hget : fields.get? name = some f) (hinner : f.fields = some inner) :
    inner.IsTree where
  nodup := h.nodup_inner (.here hget) hinner
  nodup_inner hg := h.nodup_inner (.inside hget hinner hg)
  holdsObjects hg := h.holdsObjects (.inside hget hinner hg)

/-- So is what is below a field at the end of a path. -/
theorem FieldMap.IsTree.below {fields below : FieldMap} {names : List String} {f : Field}
    (h : fields.IsTree) (hf : fields.IsFieldAt names f) (hbelow : f.fields = some below) :
    below.IsTree := by
  induction hf with
  | here hget => exact h.inner hget hbelow
  | inside hget hinner _ ih => exact ih (h.inner hget hinner) hbelow

namespace Argument

/-! ## Names -/

/-- The names of arguments are names of fields, in their order. -/
theorem names_ofFields_sublist (path : String) (fields : FieldMap) :
    ((ofFields path fields).map (·.1)).Sublist fields.names := by
  induction fields with
  | nil =>
    rw [ofFields]
    exact .slnil
  | cons entry rest ih =>
    obtain ⟨name, f⟩ := entry
    rw [ofFields]
    cases ofField (joinPath path name) f with
    | some a => exact ih.cons_cons name
    | none => exact ih.cons name

/-- **The argument of a name is that of its field.** -/
theorem lookup_ofFields {path name : String} {fields : FieldMap} (h : fields.names.Nodup) :
    (ofFields path fields).lookup name
      = (fields.get? name).bind (ofField (joinPath path name)) := by
  induction fields with
  | nil =>
    rw [ofFields]
    rfl
  | cons entry rest ih =>
    obtain ⟨other, f⟩ := entry
    obtain ⟨hnot, hrest⟩ := List.nodup_cons.1 h
    rw [ofFields, FieldMap.get?_cons]
    by_cases hname : name = other
    · subst hname
      rw [if_pos rfl, Option.bind_some]
      cases ofField (joinPath path name) f with
      | some a => exact List.lookup_cons_self
      | none =>
        -- No other field has the name.
        exact (ih hrest).trans (by rw [FieldMap.get?_eq_none_iff.2 hnot]; rfl)
    · rw [if_neg hname, ← ih hrest]
      cases ofField (joinPath path other) f with
      | some a =>
        show List.lookup name ((other, a) :: _) = _
        rw [List.lookup_cons, beq_eq_false_iff_ne.2 hname]
      | none => rfl

theorem joinPath_ne_empty {path : String} (h : path ≠ "") (name : String) :
    joinPath path name ≠ "" := by
  rw [joinPath, if_neg h]
  intro hempty
  exact h (String.append_eq_empty_iff.1 (String.append_eq_empty_iff.1 hempty).1).1

/-- A text that is joined already is joined with what comes after it. -/
theorem joinWith_append (separator first second : String) (rest : List String) :
    joinWith separator ((first ++ separator ++ second) :: rest)
      = joinWith separator (first :: second :: rest) := by
  cases rest with
  | nil => rfl
  | cons third rest =>
    show first ++ separator ++ second ++ separator ++ joinWith separator (third :: rest)
      = first ++ separator ++ (second ++ separator ++ joinWith separator (third :: rest))
    simp only [String.append_assoc]

/-- The names below a path are joined with points. -/
theorem foldl_joinPath_of_ne_empty (names : List String) {path : String} (h : path ≠ "") :
    names.foldl joinPath path = joinWith "." (path :: names) := by
  induction names generalizing path with
  | nil => rfl
  | cons name rest ih =>
    rw [List.foldl_cons, ih (joinPath_ne_empty h name), joinPath, if_neg h, joinWith_append]

/-- The names below a path, joined with points; a path that is empty adds
nothing. -/
def writtenName (path : String) (names : List String) : String :=
  joinWith "." (if path = "" then names else path :: names)

/-- **Names are joined one by one**, unless the first one is empty. -/
theorem foldl_joinPath (path : String) {names : List String} (h : names.head? ≠ some "") :
    names.foldl joinPath path = writtenName path names := by
  unfold writtenName
  by_cases hpath : path = ""
  · rw [if_pos hpath, hpath]
    cases names with
    | nil => rfl
    | cons name rest =>
      have hname : name ≠ "" := fun heq => h (congrArg some heq)
      exact foldl_joinPath_of_ne_empty rest hname
  · rw [if_neg hpath, foldl_joinPath_of_ne_empty names hpath]

/-! ## Arguments at a path -/

variable {fields : FieldMap} {path written : String} {names : List String}

/-- **An argument stands where the field stands that it is the argument of.** -/
theorem isArgumentAt_ofFields_iff {a : Argument} (h : fields.IsTree) :
    (ofFields path fields).IsArgumentAt names a
      ↔ ∃ f, fields.IsFieldAt names f ∧ ofField (names.foldl joinPath path) f = some a := by
  induction names generalizing path fields with
  | nil => exact iff_of_false nofun fun ⟨_, hf, _⟩ => nomatch hf
  | cons name rest ih =>
    constructor
    · intro ha
      cases ha with
      | here ha =>
        rw [lookup_ofFields h.nodup] at ha
        obtain ⟨f, hf, ha⟩ := Option.bind_eq_some_iff.1 ha
        exact ⟨f, .here hf, ha⟩
      | inside hgroup ha =>
        rw [lookup_ofFields h.nodup] at hgroup
        obtain ⟨g, hg, hgroup⟩ := Option.bind_eq_some_iff.1 hgroup
        obtain ⟨-, -, -, inner, hinner, rfl⟩ := ofField_eq_group_iff.1 hgroup
        obtain ⟨f, hf, ha⟩ := (ih (h.inner hg hinner)).1 ha
        exact ⟨f, .inside hg hinner hf, ha⟩
    · rintro ⟨f, hf, ha⟩
      cases hf with
      | here hf => exact .here (by rw [lookup_ofFields h.nodup, hf]; exact ha)
      | @inside _ inner _ _ _ g hg hinner hf =>
        have hbelow : (ofFields (joinPath path name) inner).IsArgumentAt rest a :=
          (ih (h.inner hg hinner)).2 ⟨f, hf, ha⟩
        have hne : ofFields (joinPath path name) inner ≠ [] :=
          fun hnil => ArgumentMap.not_isArgumentAt_nil (hnil ▸ hbelow)
        have hgroup := ofField_eq_group_iff.2
          ⟨rfl, h.holdsObjects (.here hg) hinner, hne, inner, hinner, rfl⟩
        exact .inside (by rw [lookup_ofFields h.nodup, hg, Option.bind_some, hgroup]) hbelow

/-- A leaf stands where a field stands that can be filtered. -/
theorem isArgumentAt_leaf_iff {kind : FieldKind} {operators : List Operator} (h : fields.IsTree) :
    (ofFields path fields).IsArgumentAt names (.leaf written kind operators)
      ↔ written = names.foldl joinPath path ∧ operators = kind.operators
        ∧ ∃ f, fields.IsFieldAt names f ∧ kind = filteredKind f.type ∧ kind.operators ≠ [] := by
  simp only [isArgumentAt_ofFields_iff h, ofField_eq_leaf_iff]
  constructor
  · rintro ⟨f, hf, hwritten, hoperators, hkind⟩
    exact ⟨hwritten, hoperators, f, hf, hkind⟩
  · rintro ⟨hwritten, hoperators, f, hf, hkind⟩
    exact ⟨f, hf, hwritten, hoperators, hkind⟩

theorem sizeOf_fields_lt {inner : FieldMap} {name : String} {f : Field}
    (hf : (name, f) ∈ fields) (hinner : f.fields = some inner) :
    sizeOf inner < sizeOf fields := by
  have hlt := List.sizeOf_lt_of_mem hf
  obtain ⟨type, description, nonNull, target, below, follows⟩ := f
  cases hinner
  simp only [Prod.mk.sizeOf_spec, Field.mk.sizeOf_spec, Option.some.sizeOf_spec] at hlt
  omega

/-- **Something is left of fields if and only if one of them can be filtered**, or
one below them. -/
theorem ofFields_ne_nil_iff (h : fields.IsTree) :
    ofFields path fields ≠ []
      ↔ ∃ names f, fields.IsFieldAt names f ∧ (filteredKind f.type).operators ≠ [] := by
  constructor
  · intro hne
    induction hsize : sizeOf fields using Nat.strongRecOn generalizing fields path with
    | ind size ih =>
      obtain ⟨⟨name, a⟩, ha⟩ := List.exists_mem_of_ne_nil _ hne
      obtain ⟨f, hf, ha⟩ := mem_ofFields ha
      have hget := (FieldMap.get?_eq_some_iff h.nodup).2 hf
      cases a with
      | leaf written kind operators =>
        obtain ⟨-, -, rfl, hoperators⟩ := ofField_eq_leaf_iff.1 ha
        exact ⟨[name], f, .here hget, hoperators⟩
      | group written arguments =>
        obtain ⟨-, -, hbelow, inner, hinner, rfl⟩ := ofField_eq_group_iff.1 ha
        obtain ⟨names, g, hg, hoperators⟩ :=
          ih _ (hsize ▸ sizeOf_fields_lt hf hinner) (h.inner hget hinner) hbelow rfl
        exact ⟨name :: names, g, .inside hget hinner hg, hoperators⟩
  · rintro ⟨names, f, hf, hoperators⟩ hnil
    have hleaf : (ofFields path fields).IsArgumentAt names (.leaf _ _ _) :=
      (isArgumentAt_leaf_iff h).2 ⟨rfl, rfl, f, hf, rfl, hoperators⟩
    exact ArgumentMap.not_isArgumentAt_nil (hnil ▸ hleaf)

/-- **A group stands where a field of objects stands with a field below it that can
be filtered.** -/
theorem isArgumentAt_group_iff (h : fields.IsTree) :
    (∃ inner, (ofFields path fields).IsArgumentAt names (.group written inner))
      ↔ written = names.foldl joinPath path
        ∧ ∃ (f : Field) (below : FieldMap), fields.IsFieldAt names f
          ∧ holdsObjects f.type = true ∧ f.fields = some below
          ∧ ∃ rest g, below.IsFieldAt rest g ∧ (filteredKind g.type).operators ≠ [] := by
  simp only [isArgumentAt_ofFields_iff h, ofField_eq_group_iff]
  constructor
  · rintro ⟨_, f, hf, hwritten, hobjects, hne, below, hbelow, rfl⟩
    exact ⟨hwritten, f, below, hf, hobjects, hbelow,
      (ofFields_ne_nil_iff (h.below hf hbelow)).1 hne⟩
  · rintro ⟨hwritten, f, below, hf, hobjects, hbelow, hleaf⟩
    exact ⟨_, f, hf, hwritten, hobjects,
      (ofFields_ne_nil_iff (h.below hf hbelow)).2 hleaf, below, hbelow, rfl⟩

/-! ## Arguments for the identity -/

theorem lookup_ofIdentity_iff {name : String} {a : Argument} :
    (ofIdentity path).lookup name = some a
      ↔ ∃ kind, (name = "id" ∧ kind = .id ∨ name = "type" ∧ kind = .string)
        ∧ a = .leaf (joinPath path name) kind kind.operators := by
  rw [ofIdentity, List.lookup_cons, List.lookup_cons, List.lookup_nil]
  by_cases hid : name = "id"
  · subst hid
    simp [eq_comm]
  · rw [beq_eq_false_iff_ne.2 hid]
    by_cases htype : name = "type"
    · subst htype
      simp [eq_comm]
    · rw [beq_eq_false_iff_ne.2 htype]
      simp [hid, htype]

/-- **The arguments for the identity are two leaves**, and there are no groups. -/
theorem isArgumentAt_ofIdentity_iff {a : Argument} :
    (ofIdentity path).IsArgumentAt names a
      ↔ ∃ kind, (names = ["id"] ∧ kind = .id ∨ names = ["type"] ∧ kind = .string)
        ∧ a = .leaf (writtenName path names) kind kind.operators := by
  have hid : joinPath path "id" = writtenName path ["id"] :=
    foldl_joinPath path (show ["id"].head? ≠ some "" by decide)
  have htype : joinPath path "type" = writtenName path ["type"] :=
    foldl_joinPath path (show ["type"].head? ≠ some "" by decide)
  constructor
  · intro h
    cases h with
    | here ha =>
      obtain ⟨kind, ⟨rfl, rfl⟩ | ⟨rfl, rfl⟩, rfl⟩ := lookup_ofIdentity_iff.1 ha
      · exact ⟨.id, Or.inl ⟨rfl, rfl⟩, by rw [hid]⟩
      · exact ⟨.string, Or.inr ⟨rfl, rfl⟩, by rw [htype]⟩
    | inside hgroup _ =>
      obtain ⟨kind, -, heq⟩ := lookup_ofIdentity_iff.1 hgroup
      cases heq
  · rintro ⟨kind, ⟨rfl, rfl⟩ | ⟨rfl, rfl⟩, rfl⟩
    · exact .here (lookup_ofIdentity_iff.2 ⟨.id, Or.inl ⟨rfl, rfl⟩, by rw [hid]⟩)
    · exact .here (lookup_ofIdentity_iff.2 ⟨.string, Or.inr ⟨rfl, rfl⟩, by rw [htype]⟩)

end Argument

end ContentGraph
