import ContentGraph.Proofs.Filter.Select
import ContentGraph.Proofs.Inference.Shape
import ContentGraph.Proofs.Schema.Argument

/-!
# Which data an argument finds

The arguments of a look-up are read off nodes by a walk that goes through maps
and through the items of lists alike, so below a list of objects there are
arguments for what its objects hold. A filter follows the path of such an
argument by a walk of its own, `Filter.descend`, which goes through maps only:
lists are looked through at the end of a path and nowhere else.

Here the two walks are compared. The first one is `Filter.Reaches`. Where no
list stands before the end of the path the second one comes to the same
values, and equality with a scalar that is reached selects the node; where a
list does, it comes to nothing, and no scalar selects the node
(`Filter.finds_iff_not_meetsList`). So what an argument below a list of
objects was read off is what it never finds.
-/

namespace ContentGraph.Filter

/-! ## The two walks -/

/-- **What the names of a path lead to in a value**, if lists are looked
through item by item wherever they stand. -/
inductive Reaches : List String → Value → Value → Prop
  /-- The path ends at a scalar. -/
  | here {v : Value} : v.isScalar = true → Reaches [] v v
  /-- A name leads to the entry of a map. -/
  | entry {name : String} {rest : List String} {entries : Entries} {v s : Value} :
      Entries.get? name entries = some v → Reaches rest v s →
        Reaches (name :: rest) (.map entries) s
  /-- The items of a list stand for it. -/
  | item {names : List String} {v item s : Value} {items : List Value} :
      v.items? = some items → item ∈ items → Reaches names item s → Reaches names v s

/-- **A list stands on the way** of a path: some names lead to it, through
maps only, and there are names left. -/
inductive MeetsList : List String → Value → Prop
  /-- The path goes on, and the value is a list. -/
  | here {name : String} {rest : List String} {v : Value} :
      v.isSequence = true → MeetsList (name :: rest) v
  /-- A name leads to an entry of a map, and a list stands on the way from
  there. -/
  | entry {name : String} {rest : List String} {entries : Entries} {v : Value} :
      Entries.get? name entries = some v → MeetsList rest v →
        MeetsList (name :: rest) (.map entries)

theorem isSequence_of_items? {v : Value} {items : List Value} (h : v.items? = some items) :
    v.isSequence = true := by
  cases v with
  | list _ | tuple _ => rfl
  | _ => cases h

theorem descend_map_cons {name : String} {entries : Entries} {v : Value}
    (h : Entries.get? name entries = some v) (rest : List Value) :
    descend (.map entries) (.string name :: rest) = descend v rest := by
  rw [descend, Entries.find?_string, h]
  rfl

/-- A path comes to nothing behind a list. -/
theorem descend_of_meetsList {v : Value} {names : List String} (h : MeetsList names v) :
    descend v (names.map .string) = .null := by
  induction h with
  | @here name rest v hlist =>
    cases v with
    | map entries => cases hlist
    | _ => rfl
  | entry hfind _ ih => rw [List.map_cons, descend_map_cons hfind, ih]

/-- Without a list on the way, the path comes to a value that has the scalar
at its end: the scalar itself, or a list with it for an item, at any depth. -/
theorem test_descend_of_reaches {v s : Value} {names : List String} (h : Reaches names v s)
    (hpresent : s.isMissing = false) (hlist : ¬ MeetsList names v) :
    test .eq s (descend v (names.map .string)) = .ok true := by
  induction h with
  | here hscalar =>
    rw [List.map_nil, descend, test_eq_of_isScalar hscalar,
      Value.eq_self_of_isScalar hscalar hpresent]
  | entry hfind _ ih =>
    rw [List.map_cons, descend_map_cons hfind]
    exact ih hpresent fun hmeets => hlist (.entry hfind hmeets)
  | @item names v item s items hitems hmem _ ih =>
    -- At the end of the path the test goes through the items itself.
    cases names with
    | nil =>
      have hitem := ih hpresent fun hmeets => (nomatch hmeets)
      rw [List.map_nil, descend, test_eq_of_items? hitems, testAny_eq_true_iff (by decide)]
      exact ⟨item, hmem, hitem⟩
    | cons name rest => exact absurd (.here (isSequence_of_items? hitems)) hlist

/-- Nothing that is present equals null. -/
theorem test_null_of_present {s : Value} (hpresent : s.isMissing = false) :
    test .eq s .null = .ok false := by
  cases s with
  | null => cases hpresent
  | _ => rfl

/-! ## The argument and its filter -/

/-- **An argument finds a node by what it was read off, unless a list stands
on the way.** For every argument of a look-up and every node with a scalar at
its path, the filter that asks for the scalar is one that the argument offers
and that is accepted; the node is selected if and only if the path meets no
list before its end. -/
theorem finds_iff_not_meetsList (nodes : List Node) {key : String} {rest : List String}
    {kind : FieldKind} {operators : List Operator}
    (hleaf : Argument.IsLeafAt (Inference.argumentsOfNodes "" nodes) (key :: rest) kind operators)
    (hrest : ∀ name ∈ rest, Operator.ofName? name = none) {n : Node} (hn : n ∈ nodes) {s : Value}
    (hreaches : Reaches rest (n.get key) s) (hpresent : s.isMissing = false) :
    .eq ∈ operators ∧ ∃ selected, select id (nested .eq s (key :: rest)) nodes = .ok selected
      ∧ (n ∈ selected ↔ ¬ MeetsList rest (n.get key)) := by
  obtain ⟨rfl, hne⟩ := Argument.operators_of_isLeafAt hleaf
  refine ⟨FieldKind.eq_mem_operators hne, _, select_nested id nodes (by decide) s key hrest, ?_⟩
  have hselected : n ∈ nodes.filter (fun n => Condition.holds (id n)
        ⟨(key :: rest).map .string, .eq, s⟩)
      ↔ test .eq s (descend (n.get key) (rest.map .string)) = .ok true := by
    rw [List.mem_filter, Condition.holds_iff]
    exact ⟨fun h => h.2, fun h => ⟨hn, h⟩⟩
  rw [hselected]
  constructor
  · intro htest hlist
    rw [descend_of_meetsList hlist, test_null_of_present hpresent] at htest
    cases htest
  · exact test_descend_of_reaches hreaches hpresent

/-- A node with a list of one author. -/
def coauthored : Node :=
  .ofFields "a" "T" [(.string "authors", .list [.map [(.string "name", .string "Ada")]])]

/-- The authors of the node are objects with names. -/
theorem ofRecords_coauthored :
    Shape.ofRecords (Inference.nodeRecords [coauthored])
      = [("authors", .objects [("name", .scalar .string (.string "Ada"))])] := by
  have hauthor : Shape.ofRecords [.map [(.string "name", .string "Ada")]]
      = [("name", .scalar .string (.string "Ada"))] :=
    Shape.ofRecords_singleton rfl (Shape.ofColumn_of_isScalar (by decide))
  have hauthors : Shape.ofColumn [.list [.map [(.string "name", .string "Ada")]]]
      = some (.objects (Shape.ofRecords [.map [(.string "name", .string "Ada")]])) :=
    Shape.ofColumn_of_listsOfObjects rfl rfl
  rw [hauthor] at hauthors
  exact Shape.ofRecords_singleton rfl hauthors

/-- **The name of an author is an argument that does not find its node**, for
the authors stand in a list. -/
theorem coauthored_not_found :
    Argument.IsLeafAt (Inference.argumentsOfNodes "" [coauthored]) ["authors", "name"] .string
        FieldKind.string.operators
      ∧ Reaches ["name"] (coauthored.get "authors") (.string "Ada")
      ∧ ∃ selected,
          select id (nested .eq (.string "Ada") ["authors", "name"]) [coauthored] = .ok selected
            ∧ coauthored ∉ selected := by
  have hleaf : Argument.IsLeafAt (Inference.argumentsOfNodes "" [coauthored])
      ["authors", "name"] .string FieldKind.string.operators := by
    have harguments : Inference.argumentsOfNodes "" [coauthored]
        = [("id", .leaf "id" .id Operator.ofTexts),
          ("type", .leaf "type" .string Operator.ofTexts),
          ("authors", .group "authors"
            [("name", .leaf "authors.name" .string Operator.ofTexts)])] := by
      show ArgumentMap.update _ (Argument.ofFields ""
        (Shape.fields [] (Shape.ofRecords (Inference.nodeRecords [coauthored])))) = _
      rw [ofRecords_coauthored]
      rfl
    rw [harguments]
    exact .group (List.mem_cons_of_mem _ (List.mem_cons_of_mem _ List.mem_cons_self))
      (.leaf List.mem_cons_self)
  have hreaches : Reaches ["name"] (coauthored.get "authors") (.string "Ada") :=
    .item rfl List.mem_cons_self (.entry rfl (.here rfl))
  have hlist : MeetsList ["name"] (coauthored.get "authors") := .here rfl
  obtain ⟨-, selected, hselect, hiff⟩ := finds_iff_not_meetsList [coauthored] hleaf (by decide)
    List.mem_cons_self hreaches rfl
  exact ⟨hleaf, hreaches, selected, hselect, fun hmem => hiff.1 hmem hlist⟩

end ContentGraph.Filter
