import ContentGraph.Proofs.Filter.Flatten
import ContentGraph.Proofs.Inference.Shape
import ContentGraph.Proofs.Node.Attribute
import ContentGraph.Proofs.Schema.Argument

/-!
# Which arguments a filter can express

The names of arguments come from the keys of records, whatever these are. A
filter asks for an argument by nesting its names, with an operator at the end,
and it tells names from operators by nothing but their spelling.

So a name that is spelled like an operator is one, unless it is the first: the
filter ends there, and what is nested below becomes the operand. The map is the
same as that of another filter, with a shorter path (`Filter.nested_append`).
Every argument is read as some condition, and it is the one that was meant if
and only if no name after the first is that of an operator
(`Filter.flatten_argument`).
-/

namespace ContentGraph

/-- Names among which there is an operator's have a first one. -/
theorem Operator.exists_first {names : List String} (h : ∃ name ∈ names, ofName? name ≠ none) :
    ∃ before op after, names = before ++ name op :: after
      ∧ ∀ name ∈ before, ofName? name = none := by
  have hfound : (names.find? fun name => (ofName? name).isSome).isSome = true :=
    List.find?_isSome.2 (h.imp fun _ ⟨hmem, hname⟩ => ⟨hmem, Option.isSome_iff_ne_none.2 hname⟩)
  obtain ⟨found, hfound⟩ := Option.isSome_iff_exists.1 hfound
  obtain ⟨hname, before, after, rfl, hbefore⟩ := List.find?_eq_some_iff_append.1 hfound
  obtain ⟨op, hop⟩ := Option.isSome_iff_exists.1 hname
  refine ⟨before, op, after, by rw [eq_name_of_ofName? hop], fun name hmem => ?_⟩
  simpa using hbefore name hmem

namespace Argument

/-- There are names on the path of a leaf. -/
theorem IsLeafAt.names_ne_nil {arguments : ArgumentMap} {names : List String} {kind : FieldKind}
    {operators : List Operator} (h : IsLeafAt arguments names kind operators) : names ≠ [] := by
  cases h <;> exact List.cons_ne_nil _ _

end Argument

namespace Filter

/-- **A filter does not say where its path ends**: with the name of an operator
on the path, it is also the filter that ends there. -/
theorem nested_append (op : Operator) (operand : Value) (before : List String) (inner : Operator)
    (after : List String) :
    nested op operand (before ++ inner.name :: after)
      = nested inner (nested op operand after) before := by
  induction before with
  | nil => rfl
  | cons name rest ih => rw [List.cons_append, nested, nested, ih]

/-- **The filter of an argument is read up to the first operator** after its
first name. -/
theorem flatten_nested_append (op : Operator) (operand : Value) (key : String)
    {before : List String} (inner : Operator) (after : List String)
    (hbefore : ∀ name ∈ before, Operator.ofName? name = none) :
    flatten (nested op operand (key :: before ++ inner.name :: after))
      = .ok [⟨(key :: before).map .string, inner, nested op operand after⟩] := by
  rw [nested_append, flatten_nested inner _ key hbefore]

/-- **An argument is expressed if no name after the first is an operator's, and
misread otherwise.** The filter of an argument, with any operator and operand,
is always accepted and has one condition. If the names after the first are no
operators, it is the condition that was meant. If one is, the path of the
condition ends before the first such name, the operator is the one that it
names, and the rest of the filter is the operand. -/
theorem flatten_argument {path : String} {nodes : List Node} {names : List String}
    {kind : FieldKind} {operators : List Operator}
    (hleaf : Argument.IsLeafAt (Inference.argumentsOfNodes path nodes) names kind operators)
    (op : Operator) (operand : Value) :
    ∃ c, flatten (nested op operand names) = .ok [c]
      ∧ (c = ⟨names.map .string, op, operand⟩
          ↔ ∀ name ∈ names.tail, Operator.ofName? name = none)
      ∧ ∀ key before inner after, names = key :: before ++ Operator.name inner :: after →
          (∀ name ∈ before, Operator.ofName? name = none) →
          c = ⟨(key :: before).map .string, inner, nested op operand after⟩ := by
  obtain ⟨key, rest, rfl⟩ := List.exists_cons_of_ne_nil hleaf.names_ne_nil
  rw [List.tail_cons]
  by_cases hrest : ∀ name ∈ rest, Operator.ofName? name = none
  · refine ⟨_, flatten_nested op operand key hrest, iff_of_true rfl hrest, ?_⟩
    intro key before inner after heq _
    obtain ⟨-, rfl⟩ := List.cons.inj heq
    have hinner := hrest inner.name (List.mem_append_right _ List.mem_cons_self)
    rw [ofName?_name] at hinner
    cases hinner
  · have hexists : ∃ name ∈ rest, Operator.ofName? name ≠ none := by simpa using hrest
    obtain ⟨before, inner, after, rfl, hbefore⟩ := Operator.exists_first hexists
    have hread := flatten_nested_append op operand key inner after hbefore
    refine ⟨_, hread, iff_of_false (fun heq => ?_) hrest, ?_⟩
    · -- The path that was meant is longer.
      have hlength := congrArg (fun c => c.path.length) heq
      simp only [List.length_map, List.length_cons, List.length_append] at hlength
      omega
    · intro key' before' inner' after' heq hbefore'
      rw [List.cons_append, heq,
        flatten_nested_append op operand key' inner' after' hbefore'] at hread
      exact (List.cons.inj (Except.ok.inj hread)).1.symm

/-- A node with a range, whose bound has the name of an operator. -/
def bounded : Node := .ofFields "a" "T" [(.string "range", .map [(.string "lt", .int 5)])]

/-- The range of the node is an object with a number. -/
theorem ofRecords_bounded :
    Shape.ofRecords (Inference.nodeRecords [bounded])
      = [("range", .object [("lt", .scalar .int (.int 5))])] := by
  have hbound : Shape.ofRecords [.map [(.string "lt", .int 5)]]
      = [("lt", .scalar .int (.int 5))] :=
    Shape.ofRecords_singleton rfl (Shape.ofColumn_of_isScalar (by decide))
  have hrange : Shape.ofColumn [.map [(.string "lt", .int 5)]]
      = some (.object (Shape.ofRecords [.map [(.string "lt", .int 5)]])) :=
    Shape.ofColumn_of_objects rfl
  rw [hbound] at hrange
  exact Shape.ofRecords_singleton rfl hrange

/-- **The bound of a range is an argument that no filter expresses**: asking
for a bound of five asks for a range that is below a map. -/
theorem bounded_misread :
    Argument.IsLeafAt (Inference.argumentsOfNodes "" [bounded]) ["range", "lt"] .int
        FieldKind.int.operators
      ∧ flatten (nested .eq (.int 5) ["range", "lt"])
          = .ok [⟨[.string "range"], .lt, .map [(.string "eq", .int 5)]⟩] := by
  have hleaf : Argument.IsLeafAt (Inference.argumentsOfNodes "" [bounded])
      ["range", "lt"] .int FieldKind.int.operators := by
    have harguments : Inference.argumentsOfNodes "" [bounded]
        = [("id", .leaf "id" .id Operator.ofTexts),
          ("type", .leaf "type" .string Operator.ofTexts),
          ("range", .group "range" [("lt", .leaf "range.lt" .int Operator.ofNumbers)])] := by
      show ArgumentMap.update _ (Argument.ofFields ""
        (Shape.fields [] (Shape.ofRecords (Inference.nodeRecords [bounded])))) = _
      rw [ofRecords_bounded]
      rfl
    rw [harguments]
    exact .group (List.mem_cons_of_mem _ (List.mem_cons_of_mem _ List.mem_cons_self))
      (.leaf List.mem_cons_self)
  obtain ⟨c, hflatten, -, hmisread⟩ := flatten_argument hleaf .eq (.int 5)
  have hc := hmisread "range" [] .lt [] rfl (fun _ hname => (nomatch hname))
  exact ⟨hleaf, by rw [hflatten, hc]; rfl⟩

end Filter

end ContentGraph
