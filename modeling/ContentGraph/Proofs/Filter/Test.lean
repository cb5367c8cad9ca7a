import ContentGraph.Filter.Test
import ContentGraph.Proofs.Value.Equality

/-!
# When a test comes to an answer

A pattern may be no regular expression, and a decimal has no order with what is
not a number; every other test comes to an answer on every value
(`Filter.exists_test_eq_ok`). Such a test of a list passes if it passes for an item
(`Filter.testAny_eq_true_iff`), and the test for equality passes for every scalar
that is present when the operand is that scalar.
-/

namespace ContentGraph.Filter

/-- Whether an operator asks for an order. -/
def isOrder : Operator → Bool
  | .gt => true
  | .gte => true
  | .lt => true
  | .lte => true
  | _ => false

/-- Whether an operator comes to an answer whatever it is put to. -/
def alwaysAnswers (op : Operator) : Bool := op != .regex && !isOrder op

/-- Only a pattern or an order can keep the test of a single value from an answer. -/
theorem exists_testOne_eq_ok {op : Operator} (hop : alwaysAnswers op = true)
    (operand value : Value) : ∃ passed, testOne op operand value = .ok passed := by
  cases op with
  | regex | gt | gte | lt | lte => cases hop
  | ne | noneOf => cases value <;> exact ⟨_, rfl⟩
  | glob => cases value <;> exact ⟨_, rfl⟩
  | eq | oneOf => exact ⟨_, rfl⟩

mutual

/-- **Every test but that of a pattern or of an order comes to an answer.** -/
theorem exists_test_eq_ok {op : Operator} (hop : alwaysAnswers op = true) (operand : Value) :
    (value : Value) → ∃ passed, test op operand value = .ok passed
  | .list items => by
    rw [test]
    cases descends op with
    | true => exact exists_testAny_eq_ok hop operand items
    | false => exact exists_testOne_eq_ok hop operand _
  | .tuple items => by
    rw [test]
    cases descends op with
    | true => exact exists_testAny_eq_ok hop operand items
    | false => exact exists_testOne_eq_ok hop operand _
  | .null | .bool _ | .int _ | .float _ | .decimal _ | .string _ | .bytes _ | .date _
  | .moment _ | .map _ => exists_testOne_eq_ok hop operand _

theorem exists_testAny_eq_ok {op : Operator} (hop : alwaysAnswers op = true) (operand : Value) :
    (items : List Value) → ∃ passed, testAny op operand items = .ok passed
  | [] => ⟨false, rfl⟩
  | item :: rest => by
    obtain ⟨passed, hp⟩ := exists_test_eq_ok hop operand item
    rw [testAny, hp]
    cases passed with
    | true => exact ⟨true, rfl⟩
    | false => exact exists_testAny_eq_ok hop operand rest

end

/-- A list passes if one of its items does. -/
theorem testAny_eq_true_iff {op : Operator} (hop : alwaysAnswers op = true) (operand : Value)
    (items : List Value) :
    testAny op operand items = .ok true ↔ ∃ item ∈ items, test op operand item = .ok true := by
  induction items with
  | nil => simp [testAny]
  | cons item rest ih =>
    obtain ⟨passed, hp⟩ := exists_test_eq_ok hop operand item
    rw [testAny, hp]
    simp only [List.mem_cons, exists_eq_or_imp, hp, ← ih]
    cases passed with
    | true => exact ⟨fun _ => Or.inl rfl, fun _ => rfl⟩
    | false => exact ⟨Or.inr, fun h => h.resolve_left (by simp)⟩

/-- The items of a list or tuple are tested for equality one by one. -/
theorem test_eq_of_items? {value operand : Value} {items : List Value}
    (h : value.items? = some items) : test .eq operand value = testAny .eq operand items := by
  cases value with
  | list _ | tuple _ => rw [test, Option.some.inj h]; rfl
  | _ => cases h

/-- A scalar is tested for equality as it is. -/
theorem test_eq_of_isScalar {value operand : Value} (h : value.isScalar = true) :
    test .eq operand value = .ok (value.eq operand) := by
  cases value with
  | list _ | tuple _ => exact absurd h Bool.false_ne_true
  | _ => rfl

end ContentGraph.Filter
