import ContentGraph.Proofs.Filter.Leaves

/-!
# Membership is equality with some choice

A value is one of several choices if it equals one of them, and it is none of
them if it differs from each. For a value that is no list this is what
membership means. For lists it is an exchange of two quantifiers, and it holds
although the tests take lists apart: membership looks for a leaf that is some
choice, equality with a choice for a leaf that is this choice, and the negations
do the same with the members (`Filter.test_choices`).

An operand that lists nothing is a choice by itself.
-/

namespace ContentGraph.Filter

theorem choices_of_items? {operand : Value} {xs : List Value} (h : operand.items? = some xs) :
    choices operand = xs := by
  cases operand with
  | list _ | tuple _ =>
    cases h
    rfl
  | _ => cases h

theorem choices_of_items?_eq_none {operand : Value} (h : operand.items? = none) :
    choices operand = [operand] := by
  cases operand with
  | list _ | tuple _ => cases h
  | _ => rfl

/-- Some value is one of the choices if and only if, for some choice, some value
equals it. -/
theorem exists_asks_oneOf_iff {operand : Value} {xs : List Value} (h : operand.items? = some xs)
    (values : List Value) :
    (∃ v ∈ values, asks .oneOf operand v = true)
      ↔ ∃ x ∈ xs, ∃ v ∈ values, asks .eq x v = true := by
  have hasks (v : Value) : asks .oneOf operand v = true ↔ ∃ x ∈ xs, asks .eq x v = true := by
    rw [asks, choices_of_items? h, Value.memberOf, List.any_eq_true]
    rfl
  simp only [hasks]
  constructor
  · rintro ⟨v, hv, x, hx, heq⟩
    exact ⟨x, hx, v, hv, heq⟩
  · rintro ⟨x, hx, v, hv, heq⟩
    exact ⟨v, hv, x, hx, heq⟩

/-- **To be one of the choices is to equal one of them, to be none is to differ
from all of them**, at whatever depth the value holds lists. Both tests come to an
answer. An operand that is neither a list nor a tuple is its only choice. -/
theorem test_choices {operand v : Value} (hoperand : operand.isWellKeyed = true)
    (hv : v.isWellKeyed = true) :
    (∀ xs, operand.items? = some xs →
      (∃ passed, test .oneOf operand v = .ok passed
        ∧ (passed = true ↔ ∃ x ∈ xs, test .eq x v = .ok true))
      ∧ ∃ passed, test .noneOf operand v = .ok passed
        ∧ (passed = true ↔ ∀ x ∈ xs, test .ne x v = .ok true))
    ∧ (operand.items? = none →
      test .oneOf operand v = test .oneOf (.list [operand]) v
        ∧ test .noneOf operand v = test .noneOf (.list [operand]) v) := by
  refine ⟨fun xs hxs => ⟨?_, ?_⟩, fun hnone => ?_⟩
  · refine ⟨_, test_positive .noneOf operand v, ?_⟩
    simp only [test_positive .ne, Except.ok.injEq, List.any_eq_true]
    exact exists_asks_oneOf_iff hxs v.leaves
  · have hchoice : ∀ x ∈ xs, x.isWellKeyed = true := fun x hx =>
      Value.isWellKeyed_of_mem_members hoperand (Value.members_of_items? hxs ▸ hx)
    have hne : (∀ x ∈ xs, test .ne x v = .ok true)
        ↔ ∀ x ∈ xs, ¬ ∃ item ∈ v.members, asks .eq x item = true := by
      refine forall_congr' fun x => forall_congr' fun hx => ?_
      rw [test_negative .ne (hchoice x hx) hv, Except.ok.injEq, Bool.not_eq_true',
        ← Bool.not_eq_true, List.any_eq_true]
    refine ⟨_, test_negative .noneOf hoperand hv, ?_⟩
    rw [hne, Bool.not_eq_true', ← Bool.not_eq_true, List.any_eq_true,
      exists_asks_oneOf_iff hxs v.members, not_exists]
    simp only [not_and]
  · have hasks : asks .oneOf operand = asks .oneOf (.list [operand]) := by
      funext w
      rw [asks, asks, choices_of_items?_eq_none hnone, choices_of_items? rfl]
    have hlist : (Value.list [operand]).isWellKeyed = true :=
      Value.allWellKeyed_iff.2 (List.forall_mem_singleton.2 hoperand)
    rw [test_positive .noneOf, test_positive .noneOf, test_negative .noneOf hoperand hv,
      test_negative .noneOf hlist hv, hasks]
    exact ⟨rfl, rfl⟩

/-- A text in a list of lists is one of two choices, because it equals the second
one; the list that holds it is not. -/
theorem test_choices_nested :
    (Value.tuple [.string "w", .string "x"]).isWellKeyed = true
      ∧ (Value.list [.list [.string "x"], .map [(.string "k", .int 1)]]).isWellKeyed = true
      ∧ test .oneOf (.tuple [.string "w", .string "x"])
          (.list [.list [.string "x"], .map [(.string "k", .int 1)]]) = .ok true
      ∧ test .noneOf (.tuple [.string "w", .string "x"])
          (.list [.list [.string "x"], .map [(.string "k", .int 1)]]) = .ok true := by
  have hoperand : (Value.tuple [.string "w", .string "x"]).isWellKeyed = true := by decide
  have hv : (Value.list [.list [.string "x"], .map [(.string "k", .int 1)]]).isWellKeyed
      = true := by decide
  obtain ⟨⟨isOne, hone, honeIff⟩, isNone, hnone, hnoneIff⟩ :=
    (test_choices hoperand hv).1 [.string "w", .string "x"] rfl
  have hsome : isOne = true :=
    honeIff.2 ⟨.string "x", List.mem_cons_of_mem _ List.mem_cons_self, by decide⟩
  have hall : isNone = true :=
    hnoneIff.2 (List.forall_mem_cons.2 ⟨by decide, List.forall_mem_singleton.2 (by decide)⟩)
  exact ⟨hoperand, hv, hsome ▸ hone, hall ▸ hnone⟩

end ContentGraph.Filter
