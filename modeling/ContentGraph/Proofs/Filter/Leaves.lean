import ContentGraph.Proofs.Filter.Test
import ContentGraph.Proofs.Value.Symmetry

/-!
# What the tests look at in a list

A test that goes through lists comes down to tests of single values: those that
are left when every list in the value is taken apart, at whatever depth
(`Value.leaves`). The two negative operators take apart the list that they are
given and no other. They look at its items as they are, which may be lists
themselves (`Value.members`).

So equality and membership ask for some leaf, and their negations for no member
(`Filter.test_positive`, `Filter.test_negative`). Where the members are no
lists, they are the leaves.
-/

namespace ContentGraph

namespace Value

mutual

/-- **The values that a value is made of**, every list in it taken apart. A
value that is no list is made of itself. -/
def leaves : Value → List Value
  | list items => leavesOfAll items
  | tuple items => leavesOfAll items
  | v => [v]

/-- The leaves of some values, one after the other. -/
def leavesOfAll : List Value → List Value
  | [] => []
  | v :: rest => leaves v ++ leavesOfAll rest

end

/-- **The items of a list**, as they are. A value that is no list has itself for
its only member. -/
def members (v : Value) : List Value := v.items?.getD [v]

/-- A list of values none of which is a list again. A value that is no list
counts as flat too. -/
def isFlat (v : Value) : Bool := v.members.all fun item => !item.isSequence

theorem members_of_items? {v : Value} {items : List Value} (h : v.items? = some items) :
    v.members = items := by
  rw [members, h]
  rfl

theorem members_of_items?_eq_none {v : Value} (h : v.items? = none) : v.members = [v] := by
  rw [members, h]
  rfl

theorem leaves_of_items?_eq_none {v : Value} (h : v.items? = none) : v.leaves = [v] := by
  cases v with
  | list _ | tuple _ => cases h
  | _ => rfl

theorem leaves_of_items? {v : Value} {items : List Value} (h : v.items? = some items) :
    v.leaves = leavesOfAll items := by
  cases v with
  | list _ | tuple _ =>
    cases h
    rfl
  | _ => cases h

theorem items?_eq_none_of_isSequence {v : Value} (h : v.isSequence = false) : v.items? = none := by
  cases v with
  | list _ | tuple _ => cases h
  | _ => rfl

theorem leavesOfAll_eq_self {values : List Value} (h : ∀ v ∈ values, v.isSequence = false) :
    leavesOfAll values = values := by
  induction values with
  | nil => rfl
  | cons v rest ih =>
    obtain ⟨hv, hrest⟩ := List.forall_mem_cons.1 h
    rw [leavesOfAll, leaves_of_items?_eq_none (items?_eq_none_of_isSequence hv), ih hrest,
      List.singleton_append]

/-- **In a flat list the members are the leaves.** -/
theorem leaves_eq_members_of_isFlat {v : Value} (h : v.isFlat = true) : v.leaves = v.members := by
  have hmembers : ∀ item ∈ v.members, item.isSequence = false := by
    simpa only [isFlat, List.all_eq_true, Bool.not_eq_true'] using h
  cases hitems : v.items? with
  | none => rw [leaves_of_items?_eq_none hitems, members_of_items?_eq_none hitems]
  | some items =>
    rw [members_of_items? hitems] at hmembers ⊢
    rw [leaves_of_items? hitems, leavesOfAll_eq_self hmembers]

/-- The members of a well-keyed value are well-keyed. -/
theorem isWellKeyed_of_mem_members {v item : Value} (h : v.isWellKeyed = true)
    (hitem : item ∈ v.members) : item.isWellKeyed = true := by
  cases v with
  | list items | tuple items => exact allWellKeyed_iff.1 h item hitem
  | _ =>
    cases List.mem_singleton.1 hitem
    exact h

end Value

namespace Filter

/-! ## Tests that go through lists -/

section Leaves

variable {op : Operator} {operand : Value} {p : Value → Bool}

mutual

/-- **A test that goes through lists passes if it does for some leaf**, where it
comes to an answer for all of them. -/
theorem test_eq_any_leaves (hop : descends op = true) : (v : Value) →
    (∀ leaf ∈ v.leaves, testOne op operand leaf = .ok (p leaf)) →
    test op operand v = .ok (v.leaves.any p)
  | .list items, hone | .tuple items, hone => by
    rw [test, if_pos hop, testAny_eq_any_leaves hop items hone, Value.leaves]
  | .null, hone | .bool _, hone | .int _, hone | .float _, hone | .decimal _, hone
  | .string _, hone | .bytes _, hone | .date _, hone | .moment _, hone | .map _, hone => by
    rw [test, hone _ List.mem_cons_self, Value.leaves, List.any_cons, List.any_nil,
      Bool.or_false] <;> exact nofun

theorem testAny_eq_any_leaves (hop : descends op = true) : (values : List Value) →
    (∀ leaf ∈ Value.leavesOfAll values, testOne op operand leaf = .ok (p leaf)) →
    testAny op operand values = .ok ((Value.leavesOfAll values).any p)
  | [], _ => rfl
  | v :: rest, hone => by
    obtain ⟨hv, hrest⟩ := List.forall_mem_append.1 hone
    rw [testAny, test_eq_any_leaves hop v hv, Value.leavesOfAll, List.any_append]
    cases v.leaves.any p with
    | true => rfl
    | false => exact testAny_eq_any_leaves hop rest hrest

end

end Leaves

/-! ## Tests and their negations -/

/-- **An operator and its negation.** -/
inductive Negates : Operator → Operator → Prop
  /-- To differ is not to be equal. -/
  | ne : Negates .eq .ne
  /-- To be none of the choices is not to be one of them. -/
  | noneOf : Negates .oneOf .noneOf

/-- What the operand of equality or membership asks of a single value: to be
equal to it, or to one of its choices. -/
def asks (op : Operator) (operand v : Value) : Bool :=
  match op with
  | .oneOf => v.memberOf (choices operand)
  | _ => v.eq operand

/-- **Equality and membership look for a leaf.** -/
theorem test_positive {op neg : Operator} (h : Negates op neg) (operand v : Value) :
    test op operand v = .ok (v.leaves.any (asks op operand)) := by
  cases h with
  | ne | noneOf => exact test_eq_any_leaves rfl v fun _ _ => rfl

/-- **Their negations look for a member**, and pass if there is none. -/
theorem test_negative {op neg : Operator} (h : Negates op neg) {operand v : Value}
    (hoperand : operand.isWellKeyed = true) (hv : v.isWellKeyed = true) :
    test neg operand v = .ok !(v.members.any (asks op operand)) := by
  have htest : test neg operand v = testOne neg operand v := by
    cases h <;> cases v <;> rfl
  rw [htest]
  cases hitems : v.items? with
  | none =>
    rw [Value.members_of_items?_eq_none hitems, List.any_cons, List.any_nil, Bool.or_false]
    cases h with
    | ne | noneOf =>
      rw [testOne, hitems]
      rfl
  | some items =>
    have hmembers := Value.members_of_items? hitems
    cases h with
    | noneOf =>
      rw [testOne, hitems, hmembers]
      rfl
    | ne =>
      -- The operand is looked for among the items, and stands on the other side.
      have hsides : operand.memberOf items = v.members.any (asks .eq operand) := by
        rw [Value.memberOf, hmembers, Bool.eq_iff_iff, List.any_eq_true, List.any_eq_true]
        refine exists_congr fun item => and_congr_right fun hitem => ?_
        rw [Value.eq_comm_of_isWellKeyed operand hoperand
          (Value.isWellKeyed_of_mem_members hv (hmembers ▸ hitem))]
        rfl
      rw [testOne, hitems, ← hsides]

end Filter

end ContentGraph
