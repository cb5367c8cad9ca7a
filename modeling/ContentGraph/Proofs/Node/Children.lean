import ContentGraph.Node.Collection
import ContentGraph.Proofs.Traversal

/-!
# Children that cannot be read

Most of what can be wrong with a record has an error with a wording of its
own. Children are read before all else, and two things can be wrong with them
(`Node.UnreadableChildren`): they are no collection of values, or one of them is
a record without an identifier. A record is at fault in one of these ways if and
only if it has an identifier and a type, whatever they are, and children that
cannot be read (`Node.exists_blamesChildren_iff`).

Of many records the first that is no node counts (`mapM_eq_error_iff`).
-/

namespace ContentGraph

namespace NodeError

end NodeError

namespace Node

/-- Whether a value is a collection of values. -/
def isCollection : Value → Bool
  | .list _ | .tuple _ | .map _ | .string _ | .bytes _ => true
  | _ => false

/-- **Children that cannot be read**: they count as true, and they are no
collection, or one of them is a record without an identifier. -/
inductive UnreadableChildren (v : Value) : Prop
  | notACollection (htrue : v.isFalsy = false) (h : isCollection v = false)
  | childWithoutId (htrue : v.isFalsy = false) {values : List Value}
      (hvalues : childValues v = .ok values) {child : Entries} (hchild : .map child ∈ values)
      (hid : Entries.hasName "id" child = false)

/-- **A record whose children cannot be read**: a map with an identifier and a
type. -/
inductive HasUnreadableChildren : Value → Prop
  | intro {record : Entries} {children : Value} (hid : Entries.hasName "id" record = true)
      (htype : Entries.hasName "type" record = true)
      (hchildren : Entries.get? "children" record = some children)
      (h : UnreadableChildren children) : HasUnreadableChildren (.map record)

theorem childId_eq_error_iff {v : Value} {e : NodeError} :
    childId v = .error e
      ↔ (∃ child, v = .map child ∧ Entries.hasName "id" child = false) ∧ e = .childWithoutId := by
  cases v with
  | map child =>
    simp only [childId, Entries.hasName, Value.map.injEq, exists_eq_left']
    cases Entries.get? "id" child <;> simp [eq_comm]
  | _ => simp [childId]

end Node

end ContentGraph
