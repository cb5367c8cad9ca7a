import ContentGraph.Proofs.Filter.Leaves
import ContentGraph.Proofs.Filter.Select

/-!
# Tests and their negations

Equality and membership go through lists in lists. Their negations do not: they
ask whether some item of the list is the operand or one of the choices, and an
item that is a list is compared as a list. So a test and its negation answer
opposite questions as long as the two ways to look at a value agree
(`Filter.SeenAlike`), which they do on every value that is no list and on every
list without lists among its items.

In a list of lists they need not agree. The text in `[["x"]]` is found by
equality and is no item, so the value is equal to the text and differs from it
(`Filter.nestedTags_selected_twice`); the list in `[["x"]]` is an item and is not
found, so the value neither equals it nor differs from it. A filter and its
negation then do not share out the nodes between them
(`Filter.complements_iff_seenAlike`).
-/

namespace ContentGraph.Filter

/-- **A value is seen alike** by a test and its negation: some leaf is what the
operand asks for if and only if some member is. -/
def SeenAlike (op : Operator) (operand v : Value) : Prop :=
  (∃ leaf ∈ v.leaves, asks op operand leaf = true)
    ↔ ∃ item ∈ v.members, asks op operand item = true

/-- Two selections of items that share them out: each item is in one of them
and not in the other, in the order of the items. -/
def ShareOut {α : Type} (items selected others : List α) : Prop :=
  ∃ p : α → Bool, selected = items.filter p ∧ others = items.filter fun item => !p item

theorem eq_of_filter_eq {α : Type} {items : List α} {p q : α → Bool}
    (h : items.filter p = items.filter q) {item : α} (hitem : item ∈ items) : p item = q item := by
  have hmem : item ∈ items.filter p ↔ item ∈ items.filter q := by rw [h]
  rw [List.mem_filter, List.mem_filter, and_iff_right hitem, and_iff_right hitem] at hmem
  exact Bool.eq_iff_iff.2 hmem

theorem shareOut_filter_iff {α : Type} (items : List α) (p q : α → Bool) :
    ShareOut items (items.filter p) (items.filter q) ↔ ∀ item ∈ items, q item = !p item := by
  constructor
  · rintro ⟨r, hp, hq⟩ item hitem
    rw [eq_of_filter_eq hq hitem, eq_of_filter_eq hp hitem]
  · exact fun h => ⟨p, rfl, List.filter_congr h⟩

theorem not_any_eq_not_any_iff {op : Operator} {operand v : Value} :
    (!(v.members.any (asks op operand))) = !(v.leaves.any (asks op operand))
      ↔ SeenAlike op operand v := by
  rw [Bool.not_inj_iff, Bool.eq_iff_iff, List.any_eq_true, List.any_eq_true]
  exact Iff.comm

/-- **A test and its negation are complements exactly where they see alike.** On
every value both come to an answer, and the answers are opposite if and only if
the value is seen alike by both; flat lists, and values that are no lists, always
are. Of nodes, the two share out all of them if and only if the value in question
is seen alike in each. -/
theorem complements_iff_seenAlike {op neg : Operator} (h : Negates op neg) {operand : Value}
    (hoperand : operand.isWellKeyed = true) :
    (∀ v : Value, v.isWellKeyed = true →
      ∃ passed negated, test op operand v = .ok passed ∧ test neg operand v = .ok negated
        ∧ (negated = (!passed) ↔ SeenAlike op operand v))
    ∧ (∀ v : Value, v.isFlat = true → SeenAlike op operand v)
    ∧ ∀ {α : Type} (node : α → Node) (items : List α) (key : String) (rest : List String),
        (∀ name ∈ rest, Operator.ofName? name = none) →
        (∀ item ∈ items,
          (valueAt (node item) ((key :: rest).map .string)).isWellKeyed = true) →
        ∃ selected others, select node (nested op operand (key :: rest)) items = .ok selected
          ∧ select node (nested neg operand (key :: rest)) items = .ok others
          ∧ (ShareOut items selected others
              ↔ ∀ item ∈ items,
                  SeenAlike op operand (valueAt (node item) ((key :: rest).map .string))) := by
  refine ⟨fun v hv => ?_, fun v hflat => ?_, fun node items key rest hrest hvalues => ?_⟩
  · exact ⟨_, _, test_positive h operand v, test_negative h hoperand hv, not_any_eq_not_any_iff⟩
  · rw [SeenAlike, Value.leaves_eq_members_of_isFlat hflat]
  · have hop : alwaysAnswers op = true ∧ alwaysAnswers neg = true := by cases h <;> decide
    refine ⟨_, _, select_nested node items hop.1 operand key hrest,
      select_nested node items hop.2 operand key hrest, ?_⟩
    rw [shareOut_filter_iff]
    refine forall_congr' fun item => forall_congr' fun hitem => ?_
    rw [Condition.holds, Condition.holds, test_positive h,
      test_negative h hoperand (hvalues item hitem)]
    exact not_any_eq_not_any_iff

/-- A node whose tags are in a list in a list. -/
def nestedTags : Node :=
  .ofFields "a" "T" [(.string "tags", .list [.list [.string "x"]])]

/-- **A text in a list of lists is found and missed at once**: the node is
selected both by the filter for the tag and by its negation. -/
theorem nestedTags_selected_twice :
    (valueAt nestedTags [.string "tags"]).isWellKeyed = true
      ∧ select id (nested .eq (.string "x") ["tags"]) [nestedTags] = .ok [nestedTags]
      ∧ select id (nested .ne (.string "x") ["tags"]) [nestedTags] = .ok [nestedTags]
      ∧ ¬ SeenAlike .eq (.string "x") (valueAt nestedTags [.string "tags"])
      ∧ ¬ ShareOut [nestedTags] [nestedTags] [nestedTags] := by
  have hkeyed : (valueAt nestedTags [.string "tags"]).isWellKeyed = true := by decide
  have hoperand : (Value.string "x").isWellKeyed = true := rfl
  have hselected : select id (nested .eq (.string "x") ["tags"]) [nestedTags] = .ok [nestedTags] :=
    by decide +kernel
  have hothers : select id (nested .ne (.string "x") ["tags"]) [nestedTags] = .ok [nestedTags] :=
    by decide +kernel
  have hunlike : ¬ SeenAlike .eq (.string "x") (valueAt nestedTags [.string "tags"]) := by
    unfold SeenAlike
    decide
  obtain ⟨selected, others, hs, ho, hiff⟩ :=
    (complements_iff_seenAlike .ne hoperand).2.2 id [nestedTags] "tags" []
      (fun _ hname => nomatch hname) (List.forall_mem_singleton.2 hkeyed)
  cases hselected.symm.trans hs
  cases hothers.symm.trans ho
  exact ⟨hkeyed, hs, ho, hunlike, fun hshare => hunlike (hiff.1 hshare _ List.mem_cons_self)⟩

end ContentGraph.Filter
