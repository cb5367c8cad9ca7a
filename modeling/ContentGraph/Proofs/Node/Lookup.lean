import ContentGraph.Node.Collection

/-!
# A look-up finds the first node in order

A collection answers look-ups from indexes that are built once, by writing
every member under its key unless the key is taken. What a look-up means is
said without an index: of the members with the type and the identifier, the
first in order is found, and none if there is none
(`Collection.find?_eq_some_iff`, `Collection.find?_eq_none_iff`). The same holds
of a look-up by the identifier alone (`Collection.get?_eq_some_iff`).
-/

namespace ContentGraph

namespace Member

/-- A member has a type and, for its identifier, a value. Only a text is an
identifier, so a value that is no text is nobody's. -/
def Matches (type : String) (id : Value) (m : Member) : Prop :=
  m.node.type = type ∧ Value.string m.node.id = id

instance (type : String) (id : Value) (m : Member) : Decidable (m.Matches type id) :=
  inferInstanceAs (Decidable (_ ∧ _))

end Member

namespace Collection

/-- **The first member with a type and an identifier**: it has both, and no
member before it has. -/
def IsFirst (c : Collection) (type : String) (id : Value) (m : Member) : Prop :=
  m.Matches type id
    ∧ ∃ before after, c.members = before ++ m :: after ∧ ∀ o ∈ before, ¬ o.Matches type id

theorem IsFirst.mem {c : Collection} {type : String} {id : Value} {m : Member}
    (h : c.IsFirst type id m) : m ∈ c.members := by
  obtain ⟨-, before, after, heq, -⟩ := h
  rw [heq]
  exact List.mem_append_right _ List.mem_cons_self

/-! ## Indexes -/

/-- **An index holds the first member of every key.** An index that was begun
before keeps what it holds. -/
theorem getElem?_foldl_insertIfNew {α : Type} [BEq α] [Hashable α] [LawfulBEq α]
    [LawfulHashable α] (key : Member → α) (members : List Member)
    (index : Std.HashMap α Member) (k : α) :
    (members.foldl (fun index m => index.insertIfNew (key m) m) index)[k]?
      = index[k]?.or (members.find? fun m => key m == k) := by
  induction members generalizing index with
  | nil => rw [List.foldl_nil, List.find?_nil, Option.or_none]
  | cons m rest ih =>
    rw [List.foldl_cons, ih, Std.HashMap.getElem?_insertIfNew, List.find?_cons]
    cases hk : key m == k with
    | false => rfl
    | true =>
      have hmem : key m ∈ index ↔ index[k]?.isSome = true := by
        rw [Std.HashMap.mem_iff_isSome_getElem?, beq_iff_eq.1 hk]
      cases hi : index[k]? with
      | none => simp [hmem, hi]
      | some found => simp [hmem, hi]

/-- A look-up by type and identifier is a scan of the members in order. -/
theorem find?_ofNodes (nodes : List Node) (type : String) (id : Value) :
    (ofNodes nodes).find? type id
      = (ofNodes nodes).members.find? fun m => decide (m.Matches type id) := by
  cases id with
  | string s =>
    show ((ofNodes nodes).byTypeId)[(type, s)]? = _
    refine (getElem?_foldl_insertIfNew (fun m => (m.node.type, m.node.id)) _ ∅ _).trans ?_
    rw [Std.HashMap.getElem?_empty, Option.none_or]
    refine congrArg (fun p => List.find? p _) (funext fun m => ?_)
    rw [Bool.eq_iff_iff, beq_iff_eq, decide_eq_true_iff, Member.Matches, Prod.mk.injEq,
      Value.string.injEq]
  | _ =>
    refine (List.find?_eq_none.2 fun m _ h => ?_).symm
    cases (of_decide_eq_true h).2

/-- **The member that a look-up finds is the first one** with the type and
the identifier. -/
theorem find?_eq_some_iff {nodes : List Node} {type : String} {id : Value} {m : Member} :
    (ofNodes nodes).find? type id = some m ↔ (ofNodes nodes).IsFirst type id m := by
  rw [find?_ofNodes, List.find?_eq_some_iff_append, IsFirst, decide_eq_true_iff]
  simp only [Bool.not_eq_true', decide_eq_false_iff_not]

/-- **A look-up finds nothing if and only if there is nothing to find.** -/
theorem find?_eq_none_iff {nodes : List Node} {type : String} {id : Value} :
    (ofNodes nodes).find? type id = none
      ↔ ∀ m ∈ (ofNodes nodes).members, ¬ m.Matches type id := by
  rw [find?_ofNodes, List.find?_eq_none]
  simp only [decide_eq_true_iff]

/-- Of the members with a type and an identifier, one is the first. -/
theorem exists_isFirst {nodes : List Node} {type : String} {id : Value}
    (h : ∃ m ∈ (ofNodes nodes).members, m.Matches type id) :
    ∃ m, (ofNodes nodes).IsFirst type id m := by
  cases hfind : (ofNodes nodes).find? type id with
  | some m => exact ⟨m, find?_eq_some_iff.1 hfind⟩
  | none =>
    obtain ⟨m, hm, hmatches⟩ := h
    exact absurd hmatches (find?_eq_none_iff.1 hfind m hm)

/-! ## By the identifier alone -/

/-- **The first member with an identifier**: it has it, and no member before it
has. -/
def IsFirstNamed (c : Collection) (id : String) (m : Member) : Prop :=
  m.node.id = id
    ∧ ∃ before after, c.members = before ++ m :: after ∧ ∀ o ∈ before, o.node.id ≠ id

theorem IsFirstNamed.mem {c : Collection} {id : String} {m : Member} (h : c.IsFirstNamed id m) :
    m ∈ c.members := by
  obtain ⟨-, before, after, heq, -⟩ := h
  rw [heq]
  exact List.mem_append_right _ List.mem_cons_self

/-- A look-up by identifier is a scan of the members in order. -/
theorem get?_ofNodes (nodes : List Node) (id : String) :
    (ofNodes nodes).get? id = (ofNodes nodes).members.find? fun m => m.node.id == id := by
  show ((ofNodes nodes).byId)[id]? = _
  refine (getElem?_foldl_insertIfNew (fun m => m.node.id) _ ∅ _).trans ?_
  rw [Std.HashMap.getElem?_empty, Option.none_or]
  rfl

/-- **The member that a look-up by identifier finds is the first one.** -/
theorem get?_eq_some_iff {nodes : List Node} {id : String} {m : Member} :
    (ofNodes nodes).get? id = some m ↔ (ofNodes nodes).IsFirstNamed id m := by
  rw [get?_ofNodes, List.find?_eq_some_iff_append, IsFirstNamed, beq_iff_eq]
  simp only [Bool.not_eq_true', beq_eq_false_iff_ne]

theorem get?_eq_none_iff {nodes : List Node} {id : String} :
    (ofNodes nodes).get? id = none ↔ ∀ m ∈ (ofNodes nodes).members, m.node.id ≠ id := by
  rw [get?_ofNodes, List.find?_eq_none]
  simp only [beq_iff_eq, ne_eq]

end Collection

end ContentGraph
