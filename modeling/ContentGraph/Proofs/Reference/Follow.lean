import ContentGraph.Proofs.Node.Lookup
import ContentGraph.Reference.Follow

/-!
# Where a reference leads

Three rules may find the node of a reference, each with conditions of its own:
the value names a file, the value is an identifier of the type linked to, or
the type linked to is that of files and the value is a path. The rules overlap
– a text may be all three at once – and they share one look-up.

`Reference.resolve` tries them in turn. What it comes to is said here by the
three *candidates*, the nodes that each rule would find by itself, and by
their order (`Reference.Accounts`): which rule found a node, that no rule
before it could have, and, where no node was found, that there was none to
find. The candidates are the first members in order with a type and an
identifier, so nothing is said in terms of the index that is asked.
-/

namespace ContentGraph.Reference

/-! ## Candidates -/

/-- **The file that a value leads to as a path**, from a directory that is
known: the first file whose identifier is the path. -/
def IsFileAt (working : String) (c : Collection) (directory : Option String) (value : Value)
    (m : Member) : Prop :=
  ∃ d s, directory = some d ∧ value = .string s
    ∧ c.IsFirst fileType (.string (Path.resolve working d s)) m

/-- **The node that a value identifies**: the first one of the type linked to
whose identifier is the value. -/
def IsTyped (c : Collection) (target : Option String) (value : Value) (m : Member) : Prop :=
  ∃ type, target = some type ∧ c.IsFirst type value m

/-- The file that the rule for the names of files finds. -/
def linkCandidate? (working : String) (context : Context) (n : Node) (field : String) :
    Option Member :=
  if Shape.isFileLink (n.get field) then
    fileAt? context (linkPath? working (sourceDirectory? context n) (n.get field))
  else none

/-- The node that the rule for identifiers finds. -/
def typedCandidate? (context : Context) (n : Node) (field : String) : Option Member :=
  ((linkedType? context.config n field).filter fun t => t ≠ "").bind
    fun t => context.nodes.find? t (n.get field)

/-- The file that the rule for paths finds. -/
def pathCandidate? (working : String) (context : Context) (n : Node) (field : String) :
    Option Member :=
  if linkedType? context.config n field = some fileType then
    fileAt? context (linkPath? working (sourceDirectory? context n) (n.get field))
  else none

/-- The outcome of three candidates: the first of them. -/
def firstOutcome (link typed path : Option Member) : Outcome Member :=
  match link, typed, path with
  | some m, _, _ => .linked .fileLink m
  | none, some m, _ => .linked .directId m
  | none, none, some m => .linked .pathFallback m
  | none, none, none => .unresolved

section FirstOutcome

variable {link typed path : Option Member} {m : Member}

theorem firstOutcome_ne_empty : firstOutcome link typed path ≠ .empty := by
  cases link <;> cases typed <;> cases path <;> simp [firstOutcome]

theorem firstOutcome_eq_fileLink :
    firstOutcome link typed path = .linked .fileLink m ↔ link = some m := by
  cases link <;> cases typed <;> cases path <;> simp [firstOutcome]

theorem firstOutcome_eq_directId :
    firstOutcome link typed path = .linked .directId m ↔ link = none ∧ typed = some m := by
  cases link <;> cases typed <;> cases path <;> simp [firstOutcome]

theorem firstOutcome_eq_pathFallback :
    firstOutcome link typed path = .linked .pathFallback m
      ↔ link = none ∧ typed = none ∧ path = some m := by
  cases link <;> cases typed <;> cases path <;> simp [firstOutcome]

theorem firstOutcome_eq_unresolved :
    firstOutcome link typed path = .unresolved ↔ link = none ∧ typed = none ∧ path = none := by
  cases link <;> cases typed <;> cases path <;> simp [firstOutcome]

end FirstOutcome

/-- **A value that is not empty leads to the first candidate**, in the order
of the rules. -/
theorem outcome_resolve (working : String) (context : Context) {n : Node} {field : String}
    (hv : isEmpty (n.get field) = false) :
    (resolve working context n field).outcome
      = firstOutcome (linkCandidate? working context n field) (typedCandidate? context n field)
          (pathCandidate? working context n field) := by
  rw [resolve, hv]
  show (resolveValue working context n field (n.get field)).outcome = _
  unfold resolveValue resolveTyped
  cases hlink : linkCandidate? working context n field with
  | some m =>
    unfold linkCandidate? at hlink
    simp only [hlink]
    rfl
  | none =>
    unfold linkCandidate? at hlink
    simp only [hlink]
    cases htyped : typedCandidate? context n field with
    | some m =>
      unfold typedCandidate? at htyped
      simp only [htyped]
      rfl
    | none =>
      unfold typedCandidate? at htyped
      simp only [htyped]
      unfold pathCandidate? resolvePath
      by_cases ht : linkedType? context.config n field = some fileType
      · rw [if_pos ht, if_pos ht]
        cases fileAt? context (linkPath? working (sourceDirectory? context n) (n.get field)) <;>
          rfl
      · rw [if_neg ht, if_neg ht]
        rfl

/-- The type that is reported is that of files for the first rule and the
type linked to for the others. -/
theorem targetType_resolve {working : String} {context : Context} {n : Node} {field : String}
    {rule : LinkRule} {m : Member}
    (h : (resolve working context n field).outcome = .linked rule m) :
    (resolve working context n field).targetType
      = if rule = .fileLink then some fileType else linkedType? context.config n field := by
  unfold resolve resolveValue resolveTyped resolvePath at h ⊢
  grind

/-! ## What the candidates are -/

section Candidates

variable {working : String} {nodes : List Node} {config : SiteConfig} {n : Node} {field : String}

theorem fileAt?_eq_some_iff {directory : Option String} {value : Value} {m : Member} :
    fileAt? ⟨.ofNodes nodes, config⟩ (linkPath? working directory value) = some m
      ↔ IsFileAt working (.ofNodes nodes) directory value m := by
  unfold fileAt? linkPath? IsFileAt
  constructor
  · intro h
    obtain ⟨p, hp, hm⟩ := Option.bind_eq_some_iff.1 h
    cases value with
    | string s =>
      obtain ⟨d, hd, rfl⟩ := Option.map_eq_some_iff.1 hp
      exact ⟨d, s, hd, rfl, Collection.find?_eq_some_iff.1 hm⟩
    | _ => cases hp
  · rintro ⟨d, s, rfl, rfl, hm⟩
    exact Collection.find?_eq_some_iff.2 hm

theorem fileAt?_eq_none_iff {directory : Option String} {value : Value} :
    fileAt? ⟨.ofNodes nodes, config⟩ (linkPath? working directory value) = none
      ↔ ∀ d s, directory = some d → value = .string s →
        ∀ m ∈ (Collection.ofNodes nodes).members,
          ¬ m.Matches fileType (.string (Path.resolve working d s)) := by
  unfold fileAt? linkPath?
  constructor
  · rintro h d s rfl rfl
    exact Collection.find?_eq_none_iff.1 h
  · intro h
    refine Option.bind_eq_none_iff.2 fun p hp => ?_
    cases value with
    | string s =>
      obtain ⟨d, hd, rfl⟩ := Option.map_eq_some_iff.1 hp
      exact Collection.find?_eq_none_iff.2 (h d s hd rfl)
    | _ => cases hp

/-- No node has the empty type, so a target that is the empty text needs no
look-up. -/
theorem typedCandidate?_eq_bind :
    typedCandidate? ⟨.ofNodes nodes, config⟩ n field
      = (linkedType? config n field).bind
        fun t => (Collection.ofNodes nodes).find? t (n.get field) := by
  unfold typedCandidate?
  show ((linkedType? config n field).filter _).bind _ = _
  cases linkedType? config n field with
  | none => rfl
  | some t =>
    by_cases ht : t = ""
    · have hnone : (Collection.ofNodes nodes).find? "" (n.get field) = none :=
        Collection.find?_eq_none_iff.2 fun m _ hm => m.node.type_ne_empty hm.1
      subst ht
      exact hnone.symm
    · rw [Option.filter_some, if_pos (decide_eq_true ht)]

theorem typedCandidate?_eq_some_iff {m : Member} :
    typedCandidate? ⟨.ofNodes nodes, config⟩ n field = some m
      ↔ IsTyped (.ofNodes nodes) (linkedType? config n field) (n.get field) m := by
  rw [typedCandidate?_eq_bind, Option.bind_eq_some_iff]
  simp only [Collection.find?_eq_some_iff, IsTyped]

theorem typedCandidate?_eq_none_iff :
    typedCandidate? ⟨.ofNodes nodes, config⟩ n field = none
      ↔ ∀ type, linkedType? config n field = some type →
        ∀ m ∈ (Collection.ofNodes nodes).members, ¬ m.Matches type (n.get field) := by
  rw [typedCandidate?_eq_bind, Option.bind_eq_none_iff]
  simp only [Collection.find?_eq_none_iff]

theorem linkCandidate?_eq_some_iff {m : Member} :
    linkCandidate? working ⟨.ofNodes nodes, config⟩ n field = some m
      ↔ Shape.isFileLink (n.get field) = true
        ∧ IsFileAt working (.ofNodes nodes) (sourceDirectory? ⟨.ofNodes nodes, config⟩ n)
          (n.get field) m := by
  unfold linkCandidate?
  cases Shape.isFileLink (n.get field) with
  | true => exact fileAt?_eq_some_iff.trans ⟨fun h => ⟨rfl, h⟩, fun h => h.2⟩
  | false => exact ⟨fun h => (nomatch h), fun h => (nomatch h.1)⟩

theorem pathCandidate?_eq_some_iff {m : Member} :
    pathCandidate? working ⟨.ofNodes nodes, config⟩ n field = some m
      ↔ linkedType? config n field = some fileType
        ∧ IsFileAt working (.ofNodes nodes) (sourceDirectory? ⟨.ofNodes nodes, config⟩ n)
          (n.get field) m := by
  unfold pathCandidate?
  by_cases ht : linkedType? config n field = some fileType
  · rw [if_pos ht]
    exact fileAt?_eq_some_iff.trans ⟨fun h => ⟨ht, h⟩, fun h => h.2⟩
  · rw [if_neg ht]
    exact ⟨fun h => (nomatch h), fun h => absurd h.1 ht⟩

/-- Neither rule for files finds one if and only if there is no file at the
path, or none is asked for. -/
theorem noFile_iff :
    (linkCandidate? working ⟨.ofNodes nodes, config⟩ n field = none
        ∧ pathCandidate? working ⟨.ofNodes nodes, config⟩ n field = none)
      ↔ ∀ d s, sourceDirectory? ⟨.ofNodes nodes, config⟩ n = some d → n.get field = .string s →
        (Shape.isFileLink (n.get field) = true ∨ linkedType? config n field = some fileType) →
        ∀ m ∈ (Collection.ofNodes nodes).members,
          ¬ m.Matches fileType (.string (Path.resolve working d s)) := by
  unfold linkCandidate? pathCandidate?
  constructor
  · rintro ⟨hlink, hpath⟩ d s hd hs hor
    have hnone : fileAt? ⟨.ofNodes nodes, config⟩
        (linkPath? working (sourceDirectory? ⟨.ofNodes nodes, config⟩ n) (n.get field)) = none := by
      rcases hor with h | h
      · rwa [if_pos h] at hlink
      · rwa [if_pos h] at hpath
    exact fileAt?_eq_none_iff.1 hnone d s hd hs
  · intro h
    constructor
    · by_cases hl : Shape.isFileLink (n.get field) = true
      · rw [if_pos hl]
        exact fileAt?_eq_none_iff.2 fun d s hd hs => h d s hd hs (Or.inl hl)
      · rw [if_neg hl]
    · by_cases ht : linkedType? config n field = some fileType
      · rw [if_pos ht]
        exact fileAt?_eq_none_iff.2 fun d s hd hs => h d s hd hs (Or.inr ht)
      · rw [if_neg ht]

end Candidates

/-! ## The account of a result -/

/-- **The account of a result**: for a value, the directory to start from and
the type linked to, which rule found which node and why, or why there is
none. -/
structure Accounts (working : String) (c : Collection) (value : Value)
    (directory target : Option String) (r : Resolution Member) : Prop where
  /-- The name of a file leads to the file, if there is one. -/
  fileLink_iff : ∀ m, r.outcome = .linked .fileLink m
    ↔ Shape.isFileLink value = true ∧ IsFileAt working c directory value m
  /-- An identifier leads to its node, unless the value names a file. -/
  directId_iff : ∀ m, r.outcome = .linked .directId m
    ↔ (∀ file, ¬ (Shape.isFileLink value = true ∧ IsFileAt working c directory value file))
      ∧ IsTyped c target value m
  /-- A path leads to its file, where files are linked to and no other rule
  finds a node. -/
  pathFallback_iff : ∀ m, r.outcome = .linked .pathFallback m
    ↔ isEmpty value = false
      ∧ (∀ file, ¬ (Shape.isFileLink value = true ∧ IsFileAt working c directory value file))
      ∧ (∀ other, ¬ IsTyped c target value other)
      ∧ target = some fileType ∧ IsFileAt working c directory value m
  /-- A value that leads nowhere is not empty, no node of the type linked to
  has it for its identifier, and no file is at its path if one is asked for. -/
  unresolved_iff : r.outcome = .unresolved
    ↔ isEmpty value = false
      ∧ (∀ type, target = some type → ∀ m ∈ c.members, ¬ m.Matches type value)
      ∧ ∀ d s, directory = some d → value = .string s →
        (Shape.isFileLink value = true ∨ target = some fileType) →
        ∀ m ∈ c.members, ¬ m.Matches fileType (.string (Path.resolve working d s))
  /-- Only an empty value is no reference at all. -/
  empty_iff : r.outcome = .empty ↔ isEmpty value = true
  /-- The node is one of the collection, and the type reported is its own. -/
  target_eq : ∀ rule m, r.outcome = .linked rule m →
    m ∈ c.members ∧ r.targetType = some m.node.type

/-- The empty text names no file. -/
theorem isEmpty_of_isFileLink {value : Value} (h : Shape.isFileLink value = true) :
    isEmpty value = false := by
  cases value with
  | string s =>
    refine Bool.eq_false_iff.2 fun hs => ?_
    rw [isEmpty, String.isEmpty_iff] at hs
    subst hs
    exact absurd h (by decide)
  | _ => cases h

/-- An identifier is not empty. -/
theorem isEmpty_of_isTyped {c : Collection} {target : Option String} {value : Value}
    {m : Member} (h : IsTyped c target value m) : isEmpty value = false := by
  obtain ⟨type, -, ⟨-, rfl⟩, -⟩ := h
  refine Bool.eq_false_iff.2 fun hs => ?_
  rw [isEmpty, String.isEmpty_iff] at hs
  exact m.node.id_ne_empty hs

section Resolve

variable {working : String} {nodes : List Node} {config : SiteConfig} {n : Node} {field : String}

/-- An empty value has no candidates, and no look-up is made for it. -/
theorem accounts_of_isEmpty (hv : isEmpty (n.get field) = true) :
    Accounts working (.ofNodes nodes) (n.get field) (sourceDirectory? ⟨.ofNodes nodes, config⟩ n)
      (linkedType? config n field) (resolve working ⟨.ofNodes nodes, config⟩ n field) := by
  have hr : (resolve working ⟨.ofNodes nodes, config⟩ n field).outcome = .empty := by
    rw [resolve, hv]
    rfl
  have hne : isEmpty (n.get field) ≠ false := by rw [hv]; exact Bool.noConfusion
  constructor
  case fileLink_iff =>
    intro m
    rw [hr]
    exact ⟨fun h => (nomatch h), fun h => absurd (isEmpty_of_isFileLink h.1) hne⟩
  case directId_iff =>
    intro m
    rw [hr]
    exact ⟨fun h => (nomatch h), fun h => absurd (isEmpty_of_isTyped h.2) hne⟩
  case pathFallback_iff =>
    intro m
    rw [hr]
    exact ⟨fun h => (nomatch h), fun h => absurd h.1 hne⟩
  case unresolved_iff =>
    rw [hr]
    exact ⟨fun h => (nomatch h), fun h => absurd h.1 hne⟩
  case empty_iff => exact ⟨fun _ => hv, fun _ => hr⟩
  case target_eq =>
    intro rule m h
    rw [hr] at h
    cases h

/-- A value that is not empty leads to the first candidate. -/
theorem accounts_of_isEmpty_eq_false (hv : isEmpty (n.get field) = false) :
    Accounts working (.ofNodes nodes) (n.get field) (sourceDirectory? ⟨.ofNodes nodes, config⟩ n)
      (linkedType? config n field) (resolve working ⟨.ofNodes nodes, config⟩ n field) := by
  have hr := outcome_resolve working ⟨.ofNodes nodes, config⟩ hv
  constructor
  case fileLink_iff =>
    intro m
    rw [hr, firstOutcome_eq_fileLink, linkCandidate?_eq_some_iff]
  case directId_iff =>
    intro m
    rw [hr, firstOutcome_eq_directId, typedCandidate?_eq_some_iff,
      Option.eq_none_iff_forall_ne_some]
    simp only [ne_eq, linkCandidate?_eq_some_iff]
  case pathFallback_iff =>
    intro m
    rw [hr, firstOutcome_eq_pathFallback, pathCandidate?_eq_some_iff,
      Option.eq_none_iff_forall_ne_some, Option.eq_none_iff_forall_ne_some]
    simp only [ne_eq, linkCandidate?_eq_some_iff, typedCandidate?_eq_some_iff, hv, true_and]
  case unresolved_iff =>
    rw [hr, firstOutcome_eq_unresolved, ← typedCandidate?_eq_none_iff, ← noFile_iff]
    exact ⟨fun h => ⟨hv, h.2.1, h.1, h.2.2⟩, fun h => ⟨h.2.2.1, h.2.1, h.2.2.2⟩⟩
  case empty_iff =>
    rw [hr, hv]
    exact ⟨fun h => absurd h firstOutcome_ne_empty, fun h => (nomatch h)⟩
  case target_eq =>
    intro rule m h
    rw [targetType_resolve h]
    rw [hr] at h
    cases rule with
    | fileLink =>
      obtain ⟨-, d, s, -, -, hm⟩ := linkCandidate?_eq_some_iff.1 (firstOutcome_eq_fileLink.1 h)
      exact ⟨hm.mem, congrArg some hm.1.1.symm⟩
    | directId =>
      obtain ⟨type, ht, hm⟩ := typedCandidate?_eq_some_iff.1 (firstOutcome_eq_directId.1 h).2
      exact ⟨hm.mem, ht.trans (congrArg some hm.1.1.symm)⟩
    | pathFallback =>
      obtain ⟨ht, d, s, -, -, hm⟩ :=
        pathCandidate?_eq_some_iff.1 (firstOutcome_eq_pathFallback.1 h).2.2
      exact ⟨hm.mem, ht.trans (congrArg some hm.1.1.symm)⟩

/-- Every result has its account. -/
theorem accounts_resolve (working : String) (nodes : List Node) (config : SiteConfig) (n : Node)
    (field : String) :
    Accounts working (.ofNodes nodes) (n.get field) (sourceDirectory? ⟨.ofNodes nodes, config⟩ n)
      (linkedType? config n field) (resolve working ⟨.ofNodes nodes, config⟩ n field) := by
  cases hv : isEmpty (n.get field) with
  | true => exact accounts_of_isEmpty hv
  | false => exact accounts_of_isEmpty_eq_false hv

end Resolve

/-- **A reference is resolved soundly and completely**, by the rules in their
order, whatever the nodes, the configuration, the node and the field, and
wherever the program works. The result is one that could be constructed, and
following the reference gives its node and reports an error if and only if the
value leads nowhere. -/
theorem resolve_accounts (working : String) (nodes : List Node) (config : SiteConfig) (n : Node)
    (field : String) :
    let context : Context := ⟨.ofNodes nodes, config⟩
    let r := resolve working context n field
    Accounts working context.nodes (n.get field) (sourceDirectory? context n)
        (linkedType? config n field) r
      ∧ Outcome.make r.outcome.kind r.outcome.node? = .ok r.outcome
      ∧ follow working context n field = (r.outcome.node?,
          if r.outcome = .unresolved then
            [⟨.error, unresolvedMessage n field r.targetType⟩]
          else []) := by
  intro context r
  refine ⟨accounts_resolve working nodes config n field, r.outcome.make_kind_node?, ?_⟩
  show (r.outcome.node?, logOf n field r) = _
  unfold logOf
  cases r.outcome <;> rfl

end ContentGraph.Reference
