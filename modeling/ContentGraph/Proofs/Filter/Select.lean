import ContentGraph.Filter.Select
import ContentGraph.Proofs.Filter.Flatten
import ContentGraph.Proofs.Filter.Test
import ContentGraph.Proofs.Node.Attribute
import ContentGraph.Proofs.Traversal
import ContentGraph.Proofs.Value.TextKeys
import Mathlib.Data.List.Induction

/-!
# A filter selects the nodes that meet its conditions

`Filter.select` does not look at one node after the other. It builds a column
for every dotted path, narrows a mask by one condition after the other, and
keeps the items that the mask keeps. What a reader of a filter expects is a
statement about single nodes: a node is selected if every condition holds at
it. This module proves that the two agree.

## Why names without a point

Columns are named by the path with points between its names, so two paths
with one such name share a column and the later one fills it
(`Filter.exists_lookup_columns`). As long as no name holds a point, different
paths have different names (`Filter.dotted_injective`), and the column found
under the name of a path is the column of that path (`Filter.exists_columns`).

## The mask

The mask that the conditions have narrowed so far is always the mask of a
test of single nodes. That is the invariant of the fold: `Filter.narrow_map`
is its step and `Filter.foldlM_narrow` its run.
-/

namespace ContentGraph

namespace Condition

/-- The name of the column that a condition tests. -/
def column (c : Condition) : String := joinWith "." (c.path.map Value.text)

/-- A condition with its test made at another path. -/
def readAt (c : Condition) (path : List Value) : Condition := { c with path }

/-- Of the conditions with a column one is the last. -/
theorem exists_find?_column {conditions : List Condition} {c : Condition}
    (h : ∃ d ∈ conditions, d.column = c.column) :
    ∃ d ∈ conditions, d.column = c.column
      ∧ (conditions.reverse.find? fun d => d.column == c.column) = some d := by
  obtain ⟨d, hd, hcolumn⟩ := h
  have hsome : (conditions.reverse.find? fun d => d.column == c.column).isSome = true :=
    List.find?_isSome.2 ⟨d, List.mem_reverse.2 hd, beq_iff_eq.2 hcolumn⟩
  obtain ⟨last, hlast⟩ := Option.isSome_iff_exists.1 hsome
  exact ⟨last, List.mem_reverse.1 (List.mem_of_find?_eq_some hlast),
    by simpa using List.find?_some hlast, hlast⟩

/-- A condition can be decided at a node: its test comes to an answer on the
value at its path. -/
def Decided (n : Node) (c : Condition) : Prop :=
  ∃ passed, Filter.test c.op c.operand (Filter.valueAt n c.path) = .ok passed

/-- Every condition without a pattern and an order can be decided at every node. -/
theorem decided_of_alwaysAnswers {n : Node} {c : Condition}
    (h : Filter.alwaysAnswers c.op = true) : c.Decided n :=
  Filter.exists_test_eq_ok h _ _

/-- A condition holds at a node: the value at its path passes its test. -/
def holds (n : Node) (c : Condition) : Bool :=
  match Filter.test c.op c.operand (Filter.valueAt n c.path) with
  | .ok passed => passed
  | .error _ => false

theorem Decided.test_eq {n : Node} {c : Condition} (h : c.Decided n) :
    Filter.test c.op c.operand (Filter.valueAt n c.path) = .ok (c.holds n) := by
  obtain ⟨passed, hp⟩ := h
  rw [holds, hp]

theorem holds_iff {n : Node} {c : Condition} :
    c.holds n = true ↔ Filter.test c.op c.operand (Filter.valueAt n c.path) = .ok true := by
  unfold holds
  cases Filter.test c.op c.operand (Filter.valueAt n c.path) with
  | ok passed => exact ⟨fun h => congrArg Except.ok h, fun h => Except.ok.inj h⟩
  | error e => exact ⟨fun h => (nomatch h), fun h => (nomatch h)⟩

end Condition

namespace Filter

/-! ## Names of columns -/

/-- Whether a name on a path is a text without a point. -/
def isPlainName : Value → Bool
  | .string s => !s.toList.contains '.'
  | _ => false

/-- A path with at least one name, and no name with a point in it. -/
def PlainPath (path : List Value) : Prop := path ≠ [] ∧ ∀ name ∈ path, isPlainName name = true

theorem exists_of_isPlainName {name : Value} (h : isPlainName name = true) :
    ∃ s : String, name = .string s ∧ '.' ∉ s.toList := by
  cases name with
  | string s => exact ⟨s, rfl, by simpa [isPlainName] using h⟩
  | _ => exact absurd h Bool.false_ne_true

theorem joinWith_eq_intercalate (separator : String) (texts : List String) :
    joinWith separator texts = separator.intercalate texts := by
  induction texts with
  | nil => rw [joinWith, String.intercalate_nil]
  | cons s rest ih =>
    cases rest with
    | nil => rw [joinWith, String.intercalate_singleton]
    | cons t rest => rw [joinWith, ih, String.intercalate_cons_cons]; exact fun h => nomatch h

/-- A condition on a path of texts tests the column of its name. -/
theorem dotted_eq_column {c : Condition} (h : ∀ name ∈ c.path, name.isString = true) :
    dotted c.path = .ok c.column := by
  have hdotted := dotted_map (c.path.map Value.text)
  rwa [Value.map_string_text h] at hdotted

theorem PlainPath.isString {path : List Value} (h : PlainPath path) :
    ∀ name ∈ path, name.isString = true := by
  intro name hname
  obtain ⟨s, rfl, -⟩ := exists_of_isPlainName (h.2 name hname)
  rfl

/-- The texts on a plain path. -/
theorem PlainPath.exists_names {path : List Value} (h : PlainPath path) :
    ∃ names : List String, path = names.map .string ∧ names ≠ []
      ∧ ∀ s ∈ names, '.' ∉ s.toList := by
  refine ⟨path.map Value.text, (Value.map_string_text h.isString).symm,
    mt List.map_eq_nil_iff.1 h.1, fun s hs => ?_⟩
  obtain ⟨name, hname, rfl⟩ := List.mem_map.1 hs
  obtain ⟨t, rfl, ht⟩ := exists_of_isPlainName (h.2 name hname)
  exact ht

/-- **Plain paths are told apart by their dotted names.** Splitting the name
at its points gives the names on the path back. -/
theorem dotted_injective {p q : List Value} {name : String} (hp : PlainPath p)
    (hq : PlainPath q) (hpn : dotted p = .ok name) (hqn : dotted q = .ok name) : p = q := by
  obtain ⟨ps, rfl, hps, hpd⟩ := hp.exists_names
  obtain ⟨qs, rfl, hqs, hqd⟩ := hq.exists_names
  have hsplit : ∀ names : List String, names ≠ [] → (∀ s ∈ names, '.' ∉ s.toList) →
      (joinWith "." names).toList.splitOn '.' = names.map String.toList := by
    intro names hne hdots
    rw [joinWith_eq_intercalate, String.toList_intercalate]
    refine List.splitOn_intercalate '.' (fun l hl => ?_) (by simpa using hne)
    obtain ⟨s, hs, rfl⟩ := List.mem_map.1 hl
    exact hdots s hs
  rw [dotted_map, Except.ok.injEq] at hpn hqn
  have heq : ps.map String.toList = qs.map String.toList := by
    rw [← hsplit ps hps hpd, ← hsplit qs hqs hqd, hpn, hqn]
  rw [List.map_inj_right (fun s t h => String.toList_inj.1 h) |>.1 heq]

/-! ## The columns of a frame -/

/-- The values of nodes at a path. -/
def columnAt (nodes : List Node) (path : List Value) : List Value :=
  nodes.map fun n => valueAt n path

/-- The column of a condition added to those known. -/
def addColumn (nodes : List Node) (known : List (String × List Value)) (c : Condition) :
    Except FilterError (List (String × List Value)) :=
  (dotted c.path).map fun name => putColumn name (columnAt nodes c.path) known

theorem columns_eq (nodes : List Node) (conditions : List Condition) :
    columns nodes conditions = conditions.foldlM (addColumn nodes) [] := rfl

theorem lookup_putColumn (name other : String) (column : List Value)
    (known : List (String × List Value)) :
    (putColumn name column known).lookup other
      = if other = name then some column else known.lookup other := by
  induction known with
  | nil => by_cases h : other = name <;> simp [putColumn, h]
  | cons entry rest ih =>
    obtain ⟨n, c⟩ := entry
    rw [putColumn]
    by_cases hn : n = name
    · rw [if_pos hn, List.lookup_cons, List.lookup_cons, hn]
      cases ho : other == name <;> simp_all
    · rw [if_neg hn, List.lookup_cons, List.lookup_cons, ih]
      cases ho : other == n with
      | true =>
        obtain rfl : other = n := beq_iff_eq.1 ho
        show some c = _
        rw [if_neg hn]
      | false => rfl

/-- **The column of a name is that of the last condition with this name**, the
columns of earlier ones being written over. -/
theorem exists_lookup_columns (nodes : List Node) {conditions : List Condition}
    (htexts : ∀ c ∈ conditions, ∀ name ∈ c.path, name.isString = true) :
    ∃ frame, columns nodes conditions = .ok frame ∧ ∀ name, frame.lookup name
      = (conditions.reverse.find? fun c => c.column == name).map
          fun c => columnAt nodes c.path := by
  simp only [columns_eq]
  induction conditions using List.reverseRecOn with
  | nil => exact ⟨[], rfl, fun _ => rfl⟩
  | append_singleton before c ih =>
    obtain ⟨frame, hframe, hlookup⟩ := ih fun d hd => htexts d (List.mem_append_left _ hd)
    have hname := dotted_eq_column (htexts c (List.mem_append_right _ List.mem_cons_self))
    refine ⟨putColumn c.column (columnAt nodes c.path) frame, ?_, fun name => ?_⟩
    · rw [List.foldlM_append, hframe]
      show (addColumn nodes frame c).bind pure = _
      rw [addColumn, hname]
      rfl
    · rw [lookup_putColumn, hlookup, List.reverse_concat, List.find?_cons]
      by_cases heq : name = c.column
      · rw [if_pos heq, beq_iff_eq.2 heq.symm]
        rfl
      · rw [if_neg heq, beq_eq_false_iff_ne.2 (Ne.symm heq)]

/-- **The column found under the name of a path is the column of that path**,
for all conditions at once. -/
theorem exists_columns (nodes : List Node) {conditions : List Condition}
    (hplain : ∀ c ∈ conditions, PlainPath c.path) :
    ∃ frame, columns nodes conditions = .ok frame ∧ ∀ c ∈ conditions, ∃ name,
      dotted c.path = .ok name ∧ frame.lookup name = some (columnAt nodes c.path) := by
  have htexts : ∀ c ∈ conditions, ∀ name ∈ c.path, name.isString = true :=
    fun c hc => (hplain c hc).isString
  obtain ⟨frame, hframe, hlookup⟩ := exists_lookup_columns nodes htexts
  refine ⟨frame, hframe, fun c hc => ⟨c.column, dotted_eq_column (htexts c hc), ?_⟩⟩
  obtain ⟨d, hmem, hcolumn, hlast⟩ := Condition.exists_find?_column ⟨c, hc, rfl⟩
  -- The condition that fills the column has the same path.
  rw [hlookup, hlast, Option.map_some, dotted_injective (hplain d hmem) (hplain c hc)
    (dotted_eq_column (htexts d hmem)) (hcolumn ▸ dotted_eq_column (htexts c hc))]

/-! ## The mask -/

section Mask

variable {nodes : List Node} {frame : List (String × List Value)} {conditions : List Condition}
  {read : Condition → List Value}

/-- A condition narrows the mask of a test to the mask of the test and the
condition, made on the column that is found under its name. -/
theorem narrow_map {c : Condition} {name : String} (p : Node → Bool)
    (hname : dotted c.path = .ok name)
    (hcolumn : frame.lookup name = some (columnAt nodes (read c)))
    (hdecided : ∀ n ∈ nodes, (c.readAt (read c)).Decided n) :
    narrow frame (nodes.map p) c
      = .ok (nodes.map fun n => p n && (c.readAt (read c)).holds n) := by
  have htests : (columnAt nodes (read c)).mapM (test c.op c.operand)
      = .ok (nodes.map (c.readAt (read c)).holds) := by
    rw [columnAt, List.mapM_map]
    exact mapM_eq_ok_map nodes fun n hn => (hdecided n hn).test_eq
  have hzip : List.zipWith (· && ·) (nodes.map p) (nodes.map (c.readAt (read c)).holds)
      = nodes.map fun n => p n && (c.readAt (read c)).holds n := by
    rw [List.zipWith_map, List.zipWith_self]
  rw [narrow, hname, ← hzip]
  show (((frame.lookup name).getD []).mapM (test c.op c.operand)).bind _ = _
  rw [hcolumn, Option.getD_some, htests]
  rfl

/-- The conditions together narrow the mask of a test to the mask of the test
and all of them. -/
theorem foldlM_narrow (p : Node → Bool)
    (hnamed : ∀ c ∈ conditions, ∃ name, dotted c.path = .ok name
      ∧ frame.lookup name = some (columnAt nodes (read c)))
    (hdecided : ∀ c ∈ conditions, ∀ n ∈ nodes, (c.readAt (read c)).Decided n) :
    conditions.foldlM (narrow frame) (nodes.map p)
      = .ok (nodes.map fun n => p n && conditions.all fun c => (c.readAt (read c)).holds n) := by
  induction conditions generalizing p with
  | nil => simp [pure, Except.pure]
  | cons c rest ih =>
    obtain ⟨name, hname, hcolumn⟩ := hnamed c List.mem_cons_self
    rw [List.foldlM_cons, narrow_map p hname hcolumn (hdecided c List.mem_cons_self)]
    refine (ih _ (fun d hd => hnamed d (List.mem_cons_of_mem _ hd))
      (fun d hd => hdecided d (List.mem_cons_of_mem _ hd))).trans ?_
    simp only [List.all_cons, Bool.and_assoc]

/-- **The mask of conditions is the mask of their conjunction**, each made on
the column that it finds. -/
theorem mask_eq_map (hframe : columns nodes conditions = .ok frame)
    (hnamed : ∀ c ∈ conditions, ∃ name, dotted c.path = .ok name
      ∧ frame.lookup name = some (columnAt nodes (read c)))
    (hdecided : ∀ c ∈ conditions, ∀ n ∈ nodes, (c.readAt (read c)).Decided n) :
    mask nodes conditions
      = .ok (nodes.map fun n => conditions.all fun c => (c.readAt (read c)).holds n) := by
  rw [mask, hframe]
  refine (foldlM_narrow (fun _ => true) hnamed hdecided).trans ?_
  simp only [Bool.true_and]

end Mask

theorem keep_map {α : Type} (q : α → Bool) (items : List α) :
    keep items (items.map q) = items.filter q := by
  induction items with
  | nil => rfl
  | cons item rest ih => rw [List.map_cons, keep, ih, List.filter_cons]

/-! ## The selection -/

/-- The conditions of a map are those that flattening it gives. -/
theorem conditionsOf_map (args : Entries) : conditionsOf (.map args) = flatten (.map args) := by
  cases args <;> rfl

/-- The paths of an accepted filter are plain if its names of fields are. -/
theorem plainPath_of_flatten {args : Entries} {conditions : List Condition}
    (haccepted : flatten (.map args) = .ok conditions)
    (hnames : ∀ name ∈ fieldNamesOf args, isPlainName name = true) :
    ∀ c ∈ conditions, PlainPath c.path := by
  intro c hc
  obtain ⟨names, hne, hpath, hmem⟩ := path_of_flattenEntries args haccepted c hc
  rw [List.nil_append] at hpath
  exact ⟨hpath ▸ hne, fun name hn => hnames name (hmem name (hpath ▸ hn))⟩

/-- What is selected by conditions that find columns and can be decided on
them. -/
theorem select_eq_filter_of_columns {α : Type} {node : α → Node} {items : List α}
    {args : Entries} {conditions : List Condition} (read : Condition → List Value)
    (haccepted : flatten (.map args) = .ok conditions)
    (hcolumns : ∃ frame, columns (items.map node) conditions = .ok frame
      ∧ ∀ c ∈ conditions, ∃ name, dotted c.path = .ok name
        ∧ frame.lookup name = some (columnAt (items.map node) (read c)))
    (hdecided : ∀ c ∈ conditions, ∀ item ∈ items, (c.readAt (read c)).Decided (node item)) :
    select node (.map args) items
      = .ok (items.filter fun item =>
          conditions.all fun c => (c.readAt (read c)).holds (node item)) := by
  obtain ⟨frame, hframe, hnamed⟩ := hcolumns
  have hmask : mask (items.map node) conditions
      = .ok (items.map fun item =>
          conditions.all fun c => (c.readAt (read c)).holds (node item)) := by
    rw [mask_eq_map hframe hnamed fun c hc n hn => ?_, List.map_map]
    · rfl
    · obtain ⟨item, hi, rfl⟩ := List.mem_map.1 hn
      exact hdecided c hc item hi
  rw [select, conditionsOf_map, haccepted]
  show (if conditions.isEmpty || items.isEmpty then Except.ok items
    else (mask (items.map node) conditions).bind fun m => .ok (keep items m)) = _
  -- without conditions or without items nothing is built, and all is kept
  cases conditions with
  | nil => exact congrArg Except.ok (List.filter_eq_self.2 fun _ _ => rfl).symm
  | cons c rest =>
    cases items with
    | nil => rfl
    | cons item others =>
      rw [hmask, ← keep_map]
      rfl

/-- **A filter selects the nodes at which all its conditions hold**, in their
order and each as often as it is given, whenever its conditions can be
decided. A filter without conditions selects all. -/
theorem select_eq_filter {α : Type} (node : α → Node) (items : List α) :
    (∀ (args : Entries) (conditions : List Condition), flatten (.map args) = .ok conditions →
      (∀ name ∈ fieldNamesOf args, isPlainName name = true) →
      (∀ c ∈ conditions, ∀ item ∈ items, c.Decided (node item)) →
      select node (.map args) items
        = .ok (items.filter fun item => conditions.all (·.holds (node item))))
    ∧ select node (.map []) items = .ok items := by
  refine ⟨fun args conditions haccepted hnames hdecided => ?_, rfl⟩
  have hplain := plainPath_of_flatten haccepted hnames
  exact select_eq_filter_of_columns (·.path) haccepted (exists_columns _ hplain) hdecided

/-- Two conditions share the column of the title, and a third asks for an
item of a list inside an object. -/
theorem select_of_shared_column :
    ∃ hello world : Node,
      select id (.map [(.string "title", .map [(.string "glob", .string "H*"),
            (.string "ne", .string "Hi")]),
          (.string "meta", .map [(.string "tags", .map [(.string "eq", .string "x")])])])
        [world, hello, world, hello]
      = .ok [hello, hello] :=
  ⟨.ofFields "a" "Post" [(.string "title", .string "Hello"),
      (.string "meta", .map [(.string "tags", .list [.string "w", .string "x"])])],
    .ofFields "b" "Post" [(.string "title", .string "World")],
    (select_eq_filter id _).1 _ [⟨[.string "title"], .glob, .string "H*"⟩,
      ⟨[.string "title"], .ne, .string "Hi"⟩,
      ⟨[.string "meta", .string "tags"], .eq, .string "x"⟩] rfl (by decide)
      fun c hc _ _ => Condition.decided_of_alwaysAnswers (by revert c; decide)⟩

/-- **A filter with one condition selects the nodes at which it holds**,
whatever is in the names on its path: a single column cannot be mistaken. -/
theorem select_nested {α : Type} (node : α → Node) (items : List α) {op : Operator}
    (hop : alwaysAnswers op = true) (operand : Value) (key : String) {rest : List String}
    (hrest : ∀ name ∈ rest, Operator.ofName? name = none) :
    select node (nested op operand (key :: rest)) items
      = .ok (items.filter fun item =>
          Condition.holds (node item) ⟨(key :: rest).map .string, op, operand⟩) := by
  have hframe (nodes : List Node) :
      columns nodes [⟨(key :: rest).map .string, op, operand⟩]
        = .ok [(joinWith "." (key :: rest), columnAt nodes ((key :: rest).map .string))] := by
    rw [columns_eq, List.foldlM_cons, addColumn, dotted_map]
    rfl
  refine (select_eq_filter_of_columns (·.path) (flatten_nested op operand key hrest)
    ⟨_, hframe _, fun c hc => ⟨joinWith "." (key :: rest), ?_, ?_⟩⟩
    fun c hc item _ => Condition.decided_of_alwaysAnswers ?_).trans ?_
  · obtain rfl := List.mem_singleton.1 hc
    exact dotted_map _
  · obtain rfl := List.mem_singleton.1 hc
    exact List.lookup_cons_self
  · obtain rfl := List.mem_singleton.1 hc
    exact hop
  · simp only [List.all_cons, List.all_nil, Bool.and_true]
    rfl

end Filter

end ContentGraph
