import ContentGraph.Proofs.Filter.Acceptance
import ContentGraph.Proofs.Value.Symmetry

/-!
# Flattening a filter loses nothing

The conditions of a filter are what it says, one by one. Written back, each one at
the end of its path under the name of its operator, they make the filter again,
with its keys in their order (`Filter.rebuild?`).

Operators and fields share their names, and an operand may be a map, so it is not
plain that this works. A condition might be written into the operand of another,
or over it. Neither happens: the keys of a map differ, so no path goes on from
another one, and none comes twice with one operator (`Filter.PrefixFree`).

Both facts are read off how an accepted filter is put together. The conditions of
an entry are written below its key: the first of them makes the entry, at the end
of what is there already, and the others change it in place
(`Filter.foldlM_putCondition?_below`).
-/

namespace ContentGraph

/-! ## Writing at a path -/

namespace Entries

/-- The map under a key, or an empty one if the key is new. -/
def mapAt? (key : Value) (entries : Entries) : Option Entries :=
  ((find? key entries).getD (.map [])).entries?

/-- **A value put at the end of a path of keys.** Each key but the last is that of
a map, which is made if it is not there. Where something else stands under such a
key, the value cannot be put. -/
def put? : List Value → Value → Entries → Option Entries
  | [], _, _ => none
  | [key], value, entries => some (insert key value entries)
  | key :: keys, value, entries =>
    (mapAt? key entries).bind fun inner =>
      (put? keys value inner).map fun changed => insert key (.map changed) entries

theorem put?_cons (key : Value) {keys : List Value} (hkeys : keys ≠ []) (value : Value)
    (entries : Entries) :
    put? (key :: keys) value entries
      = (mapAt? key entries).bind fun inner =>
          (put? keys value inner).map fun changed => insert key (.map changed) entries := by
  cases keys with
  | nil => exact absurd rfl hkeys
  | cons next rest => rfl

theorem mapAt?_insert_self {key : Value} (hkey : key.eq key = true) (inner entries : Entries) :
    mapAt? key (insert key (.map inner) entries) = some inner := by
  rw [mapAt?, find?_insert_self hkey]
  rfl

theorem mapAt?_of_forall_eq_false {key : Value} {entries : Entries}
    (h : ∀ entry ∈ entries, entry.1.eq key = false) : mapAt? key entries = some [] := by
  rw [mapAt?, find?_eq_none h]
  rfl

end Entries

namespace Filter

/-- A filter with a condition written into it. -/
def putCondition? (args : Entries) (c : Condition) : Option Entries :=
  args.put? (c.path ++ [.string c.op.name]) c.operand

/-- **The filter that conditions make**, written one after the other. -/
def rebuild? (conditions : List Condition) : Option Entries :=
  conditions.foldlM putCondition? []

/-- A condition below a key is written into the map under the key. -/
theorem putCondition?_below {key : Value} {entries inner : Entries}
    (h : entries.mapAt? key = some inner) (c : Condition) :
    putCondition? entries (c.below [key])
      = (putCondition? inner c).map fun changed => entries.insert key (.map changed) := by
  have hne : c.path ++ [Value.string c.op.name] ≠ [] := by simp
  show entries.put? (key :: (c.path ++ [.string c.op.name])) c.operand = _
  rw [Entries.put?_cons key hne, h]
  rfl

/-- **Conditions below a key change the map under the key** as they would by
themselves, and nothing else. -/
theorem foldlM_putCondition?_below {key : Value} (hkey : key.eq key = true)
    {conditions : List Condition} (hne : conditions ≠ []) {entries inner : Entries}
    (h : entries.mapAt? key = some inner) :
    (conditions.map (Condition.below [key])).foldlM putCondition? entries
      = (conditions.foldlM putCondition? inner).map
          fun changed => entries.insert key (.map changed) := by
  induction conditions generalizing entries inner with
  | nil => exact absurd rfl hne
  | cons c rest ih =>
    rw [List.map_cons, List.foldlM_cons, List.foldlM_cons, putCondition?_below h]
    cases hput : putCondition? inner c with
    | none => rfl
    | some changed =>
      show (rest.map _).foldlM putCondition? (entries.insert key (.map changed))
        = (rest.foldlM putCondition? changed).map _
      by_cases hrest : rest = []
      · subst hrest
        rfl
      · rw [ih hrest (Entries.mapAt?_insert_self hkey changed entries)]
        simp only [Entries.insert_insert_self hkey]

/-! ## Rebuilding -/

theorem foldlM_putCondition?_leaf {pairs : List (Operator × Value)}
    (hkeys : Entries.Distinct (pairs.map operatorEntry)) :
    (pairs.map operatorCondition).foldlM putCondition? [] = some (pairs.map operatorEntry) := by
  have hput (written : Entries) (pair : Operator × Value) :
      putCondition? written (operatorCondition pair)
        = some (written.insert (operatorEntry pair).1 (operatorEntry pair).2) := rfl
  rw [List.foldlM_map]
  simp only [hput]
  refine (List.foldlM_pure (m := Option)).trans ?_
  rw [← List.foldl_map (f := operatorEntry)
    (g := fun written entry => Entries.insert entry.1 entry.2 written)]
  exact congrArg some (Entries.foldl_insert_eq_append hkeys nofun)

/-- The conditions of an entry write it behind what is there, and those of the
other entries go on from there. -/
theorem foldlM_putCondition?_cons {key : Value} {inner rest base : Entries}
    {here others : List Condition} (hkey : key.isString = true) (hne : here ≠ [])
    (hhere : here.foldlM putCondition? [] = some inner)
    (hothers : ∀ base : Entries, (∀ old ∈ base, ∀ entry ∈ rest, old.1.eq entry.1 = false) →
      others.foldlM putCondition? base = some (base ++ rest))
    (hrest : ∀ entry ∈ rest, key.eq entry.1 = false)
    (hbase : ∀ old ∈ base, ∀ entry ∈ (key, Value.map inner) :: rest, old.1.eq entry.1 = false) :
    (here.map (Condition.below [key]) ++ others).foldlM putCondition? base
      = some (base ++ (key, .map inner) :: rest) := by
  have hself : key.eq key = true := by
    rw [Value.eq_string_text hkey]
    exact Value.eq_self_of_isScalar rfl rfl
  have hnew : ∀ old ∈ base, old.1.eq key = false := fun old hold =>
    hbase old hold _ List.mem_cons_self
  have hentry : (here.map (Condition.below [key])).foldlM putCondition? base
      = some (base ++ [(key, .map inner)]) := by
    rw [foldlM_putCondition?_below hself hne (Entries.mapAt?_of_forall_eq_false hnew), hhere,
      Option.map_some, Entries.insert_of_forall_eq_false hnew]
  rw [List.foldlM_append, hentry]
  refine (hothers (base ++ [(key, .map inner)]) fun old hold entry hmem => ?_).trans ?_
  · rcases List.mem_append.1 hold with hold | hold
    · exact hbase old hold entry (List.mem_cons_of_mem _ hmem)
    · rw [List.mem_singleton.1 hold]
      exact hrest entry hmem
  · rw [List.append_assoc]
    rfl

/-- **The conditions of an accepted filter write its entries**, behind what is
there under other keys. -/
theorem Accepted.foldlM_putCondition? {entries : Entries} {conditions : List Condition}
    (h : Accepted entries conditions)
    (hnames : ∀ name ∈ fieldNamesOf entries, name.isString = true)
    (hkeys : (Value.map entries).isWellKeyed = true) {base : Entries}
    (hbase : ∀ old ∈ base, ∀ entry ∈ entries, old.1.eq entry.1 = false) :
    conditions.foldlM putCondition? base = some (base ++ entries) := by
  induction h generalizing base with
  | nil => exact congrArg some (List.append_nil base).symm
  | leaf key hpairs _ ih =>
    rw [fieldNamesOf, List.forall_mem_cons, List.forall_mem_append] at hnames
    obtain ⟨hfirst, -, hvalue, hrest⟩ := Value.isWellKeyed_map_cons_iff.1 hkeys
    exact foldlM_putCondition?_cons hnames.1 (by simpa using hpairs)
      (foldlM_putCondition?_leaf (Value.distinct_of_isWellKeyed hvalue))
      (fun base hbase => ih hnames.2.2 hrest hbase) hfirst hbase
  | inner key hleaf hne hinner _ ihinner ih =>
    rw [fieldNamesOf, List.forall_mem_cons, List.forall_mem_append, fieldNames, hleaf] at hnames
    obtain ⟨hfirst, -, hvalue, hrest⟩ := Value.isWellKeyed_map_cons_iff.1 hkeys
    exact foldlM_putCondition?_cons hnames.1 (hinner.ne_nil hne)
      (ihinner hnames.2.1 hvalue nofun)
      (fun base hbase => ih hnames.2.2 hrest hbase) hfirst hbase

/-! ## Paths that do not go on from each other -/

/-- **Conditions that do not meet where they are written**: none has the path and
the operator of another one, and none has a path that goes on from that of
another one. -/
structure PrefixFree (conditions : List Condition) : Prop where
  /-- No path comes twice with one operator. -/
  nodup : (conditions.map fun c => (c.path, c.op)).Nodup
  /-- A path that begins another one is all of it. -/
  eq_of_isPrefix : ∀ c ∈ conditions, ∀ d ∈ conditions, c.path <+: d.path → c.path = d.path

theorem prefixFree_leaf {pairs : List (Operator × Value)}
    (hkeys : Entries.Distinct (pairs.map operatorEntry)) :
    PrefixFree (pairs.map operatorCondition) where
  nodup := by
    rw [List.map_map, List.Nodup, List.pairwise_map]
    refine (List.pairwise_map.1 hkeys).imp fun {a b} hne heq => ?_
    have hop : a.1 = b.1 := congrArg Prod.snd heq
    rw [operatorEntry, operatorEntry, hop, Value.eq_self_of_isScalar rfl rfl] at hne
    cases hne
  eq_of_isPrefix := by
    intro c hc d hd _
    obtain ⟨a, -, rfl⟩ := List.mem_map.1 hc
    obtain ⟨b, -, rfl⟩ := List.mem_map.1 hd
    rfl

theorem PrefixFree.map_below {conditions : List Condition} (h : PrefixFree conditions)
    (path : List Value) : PrefixFree (conditions.map (Condition.below path)) where
  nodup := by
    have hpair : (fun c : Condition => (c.path, c.op)) ∘ Condition.below path
        = (fun pair => (path ++ pair.1, pair.2)) ∘ fun c => (c.path, c.op) := rfl
    rw [List.map_map, hpair, ← List.map_map]
    refine h.nodup.map fun a b heq => ?_
    obtain ⟨hpath, hop⟩ := Prod.mk.inj heq
    exact Prod.ext (List.append_cancel_left hpath) hop
  eq_of_isPrefix := by
    intro c hc d hd hbegins
    obtain ⟨a, ha, rfl⟩ := List.mem_map.1 hc
    obtain ⟨b, hb, rfl⟩ := List.mem_map.1 hd
    exact congrArg (path ++ ·)
      (h.eq_of_isPrefix a ha b hb ((List.prefix_append_right_inj path).1 hbegins))

theorem PrefixFree.append {conditions others : List Condition} (h : PrefixFree conditions)
    (hothers : PrefixFree others)
    (hapart : ∀ c ∈ conditions, ∀ d ∈ others, ¬ c.path <+: d.path ∧ ¬ d.path <+: c.path) :
    PrefixFree (conditions ++ others) where
  nodup := by
    rw [List.map_append]
    refine h.nodup.append hothers.nodup fun pair hpair hpair' => ?_
    obtain ⟨c, hc, rfl⟩ := List.mem_map.1 hpair
    obtain ⟨d, hd, heq⟩ := List.mem_map.1 hpair'
    exact (hapart c hc d hd).1 ((Prod.mk.inj heq).1 ▸ List.prefix_rfl)
  eq_of_isPrefix := by
    intro c hc d hd hbegins
    rcases List.mem_append.1 hc with hc | hc <;> rcases List.mem_append.1 hd with hd | hd
    · exact h.eq_of_isPrefix c hc d hd hbegins
    · exact absurd hbegins (hapart c hc d hd).1
    · exact absurd hbegins (hapart d hd c hc).2
    · exact hothers.eq_of_isPrefix c hc d hd hbegins

/-- Below a key that is different from all others, paths do not meet theirs. -/
theorem Accepted.prefixFree_cons {key : Value} {rest : Entries} {here others : List Condition}
    (hrest : Accepted rest others) (hkey : key.isString = true)
    (hfirst : ∀ entry ∈ rest, key.eq entry.1 = false) (hhere : PrefixFree here)
    (hothers : PrefixFree others) :
    PrefixFree (here.map (Condition.below [key]) ++ others) := by
  refine (hhere.map_below [key]).append hothers fun c hc d hd => ?_
  obtain ⟨a, -, rfl⟩ := List.mem_map.1 hc
  obtain ⟨entry, hentry, names, hpath⟩ := hrest.exists_path_eq d hd
  have hne : entry.1 ≠ key := Value.ne_of_eq_eq_false hkey (hfirst entry hentry)
  rw [hpath]
  constructor
  · exact fun hbegins => hne (List.cons_prefix_cons.1 hbegins).1.symm
  · exact fun hbegins => hne (List.cons_prefix_cons.1 hbegins).1

/-- **The conditions of an accepted filter do not meet.** -/
theorem Accepted.prefixFree {entries : Entries} {conditions : List Condition}
    (h : Accepted entries conditions)
    (hnames : ∀ name ∈ fieldNamesOf entries, name.isString = true)
    (hkeys : (Value.map entries).isWellKeyed = true) : PrefixFree conditions := by
  induction h with
  | nil => exact ⟨List.nodup_nil, nofun⟩
  | leaf key hpairs hrest ih =>
    rw [fieldNamesOf, List.forall_mem_cons, List.forall_mem_append] at hnames
    obtain ⟨hfirst, -, hvalue, hkeyed⟩ := Value.isWellKeyed_map_cons_iff.1 hkeys
    exact hrest.prefixFree_cons hnames.1 hfirst
      (prefixFree_leaf (Value.distinct_of_isWellKeyed hvalue)) (ih hnames.2.2 hkeyed)
  | inner key hleaf hne hinner hrest ihinner ih =>
    rw [fieldNamesOf, List.forall_mem_cons, List.forall_mem_append, fieldNames, hleaf] at hnames
    obtain ⟨hfirst, -, hvalue, hkeyed⟩ := Value.isWellKeyed_map_cons_iff.1 hkeys
    exact hrest.prefixFree_cons hnames.1 hfirst (ihinner hnames.2.1 hvalue) (ih hnames.2.2 hkeyed)

/-! ## What flattening gives -/

/-- **Flattening a filter loses nothing.** It fails if and only if it meets a
value that is no map with entries. Otherwise the conditions make the filter again,
with its keys in their order, and they do not meet where they are written. -/
theorem rebuild_flatten {args : Entries}
    (hnames : ∀ name ∈ fieldNamesOf args, name.isString = true)
    (hkeys : (Value.map args).isWellKeyed = true) :
    ((∃ path value, flatten (.map args) = .error (.malformed path value))
        ↔ ∃ value ∈ metIn args, hasEntries value = false)
      ∧ ((∀ value ∈ metIn args, hasEntries value = true) →
        ∃ conditions, flatten (.map args) = .ok conditions
          ∧ rebuild? conditions = some args ∧ PrefixFree conditions) := by
  obtain ⟨path, value, hfirst, hflat⟩ | ⟨conditions, hfirst, hflat⟩ :=
    (comesTo_flatten hnames).cases
  · have hbad : ∃ value ∈ metIn args, hasEntries value = false :=
      ⟨value, List.mem_of_find?_eq_some hfirst, by simpa using List.find?_some hfirst⟩
    refine ⟨iff_of_true ⟨path, value, hflat⟩ hbad, fun hall => ?_⟩
    rw [firstMalformed?_eq_none_iff.2 hall] at hfirst
    cases hfirst
  · have hall := firstMalformed?_eq_none_iff.1 hfirst
    refine ⟨iff_of_false ?_ ?_, fun _ => ?_⟩
    · rintro ⟨path, value, herror⟩
      rw [hflat] at herror
      cases herror
    · rintro ⟨value, hmem, hvalue⟩
      rw [hall value hmem] at hvalue
      cases hvalue
    · have haccepted := accepted_of_flatten hflat
      refine ⟨conditions, hflat, ?_, haccepted.prefixFree hnames hkeys⟩
      exact haccepted.foldlM_putCondition? hnames hkeys nofun

/-- A filter in which the name of an operator is that of a field, and an operand
is written like a leaf. -/
def tangledFilter : Entries :=
  [(.string "range", .map [(.string "lt", .map [(.string "gt", .int 1)]),
      (.string "step", .map [(.string "ne", .map [(.string "eq", .int 2)])])]),
    (.string "eq", .map [(.string "gte", .int 3), (.string "lte", .int 4)])]

/-- The filter is made again by its four conditions. -/
theorem rebuild_tangledFilter :
    (∀ name ∈ fieldNamesOf tangledFilter, name.isString = true)
      ∧ (Value.map tangledFilter).isWellKeyed = true
      ∧ (∀ value ∈ metIn tangledFilter, hasEntries value = true)
      ∧ ∃ conditions, flatten (.map tangledFilter) = .ok conditions
        ∧ conditions = [⟨[.string "range", .string "lt"], .gt, .int 1⟩,
          ⟨[.string "range", .string "step"], .ne, .map [(.string "eq", .int 2)]⟩,
          ⟨[.string "eq"], .gte, .int 3⟩, ⟨[.string "eq"], .lte, .int 4⟩]
        ∧ rebuild? conditions = some tangledFilter ∧ PrefixFree conditions := by
  have hnames : ∀ name ∈ fieldNamesOf tangledFilter, name.isString = true := by decide
  have hkeys : (Value.map tangledFilter).isWellKeyed = true := by decide
  have hmet : ∀ value ∈ metIn tangledFilter, hasEntries value = true := by decide
  obtain ⟨conditions, hflat, hrebuild, hfree⟩ := (rebuild_flatten hnames hkeys).2 hmet
  refine ⟨hnames, hkeys, hmet, conditions, hflat, ?_, hrebuild, hfree⟩
  exact Except.ok.inj (hflat.symm.trans rfl)

end Filter

end ContentGraph
