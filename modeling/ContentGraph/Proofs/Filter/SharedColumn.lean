import ContentGraph.Proofs.Filter.Select
import ContentGraph.Proofs.Value.Equality

/-!
# Entries that share a column

A filter for several fields is meant to select what each of its entries would
select alone. The conditions of all entries are tested on one frame, though, and
its columns go by dotted names: where two paths are written alike, the column is
that of the later one, and all conditions on either path are tested on it
(`Condition.among`). So an entry keeps its meaning as long as no later entry has
one of its columns, and loses it otherwise (`Filter.select_entries`). The field
`a.b` and the field `b` inside `a` are the smallest case: each of two entries
selects a node alone, and together they select none (`Filter.dottedField_lost`).

Names without points are never written alike, so among them entries are
independent (`Filter.apart_of_isPlainName`).
-/

namespace ContentGraph

namespace Condition

/-- The path at which a condition is tested when it stands among others: that of
the last one with its column. -/
def pathAmong (conditions : List Condition) (c : Condition) : List Value :=
  ((conditions.reverse.find? fun d => d.column == c.column).map (·.path)).getD c.path

/-- A condition as it is tested when it stands among others. -/
def among (conditions : List Condition) (c : Condition) : Condition :=
  c.readAt (c.pathAmong conditions)

theorem exists_pathAmong_eq {conditions : List Condition} {c : Condition}
    (h : ∃ d ∈ conditions, d.column = c.column) :
    ∃ d ∈ conditions, d.column = c.column ∧ c.pathAmong conditions = d.path := by
  obtain ⟨d, hd, hcolumn, hfind⟩ := exists_find?_column h
  exact ⟨d, hd, hcolumn, by rw [pathAmong, hfind]; rfl⟩

/-- Conditions before one that has the column in question have no part in it. -/
theorem pathAmong_append_of_mem (before : List Condition) {after : List Condition}
    {c : Condition} (h : ∃ d ∈ after, d.column = c.column) :
    c.pathAmong (before ++ after) = c.pathAmong after := by
  obtain ⟨d, -, -, hfind⟩ := exists_find?_column h
  rw [pathAmong, pathAmong, List.reverse_append, List.find?_append, hfind, Option.some_or]

/-- Nor have conditions with other columns. -/
theorem pathAmong_append_of_forall_ne (before : List Condition) {after : List Condition}
    {c : Condition} (h : ∀ d ∈ after, d.column ≠ c.column) :
    c.pathAmong (before ++ after) = c.pathAmong before := by
  have hnone : (after.reverse.find? fun d => d.column == c.column) = none :=
    List.find?_eq_none.2 fun d hd => by simpa using h d (List.mem_reverse.1 hd)
  rw [pathAmong, pathAmong, List.reverse_append, List.find?_append, hnone, Option.none_or]

end Condition

namespace Filter

/-! ## The conditions of an entry -/

/-- The conditions of one entry of a filter. -/
def conditionsIn (entry : Value × Value) : List Condition :=
  match flatten (.map [entry]) with
  | .ok conditions => conditions
  | .error _ => []

/-- The conditions of an accepted filter are those of its entries, one after the
other, and each entry is accepted alone. -/
theorem conditions_eq_flatMap {args : Entries} {conditions : List Condition}
    (haccepted : flatten (.map args) = .ok conditions) :
    conditions = args.flatMap conditionsIn
      ∧ ∀ entry ∈ args, flatten (.map [entry]) = .ok (conditionsIn entry) := by
  rw [flatten] at haccepted
  induction args generalizing conditions with
  | nil =>
    rw [flattenEntries, Except.ok.injEq] at haccepted
    exact ⟨haccepted.symm, fun entry hentry => absurd hentry List.not_mem_nil⟩
  | cons entry rest ih =>
    obtain ⟨key, value⟩ := entry
    obtain ⟨here, others, hhere, hothers, rfl⟩ := flattenEntries_cons haccepted
    obtain ⟨hflatMap, hrest⟩ := ih hothers
    have hsingle : flatten (.map [(key, value)]) = .ok here := by
      rw [flatten, flattenEntries, hhere, flattenEntries]
      exact congrArg Except.ok (List.append_nil here)
    have hin : conditionsIn (key, value) = here := by rw [conditionsIn, hsingle]
    refine ⟨by rw [List.flatMap_cons, hin, ← hflatMap], fun entry hentry => ?_⟩
    rcases List.mem_cons.1 hentry with rfl | hmem
    · rw [hin, hsingle]
    · exact hrest entry hmem

/-- The conditions of an entry ask about its field, or about something inside
it. -/
theorem exists_path_eq_cons {entry : Value × Value} {c : Condition}
    (hc : c ∈ conditionsIn entry) : ∃ rest, c.path = entry.1 :: rest := by
  obtain ⟨key, value⟩ := entry
  rw [conditionsIn] at hc
  cases hflat : flatten (.map [(key, value)]) with
  | error e =>
    rw [hflat] at hc
    exact absurd hc List.not_mem_nil
  | ok conditions =>
    rw [hflat] at hc
    obtain ⟨here, others, hhere, hothers, rfl⟩ := flattenEntries_cons hflat
    rw [flattenEntries, Except.ok.injEq] at hothers
    subst hothers
    rw [List.append_nil] at hc
    obtain ⟨names, hpath, -⟩ := path_of_flattenValue value hhere c hc
    exact ⟨names, hpath⟩

/-- The key of an entry is the name of a field. -/
theorem key_mem_fieldNamesOf {args : Entries} {entry : Value × Value} (h : entry ∈ args) :
    entry.1 ∈ fieldNamesOf args := by
  induction args with
  | nil => cases h
  | cons first rest ih =>
    rw [fieldNamesOf]
    rcases List.mem_cons.1 h with rfl | hmem
    · exact List.mem_cons_self
    · exact List.mem_cons_of_mem _ (List.mem_append_right _ (ih hmem))

/-- Two entries of a filter **have no column in common**. -/
def Apart (entry other : Value × Value) : Prop :=
  ∀ c ∈ conditionsIn entry, ∀ d ∈ conditionsIn other, d.column ≠ c.column

/-- Entries for different fields have no column in common if no name in the
filter holds a point. -/
theorem apart_of_isPlainName {args : Entries} {conditions : List Condition}
    (haccepted : flatten (.map args) = .ok conditions) (hdistinct : args.Distinct)
    (hnames : ∀ name ∈ fieldNamesOf args, isPlainName name = true) : args.Pairwise Apart := by
  obtain ⟨rfl, -⟩ := conditions_eq_flatMap haccepted
  have hplain := plainPath_of_flatten haccepted hnames
  refine List.Pairwise.imp_of_mem (fun {entry other} hentry hother hne c hc d hd hcolumn => ?_)
    hdistinct
  have hcplain := hplain c (List.mem_flatMap_of_mem hentry hc)
  have hdplain := hplain d (List.mem_flatMap_of_mem hother hd)
  have hpath : d.path = c.path := dotted_injective hdplain hcplain
    (dotted_eq_column hdplain.isString) (hcolumn ▸ dotted_eq_column hcplain.isString)
  obtain ⟨crest, hcpath⟩ := exists_path_eq_cons hc
  obtain ⟨drest, hdpath⟩ := exists_path_eq_cons hd
  have hkey : entry.1.isString = true := hcplain.isString _ (hcpath ▸ List.mem_cons_self)
  exact Value.ne_of_eq_eq_false hkey hne (List.cons.inj (hdpath.symm.trans (hpath.trans hcpath))).1

/-! ## The selection -/

/-- A filter selects the nodes at which each of its conditions holds where it is
tested. -/
theorem select_eq_filter_among {α : Type} (node : α → Node) {items : List α} {args : Entries}
    {conditions : List Condition} (haccepted : flatten (.map args) = .ok conditions)
    (htexts : ∀ c ∈ conditions, ∀ name ∈ c.path, name.isString = true)
    (hdecided : ∀ c ∈ conditions, ∀ item ∈ items, (c.among conditions).Decided (node item)) :
    select node (.map args) items
      = .ok (items.filter fun item =>
          conditions.all fun c => (c.among conditions).holds (node item)) := by
  obtain ⟨frame, hframe, hlookup⟩ := exists_lookup_columns (items.map node) htexts
  refine select_eq_filter_of_columns (·.pathAmong conditions) haccepted
    ⟨frame, hframe, fun c hc => ⟨c.column, dotted_eq_column (htexts c hc), ?_⟩⟩ hdecided
  obtain ⟨d, -, -, hfind⟩ := Condition.exists_find?_column ⟨c, hc, rfl⟩
  rw [hlookup, Condition.pathAmong, hfind]
  rfl

/-- **An entry is tested as it is alone if and only if no later entry has one of
its columns.** -/
theorem among_eq_iff {before after : Entries} {entry : Value × Value}
    (htext : entry.1.isString = true)
    (hdistinct : Entries.Distinct (before ++ entry :: after)) :
    (∀ c ∈ conditionsIn entry,
        c.among ((before ++ entry :: after).flatMap conditionsIn) = c.among (conditionsIn entry))
      ↔ ∀ other ∈ after, Apart entry other := by
  have hpath {c : Condition} (hc : c ∈ conditionsIn entry) :
      c.pathAmong ((before ++ entry :: after).flatMap conditionsIn)
        = c.pathAmong (conditionsIn entry ++ after.flatMap conditionsIn) := by
    rw [List.flatMap_append, List.flatMap_cons]
    exact Condition.pathAmong_append_of_mem _ ⟨c, List.mem_append_left _ hc, rfl⟩
  constructor
  · intro h other hother c hc d hd hcolumn
    have hlater : ∃ d ∈ after.flatMap conditionsIn, d.column = c.column :=
      ⟨d, List.mem_flatMap_of_mem hother hd, hcolumn⟩
    have hsame : c.pathAmong (after.flatMap conditionsIn) = c.pathAmong (conditionsIn entry) := by
      rw [← Condition.pathAmong_append_of_mem (conditionsIn entry) hlater, ← hpath hc]
      exact congrArg Condition.path (h c hc)
    -- The two paths begin with the names of different fields.
    obtain ⟨x, hx, -, hxpath⟩ := Condition.exists_pathAmong_eq hlater
    obtain ⟨y, hy, -, hypath⟩ := Condition.exists_pathAmong_eq ⟨c, hc, rfl⟩
    obtain ⟨later, hlater, hx⟩ := List.mem_flatMap.1 hx
    obtain ⟨xrest, hxrest⟩ := exists_path_eq_cons hx
    obtain ⟨yrest, hyrest⟩ := exists_path_eq_cons hy
    have hne : entry.1.eq later.1 = false :=
      (List.pairwise_cons.1 (List.pairwise_append.1 hdistinct).2.1).1 later hlater
    rw [hxpath, hypath, hxrest, hyrest] at hsame
    exact Value.ne_of_eq_eq_false htext hne (List.cons.inj hsame).1
  · intro h c hc
    have hothers : ∀ d ∈ after.flatMap conditionsIn, d.column ≠ c.column := by
      intro d hd
      obtain ⟨other, hother, hd⟩ := List.mem_flatMap.1 hd
      exact h other hother c hc d hd
    rw [Condition.among, Condition.among, hpath hc,
      Condition.pathAmong_append_of_forall_ne _ hothers]

/-- **What the entries of a filter select together and alone.** Alone, an entry
selects the nodes that pass it. Together, they select the nodes at which each
condition holds where it is tested among all of them, which is where it is tested
alone for just the entries that have no column in common with a later one. So the
entries together select what all of them select alone if no two have a column in
common, and no two do if no name in the filter holds a point. -/
theorem select_entries {α : Type} (node : α → Node) {items : List α} {args : Entries}
    {conditions : List Condition} (haccepted : flatten (.map args) = .ok conditions)
    (htexts : ∀ name ∈ fieldNamesOf args, name.isString = true) (hdistinct : args.Distinct)
    (htogether : ∀ c ∈ conditions, ∀ item ∈ items, (c.among conditions).Decided (node item))
    (halone : ∀ entry ∈ args, ∀ c ∈ conditionsIn entry, ∀ item ∈ items,
      (c.among (conditionsIn entry)).Decided (node item)) :
    ∃ passes : Value × Value → α → Bool,
      (∀ entry ∈ args, select node (.map [entry]) items = .ok (items.filter (passes entry)))
      ∧ select node (.map args) items
          = .ok (items.filter fun item =>
              conditions.all fun c => (c.among conditions).holds (node item))
      ∧ (∀ before entry after, args = before ++ entry :: after →
          ((∀ c ∈ conditionsIn entry, c.among conditions = c.among (conditionsIn entry))
            ↔ ∀ other ∈ after, Apart entry other))
      ∧ (args.Pairwise Apart → select node (.map args) items
          = .ok (items.filter fun item => args.all fun entry => passes entry item))
      ∧ ((∀ name ∈ fieldNamesOf args, isPlainName name = true) → args.Pairwise Apart) := by
  obtain ⟨hflatMap, hsingle⟩ := conditions_eq_flatMap haccepted
  have hpaths : ∀ c ∈ conditions, ∀ name ∈ c.path, name.isString = true := by
    intro c hc name hname
    obtain ⟨names, -, hpath, hmem⟩ := path_of_flattenEntries args haccepted c hc
    exact htexts name (hmem name (by rwa [hpath] at hname))
  have hin {entry : Value × Value} (hentry : entry ∈ args) {c : Condition}
      (hc : c ∈ conditionsIn entry) : c ∈ conditions :=
    hflatMap ▸ List.mem_flatMap_of_mem hentry hc
  have hwhole := select_eq_filter_among node haccepted hpaths htogether
  have hreads : ∀ before entry after, args = before ++ entry :: after →
      ((∀ c ∈ conditionsIn entry, c.among conditions = c.among (conditionsIn entry))
        ↔ ∀ other ∈ after, Apart entry other) := by
    rintro before entry after rfl
    rw [hflatMap]
    have hentry : entry ∈ before ++ entry :: after :=
      List.mem_append_right before List.mem_cons_self
    exact among_eq_iff (htexts _ (key_mem_fieldNamesOf hentry)) hdistinct
  refine ⟨fun entry item =>
      (conditionsIn entry).all fun c => (c.among (conditionsIn entry)).holds (node item),
    fun entry hentry => ?_, hwhole, hreads, fun hapart => ?_,
    apart_of_isPlainName haccepted hdistinct⟩
  · exact select_eq_filter_among node (hsingle entry hentry)
      (fun c hc => hpaths c (hin hentry hc)) (halone entry hentry)
  · have hsame : ∀ entry ∈ args, ∀ c ∈ conditionsIn entry,
        c.among conditions = c.among (conditionsIn entry) := by
      intro entry hentry
      obtain ⟨before, after, hargs⟩ := List.append_of_mem hentry
      rw [hargs, List.pairwise_append, List.pairwise_cons] at hapart
      exact (hreads before entry after hargs).2 hapart.2.1.1
    rw [hwhole]
    refine congrArg Except.ok (List.filter_congr fun item _ => ?_)
    rw [Bool.eq_iff_iff, List.all_eq_true, List.all_eq_true]
    refine ⟨fun h entry hentry => List.all_eq_true.2 fun c hc => ?_, fun h c hc => ?_⟩
    · rw [← hsame entry hentry c hc]
      exact h c (hin hentry hc)
    · obtain ⟨entry, hentry, hc⟩ := List.mem_flatMap.1 (hflatMap ▸ hc)
      rw [hsame entry hentry c hc]
      exact List.all_eq_true.1 (h entry hentry) c hc

/-- A node with a field whose name holds a point, and with a field inside another
that is written like it. -/
def dottedField : Node :=
  .ofFields "a" "T" [(.string "a.b", .int 1), (.string "a", .map [(.string "b", .int 2)])]

/-- The entry for the field whose name holds a point. -/
def dottedEntry : Value × Value := (.string "a.b", .map [(.string "eq", .int 1)])

/-- The entry for the field inside the other. -/
def innerEntry : Value × Value :=
  (.string "a", .map [(.string "b", .map [(.string "eq", .int 2)])])

/-- **A dotted name and a path written like it lose a node between them**: each
of the two entries selects it alone, and together they select nothing. -/
theorem dottedField_lost :
    select id (.map [dottedEntry]) [dottedField] = .ok [dottedField]
      ∧ select id (.map [innerEntry]) [dottedField] = .ok [dottedField]
      ∧ select id (.map [dottedEntry, innerEntry]) [dottedField] = .ok []
      ∧ ¬ Apart dottedEntry innerEntry := by
  have hdotted : select id (.map [dottedEntry]) [dottedField] = .ok [dottedField] := by
    decide +kernel
  have hinner : select id (.map [innerEntry]) [dottedField] = .ok [dottedField] := by
    decide +kernel
  have hnothing : select id (.map [dottedEntry, innerEntry]) [dottedField] = .ok [] := by
    decide +kernel
  have haccepted : flatten (.map [dottedEntry, innerEntry])
      = .ok [⟨[.string "a.b"], .eq, .int 1⟩, ⟨[.string "a", .string "b"], .eq, .int 2⟩] := rfl
  obtain ⟨passes, halone, -, -, hapart, -⟩ := select_entries id
    haccepted (by decide) (by decide)
    (fun c hc _ _ => Condition.decided_of_alwaysAnswers (by revert c; decide))
    (fun e he c hc _ _ => Condition.decided_of_alwaysAnswers (by revert c; revert e; decide))
  refine ⟨hdotted, hinner, hnothing, fun h => ?_⟩
  -- Apart from one another, the two would select the node together.
  rw [halone _ List.mem_cons_self, Except.ok.injEq, List.filter_eq_self] at hdotted
  rw [halone _ (List.mem_cons_of_mem _ List.mem_cons_self), Except.ok.injEq,
    List.filter_eq_self] at hinner
  rw [hapart (List.pairwise_pair.2 h), Except.ok.injEq, List.filter_eq_nil_iff] at hnothing
  refine hnothing dottedField List.mem_cons_self ?_
  rw [List.all_cons, List.all_cons, hdotted _ List.mem_cons_self, hinner _ List.mem_cons_self]
  rfl

end Filter

end ContentGraph
