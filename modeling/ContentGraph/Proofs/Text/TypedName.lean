import ContentGraph.Text.TypedName
import Mathlib.Data.List.Infix

/-!
# Reading a typed name back

A typed name is put together from a base, the separator and a type, and it is
cut at the first separator that it holds. That is the one it was put together
with, unless there is an earlier one: in the base, or across its end, where low
lines of the base and of the separator run together. Of a base without either,
the type is read back as it was written (`Text.typeSuffix?_typedName`), and where
they run together it is not (`Text.typeSuffix?_typedName_iff`).
-/

namespace ContentGraph.Text

/-- What stands between the base of a typed name and its type. -/
def separator : String := "___"

/-- A text that has a separator in it. -/
def HasSeparator (s : String) : Prop := separator.toList <:+: s.toList

instance (s : String) : Decidable (HasSeparator s) :=
  inferInstanceAs (Decidable (_ <:+: _))

/-- The text of a typed name. -/
def typedName (base target : String) : String := base ++ separator ++ target

variable {s base rest : List Char}

/-- Where no separator begins, the name goes on. -/
theorem splitAtSeparator_cons {c : Char} (h : ¬ separator.toList <+: c :: rest) :
    splitAtSeparator (c :: rest)
      = (c :: (splitAtSeparator rest).1, (splitAtSeparator rest).2) := by
  rw [splitAtSeparator.eq_def]
  split
  · next heq => exact absurd (heq ▸ List.prefix_append separator.toList _) h
  · next heq => cases heq
  · next heq =>
    cases heq
    rfl

/-- A text without a separator is not cut. -/
theorem splitAtSeparator_eq_self (h : ¬ separator.toList <:+: s) :
    splitAtSeparator s = (s, none) := by
  induction s with
  | nil => rfl
  | cons c rest ih =>
    have hrest : ¬ separator.toList <:+: rest := mt (List.infix_cons ·) h
    rw [splitAtSeparator_cons (mt List.IsPrefix.isInfix h), ih hrest]

/-- If a separator begins in front of another one, it lies before it or the two
meet in low lines. -/
theorem not_prefix_append (hne : base ≠ []) (hbase : ¬ separator.toList <:+: base)
    (hlast : base.getLast? ≠ some '_') :
    ¬ separator.toList <+: base ++ separator.toList ++ rest := by
  intro hprefix
  rw [List.append_assoc] at hprefix
  rcases List.prefix_or_prefix_of_prefix hprefix (List.prefix_append base _) with h | h
  · exact hbase h.isInfix
  · -- The base is a part of the separator, so it ends in a low line.
    have hmem : base.getLast hne ∈ separator.toList := h.subset (List.getLast_mem hne)
    have hlow : base.getLast hne = '_' := by
      simpa only [separator, String.reduceToList, List.mem_cons, List.not_mem_nil, or_false,
        or_self] using hmem
    exact hlast (hlow ▸ List.getLast?_eq_some_getLast hne)

/-- **A base and what follows it are cut apart at the separator between them.** -/
theorem splitAtSeparator_append (hbase : ¬ separator.toList <:+: base)
    (hlast : base.getLast? ≠ some '_') :
    splitAtSeparator (base ++ separator.toList ++ rest) = (base, some rest) := by
  induction base with
  | nil => rfl
  | cons c base ih =>
    have hinner : ¬ separator.toList <:+: base := mt (List.infix_cons ·) hbase
    have hend : base.getLast? ≠ some '_' := by
      cases base with
      | nil => exact nofun
      | cons d base => rwa [List.getLast?_cons_cons] at hlast
    have hfirst : ¬ separator.toList <+: c :: (base ++ separator.toList ++ rest) :=
      not_prefix_append (List.cons_ne_nil c base) hbase hlast
    show splitAtSeparator (c :: (base ++ separator.toList ++ rest)) = _
    rw [splitAtSeparator_cons hfirst, ih hinner hend]

/-- Nothing is lost at the separator that a text is cut at. -/
theorem eq_append_of_splitAtSeparator (h : splitAtSeparator s = (base, some rest)) :
    s = base ++ separator.toList ++ rest := by
  fun_induction splitAtSeparator s generalizing base with
  | case1 others =>
    obtain ⟨rfl, ⟨⟩⟩ := Prod.mk.inj h
    rfl
  | case2 => cases h
  | case3 c others _ ih =>
    obtain ⟨rfl, hrest⟩ := Prod.mk.inj h
    exact congrArg (c :: ·) (ih (Prod.ext rfl hrest))

/-- A text that is not cut comes out whole. -/
theorem eq_of_splitAtSeparator (h : splitAtSeparator s = (base, none)) : s = base := by
  fun_induction splitAtSeparator s generalizing base with
  | case1 others => cases h
  | case2 =>
    obtain ⟨rfl, -⟩ := Prod.mk.inj h
    rfl
  | case3 c others _ ih =>
    obtain ⟨rfl, hrest⟩ := Prod.mk.inj h
    exact congrArg (c :: ·) (ih (Prod.ext rfl hrest))

/-- What is cut off does not end in a low line: a separator would begin there already. -/
theorem getLast?_of_splitAtSeparator (h : splitAtSeparator s = (base, some rest)) :
    base.getLast? ≠ some '_' := by
  fun_induction splitAtSeparator s generalizing base with
  | case1 others =>
    obtain ⟨rfl, -⟩ := Prod.mk.inj h
    exact nofun
  | case2 => cases h
  | case3 c others hfirst ih =>
    obtain ⟨rfl, hrest⟩ := Prod.mk.inj h
    have hsplit : splitAtSeparator others = ((splitAtSeparator others).1, some rest) :=
      Prod.ext rfl hrest
    cases hbase : (splitAtSeparator others).1 with
    | nil =>
      intro hlow
      rw [hbase] at hsplit
      exact hfirst ('_' :: rest) (Option.some.inj hlow) (eq_append_of_splitAtSeparator hsplit)
    | cons d base =>
      rw [List.getLast?_cons_cons]
      exact hbase ▸ ih hsplit

/-- A name that the type is read back from is cut where it was put together. If
another separator followed the type, the first one would lie within the base. -/
theorem eq_base_of_splitAtSeparator {before target : List Char}
    (hbase : ¬ separator.toList <:+: base)
    (h : splitAtSeparator (base ++ separator.toList ++ target) = (before, some rest))
    (htarget : (splitAtSeparator rest).1 = target) : before = base := by
  have hname := eq_append_of_splitAtSeparator h
  cases hcut : (splitAtSeparator rest).2 with
  | none =>
    obtain rfl : rest = target := eq_of_splitAtSeparator (Prod.ext htarget hcut)
    exact (List.append_cancel_right (List.append_cancel_right hname)).symm
  | some more =>
    -- The first separator leaves room for another one behind the type, so it ends in the base.
    exfalso
    have hrest : rest = target ++ separator.toList ++ more :=
      eq_append_of_splitAtSeparator (Prod.ext htarget hcut)
    have hlength := congrArg List.length hname
    simp only [hrest, List.length_append] at hlength
    have hprefix : before ++ separator.toList <+: base :=
      List.prefix_of_prefix_length_le (hname ▸ List.prefix_append _ rest)
        ((List.prefix_append base _).trans (List.prefix_append _ target))
        (by rw [List.length_append]; omega)
    exact hbase ((List.suffix_append before _).isInfix.trans hprefix.isInfix)

section TypedName

variable {base target : String} (hbase : ¬ HasSeparator base)
  (hlast : base.toList.getLast? ≠ some '_')
include hbase hlast

/-- A typed name is cut where it was put together. -/
theorem splitAtSeparator_typedName :
    splitAtSeparator (typedName base target).toList = (base.toList, some target.toList) := by
  rw [typedName, String.toList_append, String.toList_append, splitAtSeparator_append hbase hlast]

/-- **The type of a typed name is read back as it was written**, if neither the
base nor the type has a separator in it and the base does not end in a low
line. -/
theorem typeSuffix?_typedName (htarget : ¬ HasSeparator target) (hne : target ≠ "") :
    typeSuffix? (typedName base target) = some target := by
  rw [typeSuffix?, typeSuffixCharacters, splitAtSeparator_typedName hbase hlast]
  dsimp only
  rw [splitAtSeparator_eq_self htarget]
  cases htext : target.toList with
  | nil => exact absurd (String.toList_eq_nil_iff.1 htext) hne
  | cons c rest =>
    show some (String.ofList (c :: rest)) = _
    rw [← htext, String.ofList_toList]

end TypedName

/-- A type is read between the first separator and the next one. -/
theorem exists_of_typeSuffix? {name target : String} (h : typeSuffix? name = some target) :
    ∃ before rest, splitAtSeparator name.toList = (before, some rest)
      ∧ (splitAtSeparator rest).1 = target.toList := by
  obtain ⟨suffix, hsuffix, rfl⟩ := Option.map_eq_some_iff.1 h
  unfold typeSuffixCharacters at hsuffix
  split at hsuffix
  · cases hsuffix
  · next rest hrest =>
    refine ⟨_, rest, Prod.ext rfl hrest, ?_⟩
    split at hsuffix
    · cases hsuffix
    · cases hsuffix
      exact String.toList_ofList.symm

/-- **The type of a typed name is read back if and only if the base does not end in a
low line**, for every base and every type that is not empty, neither with a separator
in it. -/
theorem typeSuffix?_typedName_iff {base target : String} (hbase : ¬ HasSeparator base)
    (htarget : ¬ HasSeparator target) (hne : target ≠ "") :
    typeSuffix? (typedName base target) = some target ↔ base.toList.getLast? ≠ some '_' := by
  constructor
  · intro h
    obtain ⟨before, rest, hsplit, hrest⟩ := exists_of_typeSuffix? h
    have hbefore : before = base.toList := by
      rw [typedName, String.toList_append, String.toList_append] at hsplit
      exact eq_base_of_splitAtSeparator hbase hsplit hrest
    exact hbefore ▸ getLast?_of_splitAtSeparator hsplit
  · exact fun hlast => typeSuffix?_typedName hbase hlast htarget hne

/-- Low lines elsewhere are no obstacle: within the base, and on both sides of the type. -/
theorem typeSuffix?_coAuthor :
    ¬ HasSeparator "co__author" ∧ ¬ HasSeparator "__Person_" ∧ "__Person_" ≠ ""
      ∧ "co__author".toList.getLast? ≠ some '_'
      ∧ typeSuffix? (typedName "co__author" "__Person_") = some "__Person_" := by
  have hbase : ¬ HasSeparator "co__author" := by decide
  have htarget : ¬ HasSeparator "__Person_" := by decide
  have hlast : "co__author".toList.getLast? ≠ some '_' := by decide
  exact ⟨hbase, htarget, by decide, hlast,
    (typeSuffix?_typedName_iff hbase htarget (by decide)).2 hlast⟩

/-- **A low line at the end of the base is read as the first of the type.** The name is
the same as that of a base without it and a type with it, so no reading of names could
give both types back. -/
theorem typeSuffix?_lowLine :
    ¬ HasSeparator "author_" ∧ ¬ HasSeparator "Person" ∧ "Person" ≠ ""
      ∧ typedName "author_" "Person" = typedName "author" "_Person"
      ∧ typeSuffix? (typedName "author_" "Person") = some "_Person"
      ∧ typeSuffix? (typedName "author_" "Person") ≠ some "Person" := by
  decide

end ContentGraph.Text
