import ContentGraph.Proofs.Text.Word
import Mathlib.Data.List.DropRight

/-!
# A name is cut at the boundaries and nowhere else

The words of a name are found in two passes: the name is taken apart at its
separators, and each stretch between them is cut where a word ends. What comes of
this is described here without either pass. The words make up the name without its
separators, a word begins wherever a stretch does, and inside a stretch there is a
cut between two neighbours if and only if they are a boundary, read with the
character after them in the same stretch (`Text.IsSplitting`).

This leaves nothing open: a name has one such list of words, and it is the one that
is found (`Text.eq_splitWords_iff`). A cut is described by what stands on its two
sides and not by an index, so it means the same in a stretch and in the name around
it (`Text.isCut_append_left`, `Text.isCut_append_right`).
-/

namespace ContentGraph.Text

/-! ## Cuts of a list of words -/

/-- Words are cut between two texts, if they come in two parts, of which the first
makes up the one text and the second the other. -/
def IsCut (words : List (List Char)) (x y : List Char) : Prop :=
  ∃ left right, words = left ++ right ∧ left.flatten = x ∧ right.flatten = y

section Cut

variable {words left right : List (List Char)} {word x y : List Char}

theorem isCut_start (words : List (List Char)) : IsCut words [] words.flatten :=
  ⟨[], words, rfl, rfl, rfl⟩

theorem isCut_end (words : List (List Char)) : IsCut words words.flatten [] :=
  ⟨words, [], (List.append_nil words).symm, rfl, rfl⟩

theorem isCut_head (word : List Char) (words : List (List Char)) :
    IsCut (word :: words) word words.flatten :=
  ⟨[word], words, rfl, List.flatten_singleton, rfl⟩

theorem IsCut.flatten_eq (h : IsCut words x y) : words.flatten = x ++ y := by
  obtain ⟨left, right, rfl, rfl, rfl⟩ := h
  exact List.flatten_append

/-- A cut behind the start has the first word in front of it. -/
theorem isCut_cons_iff (hx : x ≠ []) :
    IsCut (word :: words) x y ↔ ∃ z, x = word ++ z ∧ IsCut words z y := by
  constructor
  · rintro ⟨left, right, heq, rfl, rfl⟩
    cases left with
    | nil => exact absurd rfl hx
    | cons first left =>
      obtain ⟨rfl, rfl⟩ := List.cons.inj heq
      exact ⟨left.flatten, rfl, left, right, rfl, rfl, rfl⟩
  · rintro ⟨z, rfl, left, right, rfl, rfl, rfl⟩
    exact ⟨word :: left, right, rfl, rfl, rfl⟩

theorem isCut_cons_append (hword : word ≠ []) :
    IsCut (word :: words) (word ++ x) y ↔ IsCut words x y := by
  rw [isCut_cons_iff (List.append_ne_nil_of_left_ne_nil hword x)]
  simp only [List.append_cancel_left_eq, exists_eq_left']

theorem IsCut.isPrefix (h : IsCut (word :: words) x y) (hx : x ≠ []) : word <+: x := by
  obtain ⟨z, rfl, -⟩ := (isCut_cons_iff hx).1 h
  exact List.prefix_append word z

/-- Words in front of a cut can be left out. -/
theorem isCut_append_left (hx : x ≠ []) :
    IsCut (left ++ words) (left.flatten ++ x) y ↔ IsCut words x y := by
  induction left with
  | nil => rfl
  | cons first left ih =>
    have hne : (first :: left).flatten ++ x ≠ [] := List.append_ne_nil_of_right_ne_nil _ hx
    rw [List.cons_append, isCut_cons_iff hne, ← ih]
    simp only [List.flatten_cons, List.append_assoc, List.append_cancel_left_eq, exists_eq_left']

/-- Words behind a cut can be left out. -/
theorem isCut_append_right (hy : y ≠ []) :
    IsCut (words ++ right) x (y ++ right.flatten) ↔ IsCut words x y := by
  constructor
  · rintro ⟨front, back, heq, rfl, hback⟩
    rcases List.append_eq_append_iff.1 heq with ⟨surplus, rfl, rfl⟩ | ⟨rest, rfl, rfl⟩
    · -- The cut would lie behind all of the words, with nothing left for `y`.
      rw [List.flatten_append, ← List.append_assoc] at hback
      exact absurd (List.append_eq_nil_iff.1 (List.self_eq_append_left.1 hback)).1 hy
    · rw [List.flatten_append] at hback
      exact ⟨front, rest, rfl, rfl, List.append_cancel_right hback⟩
  · rintro ⟨front, back, rfl, rfl, rfl⟩
    exact ⟨front, back ++ right, List.append_assoc .., rfl, List.flatten_append⟩

theorem eq_nil_of_flatten_eq_nil (hwords : [] ∉ words) (h : words.flatten = []) : words = [] :=
  List.eq_nil_iff_forall_not_mem.2 fun word hmem =>
    hwords (List.flatten_eq_nil_iff.1 h word hmem ▸ hmem)

/-- **Words that are cut at the same places are the same**, if none is empty. -/
theorem eq_of_isCut_iff {others : List (List Char)} (hwords : [] ∉ words)
    (hothers : [] ∉ others) (h : ∀ x y, IsCut words x y ↔ IsCut others x y) :
    words = others := by
  have hflatten : others.flatten = words.flatten := ((h _ _).1 (isCut_start words)).flatten_eq
  induction words generalizing others with
  | nil => exact (eq_nil_of_flatten_eq_nil hothers hflatten).symm
  | cons word words ih =>
    cases others with
    | nil => exact eq_nil_of_flatten_eq_nil hwords hflatten.symm
    | cons other others =>
      obtain ⟨hword, hrest⟩ := List.ne_and_not_mem_of_not_mem_cons hwords
      obtain ⟨hother, hrest'⟩ := List.ne_and_not_mem_of_not_mem_cons hothers
      -- Each of the two first words begins with the other one, as both end at a cut.
      have hle : other <+: word := ((h _ _).1 (isCut_head word words)).isPrefix hword.symm
      have hge : word <+: other := ((h _ _).2 (isCut_head other others)).isPrefix hother.symm
      obtain rfl : word = other := hge.eq_of_length_le hle.length_le
      have hcuts : ∀ x y, IsCut words x y ↔ IsCut others x y := fun x y => by
        rw [← isCut_cons_append hword.symm, h, isCut_cons_append hword.symm]
      rw [ih hrest hrest' hcuts (List.append_cancel_left hflatten)]

end Cut

/-! ## A stretch without separators -/

section Stretch

variable {c : Char} {s x y : List Char} {words : List (List Char)}

theorem flatten_joinFirst : (joinFirst c words).flatten = c :: words.flatten := by
  cases words <;> rfl

theorem nil_notMem_cons {word : List Char} (h : [] ∉ words) : [] ∉ (c :: word) :: words :=
  List.not_mem_cons_of_ne_of_not_mem (List.cons_ne_nil c word).symm h

theorem nil_notMem_joinFirst (h : [] ∉ words) : [] ∉ joinFirst c words := by
  cases words with
  | nil => exact nil_notMem_cons List.not_mem_nil
  | cons word words => exact nil_notMem_cons (List.not_mem_of_not_mem_cons h)

/-- A character in front of the first word is not cut off from it. -/
theorem not_isCut_joinFirst (hwords : [] ∉ words) (hne : words ≠ []) :
    ¬ IsCut (joinFirst c words) [c] y := by
  obtain ⟨word, words, rfl⟩ := List.exists_cons_of_ne_nil hne
  intro h
  have hprefix : word <+: [] :=
    (List.cons_prefix_cons.1 (h.isPrefix (List.cons_ne_nil c []))).2
  exact hwords (List.prefix_nil.1 hprefix ▸ List.mem_cons_self)

theorem isCut_joinFirst (hx : x ≠ []) :
    IsCut (joinFirst c words) (c :: x) y ↔ IsCut words x y := by
  cases words with
  | nil => exact isCut_cons_append (List.cons_ne_nil c [])
  | cons word words =>
    rw [joinFirst, isCut_cons_iff (List.cons_ne_nil c x), isCut_cons_iff hx]
    simp only [List.cons_append, List.cons.injEq, true_and]

/-- **Nothing is lost and nothing repeated** where a stretch is cut. -/
theorem flatten_cutWords (s : List Char) : (cutWords s).flatten = s := by
  fun_induction cutWords s with
  | case1 => rfl
  | case2 c => rfl
  | case3 before after rest _ ih => rw [List.flatten_cons, ih, List.singleton_append]
  | case4 before after rest _ ih => rw [flatten_joinFirst, ih]

theorem nil_notMem_cutWords (s : List Char) : [] ∉ cutWords s := by
  fun_induction cutWords s with
  | case1 => exact List.not_mem_nil
  | case2 c => exact nil_notMem_cons List.not_mem_nil
  | case3 before after rest _ ih => exact nil_notMem_cons ih
  | case4 before after rest _ ih => exact nil_notMem_joinFirst ih

theorem cutWords_ne_nil (c : Char) (s : List Char) : cutWords (c :: s) ≠ [] := fun h =>
  List.cons_ne_nil c s (flatten_cutWords (c :: s) ▸ congrArg List.flatten h)

/-- The first character of a stretch decides nothing about the cuts behind the next. -/
theorem isCut_cutWords_cons (hx : x ≠ []) :
    IsCut (cutWords (c :: s)) (c :: x) y ↔ IsCut (cutWords s) x y := by
  cases s with
  | nil => exact isCut_cons_append (List.cons_ne_nil c [])
  | cons d s =>
    rw [cutWords]
    split
    · exact isCut_cons_append (List.cons_ne_nil c [])
    · exact isCut_joinFirst hx

/-- **A stretch is cut between two neighbours if and only if they are a boundary.** -/
theorem isCut_cutWords_iff (left : List Char) (a b : Char) (right : List Char) :
    IsCut (cutWords (left ++ a :: b :: right)) (left ++ [a]) (b :: right)
      ↔ isBoundary a b right.head? = true := by
  induction left with
  | nil =>
    rw [List.nil_append, List.nil_append, cutWords]
    split
    · next h => exact iff_of_true ⟨[[a]], _, rfl, rfl, flatten_cutWords _⟩ h
    · next h =>
      exact iff_of_false (not_isCut_joinFirst (nil_notMem_cutWords _) (cutWords_ne_nil b right)) h
  | cons c left ih =>
    have hne : left ++ [a] ≠ [] := List.append_ne_nil_of_right_ne_nil left (List.cons_ne_nil a [])
    exact (isCut_cutWords_cons hne).trans ih

end Stretch

/-! ## A name and its stretches -/

/-- A text without its separators. -/
def withoutSeparators (s : List Char) : List Char := s.filter (!isSeparator ·)

/-- A stretch of a text: it has no separator in it, and it cannot be made longer,
because a separator or an end of the text stands on either side. -/
structure IsStretch (s before stretch after : List Char) : Prop where
  eq_append : s = before ++ (stretch ++ after)
  no_separator : ∀ c ∈ stretch, isSeparator c = false
  separator_before : ∀ c ∈ before.getLast?, isSeparator c = true
  separator_after : ∀ c ∈ after.head?, isSeparator c = true

/-- The words of a text, described by what they make up and where they are cut. -/
structure IsSplitting (s : List Char) (words : List (List Char)) : Prop where
  /-- No word is empty. -/
  nil_notMem : [] ∉ words
  /-- No word has a separator in it. -/
  no_separator : ∀ word ∈ words, ∀ c ∈ word, isSeparator c = false
  /-- The words make up the text without its separators. -/
  flatten_eq : words.flatten = withoutSeparators s
  /-- A word begins wherever a stretch does. -/
  isCut_stretch : ∀ {before stretch after}, IsStretch s before stretch after →
    IsCut words (withoutSeparators before) (stretch ++ withoutSeparators after)
  /-- Inside a stretch, the boundaries are cut and nothing else. The character after
  the two is one of the same stretch, if they are not its last. -/
  isCut_iff : ∀ {before left a b right after},
    IsStretch s before (left ++ a :: b :: right) after →
    (IsCut words (withoutSeparators before ++ (left ++ [a])) (b :: right ++ withoutSeparators after)
      ↔ isBoundary a b right.head? = true)

section Splitting

variable {s before stretch after x y : List Char} {words : List (List Char)}

theorem withoutSeparators_append (x y : List Char) :
    withoutSeparators (x ++ y) = withoutSeparators x ++ withoutSeparators y :=
  List.filter_append x y

theorem withoutSeparators_eq_self (h : ∀ c ∈ s, isSeparator c = false) :
    withoutSeparators s = s :=
  List.filter_eq_self.2 fun c hc => by simpa using h c hc

theorem flatten_stretches (s : List Char) : (stretches s).flatten = withoutSeparators s := by
  induction s with
  | nil => rfl
  | cons c rest ih =>
    rw [stretches, withoutSeparators]
    split
    · next hc =>
      rw [List.filter_cons_of_neg (by simpa using hc)]
      exact ih
    · next hc =>
      rw [List.filter_cons_of_pos (by simpa using hc)]
      exact flatten_joinFirst.trans (congrArg (c :: ·) ih)

theorem flatten_flatMap_cutWords (stretches : List (List Char)) :
    (stretches.flatMap cutWords).flatten = stretches.flatten := by
  induction stretches with
  | nil => rfl
  | cons stretch stretches ih =>
    rw [List.flatMap_cons, List.flatten_append, flatten_cutWords, ih, List.flatten_cons]

theorem flatten_splitCharacters (s : List Char) :
    (splitCharacters s).flatten = withoutSeparators s := by
  rw [splitCharacters, flatten_flatMap_cutWords, flatten_stretches]

theorem nil_notMem_splitCharacters (s : List Char) : [] ∉ splitCharacters s := by
  intro h
  obtain ⟨stretch, -, hmem⟩ := List.mem_flatMap.1 h
  exact nil_notMem_cutWords stretch hmem

/-- A text without separators is a stretch by itself. -/
theorem splitCharacters_eq_cutWords (h : ∀ c ∈ s, isSeparator c = false) :
    splitCharacters s = cutWords s := by
  rw [splitCharacters, stretches_eq_splitOnP, List.splitOnP_eq_singleton h, List.flatMap_singleton]

/-- The words in front of a separator do not depend on what comes after it. -/
theorem splitCharacters_append_of_after (h : ∀ c ∈ after.head?, isSeparator c = true) :
    splitCharacters (s ++ after) = splitCharacters s ++ splitCharacters after := by
  cases after with
  | nil =>
    rw [List.append_nil]
    exact (List.append_nil _).symm
  | cons c rest =>
    have hc : isSeparator c = true := h c rfl
    have hrest : splitCharacters (c :: rest) = splitCharacters rest :=
      splitCharacters_append hc [] rest
    rw [splitCharacters_append hc, hrest]

/-- The words behind a separator do not depend on what comes before it. -/
theorem splitCharacters_append_of_before (h : ∀ c ∈ before.getLast?, isSeparator c = true) :
    splitCharacters (before ++ s) = splitCharacters before ++ splitCharacters s := by
  rcases List.eq_nil_or_concat' before with rfl | ⟨first, c, rfl⟩
  · rfl
  · have hc : isSeparator c = true := h c List.getLast?_concat
    have hfirst : splitCharacters (first ++ [c]) = splitCharacters first ++ [] :=
      splitCharacters_append hc first []
    rw [hfirst, List.append_nil, List.append_assoc, List.singleton_append,
      splitCharacters_append hc]

/-- **The words of a stretch stand among the words of the name**, between those of
what comes before it and those of what comes after it. -/
theorem IsStretch.splitCharacters_eq (h : IsStretch s before stretch after) :
    splitCharacters s = splitCharacters before ++ (cutWords stretch ++ splitCharacters after) := by
  rw [h.eq_append, splitCharacters_append_of_before h.separator_before,
    splitCharacters_append_of_after h.separator_after, splitCharacters_eq_cutWords h.no_separator]

/-- The words that are found are as described. -/
theorem isSplitting_splitCharacters (s : List Char) : IsSplitting s (splitCharacters s) where
  nil_notMem := nil_notMem_splitCharacters s
  no_separator word hword c hc := by
    have hmem : c ∈ withoutSeparators s :=
      flatten_splitCharacters s ▸ List.mem_flatten_of_mem hword hc
    simpa using (List.mem_filter.1 hmem).2
  flatten_eq := flatten_splitCharacters s
  isCut_stretch {before stretch after} h := by
    refine ⟨_, _, h.splitCharacters_eq, flatten_splitCharacters before, ?_⟩
    rw [List.flatten_append, flatten_cutWords, flatten_splitCharacters]
  isCut_iff {before left a b right after} h := by
    rw [h.splitCharacters_eq, ← flatten_splitCharacters before, ← flatten_splitCharacters after,
      isCut_append_left (List.append_ne_nil_of_right_ne_nil left (List.cons_ne_nil a [])),
      isCut_append_right (List.cons_ne_nil b right), isCut_cutWords_iff]

/-- **Every character that is no separator stands in a stretch.** -/
theorem exists_isStretch {b : Char} (hb : isSeparator b = false) (x y : List Char) :
    ∃ before left right after, IsStretch (x ++ b :: y) before (left ++ b :: right) after
      ∧ x = before ++ left ∧ y = right ++ after := by
  -- The stretch reaches to the nearest separator on either side.
  refine ⟨x.rdropWhile (!isSeparator ·), x.rtakeWhile (!isSeparator ·),
    y.takeWhile (!isSeparator ·), y.dropWhile (!isSeparator ·), ⟨?_, ?_, ?_, ?_⟩,
    List.rdropWhile_append_rtakeWhile.symm, List.takeWhile_append_dropWhile.symm⟩
  · simp only [List.append_assoc, List.cons_append, List.takeWhile_append_dropWhile]
    rw [← List.append_assoc, List.rdropWhile_append_rtakeWhile]
  · intro c hc
    rcases List.mem_append.1 hc with hleft | hright
    · simpa using List.mem_rtakeWhile_imp hleft
    · rcases List.mem_cons.1 hright with rfl | hright
      · exact hb
      · simpa using List.mem_takeWhile_imp hright
  · intro c hc
    rw [List.rdropWhile, List.getLast?_reverse, ← List.find?_eq_head?_dropWhile_not] at hc
    exact List.find?_some hc
  · intro c hc
    rw [← List.find?_eq_head?_dropWhile_not] at hc
    exact List.find?_some hc

/-- A place in front of a character that is no separator is the start of a stretch or
lies inside one. -/
theorem exists_isStretch_of_append (hne : y ≠ []) (h : withoutSeparators s = x ++ y) :
    (∃ before stretch after, IsStretch s before stretch after
        ∧ x = withoutSeparators before ∧ y = stretch ++ withoutSeparators after)
      ∨ ∃ before left a b right after, IsStretch s before (left ++ a :: b :: right) after
        ∧ x = withoutSeparators before ++ (left ++ [a])
        ∧ y = b :: right ++ withoutSeparators after := by
  obtain ⟨front, back, rfl, rfl, hback⟩ := List.filter_eq_append_iff.1 h
  obtain ⟨b, y, rfl⟩ := List.exists_cons_of_ne_nil hne
  obtain ⟨gap, back, rfl, hgap, hb, rfl⟩ := List.filter_eq_cons_iff.1 hback
  obtain ⟨before, left, right, after, hstretch, hfront, rfl⟩ :=
    exists_isStretch (by simpa using hb) (front ++ gap) back
  rw [List.append_assoc] at hstretch
  have hnone : withoutSeparators gap = [] := List.filter_eq_nil_iff.2 hgap
  have hleft : withoutSeparators left = left :=
    withoutSeparators_eq_self fun c hc => hstretch.no_separator c (List.mem_append_left _ hc)
  have hright : withoutSeparators right = right :=
    withoutSeparators_eq_self fun c hc =>
      hstretch.no_separator c (List.mem_append_right _ (List.mem_cons_of_mem b hc))
  have hx : withoutSeparators front = withoutSeparators before ++ left := calc
    withoutSeparators front = withoutSeparators (front ++ gap) := by
      rw [withoutSeparators_append, hnone, List.append_nil]
    _ = withoutSeparators before ++ left := by rw [hfront, withoutSeparators_append, hleft]
  have hy : withoutSeparators (right ++ after) = right ++ withoutSeparators after := by
    rw [withoutSeparators_append, hright]
  rcases List.eq_nil_or_concat' left with rfl | ⟨left, a, rfl⟩
  · refine .inl ⟨before, b :: right, after, hstretch, ?_, ?_⟩
    · exact hx.trans (List.append_nil _)
    · exact congrArg (b :: ·) hy
  · refine .inr ⟨before, left, a, b, right, after, ?_, hx, congrArg (b :: ·) hy⟩
    rwa [List.append_assoc, List.singleton_append] at hstretch

/-- **A text has no two splittings.** -/
theorem IsSplitting.unique {others : List (List Char)} (hwords : IsSplitting s words)
    (hothers : IsSplitting s others) : words = others := by
  refine eq_of_isCut_iff hwords.nil_notMem hothers.nil_notMem fun x y => ?_
  by_cases h : withoutSeparators s = x ++ y
  · by_cases hy : y = []
    · subst hy
      obtain rfl : x = withoutSeparators s := (h.trans (List.append_nil x)).symm
      exact iff_of_true (hwords.flatten_eq ▸ isCut_end words)
        (hothers.flatten_eq ▸ isCut_end others)
    · rcases exists_isStretch_of_append hy h with
        ⟨before, stretch, after, hstretch, rfl, rfl⟩
        | ⟨before, left, a, b, right, after, hstretch, rfl, rfl⟩
      · exact iff_of_true (hwords.isCut_stretch hstretch) (hothers.isCut_stretch hstretch)
      · exact (hwords.isCut_iff hstretch).trans (hothers.isCut_iff hstretch).symm
  · exact iff_of_false (fun hcut => h (hwords.flatten_eq ▸ hcut.flatten_eq))
      fun hcut => h (hothers.flatten_eq ▸ hcut.flatten_eq)

end Splitting

theorem map_toList_splitWords (s : String) :
    (splitWords s).map String.toList = splitCharacters s.toList := by
  rw [splitWords, List.map_map]
  exact List.map_id'' (fun _ => String.toList_ofList) _

/-- **A list of words is that of a name if and only if it is as described**: no word is
empty or has a separator in it, the words make up the name without its separators, each
stretch of the name begins a word, and between two neighbours of a stretch there is a cut
if and only if they are a boundary, read with the next character of the stretch if there
is one. -/
theorem eq_splitWords_iff (s : String) (words : List String) :
    words = splitWords s ↔ IsSplitting s.toList (words.map String.toList) := by
  constructor
  · rintro rfl
    exact map_toList_splitWords s ▸ isSplitting_splitCharacters s.toList
  · intro h
    have hwords := h.unique (isSplitting_splitCharacters s.toList)
    rw [splitWords, ← hwords, List.map_map]
    exact (List.map_id'' (fun _ => String.ofList_toList) _).symm

example : splitWords "HTMLNode field-2b" = ["HTML", "Node", "field", "2", "b"] := by decide

end ContentGraph.Text
