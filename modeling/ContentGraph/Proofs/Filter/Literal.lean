import ContentGraph.Proofs.Filter.Select
import Mathlib.Data.List.TakeDrop
import Mathlib.Data.List.TakeWhile

/-!
# Literals among patterns

A pattern is written bare or as a literal, `/body/flags`, in which every letter
behind the last slash names a flag. There is at most one way to take a pattern for
a literal, since no flag is a slash, so what a pattern is meant to be is settled by
the text alone (`Filter.IsMeant`).

The reader looks for the slashes and not for the flags: it takes apart whatever
begins with a slash and has another one, and skips letters that name no flag. It
therefore reads a pattern as it is meant exactly if no such letter stands behind the
last slash (`Filter.regexOf_reads`). Absolute paths are the patterns that it
misreads: of `/site/posts` it keeps `site`, which is found in every path of the site.
-/

namespace ContentGraph.Filter

/-- The letters that name a flag. -/
def isFlagLetter (c : Char) : Bool := c = 'i' || c = 'm' || c = 's'

/-- **A pattern between slashes**: a body with a slash before and after it, the
latter being the last slash of the pattern, and letters. -/
structure Slashed (pattern body letters : List Char) : Prop where
  /-- The order of the parts. -/
  eq : pattern = '/' :: (body ++ '/' :: letters)
  /-- The slash after the body is the last one. -/
  not_mem : '/' ∉ letters

/-- **A literal**: a body between slashes, and behind them letters of which each
names a flag. -/
structure IsLiteral (pattern body letters : List Char) : Prop where
  /-- The order of the parts. -/
  eq : pattern = '/' :: (body ++ '/' :: letters)
  /-- Every letter names a flag. -/
  flags : ∀ c ∈ letters, isFlagLetter c = true

/-- **What a pattern is meant to be**, as a body and letters: the parts of a literal,
and for every pattern that is no literal the pattern itself without letters. -/
inductive IsMeant (pattern : List Char) : List Char × List Char → Prop
  | literal {body letters : List Char} (h : IsLiteral pattern body letters) :
    IsMeant pattern (body, letters)
  | bare (h : ∀ body letters, ¬ IsLiteral pattern body letters) : IsMeant pattern (pattern, [])

/-- What becomes of a pattern that is read as a body and letters. -/
def compiled (pattern : String) (parts : List Char × List Char) :
    Except FilterError (Regex × RegexFlags) :=
  match Regex.ofCharacters parts.1 (flagsOf parts.2) with
  | .ok r => .ok r
  | .error .malformed => .error (.badPattern pattern)
  | .error .tooManyRepetitions => .error .tooManyRepetitions
  | .error .incompatibleFlags => .error .incompatibleFlags

theorem regexOf_eq_compiled (pattern : String) :
    regexOf pattern = compiled pattern (splitPattern pattern.toList) :=
  rfl

/-! ## Taking a pattern apart -/

section Slashed

variable {pattern body letters : List Char}

/-- No flag is a slash, so the slash before the flags is the last one. -/
theorem IsLiteral.slashed (h : IsLiteral pattern body letters) : Slashed pattern body letters :=
  ⟨h.eq, fun hmem => absurd (h.flags '/' hmem) (by decide)⟩

theorem Slashed.isLiteral (h : Slashed pattern body letters)
    (hflags : ∀ c ∈ letters, isFlagLetter c = true) : IsLiteral pattern body letters :=
  ⟨h.eq, hflags⟩

theorem all_ne_slash (h : '/' ∉ letters) : ∀ c ∈ letters, decide (c ≠ '/') = true := by
  intro c hc
  refine decide_eq_true fun heq => h ?_
  rwa [← heq]

/-- The parts of a pattern between slashes. -/
theorem splitPattern_of_slashed (h : Slashed pattern body letters) :
    splitPattern pattern = (body, letters) := by
  obtain ⟨rfl, hletters⟩ := h
  have hpass := all_ne_slash (mt List.mem_reverse.1 hletters)
  -- From the end, the letters go up to the slash, and the body is behind it.
  have hspan : (body ++ '/' :: letters).reverse.span (fun c => decide (c ≠ '/'))
      = (letters.reverse, '/' :: body.reverse) := by
    rw [List.span_eq_takeWhile_dropWhile, List.reverse_append, List.reverse_cons,
      List.append_assoc, List.takeWhile_append_of_pos hpass, List.dropWhile_append_of_pos hpass]
    simp
  simp only [splitPattern, hspan, List.reverse_reverse]

example : splitPattern "/^a/b/i".toList = ("^a/b".toList, "i".toList) := by decide

/-- So the body and the letters are determined by the pattern. -/
theorem Slashed.eq_of_slashed {body' letters' : List Char} (h : Slashed pattern body letters)
    (h' : Slashed pattern body' letters') : (body, letters) = (body', letters') :=
  (splitPattern_of_slashed h).symm.trans (splitPattern_of_slashed h')

/-- So what a pattern is meant to be leaves no choice either. -/
theorem IsMeant.unique {parts parts' : List Char × List Char} (h : IsMeant pattern parts)
    (h' : IsMeant pattern parts') : parts = parts' := by
  cases h with
  | literal h =>
    cases h' with
    | literal h' => exact h.slashed.eq_of_slashed h'.slashed
    | bare h' => exact absurd h (h' _ _)
  | bare h =>
    cases h' with
    | literal h' => exact absurd h' (h _ _)
    | bare h' => rfl

/-- **Every pattern is meant to be one thing.** -/
theorem existsUnique_isMeant (pattern : List Char) : ∃! parts, IsMeant pattern parts := by
  by_cases h : ∃ body letters, IsLiteral pattern body letters
  · obtain ⟨body, letters, h⟩ := h
    exact ⟨_, .literal h, fun _ h' => h'.unique (.literal h)⟩
  · have hbare : IsMeant pattern (pattern, []) := .bare fun body letters hl => h ⟨body, letters, hl⟩
    exact ⟨_, hbare, fun _ h' => h'.unique hbare⟩

/-- A text with a slash in it has a last one. -/
theorem slashed_of_mem {rest : List Char} (h : '/' ∈ rest) :
    ∃ body letters, Slashed ('/' :: rest) body letters := by
  obtain ⟨after, before, heq, hafter⟩ := List.eq_append_cons_of_mem (List.mem_reverse.2 h)
  refine ⟨before.reverse, after.reverse, ?_, mt List.mem_reverse.1 hafter⟩
  rw [← List.reverse_reverse rest, heq]
  simp

/-- Every other pattern stays whole. -/
theorem splitPattern_of_not_slashed (h : ∀ body letters, ¬ Slashed pattern body letters) :
    splitPattern pattern = (pattern, []) := by
  unfold splitPattern
  split
  next rest =>
    have hrest : '/' ∉ rest := fun hmem =>
      let ⟨body, letters, hs⟩ := slashed_of_mem hmem
      h body letters hs
    have hpass := all_ne_slash (mt List.mem_reverse.1 hrest)
    rw [List.span_eq_takeWhile_dropWhile, List.dropWhile_eq_nil_iff.2 hpass]
  next => rfl

end Slashed

/-! ## What is read -/

/-- Letters that name no flag make no difference to the flags. -/
theorem flagsOf_filter_isFlagLetter (letters : List Char) :
    flagsOf (letters.filter isFlagLetter) = flagsOf letters := by
  have hkeep : ∀ c, isFlagLetter c = true →
      (letters.filter isFlagLetter).contains c = letters.contains c := by
    intro c hc
    rw [Bool.eq_iff_iff, List.contains_iff_mem, List.contains_iff_mem, List.mem_filter]
    exact and_iff_left hc
  show RegexFlags.mk .. = RegexFlags.mk ..
  rw [hkeep 'i' (by decide), hkeep 'm' (by decide), hkeep 's' (by decide)]

/-- **When a pattern is read as it is meant**: if it is not between slashes at all, or
all letters behind the last slash name flags. -/
theorem isMeant_splitPattern_iff (pattern : List Char) :
    IsMeant pattern (splitPattern pattern)
      ↔ ∀ body letters, Slashed pattern body letters →
        ∀ c ∈ letters, isFlagLetter c = true := by
  constructor
  · intro h body letters hs
    rw [splitPattern_of_slashed hs] at h
    cases h with
    | literal h => exact h.flags
    | bare h => exact List.forall_mem_nil _
  · intro hall
    by_cases hs : ∃ body letters, Slashed pattern body letters
    · obtain ⟨body, letters, hs⟩ := hs
      rw [splitPattern_of_slashed hs]
      exact .literal (hs.isLiteral (hall body letters hs))
    · have hnone : ∀ body letters, ¬ Slashed pattern body letters :=
        fun body letters h => hs ⟨body, letters, h⟩
      rw [splitPattern_of_not_slashed hnone]
      exact .bare fun body letters h => hnone body letters h.slashed

/-- **How a pattern is read.** It is compiled from the body and the letters that it is
taken apart into. There is one thing that it is meant to be, and it is taken apart into
this exactly if no letter behind the last slash fails to name a flag. A pattern between
slashes is always taken apart there, whatever its letters are; those that name no flag
are without effect. A pattern that is not between slashes is compiled as it stands,
without flags. -/
theorem regexOf_reads (pattern : String) :
    regexOf pattern = compiled pattern (splitPattern pattern.toList)
      ∧ (∃! parts, IsMeant pattern.toList parts)
      ∧ (IsMeant pattern.toList (splitPattern pattern.toList)
        ↔ ∀ body letters, Slashed pattern.toList body letters →
          ∀ c ∈ letters, isFlagLetter c = true)
      ∧ (∀ body letters, Slashed pattern.toList body letters →
        regexOf pattern = compiled pattern (body, letters.filter isFlagLetter))
      ∧ ((∀ body letters, ¬ Slashed pattern.toList body letters) →
        regexOf pattern = compiled pattern (pattern.toList, [])) := by
  refine ⟨regexOf_eq_compiled pattern, existsUnique_isMeant pattern.toList,
    isMeant_splitPattern_iff pattern.toList, ?_, ?_⟩
  · intro body letters h
    rw [regexOf_eq_compiled, splitPattern_of_slashed h]
    unfold compiled
    rw [flagsOf_filter_isFlagLetter]
  · intro h
    rw [regexOf_eq_compiled, splitPattern_of_not_slashed h]

/-- A picture of the site. -/
def siteLogo : Node := .ofFields "/site/images/logo.png" "File" []

/-- **A path as a pattern** is misread: `/site/posts` is taken for `site` with letters
that name no flag but the `s` at the end, and selects a picture in whose path it is
not found. -/
theorem sitePath_misread :
    (¬ IsMeant "/site/posts".toList (splitPattern "/site/posts".toList))
      ∧ regexOf "/site/posts" = compiled "/site/posts" ("site".toList, "ss".toList)
      ∧ select id (.map [(.string "id", .map [(.string "regex", .string "/site/posts")])])
        [siteLogo] = .ok [siteLogo]
      ∧ (compiled "/site/posts" ("/site/posts".toList, [])).map
        (fun (r, flags) => r.matchesIn flags siteLogo.id) = .ok false := by
  have hslashed : Slashed "/site/posts".toList "site".toList "posts".toList :=
    ⟨rfl, by decide⟩
  obtain ⟨-, -, hmeant, hread, -⟩ := regexOf_reads "/site/posts"
  have hflags : "posts".toList.filter isFlagLetter = "ss".toList := by decide
  refine ⟨fun h => ?_, hflags ▸ hread _ _ hslashed, by decide +kernel, by decide +kernel⟩
  exact absurd (hmeant.1 h _ _ hslashed 'p' (by decide)) (by decide)

end ContentGraph.Filter
