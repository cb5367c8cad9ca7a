import ContentGraph.Text.Word

/-!
# Words on both sides of a separator

A name is first cut at its separators and then, stretch by stretch, at the
boundaries of words. No boundary is looked for across a separator, so a text with
a separator in it has the words of its two sides (`Text.splitWords_append`), however
the sides begin and end.
-/

namespace ContentGraph.Text

/-- A separator is the low line or a character of no word. -/
theorem isSeparator_iff {c : Char} :
    isSeparator c = true ↔ c = '_' ∨ isWordCharacter c = false := by
  have hlow : isAlphanumeric '_' = false := by decide
  unfold isSeparator isWordCharacter
  rw [Bool.not_eq_true', Bool.or_eq_false_iff, beq_eq_false_iff_ne]
  by_cases hc : c = '_'
  · simp [hc, hlow]
  · simp [hc]

/-- The stretches between separators are those of a list that is split at them. -/
theorem stretches_eq_splitOnP (s : List Char) : stretches s = s.splitOnP isSeparator := by
  induction s with
  | nil => rfl
  | cons c rest ih =>
    rw [stretches, List.splitOnP_cons_eq_if_modifyHead, ih]
    split
    · rfl
    · obtain ⟨first, more, hsplit⟩ :=
        List.exists_cons_of_ne_nil (List.splitOnP_ne_nil isSeparator rest)
      rw [hsplit]
      rfl

theorem splitCharacters_append {c : Char} (hc : isSeparator c = true) (a b : List Char) :
    splitCharacters (a ++ c :: b) = splitCharacters a ++ splitCharacters b := by
  unfold splitCharacters
  simp only [stretches_eq_splitOnP]
  rw [List.splitOnP_append_cons a b hc, List.flatMap_append]

theorem splitWords_eq_nil_iff {s : String} : splitWords s = [] ↔ splitCharacters s.toList = [] :=
  List.map_eq_nil_iff

/-- **A text with a separator in it has the words of its two sides.** -/
theorem splitWords_append {c : Char} (hc : isSeparator c = true) (a b : String) :
    splitWords (a ++ String.singleton c ++ b) = splitWords a ++ splitWords b := by
  unfold splitWords
  rw [String.toList_append, String.toList_append, String.toList_singleton, List.append_assoc,
    List.singleton_append, splitCharacters_append hc, List.map_append]

/-- One more word is capitalized, unless it is the only one. -/
theorem joinCamel_concat (words : List (List Char)) (word : List Char) :
    joinCamel (words ++ [word])
      = if words = [] then lower word else joinCamel words ++ capitalizeCharacters word := by
  cases words with
  | nil =>
    show lower word ++ [] = lower word
    exact List.append_nil _
  | cons first rest =>
    rw [if_neg (List.cons_ne_nil first rest)]
    simp [joinCamel]

end ContentGraph.Text
