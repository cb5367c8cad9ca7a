import ContentGraph.Text.Case

/-!
# No small letter is left in upper case

The case mappings are tables, so what they do to a character is looked up and
not computed. That a table leads to none of some codes is seen from its entries
alone: an expansion lists the codes it comes to, and a shift moves a span of
codes to a span (`Text.shifted_avoids`). Of the table of capitals it follows that
nothing is one of the letters from `a` to `z` in upper case, so a capitalized
text never begins with one (`Text.not_isSmallLetter_of_capitalize`).
-/

namespace ContentGraph.Text

/-- The codes of the letters from `a` to `z`. -/
def IsSmallLetter (code : Nat) : Prop := 97 ≤ code ∧ code ≤ 122

instance (code : Nat) : Decidable (IsSmallLetter code) := inferInstanceAs (Decidable (_ ∧ _))

/-- A code is moved by a shift whose span it lies in. -/
theorem exists_of_shiftOf?_eq_some {shifts : List Shift} {c : Nat} {distance : Int}
    (h : shiftOf? shifts c = some distance) :
    ∃ first last step, (first, last, step, distance) ∈ shifts ∧ first ≤ c ∧ c ≤ last := by
  induction shifts with
  | nil => cases h
  | cons shift rest ih =>
    obtain ⟨first, last, step, d⟩ := shift
    rw [shiftOf?] at h
    split at h
    · cases h
    · next hfirst =>
      split at h
      · next hlast =>
        split at h
        · cases h
          exact ⟨first, last, step, List.mem_cons_self, Nat.not_lt.1 hfirst, hlast⟩
        · cases h
      · obtain ⟨first, last, step, hmem, hbounds⟩ := ih h
        exact ⟨first, last, step, List.mem_cons_of_mem _ hmem, hbounds⟩

/-- Whether a shift leads past the letters from `a` to `z`. -/
def avoidsSmallLetters (shift : Shift) : Bool :=
  decide ((shift.2.1 : Int) + shift.2.2.2 < 97) || decide (122 < (shift.1 : Int) + shift.2.2.2)

/-- **A shifted code is no small letter**, if none of the shifts leads to one
and the small letters themselves are shifted. -/
theorem not_isSmallLetter_shifted {shifts : List Shift}
    (hall : shifts.all avoidsSmallLetters = true)
    (hsmall : ∀ code, IsSmallLetter code → (shiftOf? shifts code).isSome = true) (c : Nat) :
    ¬ IsSmallLetter (shifted shifts c) := by
  unfold shifted
  cases hshift : shiftOf? shifts c with
  | none =>
    intro h
    have hsome := hsmall c h
    rw [hshift] at hsome
    cases hsome
  | some distance =>
    obtain ⟨first, last, step, hmem, hfirst, hlast⟩ := exists_of_shiftOf?_eq_some hshift
    have havoids := List.all_eq_true.1 hall _ hmem
    simp only [avoidsSmallLetters, Bool.or_eq_true, decide_eq_true_iff] at havoids
    simp only [IsSmallLetter]
    omega

/-! ## Upper case -/

theorem upperShifts_avoid : upperShifts.all avoidsSmallLetters = true := by decide +kernel

theorem isSome_shiftOf?_upperShifts {code : Nat} (h : IsSmallLetter code) :
    (shiftOf? upperShifts code).isSome = true := by
  have hall : ∀ k < 26, (shiftOf? upperShifts (97 + k)).isSome = true := by decide
  obtain ⟨hlow, hhigh⟩ := h
  have hcode : 97 + (code - 97) = code := by omega
  exact hcode ▸ hall (code - 97) (by omega)

/-- An expansion comes to something, and to no small letter. -/
theorem upperExpansions_avoid : ∀ entry ∈ upperExpansions,
    entry.2 ≠ [] ∧ ∀ code ∈ entry.2, ¬ IsSmallLetter code := by
  decide +kernel

/-- A character has the code that it is made of, or the code zero. -/
theorem not_isSmallLetter_ofNat {code : Nat} (h : ¬ IsSmallLetter code) :
    ¬ IsSmallLetter (Char.ofNat code).toNat := by
  by_cases hvalid : code.isValidChar
  · rw [Char.ofNat, dif_pos hvalid]
    exact h
  · rw [Char.ofNat, dif_neg hvalid]
    decide

/-- **No character is a small letter in upper case**, and none is lost. -/
theorem upperCharacter_avoids (c : Char) :
    upperCharacter c ≠ [] ∧ ∀ d ∈ upperCharacter c, ¬ IsSmallLetter d.toNat := by
  unfold upperCharacter mappedCharacters
  cases hlookup : upperExpansions.lookup c.toNat with
  | some codes =>
    obtain ⟨before, after, heq, -⟩ := List.lookup_eq_some_iff.1 hlookup
    obtain ⟨hne, hcodes⟩ :=
      upperExpansions_avoid (c.toNat, codes) (heq ▸ List.mem_append_right _ List.mem_cons_self)
    refine ⟨mt List.map_eq_nil_iff.1 hne, fun d hd => ?_⟩
    obtain ⟨code, hcode, rfl⟩ := List.mem_map.1 hd
    exact not_isSmallLetter_ofNat (hcodes code hcode)
  | none =>
    refine ⟨List.cons_ne_nil _ _, fun d hd => ?_⟩
    obtain rfl := List.mem_singleton.1 hd
    exact not_isSmallLetter_ofNat (not_isSmallLetter_shifted upperShifts_avoid
      (fun _ => isSome_shiftOf?_upperShifts) _)

/-- **A capitalized text does not begin with a small letter.** -/
theorem not_isSmallLetter_of_capitalize {s : String} {c : Char} {rest : List Char}
    (h : (capitalize s).toList = c :: rest) : ¬ IsSmallLetter c.toNat := by
  rw [capitalize, String.toList_ofList] at h
  cases hs : s.toList with
  | nil =>
    rw [hs] at h
    cases h
  | cons d others =>
    rw [hs, capitalizeCharacters] at h
    obtain ⟨hne, havoids⟩ := upperCharacter_avoids d
    obtain ⟨e, more, hupper⟩ := List.exists_cons_of_ne_nil hne
    rw [hupper, List.cons_append] at h
    cases h
    exact havoids c (hupper ▸ List.mem_cons_self)

end ContentGraph.Text
