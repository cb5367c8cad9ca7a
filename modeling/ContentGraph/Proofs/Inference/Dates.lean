import ContentGraph.Inference.Column
import ContentGraph.Proofs.Calendar.Iso

/-!
# Which columns are columns of dates

A column of texts is one of dates if every text in it is read as a date. Such a
text is in the notation of dates from its first character to its last, with one
exception: after a time, a line end is passed over. So the texts of a column of
dates are in the notation as they stand if and only if none of them ends a line
(`Column.isDates_iff_lines`).
-/

namespace ContentGraph.Column

open Iso

variable {values : List Value}

theorem isDateString_iff {v : Value} :
    isDateString v = true ↔ ∃ s, v = .string s ∧ isDateText s = true := by
  cases v <;> simp [isDateString]

theorem isDates_iff :
    isDates values = true
      ↔ values ≠ [] ∧ ∀ v ∈ values, ∃ s, v = .string s ∧ isDateText s = true := by
  rw [isDates, Bool.and_eq_true, Bool.not_eq_true', List.isEmpty_eq_false_iff, List.all_eq_true]
  simp only [isDateString_iff]

/-- **Texts are classified as dates if and only if all of them are read as dates.** -/
theorem scalarClass_eq_date_iff (h : values.all Value.isString = true) :
    scalarClass values = .date ↔ isDates values = true := by
  unfold scalarClass
  by_cases hempty : values.isEmpty = true
  · rw [if_pos hempty, isDates, hempty]
    exact ⟨nofun, nofun⟩
  · rw [if_neg hempty, if_pos h]
    by_cases hdates : isDates values = true
    · rw [if_pos hdates]
      exact iff_of_true rfl hdates
    · rw [if_neg hdates]
      exact iff_of_false nofun hdates

/-- A text that is read as a date is in the notation as it stands, unless it ends a line. -/
theorem mem_text_iff_of_isDateText {s : String} (h : isDateText s = true) :
    s.toList ∈ text.matches' ↔ s.toList.getLast? ≠ some '\n' := by
  refine ⟨fun htext hlast => lineEnd_notMem htext (List.mem_of_getLast? hlast), fun hlast => ?_⟩
  obtain ⟨t, -, htext, rfl | ⟨-, rfl⟩⟩ := isDateText_iff.1 h
  · exact htext
  · rw [String.toList_append] at hlast
    exact absurd List.getLast?_concat hlast

/-- **A column of dates**: there is a value in it, and every value is a text in the notation
of dates that exists, or such a text with a time, and a line end after it. All of them are in
the notation as they stand, with nothing before and nothing after, if and only if none ends a
line. Among the columns of texts these are the ones that are classified as dates.

That a text exists does not say that its year is in the range of nanoseconds
(`DateText.exists?`): where a fraction in the column has seven or more digits, only the half
from left to right holds of a reader that counts them. -/
theorem isDates_iff_lines (values : List Value) :
    (isDates values = true ↔ values ≠ [] ∧ ∀ v ∈ values, ∃ t : String, isDateText t = true
        ∧ t.toList ∈ text.matches'
        ∧ (v = .string t ∨ t.toList ∈ moment.matches' ∧ v = .string (t ++ "\n")))
      ∧ (isDates values = true →
        ((∀ v ∈ values, ∃ t : String, v = .string t ∧ t.toList ∈ text.matches')
          ↔ ∀ t : String, .string t ∈ values → t.toList.getLast? ≠ some '\n'))
      ∧ (values.all Value.isString = true →
        (scalarClass values = .date ↔ isDates values = true)) := by
  refine ⟨?_, fun hdates => ?_, scalarClass_eq_date_iff⟩
  · rw [isDates_iff]
    refine and_congr_right fun _ => forall₂_congr fun v _ => ?_
    constructor
    · rintro ⟨s, rfl, hs⟩
      simpa only [Value.string.injEq] using isDateText_iff.1 hs
    · rintro ⟨t, ht, htext, rfl | ⟨hmoment, rfl⟩⟩
      · exact ⟨t, rfl, ht⟩
      · exact ⟨t ++ "\n", rfl, isDateText_iff.2 ⟨t, ht, htext, Or.inr ⟨hmoment, rfl⟩⟩⟩
  · have hread := (isDates_iff.1 hdates).2
    constructor
    · intro hwhole t ht
      obtain ⟨s, heq, hs⟩ := hread _ ht
      obtain ⟨u, hu, htext⟩ := hwhole _ ht
      obtain rfl := Value.string.inj heq
      obtain rfl := Value.string.inj hu
      exact (mem_text_iff_of_isDateText hs).1 htext
    · intro hends v hv
      obtain ⟨s, rfl, hs⟩ := hread v hv
      exact ⟨s, rfl, (mem_text_iff_of_isDateText hs).2 (hends s hv)⟩

/-- A line with a time in it makes a column of dates, although it is in the notation only
without its end; the same line with a date alone does not. -/
theorem isDates_lineWithTime :
    isDates [.string "2020-01-01T10:00\n"] = true
      ∧ scalarClass [.string "2020-01-01T10:00\n"] = .date
      ∧ ¬ (∀ v ∈ [Value.string "2020-01-01T10:00\n"],
          ∃ t : String, v = .string t ∧ t.toList ∈ text.matches')
      ∧ isDates [.string "2020-01-01\n"] = false := by
  obtain ⟨hiff, hwhole, hclass⟩ := isDates_iff_lines [.string "2020-01-01T10:00\n"]
  have hdates := hiff.2 ⟨List.cons_ne_nil _ _, fun v hv => ⟨"2020-01-01T10:00", by decide +kernel,
    by decide +kernel, Or.inr ⟨by decide +kernel, List.mem_singleton.1 hv⟩⟩⟩
  refine ⟨hdates, (hclass rfl).2 hdates, fun h => ?_, by decide +kernel⟩
  exact (hwhole hdates).1 h _ List.mem_cons_self (by decide)

end ContentGraph.Column
