import ContentGraph.Calendar.Iso
import Mathlib.Computability.RegularExpressions
import Mathlib.Tactic.IntervalCases

/-!
# The notation of dates as a regular expression

`isDateText` reads a text part by part. What it reads is a regular language,
that of `Iso.text`:

`\d{4}-\d{2}-\d{2}([T ]\d{2}:\d{2}(:\d{2}(\.\d+)?)?(Z|[+-]\d{2}:?\d{2})?)?`

Each reader takes a word of a regular expression off the front of a text
(`Iso.Takes`), and expressions are put together as the readers are. The
converse does not hold, for the date and the time must also exist.

One thing is read beside these words: a line end after a time. No word of the
notation has one in it (`Iso.lineEnd_notMem`), so it is told exactly which texts
are read although they are not in the notation as they stand (`isDateText_iff`).
-/

namespace ContentGraph

namespace Iso

open RegularExpression

/-! ## The expressions -/

/-- One of some characters. -/
def oneOf (cs : List Char) : RegularExpression Char := cs.foldr (fun c p => char c + p) 0

/-- A digit. -/
def digit : RegularExpression Char :=
  oneOf ['0', '1', '2', '3', '4', '5', '6', '7', '8', '9']

/-- A word of an expression, or nothing. -/
def optional (p : RegularExpression Char) : RegularExpression Char := p + 1

/-- A date. -/
def date : RegularExpression Char := digit ^ 4 * char '-' * digit ^ 2 * char '-' * digit ^ 2

/-- Hours and minutes. -/
def clock : RegularExpression Char := digit ^ 2 * char ':' * digit ^ 2

/-- A fraction of a second. -/
def fraction : RegularExpression Char := char '.' * (digit * star digit)

/-- Seconds, with a fraction or without. -/
def seconds : RegularExpression Char := char ':' * digit ^ 2 * optional fraction

/-- A zone. -/
def zone : RegularExpression Char :=
  char 'Z' + oneOf ['+', '-'] * digit ^ 2 * optional (char ':') * digit ^ 2

/-- A time after a date. -/
def time : RegularExpression Char :=
  oneOf ['T', ' '] * clock * optional seconds * optional zone

/-- A date with a time. -/
def moment : RegularExpression Char := date * time

/-- A date, with a time or without. -/
def text : RegularExpression Char := date * optional time

/-- A date, with a time or without, and perhaps a line end after the time. -/
def line : RegularExpression Char := text + moment * char '\n'

/-! ## Taking words off a text -/

/-- **A word of an expression is taken off a text**, and the rest is left. -/
def Takes (p : RegularExpression Char) (s rest : List Char) : Prop :=
  ∃ word ∈ p.matches', s = word ++ rest

variable {p q : RegularExpression Char} {s rest : List Char} {c : Char}

theorem takes_nil_iff : Takes p s [] ↔ s ∈ p.matches' := by
  unfold Takes
  simp only [List.append_nil, exists_eq_right']

theorem Takes.mul {middle : List Char} (hp : Takes p s middle) (hq : Takes q middle rest) :
    Takes (p * q) s rest := by
  obtain ⟨first, hfirst, rfl⟩ := hp
  obtain ⟨second, hsecond, rfl⟩ := hq
  exact ⟨first ++ second, Language.append_mem_mul hfirst hsecond, (List.append_assoc ..).symm⟩

theorem Takes.optional (hp : Takes p s rest) : Takes (optional p) s rest := by
  obtain ⟨word, hword, rfl⟩ := hp
  exact ⟨word, Or.inl hword, rfl⟩

theorem takes_optional_self : Takes (optional p) s s := ⟨[], Or.inr rfl, rfl⟩

theorem takes_char : Takes (char c) (c :: rest) rest := ⟨[c], rfl, rfl⟩

theorem mem_oneOf {cs : List Char} (h : c ∈ cs) : [c] ∈ (oneOf cs).matches' := by
  induction cs with
  | nil => cases h
  | cons d cs ih =>
    rcases List.mem_cons.1 h with rfl | h
    · exact Or.inl rfl
    · exact Or.inr (ih h)

theorem takes_oneOf {cs : List Char} (h : c ∈ cs) : Takes (oneOf cs) (c :: rest) rest :=
  ⟨[c], mem_oneOf h, rfl⟩

theorem mem_digit (h : c.isDigit = true) : [c] ∈ digit.matches' := by
  have hrange : 48 ≤ c.toNat ∧ c.toNat ≤ 57 := by
    simpa [Char.isDigit, UInt32.le_iff_toNat_le] using h
  refine mem_oneOf ?_
  rw [← Char.ofNat_toNat c]
  generalize c.toNat = n at hrange
  obtain ⟨hlow, hhigh⟩ := hrange
  interval_cases n <;> decide

theorem mem_digit_pow {ds : List Char} (h : ds.all Char.isDigit = true) :
    ds ∈ (digit ^ ds.length).matches' := by
  rw [matches'_pow]
  induction ds with
  | nil => exact rfl
  | cons c ds ih =>
    rw [List.all_cons, Bool.and_eq_true] at h
    rw [List.length_cons, pow_succ']
    exact Language.append_mem_mul (mem_digit h.1) (ih h.2)

theorem mem_star_digit {ds : List Char} (h : ds.all Char.isDigit = true) :
    ds ∈ (star digit).matches' := by
  have hpow := mem_digit_pow h
  rw [matches'_pow] at hpow
  rw [matches'_star, Language.kstar_eq_iSup_pow]
  exact Set.mem_iUnion.2 ⟨ds.length, hpow⟩

/-! ## The readers -/

variable {n : Nat}

theorem takes_of_takeDigits? {count : Nat} (h : takeDigits? count s = some (n, rest)) :
    Takes (digit ^ count) s rest := by
  unfold takeDigits? at h
  by_cases hdigits : (s.take count).length = count ∧ (s.take count).all Char.isDigit = true
  · rw [if_pos hdigits] at h
    obtain ⟨m, -, heq⟩ := Option.map_eq_some_iff.1 h
    obtain rfl : s.drop count = rest := (Prod.mk.inj heq).2
    refine ⟨s.take count, ?_, (List.take_append_drop count s).symm⟩
    have hmem := mem_digit_pow hdigits.2
    rwa [hdigits.1] at hmem
  · rw [if_neg hdigits] at h
    cases h

theorem takes_of_expect? (h : expect? c s = some rest) : Takes (char c) s rest := by
  cases s with
  | nil => cases h
  | cons d s =>
    rw [expect?] at h
    by_cases hd : d = c
    · rw [if_pos hd] at h
      obtain rfl := Option.some.inj h
      exact hd ▸ takes_char
    · rw [if_neg hd] at h
      cases h

theorem takes_of_takeDate? {d : Date} (h : takeDate? s = some (d, rest)) : Takes date s rest := by
  obtain ⟨⟨year, s₁⟩, hyear, h⟩ := Option.bind_eq_some_iff.1 h
  obtain ⟨s₂, hfirst, h⟩ := Option.bind_eq_some_iff.1 h
  obtain ⟨⟨month, s₃⟩, hmonth, h⟩ := Option.bind_eq_some_iff.1 h
  obtain ⟨s₄, hsecond, h⟩ := Option.bind_eq_some_iff.1 h
  obtain ⟨⟨day, s₅⟩, hday, h⟩ := Option.bind_eq_some_iff.1 h
  obtain rfl : s₅ = rest := (Prod.mk.inj (Option.some.inj h)).2
  exact ((((takes_of_takeDigits? hyear).mul (takes_of_expect? hfirst)).mul
    (takes_of_takeDigits? hmonth)).mul (takes_of_expect? hsecond)).mul
    (takes_of_takeDigits? hday)

theorem takes_of_takeClock? {t : Nat × Nat} (h : takeClock? s = some (t, rest)) :
    Takes clock s rest := by
  obtain ⟨⟨hour, s₁⟩, hhour, h⟩ := Option.bind_eq_some_iff.1 h
  obtain ⟨s₂, hcolon, h⟩ := Option.bind_eq_some_iff.1 h
  obtain ⟨⟨minute, s₃⟩, hminute, h⟩ := Option.bind_eq_some_iff.1 h
  obtain rfl : s₃ = rest := (Prod.mk.inj (Option.some.inj h)).2
  exact ((takes_of_takeDigits? hhour).mul (takes_of_expect? hcolon)).mul
    (takes_of_takeDigits? hminute)

theorem takes_digits {ds : List Char} (hne : ds ≠ []) (h : ds.all Char.isDigit = true) :
    Takes (digit * star digit) (ds ++ rest) rest := by
  cases ds with
  | nil => exact absurd rfl hne
  | cons c ds =>
    rw [List.all_cons, Bool.and_eq_true] at h
    exact ⟨[c] ++ ds, Language.append_mem_mul (mem_digit h.1) (mem_star_digit h.2), rfl⟩

theorem takes_of_dropFraction? (h : dropFraction? s = some rest) :
    Takes (optional fraction) s rest := by
  unfold dropFraction? at h
  split at h
  · next more =>
    simp only at h
    split at h
    · next hcount =>
      obtain rfl := Option.some.inj h
      have hdigits : Takes (digit * star digit)
          (more.takeWhile Char.isDigit ++ more.dropWhile Char.isDigit)
          (more.dropWhile Char.isDigit) :=
        takes_digits (List.ne_nil_of_length_pos hcount.1) (List.all_takeWhile ..)
      rw [List.takeWhile_append_dropWhile] at hdigits
      exact (takes_char.mul hdigits).optional
    · cases h
  · obtain rfl := Option.some.inj h
    exact takes_optional_self

theorem takes_colon : Takes (optional (char ':')) s
    (match s with
      | ':' :: more => more
      | more => more) := by
  split
  · exact takes_char.optional
  · exact takes_optional_self

theorem takes_of_zoneAtEnd? {z : Nat × Nat} (h : zoneAtEnd? s = some z) :
    Takes (optional zone) s [] := by
  unfold zoneAtEnd? at h
  split at h
  · exact takes_optional_self
  · exact Takes.optional ⟨_, Or.inl rfl, rfl⟩
  · next sign more _ =>
    split at h
    · next hsign =>
      obtain ⟨⟨hour, s₁⟩, hhour, h⟩ := Option.bind_eq_some_iff.1 h
      simp only at h
      split at h
      · next minute hminute =>
        have hmem : sign ∈ ['+', '-'] := by simpa using hsign
        have hoffset := (((takes_oneOf hmem).mul (takes_of_takeDigits? hhour)).mul
          takes_colon).mul (takes_of_takeDigits? hminute)
        obtain ⟨word, hword, heq⟩ := hoffset
        exact Takes.optional ⟨word, Or.inr hword, heq⟩
      · cases h
    · cases h

/-- **What is read without a time is a date, and what is read with one is a
moment.** -/
theorem mem_of_ofCharacters? {t : DateText} (h : DateText.ofCharacters? s = some t) :
    (t.clock = none ∧ s ∈ date.matches') ∨ (t.clock.isSome = true ∧ s ∈ moment.matches') := by
  rw [← takes_nil_iff, ← takes_nil_iff]
  obtain ⟨⟨d, rest⟩, hdate, h⟩ := Option.bind_eq_some_iff.1 h
  simp only at h
  split at h
  -- A date alone, and a date with a time, which may be without seconds.
  · obtain rfl := Option.some.inj h
    exact Or.inl ⟨rfl, takes_of_takeDate? hdate⟩
  · next mark more =>
    right
    split at h
    · next hmark =>
      obtain ⟨⟨hourAndMinute, more⟩, hclock, h⟩ := Option.bind_eq_some_iff.1 h
      have hmem : mark ∈ ['T', ' '] := by simpa using hmark
      have hstart := (takes_oneOf hmem).mul (takes_of_takeClock? hclock)
      simp only at h
      split at h
      · next digits =>
        obtain ⟨⟨second, s₁⟩, hsecond, h⟩ := Option.bind_eq_some_iff.1 h
        obtain ⟨s₂, hfraction, h⟩ := Option.bind_eq_some_iff.1 h
        obtain ⟨offset, hzone, h⟩ := Option.bind_eq_some_iff.1 h
        obtain rfl := Option.some.inj h
        have hseconds : Takes seconds (':' :: digits) s₂ :=
          (takes_char.mul (takes_of_takeDigits? hsecond)).mul (takes_of_dropFraction? hfraction)
        exact ⟨rfl, (takes_of_takeDate? hdate).mul
          ((hstart.mul hseconds.optional).mul (takes_of_zoneAtEnd? hzone))⟩
      · obtain ⟨offset, hzone, h⟩ := Option.bind_eq_some_iff.1 h
        obtain rfl := Option.some.inj h
        exact ⟨rfl, (takes_of_takeDate? hdate).mul
          ((hstart.mul takes_optional_self).mul (takes_of_zoneAtEnd? hzone))⟩
    · cases h

theorem mem_text_of_mem_date (h : s ∈ date.matches') : s ∈ text.matches' :=
  takes_nil_iff.1 ((takes_nil_iff.2 h).mul takes_optional_self)

theorem mem_text_of_mem_moment (h : s ∈ moment.matches') : s ∈ text.matches' := by
  obtain ⟨first, hfirst, second, hsecond, rfl⟩ := Language.mem_mul.1 h
  exact Language.append_mem_mul hfirst (Or.inl hsecond)

/-- **What is read as a date or a moment is in the notation.** -/
theorem mem_text_of_ofCharacters? {t : DateText} (h : DateText.ofCharacters? s = some t) :
    s ∈ text.matches' :=
  (mem_of_ofCharacters? h).elim (fun h => mem_text_of_mem_date h.2)
    fun h => mem_text_of_mem_moment h.2

/-! ## The characters of a word -/

/-- The characters that an expression mentions. -/
def letters : RegularExpression Char → List Char
  | zero => []
  | epsilon => []
  | RegularExpression.char c => [c]
  | plus p q => letters p ++ letters q
  | comp p q => letters p ++ letters q
  | RegularExpression.star p => letters p

@[simp] theorem letters_zero : letters 0 = [] := rfl

@[simp] theorem letters_one : letters 1 = [] := rfl

@[simp] theorem letters_char (c : Char) : letters (char c) = [c] := rfl

@[simp] theorem letters_add (p q : RegularExpression Char) :
    letters (p + q) = letters p ++ letters q := rfl

@[simp] theorem letters_mul (p q : RegularExpression Char) :
    letters (p * q) = letters p ++ letters q := rfl

@[simp] theorem letters_star (p : RegularExpression Char) : letters (star p) = letters p := rfl

@[simp] theorem mem_letters_pow {n : Nat} : c ∈ letters (p ^ n) ↔ n ≠ 0 ∧ c ∈ letters p := by
  induction n with
  | zero => exact iff_of_false (List.not_mem_nil) fun h => h.1 rfl
  | succ n ih =>
    show c ∈ letters (p ^ n) ++ letters p ↔ _
    rw [List.mem_append, ih]
    exact ⟨fun h => ⟨n.succ_ne_zero, h.elim (·.2) id⟩, fun h => Or.inr h.2⟩

/-- **A word of an expression has only characters that the expression mentions.** -/
theorem mem_letters_of_mem (h : s ∈ p.matches') : ∀ c ∈ s, c ∈ letters p := by
  induction p generalizing s with
  | zero => cases h
  | epsilon =>
    obtain rfl : s = [] := h
    exact List.forall_mem_nil _
  | char c =>
    obtain rfl : s = [c] := h
    exact fun d hd => hd
  | plus p q ihp ihq =>
    intro c hc
    rcases h with h | h
    · exact List.mem_append_left _ (ihp h c hc)
    · exact List.mem_append_right _ (ihq h c hc)
  | comp p q ihp ihq =>
    obtain ⟨first, hfirst, second, hsecond, rfl⟩ := Language.mem_mul.1 h
    intro c hc
    rcases List.mem_append.1 hc with hc | hc
    · exact List.mem_append_left _ (ihp hfirst c hc)
    · exact List.mem_append_right _ (ihq hsecond c hc)
  | star p ih =>
    obtain ⟨words, rfl, hwords⟩ := Language.mem_kstar.1 h
    intro c hc
    obtain ⟨word, hword, hc⟩ := List.mem_flatten.1 hc
    exact ih (hwords word hword) c hc

/-- **No word of the notation has a line end in it.** -/
theorem lineEnd_notMem (h : s ∈ text.matches') : '\n' ∉ s := fun hmem =>
  absurd (mem_letters_of_mem h _ hmem)
    (by simp [text, date, time, clock, seconds, fraction, zone, optional, digit, oneOf])

theorem eq_singleton_of_mem_oneOf {cs : List Char} (h : s ∈ (oneOf cs).matches') :
    ∃ c ∈ cs, s = [c] := by
  induction cs with
  | nil => cases h
  | cons c cs ih =>
    rcases h with h | h
    · exact ⟨c, List.mem_cons_self, h⟩
    · obtain ⟨d, hd, rfl⟩ := ih h
      exact ⟨d, List.mem_cons_of_mem c hd, rfl⟩

/-- A date with a time is no date alone: there is a mark in it. -/
theorem notMem_date_of_mem_moment (h : s ∈ moment.matches') : s ∉ date.matches' := by
  intro hdate
  obtain ⟨_, -, _, htime, rfl⟩ := Language.mem_mul.1 h
  obtain ⟨_, hsecondsToo, _, -, rfl⟩ := Language.mem_mul.1 htime
  obtain ⟨_, hclockToo, _, -, rfl⟩ := Language.mem_mul.1 hsecondsToo
  obtain ⟨_, hmark, _, -, rfl⟩ := Language.mem_mul.1 hclockToo
  obtain ⟨mark, hmem, rfl⟩ := eq_singleton_of_mem_oneOf hmark
  have hletter : mark ∈ letters date := mem_letters_of_mem hdate mark (by simp)
  have hnone : 'T' ∉ letters date ∧ ' ' ∉ letters date := by simp [date, digit, oneOf]
  simp only [List.mem_cons, List.not_mem_nil, or_false] at hmem
  rcases hmem with rfl | rfl
  · exact hnone.1 hletter
  · exact hnone.2 hletter

/-! ## Lines -/

theorem ofLine?_of_mem_text (h : s ∈ text.matches') :
    DateText.ofLine? s = DateText.ofCharacters? s :=
  if_neg fun hlast => lineEnd_notMem h (List.mem_of_getLast? hlast)

theorem ofLine?_concat (s : List Char) :
    DateText.ofLine? (s ++ ['\n'])
      = (DateText.ofCharacters? s).filter (·.clock.isSome) := by
  rw [DateText.ofLine?, if_pos List.getLast?_concat, List.dropLast_concat]

/-- **What is read as a line** is read as it stands, or is a moment with a line end
after it that is read without it. -/
theorem ofLine?_eq_some_iff {t : DateText} :
    DateText.ofLine? s = some t ↔
      DateText.ofCharacters? s = some t
        ∨ ∃ before, s = before ++ ['\n'] ∧ before ∈ moment.matches'
          ∧ DateText.ofCharacters? before = some t := by
  constructor
  · intro h
    by_cases hlast : s.getLast? = some '\n'
    · obtain ⟨before, rfl⟩ := List.getLast?_eq_some_iff.1 hlast
      rw [ofLine?_concat, Option.filter_eq_some_iff] at h
      refine Or.inr ⟨before, rfl, ?_, h.1⟩
      rcases mem_of_ofCharacters? h.1 with ⟨hnone, -⟩ | ⟨-, hmoment⟩
      · rw [hnone] at h
        cases h.2
      · exact hmoment
    · rw [DateText.ofLine?, if_neg hlast] at h
      exact Or.inl h
  · rintro (h | ⟨before, rfl, hmoment, h⟩)
    · rwa [ofLine?_of_mem_text (mem_text_of_ofCharacters? h)]
    · rw [ofLine?_concat, Option.filter_eq_some_iff]
      refine ⟨h, ?_⟩
      rcases mem_of_ofCharacters? h with ⟨-, hdate⟩ | ⟨hclock, -⟩
      · exact absurd hdate (notMem_date_of_mem_moment hmoment)
      · exact hclock

end Iso

open Iso

theorem isDateText_iff_exists {s : String} :
    isDateText s = true ↔ ∃ t, DateText.ofLine? s.toList = some t ∧ t.exists? = true := by
  rw [isDateText, Option.any_eq_true]

/-- **A text is read as a date if and only if it is in the notation and exists, or is such
a moment with a line end after it.** -/
theorem isDateText_iff {s : String} :
    isDateText s = true ↔ ∃ t : String, isDateText t = true ∧ t.toList ∈ text.matches'
      ∧ (s = t ∨ t.toList ∈ moment.matches' ∧ s = t ++ "\n") := by
  constructor
  · intro h
    obtain ⟨t, hread, hexists⟩ := isDateText_iff_exists.1 h
    rcases ofLine?_eq_some_iff.1 hread with hread | ⟨before, heq, hmoment, hread⟩
    · exact ⟨s, h, mem_text_of_ofCharacters? hread, Or.inl rfl⟩
    · have hbefore : (String.ofList before).toList = before := String.toList_ofList
      have hdate : isDateText (String.ofList before) = true :=
        isDateText_iff_exists.2 ⟨t, by rw [hbefore]; exact ofLine?_eq_some_iff.2 (Or.inl hread),
          hexists⟩
      refine ⟨String.ofList before, hdate, ?_, Or.inr ⟨?_, ?_⟩⟩
      · rw [hbefore]
        exact mem_text_of_mem_moment hmoment
      · rwa [hbefore]
      · rw [← String.toList_inj, heq, String.toList_append, hbefore]
        rfl
  · rintro ⟨t, ht, htext, rfl | ⟨hmoment, rfl⟩⟩
    · exact ht
    · obtain ⟨parts, hread, hexists⟩ := isDateText_iff_exists.1 ht
      rw [ofLine?_of_mem_text htext] at hread
      rw [isDateText_iff_exists, String.toList_append]
      exact ⟨parts, ofLine?_eq_some_iff.2 (Or.inr ⟨t.toList, rfl, hmoment, hread⟩), hexists⟩

/-- **A text that is a date is in the notation of dates**, but for a line end. -/
theorem mem_line_of_isDateText {s : String} (h : isDateText s = true) :
    s.toList ∈ line.matches' := by
  obtain ⟨t, -, htext, rfl | ⟨hmoment, rfl⟩⟩ := isDateText_iff.1 h
  · exact Or.inl htext
  · rw [String.toList_append]
    exact Or.inr (Language.append_mem_mul hmoment rfl)

/-- A day that does not exist is in the notation, and is no date. -/
example : "2023-02-29".toList ∈ Iso.text.matches' ∧ isDateText "2023-02-29" = false := by
  decide +kernel

end ContentGraph
