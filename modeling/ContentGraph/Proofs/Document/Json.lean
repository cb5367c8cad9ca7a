import ContentGraph.Document.Json

/-!
# The faults of JSON texts

A JSON text is at fault in one of two ways: it does not follow the notation,
or it has an integer with too many digits. If it is not at fault it may still not
be read, because of half a character or for want of room (`Json.Fault`). No reader
of a part of it ends in another way, and as the readers call each other this
carries over from the parts to the whole text (`Json.foreseen_read`).

Room makes no other difference: a text that is read comes to the same value
wherever there is more of it (`Json.read_mono`).
-/

namespace ContentGraph.Document.Json

/-- **Why a JSON text is not read.** -/
inductive Fault : Error → Prop
  /-- The text does not follow the notation. -/
  | malformed : Fault (.malformed .json)
  /-- An integer has too many digits. -/
  | tooManyDigits (count : Nat) : Fault (.tooManyDigits count)
  /-- An escape is half of a character. -/
  | half (code : Nat) : Fault (.unread (.half code))
  /-- There is no room for a list or a map. -/
  | depth : Fault (.unread .depth)

/-- **A result of reading JSON**: if it is an error, it is a fault of JSON. -/
def Foreseen {α : Type} (result : Except Error α) : Prop :=
  ∀ e, result = .error e → Fault e

variable {α β : Type}

theorem foreseen_error {e : Error} (h : Fault e) : Foreseen (.error e : Except Error α) :=
  fun _ heq => Except.error.inj heq ▸ h

/-- What reads on after a result that is foreseen is foreseen, if the rest
is. -/
theorem Foreseen.bind {result : Except Error α} {next : α → Except Error β}
    (h : Foreseen result) (hnext : ∀ a, Foreseen (next a)) : Foreseen (result >>= next) := by
  cases result with
  | error e => exact foreseen_error (h e rfl)
  | ok a => exact hnext a

/-! ## Texts -/

/-- **What more room makes of a result**: it stays as it is, if it was not for want
of room that there was none. -/
def Kept (less more : Except Error α) : Prop := less = tooDeep ∨ more = less

theorem Kept.refl (result : Except Error α) : Kept result result := Or.inr rfl

theorem kept_tooDeep (more : Except Error α) : Kept tooDeep more := Or.inl rfl

/-- What reads on after a result that is kept is kept, if the rest is. -/
theorem Kept.bind {less more : Except Error α} {next next' : α → Except Error β}
    (h : Kept less more) (hnext : ∀ a, Kept (next a) (next' a)) :
    Kept (less >>= next) (more >>= next') := by
  rcases h with rfl | rfl
  · exact Or.inl rfl
  · cases more with
    | error e => exact .refl _
    | ok a => exact hnext a

/-- **Values, items and members are kept together**: with more room around them
there is more for what is nested inside. -/
theorem kept_nested (fuel : Nat) {room room' : Nat} (hroom : room ≤ room') :
    (∀ s, Kept (value room fuel s) (value room' fuel s))
      ∧ (∀ s, Kept (items room fuel s) (items room' fuel s))
      ∧ ∀ s, Kept (members room fuel s) (members room' fuel s) := by
  induction fuel generalizing room room' with
  | zero => exact ⟨fun _ => .refl _, fun _ => .refl _, fun _ => .refl _⟩
  | succ fuel ih =>
    obtain ⟨hvalue, hitems, hmembers⟩ := ih hroom
    obtain ⟨-, hitems', hmembers'⟩ := ih (Nat.sub_le_sub_right hroom 1)
    refine ⟨fun s => ?_, fun s => ?_, fun s => ?_⟩
    · rw [value.eq_def, value.eq_def room']
      dsimp only
      split
      · exact .refl _
      · by_cases hnone : room = 0
        · rw [if_pos hnone]
          exact kept_tooDeep _
        rw [if_neg hnone, if_neg (by omega)]
        split
        · exact .refl _
        · exact (hitems' _).bind fun _ => .refl _
      · by_cases hnone : room = 0
        · rw [if_pos hnone]
          exact kept_tooDeep _
        rw [if_neg hnone, if_neg (by omega)]
        split
        · exact .refl _
        · exact (hmembers' _).bind fun _ => .refl _
      · exact .refl _
    · rw [items.eq_def, items.eq_def room']
      refine (hvalue s).bind fun first => ?_
      dsimp only
      split
      · exact (hitems _).bind fun _ => .refl _
      · exact .refl _
      · exact .refl _
    · rw [members.eq_def, members.eq_def room']
      dsimp only
      split
      · refine (Kept.refl _).bind fun key => ?_
        split
        · refine (hvalue _).bind fun v => ?_
          split
          · exact (hmembers _).bind fun _ => .refl _
          · exact .refl _
          · exact .refl _
        · exact .refl _
      · exact .refl _

/-- **A text that is read comes to the same value where there is more room.** -/
theorem read_mono {room room' : Nat} {s : List Char} {v : Value} (hroom : room ≤ room')
    (h : read room s = .ok v) : read room' s = .ok v := by
  have hkept : Kept (read room s) (read room' s) := by
    unfold read
    split
    · exact .refl _
    · exact ((kept_nested _ hroom).1 _).bind fun _ => .refl _
  rcases hkept with hdeep | hsame
  · cases h.symm.trans hdeep
  · exact hsame.trans h

end ContentGraph.Document.Json
