import ContentGraph.Value.Equality

/-!
# Which values equal themselves

Equality in value is no equality of the values themselves: `1` and `true` are
equal, and *not a number* is unequal to itself. Two facts are what look-ups
by name and filters by equality rest on. A text equals nothing but the same
text (`Value.eq_string_iff`), so finding the entry under a name is finding
the first key written like it; and a scalar that is present equals itself
(`Value.eq_self_of_isScalar`). So the keys of a map differ in value from one
another (`Entries.distinct_ofPairs`), but a key need not equal itself.
-/

namespace ContentGraph

namespace Value

/-- Neither a list nor a map. -/
def isScalar (v : Value) : Bool := !v.isSequence && !v.isMap

/-- **A text equals the same text and nothing else.** -/
theorem eq_string_iff (v : Value) (s : String) : v.eq (.string s) = true ↔ v = .string s := by
  cases v <;> simp [eq, eqNumber, magnitude?]

/-- **Nothing else equals a text.** -/
theorem string_eq_iff (s : String) (v : Value) : (string s).eq v = true ↔ v = .string s := by
  cases v with
  | string t => rw [eq, beq_iff_eq, string.injEq, eq_comm]
  | _ => simp [eq, eqNumber, magnitude?]

/-- A value that is different from a text in value is not that text. -/
theorem ne_of_eq_eq_false {key other : Value} (hkey : key.isString = true)
    (h : key.eq other = false) : other ≠ key := by
  rintro rfl
  cases other with
  | string s => exact absurd ((string_eq_iff s _).2 rfl) (Bool.eq_false_iff.1 h)
  | _ => cases hkey

/-- A text is a member of values in value only if it is one of them. -/
theorem mem_of_string_memberOf {s : String} {values : List Value}
    (h : (Value.string s).memberOf values = true) : .string s ∈ values := by
  obtain ⟨v, hv, heq⟩ := List.any_eq_true.1 h
  exact (string_eq_iff s v).1 heq ▸ hv

theorem eqMoment_self (m : Moment) : eqMoment m m = true := by
  unfold eqMoment Moment.comparable?
  cases m.offset <;> simp

/-- Every number but *not a number* has a magnitude, and is equal to itself by
it. -/
theorem eq_self_of_float {x : Double} (h : x.isNaN = false) : eq (.float x) (.float x) = true := by
  show eqNumber (.float x) (.float x) = true
  unfold eqNumber
  cases x with
  | nan => cases h
  | infinite negative => cases negative <;> rfl
  | finite negative mantissa exponent => simp [magnitude?, Double.magnitude?]

/-- **A scalar that is present equals itself.** -/
theorem eq_self_of_isScalar {v : Value} (hs : v.isScalar = true) (hp : v.isMissing = false) :
    v.eq v = true := by
  cases v with
  | null => rfl
  | float x => exact eq_self_of_float hp
  | moment m => exact eqMoment_self m
  | list _ | tuple _ | map _ => exact absurd hs Bool.false_ne_true
  | _ => simp [eq, eqNumber, magnitude?]

end Value

theorem Entries.mem_of_get?_eq_some {name : String} {entries : Entries} {v : Value}
    (h : get? name entries = some v) : (.string name, v) ∈ entries := by
  induction entries with
  | nil => cases h
  | cons entry rest ih =>
    obtain ⟨key, w⟩ := entry
    rw [get?] at h
    split at h
    · next hkey =>
      cases h
      exact hkey ▸ List.mem_cons_self
    · exact List.mem_cons_of_mem _ (ih h)

/-- The value found under a name is the one whose key is written like it. -/
theorem Entries.find?_string (name : String) (entries : Entries) :
    Entries.find? (.string name) entries = Entries.get? name entries := by
  induction entries with
  | nil => rfl
  | cons entry rest ih =>
    obtain ⟨key, value⟩ := entry
    unfold Entries.find? at ih ⊢
    rw [List.find?_cons, Entries.get?]
    by_cases hk : key = .string name
    · rw [(Value.eq_string_iff key name).2 hk, if_pos hk]
      rfl
    · rw [Bool.eq_false_iff.2 fun h => hk ((Value.eq_string_iff key name).1 h), if_neg hk]
      exact ih

/-! ## Keys that differ -/

namespace Entries

/-- **No key of the entries equals another one.** -/
def Distinct (entries : Entries) : Prop := entries.Pairwise fun a b => a.1.eq b.1 = false

instance (entries : Entries) : Decidable (Distinct entries) :=
  inferInstanceAs (Decidable (List.Pairwise _ _))

/-- A key that none equals comes last. -/
theorem insert_of_forall_eq_false {key value : Value} {entries : Entries}
    (h : ∀ entry ∈ entries, entry.1.eq key = false) :
    insert key value entries = entries ++ [(key, value)] := by
  induction entries with
  | nil => rfl
  | cons entry rest ih =>
    obtain ⟨hfirst, hrest⟩ := List.forall_mem_cons.1 h
    rw [insert, hfirst, if_neg Bool.false_ne_true, ih hrest, List.cons_append]

/-- Entries whose keys differ are written one after the other, behind those that
are there under other keys. -/
theorem foldl_insert_eq_append {base entries : Entries} (hentries : entries.Distinct)
    (hbase : ∀ old ∈ base, ∀ entry ∈ entries, old.1.eq entry.1 = false) :
    entries.foldl (fun written entry => insert entry.1 entry.2 written) base
      = base ++ entries := by
  induction entries generalizing base with
  | nil => exact (List.append_nil base).symm
  | cons entry rest ih =>
    obtain ⟨hentry, hrest⟩ := List.pairwise_cons.1 hentries
    have hnew : ∀ old ∈ base, old.1.eq entry.1 = false := fun old hold =>
      hbase old hold entry List.mem_cons_self
    rw [List.foldl_cons, insert_of_forall_eq_false hnew, ih hrest, List.append_assoc]
    · rfl
    · intro old hold other hother
      rcases List.mem_append.1 hold with hold | hold
      · exact hbase old hold other (List.mem_cons_of_mem _ hother)
      · rw [List.mem_singleton.1 hold]
        exact hentry other hother

/-- Nothing is found under a key that none equals. -/
theorem find?_eq_none {key : Value} {entries : Entries}
    (h : ∀ entry ∈ entries, entry.1.eq key = false) : find? key entries = none := by
  unfold find?
  rw [List.find?_eq_none.2 fun entry hentry => Bool.eq_false_iff.1 (h entry hentry)]
  rfl

/-- What was written under a key is found under it. -/
theorem find?_insert_self {key : Value} (hkey : key.eq key = true) (value : Value)
    (entries : Entries) : find? key (insert key value entries) = some value := by
  unfold find?
  induction entries with
  | nil => simp [insert, hkey]
  | cons entry rest ih =>
    rw [insert]
    cases hk : entry.1.eq key with
    | true => simp [hk]
    | false => simpa [hk] using ih

/-- Of two values written under a key the second stays. -/
theorem insert_insert_self {key : Value} (hkey : key.eq key = true) (value other : Value)
    (entries : Entries) :
    insert key value (insert key other entries) = insert key value entries := by
  induction entries with
  | nil => simp [insert, hkey]
  | cons entry rest ih =>
    obtain ⟨k, v⟩ := entry
    simp only [insert]
    cases hk : k.eq key with
    | true => simp [insert, hk]
    | false => simp [insert, hk, ih]

/-- Writing a value brings no key but its own. -/
theorem key_of_mem_insert {key value : Value} {entries : Entries} {entry : Value × Value}
    (h : entry ∈ insert key value entries) :
    entry.1 = key ∨ ∃ old ∈ entries, entry.1 = old.1 := by
  induction entries with
  | nil => exact Or.inl (congrArg Prod.fst (List.mem_singleton.1 h))
  | cons first rest ih =>
    obtain ⟨k, v⟩ := first
    rw [insert] at h
    split at h
    · rcases List.mem_cons.1 h with rfl | h
      · exact Or.inr ⟨_, List.mem_cons_self, rfl⟩
      · exact Or.inr ⟨entry, List.mem_cons_of_mem _ h, rfl⟩
    · rcases List.mem_cons.1 h with rfl | h
      · exact Or.inr ⟨_, List.mem_cons_self, rfl⟩
      · obtain heq | ⟨old, hold, heq⟩ := ih h
        · exact Or.inl heq
        · exact Or.inr ⟨old, List.mem_cons_of_mem _ hold, heq⟩

theorem Distinct.insert {key value : Value} {entries : Entries} (h : Distinct entries) :
    Distinct (insert key value entries) := by
  induction entries with
  | nil => exact List.pairwise_singleton _ _
  | cons first rest ih =>
    obtain ⟨k, v⟩ := first
    obtain ⟨hfirst, hrest⟩ := List.pairwise_cons.1 h
    rw [Entries.insert]
    split
    · exact List.pairwise_cons.2 ⟨hfirst, hrest⟩
    · next hkey =>
      refine List.pairwise_cons.2 ⟨fun entry hentry => ?_, ih hrest⟩
      obtain heq | ⟨old, hold, heq⟩ := key_of_mem_insert hentry
      · rw [heq]
        exact Bool.eq_false_iff.2 hkey
      · rw [heq]
        exact hfirst old hold

/-- **The keys of a map that is written entry by entry are distinct.** -/
theorem distinct_ofPairs (pairs : List (Value × Value)) : Distinct (ofPairs pairs) := by
  unfold ofPairs
  suffices h : ∀ entries, Distinct entries →
      Distinct (pairs.foldl (fun entries pair => insert pair.1 pair.2 entries) entries) from
    h [] List.Pairwise.nil
  induction pairs with
  | nil => exact fun entries h => h
  | cons pair rest ih => exact fun entries h => ih _ h.insert

end Entries

end ContentGraph
