import ContentGraph.Proofs.Value.Equality
import Mathlib.Data.Fintype.EquivFin

/-!
# Equality in value is symmetric

Scalars are equal if they denote the same thing (`Value.eq_iff_denotation?`), which
is symmetric by itself. Lists are compared item by item. Maps are not: one map
equals another if there are as many entries in it and each of them has an equal one
in the other, under an equal key. That the other map has nothing else needs a count,
and the count needs keys that can be told apart and that equality carries from one
to the next (`Value.exists_eq_of_forall_exists_eq`).

So equality is symmetric on values with such keys in all their maps
(`Value.isWellKeyed`, `Value.eq_comm_of_isWellKeyed`), as every map has that is
built entry by entry.
-/

namespace ContentGraph

/-- The clock that a moment is read by, universal or not, and its reading. -/
def Moment.place (m : Moment) : Bool × Int :=
  (m.offset.isSome, m.instant (m.offset.getD 0))

namespace Value

/-! ## Scalars -/

/-- What a scalar can denote. -/
inductive Denotation where
  | nothing
  | number (p : Magnitude)
  | text (s : String)
  | bytes (bs : List UInt8)
  | date (d : Date)
  | moment (place : Bool × Int)

/-- What a scalar denotes. *Not a number* denotes nothing that anything else
could denote. -/
def denotation? : Value → Option Denotation
  | null => some .nothing
  | string s => some (.text s)
  | bytes bs => some (.bytes bs)
  | date d => some (.date d)
  | moment m => some (.moment m.place)
  | v => v.magnitude?.map .number

/-- Moments are equal if they are the same place on the same clock. -/
theorem eqMoment_iff (a b : Moment) : eqMoment a b = true ↔ a.place = b.place := by
  unfold eqMoment Moment.comparable? Moment.place
  cases ha : a.offset <;> cases hb : b.offset <;> simp [Moment.instant]

theorem eqNumber_iff (a b : Value) :
    eqNumber a b = true ↔ ∃ p, b.magnitude? = some p ∧ a.magnitude? = some p := by
  unfold eqNumber
  cases a.magnitude? <;> cases b.magnitude? <;> simp

/-- **Scalars are equal if they denote the same**, and nothing else equals
them. -/
theorem eq_iff_denotation? {a b : Value} (h : a.isScalar = true ∨ b.isScalar = true) :
    a.eq b = true ↔ ∃ d, b.denotation? = some d ∧ a.denotation? = some d := by
  cases a <;> cases b <;>
    simp_all [eq, eqNumber_iff, eqMoment_iff, denotation?, magnitude?, isScalar, isSequence, isMap]

theorem eq_comm_of_isScalar {a b : Value} (h : a.isScalar = true ∨ b.isScalar = true) :
    a.eq b = b.eq a := by
  rw [Bool.eq_iff_iff, eq_iff_denotation? h, eq_iff_denotation? h.symm]
  simp only [and_comm]

theorem isScalar_of_denotation? {a : Value} {d : Denotation} (h : a.denotation? = some d) :
    a.isScalar = true := by
  cases a with
  | list _ | tuple _ | map _ => cases h
  | _ => rfl

theorem eq_trans_of_isScalar {a b c : Value} (h : a.isScalar = true) (hab : a.eq b = true)
    (hbc : b.eq c = true) : a.eq c = true := by
  obtain ⟨d, hb, ha⟩ := (eq_iff_denotation? (Or.inl h)).1 hab
  obtain ⟨e, hc, hb'⟩ := (eq_iff_denotation? (Or.inl (isScalar_of_denotation? hb))).1 hbc
  rw [hb] at hb'
  exact (eq_iff_denotation? (Or.inl h)).2 ⟨e, hc, ha.trans hb'⟩

/-! ## Keys -/

theorem exists_of_tuple_eq {items : List Value} {b : Value} (h : (tuple items).eq b = true) :
    ∃ others, b = tuple others ∧ eqList items others = true := by
  cases b with
  | tuple others => exact ⟨others, rfl, h⟩
  | _ => simp [eq, eqNumber, magnitude?] at h

mutual

/-- **Keys that equal the same key are equal.** -/
theorem eq_trans_of_canBeKey : (a : Value) → a.canBeKey = true → {b c : Value} →
    a.eq b = true → b.eq c = true → a.eq c = true
  | .tuple items, hkey, b, c, hab, hbc => by
    obtain ⟨others, rfl, hitems⟩ := exists_of_tuple_eq hab
    obtain ⟨more, rfl, hothers⟩ := exists_of_tuple_eq hbc
    exact eqList_trans_of_canBeKey items hkey hitems hothers
  | .list _, hkey, _, _, _, _ | .map _, hkey, _, _, _, _ => nomatch hkey
  | .null, _, _, _, hab, hbc | .bool _, _, _, _, hab, hbc | .int _, _, _, _, hab, hbc
  | .float _, _, _, _, hab, hbc | .decimal _, _, _, _, hab, hbc | .string _, _, _, _, hab, hbc
  | .bytes _, _, _, _, hab, hbc | .date _, _, _, _, hab, hbc | .moment _, _, _, _, hab, hbc =>
    eq_trans_of_isScalar rfl hab hbc

theorem eqList_trans_of_canBeKey : (as : List Value) → allCanBeKeys as = true →
    {bs cs : List Value} → eqList as bs = true → eqList bs cs = true → eqList as cs = true
  | [], _, bs, cs, hab, hbc => by
    cases bs with
    | nil => exact hbc
    | cons b bs => cases hab
  | a :: as, hkeys, bs, cs, hab, hbc => by
    cases bs with
    | nil => cases hab
    | cons b bs =>
      cases cs with
      | nil => cases hbc
      | cons c cs =>
        rw [allCanBeKeys, Bool.and_eq_true] at hkeys
        rw [eqList, Bool.and_eq_true] at hab hbc ⊢
        exact ⟨eq_trans_of_canBeKey a hkeys.1 hab.1 hbc.1,
          eqList_trans_of_canBeKey as hkeys.2 hab.2 hbc.2⟩

end

/-! ## Maps -/

theorem eqEntries_iff {as bs : Entries} :
    eqEntries as bs = true
      ↔ ∀ entry ∈ as, ∃ other ∈ bs, entry.1.eq other.1 = true ∧ entry.2.eq other.2 = true := by
  induction as with
  | nil => exact iff_of_true rfl nofun
  | cons entry rest ih =>
    rw [eqEntries, Bool.and_eq_true, ih, List.forall_mem_cons, List.any_eq_true]
    simp only [Bool.and_eq_true]

mutual

/-- **The keys of every map in a value differ from one another**, at every
depth, and are values that can be keys. -/
def isWellKeyed : Value → Bool
  | list items => allWellKeyed items
  | tuple items => allWellKeyed items
  | map entries => decide (Entries.Distinct entries) && entriesWellKeyed entries
  | _ => true

/-- Whether all values of a list are well-keyed. -/
def allWellKeyed : List Value → Bool
  | [] => true
  | v :: rest => isWellKeyed v && allWellKeyed rest

/-- Whether the keys of some entries can be keys, and their values are
well-keyed. -/
def entriesWellKeyed : List (Value × Value) → Bool
  | [] => true
  | (key, v) :: rest => key.canBeKey && isWellKeyed v && entriesWellKeyed rest

end

theorem entriesWellKeyed_iff {entries : Entries} :
    entriesWellKeyed entries = true
      ↔ ∀ entry ∈ entries, entry.1.canBeKey = true ∧ entry.2.isWellKeyed = true := by
  induction entries with
  | nil => exact iff_of_true rfl nofun
  | cons entry rest ih =>
    rw [entriesWellKeyed, Bool.and_eq_true, Bool.and_eq_true, ih, List.forall_mem_cons]

theorem distinct_of_isWellKeyed {entries : Entries} (h : (map entries).isWellKeyed = true) :
    entries.Distinct := by
  rw [isWellKeyed, Bool.and_eq_true, decide_eq_true_iff] at h
  exact h.1

theorem isWellKeyed_map_cons_iff {key v : Value} {rest : Entries} :
    (map ((key, v) :: rest)).isWellKeyed = true
      ↔ (∀ entry ∈ rest, key.eq entry.1 = false) ∧ key.canBeKey = true
        ∧ v.isWellKeyed = true ∧ (map rest).isWellKeyed = true := by
  rw [isWellKeyed, isWellKeyed, entriesWellKeyed, Bool.and_eq_true, Bool.and_eq_true,
    Bool.and_eq_true, Bool.and_eq_true, decide_eq_true_iff, decide_eq_true_iff,
    Entries.Distinct, Entries.Distinct, List.pairwise_cons]
  tauto

theorem allWellKeyed_iff {items : List Value} :
    allWellKeyed items = true ↔ ∀ item ∈ items, item.isWellKeyed = true := by
  induction items with
  | nil => exact iff_of_true rfl nofun
  | cons item rest ih => rw [allWellKeyed, Bool.and_eq_true, ih, List.forall_mem_cons]

/-- **Every entry of a map has an equal one in another of the same size only if
the other's have one in the map**: no two can have the same one, so none is
left out. -/
theorem exists_eq_of_forall_exists_eq {as bs : Entries} (hlength : as.length = bs.length)
    (hdistinct : Entries.Distinct as) (hkeys : ∀ entry ∈ as, entry.1.canBeKey = true)
    (hcomm : ∀ entry ∈ as, ∀ other ∈ bs, entry.1.eq other.1 = other.1.eq entry.1)
    (h : ∀ entry ∈ as, ∃ other ∈ bs, entry.1.eq other.1 = true ∧ entry.2.eq other.2 = true) :
    ∀ other ∈ bs, ∃ entry ∈ as, entry.1.eq other.1 = true ∧ entry.2.eq other.2 = true := by
  have hplace (i : Fin as.length) : ∃ j : Fin bs.length,
      as[i].1.eq bs[j].1 = true ∧ as[i].2.eq bs[j].2 = true := by
    obtain ⟨other, hother, heq⟩ := h as[i] (List.getElem_mem i.isLt)
    obtain ⟨j, hj, rfl⟩ := List.getElem_of_mem hother
    exact ⟨⟨j, hj⟩, heq⟩
  choose place hplace using hplace
  have hdiffer {i j : Fin as.length} (hlt : i < j) : place i ≠ place j := by
    intro heq
    have hi : as[i].1.eq bs[place i].1 = true := (hplace i).1
    have hj : bs[place i].1.eq as[j].1 = true :=
      (hcomm as[j] (List.getElem_mem j.isLt) _ (List.getElem_mem (place i).isLt)).symm.trans
        (heq ▸ (hplace j).1)
    have hkey := eq_trans_of_canBeKey as[i].1 (hkeys _ (List.getElem_mem i.isLt)) hi hj
    have hne := List.pairwise_iff_getElem.1 hdistinct i j i.isLt j.isLt hlt
    exact absurd hkey (Bool.eq_false_iff.1 hne)
  have hinjective : Function.Injective place := by
    intro i j heq
    rcases lt_trichotomy i j with hlt | hij | hlt
    · exact absurd heq (hdiffer hlt)
    · exact hij
    · exact absurd heq.symm (hdiffer hlt)
  intro other hother
  obtain ⟨j, hj, rfl⟩ := List.getElem_of_mem hother
  obtain ⟨i, hi⟩ := (Finite.injective_iff_surjective_of_equiv (finCongr hlength)).1 hinjective
    ⟨j, hj⟩
  have heq := hplace i
  rw [hi] at heq
  exact ⟨as[i], List.getElem_mem _, heq⟩

/-- Maps with commuting entries are compared alike from both sides. -/
theorem map_eq_comm {as bs : Entries} (ha : (map as).isWellKeyed = true)
    (hb : (map bs).isWellKeyed = true)
    (hcomm : ∀ entry ∈ as, ∀ other ∈ bs, entry.1.eq other.1 = other.1.eq entry.1
      ∧ entry.2.eq other.2 = other.2.eq entry.2) :
    (map as).eq (map bs) = (map bs).eq (map as) := by
  rw [isWellKeyed, Bool.and_eq_true, decide_eq_true_eq, entriesWellKeyed_iff] at ha hb
  rw [eq, eq, Bool.eq_iff_iff, Bool.and_eq_true, Bool.and_eq_true, beq_iff_eq, beq_iff_eq,
    eqEntries_iff, eqEntries_iff]
  constructor
  · rintro ⟨hlength, h⟩
    refine ⟨hlength.symm, fun other hother => ?_⟩
    obtain ⟨entry, hentry, hkey, hvalue⟩ := exists_eq_of_forall_exists_eq hlength ha.1
      (fun e he => (ha.2 e he).1) (fun e he o ho => (hcomm e he o ho).1) h other hother
    obtain ⟨hkeys, hvalues⟩ := hcomm entry hentry other hother
    exact ⟨entry, hentry, hkeys ▸ hkey, hvalues ▸ hvalue⟩
  · rintro ⟨hlength, h⟩
    refine ⟨hlength.symm, fun entry hentry => ?_⟩
    obtain ⟨other, hother, hkey, hvalue⟩ := exists_eq_of_forall_exists_eq hlength hb.1
      (fun e he => (hb.2 e he).1) (fun o ho e he => (hcomm e he o ho).1.symm) h entry hentry
    obtain ⟨hkeys, hvalues⟩ := hcomm entry hentry other hother
    exact ⟨other, hother, hkeys ▸ hkey, hvalues ▸ hvalue⟩

mutual

/-- What can be a key holds no map, so no keys either. -/
theorem isWellKeyed_of_canBeKey : (v : Value) → v.canBeKey = true → v.isWellKeyed = true
  | .tuple items, h => allWellKeyed_of_allCanBeKeys items h
  | .list _, h | .map _, h => nomatch h
  | .null, _ | .bool _, _ | .int _, _ | .float _, _ | .decimal _, _ | .string _, _ | .bytes _, _
  | .date _, _ | .moment _, _ => rfl

theorem allWellKeyed_of_allCanBeKeys : (items : List Value) → allCanBeKeys items = true →
    allWellKeyed items = true
  | [], _ => rfl
  | item :: rest, h => by
    rw [allCanBeKeys, Bool.and_eq_true] at h
    rw [allWellKeyed, Bool.and_eq_true]
    exact ⟨isWellKeyed_of_canBeKey item h.1, allWellKeyed_of_allCanBeKeys rest h.2⟩

end

/-! ## Symmetry -/

mutual

/-- **Equality in value is symmetric.** -/
theorem eq_comm_of_isWellKeyed : (a : Value) → a.isWellKeyed = true → {b : Value} →
    b.isWellKeyed = true → a.eq b = b.eq a
  | .list items, ha, b, hb => by
    cases b with
    | list others =>
      rw [eq, eq]
      exact eqList_comm_of_allWellKeyed items ha hb
    | tuple _ | map _ => rfl
    | _ => exact eq_comm_of_isScalar (Or.inr rfl)
  | .tuple items, ha, b, hb => by
    cases b with
    | tuple others =>
      rw [eq, eq]
      exact eqList_comm_of_allWellKeyed items ha hb
    | list _ | map _ => rfl
    | _ => exact eq_comm_of_isScalar (Or.inr rfl)
  | .map entries, ha, b, hb => by
    cases b with
    | map others =>
      refine map_eq_comm ha hb fun entry hentry other hother => ?_
      rw [isWellKeyed, Bool.and_eq_true] at ha hb
      obtain ⟨hkey, hvalue⟩ := entriesWellKeyed_iff.1 hb.2 other hother
      have hcomm := entries_comm_of_entriesWellKeyed entries ha.2 entry hentry
      exact ⟨hcomm.1 (isWellKeyed_of_canBeKey _ hkey), hcomm.2 hvalue⟩
    | list _ | tuple _ => rfl
    | _ => exact eq_comm_of_isScalar (Or.inr rfl)
  | .null, _, _, _ | .bool _, _, _, _ | .int _, _, _, _ | .float _, _, _, _
  | .decimal _, _, _, _ | .string _, _, _, _ | .bytes _, _, _, _ | .date _, _, _, _
  | .moment _, _, _, _ => eq_comm_of_isScalar (Or.inl rfl)

theorem eqList_comm_of_allWellKeyed : (as : List Value) → allWellKeyed as = true →
    {bs : List Value} → allWellKeyed bs = true → eqList as bs = eqList bs as
  | [], _, bs, _ => by cases bs <;> rfl
  | a :: as, ha, bs, hb => by
    cases bs with
    | nil => rfl
    | cons b bs =>
      rw [allWellKeyed, Bool.and_eq_true] at ha hb
      rw [eqList, eqList, eq_comm_of_isWellKeyed a ha.1 hb.1,
        eqList_comm_of_allWellKeyed as ha.2 hb.2]

/-- The keys and the values of entries commute with every well-keyed value. -/
theorem entries_comm_of_entriesWellKeyed : (entries : List (Value × Value)) →
    entriesWellKeyed entries = true → ∀ entry ∈ entries,
      (∀ {b : Value}, b.isWellKeyed = true → entry.1.eq b = b.eq entry.1)
        ∧ ∀ {b : Value}, b.isWellKeyed = true → entry.2.eq b = b.eq entry.2
  | [], _, _, hentry => nomatch hentry
  | (key, v) :: rest, h, entry, hentry => by
    rw [entriesWellKeyed, Bool.and_eq_true, Bool.and_eq_true] at h
    rcases List.mem_cons.1 hentry with rfl | hentry
    · exact ⟨eq_comm_of_isWellKeyed key (isWellKeyed_of_canBeKey key h.1.1),
        eq_comm_of_isWellKeyed v h.1.2⟩
    · exact entries_comm_of_entriesWellKeyed rest h.2 entry hentry

end

end Value

end ContentGraph
