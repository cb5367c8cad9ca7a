import ContentGraph.Proofs.Node.Attribute
import ContentGraph.Proofs.Reference.Follow
import Mathlib.Algebra.Order.Ring.Rat

/-!
# References that are empty

A field may have a value and refer to nothing by it: the value is null, not a
number, a zero or empty. Such a value is a *void* (`Value.IsVoid`). Zeros are told
by equality in value, so that `0`, `-0.0`, `0.00` and `false` are one zero, and no
kind of number is left out. A value is a void if and only if it is missing or counts
as false (`Value.isVoid_iff`).

A void is meant to be no reference at all: no node is looked up and nothing is
logged. The test for it goes through the kinds of values one after the other, and it
passes over two of them, decimals and bytes. So a decimal that is zero and an empty
sequence of bytes are followed; they lead nowhere, for only a text is an identifier
or a path, and this is reported. They are the only exceptions, and nothing but a
void is ever taken for one (`Reference.silent_unless_overlooked`).
-/

namespace ContentGraph

/-! ## Zeros -/

/-- No power of a base is zero, whichever sign its exponent has. -/
theorem scale_ne_zero {base : Nat} (hbase : 0 < base) (exponent : Int) :
    (if exponent < 0 then mkRat 1 (Nat.pow base exponent.natAbs)
      else mkRat (Nat.pow base exponent.natAbs) 1) ≠ 0 := by
  have hpow : Nat.pow base exponent.natAbs ≠ 0 := (Nat.pow_pos hbase).ne'
  split
  · exact (Rat.mkRat_ne_zero hpow).2 one_ne_zero
  · exact (Rat.mkRat_ne_zero one_ne_zero).2 (Int.natCast_ne_zero.2 hpow)

/-- A product with a sign before it is zero only with its first factor, if the
second is none. -/
theorem signed_eq_zero_iff (negative : Bool) (digits : Nat) {scale : Rat} (h : scale ≠ 0) :
    (if negative then -((digits : Rat) * scale) else (digits : Rat) * scale) = 0
      ↔ digits = 0 := by
  cases negative <;> simp [h]

/-- A decimal is zero if and only if all its digits are. -/
theorem Decimal.toRat_eq_zero_iff (d : Decimal) : d.toRat = 0 ↔ d.coefficient = 0 :=
  signed_eq_zero_iff _ _ (scale_ne_zero (Nat.succ_pos 9) _)

/-- A double is zero if and only if it is finite and its mantissa is zero. -/
theorem Double.magnitude?_eq_zero_iff (x : Double) :
    x.magnitude? = some (.rational 0) ↔ x.isZero = true := by
  cases x with
  | nan => exact iff_of_false nofun Bool.false_ne_true
  | infinite negative => cases negative <;> exact iff_of_false nofun Bool.false_ne_true
  | finite negative mantissa exponent =>
    rw [magnitude?, Option.some.injEq, Magnitude.rational.injEq, isZero, beq_iff_eq]
    exact signed_eq_zero_iff _ _ (scale_ne_zero Nat.two_pos _)

namespace Value

/-- A value equals zero if and only if it denotes the number. -/
theorem eq_zero_iff (v : Value) :
    v.eq (.int 0) = true ↔ v.magnitude? = some (.rational 0) := by
  have heq : v.eq (.int 0) = v.eqNumber (.int 0) := by cases v <;> rfl
  rw [heq, eqNumber]
  cases hv : v.magnitude? with
  | none => constructor <;> intro h <;> cases h
  | some p =>
    show (p == .rational ((0 : Int) : Rat)) = true ↔ _
    rw [beq_iff_eq, Option.some.injEq, Int.cast_zero]

/-- **A value that stands for nothing**: there is none, it is not a number, it is a
zero, or there is nothing in it. -/
inductive IsVoid : Value → Prop
  /-- Null. -/
  | null : IsVoid .null
  /-- Not a number. -/
  | nan : IsVoid (.float .nan)
  /-- A zero of any kind of number, and what equals one. -/
  | zero {v : Value} (h : v.eq (.int 0) = true) : IsVoid v
  /-- A text without characters. -/
  | string : IsVoid (.string "")
  /-- No bytes. -/
  | bytes : IsVoid (.bytes [])
  /-- A list without items. -/
  | list : IsVoid (.list [])
  /-- A tuple without items. -/
  | tuple : IsVoid (.tuple [])
  /-- A map without entries. -/
  | map : IsVoid (.map [])

/-- What counts as a zero counts as false. -/
theorem isFalsy_of_eq_zero {v : Value} (h : v.eq (.int 0) = true) : v.isFalsy = true := by
  rw [eq_zero_iff] at h
  cases v with
  | bool b => cases b with
    | false => rfl
    | true => exact absurd (Magnitude.rational.inj (Option.some.inj h)) one_ne_zero
  | int n =>
    have hn : (n : Rat) = 0 := Magnitude.rational.inj (Option.some.inj h)
    exact beq_iff_eq.2 (Rat.intCast_eq_zero_iff.1 hn)
  | float x => exact x.magnitude?_eq_zero_iff.1 h
  | decimal d =>
    exact beq_iff_eq.2 (d.toRat_eq_zero_iff.1 (Magnitude.rational.inj (Option.some.inj h)))
  | _ => cases h

/-- **A void is what is missing or counts as false.** -/
theorem isVoid_iff {v : Value} : v.IsVoid ↔ v.isMissing = true ∨ v.isFalsy = true := by
  constructor
  · intro h
    cases h with
    | null | nan => exact Or.inl rfl
    | zero h => exact Or.inr (isFalsy_of_eq_zero h)
    | string | bytes | list | tuple | map => exact Or.inr rfl
  · rintro (h | h)
    · cases v with
      | null => exact .null
      | float x =>
        cases x with
        | nan => exact .nan
        | _ => cases h
      | _ => cases h
    · cases v with
      | null => exact .null
      | bool b =>
        cases b with
        | false => exact .zero rfl
        | true => cases h
      | int n =>
        obtain rfl := beq_iff_eq.1 h
        exact .zero rfl
      | float x => exact .zero ((eq_zero_iff _).2 (x.magnitude?_eq_zero_iff.2 h))
      | decimal d =>
        have hd := d.toRat_eq_zero_iff.2 (beq_iff_eq.1 h)
        exact .zero ((eq_zero_iff _).2 (congrArg (fun q => some (Magnitude.rational q)) hd))
      | string s => exact String.isEmpty_iff.1 h ▸ .string
      | bytes bs => exact List.isEmpty_iff.1 h ▸ .bytes
      | list items => exact List.isEmpty_iff.1 h ▸ .list
      | tuple items => exact List.isEmpty_iff.1 h ▸ .tuple
      | map entries => exact List.isEmpty_iff.1 h ▸ .map
      | _ => cases h

end Value

namespace Reference

/-! ## The test for emptiness -/

/-- **A void that is not recognized**: a decimal that is zero, or no bytes. -/
inductive IsOverlooked : Value → Prop
  /-- A zero that keeps its digits. -/
  | decimal {d : Decimal} (h : d.toRat = 0) : IsOverlooked (.decimal d)
  /-- An empty sequence of bytes. -/
  | bytes : IsOverlooked (.bytes [])

theorem IsOverlooked.isVoid {v : Value} (h : IsOverlooked v) : v.IsVoid := by
  cases h with
  | @decimal d h => exact Value.isVoid_iff.2 (Or.inr (beq_iff_eq.2 (d.toRat_eq_zero_iff.1 h)))
  | bytes => exact .bytes

theorem IsOverlooked.isString_eq_false {v : Value} (h : IsOverlooked v) : v.isString = false := by
  cases h <;> rfl

/-- Other values are taken for empty if they are missing or count as false. -/
theorem isEmpty_eq_of_not_isOverlooked {v : Value} (h : ¬ IsOverlooked v) :
    isEmpty v = (v.isMissing || v.isFalsy) := by
  cases v with
  | decimal d =>
    refine (beq_eq_false_iff_ne.2 fun hd => h (.decimal ?_)).symm
    exact d.toRat_eq_zero_iff.2 hd
  | bytes bs =>
    refine (List.isEmpty_eq_false_iff.2 fun hbs => h ?_).symm
    exact hbs ▸ IsOverlooked.bytes
  | float x => exact Bool.or_comm x.isZero x.isNaN
  | _ => rfl

/-- **The values that are taken for empty** are the voids that are recognized. -/
theorem isEmpty_iff {v : Value} : isEmpty v = true ↔ v.IsVoid ∧ ¬ IsOverlooked v := by
  by_cases h : IsOverlooked v
  · refine iff_of_false ?_ fun hvoid => hvoid.2 h
    cases h <;> exact Bool.false_ne_true
  · rw [isEmpty_eq_of_not_isOverlooked h, Bool.or_eq_true, Value.isVoid_iff, and_iff_left h]

/-! ## What is said of a void -/

section NotString

variable {v : Value} (hv : v.isString = false)
include hv

theorem isFileLink_of_not_isString : Shape.isFileLink v = false := by
  cases v with
  | string s => cases hv
  | _ => rfl

theorem linkPath?_of_not_isString (working : String) (directory : Option String) :
    linkPath? working directory v = none := by
  cases v with
  | string s => cases hv
  | _ => rfl

theorem find?_of_not_isString (c : Collection) (type : String) : c.find? type v = none := by
  cases v with
  | string s => cases hv
  | _ => rfl

/-- **Only a text leads anywhere**, for nothing else is an identifier or a path. -/
theorem resolveValue_of_not_isString (working : String) (context : Context) (n : Node)
    (field : String) :
    resolveValue working context n field v
      = ⟨.unresolved, linkedType? context.config n field, none⟩ := by
  have htyped (target : Option String) :
      (target.bind fun t => context.nodes.find? t v) = none :=
    Option.bind_eq_none_iff.2 fun t _ => find?_of_not_isString hv _ t
  unfold resolveValue resolveTyped resolvePath
  simp only [isFileLink_of_not_isString hv, linkPath?_of_not_isString hv, htyped,
    Bool.false_eq_true, if_false]
  split <;> rfl

end NotString

variable {working : String} {context : Context} {n : Node} {field : String}

/-- Only a value that is taken for empty is no reference at all. -/
theorem outcome_eq_empty_iff :
    (resolve working context n field).outcome = .empty ↔ isEmpty (n.get field) = true := by
  cases hv : isEmpty (n.get field) with
  | true =>
    rw [resolve, hv]
    exact iff_of_true rfl rfl
  | false =>
    rw [outcome_resolve working context hv]
    exact iff_of_false firstOutcome_ne_empty Bool.false_ne_true

/-- **A reference is silent if and only if it is none**: every other one leads to a
node or is reported. -/
theorem follow_eq_silence_iff :
    follow working context n field = (none, [])
      ↔ (resolve working context n field).outcome = .empty := by
  show ((resolve working context n field).outcome.node?,
    logOf n field (resolve working context n field)) = (none, []) ↔ _
  unfold logOf
  cases (resolve working context n field).outcome <;> simp [Outcome.node?]

/-- **A reference is silent if and only if its value is a void that is recognized**,
whatever the nodes, the configuration, the node and the field, and wherever the program
works: then its outcome is that there is no value, no node is found and nothing is
logged, and so for no other value. A void that is not recognized leads nowhere and is
reported. -/
theorem silent_unless_overlooked (working : String) (context : Context) (n : Node)
    (field : String) :
    let v := n.get field
    ((resolve working context n field).outcome = .empty ↔ v.IsVoid ∧ ¬ IsOverlooked v)
      ∧ (follow working context n field = (none, []) ↔ v.IsVoid ∧ ¬ IsOverlooked v)
      ∧ (IsOverlooked v →
        (resolve working context n field).outcome = .unresolved
          ∧ follow working context n field
            = (none, [⟨.error,
                unresolvedMessage n field (linkedType? context.config n field)⟩])) := by
  intro v
  have houtcome :
      (resolve working context n field).outcome = .empty ↔ v.IsVoid ∧ ¬ IsOverlooked v :=
    outcome_eq_empty_iff.trans isEmpty_iff
  refine ⟨houtcome, follow_eq_silence_iff.trans houtcome, fun h => ?_⟩
  have hempty : isEmpty v = false := Bool.eq_false_iff.2 fun hv => (isEmpty_iff.1 hv).2 h
  have hresolve : resolve working context n field
      = ⟨.unresolved, linkedType? context.config n field, none⟩ := by
    rw [resolve, hempty]
    exact resolveValue_of_not_isString h.isString_eq_false working context n field
  rw [follow, hresolve]
  exact ⟨rfl, rfl⟩

/-- A book that is given away, with a cover that has not been uploaded. -/
def givenAway : Node :=
  .ofFields "essays" "Book"
    [(.string "price", .decimal ⟨false, 0, -2⟩), (.string "cover", .bytes [])]

/-- Neither the price nor the cover refers to anything, and both are reported. -/
theorem givenAway_reported :
    let context : Context := ⟨.ofNodes [givenAway], .empty⟩
    ((givenAway.get "price").IsVoid ∧ (resolve "/" context givenAway "price").outcome ≠ .empty
        ∧ follow "/" context givenAway "price" = (none, [⟨.error,
          "Unable to load the linked node for field 'price' of node essays (Book)"⟩]))
      ∧ (givenAway.get "cover").IsVoid ∧ (resolve "/" context givenAway "cover").outcome ≠ .empty
        ∧ follow "/" context givenAway "cover" = (none, [⟨.error,
          "Unable to load the linked node for field 'cover' of node essays (Book)"⟩]) := by
  intro context
  have hprice : IsOverlooked (givenAway.get "price") := .decimal (by decide +kernel)
  have hcover : IsOverlooked (givenAway.get "cover") := .bytes
  obtain ⟨hprices, -, hpriced⟩ := silent_unless_overlooked "/" context givenAway "price"
  obtain ⟨hcovers, -, hcovered⟩ := silent_unless_overlooked "/" context givenAway "cover"
  refine ⟨⟨hprice.isVoid, fun h => (hprices.1 h).2 hprice, (hpriced hprice).2.trans ?_⟩,
    hcover.isVoid, fun h => (hcovers.1 h).2 hcover, (hcovered hcover).2.trans ?_⟩
  · decide +kernel
  · decide +kernel

end Reference

end ContentGraph
