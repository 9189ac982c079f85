import Mathlib.Algebra.Order.Field.Rat
import Reparse.Proofs.Binary64.NumeralText
import Reparse.Proofs.Binary64.Range

namespace Reparse

namespace Binary64

/-- The number that a finite double stands for. -/
def toRat (x : Binary64) : ℚ :=
  (if x.negative then -1 else 1) * (x.scaled / unitsPerOne)

private theorem div_eq_int_iff {units unit : Nat} (positive : 0 < unit) {value : Int} :
    (units : ℚ) / unit = value ↔ units = value.natAbs * unit ∧ 0 ≤ value := by
  have nonzero : (unit : ℚ) ≠ 0 := Nat.cast_ne_zero.2 (Nat.ne_of_gt positive)
  have whole : (units : ℚ) = value * unit ↔ (units : Int) = value * unit := by norm_cast
  rw [div_eq_iff nonzero, whole]
  constructor
  · intro same
    have notNegative : 0 ≤ value := by
      by_contra negative
      have product : value * unit < 0 :=
        Int.mul_neg_of_neg_of_pos (Int.not_le.1 negative) (Int.natCast_pos.2 positive)
      omega
    refine ⟨?_, notNegative⟩
    have magnitude : (value.natAbs : Int) = value := Int.natAbs_of_nonneg notNegative
    rw [← magnitude] at same
    exact_mod_cast same
  · rintro ⟨same, notNegative⟩
    rw [same, Nat.cast_mul, Int.natAbs_of_nonneg notNegative]

theorem toRat_eq_iff {x : Binary64} {value : Int} :
    x.toRat = value ↔
      x.scaled = value.natAbs * unitsPerOne ∧ if x.negative then value ≤ 0 else 0 ≤ value := by
  unfold toRat
  cases x.negative with
  | false =>
      rw [if_neg Bool.false_ne_true, if_neg Bool.false_ne_true, one_mul]
      exact div_eq_int_iff unitsPerOne_pos
  | true =>
      have flipped : -((x.scaled : ℚ) / unitsPerOne) = value ↔
          (x.scaled : ℚ) / unitsPerOne = ((-value : Int) : ℚ) := by
        rw [Int.cast_neg]
        exact neg_eq_iff_eq_neg
      have signed : (x.scaled : ℚ) / unitsPerOne = ((-value : Int) : ℚ) ↔
          x.scaled = (-value).natAbs * unitsPerOne ∧ 0 ≤ -value :=
        div_eq_int_iff unitsPerOne_pos
      rw [Int.natAbs_neg, Int.neg_nonneg] at signed
      rw [if_pos rfl, if_pos rfl, neg_one_mul, flipped]
      exact signed

theorem smallInteger?_eq_some_iff {x : Binary64} {value : Int} :
    x.smallInteger? = some value ↔
      x.isFinite = true ∧ x.toRat = value ∧ value.natAbs < 2 ^ 53 := by
  have size : 2 * binadeSize = 2 ^ 53 := by decide
  rw [toRat_eq_iff, smallInteger?, size]
  constructor
  · intro small
    split at small
    · next conditions =>
        simp only [Bool.and_eq_true, beq_iff_eq, decide_eq_true_eq] at conditions
        obtain ⟨⟨finite, whole⟩, bounded⟩ := conditions
        have scaled := Nat.div_mul_cancel (Nat.dvd_of_mod_eq_zero whole)
        generalize x.scaled / unitsPerOne = magnitude at small bounded scaled
        cases small
        cases x.negative with
        | false =>
            simp only [Bool.false_eq_true, if_false, Int.natAbs_natCast]
            exact ⟨finite, ⟨scaled.symm, Int.natCast_nonneg _⟩, bounded⟩
        | true =>
            simp only [if_true, Int.natAbs_neg, Int.natAbs_natCast]
            exact ⟨finite, ⟨scaled.symm, by omega⟩, bounded⟩
    · cases small
  · rintro ⟨finite, ⟨scaled, sign⟩, bounded⟩
    have magnitude : x.scaled / unitsPerOne = value.natAbs := by
      rw [scaled, Nat.mul_div_cancel _ unitsPerOne_pos]
    have whole : x.scaled % unitsPerOne = 0 := by
      rw [scaled, Nat.mul_mod_left]
    simp only [finite, whole, magnitude, decide_eq_true bounded, BEq.rfl, Bool.and_self, if_true]
    cases negative : x.negative with
    | false =>
        simp only [negative, Bool.false_eq_true, if_false] at sign ⊢
        rw [Int.natAbs_of_nonneg sign]
    | true =>
        simp only [negative, if_true] at sign ⊢
        rw [Int.ofNat_natAbs_of_nonpos sign, Int.neg_neg]

theorem code_of_isFinite {x : Binary64} (finite : x.isFinite = true) : x.code < infinityCode :=
  of_decide_eq_true finite

theorem notNaN_of_isFinite {x : Binary64} (finite : x.isFinite = true) : x.isNaN = false := by
  have bounded := code_of_isFinite finite
  simp only [isNaN, decide_eq_false_iff_not]
  omega

theorem equal_self {x : Binary64} (finite : x.isFinite = true) : x.equal x = true := by
  simp [equal, notNaN_of_isFinite finite]

theorem eq_zero_of_isZero {x : Binary64} {value : Int} (zero : x.isZero = true)
    (number : x.toRat = value) : value = 0 := by
  have none : x.code = 0 := of_decide_eq_true zero
  have scaled : x.scaled = 0 := by
    rw [Binary64.scaled, none]
    rfl
  have magnitude : value.natAbs * unitsPerOne = 0 := (toRat_eq_iff.1 number).1.symm.trans scaled
  exact Int.natAbs_eq_zero.1
    ((Nat.mul_eq_zero.1 magnitude).resolve_right (Nat.ne_of_gt unitsPerOne_pos))

/-- The double of a small integer is the one that it was taken from, unless that is a zero. -/
theorem ofInt_of_smallInteger? {x : Binary64} {value : Int} (small : x.smallInteger? = some value) :
    ofInt value = if x.isZero then ofCode false 0 else x := by
  obtain ⟨finite, number, -⟩ := smallInteger?_eq_some_iff.1 small
  obtain ⟨scaled, sign⟩ := toRat_eq_iff.1 number
  have code : nearestCode value.natAbs 1 = x.code :=
    calc
      nearestCode value.natAbs 1 = nearestCode (value.natAbs * unitsPerOne) (1 * unitsPerOne) :=
        (nearestCode_mul_right _ _ unitsPerOne_pos).symm
      _ = nearestCode (scaledOfCode x.code) unitsPerOne := by
        rw [Nat.one_mul, ← scaled, Binary64.scaled]
      _ = x.code := nearestCode_scaledOfCode (code_of_isFinite finite)
  rw [ofInt, code]
  split
  · next zero =>
      have none : x.code = 0 := of_decide_eq_true zero
      rw [eq_zero_of_isZero zero number, none]
      rfl
  · next nonzero =>
      have positive : 0 < x.code := by
        simp only [isZero, decide_eq_true_eq] at nonzero
        omega
      have magnitude : value.natAbs ≠ 0 := by
        intro zero
        rw [zero, Nat.zero_mul] at scaled
        exact Nat.ne_of_gt (Decimal.scaledOfCode_pos positive) scaled
      have negative : decide (value < 0) = x.negative := by
        cases shown : x.negative with
        | false =>
            simp only [shown, Bool.false_eq_true, if_false] at sign
            exact decide_eq_false (by omega)
        | true =>
            simp only [shown, if_true] at sign
            exact decide_eq_true (by omega)
      rw [negative, ofCode_code]

theorem equal_ofInt {x : Binary64} {value : Int} (small : x.smallInteger? = some value) :
    (ofInt value).equal x = true := by
  have finite := (smallInteger?_eq_some_iff.1 small).1
  rw [ofInt_of_smallInteger? small]
  split
  · next zero =>
      have unsigned : (ofCode false 0).isNaN = false ∧ (ofCode false 0).isZero = true := by decide
      simp [equal, notNaN_of_isFinite finite, unsigned, zero]
  · exact equal_self finite

theorem representative_ofInt {x : Binary64} {value : Int} (small : x.smallInteger? = some value) :
    (ofInt value).representative = x.representative := by
  have finite := (smallInteger?_eq_some_iff.1 small).1
  rw [ofInt_of_smallInteger? small]
  split
  · next zero =>
      have origin : (ofCode false 0).representative = ofCode false 0 := by decide
      rw [origin, representative, notNaN_of_isFinite finite, zero]
      rfl
  · rfl

theorem smallInteger?_ofInt {x : Binary64} {value : Int} (small : x.smallInteger? = some value) :
    (ofInt value).smallInteger? = some value := by
  rw [ofInt_of_smallInteger? small]
  split
  · next zero =>
      have origin : (ofCode false 0).smallInteger? = some 0 := by decide +kernel
      rw [origin, eq_zero_of_isZero zero (smallInteger?_eq_some_iff.1 small).2.1]
  · exact small

theorem isFinite_ofInt {value : Int} (bounded : value.natAbs ≤ 2 ^ 64) :
    (ofInt value).isFinite = true :=
  isFinite_ofCode (nearestCode_one_lt_infinityCode bounded) _

end Binary64

end Reparse
