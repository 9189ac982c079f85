import Reparse.Binary64.Shortest
import Reparse.Proofs.Binary64.Rounding

namespace Reparse

namespace Decimal

open Binary64

def IsTrimmed (decimal : Decimal) : Prop :=
  decimal.digits % 10 ≠ 0

theorem IsTrimmed.digits_ne_zero {decimal : Decimal} (trim : decimal.IsTrimmed) :
    decimal.digits ≠ 0 := by
  intro zero
  exact trim (by rw [zero])

theorem trimmed_isTrimmed {digits : Nat} (nonzero : digits ≠ 0) (exponent : Int) :
    (trimmed digits exponent).IsTrimmed := by
  fun_induction trimmed digits exponent with
  | case1 digits exponent ends induction => exact induction (by omega)
  | case2 digits exponent ends =>
      intro zero
      exact ends ⟨Nat.pos_of_ne_zero nonzero, zero⟩

theorem trimmed_mul_ten {digits : Nat} (nonzero : digits ≠ 0) (exponent : Int) :
    trimmed (digits * 10) exponent = trimmed digits (exponent + 1) := by
  rw [trimmed, if_pos ⟨by omega, by omega⟩, Nat.mul_div_cancel _ (by decide)]

theorem trimmed_mul_pow {digits : Nat} (nonzero : digits ≠ 0) (power : Nat) (exponent : Int) :
    trimmed (digits * 10 ^ power) exponent = trimmed digits (exponent + power) := by
  induction power generalizing exponent with
  | zero => simp
  | succ power induction =>
      have positive : digits * 10 ^ power ≠ 0 :=
        Nat.ne_of_gt (Nat.mul_pos (Nat.pos_of_ne_zero nonzero) (Nat.pow_pos (by decide)))
      rw [Nat.pow_succ, ← Nat.mul_assoc, trimmed_mul_ten positive, induction]
      congr 1
      omega

theorem IsTrimmed.trimmed_eq {decimal : Decimal} (trim : decimal.IsTrimmed) :
    trimmed decimal.digits decimal.exponent = decimal := by
  rw [trimmed, if_neg fun ends => trim ends.2]

theorem nearestDecimalCode_trimmed (digits : Nat) (exponent : Int) :
    nearestDecimalCode (trimmed digits exponent).digits (trimmed digits exponent).exponent =
      nearestDecimalCode digits exponent := by
  fun_induction trimmed digits exponent with
  | case1 digits exponent ends induction =>
      rw [induction, ← nearestDecimalCode_mul_ten (by omega),
        Nat.div_mul_cancel (Nat.dvd_of_mod_eq_zero ends.2)]
  | case2 => rfl

theorem scaledOfCode_pos {code : Nat} (positive : 0 < code) : 0 < scaledOfCode code := by
  unfold scaledOfCode
  split
  · exact positive
  · exact Nat.mul_pos (Nat.lt_of_lt_of_le (by decide) (Nat.le_add_right _ _))
      (Nat.two_pow_pos _)

private theorem hundred_pow_le (power : Nat) : 10 ^ (2 * power) ≤ 5 ^ (3 * power) := by
  rw [Nat.pow_mul, Nat.pow_mul]
  exact Nat.pow_le_pow_left (by decide) power

-- The power stays a variable, so that nothing computes it.
private theorem exactly_parts (code : Nat) :
    ∃ power third, power = 3 * third ∧ 0 < third ∧ third ≤ 400 ∧ unitsPerOne = Nat.pow 2 power ∧
      exactly code = ⟨scaledOfCode code * Nat.pow 5 power, -(power : Int)⟩ := by
  refine ⟨1074, 358, rfl, by decide, by decide, unitsPerOne_eq, ?_⟩
  unfold exactly
  exact Eq.refl _

theorem readsBack_exactly {code : Nat} (positive : 0 < code) (finite : code < infinityCode) :
    (exactly code).readsBack code = true := by
  obtain ⟨total, third, parted, large, small, units, parts⟩ := exactly_parts code
  obtain ⟨power, rfl⟩ : ∃ power, total = power + 1 := ⟨total - 1, by omega⟩
  have grown : 10 ^ (2 * third) ≤ scaledOfCode code * 5 ^ (power + 1) :=
    calc
      10 ^ (2 * third) ≤ 5 ^ (power + 1) := parted ▸ hundred_pow_le third
      _ ≤ scaledOfCode code * 5 ^ (power + 1) :=
        Nat.le_mul_of_pos_left _ (scaledOfCode_pos positive)
  have nonzero : scaledOfCode code * 5 ^ (power + 1) ≠ 0 :=
    Nat.ne_of_gt (Nat.lt_of_lt_of_le (Nat.pow_pos (by decide)) grown)
  have count : ¬digitCount (scaledOfCode code * 5 ^ (power + 1)) ≤ 2 * third := by
    rw [digitCount, Nat.length_toDigits_le_iff (by decide) (by omega)]
    exact Nat.not_lt_of_le grown
  have ten : 10 ^ (power + 1) = unitsPerOne * 5 ^ (power + 1) := by
    rw [units, Nat.pow_eq, ← Nat.mul_pow]
  rw [readsBack, parts, beq_iff_eq]
  calc
    nearestDecimalCode (scaledOfCode code * 5 ^ (power + 1)) (.negSucc power) =
        nearestCode (scaledOfCode code * 5 ^ (power + 1)) (10 ^ (power + 1)) :=
      nearestDecimalCode_negSucc nonzero (by omega)
    _ = nearestCode (scaledOfCode code) unitsPerOne := by
      rw [ten, nearestCode_mul_right _ _ (Nat.pow_pos (by decide))]
    _ = code := nearestCode_scaledOfCode finite

theorem readsBack_of_onGrid? {tie : Tie} {code : Nat} {exponent : Int} {decimal : Decimal}
    (found : onGrid? tie code exponent = some decimal) : decimal.readsBack code = true := by
  simp only [onGrid?] at found
  split at found
  · next below _ =>
      cases found
      exact below
  · next _ above =>
      cases found
      exact above
  · contradiction
  · next below above =>
      split at found
      · cases found
        exact below
      · split at found
        · cases found
          exact above
        · cases tie with
          | up =>
              cases found
              exact above
          | even =>
              cases found
              split
              · exact below
              · exact above

theorem readsBack_search (tie : Tie) {code : Nat} (positive : 0 < code)
    (finite : code < infinityCode) (tries : Nat) (exponent : Int) :
    (search tie code tries exponent).readsBack code = true := by
  induction tries generalizing exponent with
  | zero => exact readsBack_exactly positive finite
  | succ tries induction =>
      simp only [search]
      split
      · next decimal found => exact readsBack_of_onGrid? found
      · exact induction _

/-- The shortest decimal of a finite code that is not zero reads back. -/
theorem nearestDecimalCode_shortest (tie : Tie) {code : Nat} (positive : 0 < code)
    (finite : code < infinityCode) :
    nearestDecimalCode (shortest tie code).digits (shortest tie code).exponent = code := by
  have found := readsBack_search tie positive finite 17 (pointOf code - 1)
  rw [readsBack, beq_iff_eq] at found
  exact (nearestDecimalCode_trimmed _ _).trans found

theorem shortest_isTrimmed (tie : Tie) {code : Nat} (positive : 0 < code)
    (finite : code < infinityCode) : (shortest tie code).IsTrimmed := by
  refine trimmed_isTrimmed ?_ _
  intro zero
  have found := readsBack_search tie positive finite 17 (pointOf code - 1)
  rw [readsBack, beq_iff_eq, zero] at found
  exact Nat.ne_of_gt positive found.symm

end Decimal

end Reparse
