import Reparse.Proofs.Binary64.Rounding

namespace Reparse

namespace Binary64

theorem code_ofCode {code : Nat} (bounded : code < signSize) (negative : Bool) :
    (ofCode negative code).code = code := by
  have sign : signSize = 2 ^ 63 := by decide
  rw [sign] at bounded
  cases negative with
  | false =>
      simp only [Binary64.code, ofCode, UInt64.toNat_ofNat', sign, Bool.false_eq_true, if_false]
      omega
  | true =>
      simp only [Binary64.code, ofCode, UInt64.toNat_ofNat', sign, if_true]
      omega

theorem isFinite_ofCode {code : Nat} (finite : code < infinityCode) (negative : Bool) :
    (ofCode negative code).isFinite = true :=
  decide_eq_true (by rwa [code_ofCode (Nat.lt_trans finite (by decide))])

theorem le_roundHalfEven (numerator denominator : Nat) :
    numerator / denominator ≤ roundHalfEven numerator denominator := by
  simp only [roundHalfEven]
  split
  · exact Nat.le_refl _
  · split
    · exact Nat.le_add_right _ _
    · exact Nat.le_add_right _ _

theorem roundHalfEven_le (numerator denominator : Nat) :
    roundHalfEven numerator denominator ≤ numerator / denominator + 1 := by
  simp only [roundHalfEven]
  split
  · omega
  · split
    · omega
    · omega

theorem nearestCode_le_infinityCode (numerator denominator : Nat) :
    nearestCode numerator denominator ≤ infinityCode := by
  unfold nearestCode
  exact Nat.min_le_left _ _

/-- A quotient with less than `2097` bits before its units has a finite double. -/
theorem nearestCode_lt_infinityCode {numerator denominator power : Nat}
    (bounded : numerator * unitsPerOne / denominator < 2 ^ power) (small : power ≤ 2097) :
    nearestCode numerator denominator < infinityCode := by
  have size : infinityCode = 2047 * 2 ^ 52 ∧ binadeSize = 2 ^ 52 := by decide
  simp only [nearestCode, size.1, size.2]
  generalize numerator * unitsPerOne = units at bounded ⊢
  generalize quotientEq : units / denominator = quotient at bounded ⊢
  -- The quotient loses all but its first fifty-three bits, and rounding adds one at most.
  have bits : quotient.log2 - 52 ≤ 2044 := by
    rcases Nat.eq_zero_or_pos quotient with rfl | positive
    · decide
    · have log := (Nat.log2_lt (Nat.ne_of_gt positive)).2 bounded
      omega
  have rounded : roundHalfEven units (denominator * Nat.pow 2 (quotient.log2 - 52)) ≤ 2 ^ 53 := by
    have kept : units / (denominator * Nat.pow 2 (quotient.log2 - 52)) < 2 ^ 53 := by
      rw [← Nat.div_div_eq_div_mul, quotientEq, Nat.pow_eq,
        Nat.div_lt_iff_lt_mul (Nat.two_pow_pos _), ← Nat.pow_add]
      exact Nat.lt_of_lt_of_le Nat.lt_log2_self (Nat.pow_le_pow_right (by decide) (by omega))
    exact Nat.le_trans (roundHalfEven_le _ _) kept
  have shifted : (quotient.log2 - 52) * 2 ^ 52 ≤ 2044 * 2 ^ 52 := Nat.mul_le_mul_right _ bits
  omega

theorem nearestCode_one_lt_infinityCode {value : Nat} (bounded : value ≤ 2 ^ 64) :
    nearestCode value 1 < infinityCode := by
  obtain ⟨unit, few, units⟩ : ∃ unit, unit ≤ 1074 ∧ unitsPerOne = Nat.pow 2 unit :=
    ⟨1074, Nat.le_refl _, unitsPerOne_eq⟩
  have quotient : value * unitsPerOne / 1 < 2 ^ (65 + unit) := by
    rw [Nat.div_one, units, Nat.pow_add]
    exact Nat.mul_lt_mul_of_pos_right (by omega) (Nat.two_pow_pos unit)
  exact nearestCode_lt_infinityCode quotient (by omega)

theorem scaledOfCode_lt {code : Nat} (finite : code < infinityCode) :
    ∃ power, power ≤ 2098 ∧ scaledOfCode code < 2 ^ power := by
  have size : infinityCode = 2047 * 2 ^ 52 ∧ binadeSize = 2 ^ 52 := by decide
  rw [size.1] at finite
  simp only [scaledOfCode, size.2]
  split
  · next subnormal => exact ⟨52, by decide, subnormal⟩
  · refine ⟨53 + (code / 2 ^ 52 - 1), by omega, ?_⟩
    rw [Nat.pow_add, Nat.pow_eq]
    exact Nat.mul_lt_mul_of_pos_right (by omega) (Nat.two_pow_pos _)

theorem two_le_scaledOfCode_nearestCode {numerator : Nat} (large : 2 ≤ numerator) :
    2 * unitsPerOne ≤ scaledOfCode (nearestCode numerator 1) := by
  have size : infinityCode = 2047 * 2 ^ 52 ∧ binadeSize = 2 ^ 52 := by decide
  obtain ⟨unit, many, few, units⟩ :
      ∃ unit, 1074 ≤ unit ∧ unit ≤ 1074 ∧ unitsPerOne = Nat.pow 2 unit :=
    ⟨1074, Nat.le_refl _, Nat.le_refl _, unitsPerOne_eq⟩
  have code : 1024 * 2 ^ 52 ≤ nearestCode numerator 1 := by
    have nonzero : numerator * unitsPerOne ≠ 0 :=
      Nat.ne_of_gt (Nat.mul_pos (by omega) unitsPerOne_pos)
    have bits : unit + 1 ≤ (numerator * unitsPerOne).log2 := by
      rw [Nat.le_log2 nonzero, units, Nat.pow_eq, Nat.pow_succ, Nat.mul_comm numerator]
      exact Nat.mul_le_mul_left _ large
    simp only [nearestCode, size.1, size.2, Nat.div_one, Nat.one_mul]
    generalize numerator * unitsPerOne = scaled at nonzero bits ⊢
    -- Fifty-three bits are kept, the first of which is a one.
    have kept : 2 ^ 52 ≤ roundHalfEven scaled (Nat.pow 2 (scaled.log2 - 52)) := by
      apply Nat.le_trans _ (le_roundHalfEven _ _)
      rw [Nat.pow_eq, Nat.le_div_iff_mul_le (Nat.two_pow_pos _), ← Nat.pow_add,
        Nat.add_sub_cancel' (by omega)]
      exact Nat.log2_self_le nonzero
    omega
  simp only [scaledOfCode, size.2]
  rw [if_neg (by omega)]
  calc
    2 * unitsPerOne = 2 ^ 52 * 2 ^ (unit - 51) := by
      have power : 52 + (unit - 51) = unit + 1 := by omega
      rw [units, Nat.pow_eq, ← Nat.pow_add, power, Nat.pow_add_one']
    _ ≤ _ := Nat.mul_le_mul (Nat.le_add_right _ _) (Nat.pow_le_pow_right (by decide) (by omega))

theorem divCode_lt_infinityCode {left right : Nat} (finite : left < infinityCode)
    (large : 2 * unitsPerOne ≤ scaledOfCode right) : divCode left right < infinityCode := by
  obtain ⟨power, few, bounded⟩ := scaledOfCode_lt finite
  have positive : 0 < scaledOfCode right := by
    have := unitsPerOne_pos
    omega
  have quotient : scaledOfCode left * unitsPerOne / scaledOfCode right < 2 ^ (power - 1) := by
    rw [Nat.div_lt_iff_lt_mul positive]
    calc
      scaledOfCode left * unitsPerOne < 2 ^ power * unitsPerOne :=
        Nat.mul_lt_mul_of_pos_right bounded unitsPerOne_pos
      _ ≤ 2 ^ (power - 1) * 2 * unitsPerOne := by
        rw [← Nat.pow_succ]
        exact Nat.mul_le_mul_right _ (Nat.pow_le_pow_right (by decide) (by omega))
      _ = 2 ^ (power - 1) * (2 * unitsPerOne) := Nat.mul_assoc _ _ _
      _ ≤ 2 ^ (power - 1) * scaledOfCode right := Nat.mul_le_mul_left _ large
  exact nearestCode_lt_infinityCode quotient (by omega)

end Binary64

end Reparse
