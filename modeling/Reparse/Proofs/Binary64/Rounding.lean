import Mathlib.Algebra.Ring.Nat
import Reparse.Binary64.Nearest

/-!
Laws of rounding to a double.

Rounding depends on the value of a quotient alone, a finite magnitude is its own rounding, and a
decimal may trade a zero at its end for a larger exponent.
-/

namespace Reparse

theorem roundHalfEven_mul_right (numerator denominator : Nat) {factor : Nat}
    (positive : 0 < factor) :
    roundHalfEven (numerator * factor) (denominator * factor) =
      roundHalfEven numerator denominator := by
  have double :
      2 * (numerator % denominator * factor) = 2 * (numerator % denominator) * factor := by
    rw [Nat.mul_assoc]
  simp only [roundHalfEven, Nat.mul_div_mul_right _ _ positive, Nat.mul_mod_mul_right, double,
    Nat.mul_lt_mul_right positive]

namespace Binary64

theorem unitsPerOne_eq : unitsPerOne = Nat.pow 2 1074 := by
  unfold unitsPerOne
  exact Eq.refl _

theorem unitsPerOne_pos : 0 < unitsPerOne := by
  obtain ⟨power, units⟩ : ∃ power, unitsPerOne = Nat.pow 2 power := ⟨_, unitsPerOne_eq⟩
  rw [units]
  exact Nat.two_pow_pos power

theorem nearestCode_mul_right (numerator denominator : Nat) {factor : Nat}
    (positive : 0 < factor) :
    nearestCode (numerator * factor) (denominator * factor) =
      nearestCode numerator denominator := by
  have units : numerator * factor * unitsPerOne = numerator * unitsPerOne * factor :=
    Nat.mul_right_comm _ _ _
  have step (power : Nat) :
      denominator * factor * Nat.pow 2 power = denominator * Nat.pow 2 power * factor :=
    Nat.mul_right_comm _ _ _
  simp only [nearestCode, units, step, Nat.mul_div_mul_right _ _ positive,
    roundHalfEven_mul_right _ _ positive]

private theorem log2_normal {significand : Nat} (power : Nat) (low : binadeSize ≤ significand)
    (high : significand < 2 * binadeSize) :
    (significand * 2 ^ power).log2 = 52 + power := by
  have size : binadeSize = 2 ^ 52 := by decide
  have positive : 0 < 2 ^ power := Nat.two_pow_pos power
  have nonzero : significand * 2 ^ power ≠ 0 :=
    Nat.ne_of_gt (Nat.mul_pos (by omega) positive)
  refine (Nat.log2_eq_iff nonzero).2 ⟨?_, ?_⟩
  · rw [Nat.pow_add, ← size]
    exact Nat.mul_le_mul_right _ low
  · rw [show 52 + power + 1 = 1 + 52 + power by omega, Nat.pow_add, Nat.pow_add, ← size]
    exact Nat.mul_lt_mul_of_pos_right high positive

theorem nearestCode_scaledOfCode {code : Nat} (finite : code < infinityCode) :
    nearestCode (scaledOfCode code) unitsPerOne = code := by
  have size : binadeSize = 2 ^ 52 := by decide
  simp only [nearestCode, Nat.mul_div_cancel _ unitsPerOne_pos, scaledOfCode]
  split
  · next subnormal =>
      have shift : code.log2 - 52 = 0 := by
        rcases Nat.eq_zero_or_pos code with rfl | positive
        · rfl
        · have := (Nat.log2_lt (Nat.ne_of_gt positive)).2 (size ▸ subnormal)
          omega
      simp only [shift, Nat.zero_mul, Nat.zero_add, Nat.pow_eq, Nat.pow_zero, Nat.mul_one,
        roundHalfEven_of_dvd _ unitsPerOne_pos]
      omega
  · next normal =>
      have fraction : code % binadeSize < binadeSize := Nat.mod_lt _ (by decide)
      have exponent : 1 ≤ code / binadeSize := by
        rw [Nat.le_div_iff_mul_le (by decide)]
        omega
      have parts := Nat.mod_add_div code binadeSize
      obtain ⟨power, biased⟩ : ∃ power, code / binadeSize = power + 1 :=
        ⟨code / binadeSize - 1, by omega⟩
      rw [biased] at parts ⊢
      simp only [Nat.add_sub_cancel, Nat.pow_eq]
      rw [log2_normal power (by omega) (by omega)]
      rw [Nat.add_sub_cancel_left, Nat.mul_assoc, Nat.mul_comm (2 ^ power),
        roundHalfEven_of_dvd _ (Nat.mul_pos unitsPerOne_pos (Nat.two_pow_pos power))]
      have carried : power * binadeSize + (binadeSize + code % binadeSize) = code := by
        rw [← Nat.add_assoc, ← Nat.succ_mul, Nat.mul_comm, Nat.add_comm]
        exact parts
      rw [carried]
      omega

private theorem two_pow_le_ten_pow (power : Nat) : 2 ^ (3 * power) ≤ 10 ^ power := by
  rw [Nat.pow_mul]
  exact Nat.pow_le_pow_left (by decide) power

/-- From `10 ^ 400` on everything rounds to infinity. -/
theorem nearestCode_of_large {numerator power : Nat} (high : 400 ≤ power)
    (large : 10 ^ power ≤ numerator) : nearestCode numerator 1 = infinityCode := by
  obtain ⟨unit, many, units⟩ : ∃ unit, 1074 ≤ unit ∧ unitsPerOne = Nat.pow 2 unit :=
    ⟨1074, Nat.le_refl _, unitsPerOne_eq⟩
  have bits : 2 ^ (3 * power + unit) ≤ numerator * unitsPerOne := by
    rw [Nat.pow_add, units, Nat.pow_eq]
    exact Nat.mul_le_mul_right _ (Nat.le_trans (two_pow_le_ten_pow power) large)
  have nonzero : numerator * unitsPerOne ≠ 0 :=
    Nat.ne_of_gt (Nat.lt_of_lt_of_le (Nat.two_pow_pos _) bits)
  have log := (Nat.le_log2 nonzero).2 bits
  have beyond : infinityCode ≤ ((numerator * unitsPerOne).log2 - 52) * binadeSize :=
    Nat.mul_le_mul_right _ (by omega)
  simp only [nearestCode, Nat.div_one]
  exact Nat.min_eq_left (Nat.le_trans beyond (Nat.le_add_right _ _))

theorem nearestDecimalCode_ofNat {digits power : Nat} (nonzero : digits ≠ 0)
    (small : power ≤ 400) :
    nearestDecimalCode digits (power : Int) = nearestCode (digits * 10 ^ power) 1 := by
  have high : ¬400 < (power : Int) := by omega
  have low : ¬(power : Int) + digitCount digits < -400 := by omega
  simp only [nearestDecimalCode, if_neg nonzero, if_neg high, if_neg low]
  rfl

theorem nearestDecimalCode_negSucc {digits power : Nat} (nonzero : digits ≠ 0)
    (near : -400 ≤ Int.negSucc power + digitCount digits) :
    nearestDecimalCode digits (.negSucc power) = nearestCode digits (10 ^ (power + 1)) := by
  have high : ¬400 < Int.negSucc power := by omega
  have low : ¬Int.negSucc power + digitCount digits < -400 := by omega
  simp only [nearestDecimalCode, if_neg nonzero, if_neg high, if_neg low]
  rfl

theorem nearestDecimalCode_of_high {digits : Nat} {exponent : Int} (nonzero : digits ≠ 0)
    (high : 400 < exponent) : nearestDecimalCode digits exponent = infinityCode := by
  simp only [nearestDecimalCode, if_neg nonzero, if_pos high]

theorem nearestDecimalCode_of_low {digits : Nat} {exponent : Int}
    (low : exponent + digitCount digits < -400) : nearestDecimalCode digits exponent = 0 := by
  have notHigh : ¬400 < exponent := by omega
  simp only [nearestDecimalCode, if_neg notHigh, if_pos low, ite_self]

theorem digitCount_mul_ten {digits : Nat} (nonzero : digits ≠ 0) :
    digitCount (digits * 10) = digitCount digits + 1 := by
  simp only [digitCount]
  rw [Nat.toDigits_of_base_le (by decide) (by omega)]
  simp

/-- A zero at the end of the digits is as good as one more in the exponent. -/
theorem nearestDecimalCode_mul_ten {digits : Nat} (nonzero : digits ≠ 0) (exponent : Int) :
    nearestDecimalCode (digits * 10) exponent = nearestDecimalCode digits (exponent + 1) := by
  have scaled : digits * 10 ≠ 0 := by omega
  have count := digitCount_mul_ten nonzero
  cases exponent with
  | ofNat power =>
      have product : digits * 10 * 10 ^ power = digits * 10 ^ (power + 1) := by
        rw [Nat.pow_succ, Nat.mul_assoc, Nat.mul_comm 10]
      rw [Int.ofNat_eq_natCast]
      rcases Nat.lt_trichotomy power 400 with small | edge | large
      · have next : (power : Int) + 1 = ((power + 1 : Nat) : Int) := rfl
        rw [next, nearestDecimalCode_ofNat nonzero small, ← product]
        exact nearestDecimalCode_ofNat scaled (Nat.le_of_lt small)
      · -- The guard already answers on the right; on the left the product is computed.
        rw [nearestDecimalCode_of_high nonzero (by omega)]
        refine (nearestDecimalCode_ofNat scaled (Nat.le_of_eq edge)).trans ?_
        refine nearestCode_of_large (Nat.le_of_eq edge.symm) ?_
        exact Nat.le_mul_of_pos_left _ (Nat.pos_of_ne_zero scaled)
      · rw [nearestDecimalCode_of_high nonzero (by omega),
          nearestDecimalCode_of_high scaled (by omega)]
  | negSucc power =>
      by_cases low : Int.negSucc power + 1 + digitCount digits < -400
      · rw [nearestDecimalCode_of_low low, nearestDecimalCode_of_low (by omega)]
      · rw [nearestDecimalCode_negSucc scaled (by omega), Nat.pow_succ,
          nearestCode_mul_right _ _ (by decide)]
        cases power with
        | zero =>
            have next : Int.negSucc 0 + 1 = ((0 : Nat) : Int) := rfl
            rw [next, nearestDecimalCode_ofNat nonzero (by decide), Nat.pow_zero, Nat.mul_one]
        | succ power =>
            have next : Int.negSucc (power + 1) + 1 = Int.negSucc power := rfl
            rw [next] at low ⊢
            rw [nearestDecimalCode_negSucc nonzero (by omega)]

end Binary64

end Reparse
