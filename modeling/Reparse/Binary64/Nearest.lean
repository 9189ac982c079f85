import Reparse.Binary64.Basic

/-!
Rounding to the nearest double, ties to the even code.

`nearestCode` rounds a quotient of naturals; decimals, products and quotients of doubles are all
rounded through it.
-/

namespace Reparse

def roundHalfEven (numerator denominator : Nat) : Nat :=
  let quotient := numerator / denominator
  let remainder := numerator % denominator
  if 2 * remainder < denominator then
    quotient
  else if denominator < 2 * remainder then
    quotient + 1
  else
    quotient + quotient % 2

theorem roundHalfEven_of_dvd (factor : Nat) {denominator : Nat} (positive : 0 < denominator) :
    roundHalfEven (factor * denominator) denominator = factor := by
  simp [roundHalfEven, Nat.mul_div_cancel _ positive, positive]

def digitCount (n : Nat) : Nat :=
  (Nat.toDigits 10 n).length

namespace Binary64

/--
The code nearest to `numerator / denominator`.  The quotient is cut to fifty-three bits, or to
whole units of `2 ^ -1074` below the normal range.  A significand that rounds up to `2 ^ 53` carries
into the exponent by itself, because the two parts of a code are added.
-/
def nearestCode (numerator denominator : Nat) : Nat :=
  let units := numerator * unitsPerOne
  let shift := (units / denominator).log2 - 52
  min infinityCode (shift * binadeSize + roundHalfEven units (denominator * Nat.pow 2 shift))

/--
The code nearest to `digits * 10 ^ exponent`.  Exponents far outside the range of doubles are
answered without computing the power.
-/
def nearestDecimalCode (digits : Nat) (exponent : Int) : Nat :=
  if digits = 0 then
    0
  else if 400 < exponent then
    infinityCode
  else if exponent + digitCount digits < -400 then
    0
  else
    match exponent with
    | .ofNat power => nearestCode (digits * Nat.pow 10 power) 1
    | .negSucc power => nearestCode digits (Nat.pow 10 (power + 1))

def mulCode (left right : Nat) : Nat :=
  nearestCode (scaledOfCode left * scaledOfCode right) (unitsPerOne * unitsPerOne)

def divCode (left right : Nat) : Nat :=
  nearestCode (scaledOfCode left) (scaledOfCode right)

def ofNat (n : Nat) : Binary64 :=
  ofCode false (nearestCode n 1)

def ofInt (i : Int) : Binary64 :=
  ofCode (decide (i < 0)) (nearestCode i.natAbs 1)

def ofDecimal (digits : Nat) (exponent : Int) : Binary64 :=
  ofCode false (nearestDecimalCode digits exponent)

end Binary64

end Reparse
