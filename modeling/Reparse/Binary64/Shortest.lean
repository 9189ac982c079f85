import Reparse.Binary64.Nearest

/-!
The shortest decimal that reads back.

For one digit, two digits and so on, the two neighbours of the value on that decimal grid are read
back; the first grid on which one of them gives the same double wins, and of two hits the nearer
one.  The exact value, which every double has, stands behind the search.
-/

namespace Reparse

structure Decimal where
  digits : Nat
  exponent : Int
deriving DecidableEq

/-- Which way a value halfway between two decimals of the shortest length goes. -/
inductive Tie where
  | up
  | even
deriving DecidableEq

namespace Decimal

def trimmed (digits : Nat) (exponent : Int) : Decimal :=
  if 0 < digits ∧ digits % 10 = 0 then
    trimmed (digits / 10) (exponent + 1)
  else
    ⟨digits, exponent⟩
termination_by digits
decreasing_by omega

def readsBack (code : Nat) (decimal : Decimal) : Bool :=
  Binary64.nearestDecimalCode decimal.digits decimal.exponent == code

def gridQuotient (code : Nat) (exponent : Int) : Nat × Nat :=
  match exponent with
  | .ofNat power => (Binary64.scaledOfCode code, Binary64.unitsPerOne * Nat.pow 10 power)
  | .negSucc power => (Binary64.scaledOfCode code * Nat.pow 10 (power + 1), Binary64.unitsPerOne)

/-- The neighbour of a magnitude on a decimal grid that reads back, the nearer one of two. -/
def onGrid? (tie : Tie) (code : Nat) (exponent : Int) : Option Decimal :=
  let (numerator, denominator) := gridQuotient code exponent
  let lower : Decimal := ⟨numerator / denominator, exponent⟩
  let upper : Decimal := ⟨numerator / denominator + 1, exponent⟩
  let remainder := numerator % denominator
  match lower.readsBack code, upper.readsBack code with
  | true, false => some lower
  | false, true => some upper
  | false, false => none
  | true, true =>
      if 2 * remainder < denominator then
        some lower
      else if denominator < 2 * remainder then
        some upper
      else
        match tie with
        | .up => some upper
        | .even => some (if lower.digits % 2 = 0 then lower else upper)

def pointOf (code : Nat) : Int :=
  (digitCount (Binary64.scaledOfCode code * Nat.pow 10 400 / Binary64.unitsPerOne) : Int) - 400

def exactly (code : Nat) : Decimal :=
  ⟨Binary64.scaledOfCode code * Nat.pow 5 1074, -1074⟩

def search (tie : Tie) (code : Nat) : (tries : Nat) → (exponent : Int) → Decimal
  | 0, _ => exactly code
  | tries + 1, exponent =>
      match onGrid? tie code exponent with
      | some decimal => decimal
      | none => search tie code tries (exponent - 1)

/-- The decimal with fewest digits that reads back as a positive finite code. -/
def shortest (tie : Tie) (code : Nat) : Decimal :=
  let found := search tie code 17 (pointOf code - 1)
  trimmed found.digits found.exponent

end Decimal

end Reparse
