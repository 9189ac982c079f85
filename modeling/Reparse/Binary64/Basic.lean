/-!
Double-precision numbers as sixty-four bits.

The magnitude of a finite number is `scaled / 2 ^ 1074` with `scaled` a natural number, so every
computation on magnitudes is exact arithmetic on naturals.
-/

namespace Reparse

/-- A double-precision number, kept as the bits of its interchange format. -/
structure Binary64 where
  bits : UInt64
deriving DecidableEq, Inhabited

namespace Binary64

def signSize : Nat :=
  0x8000000000000000

def binadeSize : Nat :=
  0x10000000000000

def unitsPerOne : Nat :=
  Nat.pow 2 1074

def negative (x : Binary64) : Bool :=
  decide (signSize ≤ x.bits.toNat)

/-- The bits below the sign.  Codes order magnitudes: the larger code is the larger magnitude. -/
def code (x : Binary64) : Nat :=
  x.bits.toNat % signSize

def infinityCode : Nat :=
  2047 * binadeSize

def isFinite (x : Binary64) : Bool :=
  decide (x.code < infinityCode)

def isInfinite (x : Binary64) : Bool :=
  decide (x.code = infinityCode)

def isNaN (x : Binary64) : Bool :=
  decide (infinityCode < x.code)

def isZero (x : Binary64) : Bool :=
  decide (x.code = 0)

def ofCode (negative : Bool) (code : Nat) : Binary64 :=
  ⟨UInt64.ofNat (code + if negative then signSize else 0)⟩

/-- The magnitude that a finite code stands for, in units of `2 ^ -1074`. -/
def scaledOfCode (code : Nat) : Nat :=
  if code < binadeSize then
    code
  else
    (binadeSize + code % binadeSize) * Nat.pow 2 (code / binadeSize - 1)

def scaled (x : Binary64) : Nat :=
  scaledOfCode x.code

/-- Equality of the numbers themselves: the zeros are equal and a NaN equals nothing. -/
def equal (x y : Binary64) : Bool :=
  !x.isNaN && !y.isNaN && (x == y || (x.isZero && y.isZero))

def smallInteger? (x : Binary64) : Option Int :=
  if x.isFinite && x.scaled % unitsPerOne == 0 &&
      decide (x.scaled / unitsPerOne < 2 * binadeSize) then
    let magnitude : Int := (x.scaled / unitsPerOne : Nat)
    some (if x.negative then -magnitude else magnitude)
  else
    none

end Binary64

end Reparse
