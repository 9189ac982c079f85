import Reparse.Binary64.Shortest

namespace Reparse

structure NumeralStyle where
  /-- Numbers whose point stands at or before this many places left of the digits take an exponent.
  -/
  lowest : Int
  /-- Numbers whose point stands after more than this many places take an exponent. -/
  highest : Int
  wholeMark : List Char
  plusSign : Bool
  signedZero : Bool
  tie : Tie

namespace NumeralStyle

/-- Script numbers: positional from `10 ^ -6` up to `10 ^ 21`, exponents with a sign. -/
def script : NumeralStyle where
  lowest := -6
  highest := 21
  wholeMark := []
  plusSign := true
  signedZero := false
  tie := .up

/-- JSON floats: positional from `10 ^ -5` up to `10 ^ 16`, whole numbers marked by a fraction,
exponents with a sign. -/
def json : NumeralStyle where
  lowest := -5
  highest := 16
  wholeMark := ['.', '0']
  plusSign := true
  signedZero := true
  tie := .even

def signText (negative : Bool) : List Char :=
  if negative then ['-'] else []

def exponentText (style : NumeralStyle) (exponent : Int) : List Char :=
  'e' :: (if exponent < 0 then ['-'] else if style.plusSign then ['+'] else []) ++
    Nat.toDigits 10 exponent.natAbs

def positiveText (style : NumeralStyle) (decimal : Decimal) : List Char :=
  let digits := Nat.toDigits 10 decimal.digits
  let point : Int := digits.length + decimal.exponent
  if digits.length ≤ point ∧ point ≤ style.highest then
    digits ++ List.replicate decimal.exponent.toNat '0' ++ style.wholeMark
  else if 0 < point ∧ point ≤ style.highest then
    digits.take point.toNat ++ '.' :: digits.drop point.toNat
  else if style.lowest < point ∧ point ≤ 0 then
    '0' :: '.' :: List.replicate (-point).toNat '0' ++ digits
  else
    digits.take 1 ++ (if digits.length = 1 then [] else '.' :: digits.drop 1) ++
      style.exponentText (point - 1)

def finiteText (style : NumeralStyle) (x : Binary64) : List Char :=
  if x.isZero then
    signText (x.negative && style.signedZero) ++ '0' :: style.wholeMark
  else
    signText x.negative ++ style.positiveText (Decimal.shortest style.tie x.code)

end NumeralStyle

namespace Binary64

def scriptText (x : Binary64) : List Char :=
  if x.isNaN then
    ['N', 'a', 'N']
  else if x.isInfinite then
    NumeralStyle.signText x.negative ++ ['I', 'n', 'f', 'i', 'n', 'i', 't', 'y']
  else
    NumeralStyle.script.finiteText x

end Binary64

end Reparse
