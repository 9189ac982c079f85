import Reparse.Binary64.Numeral
import Reparse.Json.Basic

/-!
Numbers of a JSON text.

An integer that fits sixty-four bits is kept as it is.  Every other number is read in floating
point: its leading digits, as many as fit sixty-four bits, are rounded to a double, and that double
is multiplied or divided by a power of ten.
-/

namespace Reparse

namespace JsonNumber

def digitValue (c : Char) : Nat :=
  c.toNat - '0'.toNat

def valueOf (digits : List Char) : Nat :=
  digits.foldl (fun value digit => value * 10 + digitValue digit) 0

/-- Append digits to a value while it stays below the size of a word; the digits left over come
second. -/
def absorb (value : Nat) : List Char → Nat × List Char
  | [] => (value, [])
  | digit :: rest =>
      if value * 10 + digitValue digit < 0x10000000000000000 then
        absorb (value * 10 + digitValue digit) rest
      else
        (value, digit :: rest)

def powerCode (power : Nat) : Nat :=
  Binary64.nearestCode (Nat.pow 10 power) 1

def scaleCode? (code : Nat) (exponent : Int) : Option Nat :=
  if exponent.natAbs ≤ 308 then
    if exponent < 0 then
      some (Binary64.divCode code (powerCode exponent.natAbs))
    else
      let product := Binary64.mulCode code (powerCode exponent.natAbs)
      if product = Binary64.infinityCode then none else some product
  else if code = 0 then
    some 0
  else if exponent < 0 then
    scaleCode? (Binary64.divCode code (powerCode 308)) (exponent + 308)
  else
    none
termination_by exponent.natAbs
decreasing_by omega

def ofParts? (negative : Bool) (significand : Nat) (exponent : Int) : Option JsonNumber :=
  (scaleCode? (Binary64.nearestCode significand 1) exponent).map fun code =>
    .float (.ofCode negative code)

/-- An integer when it fits, a double otherwise; a negative zero is a double. -/
def ofWhole (negative : Bool) (value : Nat) : JsonNumber :=
  if negative then
    if value = 0 ∨ 0x8000000000000000 < value then
      .float (.ofCode true (Binary64.nearestCode value 1))
    else
      .integer (-(value : Int))
  else
    .integer value

def ofNumeral? (negative : Bool) (whole : List Char) (fraction : Option (List Char))
    (exponent : Option Int) : Option JsonNumber :=
  let (significand, dropped) := absorb 0 whole
  match fraction, exponent, dropped with
  | none, none, [] => some (ofWhole negative significand)
  | none, _, _ => ofParts? negative significand (dropped.length + exponent.getD 0)
  | some fraction, _, _ =>
      let (significand, ignored) := absorb significand fraction
      ofParts? negative significand
        (dropped.length - (fraction.length - ignored.length) + exponent.getD 0)

def digits? (text : List Char) : Option (List Char × List Char) :=
  match text.takeWhile Char.isDigit with
  | [] => none
  | digits => some (digits, text.dropWhile Char.isDigit)

/-- The digits before the point, which start with a zero only when it is the only one. -/
def whole? (text : List Char) : Option (List Char × List Char) :=
  match digits? text with
  | some ('0' :: _ :: _, _) => none
  | result => result

def fraction? : List Char → Option (Option (List Char) × List Char)
  | '.' :: text => (digits? text).map fun (digits, rest) => (some digits, rest)
  | text => some (none, text)

def power? : List Char → Option (Int × List Char)
  | '+' :: text => (digits? text).map fun (digits, rest) => ((valueOf digits : Int), rest)
  | '-' :: text => (digits? text).map fun (digits, rest) => (-(valueOf digits : Int), rest)
  | text => (digits? text).map fun (digits, rest) => ((valueOf digits : Int), rest)

def exponent? : List Char → Option (Option Int × List Char)
  | 'e' :: text => (power? text).map fun (power, rest) => (some power, rest)
  | 'E' :: text => (power? text).map fun (power, rest) => (some power, rest)
  | text => some (none, text)

def readUnsigned? (negative : Bool) (text : List Char) : Option (JsonNumber × List Char) := do
  let (whole, text) ← whole? text
  let (fraction, text) ← fraction? text
  let (exponent, text) ← exponent? text
  let number ← ofNumeral? negative whole fraction exponent
  return (number, text)

def read? : List Char → Option (JsonNumber × List Char)
  | '-' :: text => readUnsigned? true text
  | text => readUnsigned? false text

def text : JsonNumber → List Char
  | .integer (.ofNat value) => Nat.toDigits 10 value
  | .integer (.negSucc value) => '-' :: Nat.toDigits 10 (value + 1)
  | .float value => NumeralStyle.json.finiteText value

end JsonNumber

end Reparse
